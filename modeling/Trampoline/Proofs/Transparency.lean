import Trampoline.Proofs.Determinacy
import Trampoline.Proofs.Flattening

/-!
Hops change nothing.

Two programs that are alike but for some hops are alike without those hops.  Each of them does, with
its nested runs in place, what it does without the hops; and what both do without the hops goes in
step.
-/

namespace Trampoline

variable {Memory : Type}

theorem Query.May.without {chosen : Plan Memory → Context Memory → Bool} {query : Query Memory}
    {reply : Reply Memory} (may : query.May id reply) :
    (query.without chosen).May (Reply.without chosen) (reply.without chosen) := by
  cases may with
  | call may => exact .call may
  | other isCall isOfCode =>
      refine .other ?_ ?_
      · cases query <;> first | rfl | cases isCall
      · unfold Reply.isOfCode at isOfCode
        split at isOfCode <;> first | rfl | cases isOfCode

theorem Exchanges.without {chosen : Plan Memory → Context Memory → Bool}
    {asked? : Option (Query Memory)} {moments : List (Moment Memory)}
    (exchanges : Exchanges (Query.May id) asked? moments) :
    Exchanges (Query.May (Reply.without chosen)) (asked?.map (Query.without chosen))
      (moments.map (Moment.without chosen)) := by
  induction moments generalizing asked? with
  | nil => trivial
  | cons moment moments inductionHypothesis =>
      cases moment with
      | asked query => exact inductionHypothesis exchanges
      | replied reply =>
          obtain ⟨⟨query, asked, may⟩, later⟩ := exchanges
          exact ⟨⟨_, Option.mem_map_of_mem _ asked, may.without⟩, inductionHypothesis later⟩

def Due.without (chosen : Plan Memory → Context Memory → Bool) (due : Due Memory) : Due Memory :=
  { due with plan := due.plan.without chosen }

theorem Registration.due_without (chosen : Plan Memory → Context Memory → Bool)
    (registration : Registration Memory) (token : Token) (completer : Completer) :
    (registration.without chosen).due token completer =
      (registration.due token completer).map (Due.without chosen) := by
  cases registration <;> rfl

namespace Chronicle

variable {chronicle chronicle' : Chronicle Memory} {likeness : Likeness Memory}
  {chosen chosen' : Plan Memory → Context Memory → Bool} {run run' : Nat}

namespace Stems

variable {happenings : List (Happening Memory)} (stems : chronicle.Stems chosen run happenings)
include stems

theorem looked {token : Token} {found : Bool} (member : .looked token found ∈ happenings) :
    ∃ inner, chronicle.Nests run inner ∧ .looked token found ∈ course inner chronicle.history := by
  obtain ⟨inner, origin, nests, recorded, bare⟩ := stems _ member
  cases origin <;> cases bare
  exact ⟨inner, nests, recorded⟩

theorem crossed {number : Nat} {outcome : Outcome Value}
    (member : .crossed number outcome ∈ happenings) :
    ∃ inner epoch, chronicle.Nests run inner ∧ number = Nat.pair inner epoch ∧
      .crossed epoch outcome ∈ course inner chronicle.history := by
  obtain ⟨inner, origin, nests, recorded, bare⟩ := stems _ member
  cases origin <;> cases bare
  exact ⟨inner, _, nests, rfl, recorded⟩

theorem reached {number : Nat} {registration : Registration Memory} {token : Token}
    {saved : Stack (Frame Memory)} (member : .reached number registration token saved ∈ happenings) :
    ∃ inner epoch origin pending, chronicle.Nests run inner ∧ number = Nat.pair inner epoch ∧
      registration = origin.without chosen ∧
        .reached epoch origin token pending ∈ course inner chronicle.history := by
  obtain ⟨inner, origin, nests, recorded, bare⟩ := stems _ member
  cases origin <;> cases bare
  exact ⟨inner, _, _, _, nests, rfl, rfl, recorded⟩

theorem bridged (reachable : chronicle.Reachable) (calm : chronicle.Calm chosen run) :
    Standing.Bridged (fun _ => false) (fun _ => none) chronicle.toldWithout happenings where
  looks token found member := by
    obtain ⟨inner, nests, looked⟩ := stems.looked member
    exact (calm.orderly inner nests).looks token found looked
  settled := by
    intro epoch register token pending outcome result _ _ known
    cases known
  forwarded := by
    intro number registration token saved outcome reached crossed isNested
    obtain ⟨inner, epoch, origin, pending, nests, rfl, rfl, here⟩ := stems.reached reached
    obtain ⟨inner', epoch', _, same, there⟩ := stems.crossed crossed
    obtain ⟨rfl, rfl⟩ := Nat.pair_eq_pair.1 same
    rw [Registration.isNested_without] at isNested
    rw [toldWithout, Nat.unpair_pair]
    exact insideTold_eq_some reachable.holds (calm.orderly inner nests) here there isNested

end Stems

theorem Reachable.le_of_nests (reachable : chronicle.Reachable) {inner : Nat}
    (nests : chronicle.Nests run inner) : run ≤ inner := by
  induction nests with
  | self => exact Nat.le_refl _
  | inner forwards _ inductionHypothesis =>
      obtain ⟨_, _, _, _, _, _, later, _⟩ := reachable.started_of_forward forwards
      exact Nat.le_trans (Nat.le_of_lt later) inductionHypothesis

/-- A transcript without the hops that are left out. -/
def transcriptWithout (chronicle : Chronicle Memory)
    (chosen : Plan Memory → Context Memory → Bool) (run : Nat) : List (Moment Memory) :=
  (chronicle.transcript (Registration.isLeftOut chosen) run).map (Moment.without chosen)

/-- Without hops, a transcript is one of exchanges up to hops in replies. -/
theorem Reachable.exchanges_without (reachable : chronicle.Reachable)
    (chosen : Plan Memory → Context Memory → Bool) (run : Nat) :
    Exchanges (Query.May (Reply.without chosen)) none (chronicle.transcriptWithout chosen run) :=
  (reachable.exchanges (Registration.isLeftOut chosen) run).without

/-- Runs that start alike but for hops are in step but for these. -/
def InStepFrom (likeness : Likeness Memory) (chronicle chronicle' : Chronicle Memory)
    (chosen chosen' : Plan Memory → Context Memory → Bool) (run run' : Nat) : Prop :=
  ∀ plan plan' pending pending' token receiver receiver',
    likeness.Plans (plan.without chosen) (plan'.without chosen') →
    likeness.Stacks pending.toList pending'.toList →
    (course run chronicle.history).head? = some (.started plan pending token receiver) →
    (course run' chronicle'.history).head? = some (.started plan' pending' token receiver') →
    likeness.Consistent (chronicle.transcriptWithout chosen run)
      (chronicle'.transcriptWithout chosen' run') →
    likeness.InStep (chronicle.transcriptWithout chosen run)
      (chronicle'.transcriptWithout chosen' run') (chronicle.told run) (chronicle'.told run')

theorem map_inner (reachable : chronicle.Reachable) {outer epoch : Nat}
    {registration : Registration Memory} {token : Token} {pending : Stack (Frame Memory)}
    (reached : .reached epoch registration token pending ∈ course outer chronicle.history) :
    (chronicle.inner (Registration.isLeftOut chosen) outer epoch).map (Moment.without chosen) =
      (chronicle.innerRun? outer epoch).elim [] (chronicle.transcriptWithout chosen) := by
  rw [inner_eq reachable.holds _ reached]
  cases chronicle.innerRun? outer epoch <;> rfl

theorem Reachable.refusal?_without (reachable : chronicle.Reachable) {outer epoch : Nat}
    {registration : Registration Memory} {token : Token} {saved : Stack (Frame Memory)}
    (reached : .reached epoch registration token saved ∈ course outer chronicle.history)
    (head : Plan Memory) (frames : Stack (Frame Memory))
    (finishes : registration.without chosen = .finishing head frames) :
    chronicle.refusal? outer epoch = none := by
  cases registration with
  | finishing => exact reachable.refusal?_finishing reached
  | calling | hopping => cases finishes

section InStep

variable (reachable : chronicle.Reachable) (reachable' : chronicle'.Reachable)
  (calm : chronicle.Calm chosen run) (calm' : chronicle'.Calm chosen' run')
include reachable reachable'

theorem hops_of_stems {happenings happenings' : List (Happening Memory)}
    (stems : chronicle.Stems chosen run happenings)
    (stems' : chronicle'.Stems chosen' run' happenings')
    (inner : ∀ outer outer' epoch epoch' nested nested',
      chronicle.Nests run outer → chronicle'.Nests run' outer' →
      receiverOf chronicle.pool.host.runs nested = some (.forward ⟨outer, epoch⟩) →
      receiverOf chronicle'.pool.host.runs nested' = some (.forward ⟨outer', epoch'⟩) →
        InStepFrom likeness chronicle chronicle' chosen chosen' nested nested') :
    likeness.Hops (chronicle.insideWithout chosen) (chronicle'.insideWithout chosen')
      chronicle.toldWithout chronicle'.toldWithout happenings happenings' := by
  intro number number' registration registration' token saved saved' reached reached' isNested alike
    inside
  obtain ⟨outer, epoch, origin, pending, nests, rfl, rfl, here⟩ := stems.reached reached
  obtain ⟨outer', epoch', origin', pending', nests', rfl, rfl, here'⟩ := stems'.reached reached'
  simp only [insideWithout, toldWithout, Nat.unpair_pair, map_inner reachable here,
    map_inner reachable' here'] at inside ⊢
  refine inStep_of_hop isNested (reachable.refusal?_without here) (reachable'.refusal?_without here')
    alike inside ?_
  intro nested nested' found found' inside
  obtain ⟨due, asked, later, bound, begun⟩ := started_of_nestedRun? reachable.holds here found
  obtain ⟨due', asked', later', bound', begun'⟩ :=
    started_of_nestedRun? reachable'.holds here' found'
  have known : due.without chosen ∈ (origin.without chosen).due token ⟨outer, epoch⟩ := by
    rw [Registration.due_without]
    exact List.mem_map_of_mem asked
  have known' : due'.without chosen' ∈ (origin'.without chosen').due token ⟨outer', epoch'⟩ := by
    rw [Registration.due_without]
    exact List.mem_map_of_mem asked'
  obtain ⟨sources, frames, same, same'⟩ := alike.due known known'
  rw [show due.token = token from same] at begun
  rw [show due'.token = token from same'] at begun'
  exact inner _ _ _ _ _ _ nests nests' (receiverOf_of_nestedRun? found)
    (receiverOf_of_nestedRun? found') _ _ _ _ _ _ _ sources frames begun begun' inside

end InStep

theorem Calm.leads_of_started (reachable : chronicle.Reachable) (calm : chronicle.Calm chosen run)
    {plan : Plan Memory} {pending : Stack (Frame Memory)} {token : Token} {receiver : Receiver Memory}
    (started : (course run chronicle.history).head? = some (.started plan pending token receiver)) :
    ∃ flat goal,
      Standing.Leads (.iterating (plan.without chosen) pending.toList token) flat goal ∧
      chronicle.Stems chosen run flat ∧
      Trampoline.transcript (fun _ => false) (chronicle.insideWithout chosen) none flat =
        chronicle.transcriptWithout chosen run ∧
      (chronicle.told run = none ∨ chronicle.told run = goal.outcome?) := by
  obtain ⟨happenings, standing, listed, ⟨count, path⟩, _, told⟩ :=
    reachable.holds.tracked.leads_of_started started
  have within : happenings ⊆ course run chronicle.history := by
    rw [listed]
    exact List.subset_cons_self _ _
  obtain ⟨flat, goal, leads, flattens⟩ :=
    calm.flatten reachable count _ none _ _ rfl path within
  refine ⟨flat, goal, leads, flattens.stems, ?_, ?_⟩
  · rw [transcriptWithout, transcript_of_started _ _ listed]
    exact flattens.shows
  · rw [Chronicle.told, told, Option.head?_toList]
    cases ended : standing.outcome? with
    | none => exact .inl rfl
    | some outcome =>
        obtain rfl := Standing.eq_ended ended
        rw [flattens.settled rfl]
        exact .inr rfl

/-- Runs that start alike but for hops, under the same token, are in step but for these. -/
theorem inStep_without (kept : likeness.replaced = fun _ => none) (reachable : chronicle.Reachable)
    (reachable' : chronicle'.Reachable) (calm : chronicle.Calm chosen run)
    (calm' : chronicle'.Calm chosen' run') :
    InStepFrom likeness chronicle chronicle' chosen chosen' run run' := by
  induction left : chronicle.pool.host.runs.size - run using Nat.strongRecOn
    generalizing run run' with
  | ind left inductionHypothesis =>
      intro plan plan' pending pending' token receiver receiver' plans pendings started started'
        consistent
      obtain ⟨flat, goal, ⟨count, path⟩, stems, shows, told⟩ :=
        calm.leads_of_started reachable started
      obtain ⟨flat', goal', ⟨count', path'⟩, stems', shows', told'⟩ :=
        calm'.leads_of_started reachable' started'
      have hops : likeness.Hops (chronicle.insideWithout chosen) (chronicle'.insideWithout chosen')
          chronicle.toldWithout chronicle'.toldWithout flat flat' := by
        refine hops_of_stems reachable reachable' stems stems' ?_
        intro outer outer' epoch epoch' nested nested' nests nests' forwards forwards'
        obtain ⟨_, _, _, _, _, _, later, bound, _⟩ := reachable.started_of_forward forwards
        have further := reachable.le_of_nests nests
        refine inductionHypothesis _ (by omega) ?_ ?_ rfl
        · exact calm.inner (nests.trans (.inner forwards .self))
        · exact calm'.inner (nests'.trans (.inner forwards' .self))
      have bridged := stems.bridged reachable calm
      have stays := Likeness.stayInStep count count' _ _ _ _ _ _ (.iterating plans pendings) path path'
        (kept ▸ bridged) (stems'.bridged reachable' calm') hops
      rw [Likeness.hides_eq_false (congrFun kept), shows, shows'] at stays
      exact (stays consistent).forget told told'

end Chronicle

namespace Standing

variable {standing : Standing Memory} {happenings : List (Happening Memory)} {count epoch : Nat}
  {pending : List (Frame Memory)} {token : Token}

theorem Step.of_suspended (step : Step standing happenings (.suspended epoch pending token)) :
    ∃ registration saved, standing = .iterating (.async registration) pending token ∧
      happenings = [.looked token false, .reached epoch registration token saved] := by
  generalize same : Standing.suspended epoch pending token = next at step
  cases step with
  | reach =>
      cases same
      exact ⟨_, _, rfl, rfl⟩
  | @cross _ _ _ outcome => cases outcome <;> cases same
  | _ => cases same

theorem Path.of_suspended (path : Path count standing happenings (.suspended epoch pending token)) :
    (standing = .suspended epoch pending token ∧ happenings = []) ∨
      ∃ early registration saved,
        happenings = early ++ [.looked token false, .reached epoch registration token saved] ∧
          Leads standing early (.iterating (.async registration) pending token) := by
  generalize same : Standing.suspended epoch pending token = goal at path
  induction path with
  | done => exact .inl ⟨rfl, rfl⟩
  | @step count standing next goal first rest step path inductionHypothesis =>
      right
      rcases inductionHypothesis same with ⟨rfl, rfl⟩ | ⟨early, registration, saved, rfl, leads⟩
      · subst same
        obtain ⟨registration, saved, rfl, rfl⟩ := step.of_suspended
        exact ⟨[], registration, saved, List.append_nil _, .refl⟩
      · exact ⟨first ++ early, registration, saved, (List.append_assoc ..).symm,
          (Leads.one step).trans leads⟩

end Standing

namespace Chronicle

variable {chronicle : Chronicle Memory} {run : Nat}

/-- Every boundary for a nested run has been refused or left to that run: contexts have panicked or
run the tasks that they were given. -/
def RunsTasks (chronicle : Chronicle Memory) (run : Nat) : Prop :=
  ∀ inner epoch registration token pending, chronicle.Nests run inner →
    .reached epoch registration token pending ∈ course inner chronicle.history →
      registration.isNested = true → (chronicle.taking inner epoch).isSome = true

/-- All that a run still waits for, itself or in a nested run, is that a registration has its
boundary completed. -/
def Waits (chronicle : Chronicle Memory) (run : Nat) : Prop :=
  ∃ early register token, chronicle.transcript (fun _ => false) run =
    early ++ [.asked (.reach (.calling register) token)]

/-- A run that can be resumed has come to its last boundary last, and that is not refused. -/
theorem Resumable.transcript_eq (resumable : chronicle.Resumable run)
    (reachable : chronicle.Reachable) {plan : Plan Memory} {pending : Stack (Frame Memory)}
    {token : Token} {receiver : Receiver Memory}
    (started : (course run chronicle.history).head? = some (.started plan pending token receiver)) :
    ∃ early epoch registration current saved,
      chronicle.transcript (fun _ => false) run = early ++
        registration.opening (fun _ => false) (chronicle.inside (fun _ => false) run) epoch current ∧
      .reached epoch registration current saved ∈ course run chronicle.history ∧
      chronicle.awaited? run = nestedRun? chronicle.pool.host.runs ⟨run, epoch⟩ ∧
      chronicle.refusal? run epoch = none := by
  obtain ⟨happenings, standing, listed, leads, single, _⟩ :=
    reachable.holds.tracked.leads_of_started started
  obtain ⟨reach, last, waits⟩ := resumable.waits
  have stands : Standing.suspended reach.epoch reach.pending.toList reach.token ∈
      chronicle.pool.situation.standings run := mem_standings_of_boundary waits rfl
  rw [single] at stands
  obtain rfl := List.mem_singleton.1 stands
  obtain ⟨count, path⟩ := leads
  obtain ⟨untried, _⟩ := (reachable.holds.ledger run).fits _ waits
  rcases path.of_suspended with ⟨absurd, _⟩ | ⟨early, registration, saved, rfl, before⟩
  · cases absurd
  · refine ⟨chronicle.shows run early, reach.epoch, registration, reach.token, saved, ?_, ?_, ?_, ?_⟩
    · rw [transcript_of_started _ _ listed, before.transcript_append rfl rfl, transcript_reached,
        Trampoline.transcript, List.append_nil]
      rfl
    · rw [listed]
      exact .tail _ (List.mem_append_right _ (.tail _ (.head _)))
    · rw [awaited?, last, Option.bind_some]
    · rw [refusal?, completions_eq_nil_iff.2 untried]
      rfl

/-- At rest, where contexts have run their tasks, a run has told its outcome, or it waits. -/
theorem Reachable.told_or_waits (reachable : chronicle.Reachable) (atRest : chronicle.AtRest run)
    (tasks : chronicle.RunsTasks run) {plan : Plan Memory} {pending : Stack (Frame Memory)}
    {token : Token} {receiver : Receiver Memory}
    (started : (course run chronicle.history).head? = some (.started plan pending token receiver)) :
    (∃ outcome, .told outcome ∈ course run chronicle.history) ∨ chronicle.Waits run := by
  refine (reachable.told_or_parked atRest started).imp_right fun parked => ?_
  clear atRest
  induction parked generalizing plan pending token receiver with
  | @outside run resumable alone =>
      obtain ⟨early, epoch, registration, current, saved, shows, reached, awaited, unrefused⟩ :=
        resumable.transcript_eq reachable started
      cases registration with
      | calling register => exact ⟨early, register, current, shows⟩
      | hopping | finishing =>
          have missing := tasks run epoch _ _ _ .self reached rfl
          rw [taking, unrefused, ← awaited, alone] at missing
          cases missing
  | @nested run nested resumable awaited parked inductionHypothesis =>
      obtain ⟨early, epoch, registration, current, saved, shows, reached, same, unrefused⟩ :=
        resumable.transcript_eq reachable started
      have found := same.symm.trans awaited
      have forwards := receiverOf_of_nestedRun? found
      obtain ⟨due, asked, later, bound, begun⟩ :=
        started_of_nestedRun? reachable.holds reached found
      have inner : chronicle.inner (fun _ => false) run epoch =
          chronicle.transcript (fun _ => false) nested := by
        rw [inner_eq reachable.holds _ reached, innerRun?, unrefused, found]
        rfl
      have opens : registration.opening (fun _ => false) (chronicle.inside (fun _ => false) run) epoch
          current = chronicle.hop run registration epoch current ++
            chronicle.transcript (fun _ => false) nested := by
        rw [← inner]
        cases registration with
        | calling => cases asked
        | hopping | finishing => rfl
      obtain ⟨within, register, token, ends⟩ := inductionHypothesis
        (fun inner _ _ _ _ nests => tasks inner _ _ _ _ (.inner forwards nests)) begun
      exact ⟨early ++ (chronicle.hop run registration epoch current ++ within), register, token,
        by rw [shows, opens, ends, List.append_assoc, List.append_assoc]⟩

end Chronicle

/-- Hops change nothing.  Two programs may be alike but for hops, which are left out of both, also
where code answers with them, in favour of their sources.  If no active token is canceled, if nothing
but their nested runs completes the boundaries of hops, and if the sources of the hops that are left
out finish under the token that they start with, then runs of the programs under the same token call
what is alike in the same order, give registrations the same tokens, and tell outcomes that are
alike, if what they ask alike is replied alike: so if functions reply alike whatever they are told.  At
rest, where contexts have run the tasks that they were given, each has told its outcome, or it waits
for a boundary that no hop is for. -/
theorem hops_change_nothing (likeness : Likeness Memory) (kept : likeness.replaced = fun _ => none)
    (chosen chosen' : Plan Memory → Context Memory → Bool) (plan plan' : Plan Memory)
    (plans : likeness.Plans (plan.without chosen) (plan'.without chosen')) (token : Token)
    (chronicle chronicle' : Chronicle Memory) (reachable : chronicle.Reachable)
    (reachable' : chronicle'.Reachable) (run run' : Nat) (receiver receiver' : Receiver Memory)
    (started : (course run chronicle.history).head? = some (.started plan {} token receiver))
    (started' : (course run' chronicle'.history).head? = some (.started plan' {} token receiver'))
    (calm : chronicle.Calm chosen run) (calm' : chronicle'.Calm chosen' run')
    (reliable : likeness.Reliable (Reply.without chosen) (Reply.without chosen')
      (chronicle.transcriptWithout chosen run) (chronicle'.transcriptWithout chosen' run')) :
    let moments := chronicle.transcriptWithout chosen run
    let others := chronicle'.transcriptWithout chosen' run'
    likeness.InStep moments others (chronicle.told run) (chronicle'.told run') ∧
      (∀ outcome other, .told outcome ∈ course run chronicle.history →
        .told other ∈ course run' chronicle'.history →
          List.Forall₂ likeness.Moments moments others ∧ likeness.Outcomes outcome other) ∧
      (chronicle.AtRest run → chronicle.RunsTasks run →
        (∃ outcome, .told outcome ∈ course run chronicle.history) ∨ chronicle.Waits run) ∧
      (chronicle'.AtRest run' → chronicle'.RunsTasks run' →
        (∃ other, .told other ∈ course run' chronicle'.history) ∨ chronicle'.Waits run') := by
  intro moments others
  have consistent := reliable.consistent (reachable.exchanges_without chosen run)
    (reachable'.exchanges_without chosen' run')
  have inStep : likeness.InStep moments others (chronicle.told run) (chronicle'.told run') :=
    Chronicle.inStep_without kept reachable reachable' calm calm' plan plan' {} {} token receiver
      receiver' plans .nil started started' consistent
  refine ⟨inStep, ?_, ?_, ?_⟩
  · intro outcome other told told'
    rw [Chronicle.told_eq_some reachable.holds told,
      Chronicle.told_eq_some reachable'.holds told'] at inStep
    have length := Nat.le_antisymm (inStep.second rfl) (inStep.first rfl)
    exact ⟨inStep.together.forall₂ length, inStep.outcomes _ _ rfl rfl⟩
  · exact fun atRest tasks => reachable.told_or_waits atRest tasks started
  · exact fun atRest tasks => reachable'.told_or_waits atRest tasks started'

section Hopping

/-- A run with a single hop that is left out, whose source asks for no token and comes to no hop. -/
theorem Chronicle.calm_of_pair {chronicle : Chronicle Unit} {plan : Plan Unit}
    {pending : Stack (Frame Unit)} {token : Token} {receive : Outcome Value → Code Unit .unit}
    (receivers : (chronicle.pool.host.runs.map Run.receiver).toList =
      [.code fun _ => Code.unit, .forward ⟨0, 1⟩])
    (makers : chronicle.history.filterMap Record.maker? = [.run])
    (unrefused : chronicle.refusal? 0 1 = none)
    (started : (course 0 chronicle.history).head? = some (.started plan pending token (.code receive)))
    (outer : (course 0 chronicle.history).all (fun happening => match happening with
      | .looked _ found => !found
      | .reached epoch _ _ _ => decide (epoch = 1)
      | _ => true) = true)
    (inner : (course 1 chronicle.history).all (fun happening => happening.isPlain &&
      happening.call?.all fun call => decide (call.form ≠ .token)) = true) :
    chronicle.Calm (fun _ _ => true) 0 where
  orderly := by
    intro nested nests
    rcases nests.eq_of_pair receivers with rfl | rfl
    · refine .of_makers ?_ makers
      intro token found member
      simpa using List.all_eq_true.1 outer _ member
    · refine orderly_of_plain (List.all_eq_true.2 fun happening member => ?_)
      exact (Bool.and_eq_true_iff.1 (List.all_eq_true.1 inner _ member)).1
  unrefused := by
    intro run epoch source context current saved nests _ reached
    rcases nests.eq_of_pair receivers with rfl | rfl
    · obtain rfl : epoch = 1 := by simpa using List.all_eq_true.1 outer _ reached
      exact unrefused
    · have plain := (Bool.and_eq_true_iff.1 (List.all_eq_true.1 inner _ reached)).1
      cases plain
  keepsToken := by
    intro nested run epoch source context current saved happenings rest result other nests _ _ begun
      leads
    rcases nests.eq_of_pair receivers with rfl | rfl
    · rw [begun] at started
      cases started
    · obtain ⟨count, path⟩ := leads
      have asksNone : ∀ call ∈ calls happenings, call.form ≠ .token := by
        intro call asked
        obtain ⟨active, called⟩ := mem_calls_iff.1 asked
        have member : .called call active ∈ course 1 chronicle.history := by
          rw [begun]
          exact .tail _ (List.mem_append_left _ called)
        simpa [Happening.call?] using (Bool.and_eq_true_iff.1 (List.all_eq_true.1 inner _ member)).2
      simpa [Standing.token?] using path.token?_eq rfl asksNone

def Plan.residueHopping : Plan Unit :=
  .map (.continueOn (.suspend thunkResidue) .immediate) answerResidue

def Chronicle.residueHopping : Chronicle Unit :=
  (Pool.opening () Plan.residueHopping.alone).chronicle (List.replicate 30 0)

def innerHopping : List (Happening Unit) :=
  [.looked .uncancelable false, .called (.suspended thunkResidue) .uncancelable,
    .answered (.plan (.async (.calling registerResidue))), .looked .uncancelable false,
    .reached 1 (.calling registerResidue) .uncancelable {}, .crossed 1 (.completed (.datum .null)),
    .looked .uncancelable false, .told (.completed (.datum .null))]

theorem course_residueHopping :
    course 0 Chronicle.residueHopping.history =
      [.started .residueHopping {} .uncancelable (.code fun _ => Code.unit),
        .looked .uncancelable false, .looked .uncancelable false, .looked .uncancelable false,
        .reached 1 (.hopping (.suspend thunkResidue) .immediate) .uncancelable
          { top := some (.map answerResidue) },
        .crossed 1 (.completed (.datum .null)), .looked .uncancelable false,
        .called (.mapping answerResidue (.datum .null)) .uncancelable,
        .answered (.value (.datum (.bool true))), .looked .uncancelable false,
        .told (.completed (.datum (.bool true)))] := by
  cbv

theorem course_residueHopping_inner :
    course 1 Chronicle.residueHopping.history =
      .started (.suspend thunkResidue) {} .uncancelable (.forward ⟨0, 1⟩) :: innerHopping := by
  cbv

theorem host_residueHopping :
    (Chronicle.residueHopping.pool.host.runs.map Run.receiver).toList =
        [.code fun _ => Code.unit, .forward ⟨0, 1⟩] ∧
      Chronicle.residueHopping.history.filterMap Record.maker? = [.run] ∧
      Chronicle.residueHopping.refusal? 0 1 = none ∧
      Chronicle.residueHopping.innerRun? 0 1 = some 1 ∧
      Chronicle.residueHopping.pool.host.runs.size = 2 := by
  refine ⟨?_, ?_, ?_, ?_, ?_⟩ <;> cbv

theorem calm_residueHopping : Chronicle.residueHopping.Calm (fun _ _ => true) 0 := by
  have started : (course 0 Chronicle.residueHopping.history).head? = some
      (.started .residueHopping {} .uncancelable (.code fun _ => Code.unit)) := by
    rw [course_residueHopping]
    rfl
  obtain ⟨receivers, makers, unrefused, _⟩ := host_residueHopping
  refine Chronicle.calm_of_pair receivers makers unrefused started ?_ ?_
  · rw [course_residueHopping]
    rfl
  · rw [course_residueHopping_inner]
    rfl

theorem calm_residueRun : Chronicle.residueRun.Calm (fun _ _ => false) 0 where
  orderly := orderly_residueRun
  unrefused := by simp
  keepsToken := by simp

theorem transcript_residueHopping :
    Chronicle.residueHopping.transcriptWithout (fun _ _ => true) 0 =
      [.asked (.call (.suspended thunkResidue) .uncancelable),
        .replied (.answered (.plan (.async (.calling registerResidue)))),
        .asked (.reach (.calling registerResidue) .uncancelable),
        .replied (.crossed (.completed (.datum .null))),
        .asked (.call (.mapping answerResidue (.datum .null)) .uncancelable),
        .replied (.answered (.value (.datum (.bool true))))] := by
  have inner : Chronicle.residueHopping.inner (Registration.isLeftOut fun _ _ => true) 0 1 =
      Chronicle.residueHopping.transcript (Registration.isLeftOut fun _ _ => true) 1 := by
    obtain ⟨_, _, _, found, size⟩ := host_residueHopping
    rw [Chronicle.inner, found]
    simp [size]
  rw [Chronicle.transcriptWithout, Chronicle.transcript_of_started _ _ course_residueHopping]
  simp only [Trampoline.transcript, Registration.opening,
    Chronicle.inside_of_leftOut _ (fun _ _ => true) rfl, inner,
    Chronicle.transcript_of_started _ _ course_residueHopping_inner]
  rfl

/-- On a context or not, the source does the same, and so does the frame around it. -/
theorem hops_change_nothing_residue :
    likenessResidue.Determined (Reply.without fun _ _ => true) (Reply.without fun _ _ => false) ∧
      .told (.completed (.datum (.bool true))) ∈ course 0 Chronicle.residueHopping.history ∧
      .told (.completed (.datum (.bool true))) ∈ course 0 Chronicle.residueRun.history ∧
      Plan.residueHopping.without (fun _ _ => true) = .residue ∧
      Plan.residue.without (fun _ _ => false) = .residue ∧
      List.Forall₂ likenessResidue.Moments
        (Chronicle.residueHopping.transcriptWithout (fun _ _ => true) 0)
        (Chronicle.residueRun.transcriptWithout (fun _ _ => false) 0) := by
  have told : .told (.completed (.datum (.bool true))) ∈ course 0 Chronicle.residueHopping.history := by
    rw [course_residueHopping]
    simp
  have told' : .told (.completed (.datum (.bool true))) ∈ course 0 Chronicle.residueRun.history := by
    rw [course_residueRun]
    simp [innerResidue]
  have reachable : Chronicle.residueHopping.Reachable := ⟨_, _, _, rfl⟩
  have reachable' : Chronicle.residueRun.Reachable := ⟨_, _, _, rfl⟩
  have determined := determined_residue (fun _ _ => true) fun _ _ => false
  have settled : likenessResidue.Settled
      (Chronicle.residueHopping.transcriptWithout (fun _ _ => true) 0)
      (Chronicle.residueRun.transcriptWithout (fun _ _ => false) 0) := by
    rw [transcript_residueHopping, Chronicle.transcriptWithout,
      Chronicle.transcript_of_started _ _ course_residueRun]
    exact fun _ => ⟨by rintro ⟨⟩, fun _ _ => ⟨fun _ _ => .crossed (.completed .datum), fun _ _ =>
      ⟨by rintro ⟨⟩, fun _ => trivial⟩⟩⟩
  have changesNothing := hops_change_nothing likenessResidue rfl (fun _ _ => true) (fun _ _ => false)
    .residueHopping .residue plans_residue .uncancelable Chronicle.residueHopping
    Chronicle.residueRun reachable reachable' 0 0 (.code fun _ => Code.unit)
    (.code fun _ => Code.unit) (by rw [course_residueHopping]; rfl) (by rw [course_residueRun]; rfl)
    calm_residueHopping calm_residueRun (.inl ⟨determined, settled⟩)
  exact ⟨determined, told, told', rfl, Plan.without_none _, (changesNothing.2.1 _ _ told told').1⟩

end Hopping

section Asking

/-- The change and the thunk on a context, and another change around the hop. -/
def Plan.askingHopping : Plan Unit := .map (.continueOn .askingInstalled .immediate) changeNothing

/-- The same without the hop: two frames are pending when the thunk is called. -/
def Plan.askingTwice : Plan Unit := .map .askingInstalled changeNothing

def Chronicle.askingHopping : Chronicle Unit :=
  (Pool.opening () Plan.askingHopping.alone).chronicle (List.replicate 30 0)

def Chronicle.askingTwice : Chronicle Unit :=
  (Pool.opening () Plan.askingTwice.alone).chronicle (List.replicate 16 0)

theorem course_askingHopping :
    course 0 Chronicle.askingHopping.history =
      [.started .askingHopping {} .uncancelable (.code fun _ => Code.unit),
        .looked .uncancelable false, .looked .uncancelable false, .looked .uncancelable false,
        .reached 1 (.hopping .askingInstalled .immediate) .uncancelable
          { top := some (.map changeNothing) },
        .crossed 1 (.completed (.datum (.bool false))), .looked .uncancelable false,
        .called (.mapping changeNothing (.datum (.bool false))) .uncancelable,
        .answered (.value (.datum (.bool false))), .looked .uncancelable false,
        .told (.completed (.datum (.bool false)))] := by
  cbv

theorem course_askingHopping_inner :
    course 1 Chronicle.askingHopping.history =
      [.started .askingInstalled {} .uncancelable (.forward ⟨0, 1⟩), .looked .uncancelable false,
        .looked .uncancelable false, .called (.delayed askInstalled) .uncancelable,
        .answered (.value (.datum (.bool false))),
        .called (.mapping changeNothing (.datum (.bool false))) .uncancelable,
        .answered (.value (.datum (.bool false))), .looked .uncancelable false,
        .told (.completed (.datum (.bool false)))] := by
  cbv

theorem course_askingTwice :
    course 0 Chronicle.askingTwice.history =
      [.started .askingTwice {} .uncancelable (.code fun _ => Code.unit),
        .looked .uncancelable false, .looked .uncancelable false, .looked .uncancelable false,
        .called (.delayed askInstalled) .uncancelable, .answered (.value (.datum (.bool true))),
        .called (.mapping changeNothing (.datum (.bool true))) .uncancelable,
        .answered (.value (.datum (.bool true))), .looked .uncancelable false,
        .called (.mapping changeNothing (.datum (.bool true))) .uncancelable,
        .answered (.value (.datum (.bool true))), .looked .uncancelable false,
        .told (.completed (.datum (.bool true)))] := by
  cbv

theorem host_askingHopping :
    (Chronicle.askingHopping.pool.host.runs.map Run.receiver).toList =
        [.code fun _ => Code.unit, .forward ⟨0, 1⟩] ∧
      Chronicle.askingHopping.history.filterMap Record.maker? = [.run] ∧
      Chronicle.askingHopping.refusal? 0 1 = none := by
  refine ⟨?_, ?_, ?_⟩ <;> cbv

theorem alone_askingTwice :
    (Chronicle.askingTwice.pool.host.runs.all fun entry => !entry.receiver.isForward) = true := by
  cbv

theorem calm_askingHopping : Chronicle.askingHopping.Calm (fun _ _ => true) 0 := by
  have started : (course 0 Chronicle.askingHopping.history).head? = some
      (.started .askingHopping {} .uncancelable (.code fun _ => Code.unit)) := by
    rw [course_askingHopping]
    rfl
  obtain ⟨receivers, makers, unrefused⟩ := host_askingHopping
  refine Chronicle.calm_of_pair receivers makers unrefused started ?_ ?_
  · rw [course_askingHopping]
    rfl
  · rw [course_askingHopping_inner]
    rfl

theorem calm_askingTwice : Chronicle.askingTwice.Calm (fun _ _ => false) 0 where
  orderly := Chronicle.orderly_of_alone alone_askingTwice course_askingTwice rfl
  unrefused := by simp
  keepsToken := by simp

/-- A hop shows to a thunk that asks whether settings are fixed: with it the frames are pending one on
each of two stacks, which reads no settings, and without it both are on one. -/
theorem hop_shows_in_settings :
    Chronicle.askingHopping.Reachable ∧ Chronicle.askingTwice.Reachable ∧
      Plan.askingHopping.without (fun _ _ => true) = .askingTwice ∧
      (course 0 Chronicle.askingHopping.history).head? =
        some (.started .askingHopping {} .uncancelable (.code fun _ => Code.unit)) ∧
      (course 0 Chronicle.askingTwice.history).head? =
        some (.started .askingTwice {} .uncancelable (.code fun _ => Code.unit)) ∧
      Chronicle.askingHopping.Calm (fun _ _ => true) 0 ∧
      Chronicle.askingTwice.Calm (fun _ _ => false) 0 ∧
      .told (.completed (.datum (.bool false))) ∈ course 0 Chronicle.askingHopping.history ∧
      .told (.completed (.datum (.bool true))) ∈ course 0 Chronicle.askingTwice.history := by
  refine ⟨⟨_, _, _, rfl⟩, ⟨_, _, _, rfl⟩, rfl, ?_, ?_, calm_askingHopping, calm_askingTwice, ?_⟩
  · rw [course_askingHopping]
    rfl
  · rw [course_askingTwice]
    rfl
  · rw [course_askingHopping, course_askingTwice]
    simp

end Asking

end Trampoline
