import Mathlib
import Trampoline.Proofs.Agreement
import Trampoline.Proofs.Determinacy
import Trampoline.Proofs.Handover
import Trampoline.Proofs.Renaming

/-!
Runs that share nothing do not interfere.

Two chronicles are compared, in which a run is started alike: other runs may come between its moves
in the one, on the same threads and inside its registrations and continuations, and be missing in
the other.  If the functions of the run reply alike whatever their code is told, and the first
completion of each of its boundaries is the same, all that happens to it is the same.  Tokens may have
other names, and panics other numbers.  The induction is on how many runs started later: what completes
the boundary for a nested run is what that run tells.
-/

namespace Trampoline

variable {Memory : Type}

namespace Happening

variable {naming : Token → Token}

@[simp]
theorem epoch?_rename (happening : Happening Memory) :
    (happening.rename naming).epoch? = happening.epoch? := by
  cases happening <;> rfl

@[simp]
theorem isGiven_rename (happening : Happening Memory) :
    (happening.rename naming).isGiven = happening.isGiven := by
  cases happening <;> rfl

@[simp]
theorem isOfOthers_rename (happening : Happening Memory) :
    (happening.rename naming).isOfOthers = happening.isOfOthers := by
  cases happening <;> rfl

theorem called_of_alike {likeness : Likeness Memory} {call : Call Memory} {token : Token}
    {happening : Happening Memory}
    (alike : likeness.Happenings (.called call token) (happening.rename naming)) :
    ∃ call' token', happening = .called call' token' ∧ likeness.Calls call (call'.rename naming) := by
  generalize shown : happening.rename naming = other at alike
  cases alike with
  | called calls =>
      cases happening <;> cases shown
      exact ⟨_, _, rfl, calls⟩

theorem RepliesTo.exists_call {last? : Option (Happening Memory)} {happening : Happening Memory}
    (replies : happening.RepliesTo last?) (given : happening.isGiven = true)
    (inner : happening.isOfOthers = false) :
    ∃ call token, last? = some (.called call token) := by
  cases happening with
  | answered | panicked =>
      obtain ⟨call, token, last, _⟩ := replies
      exact ⟨call, token, last⟩
  | looked | recalled => cases inner
  | _ => cases given

theorem of_rename_told {happening : Happening Memory} {outcome : Outcome Value}
    (same : happening.rename naming = .told outcome) : happening = .told outcome := by
  cases happening <;> first | exact same | cases same

theorem of_rename_crossed {happening : Happening Memory} {epoch : Nat} {outcome : Outcome Value}
    (same : happening.rename naming = .crossed epoch outcome) :
    happening = .crossed epoch outcome := by
  cases happening <;> first | exact same | cases same

theorem of_epoch? {happening : Happening Memory} {epoch : Nat}
    (reached : happening.epoch? = some epoch) :
    ∃ registration token pending, happening = .reached epoch registration token pending := by
  cases happening <;> cases reached
  exact ⟨_, _, _, rfl⟩

theorem reached_of_alike {likeness : Likeness Memory} {happening original : Happening Memory}
    {epoch : Nat} (alike : likeness.Happenings happening (original.rename naming))
    (numbered : happening.epoch? = some epoch ∨ original.epoch? = some epoch) :
    ∃ registration registration' token pending pending',
      happening = .reached epoch registration (naming token) pending ∧
        original = .reached epoch registration' token pending' ∧
          likeness.Plans (.async registration) (.async (registration'.rename naming)) := by
  have same : happening.epoch? = original.epoch? :=
    alike.epoch?_eq.trans original.epoch?_rename
  obtain ⟨registration', token, pending', rfl⟩ :=
    of_epoch? (numbered.elim (fun first => same.symm.trans first) id)
  cases alike with
  | reached plans => exact ⟨_, _, _, _, _, rfl, rfl, plans⟩

end Happening

namespace Standing

variable {naming : Token → Token} (standing : Standing Memory)

@[simp]
theorem isStill_rename : (standing.rename naming).isStill = standing.isStill := by
  cases standing <;> rfl

@[simp]
theorem awaited?_rename : (standing.rename naming).awaited? = standing.awaited? := by
  cases standing <;> rfl

end Standing

def Reply.rename (naming : Token → Token) : Reply Memory → Reply Memory
  | .answered answer => .answered (answer.rename naming)
  | .recalled plan => .recalled (plan.rename naming)
  | reply => reply

theorem Happening.reply?_rename {naming : Token → Token} (happening : Happening Memory) :
    (happening.rename naming).reply? = happening.reply?.map (Reply.rename naming) := by
  cases happening <;> rfl

namespace Likeness

variable (likeness : Likeness Memory) (naming : Token → Token)

/-- Functions that may stand for each other reply alike to arguments that are, whatever their code is
told: alike up to the names of tokens. -/
def DeterminedUpTo : Prop :=
  ∀ call call' : Call Memory, likeness.Calls call (call'.rename naming) → ∀ reply reply',
    call.May reply → call'.May reply' → likeness.Replies reply (reply'.rename naming)

/-- What runs are given is given alike: because functions are determined and what others give is
alike, or as it happens. -/
def ReliableUpTo (happenings others : List (Happening Memory)) : Prop :=
  (likeness.DeterminedUpTo naming ∧ likeness.GivenAlike Happening.isOfOthers happenings others) ∨
    likeness.GivenAlike Happening.isGiven happenings others

variable {likeness naming}

theorem Replies.given {reply reply' : Reply Memory} {happening other : Happening Memory}
    (replies : likeness.Replies reply reply') (shown : happening.reply? = some reply)
    (shown' : other.reply? = some reply') (given : happening.isGiven = true) :
    likeness.Given happening other := by
  cases replies with
  | answered answers =>
      cases happening <;> cases shown
      cases other <;> cases shown'
      exact .answered answers
  | panicked panics =>
      cases happening <;> cases shown
      cases other <;> cases shown'
      exact .panicked panics
  | crossed =>
      cases happening <;> cases shown
      cases given
  | recalled plans =>
      cases happening <;> cases shown
      cases other <;> cases shown'
      exact .recalled plans

/-- Where functions are determined, it is only others who have to give alike. -/
theorem DeterminedUpTo.givenAlike (determined : likeness.DeterminedUpTo naming)
    {last? last'? : Option (Happening Memory)}
    {happenings others : List (Happening Memory)}
    (served : Linked Happening.Serves last? happenings)
    (replying : Linked Happening.RepliesTo last? happenings)
    (served' : Linked Happening.Serves last'? others)
    (replying' : Linked Happening.RepliesTo last'? others)
    (alike : Option.Rel (fun last last' => likeness.Happenings last (last'.rename naming)) last?
      last'?)
    (settled : likeness.GivenAlike Happening.isOfOthers happenings
      (others.map (Happening.rename naming))) :
    likeness.GivenAlike Happening.isGiven happenings (others.map (Happening.rename naming)) := by
  induction happenings generalizing others last? last'? with
  | nil => simp [GivenAlike]
  | cons happening happenings inductionHypothesis =>
      cases others with
      | nil => simp [GivenAlike]
      | cons other others =>
          refine ⟨fun given given' => ?_, fun here => inductionHypothesis served.2 replying.2
            served'.2 replying'.2 (.some here) (settled.2 here)⟩
          -- What is no reply is given by others; what replies is after a call, and so is the other.
          by_cases both : happening.isOfOthers = true ∧ other.isOfOthers = true
          · exact settled.1 both.1 (other.isOfOthers_rename.trans both.2)
          · obtain ⟨call, token, call', token', rfl, rfl, calls⟩ :
                ∃ call token call' token', last? = some (.called call token) ∧
                  last'? = some (.called call' token') ∧
                    likeness.Calls call (call'.rename naming) := by
              rw [not_and_or, Bool.not_eq_true, Bool.not_eq_true] at both
              rcases both with inner | inner
              · obtain ⟨call, token, rfl⟩ := replying.1.exists_call given inner
                cases alike with
                | some alike =>
                    obtain ⟨call', token', rfl, calls⟩ := Happening.called_of_alike alike
                    exact ⟨_, _, _, _, rfl, rfl, calls⟩
              · obtain ⟨call', token', rfl⟩ :=
                  replying'.1.exists_call (other.isGiven_rename.symm.trans given') inner
                cases alike with
                | some alike =>
                    cases alike with
                    | called calls => exact ⟨_, _, _, _, rfl, rfl, calls⟩
            obtain ⟨reply, shown, may⟩ := served.1 _ _ rfl
            obtain ⟨reply', shown', may'⟩ := served'.1 _ _ rfl
            refine (determined _ _ calls _ _ may may').given shown ?_ given
            rw [other.reply?_rename, shown', Option.map_some]

end Likeness

namespace Chronicle

def renamed (chronicle : Chronicle Memory) (naming : Token → Token) (run : Nat) :
    List (Happening Memory) :=
  (course run chronicle.history).map (Happening.rename naming)

/-- A run of one chronicle and one of another, and those nested in them for boundaries with the same
number. -/
inductive Paired (chronicle chronicle' : Chronicle Memory) : Nat → Nat → Nat → Nat → Prop where
  | self {run run'} : Paired chronicle chronicle' run run' run run'
  | inner {run run' nested nested' other other' epoch} :
      receiverOf chronicle.pool.host.runs nested = some (.forward ⟨run, epoch⟩) →
      receiverOf chronicle'.pool.host.runs nested' = some (.forward ⟨run', epoch⟩) →
      Paired chronicle chronicle' nested nested' other other' →
      Paired chronicle chronicle' run run' other other'

/-- Runs that are nested for boundaries of two runs with the same number keep to each other, once they
have begun so. -/
def NestedKeep (chronicle chronicle' : Chronicle Memory) (begun keep : Nat → Nat → Prop)
    (run run' : Nat) : Prop :=
  ∀ nested nested' epoch,
    receiverOf chronicle.pool.host.runs nested = some (.forward ⟨run, epoch⟩) →
      receiverOf chronicle'.pool.host.runs nested' = some (.forward ⟨run', epoch⟩) →
        run < nested → nested < chronicle.pool.host.runs.size → begun nested nested' →
          keep nested nested'

/-- If two runs keep to each other where those nested in them do, and nested runs begin alike where
the outer ones keep to each other, then all that are paired do. -/
theorem Paired.keep {chronicle chronicle' : Chronicle Memory} {begun given keep : Nat → Nat → Prop}
    (outward : ∀ run run', begun run run' → given run run' →
      NestedKeep chronicle chronicle' begun keep run run' → keep run run')
    (inward : ∀ run run' nested nested' epoch, keep run run' →
      receiverOf chronicle.pool.host.runs nested = some (.forward ⟨run, epoch⟩) →
        receiverOf chronicle'.pool.host.runs nested' = some (.forward ⟨run', epoch⟩) →
          begun nested nested')
    {run run' inner inner' : Nat} (paired : Paired chronicle chronicle' run run' inner inner')
    (start : begun run run')
    (all : ∀ inner inner', Paired chronicle chronicle' run run' inner inner' → given inner inner') :
    keep inner inner' := by
  -- Nested runs are later ones, and there are only so many.
  have outermost {run run' : Nat} (start : begun run run') (all : ∀ inner inner',
      Paired chronicle chronicle' run run' inner inner' → given inner inner') : keep run run' := by
    induction left : chronicle.pool.host.runs.size - run using Nat.strongRecOn
      generalizing run run' with
    | ind left inductionHypothesis =>
        refine outward run run' start (all _ _ .self) ?_
        intro nested nested' epoch forwards forwards' later bound begins
        refine inductionHypothesis _ ?_ begins ?_ rfl
        · omega
        · exact fun _ _ paired => all _ _ (.inner forwards forwards' paired)
  induction paired with
  | self => exact outermost start all
  | inner forwards forwards' _ inductionHypothesis =>
      refine inductionHypothesis (inward _ _ _ _ _ (outermost start all) forwards forwards') ?_
      exact fun _ _ paired => all _ _ (.inner forwards forwards' paired)

section

variable (chronicle chronicle' : Chronicle Memory) (likeness : Likeness Memory)
  (naming : Token → Token) (run run' : Nat)

/-- What two runs get from elsewhere is alike, as long as all that has happened is: what functions
reply, which tokens are canceled, and what their boundaries complete with. -/
structure Accords : Prop where
  given : likeness.ReliableUpTo naming (course run chronicle.history)
    (chronicle'.renamed naming run')
  /-- What nested runs complete boundaries with is not asked for. -/
  completed : ∀ epoch outcome outcome' maker maker',
    (completions epoch (recordsOf run chronicle.history)).head? = some (outcome, maker) →
    (completions epoch (recordsOf run' chronicle'.history)).head? = some (outcome', maker') →
      (maker = .run ∧ maker' = .run) ∨ likeness.Outcomes outcome outcome'

def StartAlike : Prop :=
  ∃ plan plan' pending pending' token receiver receiver',
    (course run chronicle.history).head? =
        some (.started plan pending (naming token) receiver) ∧
      (course run' chronicle'.history).head? = some (.started plan' pending' token receiver') ∧
        likeness.Plans plan (plan'.rename naming) ∧
          likeness.Stacks pending.toList (pending'.rename naming).toList

def KeepPace : Prop :=
  ∃ standing standing', chronicle.pool.situation.standings run = [standing] ∧
    chronicle'.pool.situation.standings run' = [standing'] ∧
      tellings run chronicle.history = standing.outcome?.toList ∧
        tellings run' chronicle'.history = standing'.outcome?.toList ∧
          likeness.InPace (course run chronicle.history) (chronicle'.renamed naming run')
            (course run chronicle.history) standing (chronicle'.renamed naming run')
            (standing'.rename naming)

end

variable {chronicle chronicle' : Chronicle Memory} {likeness : Likeness Memory}
  {naming : Token → Token} {run run' : Nat}

theorem Paired.eq_of_alone {inner inner' : Nat}
    (alone : (chronicle.pool.host.runs.all fun entry => !entry.receiver.isForward) = true)
    (paired : Paired chronicle chronicle' run run' inner inner') : inner = run ∧ inner' = run' := by
  cases paired with
  | self => exact ⟨rfl, rfl⟩
  | inner forwards => exact absurd forwards (receiverOf_ne_forward alone)

theorem numbered_renamed (reachable : chronicle.Reachable) (naming : Token → Token) (run : Nat) :
    Numbered 0 (chronicle.renamed naming run) := by
  obtain ⟨count, listed⟩ := reachable.numbered run
  refine ⟨count, Eq.trans ?_ listed⟩
  rw [renamed, List.filterMap_map]
  exact List.filterMap_congr fun happening _ => happening.epoch?_rename

theorem mem_renamed_told {outcome : Outcome Value}
    (member : .told outcome ∈ chronicle.renamed naming run) :
    .told outcome ∈ course run chronicle.history := by
  obtain ⟨happening, here, same⟩ := List.mem_map.1 member
  rwa [Happening.of_rename_told same] at here

theorem mem_renamed_crossed {epoch : Nat} {outcome : Outcome Value}
    (member : .crossed epoch outcome ∈ chronicle.renamed naming run) :
    .crossed epoch outcome ∈ course run chronicle.history := by
  obtain ⟨happening, here, same⟩ := List.mem_map.1 member
  rwa [Happening.of_rename_crossed same] at here

theorem KeepPace.outcomes (pace : chronicle.KeepPace chronicle' likeness naming run run')
    (reachable : chronicle.Reachable) (reachable' : chronicle'.Reachable)
    {outcome outcome' : Outcome Value} (told : .told outcome ∈ course run chronicle.history)
    (told' : .told outcome' ∈ course run' chronicle'.history) :
    likeness.Outcomes outcome outcome' := by
  obtain ⟨_, _, _, _, _, _, pace⟩ := pace
  rcases pace.partner told (List.mem_map_of_mem told') with
    ⟨partner, member, alike⟩ | ⟨partner, member, alike⟩
  · cases alike with
    | told outcomes =>
        have once := (told_eq_some reachable'.holds told').symm.trans
          (told_eq_some reachable'.holds (mem_renamed_told member))
        cases once
        exact outcomes
  · generalize shown : (Happening.told outcome' : Happening Memory).rename naming = other at alike
    cases alike with
    | told outcomes =>
        have once := (told_eq_some reachable.holds told).symm.trans
          (told_eq_some reachable.holds member)
        cases once
        cases shown
        exact outcomes
    | _ => cases shown

theorem due_rename {registration : Registration Memory} {token : Token} {completer : Completer}
    {due : Due Memory} (asked : due ∈ registration.due token completer) :
    ⟨due.plan.rename naming, due.pending.rename naming, naming due.token, due.completer⟩ ∈
      (registration.rename naming).due (naming token) completer := by
  cases registration with
  | calling => cases asked
  | hopping source context =>
      cases List.mem_singleton.1 asked
      simp [Registration.rename, Registration.due, Stack.rename]
  | finishing head pending =>
      cases List.mem_singleton.1 asked
      exact .head _

/-- Nested runs for a boundary that two runs reach alike are started alike, and later. -/
theorem startAlike_of_reached (reachable : chronicle.Reachable) (reachable' : chronicle'.Reachable)
    {nested nested' epoch : Nat} {registration registration' : Registration Memory} {token : Token}
    {pending pending' : Stack (Frame Memory)}
    (reached : .reached epoch registration (naming token) pending ∈ course run chronicle.history)
    (reached' : .reached epoch registration' token pending' ∈ course run' chronicle'.history)
    (alike : likeness.Plans (.async registration) (.async (registration'.rename naming)))
    (forwards : receiverOf chronicle.pool.host.runs nested = some (.forward ⟨run, epoch⟩))
    (forwards' : receiverOf chronicle'.pool.host.runs nested' = some (.forward ⟨run', epoch⟩)) :
    chronicle.StartAlike chronicle' likeness naming nested nested' ∧ run < nested ∧
      nested < chronicle.pool.host.runs.size := by
  have found := nestedRun?_of_receiverOf (fun _ _ => reachable.holds.kept.unique _ _ _) forwards
  have found' := nestedRun?_of_receiverOf (fun _ _ => reachable'.holds.kept.unique _ _ _) forwards'
  obtain ⟨due, asked, later, bound, begun⟩ := started_of_nestedRun? reachable.holds reached found
  obtain ⟨due', asked', _, _, begun'⟩ := started_of_nestedRun? reachable'.holds reached' found'
  obtain ⟨plans, pendings, same, same'⟩ := alike.due asked (due_rename asked')
  rw [same, ← same'] at begun
  exact ⟨⟨_, _, _, _, _, _, _, begun, begun', plans, pendings⟩, later, bound⟩

theorem reached_of_forwards (reachable : chronicle.Reachable) {nested epoch : Nat}
    (forwards : receiverOf chronicle.pool.host.runs nested = some (.forward ⟨run, epoch⟩)) :
    ∃ registration token pending,
      .reached epoch registration token pending ∈ course run chronicle.history := by
  obtain ⟨due, same, registration, token, pending, reached, _⟩ :=
    reachable.holds.kept.asked_of_receiver reachable.holds.tracked forwards
  rw [same] at reached
  exact ⟨registration, token, pending, reached⟩

theorem KeepPace.startAlike (pace : chronicle.KeepPace chronicle' likeness naming run run')
    (reachable : chronicle.Reachable) (reachable' : chronicle'.Reachable)
    {nested nested' epoch : Nat}
    (forwards : receiverOf chronicle.pool.host.runs nested = some (.forward ⟨run, epoch⟩))
    (forwards' : receiverOf chronicle'.pool.host.runs nested' = some (.forward ⟨run', epoch⟩)) :
    chronicle.StartAlike chronicle' likeness naming nested nested' := by
  obtain ⟨_, _, _, _, _, _, pace⟩ := pace
  obtain ⟨_, _, _, reached⟩ := reached_of_forwards reachable forwards
  obtain ⟨_, _, _, reached'⟩ := reached_of_forwards reachable' forwards'
  rcases pace.partner reached (List.mem_map_of_mem reached') with
    ⟨partner, member, alike⟩ | ⟨partner, member, alike⟩
  · obtain ⟨original, here, rfl⟩ := List.mem_map.1 member
    obtain ⟨_, _, _, _, _, same, rfl, plans⟩ := Happening.reached_of_alike alike (.inl rfl)
    rw [same] at reached
    exact (startAlike_of_reached reachable reachable' reached here plans forwards forwards').1
  · obtain ⟨_, _, _, _, _, rfl, same, plans⟩ := Happening.reached_of_alike alike (.inr rfl)
    rw [same] at reached'
    exact (startAlike_of_reached reachable reachable' member reached' plans forwards forwards').1

theorem Accords.givenAlike (accords : chronicle.Accords chronicle' likeness naming run run')
    (reachable : chronicle.Reachable) (reachable' : chronicle'.Reachable) :
    likeness.GivenAlike Happening.isGiven (course run chronicle.history)
      (chronicle'.renamed naming run') := by
  rcases accords.given with ⟨determined, settled⟩ | given
  · exact determined.givenAlike (reachable.served run) (reachable.replying run)
      (reachable'.served run') (reachable'.replying run') .none settled
  · exact given

section Pairs

variable (kept : ∀ register, likeness.replaced register = none)
  (injective : Function.Injective naming) (reachable : chronicle.Reachable)
  (reachable' : chronicle'.Reachable)

include kept injective reachable reachable'

/-- Runs that are started alike keep pace if their boundaries complete alike. -/
theorem StartAlike.keepPace (start : chronicle.StartAlike chronicle' likeness naming run run')
    (accords : chronicle.Accords chronicle' likeness naming run run')
    (settles : likeness.Settles (course run chronicle.history) (chronicle'.renamed naming run')) :
    chronicle.KeepPace chronicle' likeness naming run run' := by
  obtain ⟨plan, plan', pending, pending', token, receiver, receiver', started, started', plans,
    pendings⟩ := start
  obtain ⟨happenings, standing, listed, ⟨count, path⟩, single, told⟩ :=
    reachable.holds.tracked.leads_of_started started
  obtain ⟨happenings', standing', listed', ⟨count', path'⟩, single', told'⟩ :=
    reachable'.holds.tracked.leads_of_started started'
  refine ⟨standing, standing', single, single', told, told', ?_⟩
  have alike : likeness.Happenings (.started plan pending (naming token) receiver)
      (.started (plan'.rename naming) (pending'.rename naming) (naming token) receiver') :=
    .started plans pendings
  have shown : chronicle'.renamed naming run' =
      .started (plan'.rename naming) (pending'.rename naming) (naming token) receiver' ::
        happenings'.map (Happening.rename naming) := by
    rw [renamed, listed', List.map_cons, Happening.rename]
  have numbered := reachable.numbered run
  have numbered' := numbered_renamed reachable' naming run'
  have given := accords.givenAlike reachable reachable'
  rw [listed] at numbered given settles ⊢
  rw [shown] at numbered' given settles ⊢
  rw [Stack.toList_rename] at pendings
  have standings : likeness.Standings (.iterating plan pending.toList (naming token))
      (Standing.rename naming (.iterating plan' pending'.toList token)) :=
    .iterating plans pendings
  -- The start of a run is no boundary.
  have numbered : Numbered 0 happenings := numbered
  have numbered' : Numbered 0 (happenings'.map (Happening.rename naming)) := numbered'
  exact .append (.cons alike .nil) (Likeness.Places.inPace kept settles (.running standings) path
    (path'.rename injective) (given.2 alike) (List.subset_cons_self _ _)
    (List.subset_cons_self _ _) numbered numbered')

omit kept injective in
/-- Boundaries of two runs complete alike if the runs that are nested in them keep pace. -/
theorem settles_of_nested (accords : chronicle.Accords chronicle' likeness naming run run')
    (inner : NestedKeep chronicle chronicle' (chronicle.StartAlike chronicle' likeness naming)
      (chronicle.KeepPace chronicle' likeness naming) run run') :
    likeness.Settles (course run chronicle.history) (chronicle'.renamed naming run') := by
  intro epoch happening other outcome outcome' reached reached' numbered alike crossed crossed'
  have crossed' := mem_renamed_crossed crossed'
  obtain ⟨maker, first, thread, tried⟩ := reachable.holds.ledger.completed_of_crossed crossed
  obtain ⟨maker', first', thread', tried'⟩ := reachable'.holds.ledger.completed_of_crossed crossed'
  rcases accords.completed _ _ _ _ _ first first' with ⟨rfl, rfl⟩ | outcomes
  -- The outcomes have been told by runs that were started alike, since the boundaries were.
  · obtain ⟨nested, forwards, told⟩ := reachable.holds.kept.attempted _ _ _ ⟨thread, tried⟩
    obtain ⟨nested', forwards', told'⟩ := reachable'.holds.kept.attempted _ _ _ ⟨thread', tried'⟩
    obtain ⟨original, member, rfl⟩ := List.mem_map.1 reached'
    obtain ⟨registration, registration', token, pending, pending', rfl, rfl, plans⟩ :=
      Happening.reached_of_alike alike (.inl numbered)
    obtain ⟨start, later, bound⟩ :=
      startAlike_of_reached reachable reachable' reached member plans forwards forwards'
    have pace := inner _ _ _ forwards forwards' later bound start
    exact pace.outcomes reachable reachable' told told'
  · exact outcomes

/-- All runs that are nested in two runs for boundaries with the same number keep pace. -/
theorem Paired.keepPace {inner inner' : Nat}
    (paired : Paired chronicle chronicle' run run' inner inner')
    (start : chronicle.StartAlike chronicle' likeness naming run run')
    (accords : ∀ inner inner', Paired chronicle chronicle' run run' inner inner' →
      chronicle.Accords chronicle' likeness naming inner inner') :
    chronicle.KeepPace chronicle' likeness naming inner inner' := by
  refine paired.keep ?_ ?_ start accords
  · intro run run' start accords inner
    exact start.keepPace kept injective reachable reachable' accords
      (settles_of_nested reachable reachable' accords inner)
  · intro run run' nested nested' epoch pace forwards forwards'
    exact pace.startAlike reachable reachable' forwards forwards'

end Pairs

/-- A run that rests has ended, or it is at a boundary that nobody has tried to complete. -/
theorem Reachable.still_of_rests (reachable : chronicle.Reachable)
    (rests : chronicle.pool.rests run = true) {standing : Standing Memory}
    (single : chronicle.pool.situation.standings run = [standing])
    (told : tellings run chronicle.history = standing.outcome?.toList) :
    standing.isStill = true ∧ ∀ epoch, standing.awaited? = some epoch →
      completions epoch (recordsOf run chronicle.history) = [] := by
  have holds := reachable.holds
  obtain ⟨entry, found⟩ := holds.tracked.entry_of_singleton single
  rcases delivered_or_resumable holds.tracked holds.ledger rests found with delivered | resumable
  · have once := delivered.once
    rw [told] at once
    cases ended : standing.outcome? with
    | none => simp [ended] at once
    | some outcome =>
        obtain rfl := Standing.eq_ended ended
        exact ⟨rfl, fun epoch awaited => by cases awaited⟩
  · obtain ⟨reach, waits, rfl⟩ := resumable.stands single
    refine ⟨rfl, fun epoch awaited => completions_eq_nil_iff.2 ?_⟩
    cases awaited
    exact ((holds.ledger run).fits _ waits).1

/-- Runs that keep pace agree; and if they rest, their boundaries having been completed or not
alike, the same has happened to both. -/
theorem KeepPace.agree (pace : chronicle.KeepPace chronicle' likeness naming run run')
    (reachable : chronicle.Reachable) (reachable' : chronicle'.Reachable) :
    likeness.Agree (course run chronicle.history) (chronicle'.renamed naming run') ∧
      (chronicle.pool.rests run = true → chronicle'.pool.rests run' = true →
        (∀ epoch, completions epoch (recordsOf run chronicle.history) = [] ↔
          completions epoch (recordsOf run' chronicle'.history) = []) →
        List.Forall₂ likeness.Happenings (course run chronicle.history)
          (chronicle'.renamed naming run')) := by
  obtain ⟨standing, standing', single, single', told, told', pace⟩ := pace
  refine ⟨⟨pace.within_or_covers, ?_, ?_⟩, ?_⟩
  · intro outcome member
    have listed := mem_tellings_iff.2 member
    rw [told, Option.mem_toList] at listed
    exact pace.covers (Standing.eq_ended listed)
  · intro outcome member
    have listed := mem_tellings_iff.2 (mem_renamed_told member)
    rw [told', Option.mem_toList] at listed
    obtain rfl := Standing.eq_ended listed
    exact pace.within rfl
  · intro rests rests' completed
    obtain ⟨still, untried⟩ := reachable.still_of_rests rests single told
    obtain ⟨still', untried'⟩ := reachable'.still_of_rests rests' single' told'
    rcases pace.forall₂_or_crossed still (standing'.isStill_rename.trans still') with
      same | ⟨epoch, outcome, ⟨awaited, crossed⟩ | ⟨awaited, crossed⟩⟩
    · exact same
    · obtain ⟨_, tried, _⟩ :=
        reachable'.holds.ledger.completed_of_crossed (mem_renamed_crossed crossed)
      rw [(completed epoch).1 (untried epoch awaited)] at tried
      cases tried
    · obtain ⟨_, tried, _⟩ := reachable.holds.ledger.completed_of_crossed crossed
      rw [standing'.awaited?_rename] at awaited
      rw [(completed epoch).2 (untried' epoch awaited)] at tried
      cases tried

end Chronicle

/-- Whatever other runs do between its moves, and on whichever threads, a run calls the same code
with the same arguments in the same order, reaches boundaries with the same numbers and tells the
same outcome as in another chronicle where it is started alike, for instance where it is alone, if
its functions reply alike whatever their code is told and its tokens are found canceled alike.  Of the
completions of a boundary it only matters with what the first one since it was reached completes it,
not who makes it, on which thread and when.  Functions that are told what others do may reply alike
all the same. -/
theorem independent_runs_do_not_interfere (likeness : Likeness Memory)
    (kept : ∀ register, likeness.replaced register = none) (naming : Token → Token)
    (injective : Function.Injective naming) (chronicle chronicle' : Chronicle Memory)
    (reachable : chronicle.Reachable) (reachable' : chronicle'.Reachable) (run run' : Nat)
    (plan plan' : Plan Memory) (plans : likeness.Plans plan (plan'.rename naming)) (token : Token)
    (receiver receiver' : Receiver Memory)
    (started : (course run chronicle.history).head? =
      some (.started plan {} (naming token) receiver))
    (started' : (course run' chronicle'.history).head? = some (.started plan' {} token receiver'))
    (accords : ∀ inner inner', Chronicle.Paired chronicle chronicle' run run' inner inner' →
      chronicle.Accords chronicle' likeness naming inner inner') :
    ∀ inner inner', Chronicle.Paired chronicle chronicle' run run' inner inner' →
      let happenings := course inner chronicle.history
      let others := chronicle'.renamed naming inner'
      likeness.Agree happenings others ∧
        (chronicle.pool.rests inner = true → chronicle'.pool.rests inner' = true →
          (∀ epoch, completions epoch (recordsOf inner chronicle.history) = [] ↔
            completions epoch (recordsOf inner' chronicle'.history) = []) →
          List.Forall₂ likeness.Happenings happenings others) := by
  intro inner inner' paired
  have start : chronicle.StartAlike chronicle' likeness naming run run' := by
    refine ⟨_, _, _, _, _, _, _, started, started', plans, ?_⟩
    rw [Stack.toList_rename]
    exact .nil
  have pace := paired.keepPace kept injective reachable reachable' start accords
  exact pace.agree reachable reachable'

section Meddling

def Token.next : Token → Token
  | .uncancelable => .uncancelable
  | .tracked index => .tracked (index + 1)

theorem Token.next_injective : Function.Injective Token.next := by
  intro token other same
  cases token <;> cases other <;> first | rfl | cases same
  rfl

def registerWaiting (_token : Token) (_completer : Completer) : Code Unit .unit := Code.unit

def answerWaiting (value : Value) : Code Unit .value := Code.value value

def Plan.waiting : Plan Unit := .map (.async (.calling registerWaiting)) answerWaiting

/-- A registration that completes the boundary of another run twice, and then its own. -/
def registerMeddling (_token : Token) (completer : Completer) : Code Unit .unit :=
  .complete ⟨0, 1⟩ (.ok (.datum (.bool true))) fun _ =>
    .complete ⟨0, 1⟩ (.ok (.datum .null)) fun _ =>
      .complete completer (.ok (.datum .null)) fun _ => Code.unit

def Chronicle.meddled : Chronicle Unit :=
  (Pool.opening () [(none, .ask .newToken fun (other : Token) => .ask .newToken fun (own : Token) =>
    .run .waiting own (fun _ => Code.unit) fun _ =>
      .run (.async (.calling registerMeddling)) other (fun _ => Code.unit) fun _ =>
        Code.unit)]).chronicle (List.replicate 40 0)

def Chronicle.unmeddled : Chronicle Unit :=
  (Pool.opening () [(none, .ask .newToken fun (own : Token) =>
    .run .waiting own (fun _ => Code.unit) fun _ =>
      .complete ⟨0, 1⟩ (.ok (.datum (.bool true))) fun _ => Code.unit)]).chronicle
    (List.replicate 30 0)

def courseWaiting (token : Token) : List (Happening Unit) :=
  [.started .waiting {} token (.code fun _ => Code.unit), .looked token false, .looked token false,
    .reached 1 (.calling registerWaiting) token ⟨some (.map answerWaiting), #[]⟩,
    .crossed 1 (.completed (.datum (.bool true))), .looked token false,
    .called (.mapping answerWaiting (.datum (.bool true))) token,
    .answered (.value (.datum (.bool true))), .looked token false,
    .told (.completed (.datum (.bool true)))]

/-- What there is to see of the run, with another one in between. -/
theorem seen_meddled :
    course 0 Chronicle.meddled.history = courseWaiting (.tracked 1) ∧
      Chronicle.meddled.pool.rests 0 = true ∧
      completions 1 (recordsOf 0 Chronicle.meddled.history) =
        [(.completed (.datum (.bool true)), .code), (.completed (.datum .null), .code)] ∧
      (reaches (recordsOf 0 Chronicle.meddled.history)).map Reach.epoch = [1] := by
  refine ⟨?_, ?_, ?_, ?_⟩ <;> cbv

theorem seen_unmeddled :
    course 0 Chronicle.unmeddled.history = courseWaiting (.tracked 0) ∧
      Chronicle.unmeddled.pool.rests 0 = true ∧
      completions 1 (recordsOf 0 Chronicle.unmeddled.history) =
        [(.completed (.datum (.bool true)), .code)] ∧
      (reaches (recordsOf 0 Chronicle.unmeddled.history)).map Reach.epoch = [1] := by
  refine ⟨?_, ?_, ?_, ?_⟩ <;> cbv

theorem renamed_unmeddled :
    Chronicle.unmeddled.renamed Token.next 0 = courseWaiting (.tracked 1) := by
  rw [Chronicle.renamed, seen_unmeddled.1]
  cbv

theorem alone_meddled : (Chronicle.meddled.pool.host.runs.all
    fun entry => !entry.receiver.isForward) = true := by
  cbv

theorem completions_of_single {records : List (Record Unit)} {epoch : Nat}
    (single : (reaches records).map Reach.epoch = [1]) (different : epoch ≠ 1) :
    completions epoch records = [] := by
  refine completions_eq_nil_iff.2 (attempts_of_unreached ?_)
  intro reach member same
  have listed : reach.epoch ∈ (reaches records).map Reach.epoch := List.mem_map_of_mem member
  rw [single, same, List.mem_singleton] at listed
  exact different listed

def likenessWaiting : Likeness Unit :=
  .among (· ∈ [.registering registerWaiting, .mapping answerWaiting])

theorem plans_waiting : likenessWaiting.Plans .waiting (Plan.waiting.rename Token.next) :=
  .sequencing rfl rfl (.map ⟨rfl, by simp⟩) (.calling rfl ⟨rfl, by simp⟩)

theorem determined_waiting : likenessWaiting.DeterminedUpTo Token.next := by
  intro call call' calls reply reply' may may'
  generalize renamed : call'.rename Token.next = other at calls
  cases calls with
  | mapping functions values =>
      obtain ⟨same, member⟩ := functions
      obtain rfl : _ = answerWaiting := by simpa using member
      cases same
      cases call' <;> cases renamed
      cases may.eq_answered rfl
      cases may'.eq_answered rfl
      exact .answered (.value values)
  | suspended functions | delayed functions | naming functions | continuing functions
  | handling functions | switching functions | restoring functions =>
      simp [likenessWaiting, Likeness.among] at functions

/-- The run that goes on inside the registration of another does what it does by itself. -/
theorem independent_runs_do_not_interfere_meddled :
    Chronicle.meddled.Reachable ∧ Chronicle.unmeddled.Reachable ∧
      Function.Injective Token.next ∧ likenessWaiting.DeterminedUpTo Token.next ∧
        List.Forall₂ likenessWaiting.Happenings (course 0 Chronicle.meddled.history)
          (Chronicle.unmeddled.renamed Token.next 0) := by
  have reachable : Chronicle.meddled.Reachable := ⟨_, _, _, rfl⟩
  have reachable' : Chronicle.unmeddled.Reachable := ⟨_, _, _, rfl⟩
  obtain ⟨listed, rests, completed, reached⟩ := seen_meddled
  obtain ⟨listed', rests', completed', reached'⟩ := seen_unmeddled
  have accords : ∀ inner inner',
      Chronicle.Paired Chronicle.meddled Chronicle.unmeddled 0 0 inner inner' →
        Chronicle.meddled.Accords Chronicle.unmeddled likenessWaiting Token.next inner inner' := by
    intro inner inner' paired
    obtain ⟨rfl, rfl⟩ := paired.eq_of_alone alone_meddled
    constructor
    · rw [listed, renamed_unmeddled]
      refine .inl ⟨determined_waiting, .of_self fun happening member others => ?_⟩
      cases happening with
      | looked => exact .looked
      | recalled => simp [courseWaiting] at member
      | _ => cases others
    · intro epoch outcome outcome' maker maker' first first'
      by_cases same : epoch = 1
      · subst same
        rw [completed] at first
        rw [completed'] at first'
        cases first
        cases first'
        exact .inr (.completed .datum)
      · rw [completions_of_single reached same] at first
        cases first
  have both := independent_runs_do_not_interfere likenessWaiting (fun _ => rfl) Token.next
    Token.next_injective Chronicle.meddled Chronicle.unmeddled reachable reachable' 0 0 .waiting
    .waiting plans_waiting (.tracked 0) (.code fun _ => Code.unit) (.code fun _ => Code.unit)
    (by rw [listed]; rfl) (by rw [listed']; rfl) accords 0 0 .self
  refine ⟨reachable, reachable', Token.next_injective, determined_waiting,
    both.2 rests rests' ?_⟩
  intro epoch
  by_cases same : epoch = 1
  · subst same
    rw [completed, completed']
    simp
  · rw [completions_of_single reached same, completions_of_single reached' same]

end Meddling

section Beside

def Plan.changing : Plan Unit := .map (.map (.pure (.datum .null)) changeNothing) changeNothing

def Chronicle.askingAlone : Chronicle Unit :=
  (Pool.opening () [(none, .run .askingInstalled .uncancelable (fun _ => Code.unit) fun _ =>
    Code.unit)]).chronicle (List.replicate 20 0)

def Chronicle.askingBeside : Chronicle Unit :=
  (Pool.opening () [(none, .run .changing .uncancelable (fun _ => Code.unit) fun _ =>
    .run .askingInstalled .uncancelable (fun _ => Code.unit) fun _ => Code.unit)]).chronicle
      (List.replicate 40 0)

def courseAsking (fixed : Bool) : List (Happening Unit) :=
  [.started .askingInstalled {} .uncancelable (.code fun _ => Code.unit),
    .looked .uncancelable false, .looked .uncancelable false,
    .called (.delayed askInstalled) .uncancelable, .answered (.value (.datum (.bool fixed))),
    .called (.mapping changeNothing (.datum (.bool fixed))) .uncancelable,
    .answered (.value (.datum (.bool fixed))), .looked .uncancelable false,
    .told (.completed (.datum (.bool fixed)))]

theorem course_askingAlone : course 0 Chronicle.askingAlone.history = courseAsking false := by
  cbv

theorem course_askingBeside : course 1 Chronicle.askingBeside.history = courseAsking true := by
  cbv

theorem course_changing : course 0 Chronicle.askingBeside.history =
    [.started .changing {} .uncancelable (.code fun _ => Code.unit), .looked .uncancelable false,
      .looked .uncancelable false, .looked .uncancelable false,
      .called (.mapping changeNothing (.datum .null)) .uncancelable,
      .answered (.value (.datum .null)), .looked .uncancelable false,
      .called (.mapping changeNothing (.datum .null)) .uncancelable,
      .answered (.value (.datum .null)), .looked .uncancelable false,
      .told (.completed (.datum .null))] := by
  cbv

/-- A run shows to another one without anything that both have: where two of its frames are pending
it fixes the settings, and a thunk of the other one asks whether settings are fixed. -/
theorem other_runs_show_in_settings :
    Chronicle.askingBeside.Reachable ∧ Chronicle.askingAlone.Reachable ∧
      (∀ call token, .called call token ∈ course 0 Chronicle.askingBeside.history →
        call = .mapping changeNothing (.datum .null)) ∧
      (course 1 Chronicle.askingBeside.history).head? =
        some (.started .askingInstalled {} .uncancelable (.code fun _ => Code.unit)) ∧
      (course 0 Chronicle.askingAlone.history).head? =
        some (.started .askingInstalled {} .uncancelable (.code fun _ => Code.unit)) ∧
      .told (.completed (.datum (.bool true))) ∈ course 1 Chronicle.askingBeside.history ∧
      .told (.completed (.datum (.bool false))) ∈ course 0 Chronicle.askingAlone.history := by
  rw [course_askingBeside, course_askingAlone, course_changing]
  refine ⟨⟨_, _, _, rfl⟩, ⟨_, _, _, rfl⟩, ?_, rfl, rfl, ?_, ?_⟩
  · intro call token called
    simp only [List.mem_cons, List.not_mem_nil, or_false, Happening.called.injEq, reduceCtorEq,
      false_or, or_self] at called
    exact called.1
  · simp [courseAsking]
  · simp [courseAsking]

end Beside

end Trampoline
