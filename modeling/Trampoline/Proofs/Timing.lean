import Trampoline.Proofs.Lockstep
import Trampoline.Proofs.Nesting

/-!
Runs of programs that are alike go in step.

Two chronicles may schedule their threads in any way and complete boundaries on any thread, while
the registration is still running or later.  As long as what is asked alike is replied alike, the
transcripts of runs of programs that are alike are alike there, and so are their outcomes.  The
induction is on how many runs started later: nested runs are in step, and so are the runs that they
are nested in.
-/

namespace Trampoline

variable {Memory : Type}

/-- A run and those that are nested in it. -/
inductive Chronicle.Nests (chronicle : Chronicle Memory) : Nat → Nat → Prop where
  | self {run} : Nests chronicle run run
  | inner {run nested other epoch} :
      receiverOf chronicle.pool.host.runs nested = some (.forward ⟨run, epoch⟩) →
      Nests chronicle nested other → Nests chronicle run other

/-- A run under tokens that are canceled or not once and for all, with boundaries that complete as
is known of them. -/
structure Chronicle.Orderly (chronicle : Chronicle Memory) (canceled : Token → Bool)
    (replaced : (Token → Completer → Code Memory .unit) → Option Result) (run : Nat) : Prop where
  looks : Standing.Looks canceled (course run chronicle.history)
  settled : ∀ epoch register token pending outcome result,
    .reached epoch (.calling register) token pending ∈ course run chronicle.history →
    .crossed epoch outcome ∈ course run chronicle.history → replaced register = some result →
      outcome = .ofResult result
  /-- No code has the right to complete a boundary for a nested run. -/
  forwarded : ∀ epoch registration token pending thread outcome maker,
    .reached epoch registration token pending ∈ course run chronicle.history →
    registration.isNested = true →
    Record.mk run thread (.attempted epoch outcome maker) ∈ chronicle.history → maker ≠ .code

/-- No token is found canceled, and no boundary is for a nested run. -/
def Happening.isPlain : Happening Memory → Bool
  | .looked _ found => !found
  | .reached _ registration _ _ => !registration.isNested
  | _ => true

theorem Chronicle.orderly_of_plain {chronicle : Chronicle Memory} {run : Nat}
    (plain : ((course run chronicle.history).all Happening.isPlain) = true) :
    chronicle.Orderly (fun _ => false) (fun _ => none) run where
  looks token found member := by simpa [Happening.isPlain] using List.all_eq_true.1 plain _ member
  settled := by simp
  forwarded := by
    intro epoch registration token pending thread outcome maker reached isNested
    have calling := List.all_eq_true.1 plain _ reached
    simp [Happening.isPlain, isNested] at calling

theorem receiverOf_ne_forward {runs : Array (Run Memory)} {run : Nat} {completer : Completer}
    (alone : (runs.all fun entry => !entry.receiver.isForward) = true) :
    receiverOf runs run ≠ some (.forward completer) := by
  intro forwards
  obtain ⟨entry, located, same⟩ := Option.map_eq_some_iff.1 forwards
  have direct := Array.all_eq_true'.1 alone entry (Array.mem_of_getElem? located)
  rw [same] at direct
  cases direct

theorem Chronicle.Nests.eq_of_alone {chronicle : Chronicle Memory} {run inner : Nat}
    (alone : (chronicle.pool.host.runs.all fun entry => !entry.receiver.isForward) = true)
    (nests : chronicle.Nests run inner) : inner = run := by
  cases nests with
  | self => rfl
  | inner forwards => exact absurd forwards (receiverOf_ne_forward alone)

/-- A run is orderly in which no other is nested and that finds no token canceled. -/
theorem Chronicle.orderly_of_alone {chronicle : Chronicle Memory} {run : Nat}
    {happenings : List (Happening Memory)}
    (alone : (chronicle.pool.host.runs.all fun entry => !entry.receiver.isForward) = true)
    (listed : course run chronicle.history = happenings)
    (plain : happenings.all Happening.isPlain = true) (inner : Nat)
    (nests : chronicle.Nests run inner) :
    chronicle.Orderly (fun _ => false) (fun _ => none) inner := by
  obtain rfl := nests.eq_of_alone alone
  subst listed
  exact orderly_of_plain plain

namespace Chronicle

variable {chronicle chronicle' : Chronicle Memory}
  {replaced : (Token → Completer → Code Memory .unit) → Option Result} {canceled : Token → Bool}

def told (chronicle : Chronicle Memory) (run : Nat) : Option (Outcome Value) :=
  (tellings run chronicle.history).head?

variable (chronicle) (hidden : Registration Memory → Bool) (run epoch : Nat)

/-- What shows of the nested run for a boundary. -/
def inner : List (Moment Memory) :=
  match chronicle.innerRun? run epoch with
  | none => []
  | some nested =>
      if run < nested ∧ nested < chronicle.pool.host.runs.size then
        chronicle.transcript hidden nested
      else []

/-- What shows of a boundary for a nested run, and of that run. -/
def inside (registration : Registration Memory) (epoch : Nat) (token : Token) :
    List (Moment Memory) :=
  (if hidden registration then [] else chronicle.hop run registration epoch token) ++
    chronicle.inner hidden run epoch

/-- What the boundary for a nested run is refused with, or what that run has told. -/
def insideTold : Option (Outcome Value) :=
  match chronicle.refusal? run epoch with
  | some outcome => some outcome
  | none => (nestedRun? chronicle.pool.host.runs ⟨run, epoch⟩).bind chronicle.told

def shows (happenings : List (Happening Memory)) : List (Moment Memory) :=
  Trampoline.transcript (fun _ => false) (chronicle.inside (fun _ => false) run) none happenings

variable {run}

theorem transcript_of_started {plan : Plan Memory} {pending : Stack (Frame Memory)} {token : Token}
    {receiver : Receiver Memory} {happenings : List (Happening Memory)}
    (listed : course run chronicle.history = .started plan pending token receiver :: happenings) :
    chronicle.transcript hidden run =
      Trampoline.transcript hidden (chronicle.inside hidden run) none happenings := by
  rw [Chronicle.transcript, listed]
  rfl

end Chronicle

section Nested

variable {runs : Array (Run Memory)} {run nested : Nat} {completer : Completer}

theorem receiverOf_of_nestedRun? (found : nestedRun? runs completer = some nested) :
    receiverOf runs nested = some (.forward completer) := by
  obtain ⟨bound, here, _⟩ := Array.findIdx?_eq_some_iff_getElem.1 found
  rw [receiverOf, Array.getElem?_eq_getElem bound, Option.map_some]
  unfold Receiver.isFor at here
  split at here
  · rename_i other same
    rw [same, of_decide_eq_true here]
  · cases here
  · cases here

theorem nestedRun?_of_receiverOf
    (unique : ∀ run other, receiverOf runs run = some (.forward completer) →
      receiverOf runs other = some (.forward completer) → run = other)
    (forwards : receiverOf runs nested = some (.forward completer)) :
    nestedRun? runs completer = some nested := by
  cases found : nestedRun? runs completer with
  | some other => rw [unique _ _ (receiverOf_of_nestedRun? found) forwards]
  | none =>
      obtain ⟨entry, located, same⟩ := Option.map_eq_some_iff.1 forwards
      have refused := Array.findIdx?_eq_none_iff.1 found entry (Array.mem_of_getElem? located)
      rw [same] at refused
      simp [Receiver.isFor] at refused

end Nested

theorem Likeness.Plans.due {likeness : Likeness Memory}
    {registration registration' : Registration Memory}
    (plans : likeness.Plans (.async registration) (.async registration')) {token : Token}
    {completer completer' : Completer} {due due' : Due Memory}
    (asked : due ∈ registration.due token completer)
    (asked' : due' ∈ registration'.due token completer') :
    likeness.Plans due.plan due'.plan ∧
      likeness.Stacks due.pending.toList due'.pending.toList ∧
      due.token = token ∧ due'.token = token := by
  generalize same : Plan.async registration' = other at plans
  cases registration with
  | calling register => cases asked
  | hopping source context =>
      cases plans with
      | hopping sources =>
          cases same
          cases List.mem_singleton.1 asked
          cases List.mem_singleton.1 asked'
          exact ⟨sources, .nil, rfl, rfl⟩
      | sequencing first => cases first
  | finishing head pending =>
      cases plans with
      | finishing heads pendings =>
          cases same
          cases List.mem_singleton.1 asked
          cases List.mem_singleton.1 asked'
          exact ⟨heads, pendings, rfl, rfl⟩
      | sequencing first => cases first

namespace Chronicle

/-- How the boundary for a nested run is left to it: the reply of its context, if there is one yet,
the nested run, and what is told. -/
inductive LeavesTo (chronicle : Chronicle Memory) (run epoch : Nat) :
    Option (Reply Memory) → Option Nat → Option (Outcome Value) → Prop where
  | waiting : LeavesTo chronicle run epoch none none none
  | refused {outcome : Outcome Value} (refused : chronicle.refusal? run epoch = some outcome) :
      LeavesTo chronicle run epoch (some (.crossed outcome)) none (some outcome)
  | taken {nested : Nat} (refused : chronicle.refusal? run epoch = none)
      (found : nestedRun? chronicle.pool.host.runs ⟨run, epoch⟩ = some nested) :
      LeavesTo chronicle run epoch (some (.answered .unit)) (some nested) (chronicle.told nested)

theorem leavesTo (chronicle : Chronicle Memory) (run epoch : Nat) :
    chronicle.LeavesTo run epoch (chronicle.taking run epoch) (chronicle.innerRun? run epoch)
      (chronicle.insideTold run epoch) := by
  rw [taking, innerRun?, insideTold]
  cases refused : chronicle.refusal? run epoch with
  | some outcome => exact .refused refused
  | none =>
      cases found : nestedRun? chronicle.pool.host.runs ⟨run, epoch⟩ with
      | none => exact .waiting
      | some nested => exact .taken refused found

section Kept

variable {chronicle : Chronicle Memory}
  {replaced : (Token → Completer → Code Memory .unit) → Option Result} {canceled : Token → Bool}
  (holds : Trampoline.Kept Nesting chronicle.history chronicle.pool.situation)
include holds

theorem told_eq_some {run : Nat} {outcome : Outcome Value}
    (told : .told outcome ∈ course run chronicle.history) : chronicle.told run = some outcome := by
  have once : (tellings run chronicle.history).length ≤ 1 :=
    (holds.tracked run).tellings_length_le_one
  have member := mem_tellings_iff.2 told
  rw [Chronicle.told]
  cases listed : tellings run chronicle.history with
  | nil =>
      rw [listed] at member
      cases member
  | cons first rest =>
      rw [listed] at once member
      obtain rfl := List.eq_nil_of_length_eq_zero (Nat.le_zero.1 (Nat.le_of_succ_le_succ once))
      rw [List.mem_singleton.1 member]
      rfl

theorem insideTold_of_maker {run epoch : Nat} {outcome : Outcome Value}
    (crossed : .crossed epoch outcome ∈ course run chronicle.history)
    (only : ∀ thread maker,
      Record.mk run thread (.attempted epoch outcome maker) ∈ chronicle.history → maker ≠ .code) :
    chronicle.insideTold run epoch = some outcome := by
  obtain ⟨maker, first, thread, tried⟩ := holds.ledger.completed_of_crossed crossed
  cases maker with
  | code => exact absurd rfl (only thread _ tried)
  | registration => rw [insideTold, refusal?, first]
  | run =>
      obtain ⟨nested, forwards, told⟩ := holds.kept.attempted run epoch outcome ⟨thread, tried⟩
      have found : nestedRun? chronicle.pool.host.runs ⟨run, epoch⟩ = some nested :=
        nestedRun?_of_receiverOf (fun _ _ => holds.kept.unique _ _ _) forwards
      rw [insideTold, refusal?, first, found]
      exact told_eq_some holds told

theorem insideTold_eq_some {run epoch : Nat} {registration : Registration Memory} {token : Token}
    {pending : Stack (Frame Memory)} {outcome : Outcome Value}
    (orderly : chronicle.Orderly canceled replaced run)
    (reached : .reached epoch registration token pending ∈ course run chronicle.history)
    (crossed : .crossed epoch outcome ∈ course run chronicle.history)
    (isNested : registration.isNested = true) : chronicle.insideTold run epoch = some outcome :=
  insideTold_of_maker holds crossed fun _ _ => orderly.forwarded _ _ _ _ _ _ _ reached isNested

theorem started_of_nestedRun? {run epoch nested : Nat} {registration : Registration Memory}
    {token : Token} {pending : Stack (Frame Memory)}
    (reached : .reached epoch registration token pending ∈ course run chronicle.history)
    (found : nestedRun? chronicle.pool.host.runs ⟨run, epoch⟩ = some nested) :
    ∃ due ∈ registration.due token ⟨run, epoch⟩, run < nested ∧
      nested < chronicle.pool.host.runs.size ∧
      (course nested chronicle.history).head? =
        some (.started due.plan due.pending due.token (.forward ⟨run, epoch⟩)) := by
  have forwards := receiverOf_of_nestedRun? found
  obtain ⟨plan, saved, current, rest, listed, started⟩ :=
    holds.tracked.started_of_receiver forwards
  obtain ⟨later, other, its, below, asked, due⟩ := holds.kept.started _ _ _ _ _ started
  obtain ⟨rfl, rfl⟩ := holds.ledger.reached_eq reached asked
  refine ⟨_, due, later, holds.tracked.lt_size_of_mem started, ?_⟩
  rw [listed]
  rfl

theorem later_of_innerRun? {run epoch nested : Nat} {registration : Registration Memory}
    {token : Token} {pending : Stack (Frame Memory)}
    (reached : .reached epoch registration token pending ∈ course run chronicle.history)
    (found : chronicle.innerRun? run epoch = some nested) :
    run < nested ∧ nested < chronicle.pool.host.runs.size := by
  rw [innerRun?] at found
  split at found
  · cases found
  · obtain ⟨_, _, later, bound, _⟩ := started_of_nestedRun? holds reached found
    exact ⟨later, bound⟩

theorem inner_eq (hidden : Registration Memory → Bool) {run epoch : Nat}
    {registration : Registration Memory} {token : Token} {pending : Stack (Frame Memory)}
    (reached : .reached epoch registration token pending ∈ course run chronicle.history) :
    chronicle.inner hidden run epoch =
      (chronicle.innerRun? run epoch).elim [] (chronicle.transcript hidden) := by
  rw [inner]
  cases found : chronicle.innerRun? run epoch with
  | none => rfl
  | some nested => exact if_pos (later_of_innerRun? holds reached found)

theorem bridged {run : Nat} (orderly : chronicle.Orderly canceled replaced run)
    {happenings : List (Happening Memory)} (subset : happenings ⊆ course run chronicle.history) :
    Standing.Bridged canceled replaced (chronicle.insideTold run) happenings where
  looks token found member := orderly.looks token found (subset member)
  settled _ _ _ _ _ _ reached crossed :=
    orderly.settled _ _ _ _ _ _ (subset reached) (subset crossed)
  forwarded _ _ _ _ _ reached crossed isNested :=
    insideTold_eq_some holds orderly (subset reached) (subset crossed) isNested

end Kept

section Hop

variable {chronicle chronicle' : Chronicle Memory} {likeness : Likeness Memory}
  {run run' epoch epoch' : Nat} {moments moments' : Nat → List (Moment Memory)}

section LeavesTo

variable {taking taking' : Option (Reply Memory)} {nested? nested?' : Option Nat}
  {told told' : Option (Outcome Value)} (leaves : chronicle.LeavesTo run epoch taking nested? told)
  (leaves' : chronicle'.LeavesTo run' epoch' taking' nested?' told')
include leaves leaves'

theorem LeavesTo.agree
    (consistent : likeness.Consistent (taking.toList.map .replied ++ nested?.elim [] moments)
      (taking'.toList.map .replied ++ nested?'.elim [] moments')) :
    (∀ reply ∈ taking, ∀ reply' ∈ taking', likeness.Replies reply reply') ∧
      likeness.Consistent (nested?.elim [] moments) (nested?'.elim [] moments') := by
  cases taking with
  | none =>
      cases leaves
      exact ⟨by simp, by simp [Likeness.Consistent]⟩
  | some reply =>
      cases taking' with
      | none =>
          cases leaves'
          exact ⟨by simp, by simp [Likeness.Consistent]⟩
      | some reply' =>
          refine ⟨?_, consistent.2⟩
          rintro _ ⟨⟩ _ ⟨⟩
          exact consistent.1

variable (agree : ∀ reply ∈ taking, ∀ reply' ∈ taking', likeness.Replies reply reply')
include agree

/-- What boundaries for nested runs are left to goes in step if the nested runs do. -/
theorem LeavesTo.inStep
    (taken : ∀ nested nested',
      nestedRun? chronicle.pool.host.runs ⟨run, epoch⟩ = some nested →
      nestedRun? chronicle'.pool.host.runs ⟨run', epoch'⟩ = some nested' →
      likeness.Consistent (moments nested) (moments' nested') →
      likeness.InStep (moments nested) (moments' nested') (chronicle.told nested)
        (chronicle'.told nested'))
    (consistent : likeness.Consistent (nested?.elim [] moments) (nested?'.elim [] moments')) :
    likeness.InStep (nested?.elim [] moments) (nested?'.elim [] moments') told told' := by
  cases leaves with
  | waiting => exact .nil_left
  | refused refused =>
      cases leaves' with
      | waiting => exact .nil_right
      | refused refused' =>
          refine ⟨trivial, fun _ => Nat.le_refl _, fun _ => Nat.le_refl _, ?_⟩
          rintro _ _ ⟨⟩ ⟨⟩
          exact (agree _ rfl _ rfl).outcomes
      | taken refused' found' => cases agree _ rfl _ rfl
  | taken refused found =>
      cases leaves' with
      | waiting => exact .nil_right
      | refused refused' => cases agree _ rfl _ rfl
      | taken refused' found' => exact taken _ _ found found' consistent

theorem LeavesTo.inStep_replied
    (inner : likeness.InStep (nested?.elim [] moments) (nested?'.elim [] moments') told told') :
    likeness.InStep (taking.toList.map .replied ++ nested?.elim [] moments)
      (taking'.toList.map .replied ++ nested?'.elim [] moments') told told' := by
  cases taking with
  | none =>
      cases leaves
      exact .nil_left
  | some reply =>
      cases taking' with
      | none =>
          cases leaves'
          exact .nil_right
      | some reply' => exact .cons (.replied (agree _ rfl _ rfl)) inner

end LeavesTo

variable {registration registration' : Registration Memory} {token : Token}
  (isNested : registration.isNested = true)
  (unrefused : ∀ head pending, registration = .finishing head pending →
    chronicle.refusal? run epoch = none)
  (unrefused' : ∀ head pending, registration' = .finishing head pending →
    chronicle'.refusal? run' epoch' = none)
  (alike : likeness.Plans (.async registration) (.async registration'))
  (consistent : likeness.Consistent
    (chronicle.hop run registration epoch token ++ (chronicle.innerRun? run epoch).elim [] moments)
    (chronicle'.hop run' registration' epoch' token ++
      (chronicle'.innerRun? run' epoch').elim [] moments'))
include isNested unrefused unrefused' alike consistent

/-- Where what shows of boundaries for nested runs that are alike is answered alike, their contexts
reply alike, and so much is answered alike in the nested runs. -/
theorem agree_of_hop :
    (∀ reply ∈ chronicle.taking run epoch, ∀ reply' ∈ chronicle'.taking run' epoch',
        likeness.Replies reply reply') ∧
      likeness.Consistent ((chronicle.innerRun? run epoch).elim [] moments)
        ((chronicle'.innerRun? run' epoch').elim [] moments') := by
  cases registration with
  | calling register => cases isNested
  | hopping source context =>
      cases alike with
      | hopping sources =>
          exact (chronicle.leavesTo run epoch).agree (chronicle'.leavesTo run' epoch')
            (consistent (.hop sources))
      | sequencing first => cases first
  | finishing head frames =>
      cases alike with
      | finishing heads pendings =>
          refine ⟨?_, consistent⟩
          intro reply member reply' member'
          rw [taking, unrefused _ _ rfl] at member
          rw [taking, unrefused' _ _ rfl] at member'
          obtain ⟨_, _, rfl⟩ := Option.map_eq_some_iff.1 member
          obtain ⟨_, _, rfl⟩ := Option.map_eq_some_iff.1 member'
          exact .answered .unit
      | sequencing first => cases first

theorem inStep_of_hop
    (taken : ∀ nested nested',
      nestedRun? chronicle.pool.host.runs ⟨run, epoch⟩ = some nested →
      nestedRun? chronicle'.pool.host.runs ⟨run', epoch'⟩ = some nested' →
      likeness.Consistent (moments nested) (moments' nested') →
      likeness.InStep (moments nested) (moments' nested') (chronicle.told nested)
        (chronicle'.told nested')) :
    likeness.InStep
      (chronicle.hop run registration epoch token ++
        (chronicle.innerRun? run epoch).elim [] moments)
      (chronicle'.hop run' registration' epoch' token ++
        (chronicle'.innerRun? run' epoch').elim [] moments')
      (chronicle.insideTold run epoch) (chronicle'.insideTold run' epoch') := by
  have left := chronicle.leavesTo run epoch
  have right := chronicle'.leavesTo run' epoch'
  obtain ⟨agree, inside⟩ := agree_of_hop isNested unrefused unrefused' alike consistent
  have nested := left.inStep right agree taken inside
  cases registration with
  | calling register => cases isNested
  | hopping source context =>
      cases alike with
      | hopping sources => exact .cons (.asked (.hop sources)) (left.inStep_replied right agree nested)
      | sequencing first => cases first
  | finishing head frames =>
      cases alike with
      | finishing heads pendings => exact nested
      | sequencing first => cases first

end Hop

section InStep

variable {chronicle chronicle' : Chronicle Memory} {likeness : Likeness Memory}
  {canceled : Token → Bool}
  (reachable : chronicle.Reachable) (reachable' : chronicle'.Reachable)
include reachable reachable'

/-- Runs that start alike are in step if those that are nested in them are. -/
theorem inStep_of_hops {run run' : Nat} {plan plan' : Plan Memory}
    {pending pending' : Stack (Frame Memory)} {token : Token} {receiver receiver' : Receiver Memory}
    (plans : likeness.Plans plan plan')
    (pendings : likeness.Stacks pending.toList pending'.toList)
    (started : (course run chronicle.history).head? = some (.started plan pending token receiver))
    (started' : (course run' chronicle'.history).head? =
      some (.started plan' pending' token receiver'))
    (orderly : chronicle.Orderly canceled likeness.replaced run)
    (orderly' : chronicle'.Orderly canceled (fun _ => none) run')
    (hops : likeness.Hops (chronicle.inside likeness.hides run)
      (chronicle'.inside (fun _ => false) run') (chronicle.insideTold run)
      (chronicle'.insideTold run') (course run chronicle.history) (course run' chronicle'.history))
    (consistent : likeness.Consistent (chronicle.transcript likeness.hides run)
      (chronicle'.transcript (fun _ => false) run')) :
    likeness.InStep (chronicle.transcript likeness.hides run)
      (chronicle'.transcript (fun _ => false) run') (chronicle.told run) (chronicle'.told run') := by
  obtain ⟨happenings, standing, listed, ⟨count, path⟩, _, told⟩ :=
    reachable.holds.tracked.leads_of_started started
  obtain ⟨happenings', standing', listed', ⟨count', path'⟩, _, told'⟩ :=
    reachable'.holds.tracked.leads_of_started started'
  rw [transcript_of_started _ _ listed, transcript_of_started _ _ listed'] at consistent ⊢
  rw [Chronicle.told, Chronicle.told, told, told', Option.head?_toList, Option.head?_toList]
  have within : happenings ⊆ course run chronicle.history := by
    rw [listed]
    exact List.subset_cons_self _ _
  have within' : happenings' ⊆ course run' chronicle'.history := by
    rw [listed']
    exact List.subset_cons_self _ _
  exact Likeness.stayInStep count count' _ _ _ _ _ _ (.iterating plans pendings) path path'
    (bridged reachable.holds orderly within) (bridged reachable'.holds orderly' within') (hops.mono within within')
    consistent

theorem startsAlike {run run' epoch epoch' nested nested' : Nat}
    {registration registration' : Registration Memory} {token : Token}
    {saved saved' : Stack (Frame Memory)}
    (reached : .reached epoch registration token saved ∈ course run chronicle.history)
    (reached' : .reached epoch' registration' token saved' ∈ course run' chronicle'.history)
    (alike : likeness.Plans (.async registration) (.async registration'))
    (found : nestedRun? chronicle.pool.host.runs ⟨run, epoch⟩ = some nested)
    (found' : nestedRun? chronicle'.pool.host.runs ⟨run', epoch'⟩ = some nested') :
    ∃ plan plan' pending pending', run < nested ∧ nested < chronicle.pool.host.runs.size ∧
      run' < nested' ∧ nested' < chronicle'.pool.host.runs.size ∧ likeness.Plans plan plan' ∧
        likeness.Stacks pending.toList pending'.toList ∧
        (course nested chronicle.history).head? =
          some (.started plan pending token (.forward ⟨run, epoch⟩)) ∧
        (course nested' chronicle'.history).head? =
          some (.started plan' pending' token (.forward ⟨run', epoch'⟩)) := by
  obtain ⟨due, asked, later, bound, begun⟩ := started_of_nestedRun? reachable.holds reached found
  obtain ⟨due', asked', later', bound', begun'⟩ := started_of_nestedRun? reachable'.holds reached' found'
  obtain ⟨sources, frames, same, same'⟩ := alike.due asked asked'
  rw [same] at begun
  rw [same'] at begun'
  exact ⟨_, _, _, _, later, bound, later', bound', sources, frames, begun, begun'⟩

/-- Nested runs go in step if they do wherever they start alike. -/
theorem hops_of_nested {run run' : Nat} {happenings happenings' : List (Happening Memory)}
    (within : happenings ⊆ course run chronicle.history)
    (within' : happenings' ⊆ course run' chronicle'.history)
    (inner : ∀ epoch epoch' registration registration' token saved saved' nested nested' plan plan'
      pending pending',
      .reached epoch registration token saved ∈ happenings →
      .reached epoch' registration' token saved' ∈ happenings' →
      receiverOf chronicle.pool.host.runs nested = some (.forward ⟨run, epoch⟩) →
      receiverOf chronicle'.pool.host.runs nested' = some (.forward ⟨run', epoch'⟩) →
      run < nested → nested < chronicle.pool.host.runs.size →
      likeness.Plans plan plan' → likeness.Stacks pending.toList pending'.toList →
      (course nested chronicle.history).head? =
        some (.started plan pending token (.forward ⟨run, epoch⟩)) →
      (course nested' chronicle'.history).head? =
        some (.started plan' pending' token (.forward ⟨run', epoch'⟩)) →
      likeness.Consistent (chronicle.transcript likeness.hides nested)
        (chronicle'.transcript (fun _ => false) nested') →
      likeness.InStep (chronicle.transcript likeness.hides nested)
        (chronicle'.transcript (fun _ => false) nested') (chronicle.told nested)
        (chronicle'.told nested')) :
    likeness.Hops (chronicle.inside likeness.hides run)
      (chronicle'.inside (fun _ => false) run') (chronicle.insideTold run)
      (chronicle'.insideTold run') happenings happenings' := by
  intro epoch epoch' registration registration' current saved saved' reached reached' isNested
    alike consistent
  have shown : likeness.hides registration = false := by
    cases registration <;> first | rfl | cases isNested
  rw [inside, inside, inner_eq reachable.holds likeness.hides (within reached),
    inner_eq reachable'.holds (fun _ => false) (within' reached'), shown] at consistent ⊢
  refine inStep_of_hop isNested (reachable.refusal?_of_finishing (within reached))
    (reachable'.refusal?_of_finishing (within' reached')) alike consistent ?_
  intro nested nested' found found' inside
  obtain ⟨source, source', frames, frames', later, bound, _, _, sources, among, begun, begun'⟩ :=
    startsAlike reachable reachable' (within reached) (within' reached') alike found found'
  exact inner _ _ _ _ _ _ _ _ _ _ _ _ _ reached reached' (receiverOf_of_nestedRun? found)
    (receiverOf_of_nestedRun? found') later bound sources among begun begun' inside

theorem inStep {run run' : Nat} {plan plan' : Plan Memory}
    {pending pending' : Stack (Frame Memory)} {token : Token} {receiver receiver' : Receiver Memory}
    (plans : likeness.Plans plan plan')
    (pendings : likeness.Stacks pending.toList pending'.toList)
    (started : (course run chronicle.history).head? = some (.started plan pending token receiver))
    (started' : (course run' chronicle'.history).head? =
      some (.started plan' pending' token receiver'))
    (orderly : ∀ inner, chronicle.Nests run inner →
      chronicle.Orderly canceled likeness.replaced inner)
    (orderly' : ∀ inner, chronicle'.Nests run' inner →
      chronicle'.Orderly canceled (fun _ => none) inner)
    (consistent : likeness.Consistent (chronicle.transcript likeness.hides run)
      (chronicle'.transcript (fun _ => false) run')) :
    likeness.InStep (chronicle.transcript likeness.hides run)
      (chronicle'.transcript (fun _ => false) run') (chronicle.told run) (chronicle'.told run') := by
  induction left : chronicle.pool.host.runs.size - run using Nat.strongRecOn
    generalizing run run' plan plan' pending pending' token receiver receiver' with
  | ind left inductionHypothesis =>
      refine inStep_of_hops reachable reachable' plans pendings started started' (orderly run .self)
        (orderly' run' .self) ?_ consistent
      refine hops_of_nested reachable reachable' (List.Subset.refl _) (List.Subset.refl _) ?_
      intro epoch epoch' registration registration' current saved saved' nested nested' source source'
        frames frames' reached reached' forwards forwards' later bound sources among begun begun'
        inside
      refine inductionHypothesis _ ?_ sources among begun begun' ?_ ?_ inside rfl
      · omega
      · intro inner nests
        exact orderly inner (.inner forwards nests)
      · intro inner nests
        exact orderly' inner (.inner forwards' nests)

end InStep

end Chronicle

namespace Likeness

variable {likeness : Likeness Memory} {moments others : List (Moment Memory)}

theorem Together.forall₂ (together : likeness.Together moments others)
    (length : moments.length = others.length) :
    List.Forall₂ likeness.Moments moments others := by
  induction moments generalizing others with
  | nil =>
      rw [List.eq_nil_of_length_eq_zero length.symm]
      exact .nil
  | cons moment moments inductionHypothesis =>
      cases others with
      | nil => cases length
      | cons other others =>
          exact .cons together.1 (inductionHypothesis together.2 (Nat.succ.inj length))

end Likeness

namespace Chronicle.Reachable

variable {chronicle : Chronicle Memory}

/-- A run that has started and rests has told an outcome, or it still waits at its last boundary. -/
theorem told_or_resumable (reachable : chronicle.Reachable) {run : Nat} {plan : Plan Memory}
    {pending : Stack (Frame Memory)} {token : Token} {receiver : Receiver Memory}
    (started : (course run chronicle.history).head? = some (.started plan pending token receiver))
    (rests : chronicle.pool.rests run = true) :
    (∃ outcome, .told outcome ∈ course run chronicle.history) ∨ chronicle.Resumable run := by
  have holds := reachable.holds
  obtain ⟨happenings, standing, _, _, single, _⟩ := holds.tracked.leads_of_started started
  obtain ⟨entry, found⟩ := holds.tracked.entry_of_singleton single
  rcases Chronicle.delivered_or_resumable holds.tracked holds.ledger rests found with
    delivered | resumable
  · obtain ⟨outcome, listed⟩ := List.length_eq_one_iff.1 delivered.once
    refine .inl ⟨outcome, mem_tellings_iff.1 ?_⟩
    rw [listed]
    exact .head _
  · exact .inr resumable

end Chronicle.Reachable

end Trampoline
