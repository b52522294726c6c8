import Mathlib.Data.List.Basic
import Trampoline.Proofs.Nesting
import Trampoline.Proofs.Showing

/-!
What the boundary for a nested run completes with.

A boundary is crossed with the first attempt on it since it was reached.  On a boundary for a nested
run that is what the nested run has told, unless the context of a hop panics before: then the
registration itself attempts the boundary with the panic, and the hop is refused.  What starts a run
for the rest of a plan does not panic, so only hops are refused.
-/

namespace Trampoline

variable {Memory : Type}

section Completions

def Record.completion? (epoch : Nat) (record : Record Memory) : Option (Outcome Value × Maker) :=
  match record.happening with
  | .attempted tried outcome maker => if tried = epoch then some (outcome, maker) else none
  | _ => none

/-- How the boundary of an epoch is attempted since it was reached, and by whom. -/
def completions (epoch : Nat) (records : List (Record Memory)) : List (Outcome Value × Maker) :=
  (since epoch records).filterMap (Record.completion? epoch)

variable {run epoch : Nat} {records history : List (Record Memory)} {outcome : Outcome Value}
  {maker : Maker}

theorem mem_crossings_iff :
    outcome ∈ crossings epoch (recordsOf run history) ↔
      .crossed epoch outcome ∈ course run history := by
  constructor
  · intro member
    obtain ⟨record, listed, shown⟩ := List.mem_filterMap.1 member
    obtain ⟨recorded, same⟩ := List.mem_filter.1 listed
    obtain ⟨other, thread, happening⟩ := record
    cases happening <;> simp [Record.crossing?] at shown
    obtain ⟨rfl, rfl⟩ := shown
    exact List.mem_filterMap.2 ⟨_, recorded, if_pos ⟨of_decide_eq_true same, rfl⟩⟩
  · intro member
    obtain ⟨⟨other, thread, happening⟩, recorded, shown⟩ := List.mem_filterMap.1 member
    dsimp only at shown
    split at shown
    · rename_i both
      cases shown
      refine List.mem_filterMap.2 ⟨_, List.mem_filter.2 ⟨recorded, decide_eq_true both.1⟩, ?_⟩
      simp [Record.crossing?]
    · cases shown

theorem map_completions (epoch : Nat) (records : List (Record Memory)) :
    (completions epoch records).map Prod.fst = (attempts epoch records).map Attempt.outcome := by
  rw [completions, attempts, List.map_filterMap, List.map_filterMap]
  apply List.filterMap_congr
  intro record _
  obtain ⟨run, thread, happening⟩ := record
  cases happening with
  | attempted tried outcome maker =>
      simp only [Record.completion?, Record.attempt?]
      split <;> rfl
  | _ => rfl

theorem completions_eq_nil_iff : completions epoch records = [] ↔ attempts epoch records = [] := by
  have same := map_completions epoch records
  constructor
  · intro nothing
    simpa [nothing] using same.symm
  · intro nothing
    simpa [nothing] using same

theorem attempted_of_completion
    (member : (outcome, maker) ∈ completions epoch (recordsOf run history)) :
    ∃ thread, Record.mk run thread (.attempted epoch outcome maker) ∈ history := by
  obtain ⟨record, here, shown⟩ := List.mem_filterMap.1 member
  obtain ⟨within, own⟩ := List.mem_filter.1 (List.dropWhile_subset _ here)
  obtain ⟨other, thread, happening⟩ := record
  obtain rfl : other = run := of_decide_eq_true own
  cases happening with
  | attempted tried outcome maker =>
      simp only [Record.completion?] at shown
      split at shown
      · rename_i same
        cases shown
        subst same
        exact ⟨thread, within⟩
      · cases shown
  | _ => cases shown

/-- A boundary is crossed with the outcome of the first attempt. -/
theorem Ledger.completed_of_crossed {situation : Situation Memory} (ledger : Ledger history situation)
    (crossed : .crossed epoch outcome ∈ course run history) :
    ∃ maker, (completions epoch (recordsOf run history)).head? = some (outcome, maker) ∧
      ∃ thread, Record.mk run thread (.attempted epoch outcome maker) ∈ history := by
  have firsts : (completions epoch (recordsOf run history)).head?.map Prod.fst = some outcome := by
    have member := mem_crossings_iff.2 crossed
    rw [(ledger run).first, ← List.head?_map, ← map_completions, List.head?_map,
      Option.mem_toList] at member
    exact member
  obtain ⟨⟨_, maker⟩, head, rfl⟩ := Option.map_eq_some_iff.1 firsts
  exact ⟨maker, head, attempted_of_completion (List.mem_of_mem_head? head)⟩

end Completions

theorem Machine.reached_mem_course {last : Form} {machine : Machine Memory last} {run : Nat}
    {pending : Stack (Frame Memory)} {token : Token} {registration : Registration Memory}
    {callers : Callers Memory last .unit}
    (here : machine.focus = .iterate ⟨.run run, pending, token⟩ (.async registration) callers)
    (live : machine.host.tokens.isCanceled token ≠ true) :
    .reached (machine.host.epoch run + 1) registration token pending ∈
      course run machine.records := by
  have noted : (run, .reached (machine.host.epoch run + 1) registration token pending) ∈
      machine.happenings := by
    refine List.mem_append_left _ ?_
    rw [here]
    simp [Focus.happenings, Loop.note, live, Plan.happenings]
  exact List.mem_filterMap.2 ⟨_, List.mem_map_of_mem noted, if_pos ⟨rfl, rfl⟩⟩

namespace Chronicle

variable {chronicle : Chronicle Memory} {run epoch : Nat}

/-- What the registration of a boundary has refused it with before anybody else completed it. -/
def refusal? (chronicle : Chronicle Memory) (run epoch : Nat) : Option (Outcome Value) :=
  match (completions epoch (recordsOf run chronicle.history)).head? with
  | some (outcome, .registration) => some outcome
  | _ => none

theorem attempted_of_refusal? {outcome : Outcome Value}
    (refused : chronicle.refusal? run epoch = some outcome) :
    ∃ thread, Record.mk run thread (.attempted epoch outcome .registration) ∈ chronicle.history := by
  unfold refusal? at refused
  split at refused
  · rename_i first
    cases refused
    exact attempted_of_completion (List.mem_of_mem_head? first)
  · cases refused

/-- A chronicle that some schedule of the threads of a fresh host leads to. -/
def Reachable (chronicle : Chronicle Memory) : Prop :=
  ∃ memory codes schedule, chronicle = (Pool.opening memory codes).chronicle schedule

theorem Reachable.holds (reachable : chronicle.Reachable) :
    Trampoline.Kept Nesting chronicle.history chronicle.pool.situation := by
  obtain ⟨memory, codes, schedule, rfl⟩ := reachable
  apply (Nesting.invariant.chronicle memory codes _ schedule).kept
  rw [Pool.situation_opening]
  exact .of_nothing

/-! ### Registrations that do not panic -/

/-- Panics come to no spared boundary, and no registration has attempted one. -/
structure Spares (spared : Completer → Bool) (chronicle : Chronicle Memory) : Prop where
  sheltered : ∀ worker ∈ chronicle.pool.workers, worker.focus.Sheltered spared
  unattempted : ∀ run thread epoch outcome,
    Record.mk run thread (.attempted epoch outcome .registration) ∈ chronicle.history →
      spared ⟨run, epoch⟩ = false

theorem Spares.move {spared : Completer → Bool} (spares : chronicle.Spares spared) (position : Nat)
    (calm : ∀ run epoch registration token pending,
      .reached epoch registration token pending ∈ course run (chronicle.move position).history →
        spared ⟨run, epoch⟩ = true → registration.mayPanic = false) :
    (chronicle.move position).Spares spared := by
  rcases chronicle.pool.move_cases position with ⟨before, worker, rest, workers, moved⟩ | still
  · have worked := spares.sheltered worker (by simp [workers])
    have history : (chronicle.move position).history =
        chronicle.history ++ (worker.machine chronicle.pool.host).records := by
      simp only [Chronicle.move, moved]
    constructor
    · have next : ((worker.machine chronicle.pool.host).next).focus.Sheltered spared := by
        refine Machine.sheltered_next _ ?_ worked
        intro run pending token registration callers here live marked
        refine calm run _ registration token pending ?_ marked
        rw [history, course_append]
        exact List.mem_append_right _ (Machine.reached_mem_course here live)
      simp only [Chronicle.move, moved, List.mem_append, List.mem_cons]
      rintro other (early | rfl | late)
      · exact spares.sheltered other (by simp [workers, early])
      · exact next
      · exact spares.sheltered other (by simp [workers, late])
    · intro run thread epoch outcome member
      rw [history, List.mem_append] at member
      rcases member with early | now
      · exact spares.unattempted run thread epoch outcome early
      · obtain ⟨⟨_, _⟩, noted, same⟩ := List.mem_map.1 now
        cases same
        obtain ⟨callers, completes, maker⟩ :=
          (Machine.shows_of_old noted (by simp)).attempted
        rw [show worker.focus = _ from completes] at worked
        exact worked.2 maker.symm
  · have same : chronicle.move position = chronicle := by
      simp only [Chronicle.move, still, List.append_nil]
    rwa [same]

/-- Boundaries are spared if those of them that are ever reached have registrations that do not
panic. -/
theorem Reachable.spares (reachable : chronicle.Reachable) {spared : Completer → Bool}
    (calm : ∀ run epoch registration token pending,
      .reached epoch registration token pending ∈ course run chronicle.history →
        spared ⟨run, epoch⟩ = true → registration.mayPanic = false) :
    chronicle.Spares spared := by
  obtain ⟨memory, codes, schedule, whole⟩ := reachable
  -- What has been reached by any move on the way is reached in the end.
  have onTheWay : chronicle.history <+: chronicle.history → chronicle.Spares spared := by
    refine whole ▸ Pool.chronicle_induction
      (motive := fun earlier => earlier.history <+: chronicle.history → earlier.Spares spared)
      (Pool.opening memory codes) ?_ ?_ schedule
    · intro _
      constructor
      · intro worker member
        obtain ⟨position, name, rfl⟩ := List.mem_mapIdx.1 member
        exact ⟨trivial, .inl rfl⟩
      · intro run thread epoch outcome member
        cases member
    · intro earlier position inductionHypothesis isPrefix
      have before : earlier.history <+: (earlier.move position).history := List.prefix_append _ _
      refine (inductionHypothesis (before.trans isPrefix)).move position ?_
      intro run epoch registration token pending reached
      exact calm run epoch registration token pending ((isPrefix.filterMap _).subset reached)
  exact onTheWay (List.prefix_refl _)

/-- A boundary that its registration has attempted is not for the rest of a plan. -/
theorem Reachable.mayPanic_of_attempted (reachable : chronicle.Reachable) {thread : Nat}
    {outcome : Outcome Value} {registration : Registration Memory} {token : Token}
    {pending : Stack (Frame Memory)}
    (reached : .reached epoch registration token pending ∈ course run chronicle.history)
    (attempted : Record.mk run thread (.attempted epoch outcome .registration) ∈ chronicle.history) :
    registration.mayPanic = true := by
  cases panics : registration.mayPanic with
  | true => rfl
  | false =>
      have spares : chronicle.Spares fun completer => decide (completer = ⟨run, epoch⟩) := by
        refine reachable.spares ?_
        intro other number another current saved again marked
        cases of_decide_eq_true marked
        rw [← (reachable.holds.ledger.reached_eq reached again).1, panics]
      have unmarked := spares.unattempted run thread epoch outcome attempted
      simp at unmarked

theorem Reachable.refusal?_finishing (reachable : chronicle.Reachable) {head : Plan Memory}
    {frames saved : Stack (Frame Memory)} {token : Token}
    (reached : .reached epoch (.finishing head frames) token saved ∈ course run chronicle.history) :
    chronicle.refusal? run epoch = none := by
  cases refused : chronicle.refusal? run epoch with
  | none => rfl
  | some outcome =>
      obtain ⟨thread, attempted⟩ := attempted_of_refusal? refused
      cases reachable.mayPanic_of_attempted reached attempted

theorem Reachable.refusal?_of_finishing (reachable : chronicle.Reachable)
    {registration : Registration Memory} {token : Token} {saved : Stack (Frame Memory)}
    (reached : .reached epoch registration token saved ∈ course run chronicle.history)
    (head : Plan Memory) (frames : Stack (Frame Memory))
    (finishes : registration = .finishing head frames) : chronicle.refusal? run epoch = none := by
  subst finishes
  exact reachable.refusal?_finishing reached

end Chronicle

end Trampoline
