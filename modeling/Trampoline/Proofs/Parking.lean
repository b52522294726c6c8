import Trampoline.Proofs.Timing
import Trampoline.Proofs.Upkeep

/-!
Where a run is, by its history, and what is parked for it there.

A run is on the thread where a completion of one of its boundaries was last accepted, and before the
first one on the thread that started it.  What is parked at a boundary was accepted on the thread
that is still registering it.
-/

namespace Trampoline

variable {Memory : Type} {run : Nat}

namespace Record

def acceptance? (record : Record Memory) : Option Nat :=
  match record.happening with
  | .crossed _ _ => some record.thread
  | _ => none

def beginning? (record : Record Memory) : Option Nat :=
  match record.happening with
  | .started _ _ _ _ => some record.thread
  | _ => none

end Record

def acceptances (run : Nat) (log : List (Record Memory)) : List Nat :=
  (recordsOf run log).filterMap Record.acceptance?

def beginnings (run : Nat) (log : List (Record Memory)) : List Nat :=
  (recordsOf run log).filterMap Record.beginning?

/-- The thread of the most recently accepted completion of a run, or else the one that started it. -/
def place (run : Nat) (log : List (Record Memory)) : Option Nat :=
  (acceptances run log).getLast?.or (beginnings run log).head?

section Place

variable {log more : List (Record Memory)} {thread : Nat}

theorem acceptances_append (run : Nat) (log more : List (Record Memory)) :
    acceptances run (log ++ more) = acceptances run log ++ acceptances run more := by
  rw [acceptances, recordsOf_append, List.filterMap_append, acceptances, acceptances]

theorem beginnings_append (run : Nat) (log more : List (Record Memory)) :
    beginnings run (log ++ more) = beginnings run log ++ beginnings run more := by
  rw [beginnings, recordsOf_append, List.filterMap_append, beginnings, beginnings]

/-- Whether it neither starts a run nor accepts a completion. -/
def Record.IsStill (run : Nat) (record : Record Memory) : Prop :=
  record.run = run → record.acceptance? = none ∧ record.beginning? = none

theorem acceptances_of_still (still : ∀ record ∈ more, record.IsStill run) :
    acceptances run more = [] := by
  refine List.filterMap_eq_nil_iff.2 fun record member => ?_
  obtain ⟨listed, same⟩ := List.mem_filter.1 member
  exact (still record listed (of_decide_eq_true same)).1

theorem beginnings_of_still (still : ∀ record ∈ more, record.IsStill run) :
    beginnings run more = [] := by
  refine List.filterMap_eq_nil_iff.2 fun record member => ?_
  obtain ⟨listed, same⟩ := List.mem_filter.1 member
  exact (still record listed (of_decide_eq_true same)).2

theorem place_append_of_still (still : ∀ record ∈ more, record.IsStill run) :
    place run (log ++ more) = place run log := by
  rw [place, acceptances_append, beginnings_append, acceptances_of_still still,
    beginnings_of_still still, List.append_nil, List.append_nil, place]

theorem place_of_accepted (accepted : (acceptances run log).getLast? = some thread) :
    place run log = some thread := by
  rw [place, accepted, Option.some_or]

theorem place_of_started {front : List (Record Memory)} {plan : Plan Memory}
    {pending : Stack (Frame Memory)} {token : Token} {receiver : Receiver Memory}
    (before : ∀ record ∈ log, record.IsStill run) (during : ∀ record ∈ front, record.IsStill run) :
    place run (log ++ (front ++ [⟨run, thread, .started plan pending token receiver⟩])) =
      some thread := by
  rw [place, acceptances_append, acceptances_append, beginnings_append, beginnings_append,
    acceptances_of_still before, acceptances_of_still during, beginnings_of_still before,
    beginnings_of_still during]
  simp [acceptances, beginnings, recordsOf, Record.acceptance?, Record.beginning?]

theorem still_of_course (unborn : course run log = []) : ∀ record ∈ log, record.IsStill run := by
  intro record member same
  have noStep := List.filterMap_eq_nil_iff.1 unborn record member
  obtain ⟨other, thread, happening⟩ := record
  obtain rfl : other = run := same
  cases happening <;> first | exact ⟨rfl, rfl⟩ | simp [Happening.isStep] at noStep

end Place

/-! ### What is parked waits on its own thread -/

/-- A parked outcome was accepted on the thread that has called the registration. -/
def Parks (history : List (Record Memory)) (situation : Situation Memory) : Prop :=
  ∀ run boundary pending outcome, boundaryOf situation.runs run = some boundary →
    boundary.phase = .parked pending outcome →
      ∃ reach ∈ reaches (recordsOf run history), reach.epoch = boundary.epoch ∧
        (acceptances run history).getLast? = some reach.thread

theorem Parks.upkeep : Upkeep fun (records : List (Record Memory)) boundary? =>
    ∀ boundary pending outcome, boundary? = some boundary →
      boundary.phase = .parked pending outcome →
        ∃ reach ∈ reaches records, reach.epoch = boundary.epoch ∧
          (records.filterMap Record.acceptance?).getLast? = some reach.thread where
  nothing := nofun
  silent := by
    intro records more boundary? after? parks silent steady boundary pending outcome found parked
    have quiet : more.filterMap Record.acceptance? = [] := by
      apply List.filterMap_eq_nil_iff.2
      intro record member
      have still := silent record member
      unfold Record.isSilent at still
      unfold Record.acceptance?
      split at still <;> simp_all
    rw [reaches_append, Account.reaches_of_silent silent, List.append_nil, List.filterMap_append,
      quiet, List.append_nil]
    rcases steady with rfl | ⟨former, token, _, idle, rfl⟩
    · exact parks boundary pending outcome found parked
    · cases found
      cases idle.symm.trans parked
  reach := by
    intro records boundary? run thread registration token pending _ armed boundary saved outcome
      found parked
    cases found
    cases parked
  ignore := by
    intro records boundary? run thread epoch outcome maker parks _ boundary pending other found
      parked
    rw [reaches_append, List.filterMap_append]
    simpa [reaches, Record.reach?, Record.acceptance?] using
      parks boundary pending other found parked
  accept := by
    intro records boundary after run thread epoch outcome maker _ fits accepted left pending other
      found parked
    cases found
    rcases accepted with accepted | ⟨_, accepted⟩
    · obtain ⟨_, saved, phase, rfl⟩ := Boundary.complete_eq_parked_iff.1 accepted
      simp only [Boundary.Fits, phase] at fits
      obtain ⟨_, _, reach, reached, same, _, _, registrar⟩ := fits
      refine ⟨reach, ?_, same, ?_⟩
      · rw [reaches_append]
        exact List.mem_append_left _ reached
      · rw [List.filterMap_append, registrar]
        exact List.getLast?_concat
    · obtain ⟨_, _, rfl⟩ := Boundary.complete_eq_resumed_iff.1 accepted
      cases parked
  returned := by
    intro records boundary run thread epoch parks left pending outcome found parked
    cases found
    have unchanged : (boundary.detach epoch).2 = boundary := by
      rcases returned : boundary.detach epoch with ⟨_ | ⟨taken, stack⟩, left⟩
      · rw [returned] at parked
        rcases Boundary.detach_eq_none returned with ⟨_, _, _, _, rfl⟩ | ⟨rfl, _⟩
        · cases parked
        · rfl
      · rw [returned] at parked
        obtain ⟨_, _, rfl⟩ := Boundary.detach_eq_some_iff.1 returned
        cases parked
    rw [unchanged] at parked ⊢
    rw [reaches_append, List.filterMap_append]
    simpa [reaches, Record.reach?, Record.acceptance?] using
      parks boundary pending outcome rfl parked

namespace Chronicle.Reachable

variable {chronicle : Chronicle Memory}

theorem parks (reachable : chronicle.Reachable) :
    Parks chronicle.history chronicle.pool.situation := by
  obtain ⟨memory, codes, schedule, rfl⟩ := reachable
  exact Parks.upkeep.chronicle memory codes schedule

theorem accepted_of_parked (reachable : chronicle.Reachable) {opening : Opening}
    (opened : opening ∈ chronicle.pool.situation.openings) {boundary : Boundary Memory}
    {pending : Stack (Frame Memory)} {outcome : Outcome Value}
    (found : boundaryOf chronicle.pool.host.runs opening.run = some boundary)
    (same : boundary.epoch = opening.epoch) (parked : boundary.phase = .parked pending outcome) :
    (acceptances opening.run chronicle.history).getLast? = some opening.thread := by
  obtain ⟨reach, reached, epoch, last⟩ := reachable.parks opening.run boundary pending outcome found
    parked
  have account := reachable.holds.ledger opening.run
  obtain ⟨other, reached', epoch', _, thread⟩ :=
    account.opened opening (List.mem_filter.2 ⟨opened, decide_eq_true rfl⟩)
  rw [last, account.eq_of_epoch_eq reached reached' (by rw [epoch, epoch', same]), thread]

end Chronicle.Reachable

end Trampoline
