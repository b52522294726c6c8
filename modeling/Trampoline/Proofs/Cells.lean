import Trampoline.Proofs.Completion
import Trampoline.Proofs.Upkeep

/-!
The cells that stand for the boundary of a run.

A word holds the epoch and the phase, and beside it are a cell for the stack that was saved, one for
the outcome that is parked and one for the thread that registers.  Nothing ties these together: each
operation reads and writes the cells it is concerned with, and what it does not find it goes without.
Replaying what has happened to a run shows the boundary that the host keeps for it, so that a
registration that returns finds in the cells what it looks for.

An operation is one move here, so completions are made one at a time.  In a `Race` each access of a
cell is a move.
-/

namespace Trampoline

variable {Memory : Type}

namespace Cells

inductive Word where
  | idle
  | registering
  | waiting
  | parked
  deriving DecidableEq, Repr

end Cells

structure Cells (Memory : Type) where
  epoch : Nat := 0
  word : Cells.Word := .idle
  /-- The stack that was saved when the boundary was armed, until somebody takes it. -/
  saved : Stack (Frame Memory) := {}
  /-- The outcome of a completion that came while the registration was running. -/
  parked : Option (Outcome Value) := none
  /-- The thread that called the latest registration. -/
  registrar : Option Nat := none

namespace Cells

variable {cells : Cells Memory} {boundary : Boundary Memory} {epoch thread : Nat}
  {outcome : Outcome Value}

def arm (cells : Cells Memory) (thread : Nat) (pending : Stack (Frame Memory)) : Cells Memory :=
  { cells with
    epoch := cells.epoch + 1, word := .registering, saved := pending, registrar := some thread }

/-- Complete an epoch: park the outcome on the thread that registers, or else take the stack, to
resume with it. -/
def fire (cells : Cells Memory) (epoch thread : Nat) (outcome : Outcome Value) :
    Option (Stack (Frame Memory)) × Cells Memory :=
  if cells.epoch = epoch ∧ (cells.word = .registering ∨ cells.word = .waiting) then
    if cells.word = .registering ∧ cells.registrar = some thread then
      (none, { cells with parked := some outcome, word := .parked })
    else (some cells.saved, { cells with word := .idle, saved := {} })
  else (none, cells)

/-- The registration of an epoch has returned: begin to wait, or take the parked outcome and the
stack.  If the outcome is missing, nothing goes on. -/
def detach (cells : Cells Memory) (epoch : Nat) :
    Option (Outcome Value × Stack (Frame Memory)) × Cells Memory :=
  if cells.epoch = epoch then
    match cells.word with
    | .registering => (none, { cells with word := .waiting })
    | .parked =>
        match cells.parked with
        | none => (none, { cells with word := .idle })
        | some outcome =>
            (some (outcome, cells.saved),
              { cells with word := .idle, parked := none, saved := {} })
    | .idle | .waiting => (none, cells)
  else (none, cells)

def follow (cells : Cells Memory) (record : Record Memory) : Cells Memory :=
  match record.happening with
  | .reached _ _ _ pending => cells.arm record.thread pending
  | .attempted epoch outcome _ => (cells.fire epoch record.thread outcome).2
  | .returned epoch => (cells.detach epoch).2
  | _ => cells

def after (records : List (Record Memory)) : Cells Memory :=
  records.foldl follow {}

def Holds (cells : Cells Memory) : Phase Memory → Prop
  | .idle => cells.word = .idle
  | .registering thread pending =>
      cells.word = .registering ∧ cells.registrar = some thread ∧ cells.saved = pending
  | .waiting pending => cells.word = .waiting ∧ cells.saved = pending
  | .parked pending outcome =>
      cells.word = .parked ∧ cells.saved = pending ∧ cells.parked = some outcome

def Shows (cells : Cells Memory) : Option (Boundary Memory) → Prop
  | none => cells.epoch = 0 ∧ cells.word = .idle
  | some boundary => cells.epoch = boundary.epoch ∧ cells.Holds boundary.phase

theorem shows_arm {boundary? : Option (Boundary Memory)} (shows : cells.Shows boundary?)
    (token : Token) (thread : Nat) (pending : Stack (Frame Memory)) :
    (cells.arm thread pending).Shows
      (some ((boundary?.getD { token }).arm token thread pending)) := by
  refine ⟨?_, rfl, rfl, rfl⟩
  cases boundary? with
  | none => exact congrArg (· + 1) shows.1
  | some boundary => exact congrArg (· + 1) shows.1

theorem not_armed_of_refused {boundary? : Option (Boundary Memory)} (shows : cells.Shows boundary?)
    (refused : boundary?.all fun boundary =>
      !(decide (boundary.epoch = epoch) && boundary.isArmed)) (same : cells.epoch = epoch) :
    ¬(cells.word = .registering ∨ cells.word = .waiting) := by
  intro armed
  cases boundary? with
  | none => simp [shows.2] at armed
  | some boundary =>
      obtain ⟨current, token, phase⟩ := boundary
      obtain ⟨rfl, held⟩ := shows
      cases phase with
      | idle => simp [show cells.word = .idle from held] at armed
      | registering | waiting => simp [same, Boundary.isArmed] at refused
      | parked => simp [held.1] at armed

theorem shows_fire_of_refused {boundary? : Option (Boundary Memory)} (shows : cells.Shows boundary?)
    (refused : boundary?.all fun boundary =>
      !(decide (boundary.epoch = epoch) && boundary.isArmed))
    (thread : Nat) (outcome : Outcome Value) :
    (cells.fire epoch thread outcome).2.Shows boundary? := by
  have unarmed : ¬(cells.epoch = epoch ∧ (cells.word = .registering ∨ cells.word = .waiting)) := by
    rintro ⟨same, armed⟩
    exact not_armed_of_refused shows refused same armed
  rw [fire, if_neg unarmed]
  exact shows

theorem shows_fire_of_parked {parked : Boundary Memory} (shows : cells.Shows (some boundary))
    (accepted : boundary.complete epoch thread outcome = .parked parked) :
    (cells.fire epoch thread outcome).1 = none ∧
      (cells.fire epoch thread outcome).2.Shows (some parked) := by
  obtain ⟨rfl, pending, phase, rfl⟩ := Boundary.complete_eq_parked_iff.1 accepted
  obtain ⟨same, held⟩ := shows
  rw [phase] at held
  obtain ⟨word, registrar, saved⟩ := held
  simp [fire, same, word, registrar, Shows, Holds, saved]

/-- A completion that resumes the run takes the stack that the boundary was armed with. -/
theorem shows_fire_of_resumed {resumed : Boundary Memory} {pending : Stack (Frame Memory)}
    (shows : cells.Shows (some boundary))
    (accepted : boundary.complete epoch thread outcome = .resumed resumed pending) :
    (cells.fire epoch thread outcome).1 = some pending ∧
      (cells.fire epoch thread outcome).2.Shows (some resumed) := by
  obtain ⟨rfl, phase, rfl⟩ := Boundary.complete_eq_resumed_iff.1 accepted
  obtain ⟨same, held⟩ := shows
  rcases phase with ⟨registrar, phase, elsewhere⟩ | phase
  · rw [phase] at held
    obtain ⟨word, registers, saved⟩ := held
    simp [fire, same, word, registers, elsewhere, saved, Shows, Holds]
  · rw [phase] at held
    obtain ⟨word, saved⟩ := held
    simp [fire, same, word, saved, Shows, Holds]

/-- Cells that show a boundary answer a registration that returns as the boundary does. -/
theorem shows_detach (shows : cells.Shows (some boundary)) (epoch : Nat) :
    (cells.detach epoch).1 = (boundary.detach epoch).1 ∧
      (cells.detach epoch).2.Shows (some (boundary.detach epoch).2) := by
  obtain ⟨current, token, phase⟩ := boundary
  obtain ⟨same, held⟩ := shows
  dsimp only at same held
  by_cases here : current = epoch
  · cases phase with
    | idle | registering | waiting | parked => simp_all [detach, Boundary.detach, Shows, Holds]
  · simp_all [detach, Boundary.detach, Shows]

theorem Shows.parked {boundary? : Option (Boundary Memory)} (shows : cells.Shows boundary?)
    (word : cells.word = .parked) :
    ∃ token outcome, cells.parked = some outcome ∧
      boundary? = some ⟨cells.epoch, token, .parked cells.saved outcome⟩ := by
  cases boundary? with
  | none => simp [shows.2] at word
  | some boundary =>
      obtain ⟨epoch, token, phase⟩ := boundary
      obtain ⟨rfl, held⟩ := shows
      cases phase with
      | idle => simp [show cells.word = .idle from held] at word
      | registering | waiting => simp [held.1] at word
      | parked pending outcome =>
          obtain ⟨_, rfl, parked⟩ := held
          exact ⟨token, outcome, parked, rfl⟩

theorem foldl_of_silent {records : List (Record Memory)}
    (silent : ∀ record ∈ records, record.isSilent = true) : records.foldl follow cells = cells := by
  induction records with
  | nil => rfl
  | cons record rest inductionHypothesis =>
      obtain ⟨quiet, silent⟩ := List.forall_mem_cons.1 silent
      have still : cells.follow record = cells := by
        unfold Record.isSilent at quiet
        unfold follow
        split at quiet <;> simp_all
      rw [List.foldl_cons, still]
      exact inductionHypothesis silent

theorem Shows.of_steady {boundary? after? : Option (Boundary Memory)}
    (shows : cells.Shows boundary?) (steady : Account.Steady boundary? after?) :
    cells.Shows after? := by
  rcases steady with rfl | ⟨boundary, token, rfl, _, rfl⟩
  · exact shows
  · exact shows

theorem after_append (records more : List (Record Memory)) :
    after (records ++ more) = more.foldl follow (after records) :=
  List.foldl_append

theorem upkeep : Upkeep fun (records : List (Record Memory)) boundary? =>
    (after records).Shows boundary? where
  nothing := ⟨rfl, rfl⟩
  silent := by
    intro records more boundary? after? shows silent steady
    rw [after_append, foldl_of_silent silent]
    exact shows.of_steady steady
  reach := by
    intro records boundary? run thread registration token pending shows armed
    rw [after_append]
    exact shows_arm shows token thread pending
  ignore := by
    intro records boundary? run thread epoch outcome maker shows refused
    rw [after_append]
    exact shows_fire_of_refused shows refused thread outcome
  accept := by
    intro records boundary left run thread epoch outcome maker shows _ accepted
    rw [after_append]
    rcases accepted with parked | ⟨pending, resumed⟩
    · exact (shows_fire_of_parked shows parked).2
    · exact (shows_fire_of_resumed shows resumed).2
  returned := by
    intro records boundary run thread epoch shows
    rw [after_append]
    exact (shows_detach shows epoch).2

end Cells

/-- A registration that returns where an outcome is parked goes on with it, and with the stack that
was saved when its boundary was armed. -/
theorem Machine.detach_of_parked {last : Form} (host : Host Memory)
    {callers : Callers Memory last .unit} {run epoch : Nat} {token : Token}
    {records : List (Record Memory)} {openings : List Opening}
    (account : Account records openings (boundaryOf host.runs run))
    (shows : (Cells.after records).Shows (boundaryOf host.runs run))
    (same : (Cells.after records).epoch = epoch) (word : (Cells.after records).word = .parked) :
    ∃ outcome, ∃ reach ∈ reaches records, reach.epoch = epoch ∧
      (attempts epoch records).head? = some ⟨outcome, reach.thread⟩ ∧
      ((Cells.after records).detach epoch).1 = some (outcome, reach.pending) ∧
      (detach run epoch token callers host).focus =
        .goingOn run outcome reach.pending token callers := by
  subst same
  obtain ⟨boundaryToken, outcome, parked, found⟩ := shows.parked word
  have fits := account.fits _ found
  obtain ⟨_, reach, member, sameEpoch, _, saved, attempted⟩ := fits
  refine ⟨outcome, reach, member, sameEpoch, attempted, ?_, ?_⟩
  · simp [Cells.detach, word, parked, saved]
  · rw [focus_detach found, saved]
    simp [Boundary.detach]

end Trampoline
