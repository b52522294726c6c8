import Trampoline.Plan

/-!
The asynchronous boundaries of one run.

A run has one boundary at a time, and its boundaries are numbered by epochs, without an end.  A
boundary is armed when the run reaches it.  It first waits for the registration to return: a
completion made meanwhile by the registering thread is parked, and the registering loop takes it
up.  Any other completion of an armed boundary resumes the run at once.  A completion of another
epoch, or of a boundary that is not armed, is ignored.
-/

namespace Trampoline

variable {Memory : Type}

/-- Where a run stands with its latest boundary. -/
inductive Phase (Memory : Type) where
  | idle
  | registering (thread : Nat) (pending : Stack (Frame Memory))
  | waiting (pending : Stack (Frame Memory))
  | parked (pending : Stack (Frame Memory)) (outcome : Outcome Value)

structure Boundary (Memory : Type) where
  /-- How many boundaries the run has reached. -/
  epoch : Nat := 0
  /-- The token the run resumes with. -/
  token : Token
  phase : Phase Memory := .idle

/-- What becomes of an attempt to complete a boundary. -/
inductive Completion (Memory : Type) where
  | ignored
  | parked (boundary : Boundary Memory)
  | resumed (boundary : Boundary Memory) (pending : Stack (Frame Memory))

namespace Boundary

def isArmed (boundary : Boundary Memory) : Bool :=
  match boundary.phase with
  | .registering _ _ | .waiting _ => true
  | .idle | .parked _ _ => false

def arm (boundary : Boundary Memory) (token : Token) (thread : Nat)
    (pending : Stack (Frame Memory)) : Boundary Memory :=
  { epoch := boundary.epoch + 1, token, phase := .registering thread pending }

def complete (boundary : Boundary Memory) (epoch thread : Nat) (outcome : Outcome Value) :
    Completion Memory :=
  if boundary.epoch = epoch then
    match boundary.phase with
    | .registering registrar pending =>
        if registrar = thread then .parked { boundary with phase := .parked pending outcome }
        else .resumed { boundary with phase := .idle } pending
    | .waiting pending => .resumed { boundary with phase := .idle } pending
    | .idle | .parked _ _ => .ignored
  else .ignored

/-- The registration of an epoch has returned: take up a parked outcome, or begin to wait. -/
def detach (boundary : Boundary Memory) (epoch : Nat) :
    Option (Outcome Value × Stack (Frame Memory)) × Boundary Memory :=
  if boundary.epoch = epoch then
    match boundary.phase with
    | .registering _ pending => (none, { boundary with phase := .waiting pending })
    | .parked pending outcome => (some (outcome, pending), { boundary with phase := .idle })
    | .idle | .waiting _ => (none, boundary)
  else (none, boundary)

@[simp]
theorem isArmed_arm (boundary : Boundary Memory) (token : Token) (thread : Nat)
    (pending : Stack (Frame Memory)) : (boundary.arm token thread pending).isArmed = true := rfl

@[simp]
theorem epoch_arm (boundary : Boundary Memory) (token : Token) (thread : Nat)
    (pending : Stack (Frame Memory)) :
    (boundary.arm token thread pending).epoch = boundary.epoch + 1 := rfl

/-- A completion is ignored exactly if its boundary is not the armed one. -/
theorem complete_eq_ignored_iff (boundary : Boundary Memory) (epoch thread : Nat)
    (outcome : Outcome Value) :
    boundary.complete epoch thread outcome = .ignored ↔
      ¬(boundary.epoch = epoch ∧ boundary.isArmed = true) := by
  rcases boundary with ⟨current, token, phase⟩
  by_cases same : current = epoch
  · cases phase <;> simp [complete, isArmed, same]
    split <;> simp
  · simp [complete, same]

/-- A completion is parked exactly if the armed boundary is still registering on its thread. -/
theorem complete_eq_parked_iff {boundary after : Boundary Memory} {epoch thread : Nat}
    {outcome : Outcome Value} :
    boundary.complete epoch thread outcome = .parked after ↔
      boundary.epoch = epoch ∧ ∃ pending, boundary.phase = .registering thread pending ∧
        after = { boundary with phase := .parked pending outcome } := by
  rcases boundary with ⟨current, token, phase⟩
  by_cases same : current = epoch
  · cases phase with
    | registering registrar pending =>
        by_cases here : registrar = thread
        · simp [complete, same, here, eq_comm]
        · simp [complete, same, here]
    | idle | waiting | parked => simp [complete, same]
  · simp [complete, same]

/-- A completion resumes the run exactly if the boundary is armed, but not by a registration that
is still running on its thread. -/
theorem complete_eq_resumed_iff {boundary after : Boundary Memory} {epoch thread : Nat}
    {outcome : Outcome Value} {pending : Stack (Frame Memory)} :
    boundary.complete epoch thread outcome = .resumed after pending ↔
      boundary.epoch = epoch ∧
        ((∃ registrar, boundary.phase = .registering registrar pending ∧ registrar ≠ thread) ∨
          boundary.phase = .waiting pending) ∧
        after = { boundary with phase := .idle } := by
  rcases boundary with ⟨current, token, phase⟩
  by_cases same : current = epoch
  · cases phase with
    | registering registrar saved =>
        by_cases here : registrar = thread
        · simp +contextual [complete, same, here]
        · constructor
          · intro accepted
            simp only [complete, same, here, if_true, if_false, Completion.resumed.injEq] at accepted
            obtain ⟨rfl, rfl⟩ := accepted
            exact ⟨same, .inl ⟨registrar, rfl, here⟩, by rw [same]⟩
          · rintro ⟨_, ⟨_, held, _⟩ | held, rfl⟩
            · cases held
              simp [complete, same, here]
            · cases held
    | waiting saved => simp [complete, same, eq_comm, and_comm]
    | idle | parked => simp [complete, same]
  · simp [complete, same]

/-- A registration that returns takes up an outcome exactly if one is parked for its epoch. -/
theorem detach_eq_some_iff {boundary after : Boundary Memory} {epoch : Nat}
    {outcome : Outcome Value} {pending : Stack (Frame Memory)} :
    boundary.detach epoch = (some (outcome, pending), after) ↔
      boundary.epoch = epoch ∧ boundary.phase = .parked pending outcome ∧
        after = { boundary with phase := .idle } := by
  rcases boundary with ⟨current, token, phase⟩
  by_cases same : current = epoch
  · cases phase with
    | parked saved held => simp [detach, same, eq_comm, and_left_comm, and_assoc]
    | idle | registering | waiting => simp [detach, same]
  · simp [detach, same]

/-- Otherwise it begins to wait, or finds that its boundary has been crossed. -/
theorem detach_eq_none {boundary after : Boundary Memory} {epoch : Nat}
    (left : boundary.detach epoch = (none, after)) :
    (∃ thread pending, boundary.epoch = epoch ∧ boundary.phase = .registering thread pending ∧
        after = { boundary with phase := .waiting pending }) ∨
      after = boundary ∧ (boundary.epoch = epoch →
        boundary.phase = .idle ∨ ∃ pending, boundary.phase = .waiting pending) := by
  rcases boundary with ⟨current, token, phase⟩
  by_cases same : current = epoch
  · cases phase with
    | registering thread pending =>
        simp only [detach, same, if_true, Prod.mk.injEq, true_and] at left
        exact .inl ⟨thread, pending, same, rfl, by rw [← left, same]⟩
    | idle | waiting => simp_all [detach]
    | parked => simp [detach, same] at left
  · simp only [detach, same, if_false, Prod.mk.injEq, true_and] at left
    exact .inr ⟨left.symm, fun equal => absurd equal same⟩

end Boundary

end Trampoline
