import Trampoline.Proofs.Panicking

/-!
Payloads that panic when they are dropped.

A guard looks at what it has caught and drops it when it is closed already.  If the payload panics as
it is dropped, that unwinds on from the guard: past the loop, which is given up with its run, up to
the next guard.  So each guard catches one panic, and as many are passed as payloads are loaded.
-/

namespace Trampoline

variable {Memory : Type} {last form : Form}

/-- What is thrown: a payload, and what its destructor throws. -/
inductive Thrown where
  | quiet (payload : Payload)
  | loaded (payload : Payload) (silent : Bool) (next : Thrown)

namespace Thrown

def payload : Thrown → Payload
  | .quiet payload | .loaded payload _ _ => payload

def depth : Thrown → Nat
  | .quiet _ => 0
  | .loaded _ _ next => next.depth + 1

end Thrown

/-- Whether a thread ends with the panic that comes to the caller. -/
def Caller.endsThread {form rest : Form} : Caller Memory form rest → Bool
  | .joining _ _ | .spawning _ => true
  | _ => false

/-- A guard captures a payload and drops it, which throws another one. -/
def Host.drop (host : Host Memory) (payload : Payload) (silent : Bool) (next : Thrown) :
    Host Memory :=
  let caught := (host.capture payload).2
  if silent then caught else caught.report next.payload

namespace Callers

/-- Something is thrown to the callers; it comes to where nothing unwinds any more. -/
def raise {form : Form} :
    Callers Memory last form → Thrown → Host Memory → Machine Memory last
  | .bottom, thrown, host => ⟨.halted (.error thrown.payload), host⟩
  | .push caller callers, thrown, host =>
      if caller.isGuard then
        match thrown with
        | .quiet payload => caller.unwind payload callers host
        | .loaded payload silent next => callers.raise next (host.drop payload silent next)
      else if caller.endsThread then caller.unwind thrown.payload callers host
      else callers.raise thrown host

/-- The guards that something meets on its thread. -/
def guards {form : Form} : Callers Memory last form → Nat
  | .bottom => 0
  | .push caller callers =>
      if caller.isGuard then callers.guards + 1
      else if caller.endsThread then 0
      else callers.guards

def onOneThread {form : Form} : Callers Memory last form → Bool
  | .bottom => true
  | .push caller callers => !caller.endsThread && callers.onOneThread

end Callers

theorem Host.capturedPanics_drop (host : Host Memory) (payload : Payload) (silent : Bool)
    (next : Thrown) : (host.drop payload silent next).capturedPanics = host.capturedPanics + 1 := by
  simp only [drop]
  split
  · rfl
  · exact Host.capturedPanics_report _ _

theorem Host.runs_drop (host : Host Memory) (payload : Payload) (silent : Bool) (next : Thrown) :
    (host.drop payload silent next).runs = host.runs := by
  simp only [drop, report]
  split
  · rfl
  · split <;> rfl

namespace Caller

variable {rest : Form} {caller : Caller Memory form rest}

theorem unwind_of_passes (passes : caller.isGuard = false) (same : caller.endsThread = false)
    (payload : Payload) (callers : Callers Memory last rest) (host : Host Memory) :
    caller.unwind payload callers host = ⟨.unwind payload callers, host⟩ := by
  cases caller with
  | code | waiting | stepping | detaching => rfl
  | joining | spawning => cases same
  | _ => cases passes

theorem unwind_of_endsThread (ends : caller.endsThread = true) (payload : Payload)
    (callers : Callers Memory last rest) (host : Host Memory) :
    (caller.unwind payload callers host).host.capturedPanics = host.capturedPanics ∧
      ∀ ending, (caller.unwind payload callers host).focus ≠ .halted ending := by
  cases caller with
  | joining | spawning => exact ⟨rfl, nofun⟩
  | _ => cases ends

theorem isGuard_of_endsThread (ends : caller.endsThread = true) : caller.isGuard = false := by
  cases caller with
  | joining | spawning => rfl
  | _ => cases ends

theorem focus_unwind_ne_halted (isGuard : caller.isGuard = true) (payload : Payload)
    (callers : Callers Memory last rest) (host : Host Memory)
    (ending : Except Payload (Answer Memory last)) :
    (caller.unwind payload callers host).focus ≠ .halted ending := by
  cases caller with
  | code | waiting | stepping | detaching | joining | spawning => cases isGuard
  | _ => nofun

end Caller

namespace Callers

theorem raise_quiet (callers : Callers Memory last form) (payload : Payload)
    (host : Host Memory) :
    ∃ count, Machine.moves count ⟨.unwind payload callers, host⟩ =
      callers.raise (.quiet payload) host := by
  induction callers with
  | bottom => exact ⟨1, rfl⟩
  | push caller callers inductionHypothesis =>
      unfold raise
      split
      case isTrue => exact ⟨1, rfl⟩
      case isFalse passes =>
        split
        case isTrue => exact ⟨1, rfl⟩
        case isFalse same =>
          obtain ⟨count, comes⟩ := inductionHypothesis
          refine ⟨count + 1, Eq.trans ?_ comes⟩
          exact congrArg (Machine.moves count) (Caller.unwind_of_passes
            (Bool.eq_false_iff.2 passes) (Bool.eq_false_iff.2 same) payload callers host)

/-- Each guard that something meets catches one payload of it. -/
theorem capturedPanics_raise (callers : Callers Memory last form) (thrown : Thrown)
    (host : Host Memory) :
    (callers.raise thrown host).host.capturedPanics =
      host.capturedPanics + min (thrown.depth + 1) callers.guards := by
  induction callers generalizing thrown host with
  | bottom => rfl
  | push caller callers inductionHypothesis =>
      unfold raise guards
      split
      case isTrue isGuard =>
        cases thrown with
        | quiet payload =>
            obtain ⟨_, guards, journal, captured⟩ :=
              caller.captured_unwind isGuard payload callers host
            simp only [captured, Thrown.depth]
            omega
        | loaded payload silent next =>
            simp only [inductionHypothesis, Host.capturedPanics_drop, Thrown.depth]
            omega
      case isFalse =>
        split
        case isTrue ends =>
          rw [(Caller.unwind_of_endsThread ends thrown.payload callers host).1]
          rfl
        case isFalse => exact inductionHypothesis thrown host

/-- It unwinds out of all callers exactly if its payloads are loaded as many times as there are
guards. -/
theorem escapes_iff (callers : Callers Memory last form) (thrown : Thrown) (host : Host Memory) :
    (∃ payload, (callers.raise thrown host).focus = .halted (.error payload)) ↔
      callers.onOneThread = true ∧ callers.guards ≤ thrown.depth := by
  induction callers generalizing thrown host with
  | bottom => simp [raise, onOneThread, guards]
  | push caller callers inductionHypothesis =>
      unfold raise guards onOneThread
      split
      case isTrue isGuard =>
        have same : caller.endsThread = false := by
          refine Bool.eq_false_iff.2 fun ends => ?_
          rw [Caller.isGuard_of_endsThread ends] at isGuard
          cases isGuard
        cases thrown with
        | quiet payload =>
            constructor
            · rintro ⟨_, halted⟩
              exact absurd halted (Caller.focus_unwind_ne_halted isGuard payload callers host _)
            · rintro ⟨_, fewer⟩
              cases fewer
        | loaded payload silent next => simp [inductionHypothesis, Thrown.depth, same]
      case isFalse =>
        split
        case isTrue ends =>
          constructor
          · rintro ⟨_, halted⟩
            exact absurd halted ((Caller.unwind_of_endsThread ends _ _ _).2 _)
          · rintro ⟨one, _⟩
            simp [ends] at one
        case isFalse same =>
          rw [Bool.eq_false_iff.2 same]
          exact inductionHypothesis thrown host

/-- What unwinds out of all callers leaves the runs as they are: none of them is told anything. -/
theorem runs_raise_of_escapes (callers : Callers Memory last form) (thrown : Thrown)
    (host : Host Memory) {payload : Payload}
    (escapes : (callers.raise thrown host).focus = .halted (.error payload)) :
    (callers.raise thrown host).host.runs = host.runs := by
  induction callers generalizing thrown host with
  | bottom => rfl
  | push caller callers inductionHypothesis =>
      unfold raise at escapes ⊢
      split
      case isTrue isGuard =>
        rw [if_pos isGuard] at escapes
        cases thrown with
        | quiet payload =>
            exact absurd escapes (Caller.focus_unwind_ne_halted isGuard payload callers host _)
        | loaded payload silent next =>
            exact (inductionHypothesis next _ escapes).trans (host.runs_drop payload silent next)
      case isFalse passes =>
        rw [if_neg passes] at escapes
        split
        case isTrue ends =>
          rw [if_pos ends] at escapes
          exact absurd escapes ((Caller.unwind_of_endsThread ends _ _ _).2 _)
        case isFalse same =>
          rw [if_neg same] at escapes
          exact inductionHypothesis thrown host escapes

end Callers

/-- Panics stop at the first guard, and the runs go on as if what has panicked had failed; but for
each payload that panics as it is dropped a guard is passed. -/
theorem panics_never_cross :
    (∀ (memory : Memory) (codes : List (Option String × Code Memory .unit))
        (earlier schedule : List Nat),
      ((Pool.opening memory codes).chronicle earlier).Withstands schedule) ∧
    ∀ (last form : Form) (callers : Callers Memory last form) (host : Host Memory),
      (∀ payload, ∃ count, Machine.moves count ⟨.unwind payload callers, host⟩ =
        callers.raise (.quiet payload) host) ∧
      ∀ thrown,
        (callers.raise thrown host).host.capturedPanics =
            host.capturedPanics + min (thrown.depth + 1) callers.guards ∧
          ((∃ payload, (callers.raise thrown host).focus = .halted (.error payload)) ↔
            callers.onOneThread = true ∧ callers.guards ≤ thrown.depth) := by
  constructor
  · exact fun memory codes earlier schedule =>
      Pool.withstands_chronicle memory codes earlier schedule
  · intro last form callers host
    refine ⟨fun payload => callers.raise_quiet payload host, fun thrown => ?_⟩
    exact ⟨callers.capturedPanics_raise thrown host, callers.escapes_iff thrown host⟩

/-- Code that runs a plan whose thunk panics, with a payload that panics when it is dropped: that
unwinds out of the run, which has told nothing and reached no boundary. -/
theorem dropped_payload_crosses :
    let code : Code Unit .unit :=
      .run (.delay fun _ => .panic (.message "first") false) .uncancelable (fun _ => Code.unit)
        fun _ => Code.unit
    let machine := Machine.moves 3 ⟨.code code .bottom, { memory := () }⟩
    ∃ (form : Form) (callers : Callers Unit .unit form),
      machine.focus = .unwind (.message "first") callers ∧
        let thrown := Thrown.loaded (.message "first") false (.quiet (.message "second"))
        let after := callers.raise thrown machine.host
        after.focus = .halted (.error (.message "second")) ∧
          after.host.capturedPanics = 1 ∧ after.host.runs.size = 1 ∧
          after.host.outcome? 0 = none ∧ after.host.boundary? 0 = none :=
  ⟨_, _, rfl, rfl, rfl, rfl, rfl, rfl⟩

end Trampoline
