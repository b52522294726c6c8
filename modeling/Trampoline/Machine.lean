import Trampoline.Host

/-!
The states of the machine that runs plans.

A machine has a focus and a host.  The focus says what happens next: code goes on, a loop looks at
its current plan or feeds a result to its frames, a run ends, a boundary is completed, or a panic
unwinds.  Whoever waits for that is on a list of callers, each with the form of answer it takes; a
caller may be a guard, where a panic stops.
-/

namespace Trampoline

/-- What a loop is for: the run with a number, or stepping, which leaves a plan. -/
inductive Purpose : Form → Type where
  | run (run : Nat) : Purpose .unit
  | step : Purpose .plan

/-- A loop over a plan: the frames that are pending and the token that is active. -/
structure Loop (Memory : Type) (form : Form) where
  purpose : Purpose form
  pending : Stack (Frame Memory) := {}
  token : Token

/-- Who waits for an answer of the first form, to answer in the second. -/
inductive Caller (Memory : Type) : Form → Form → Type where
  /-- Code that called something without an answer. -/
  | code {form : Form} (next : Unit → Code Memory form) : Caller Memory .unit form
  /-- Code that waits for a run to end. -/
  | waiting {form : Form} (run : Nat) (next : Option (Outcome Value) → Code Memory form) :
      Caller Memory .unit form
  /-- Code that stepped a plan. -/
  | stepping {form : Form} (next : Nat → Code Memory form) : Caller Memory .plan form
  /-- Code on another thread that waits for this one. -/
  | joining {form : Form} (outer : Thread) (next : Option Value → Code Memory form) :
      Caller Memory .value form
  /-- A spawner on another thread that waits for this one. -/
  | spawning (outer : Thread) : Caller Memory .unit .unit
  /-- Code that opened a guard. -/
  | guarding {form : Form} (next : Except Panic Value → Code Memory form) :
      Caller Memory .value form
  /-- A loop that called a thunk for a plan. -/
  | suspended {form : Form} (loop : Loop Memory form) (onPanic : Panic → Code Memory .failure) :
      Caller Memory .plan form
  /-- A loop that called a thunk for a value. -/
  | delayed {form : Form} (loop : Loop Memory form) (onPanic : Panic → Code Memory .failure) :
      Caller Memory .value form
  /-- A loop that asked which failure a panic of a thunk for a plan is. -/
  | namingSuspended {form : Form} (loop : Loop Memory form) : Caller Memory .failure form
  /-- A loop that asked which failure a panic of a thunk for a value is. -/
  | namingDelayed {form : Form} (loop : Loop Memory form) : Caller Memory .failure form
  /-- A loop that called a continuation or a handler. -/
  | continuing {form : Form} (loop : Loop Memory form) : Caller Memory .plan form
  /-- A loop that called a change of value. -/
  | mapping {form : Form} (loop : Loop Memory form) : Caller Memory .value form
  /-- A loop that asked for the token to run a source under. -/
  | switching {form : Form} (loop : Loop Memory form) (source : Plan Memory)
      (restore : Option (Result → Token → Token → Code Memory .token)) :
      Caller Memory .token form
  /-- A loop that asked for the token to go on with after a result. -/
  | restoring {form : Form} (loop : Loop Memory form) (result : Result) :
      Caller Memory .token form
  /-- A loop that called the registration of a boundary. -/
  | registering (run epoch : Nat) (token : Token) : Caller Memory .unit .unit
  /-- A loop whose registration panicked, which completes the boundary. -/
  | detaching (run epoch : Nat) (token : Token) : Caller Memory .unit .unit
  /-- A run that tells its outcome. -/
  | telling : Caller Memory .unit .unit

namespace Caller

variable {Memory : Type}

def isGuard {form rest : Form} : Caller Memory form rest → Bool
  | .code _ | .waiting _ _ | .stepping _ | .joining _ _ | .spawning _ | .detaching _ _ _ => false
  | _ => true

end Caller

/-- The callers that wait, the innermost first; the outermost answers in the last form. -/
inductive Callers (Memory : Type) (last : Form) : Form → Type where
  | bottom : Callers Memory last last
  | push {form rest : Form} (caller : Caller Memory form rest)
      (callers : Callers Memory last rest) : Callers Memory last form

inductive Focus (Memory : Type) (last : Form) where
  | code {form : Form} (code : Code Memory form) (callers : Callers Memory last form)
  /-- An iteration of a loop starts. -/
  | iterate {form : Form} (loop : Loop Memory form) (current : Plan Memory)
      (callers : Callers Memory last form)
  /-- A result looks for the frame that takes it. -/
  | feed {form : Form} (loop : Loop Memory form) (result : Result)
      (callers : Callers Memory last form)
  | finish (run : Nat) (outcome : Outcome Value) (callers : Callers Memory last .unit)
  | complete (completer : Completer) (outcome : Outcome Value)
      (callers : Callers Memory last .unit)
  | unwind {form : Form} (payload : Payload) (callers : Callers Memory last form)
  /-- The machine has ended, with an answer or a panic. -/
  | halted (ending : Except Payload (Answer Memory last))

structure Machine (Memory : Type) (last : Form) where
  focus : Focus Memory last
  host : Host Memory

end Trampoline
