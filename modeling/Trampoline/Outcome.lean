import Trampoline.Datum
import Trampoline.Failure

/-!
Values and outcomes of plans.

A value is plain data or the recorded result of a plan that was attempted.  A run ends with a
value, with a failure, or canceled; cancellation is never a failure.
-/

namespace Trampoline

inductive Value where
  | datum (datum : Datum)
  | attempt (result : Except Failure Value)

instance : Inhabited Value := ⟨.datum .null⟩

abbrev Result := Except Failure Value

inductive Outcome (Alpha : Type) where
  | completed (value : Alpha)
  | failed (failure : Failure)
  | canceled
  deriving Repr

namespace Outcome

variable {Alpha Beta : Type}

def isCompleted : Outcome Alpha → Bool
  | .completed _ => true
  | _ => false

def isFailed : Outcome Alpha → Bool
  | .failed _ => true
  | _ => false

def isCanceled : Outcome Alpha → Bool
  | .canceled => true
  | _ => false

def map (change : Alpha → Beta) : Outcome Alpha → Outcome Beta
  | .completed value => .completed (change value)
  | .failed failure => .failed failure
  | .canceled => .canceled

def result? : Outcome Alpha → Option (Except Failure Alpha)
  | .completed value => some (.ok value)
  | .failed failure => some (.error failure)
  | .canceled => none

def value? : Outcome Alpha → Option Alpha
  | .completed value => some value
  | _ => none

def failure? : Outcome Alpha → Option Failure
  | .failed failure => some failure
  | _ => none

def ofResult : Except Failure Alpha → Outcome Alpha
  | .ok value => .completed value
  | .error failure => .failed failure

def shown (value : Alpha → String) : Outcome Alpha → String
  | .completed result => "completed: " ++ value result
  | .failed failure => "errored: " ++ failure.shown
  | .canceled => "canceled"

@[simp]
theorem result?_ofResult (result : Except Failure Alpha) :
    (ofResult result).result? = some result := by
  cases result <;> rfl

@[simp]
theorem map_id (outcome : Outcome Alpha) : outcome.map id = outcome := by
  cases outcome <;> rfl

end Outcome

end Trampoline
