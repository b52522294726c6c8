import Trampoline.Guard
import Trampoline.Text.Quoted

/-!
Failures of a plan.

An application raises its own errors or plain messages; a panic that was caught fails a plan as
well; an internal failure says that an invariant of the run loop is broken.
-/

namespace Trampoline

inductive AppError where
  | app (text : String)
  | other
  deriving DecidableEq, Repr

inductive Failure where
  | raised (error : AppError)
  | message (text : String)
  | panicked (panic : Panic)
  | internal (text : String)
  deriving DecidableEq, Repr

def AppError.shown : AppError → String
  | .app text => "app: " ++ text
  | .other => "other failure"

namespace Failure

def shown : Failure → String
  | .raised error => error.shown
  | .message text => text
  | .panicked panic => "panicked: " ++ panic.message
  | .internal text => "internal run loop fault: " ++ text

/-- The form of a failure, with its texts quoted; a caught panic has no such form. -/
def form? : Failure → Option String
  | .raised (.app text) => some ("Raised(App(" ++ Text.quoted text ++ "))")
  | .raised .other => some "Raised(Other)"
  | .message text => some ("Message(" ++ Text.quoted text ++ ")")
  | .panicked _ => none
  | .internal text => some ("Internal(" ++ Text.quoted text ++ ")")

def isPanic : Failure → Bool
  | .panicked _ => true
  | _ => false

def isInternal : Failure → Bool
  | .internal _ => true
  | _ => false

end Failure

end Trampoline
