import Trampoline.Datum
import Trampoline.Settings

/-!
What a host writes down while plans run: events of the run loop, panics that were reported, and
notes of the programs themselves.
-/

namespace Trampoline

inductive Level where
  | trace
  | debug
  | warn
  | error
  deriving DecidableEq, Repr

def Level.shown : Level → String
  | .trace => "TRACE"
  | .debug => "DEBUG"
  | .warn => "WARN"
  | .error => "ERROR"

/-- Something the run loop, the token store or the settings report. -/
inductive Event where
  | suspending (epoch : Nat)
  | completedInline (epoch : Nat)
  | resuming (epoch : Nat)
  | stepStopped (pending : Nat)
  | switched (before after : Nat)
  | restored (before after : Nat)
  | observedCancellation (token : Nat)
  | cancellationRequested (token : Nat)
  | continuingOn (context : String)
  | capturedPanic (number : Nat) (message : String)
  | ignoredCompletion (epoch : Nat)
  | receiverPanicked (panic : String)
  | droppedOutcome
  | ignoredVariables (fault : String)
  | settingsInstalled (settings : Settings)
  deriving DecidableEq, Repr

namespace Event

def level : Event → Level
  | .suspending _ | .completedInline _ | .resuming _ | .stepStopped _ => .trace
  | .switched _ _ | .restored _ _ | .observedCancellation _ | .cancellationRequested _ => .debug
  | .continuingOn _ | .capturedPanic _ _ | .settingsInstalled _ => .debug
  | .ignoredCompletion _ | .droppedOutcome | .ignoredVariables _ => .warn
  | .receiverPanicked _ => .error

def message : Event → String
  | .suspending _ => "suspending at async boundary"
  | .completedInline _ => "async boundary completed synchronously"
  | .resuming _ => "resuming run after async boundary"
  | .stepStopped _ => "step stopped with pending continuations"
  | .switched _ _ => "switched cancellation token"
  | .restored _ _ => "restored cancellation token"
  | .observedCancellation _ => "run observed cancellation"
  | .cancellationRequested _ => "cancellation requested"
  | .continuingOn _ => "continuing on execution context"
  | .capturedPanic _ _ => "captured panic from user code"
  | .ignoredCompletion _ => "ignoring completion of an async boundary that is no longer armed"
  | .receiverPanicked _ => "completion callback panicked"
  | .droppedOutcome => "dropping second terminal outcome for a finished run"
  | .ignoredVariables _ => "ignoring invalid run loop environment configuration"
  | .settingsInstalled _ => "run loop configuration installed"

def fields : Event → Datum
  | .suspending epoch | .completedInline epoch | .resuming epoch | .ignoredCompletion epoch =>
      .record [("epoch", .ofNat epoch)]
  | .stepStopped pending => .record [("pending", .ofNat pending)]
  | .switched before after | .restored before after =>
      .record [("from", .ofNat before), ("to", .ofNat after)]
  | .observedCancellation token | .cancellationRequested token =>
      .record [("token", .ofNat token)]
  | .continuingOn context => .record [("context", .text context)]
  | .capturedPanic number message =>
      .record [("count", .ofNat number), ("message", .text message)]
  | .receiverPanicked panic => .record [("panic", .text panic)]
  | .droppedOutcome => .record []
  | .ignoredVariables fault => .record [("error", .text fault)]
  | .settingsInstalled settings => .record [("config", .text settings.form)]

end Event

inductive Entry where
  | event (event : Event)
  /-- A panic was reported; the text is missing if the panic carried none. -/
  | report (text : Option String)
  | note (note : Datum)

end Trampoline
