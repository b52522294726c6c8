import Trampoline.Datum.Compact
import Trampoline.Plan.Kind
import Trampoline.Event

/-!
How panics, failures, outcomes, tokens, plans and journal entries are shown as data.
-/

namespace Trampoline

open Datum (record)

def Panic.view (panic : Panic) : Datum :=
  record
    [("message", .text panic.message), ("n", .ofNat panic.number),
      ("thread", .ofText? panic.thread)]

def Failure.view (failure : Failure) : Datum :=
  let shared (kind : String) : List (String × Datum) :=
    [("kind", .text kind), ("text", .text failure.shown), ("is_panic", .bool failure.isPanic),
      ("is_internal", .bool failure.isInternal)]
  match failure with
  | .raised (.app text) =>
      record (shared "raised" ++ [("app", .text text), ("other", .bool false)])
  | .raised .other => record (shared "raised" ++ [("app", .null), ("other", .bool true)])
  | .message _ => record (shared "message" ++ [("app", .null)])
  | .panicked panic => record (shared "panicked" ++ [("panic", panic.view)])
  | .internal _ => record (shared "internal")

/-- A value as data: the result of an attempt is a record of one field. -/
def Value.view : Value → Datum
  | .datum tree => tree
  | .attempt (.ok value) => record [("ok", value.view)]
  | .attempt (.error failure) => record [("err", failure.view)]

def Outcome.view : Outcome Value → Datum
  | .completed value => record [("completed", value.view)]
  | .failed failure => record [("errored", failure.view)]
  | .canceled => .text "canceled"

def Token.view (token : Token) (status : Token.Status) : Datum :=
  record
    [("id", .ofNat token.number), ("canceled", .bool status.canceled),
      ("cancelable", .bool token.isCancelable), ("children", .ofNat status.children.length),
      ("reason", .ofText? status.reason), ("dbg", .text (token.shown status))]

def Plan.view {Memory : Type} (plan : Plan Memory) : Datum :=
  record
    [("kind", .text plan.kind.shown),
      ("error", (plan.failure?.map Failure.view).getD .null),
      ("dbg", .ofText? plan.form?)]

def Settings.view (settings : Settings) : Datum :=
  record [("capacity", .ofNat settings.stackCapacity), ("prefix", .text settings.threadLabel)]

def Settings.Fault.view (fault : Settings.Fault) : Datum :=
  let kind :=
    match fault with
    | .invalid _ _ => "InvalidValue"
    | .unreadable _ _ => "EnvParseError"
    | .alreadyInstalled => "AlreadyInitialized"
  record [("error", .text kind), ("message", .text fault.shown)]

def Event.view (event : Event) : Datum :=
  record
    [("ev", .text event.level.shown), ("msg", .text event.message), ("fields", event.fields)]

/-- An entry of a journal; events are shown only if they are traced. -/
def Entry.view? (traced : Bool) : Entry → Option Datum
  | .event happened => if traced then some happened.view else none
  | .report message => some (record [("hook", .ofText? message)])
  | .note noted => some noted

def Panic.details (panic : Panic) : Datum :=
  record
    [("panic", panic.view), ("text", .text panic.message), ("format", .text panic.report),
      ("backtrace", .null)]

end Trampoline
