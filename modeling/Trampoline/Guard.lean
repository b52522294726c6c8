/-!
Panics: what is thrown by code that gives up, and what is known of a panic once a guard has caught
it.
-/

namespace Trampoline

/-- What a panic carries: a message, or something that is no text. -/
inductive Payload where
  | message (text : String)
  | other
  deriving DecidableEq, Repr

namespace Payload

def text? : Payload → Option String
  | .message text => some text
  | .other => none

def caughtMessage (payload : Payload) : String :=
  payload.text?.getD "unknown panic"

end Payload

/-- A panic that was caught: its message, its number in the order of capture, and the name of the
thread whose guard caught it. -/
structure Panic where
  message : String
  number : Nat
  thread : Option String
  deriving DecidableEq, Repr

def Panic.report (panic : Panic) : String :=
  let place :=
    match panic.thread with
    | some name => "  in thread '" ++ name ++ "'\n"
    | none => "  in unnamed thread\n"
  "panic #" ++ toString panic.number ++ ": " ++ panic.message ++ "\n" ++ place

end Trampoline
