import Trampoline.Settings.Variables
import Trampoline.Token
import Trampoline.Outcome

/-!
Requests: what code may ask of its host without giving up control.

A request has one reply, whose type the request determines.  `Memory` is the type of what programs
share with each other.
-/

namespace Trampoline

/-- The right to complete one asynchronous boundary of a run: the boundary with that epoch. -/
structure Completer where
  run : Nat
  epoch : Nat
  deriving DecidableEq, Repr

inductive Request (Memory : Type) where
  | recall
  | modify (change : Memory → Memory)
  | note (note : Datum)
  | threadName
  /-- Whether the current thread is inside a guard. -/
  | isGuarded
  | capturedPanics
  | silenceGuarded
  | newToken
  | cancel (token : Token) (reason : Option String)
  | push (parent child : Token)
  | pop (parent : Token)
  | status (token : Token)
  /-- Whether the run of a completer waits at a boundary. -/
  | isArmed (completer : Completer)
  | settings
  | installedSettings
  | install (settings : Settings)
  | settingsFrom (given : Settings.Variables)
  /-- A new context that starts a thread for each task. -/
  | newSpawner
  | spawned (spawner : Nat)

abbrev Request.Reply {Memory : Type} : Request Memory → Type
  | .recall => Memory
  | .threadName => Option String
  | .isGuarded | .isArmed _ => Bool
  | .capturedPanics | .newSpawner | .spawned _ => Nat
  | .newToken => Token
  | .pop _ => Option Token
  | .status _ => Token.Status
  | .settings | .settingsFrom _ => Settings
  | .installedSettings => Option Settings
  | .install _ => Except Settings.Fault Unit
  | .modify _ | .note _ | .silenceGuarded | .cancel _ _ | .push _ _ => Unit

end Trampoline
