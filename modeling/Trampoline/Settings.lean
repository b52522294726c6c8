import Trampoline.Text.Blank
import Trampoline.Text.Quoted

/-!
Settings of the run loop: the room reserved when a stack first overflows, and the name given to the
threads of a context that starts one for each task.

Settings are checked in a fixed order: the capacity against its lower and upper bound, then the
name, which must not be blank.
-/

namespace Trampoline

def version : String := "0.1.0"

structure Settings where
  stackCapacity : Nat := 16
  threadLabel : String := "effect-worker"
  deriving DecidableEq, Repr

namespace Settings

instance : Inhabited Settings := ⟨{}⟩

def maximalCapacity : Nat := 0x100000

inductive Fault where
  | invalid (field message : String)
  | unreadable (name message : String)
  | alreadyInstalled
  deriving DecidableEq, Repr

def Fault.shown : Fault → String
  | .invalid field message => "invalid configuration for '" ++ field ++ "': " ++ message
  | .unreadable name message =>
      "failed to parse environment variable '" ++ name ++ "': " ++ message
  | .alreadyInstalled => "run loop configuration is already initialized"

def fault? (settings : Settings) : Option Fault :=
  if settings.stackCapacity = 0 then
    some (.invalid "initial_stack_capacity" "must be at least 1")
  else if maximalCapacity < settings.stackCapacity then
    some (.invalid "initial_stack_capacity" ("must be at most " ++ toString maximalCapacity))
  else if Text.trimmed settings.threadLabel.toList = [] then
    some (.invalid "thread_name_prefix" "must not be empty")
  else none

def checked (settings : Settings) : Except Fault Settings :=
  match settings.fault? with
  | some fault => .error fault
  | none => .ok settings

def form (settings : Settings) : String :=
  "RunConfig \x7b initial_stack_capacity: " ++ toString settings.stackCapacity ++
    ", thread_name_prefix: " ++ Text.quoted settings.threadLabel ++ " \x7d"

@[simp]
theorem checked_eq_ok_iff (settings result : Settings) :
    settings.checked = .ok result ↔ settings.fault? = none ∧ settings = result := by
  unfold checked
  split <;> simp_all

theorem fault?_default : ({} : Settings).fault? = none := by
  decide

end Settings

end Trampoline
