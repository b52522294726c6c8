import Trampoline.Settings
import Trampoline.Text.Numeral

/-!
Settings read from two environment variables.

A variable is unset or holds bytes; bytes that are not the encoding of a text count as unset.  The
capacity is a numeral with blanks allowed around it, the name is taken as it stands.  A variable
that is unset leaves the default.
-/

namespace Trampoline.Settings

structure Variables where
  capacity : Option ByteArray := none
  label : Option ByteArray := none

def capacityVariable : String := "EFFECT_INITIAL_STACK_CAPACITY"

def labelVariable : String := "EFFECT_THREAD_NAME_PREFIX"

namespace Variables

def text? (value : Option ByteArray) : Option String :=
  value.bind String.fromUTF8?

def capacity? (given : Variables) : Except Fault (Option Nat) :=
  match text? given.capacity with
  | none => .ok none
  | some text =>
      match Text.readNumeral (Text.trimmed text.toList) with
      | .ok capacity => .ok (some capacity)
      | .error fault => .error (.unreadable capacityVariable fault.message)

def settings (given : Variables) : Except Fault Settings :=
  match given.capacity? with
  | .error fault => .error fault
  | .ok capacity =>
      let defaults : Settings := {}
      checked
        { stackCapacity := capacity.getD defaults.stackCapacity
          threadLabel := (text? given.label).getD defaults.threadLabel }

end Variables

end Trampoline.Settings
