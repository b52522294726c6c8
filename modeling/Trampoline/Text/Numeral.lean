/-!
Decimal numerals of one machine word: an optional plus sign and then digits `0` to `9`, leading
zeros allowed, with a value below 2^64.

A numeral is read from left to right, and the first fault met is the one reported: at one place a
character that is no digit comes before a value that has grown too large.
-/

namespace Trampoline.Text

inductive NumeralFault where
  | empty
  | invalidDigit
  | tooLarge
  deriving DecidableEq, Repr

def NumeralFault.message : NumeralFault → String
  | .empty => "cannot parse integer from empty string"
  | .invalidDigit => "invalid digit found in string"
  | .tooLarge => "number too large to fit in target type"

def wordBound : Nat := 0x10000000000000000

def digitValue? (character : Char) : Option Nat :=
  if character.isDigit then some (character.toNat - '0'.toNat) else none

/-- Read the remaining digits of a numeral that has `value` so far. -/
def readDigits (value : Nat) : List Char → Except NumeralFault Nat
  | [] => .ok value
  | character :: rest =>
      match digitValue? character with
      | none => .error .invalidDigit
      | some digit =>
          if value * 10 + digit < wordBound then readDigits (value * 10 + digit) rest
          else .error .tooLarge

def readNumeral : List Char → Except NumeralFault Nat
  | [] => .error .empty
  | ['+'] => .error .invalidDigit
  | '+' :: digits => readDigits 0 digits
  | digits => readDigits 0 digits

end Trampoline.Text
