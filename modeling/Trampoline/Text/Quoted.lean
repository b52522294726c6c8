import Trampoline.Text.Printable

/-!
Quoted text for people: a text between quotes in which every character can be seen.

A quote, a backslash, a tab, a line feed, a carriage return and the null character have escapes of
two characters; a character that is not plain is written by its code point in braces.
-/

namespace Trampoline.Text

def escaped (character : Char) : String :=
  match character with
  | '\x00' => "\\0"
  | '\t' => "\\t"
  | '\n' => "\\n"
  | '\r' => "\\r"
  | '"' => "\\\""
  | '\\' => "\\\\"
  | other =>
      if isPlain other then other.toString
      else "\\u\x7b" ++ String.ofList (Nat.toDigits 16 other.toNat) ++ "\x7d"

def quoted (text : String) : String :=
  text.foldl (fun written character => written ++ escaped character) "\"" ++ "\""

end Trampoline.Text
