import Trampoline.Datum

/-!
The compact text of plain data: no blanks, records in the order of their names.

Inside quotes a quote and a backslash follow a backslash, the five control characters that have a
letter are written with it, the other characters below U+0020 as `\u` and four hexadecimal digits,
and every other character as it is.
-/

namespace Trampoline.Datum

def hexadecimal (value : Nat) : String :=
  String.ofList (Nat.toDigits 16 value)

def quotedCharacter (character : Char) : String :=
  match character with
  | '"' => "\\\""
  | '\\' => "\\\\"
  | '\n' => "\\n"
  | '\r' => "\\r"
  | '\t' => "\\t"
  | '\x08' => "\\b"
  | '\x0c' => "\\f"
  | other =>
      if other.toNat < 0x10 then "\\u000" ++ hexadecimal other.toNat
      else if other.toNat < 0x20 then "\\u00" ++ hexadecimal other.toNat
      else other.toString

def quotedText (text : String) : String :=
  text.foldl (fun written character => written ++ quotedCharacter character) "\"" ++ "\""

mutual

def compact : Datum → String
  | .null => "null"
  | .bool true => "true"
  | .bool false => "false"
  | .int value => toString value
  | .text value => quotedText value
  | .list items => "[" ++ ",".intercalate (compactItems items) ++ "]"
  | .fields entries => "\x7b" ++ ",".intercalate (compactEntries entries) ++ "\x7d"

def compactItems : List Datum → List String
  | [] => []
  | item :: rest => compact item :: compactItems rest

def compactEntries : List (String × Datum) → List String
  | [] => []
  | (name, value) :: rest => (quotedText name ++ ":" ++ compact value) :: compactEntries rest

end

end Trampoline.Datum
