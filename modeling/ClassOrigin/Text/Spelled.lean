/-
Values spelled out, as messages show them to those who look into the program.

A value is spelled by its name, with what it holds in parentheses, or field by field in braces.
Texts stand in quotes.  In a path, a byte that is no part of a character is written with its two
hexadecimal digits.

* **`Spelled.wrapping`** and **`Spelled.record`** put a value together;
* **`Spelled.bytes`** spells bytes that should be a text.
-/
import ClassOrigin.Text.Quoted
import ClassOrigin.Text.Utf8

namespace ClassOrigin.Spelled

/-- A name with one value in parentheses. -/
def wrapping (name value : String) : String :=
  name ++ "(" ++ value ++ ")"

/-- A name with fields in braces. -/
def record (name : String) (fields : List (String × String)) : String :=
  let written := fields.map fun (field, value) => field ++ ": " ++ value
  name ++ " \x7b " ++ String.intercalate ", " written ++ " \x7d"

/-- The first character that bytes spell, with the number of bytes that it takes besides the
first. -/
def character? (bytes : Bytes) : Option (Char × Nat) :=
  (List.range 4).findSome? fun more =>
    match (Utf8.decode? (bytes.take (more + 1))).map String.toList with
    | some [c] => some (c, more)
    | _ => none

/-- A byte that is no part of a character. -/
def strayByte (b : UInt8) : String :=
  let digits := Nat.toDigits 16 b.toNat
  let padded := List.replicate (2 - digits.length) '0' ++ digits
  "\\x" ++ String.ofList (padded.map Char.toUpper)

/-- What is written for the bytes behind the first `seen`, which belong to a character that is
written already. -/
def pieces : Nat → Bytes → List String
  | _, [] => []
  | seen + 1, _ :: rest => pieces seen rest
  | 0, b :: rest =>
    match character? (b :: rest) with
    | some (c, more) => Quoted.escape c :: pieces more rest
    | none => strayByte b :: pieces 0 rest

/-- Bytes between quotes, as far as possible as a text. -/
def bytes (content : Bytes) : String :=
  "\"" ++ String.join (pieces 0 content) ++ "\""

end ClassOrigin.Spelled
