/-
Documents: the values that configuration formats write down.

A document is kept as far as it could be read. Where the text stops following its format, the
value that should have stood there is `unreadable` and the lists and tables around it are
incomplete, so that a fault in an earlier part can still be told.

* **`Document`** is a value;
* **`Document.Fault`** says why a value is not what a reader expects, and **`Fault.message?`** puts
  it in words.
-/
import ClassOrigin.Text.Quoted

namespace ClassOrigin

/-- A value of a document. Tables keep the order of their entries. -/
inductive Document where
  | null
  | boolean (value : Bool)
  | integer (value : Int)
  /-- A number that is no integer, in the digits of its format. -/
  | float (written : String)
  | text (value : String)
  /-- A date, a time of day, or both, as it was written. -/
  | moment (value : String)
  | list (items : List Document) (complete : Bool)
  | table (entries : List (String × Document)) (complete : Bool)
  /-- A table that cannot be followed because its first key is no text. -/
  | misnamed (key : Document)
  | unreadable

namespace Document

/-- The formats a document can be written in. -/
inductive Format
  | toml | json
deriving DecidableEq

/-- Why a value is not what a reader expects. -/
inductive Fault
  /-- The text does not follow its format, or nothing more is said about the fault. -/
  | unreadable
  | wrongType (found expected : String)
  | wrongLength (length : Nat) (expected : String)
  | unknownField (name : String) (known : List String)
  | missingField (name : String)
  | repeatedField (name : String)
  | unknownVariant (name : String) (known : List String)
deriving DecidableEq

/-- A name between backquotes. -/
def marked (name : String) : String :=
  "`" ++ name ++ "`"

/-- The choice between known names. -/
def choice : List String → String
  | [a] => marked a
  | [a, b] => marked a ++ " or " ++ marked b
  | names => "one of " ++ ", ".intercalate (names.map marked)

/-- The wording of a fault. A text that does not follow its format has none. -/
def Fault.message? : Fault → Option String
  | .unreadable => none
  | .wrongType found expected => some s!"invalid type: {found}, expected {expected}"
  | .wrongLength length expected => some s!"invalid length {length}, expected {expected}"
  | .unknownField name known => some s!"unknown field {marked name}, expected {choice known}"
  | .missingField name => some s!"missing field {marked name}"
  | .repeatedField name => some s!"duplicate field {marked name}"
  | .unknownVariant name known => some s!"unknown variant {marked name}, expected {choice known}"

/-- How a value is described where another was expected. -/
def description? : Document → Option String
  | .null => some "null"
  | .boolean value => some ("boolean " ++ marked (if value then "true" else "false"))
  | .integer value => some ("integer " ++ marked (toString value))
  | .float written => some ("floating point " ++ marked written)
  | .text value => some ("string " ++ Quoted.quote value)
  | .list _ _ => some "sequence"
  | .moment _ | .table _ _ | .misnamed _ => some "map"
  | .unreadable => none

/-- The fault of a value that stands where something else was expected. -/
def mismatch (found : Document) (expected : String) : Fault :=
  match found.description? with
  | some description => .wrongType description expected
  | none => .unreadable

end Document

end ClassOrigin
