/-
Writing JSON texts.

* **`Json.quote`** writes a text: a quote, a backslash and control characters are escaped, all else
  stands for itself;
* **`Json.pretty`** writes a value over several lines, two blanks deeper at each level;
* **`Json.compact`** writes a value on one line.
-/
import ClassOrigin.Document.Basic

namespace ClassOrigin.Json

/-- Two small hexadecimal digits. -/
def twoDigits (n : Nat) : String :=
  String.ofList [Nat.digitChar (n / 16), Nat.digitChar (n % 16)]

/-- How one character is written between quotes. -/
def escape (c : Char) : String :=
  match c with
  | '"' => "\\\""
  | '\\' => "\\\\"
  | '\x08' => "\\b"
  | '\x0c' => "\\f"
  | '\n' => "\\n"
  | '\r' => "\\r"
  | '\t' => "\\t"
  | c => if c < ' ' then "\\u00" ++ twoDigits c.toNat else c.toString

/-- A text between quotes. -/
def quote (text : String) : String :=
  "\"" ++ text.foldl (fun written c => written ++ escape c) "" ++ "\""

/-- A value that is neither a list nor a table. -/
def scalar : Document → String
  | .boolean true => "true"
  | .boolean false => "false"
  | .integer value => toString value
  | .float written => written
  | .text value => quote value
  | .moment value => quote value
  | _ => "null"

/-- A line break and the blanks of a level. -/
def lineBreak (level : Nat) : String :=
  "\n" ++ "".pushn ' ' (2 * level)

/-- Parts between two brackets, each on a line of its own. -/
def spread (opening closing : String) (level : Nat) (parts : List String) : String :=
  match parts with
  | [] => opening ++ closing
  | parts =>
    opening ++ lineBreak (level + 1) ++ ("," ++ lineBreak (level + 1)).intercalate parts ++
      lineBreak level ++ closing

mutual

/-- A value at a level, over several lines. -/
def prettyAt (level : Nat) : Document → String
  | .list items _ => spread "[" "]" level (prettyItems (level + 1) items)
  | .table entries _ => spread "\x7b" "\x7d" level (prettyEntries (level + 1) entries)
  | value => scalar value

/-- The items of a list at a level. -/
def prettyItems (level : Nat) : List Document → List String
  | [] => []
  | item :: items => prettyAt level item :: prettyItems level items

/-- The entries of a table at a level. -/
def prettyEntries (level : Nat) : List (String × Document) → List String
  | [] => []
  | (key, value) :: entries =>
    (quote key ++ ": " ++ prettyAt level value) :: prettyEntries level entries

end

/-- A value over several lines. -/
def pretty (value : Document) : String :=
  prettyAt 0 value

mutual

/-- A value on one line. -/
def compact : Document → String
  | .list items _ => "[" ++ ",".intercalate (compactItems items) ++ "]"
  | .table entries _ => "\x7b" ++ ",".intercalate (compactEntries entries) ++ "\x7d"
  | value => scalar value

/-- The items of a list, each on one line. -/
def compactItems : List Document → List String
  | [] => []
  | item :: items => compact item :: compactItems items

/-- The entries of a table, each on one line. -/
def compactEntries : List (String × Document) → List String
  | [] => []
  | (key, value) :: entries => (quote key ++ ":" ++ compact value) :: compactEntries entries

end

end ClassOrigin.Json
