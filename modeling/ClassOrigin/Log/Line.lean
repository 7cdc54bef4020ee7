/-
Log lines: how messages are written out.

* **`LogEntry.line`** is a line of text, with the level right-aligned and the fields and details
  behind the message;
* **`LogEntry.document`** is a value for a line of JSON.
-/
import ClassOrigin.Json.Printer
import ClassOrigin.Log.Filter

namespace ClassOrigin

/-- The name of a level in capital letters. -/
def LogLevel.title (level : LogLevel) : String :=
  level.name.map Char.toUpper

/-- The value of a field on a line of text. -/
def LogValue.written : LogValue → String
  | .text value => Quoted.quote value
  | .shown value => value

namespace LogEntry

/-- A message as a line of text. -/
def line (entry : LogEntry) : String :=
  let level := entry.level.title
  let aligned := "".pushn ' ' (5 - level.length) ++ level
  let written := entry.fields.map (fun (name, value) => (name, value.written)) ++ entry.details
  let fields := written.map fun (name, value) => " " ++ name ++ "=" ++ value
  aligned ++ " " ++ entry.target ++ ": " ++ entry.message ++ String.join fields

/-- A message as a value. -/
def document (entry : LogEntry) : Document :=
  let contents := entry.fields.map (fun (name, value) => (name, value.content)) ++ entry.details
  let fields := ("message", entry.message) :: contents
  .table [
    ("level", .text entry.level.title),
    ("fields", .table (fields.map fun (name, content) => (name, .text content)) true),
    ("target", .text entry.target)] true

end LogEntry

end ClassOrigin
