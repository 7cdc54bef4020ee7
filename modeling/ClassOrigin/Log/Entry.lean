/-
Log entries.

* **`LogEntry`** is one diagnostic message with its named fields.
-/
namespace ClassOrigin

/-- How serious a message is. -/
inductive LogLevel
  | trace | debug | info | warn | error
deriving DecidableEq

/-- The value of a field: a text, which is quoted where messages are written out, or something
that is shown as it is. -/
inductive LogValue
  | text (value : String)
  | shown (value : String)
deriving DecidableEq

/-- The characters of a field's value. -/
def LogValue.content : LogValue → String
  | .text value | .shown value => value

/-- One diagnostic message. -/
structure LogEntry where
  level : LogLevel
  target : String
  message : String
  fields : List (String × LogValue)
  /-- Further fields, written after the others, for those who look into the program. -/
  details : List (String × String)
deriving DecidableEq

end ClassOrigin
