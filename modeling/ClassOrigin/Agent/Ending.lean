/-
How computations end that are run apart from the rest of the program.

Such a computation returns, or breaks down on the way; what breaks down may leave a message. Neither
does any harm to what runs it.

* **`Ending`** is either of both, **`breakdownText`** the text for a breakdown.
-/
namespace ClassOrigin

/-- The end of a computation that is run apart. -/
inductive Ending (α : Type)
  | returned (result : α)
  | brokeDown (message : Option String)
deriving DecidableEq

/-- What a breakdown is reported with. -/
def breakdownText (message : Option String) : String :=
  message.getD "<non-string panic payload>"

end ClassOrigin
