/-
Labels that are written in ASCII.

Such a label lists its ASCII characters, a hyphen, and the others in the order of their code
points. For each of these a number is written, its lowest digit first: how far to go from the last
one, counted in steps that run through all places of the label before the code point grows by one.
A digit below a threshold is the last one of its number, and the thresholds follow the size of the
numbers before.

* **`Punycode.decode?`** reads a label.
-/
namespace ClassOrigin.HostName.Punycode

/-- The number of different digits. -/
def base : Nat := 36

/-- The value of a digit: letters first, then decimal digits. -/
def digitValue? (c : Char) : Option Nat :=
  if 'a' ≤ c ∧ c ≤ 'z' then some (c.toNat - 'a'.toNat)
  else if 'A' ≤ c ∧ c ≤ 'Z' then some (c.toNat - 'A'.toNat)
  else if c.isDigit then some (c.toNat - '0'.toNat + 26)
  else none

/-- The threshold of the digit at a position, which counts in steps of `base`. -/
def threshold (position bias : Nat) : Nat :=
  if position ≤ bias then 1 else if bias + 26 ≤ position then 26 else position - bias

/-- Scales a number down; gives what is left with the bias that this amounts to. -/
def scale (delta bias : Nat) : Nat × Nat :=
  if 455 < delta then scale (delta / 35) (bias + base) else (delta, bias)
termination_by delta
decreasing_by exact Nat.div_lt_self (by omega) (by omega)

/-- The bias behind a number. -/
def adapt (delta length : Nat) (isFirst : Bool) : Nat :=
  let delta := if isFirst then delta / 700 else delta / 2
  let (delta, bias) := scale (delta + delta / length) 0
  bias + base * delta / (delta + 38)

/-- Where decoding stands. -/
structure Progress where
  /-- The label so far. -/
  label : List Char
  /-- The last code point that was put in. -/
  codePoint : Nat := 0x80
  /-- The place behind it. -/
  start : Nat := 0
  bias : Nat := 72
  /-- The place that the digits of the next number lead to, so far. -/
  place : Nat := 0
  /-- What the next digit counts. -/
  weight : Nat := 1
  /-- The position of the next digit. -/
  position : Nat := base

/-- Puts in the character that a finished number leads to. -/
def Progress.insert? (progress : Progress) (place : Nat) : Option Progress :=
  let length := progress.label.length + 1
  let codePoint := progress.codePoint + place / length
  let start := place % length
  if codePoint.isValidChar then
    some {
      label := progress.label.take start ++ Char.ofNat codePoint :: progress.label.drop start
      codePoint
      start := start + 1
      bias := adapt (place - progress.start) length (progress.start == 0)
      place := start + 1 }
  else none

/-- Takes a digit. -/
def Progress.take? (progress : Progress) (c : Char) : Option Progress := do
  let digit ← digitValue? c
  let limit := threshold progress.position progress.bias
  let place := progress.place + digit * progress.weight
  if digit < limit then progress.insert? place
  else
    some { progress with
      place
      weight := progress.weight * (base - limit)
      position := progress.position + base }

/-- Splits a label at its last hyphen. Without one all of it is digits. -/
def split (text : List Char) : List Char × List Char :=
  match text.reverse.span fun c => c != '-' with
  | (digits, []) => ([], digits.reverse)
  | (digits, _ :: plain) => (plain.reverse, digits.reverse)

/-- Reads a label. It has to hold a character outside ASCII, and a hyphen only behind one in
ASCII. -/
def decode? (text : List Char) : Option (List Char) := do
  let (plain, digits) := split text
  if digits.isEmpty ∨ text.head? = some '-' ∧ plain.isEmpty then failure
  let progress ← digits.foldlM Progress.take? { label := plain }
  if progress.position ≠ base then failure
  pure progress.label

end ClassOrigin.HostName.Punycode
