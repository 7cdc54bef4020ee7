/-
Numbers in JSON texts.

A number without fraction and exponent that fits 64 bits is an integer. Any other is a float: its
digits are gathered as long as they fit 64 bits, and what they amount to is multiplied or divided
by a power of ten. A number too large for a float is refused. A float is written with an exponent
when its first digit stands far from the point.

* **`Json.number?`** reads a number from the front of a text.
-/
import ClassOrigin.Decimal.Shortest
import ClassOrigin.Document.Basic

namespace ClassOrigin.Json

/-- The value of a decimal digit. -/
def digitValue (c : Char) : Nat :=
  c.toNat - '0'.toNat

/-- The largest number of 64 bits. -/
def largest : Nat :=
  0xFFFFFFFFFFFFFFFF

/-- Appends digits to `significand` until one no longer fits; gives the number with the digits that
are left. -/
def gather (significand : Nat) : List Char → Nat × List Char
  | [] => (significand, [])
  | c :: rest =>
    let next := significand * 10 + digitValue c
    if next ≤ largest then gather next rest else (significand, c :: rest)

/-- The float `significand * 10 ^ exponent`, computed in floats. -/
def float? (significand : Nat) (exponent : Int) : Option Float :=
  let value := Float.ofNat significand
  let power (n : Nat) := Float.ofScientific 1 false n
  if significand = 0 then some value
  else if 308 < exponent then none
  else if 0 ≤ exponent then
    let product := value * power exponent.toNat
    if product.isInf then none else some product
  else if -308 ≤ exponent then some (value / power (-exponent).toNat)
  else if -616 ≤ exponent then some (value / power 308 / power (-exponent - 308).toNat)
  else some 0.0

/-- Floats have no exponent from `0.00001` on and below `1e+16`; a tie goes to the even digit. -/
def floatStyle : Shortest.Style where
  tie := .toEven
  least := some (-5)
  most := some 15

/-- A float as a value. -/
def float (x : Float) : Document :=
  .float (Shortest.render floatStyle x)

/-- The number with these parts: the digits before and after the point, and the exponent. -/
def assemble? (negative : Bool) (whole : List Char) (fraction : Option (List Char))
    (exponent : Option Int) : Option Document :=
  let (significand, left) := gather 0 whole
  match left, fraction, exponent with
  | [], none, none =>
    if ! negative then some (.integer significand)
    else if significand = 0 ∨ 0x8000000000000000 < significand then
      some (float (-Float.ofNat significand))
    else some (.integer (-significand))
  | _, _, _ => do
    let places := fraction.getD []
    let (significand, rest) := gather significand places
    let scale : Int := left.length - (places.length - rest.length : Nat)
    let value ← float? significand (scale + exponent.getD 0)
    some (float (if negative then -value else value))

/-- The value of a list of decimal digits. -/
def natural (digits : List Char) : Nat :=
  digits.foldl (fun n c => n * 10 + digitValue c) 0

/-- The digits at the front of a text, at least one. -/
def digits? (text : List Char) : Option (List Char × List Char) :=
  match text.span Char.isDigit with
  | ([], _) => none
  | (digits, rest) => some (digits, rest)

/-- The digits behind a point, if there is one. -/
def fraction? : List Char → Option (Option (List Char) × List Char)
  | '.' :: rest => (digits? rest).map fun (digits, rest) => (some digits, rest)
  | text => some (none, text)

/-- The exponent, if there is one. -/
def exponent? : List Char → Option (Option Int × List Char)
  | 'e' :: rest | 'E' :: rest =>
    let (negative, rest) :=
      match rest with
      | '+' :: rest => (false, rest)
      | '-' :: rest => (true, rest)
      | rest => (false, rest)
    (digits? rest).map fun (digits, rest) =>
      let value : Int := natural digits
      (some (if negative then -value else value), rest)
  | text => some (none, text)

/-- A number at the front of a text. Zero is the only number that starts with a zero digit. -/
def number? (text : List Char) : Option (Document × List Char) := do
  let (negative, text) :=
    match text with
    | '-' :: rest => (true, rest)
    | text => (false, text)
  let (whole, rest) ← digits? text
  if whole.head? = some '0' ∧ whole.length ≠ 1 then none
  else
    let (fraction, rest) ← fraction? rest
    let (exponent, rest) ← exponent? rest
    let value ← assemble? negative whole fraction exponent
    some (value, rest)

end ClassOrigin.Json
