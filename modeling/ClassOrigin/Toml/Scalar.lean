/-
Values of TOML that are a single word: truth values, numbers, dates and times.

Digits of a number may be grouped by single underscores between them. Integers have 64 bits;
decimal ones have no leading zeros and an optional sign, the others start with `0x`, `0o` or `0b`.
Dates exist in the calendar, and a minute may have a second 60.

* **`Toml.scalar?`** reads a whole word as a value.
-/
import ClassOrigin.Decimal.Shortest
import ClassOrigin.Document.Basic

namespace ClassOrigin.Toml

/-! ### Digits -/

/-- The value of a digit. -/
def digitValue? (c : Char) : Option Nat :=
  if c.isDigit then some (c.toNat - '0'.toNat)
  else if 'a' ≤ c ∧ c ≤ 'f' then some (c.toNat - 'a'.toNat + 10)
  else if 'A' ≤ c ∧ c ≤ 'F' then some (c.toNat - 'A'.toNat + 10)
  else none

/-- Whether a character is a digit in a base up to sixteen. -/
def isDigitIn (base : Nat) (c : Char) : Bool :=
  (digitValue? c).any fun value => value < base

/-- The number that digits stand for. -/
def natural (base : Nat) (digits : List Char) : Nat :=
  digits.foldl (fun n c => n * base + (digitValue? c).getD 0) 0

/-- The digits of a word in which single underscores between digits are allowed. -/
def grouped? (base : Nat) (word : List Char) : Option (List Char) :=
  let broken := (word.zip word.tail).any fun (a, b) => a == '_' && b == '_'
  if word.all (fun c => c == '_' || isDigitIn base c) ∧ ! broken ∧ word ≠ [] ∧
      word.head? ≠ some '_' ∧ word.getLast? ≠ some '_' then
    some (word.filter fun c => c != '_')
  else none

/-- The sign of a word, true for minus, and what stands behind it. -/
def signed : List Char → Bool × List Char
  | '-' :: rest => (true, rest)
  | '+' :: rest => (false, rest)
  | word => (false, word)

/-- The digits of a decimal number that has no leading zeros. -/
def canonical? (word : List Char) : Option (List Char) := do
  let digits ← grouped? 10 word
  if digits.head? = some '0' ∧ word.length ≠ 1 then none else some digits

/-! ### Integers -/

/-- An integer if it has 64 bits. -/
def fitting? (value : Int) : Option Int :=
  if -0x8000000000000000 ≤ value ∧ value < 0x8000000000000000 then some value else none

/-- An integer. -/
def integer? : List Char → Option Int
  | '0' :: 'x' :: word => (grouped? 16 word).bind fun digits => fitting? (natural 16 digits)
  | '0' :: 'o' :: word => (grouped? 8 word).bind fun digits => fitting? (natural 8 digits)
  | '0' :: 'b' :: word => (grouped? 2 word).bind fun digits => fitting? (natural 2 digits)
  | word => do
    let (negative, word) := signed word
    let digits ← canonical? word
    fitting? (if negative then -natural 10 digits else natural 10 digits)

/-! ### Floats -/

/-- The float nearest to `digits * 10 ^ exponent`. Numbers beyond every float are not written out
for it. -/
def nearest (digits : Nat) (exponent : Int) : Float :=
  if digits = 0 then 0.0
  else if 400 < exponent + (digits.log2 * 3 / 10 : Nat) then Float.ofScientific 1 false 400
  else if exponent + (digits.log2 / 3 + 1 : Nat) < -400 then 0.0
  else Float.ofScientific digits (exponent < 0) exponent.natAbs

/-- The exponent of a float with the mark before it; an absent one is zero. -/
def exponent? : List Char → Option Int
  | [] => some 0
  | _ :: word => do
    let (negative, word) := signed word
    let digits ← grouped? 10 word
    some (if negative then -natural 10 digits else natural 10 digits)

/-- Whether a character marks an exponent. -/
def marksExponent (c : Char) : Bool :=
  c == 'e' || c == 'E'

/-- A float: digits with a fraction, an exponent or both. One too large is refused unless it is
negative. -/
def decimalFloat? (word : List Char) : Option Float := do
  let (negative, word) := signed word
  let (whole, rest) := word.span fun c => c != '.' && ! marksExponent c
  let whole ← canonical? whole
  let (places, rest) ←
    match rest with
    | '.' :: rest =>
      let (places, rest) := rest.span fun c => ! marksExponent c
      (grouped? 10 places).map fun places => (places, rest)
    | [] => none
    | rest => some ([], rest)
  let exponent ← exponent? rest
  let value := nearest (natural 10 (whole ++ places)) (exponent - places.length)
  if value.isInf ∧ ! negative then none else some (if negative then -value else value)

/-- A float, one of the special values included. -/
def float? (word : List Char) : Option Float :=
  let (negative, name) := signed word
  if name = "inf".toList then
    some (if negative then -Float.ofScientific 1 false 400 else Float.ofScientific 1 false 400)
  else if name = "nan".toList then some (0.0 / 0.0)
  else decimalFloat? word

/-- Floats never have an exponent; a tie goes up. -/
def floatStyle : Shortest.Style where
  tie := .up

/-! ### Dates and times -/

/-- A number of two digits in a range. -/
def pair? (first last : Nat) (a b : Char) : Option Nat :=
  let value := natural 10 [a, b]
  if a.isDigit ∧ b.isDigit ∧ first ≤ value ∧ value ≤ last then some value else none

/-- How many days a month has. -/
def daysIn (year month : Nat) : Nat :=
  if month = 2 then
    if year % 4 = 0 ∧ (year % 100 ≠ 0 ∨ year % 400 = 0) then 29 else 28
  else if month = 4 ∨ month = 6 ∨ month = 9 ∨ month = 11 then 30
  else 31

/-- What stands behind a date. -/
def afterDate? : List Char → Option (List Char)
  | a :: b :: c :: d :: '-' :: m :: n :: '-' :: e :: f :: rest => do
    let year := natural 10 [a, b, c, d]
    let month ← pair? 1 12 m n
    let _ ← pair? 1 (daysIn year month) e f
    if [a, b, c, d].all Char.isDigit then some rest else none
  | _ => none

/-- What stands behind a time of day. -/
def afterTime? : List Char → Option (List Char)
  | a :: b :: ':' :: c :: d :: ':' :: e :: f :: rest => do
    let _ ← pair? 0 23 a b
    let _ ← pair? 0 59 c d
    let _ ← pair? 0 60 e f
    match rest with
    | '.' :: rest =>
      match rest.span Char.isDigit with
      | ([], _) => none
      | (_, rest) => some rest
    | rest => some rest
  | _ => none

/-- Whether a word is the offset of a time zone, or nothing. -/
def isOffset : List Char → Bool
  | [] | ['Z'] | ['z'] => true
  | [sign, a, b, ':', c, d] =>
    (sign == '+' || sign == '-') && (pair? 0 23 a b).isSome && (pair? 0 59 c d).isSome
  | _ => false

/-- Whether a word is a date, a time of day, or both. -/
def isMoment (word : List Char) : Bool :=
  match afterDate? word with
  | some [] => true
  | some (c :: rest) => (c == 'T' || c == 't' || c == ' ') && (afterTime? rest).any isOffset
  | none => afterTime? word = some []

/-! ### Words -/

/-- The value of a whole word. -/
def scalar? (word : List Char) : Option Document :=
  if word = "true".toList then some (.boolean true)
  else if word = "false".toList then some (.boolean false)
  else if isMoment word then some (.moment (String.ofList word))
  else
    match integer? word with
    | some value => some (.integer value)
    | none => (float? word).map fun value => .float (Shortest.render floatStyle value)

/-- Whether a character belongs to a word. -/
def isWordCharacter (c : Char) : Bool :=
  c.isAlphanum || c == '_' || c == '+' || c == '-' || c == '.' || c == ':'

/-- The word at the front of a text. A date may be followed by a blank and a time of day. -/
def spanWord (text : List Char) : List Char × List Char :=
  match text.span isWordCharacter with
  | (date, ' ' :: c :: rest) =>
    if afterDate? date = some [] ∧ c.isDigit then
      let (time, rest) := (c :: rest).span isWordCharacter
      (date ++ ' ' :: time, rest)
    else (date, ' ' :: c :: rest)
  | parts => parts

end ClassOrigin.Toml
