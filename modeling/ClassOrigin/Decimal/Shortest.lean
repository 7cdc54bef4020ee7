/-
Shortest decimals of binary numbers.

A finite number is a significand times a power of two. The reals that round to it form an interval
around it, which contains its ends when the significand is even. Among the decimals in that
interval those with the fewest digits are looked for, and of these the one that lies nearest.

* **`Shortest.decimal`** gives those digits with their power of ten;
* **`Shortest.render`** writes a number in a given style, positionally or with an exponent.
-/
namespace ClassOrigin.Shortest

/-- A finite number without its sign, `significand * 2 ^ exponent`. -/
structure Dyadic where
  significand : Nat
  exponent : Int
  /-- The neighbour below is half as far away as the neighbour above. -/
  narrowBelow : Bool

/-- The number with these bits, its sign left out. -/
def Dyadic.ofBits (bits : UInt64) : Dyadic :=
  let exponent := ((bits >>> 52) &&& 0x7FF).toNat
  let fraction := (bits &&& 0xFFFFFFFFFFFFF).toNat
  if exponent = 0 then ⟨fraction, -1074, false⟩
  else ⟨0x10000000000000 + fraction, (exponent : Int) - 1075, fraction = 0 ∧ 1 < exponent⟩

/-- A decimal, `digits * 10 ^ exponent`. -/
structure Decimal where
  digits : Nat
  exponent : Int
deriving DecidableEq

/-- The number `a * b ^ e` as a numerator and a denominator. -/
def scaled (a b : Nat) (e : Int) : Nat × Nat :=
  if 0 ≤ e then (a * b.pow e.toNat, 1) else (a, b.pow (-e).toNat)

/-- How the decimal `d` compares with `quarters / 4 * 2 ^ exponent`. -/
def compareQuarters (d : Decimal) (quarters : Nat) (exponent : Int) : Ordering :=
  let (p, q) := scaled (4 * d.digits) 10 d.exponent
  let (r, s) := scaled quarters 2 exponent
  compare (p * s) (r * q)

/-- Whether the decimal `d` rounds to `x`. -/
def readsBackAs (x : Dyadic) (d : Decimal) : Bool :=
  let low := compareQuarters d (4 * x.significand - if x.narrowBelow then 1 else 2) x.exponent
  let high := compareQuarters d (4 * x.significand + 2) x.exponent
  let even := x.significand % 2 == 0
  (low == .gt || (even && low == .eq)) && (high == .lt || (even && high == .eq))

/-- The neighbours of `x` on the grid of multiples of `10 ^ exponent`, the one below first. -/
def neighbours (x : Dyadic) (exponent : Int) : Decimal × Decimal :=
  let (p, q) := scaled x.significand 2 x.exponent
  let (r, s) := scaled 1 10 exponent
  let below := p * s / (q * r)
  (⟨below, exponent⟩, ⟨below + 1, exponent⟩)

/-- Which of two decimals is taken that lie equally near. -/
inductive Tie
  | up | toEven
deriving DecidableEq

/-- The nearer one of the neighbours below and above `x`. -/
def nearer (tie : Tie) (x : Dyadic) (below above : Decimal) : Decimal :=
  let sum : Decimal := ⟨below.digits + above.digits, below.exponent⟩
  match compareQuarters sum (8 * x.significand) x.exponent with
  | .gt => below
  | .lt => above
  | .eq => if tie = .toEven ∧ below.digits % 2 = 0 then below else above

/-- The decimal on one grid that rounds to `x`, if there is one. -/
def onGrid? (tie : Tie) (x : Dyadic) (exponent : Int) : Option Decimal :=
  let (below, above) := neighbours x exponent
  match readsBackAs x below, readsBackAs x above with
  | true, true => some (nearer tie x below above)
  | true, false => some below
  | false, true => some above
  | false, false => none

/-- Drops zeros at the end of the digits, at most `fuel` of them. -/
def strip : Nat → Decimal → Decimal
  | 0, d => d
  | fuel + 1, d =>
    if d.digits ≠ 0 ∧ d.digits % 10 = 0 then strip fuel ⟨d.digits / 10, d.exponent + 1⟩ else d

/-- The first hit on ever finer grids. The finest of them, one that the number itself lies on,
always has one. -/
def search (tie : Tie) (x : Dyadic) : Nat → Int → Decimal
  | 0, exponent => (neighbours x exponent).1
  | fuel + 1, exponent =>
    match onGrid? tie x exponent with
    | some d => d
    | none => search tie x fuel (exponent - 1)

/-- The shortest decimal that rounds to a number: every finite number is below `10 ^ 310`, and has
less than 1100 decimal places. -/
def decimal (tie : Tie) (x : Dyadic) : Decimal :=
  if x.significand = 0 then ⟨0, 0⟩ else strip 400 (search tie x 1500 310)

/-- The digits of a decimal with a point in their place. -/
def positional (d : Decimal) : String :=
  let digits := Nat.toDigits 10 d.digits
  if 0 ≤ d.exponent then
    String.ofList (digits ++ List.replicate d.exponent.toNat '0' ++ ['.', '0'])
  else
    let places := (-d.exponent).toNat
    let padded := List.replicate (places + 1 - digits.length) '0' ++ digits
    let whole := padded.length - places
    String.ofList (padded.take whole ++ '.' :: padded.drop whole)

/-- The digits of a decimal with a point behind the first of several, and the power of ten. -/
def scientific (d : Decimal) : String :=
  let digits := Nat.toDigits 10 d.digits
  let significand :=
    match digits with
    | first :: second :: rest => first :: '.' :: second :: rest
    | digits => digits
  let power := d.exponent + (digits.length - 1 : Nat)
  String.ofList significand ++ "e" ++ (if 0 ≤ power then "+" else "-") ++ toString power.natAbs

/-- How numbers are written. -/
structure Style where
  tie : Tie
  /-- The powers of ten of the first digit, first and last, for which no exponent is written. An
  absent bound leaves that side open. -/
  least : Option Int := none
  most : Option Int := none

/-- A decimal in some style. -/
def Style.write (style : Style) (d : Decimal) : String :=
  let power := d.exponent + ((Nat.toDigits 10 d.digits).length - 1 : Nat)
  if style.least.all (· ≤ power) && style.most.all (power ≤ ·) then positional d else scientific d

/-- A number in decimal digits. -/
def render (style : Style) (x : Float) : String :=
  if x.isNaN then "NaN"
  else
    let bits := x.toBits
    let sign := if bits >>> 63 = 1 then "-" else ""
    if x.isInf then sign ++ "inf"
    else sign ++ style.write (decimal style.tie (Dyadic.ofBits bits))

end ClassOrigin.Shortest
