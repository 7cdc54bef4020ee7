/-
Addresses in place of host names.

An address of four bytes is written as up to four numbers between dots, the last of which fills all
bytes that are left; a number may be octal or hexadecimal. An address of sixteen bytes is written as
eight groups of hexadecimal digits between colons; a run of zero groups may be left out once, and
the last two groups may be four decimal numbers.

* **`Address.isShort`** and **`Address.isLong`** say whether a text is such an address;
* **`Address.endsInNumber`** says whether a text can only be an address of four bytes.
-/
namespace ClassOrigin.HostName.Address

/-- A text cut at each `separator`. -/
def splitAt (separator : Char) (text : List Char) : List (List Char) :=
  text.splitOnP (· == separator)

/-- Whether a character is a digit in a base up to sixteen. -/
def isDigitIn (base : Nat) (c : Char) : Bool :=
  if base = 8 then '0' ≤ c ∧ c ≤ '7'
  else c.isDigit || (base == 16 && (('a' ≤ c ∧ c ≤ 'f') || ('A' ≤ c ∧ c ≤ 'F')))

/-- The value of a digit. -/
def digitValue (c : Char) : Nat :=
  if c.isDigit then c.toNat - '0'.toNat else c.toLower.toNat - 'a'.toNat + 10

/-- The number that digits stand for; no digits stand for zero. -/
def natural? (base : Nat) (digits : List Char) : Option Nat :=
  if digits.all (isDigitIn base) then
    some (digits.foldl (fun n c => n * base + digitValue c) 0)
  else none

/-- A number: hexadecimal behind `0x`, octal behind another zero, else decimal. -/
def number? : List Char → Option Nat
  | [] => none
  | '0' :: 'x' :: digits | '0' :: 'X' :: digits => natural? 16 digits
  | '0' :: c :: digits => natural? 8 (c :: digits)
  | digits => natural? 10 digits

/-- The parts of a text between dots; a dot at the end is left out. -/
def parts (text : List Char) : List (List Char) :=
  let parts := splitAt '.' text
  if parts.getLast? = some [] then parts.dropLast else parts

/-- Whether the last part of a text is a number, or at least nothing but digits. -/
def endsInNumber (text : List Char) : Bool :=
  (parts text).getLast?.any fun last =>
    (! last.isEmpty && last.all Char.isDigit) || (number? last).isSome

/-- Whether a text is an address of four bytes. -/
def isShort (text : List Char) : Bool :=
  match (parts text).mapM number? with
  | none => false
  | some numbers =>
    match numbers.reverse with
    | [] => false
    | last :: before =>
      before.length ≤ 3 && before.all (· ≤ 0xFF) && last < Nat.pow 256 (4 - before.length)

/-- Whether a text is a number of one byte without a zero in front. -/
def isByte (text : List Char) : Bool :=
  match text with
  | [] => false
  | '0' :: _ :: _ => false
  | digits => (natural? 10 digits).any (· ≤ 0xFF)

/-- Whether a text is four numbers of one byte between dots. -/
def isFourBytes (text : List Char) : Bool :=
  let bytes := splitAt '.' text
  bytes.length == 4 && bytes.all isByte

/-- Whether a text is one group of hexadecimal digits. -/
def isGroup (text : List Char) : Bool :=
  ! text.isEmpty && text.length ≤ 4 && text.all (isDigitIn 16)

/-- How many groups a text between colons stands for; four bytes at the end stand for two. -/
def groups? (mayEndInBytes : Bool) (text : List Char) : Option Nat :=
  if text.isEmpty then some 0
  else
    let groups := splitAt ':' text
    if groups.all isGroup then some groups.length
    else if mayEndInBytes && groups.dropLast.all isGroup && groups.getLast?.any isFourBytes then
      some (groups.length + 1)
    else none

/-- What stands before and behind the first two colons in a row. -/
def aroundGap? : List Char → Option (List Char × List Char)
  | ':' :: ':' :: rest => some ([], rest)
  | c :: rest => (aroundGap? rest).map fun (front, back) => (c :: front, back)
  | [] => none

/-- Whether a text is an address of sixteen bytes. -/
def isLong (text : List Char) : Bool :=
  match aroundGap? text with
  | none => groups? true text == some 8
  | some (front, back) =>
    match groups? false front, groups? true back with
    | some before, some behind => before + behind ≤ 7
    | _, _ => false

end ClassOrigin.HostName.Address
