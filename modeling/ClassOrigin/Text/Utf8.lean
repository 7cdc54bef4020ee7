/-
UTF-8 as a machine that reads one byte at a time.

The machine either waits for the first byte of a character or has seen some of a longer
form and knows which bytes may follow. A byte that cannot follow closes the unfinished form
as one ill-formed piece and is then read as a first byte again.

* **`Utf8.scan`** gives every character and every ill-formed piece in order;
* **`Utf8.decode?`** accepts exactly the inputs without an ill-formed piece;
* **`Utf8.decodeLossy`** writes U+FFFD for each ill-formed piece.
-/
import ClassOrigin.Bytes

namespace ClassOrigin.Utf8

/-- An unfinished multi-byte form: the bits read so far, how many bytes are still missing, and
the range in which the next one must lie. -/
structure Pending where
  bits : Nat
  missing : Nat
  low : UInt8
  high : UInt8

/-- What a byte in first position does. -/
inductive Lead
  | character (c : Char)
  | opens (form : Pending)
  | broken

/-- Reads a byte in first position. The narrowed ranges after `E0`, `ED`, `F0` and `F4` keep out
overlong forms, surrogates and numbers above U+10FFFF. -/
def lead (b : UInt8) : Lead :=
  if b < 0x80 then .character (Char.ofNat b.toNat)
  else if b < 0xC2 then .broken
  else if b < 0xE0 then .opens ⟨b.toNat % 0x20, 1, 0x80, 0xBF⟩
  else if b = 0xE0 then .opens ⟨0, 2, 0xA0, 0xBF⟩
  else if b = 0xED then .opens ⟨0xD, 2, 0x80, 0x9F⟩
  else if b < 0xF0 then .opens ⟨b.toNat % 0x10, 2, 0x80, 0xBF⟩
  else if b = 0xF0 then .opens ⟨0, 3, 0x90, 0xBF⟩
  else if b < 0xF4 then .opens ⟨b.toNat % 0x08, 3, 0x80, 0xBF⟩
  else if b = 0xF4 then .opens ⟨4, 3, 0x80, 0x8F⟩
  else .broken

/-- The machine's memory: the unfinished form, if any, and the pieces read so far in reverse. -/
structure State where
  form : Option Pending
  pieces : List (Option Char)

/-- Reads a byte where no form is open. -/
def State.start (pieces : List (Option Char)) (b : UInt8) : State :=
  match lead b with
  | .character c => ⟨none, some c :: pieces⟩
  | .opens form => ⟨some form, pieces⟩
  | .broken => ⟨none, none :: pieces⟩

/-- Reads one byte. -/
def State.step (s : State) (b : UInt8) : State :=
  match s.form with
  | none => State.start s.pieces b
  | some form =>
    if form.low ≤ b ∧ b ≤ form.high then
      let bits := form.bits * 0x40 + b.toNat % 0x40
      if form.missing ≤ 1 then ⟨none, some (Char.ofNat bits) :: s.pieces⟩
      else ⟨some ⟨bits, form.missing - 1, 0x80, 0xBF⟩, s.pieces⟩
    else State.start (none :: s.pieces) b

/-- All pieces in order; a form left open at the end is one more ill-formed piece. -/
def State.finish (s : State) : List (Option Char) :=
  match s.form with
  | none => s.pieces.reverse
  | some _ => (none :: s.pieces).reverse

/-- The characters of `bytes`, with `none` for each ill-formed piece. -/
def scan (bytes : Bytes) : List (Option Char) :=
  (bytes.foldl State.step ⟨none, []⟩).finish

/-- The text that `bytes` spell, if they are well formed. -/
def decode? (bytes : Bytes) : Option String :=
  let pieces := scan bytes
  if pieces.all Option.isSome then some (String.ofList (pieces.filterMap id)) else none

/-- The text that `bytes` spell, with U+FFFD for each ill-formed piece. -/
def decodeLossy (bytes : Bytes) : String :=
  String.ofList ((scan bytes).map (·.getD '\uFFFD'))

end ClassOrigin.Utf8
