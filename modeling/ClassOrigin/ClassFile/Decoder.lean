/-
Step decoders for the class file format.

A decoder takes the bytes still to be read and gives a value with the bytes behind it, or the
reason why there is none. Words are big-endian.

* **`Decoder.u8`**, **`u16`**, **`u32`**, **`u64`** and **`block`** read fixed amounts;
* **`Decoder.times`** repeats a decoder a counted number of times.
-/
import ClassOrigin.Bytes
import ClassOrigin.ClassFile.Error

namespace ClassOrigin.ClassFile

/-- A reader of a value from the front of a byte string. -/
abbrev Decoder := StateT Bytes (Except Error)

namespace Decoder

/-- One byte. -/
def u8 : Decoder UInt8 := fun
  | a :: rest => .ok (a, rest)
  | [] => .error .unexpectedEnd

/-- A 16-bit word. -/
def u16 : Decoder UInt16 := fun
  | a :: b :: rest => .ok (Bytes.word16 a b, rest)
  | _ => .error .unexpectedEnd

/-- A 32-bit word. -/
def u32 : Decoder UInt32 := fun
  | a :: b :: c :: d :: rest => .ok (Bytes.word32 a b c d, rest)
  | _ => .error .unexpectedEnd

/-- A 64-bit word. -/
def u64 : Decoder UInt64 := fun
  | a :: b :: c :: d :: e :: f :: g :: h :: rest => .ok (Bytes.word64 a b c d e f g h, rest)
  | _ => .error .unexpectedEnd

/-- The next `n` bytes. -/
def block (n : Nat) : Decoder Bytes := fun bytes =>
  match Bytes.take? n bytes with
  | some (taken, rest) => .ok (taken, rest)
  | none => .error .unexpectedEnd

/-- A verdict that reads nothing. -/
def check {α : Type} (verdict : Except Error α) : Decoder Unit := fun bytes =>
  match verdict with
  | .ok _ => .ok ((), bytes)
  | .error e => .error e

/-- Reads `n` more items onto `acc`, which holds the earlier ones in reverse. -/
def timesOnto {α : Type} (item : Decoder α) (acc : List α) : Nat → Decoder (List α)
  | 0 => fun bytes => .ok (acc.reverse, bytes)
  | n + 1 => fun bytes =>
    match item bytes with
    | .ok (x, rest) => timesOnto item (x :: acc) n rest
    | .error e => .error e

/-- Reads `n` items. -/
def times {α : Type} (n : Nat) (item : Decoder α) : Decoder (List α) :=
  timesOnto item [] n

/-- Reads a table: a 16-bit count and that many items. -/
def table {α : Type} (item : Decoder α) : Decoder (List α) := do
  let count ← u16
  times count.toNat item

/-- Succeeds at the end of the input only. -/
def atEnd : Decoder Unit := fun bytes =>
  if bytes.isEmpty then .ok ((), bytes) else .error (.trailingBytes bytes.length)

end Decoder

end ClassOrigin.ClassFile
