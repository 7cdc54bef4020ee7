/-
Byte strings and the big-endian words written into them.

A byte string is a list of bytes, so that readers and writers can be compared by
ordinary list reasoning. It has no greatest length, as there is always room for one more byte.

* **`Bytes.ofWord16`**, **`ofWord32`**, **`ofWord64`** write a word, high byte first;
* **`Bytes.take?`** splits off a counted block, or fails when too few bytes are left.
-/
namespace ClassOrigin

/-- A string of bytes. -/
abbrev Bytes := List UInt8

namespace Bytes

/-- The bytes of a 16-bit word, high byte first. -/
def ofWord16 (w : UInt16) : Bytes :=
  [(w >>> 8).toUInt8, w.toUInt8]

/-- The bytes of a 32-bit word, high byte first. -/
def ofWord32 (w : UInt32) : Bytes :=
  [(w >>> 24).toUInt8, (w >>> 16).toUInt8, (w >>> 8).toUInt8, w.toUInt8]

/-- The bytes of a 64-bit word, high byte first. -/
def ofWord64 (w : UInt64) : Bytes :=
  ofWord32 (w >>> 32).toUInt32 ++ ofWord32 w.toUInt32

/-- The 16-bit word spelled by two bytes, high byte first. -/
def word16 (a b : UInt8) : UInt16 :=
  a.toUInt16 <<< 8 ||| b.toUInt16

/-- The 32-bit word spelled by four bytes, high byte first. -/
def word32 (a b c d : UInt8) : UInt32 :=
  (word16 a b).toUInt32 <<< 16 ||| (word16 c d).toUInt32

/-- The 64-bit word spelled by eight bytes, high byte first. -/
def word64 (a b c d e f g h : UInt8) : UInt64 :=
  (word32 a b c d).toUInt64 <<< 32 ||| (word32 e f g h).toUInt64

/-- Moves `n` bytes from the front onto `acc`, which holds the bytes already taken in reverse. -/
def takeOnto (acc : Bytes) : Nat → Bytes → Option (Bytes × Bytes)
  | 0, rest => some (acc.reverse, rest)
  | _ + 1, [] => none
  | n + 1, b :: rest => takeOnto (b :: acc) n rest

/-- The first `n` bytes and what follows them; nothing when there are fewer than `n`. -/
def take? (n : Nat) (bytes : Bytes) : Option (Bytes × Bytes) :=
  takeOnto [] n bytes

/-- The UTF-8 bytes of a text. -/
def ofText (text : String) : Bytes :=
  text.toUTF8.data.toList

/-- An ASCII capital as its small letter; any other byte as it is. -/
def lowerAscii (b : UInt8) : UInt8 :=
  if 0x41 ≤ b ∧ b ≤ 0x5A then b + 0x20 else b

end Bytes

end ClassOrigin
