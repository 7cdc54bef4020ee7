/-
Percent encoding: a byte written as a percent sign and two hexadecimal digits.

* **`Percent.decode`** replaces every byte written like this; any other percent sign stands for
  itself.
-/
import ClassOrigin.Bytes

namespace ClassOrigin.Percent

/-- The value of a hexadecimal digit. -/
def hexValue? (b : UInt8) : Option UInt8 :=
  if 0x30 ≤ b ∧ b ≤ 0x39 then some (b - 0x30)
  else if 0x41 ≤ b ∧ b ≤ 0x46 then some (b - 0x37)
  else if 0x61 ≤ b ∧ b ≤ 0x66 then some (b - 0x57)
  else none

/-- Decodes percent-encoded bytes onto `acc`, which holds the earlier bytes in reverse. -/
def decodeOnto (acc : Bytes) : Bytes → Bytes
  | [] => acc.reverse
  | 0x25 :: a :: b :: rest =>
    match hexValue? a, hexValue? b with
    | some high, some low => decodeOnto ((high * 16 + low) :: acc) rest
    | _, _ => decodeOnto (0x25 :: acc) (a :: b :: rest)
  | a :: rest => decodeOnto (a :: acc) rest

/-- Replaces each percent sign with two hexadecimal digits by the byte they name. -/
def decode (bytes : Bytes) : Bytes :=
  decodeOnto [] bytes

end ClassOrigin.Percent
