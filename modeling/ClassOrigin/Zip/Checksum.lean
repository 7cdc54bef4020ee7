/-
The CRC-32 checksum of archive entries.

* **`Crc32.ofBytes`** divides by the reversed polynomial `EDB88320`, bit by bit.
-/
import ClassOrigin.Bytes

namespace ClassOrigin.Crc32

/-- Divides one bit out. -/
def stepBit (crc : UInt32) : UInt32 :=
  if crc &&& 1 = 1 then (crc >>> 1) ^^^ 0xEDB88320 else crc >>> 1

/-- Takes one byte in. -/
def stepByte (crc : UInt32) (b : UInt8) : UInt32 :=
  (stepBit ∘ stepBit ∘ stepBit ∘ stepBit ∘ stepBit ∘ stepBit ∘ stepBit ∘ stepBit)
    (crc ^^^ b.toUInt32)

/-- The checksum of a byte string. -/
def ofBytes (bytes : Bytes) : UInt32 :=
  (bytes.foldl stepByte 0xFFFFFFFF) ^^^ 0xFFFFFFFF

end ClassOrigin.Crc32
