/-
UTF-16: the 16-bit units of a text, and back.

* **`Utf16.encode`** writes a character above U+FFFF as a surrogate pair;
* **`Utf16.decodeLossy`** reads each properly placed pair as one character and each other
  surrogate as U+FFFD.
-/
namespace ClassOrigin.Utf16

/-- The units of one character. -/
def unitsOfChar (c : Char) : List UInt16 :=
  if c.val < 0x10000 then [c.val.toUInt16]
  else
    let v := c.val - 0x10000
    [((v >>> 10) + 0xD800).toUInt16, ((v &&& 0x3FF) + 0xDC00).toUInt16]

/-- The units of a text. -/
def encode (text : List Char) : List UInt16 :=
  text.flatMap unitsOfChar

/-- The first half of a surrogate pair. -/
def isHigh (u : UInt16) : Bool :=
  0xD800 ≤ u && u < 0xDC00

/-- The second half of a surrogate pair. -/
def isLow (u : UInt16) : Bool :=
  0xDC00 ≤ u && u < 0xE000

/-- The character that a surrogate pair stands for. -/
def ofPair (u v : UInt16) : Char :=
  Char.ofNat (0x10000 + (u.toNat - 0xD800) * 0x400 + (v.toNat - 0xDC00))

/-- The character of a unit on its own: U+FFFD for a surrogate. -/
def ofUnit (u : UInt16) : Char :=
  if isHigh u || isLow u then '\uFFFD' else Char.ofNat u.toNat

/-- Decodes the units in order onto `acc`, which holds the characters before them in reverse. -/
def decodeOnto (acc : List Char) : List UInt16 → List Char
  | [] => acc.reverse
  | [u] => (ofUnit u :: acc).reverse
  | u :: v :: rest =>
    if isHigh u && isLow v then decodeOnto (ofPair u v :: acc) rest
    else decodeOnto (ofUnit u :: acc) (v :: rest)

/-- The text of a unit sequence, with U+FFFD for each unpaired surrogate. -/
def decodeLossy (units : List UInt16) : List Char :=
  decodeOnto [] units

end ClassOrigin.Utf16
