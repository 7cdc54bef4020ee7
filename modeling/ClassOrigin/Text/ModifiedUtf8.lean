/-
Modified UTF-8, the encoding of strings inside class files.

A text is written unit by unit of its UTF-16 form, each unit as a group of one, two or three
bytes. U+0000 takes the two-byte form, so no zero byte occurs, and a character above U+FFFF is
written as two groups, one per surrogate. ASCII is no case of its own: without U+0000 it comes out
as it is.

* **`ModifiedUtf8.encode`** writes every unit in its shortest permitted group;
* **`ModifiedUtf8.decode?`** accepts every sequence of groups, shortest or not, and replaces
  unpaired surrogates by U+FFFD.
-/
import ClassOrigin.Bytes
import ClassOrigin.Text.Utf16

namespace ClassOrigin.ModifiedUtf8

/-! ### Writing -/

/-- The group of a single unit. -/
def groupOfUnit (u : UInt16) : Bytes :=
  if 0x01 ≤ u && u ≤ 0x7F then [u.toUInt8]
  else if u ≤ 0x7FF then [(u >>> 6).toUInt8 ||| 0xC0, (u &&& 0x3F).toUInt8 ||| 0x80]
  else
    [(u >>> 12).toUInt8 ||| 0xE0, (u >>> 6 &&& 0x3F).toUInt8 ||| 0x80,
      (u &&& 0x3F).toUInt8 ||| 0x80]

/-- The modified UTF-8 form of a text. -/
def encode (text : String) : Bytes :=
  (Utf16.encode text.toList).flatMap groupOfUnit

/-! ### Reading -/

/-- A byte that stands for itself. -/
def isSingle (b : UInt8) : Bool :=
  0x01 ≤ b && b ≤ 0x7F

/-- The first byte of a group of two. -/
def isLeadOfTwo (b : UInt8) : Bool :=
  0xC0 ≤ b && b ≤ 0xDF

/-- The first byte of a group of three. -/
def isLeadOfThree (b : UInt8) : Bool :=
  0xE0 ≤ b && b ≤ 0xEF

/-- A later byte of a group. -/
def isTrail (b : UInt8) : Bool :=
  0x80 ≤ b && b ≤ 0xBF

/-- The unit carried by a group of two. -/
def unitOfTwo (a b : UInt8) : UInt16 :=
  (a &&& 0x1F).toUInt16 <<< 6 ||| (b &&& 0x3F).toUInt16

/-- The unit carried by a group of three. -/
def unitOfThree (a b c : UInt8) : UInt16 :=
  (a &&& 0x0F).toUInt16 <<< 12 ||| (b &&& 0x3F).toUInt16 <<< 6 ||| (c &&& 0x3F).toUInt16

/-- Reads groups to the end of the input onto `acc`, which holds the units before them in
reverse. -/
def unitsOnto (acc : List UInt16) : Bytes → Option (List UInt16)
  | [] => some acc.reverse
  | a :: rest =>
    if isSingle a then unitsOnto (a.toUInt16 :: acc) rest
    else if isLeadOfTwo a then
      match rest with
      | b :: rest => if isTrail b then unitsOnto (unitOfTwo a b :: acc) rest else none
      | [] => none
    else if isLeadOfThree a then
      match rest with
      | b :: c :: rest =>
        if isTrail b && isTrail c then unitsOnto (unitOfThree a b c :: acc) rest else none
      | _ => none
    else none

/-- The units carried by the groups of `bytes`; nothing when `bytes` do not split into groups. -/
def units? (bytes : Bytes) : Option (List UInt16) :=
  unitsOnto [] bytes

/-- The text of a modified UTF-8 string; nothing when `bytes` do not split into groups. -/
def decode? (bytes : Bytes) : Option String :=
  (units? bytes).map fun units => String.ofList (Utf16.decodeLossy units)

end ClassOrigin.ModifiedUtf8
