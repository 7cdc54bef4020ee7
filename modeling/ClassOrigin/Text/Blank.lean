/-
White space as Unicode defines it, and trimming.

* **`Blank.isBlank`** is the property `White_Space`;
* **`Blank.trim`** drops white space at both ends of a text.
-/
namespace ClassOrigin.Blank

/-- Whether a character has the property `White_Space`. -/
def isBlank (c : Char) : Bool :=
  let n := c.toNat
  (0x09 ≤ n && n ≤ 0x0D) || n == 0x20 || n == 0x85 || n == 0xA0 || n == 0x1680 ||
    (0x2000 ≤ n && n ≤ 0x200A) || n == 0x2028 || n == 0x2029 || n == 0x202F || n == 0x205F ||
    n == 0x3000

/-- Drops the characters at both ends that satisfy `p`. -/
def trimBy (p : Char → Bool) (text : List Char) : List Char :=
  ((text.dropWhile p).reverse.dropWhile p).reverse

/-- Drops white space at both ends. -/
def trim (text : String) : String :=
  String.ofList (trimBy isBlank text.toList)

end ClassOrigin.Blank
