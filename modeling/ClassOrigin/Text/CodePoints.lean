/-
Sets of characters, written as ranges of code points.

* **`CodePoints.holds`** says whether a set holds a character.
-/
namespace ClassOrigin

/-- A set of characters: the first and the last code point of each of its ranges. -/
abbrev CodePoints := List (Nat × Nat)

/-- Whether a set holds a character. -/
def CodePoints.holds (set : CodePoints) (c : Char) : Bool :=
  set.any fun (first, last) => first ≤ c.toNat && c.toNat ≤ last

end ClassOrigin
