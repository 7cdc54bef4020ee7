/-
Characters that leave no mark of their own.

* **`Unseen.isUnseen`** holds of control and format characters, separators other than the space,
  fillers, marks that make no unit of their own, and code points that stand for no character or
  for a private one.
-/
import ClassOrigin.Text.Mark
import ClassOrigin.Text.Unassigned

namespace ClassOrigin.Unseen

/-- Control characters. -/
def controls : CodePoints :=
  [(0x0, 0x1F), (0x7F, 0x9F)]

/-- Format characters. -/
def formats : CodePoints :=
  [(0xAD, 0xAD), (0x600, 0x605), (0x61C, 0x61C), (0x6DD, 0x6DD), (0x70F, 0x70F), (0x890, 0x891),
    (0x8E2, 0x8E2), (0x180E, 0x180E), (0x200B, 0x200F), (0x202A, 0x202E), (0x2060, 0x2064),
    (0x2066, 0x206F), (0xFEFF, 0xFEFF), (0xFFF9, 0xFFFB), (0x110BD, 0x110BD), (0x110CD, 0x110CD),
    (0x13430, 0x1343F), (0x1BCA0, 0x1BCA3), (0x1D173, 0x1D17A), (0xE0001, 0xE0001),
    (0xE0020, 0xE007F)]

/-- Separators other than the space. -/
def separators : CodePoints :=
  [(0xA0, 0xA0), (0x1680, 0x1680), (0x2000, 0x200A), (0x2028, 0x2029), (0x202F, 0x202F),
    (0x205F, 0x205F), (0x3000, 0x3000)]

/-- Letters that are there to be left blank. -/
def fillers : CodePoints :=
  [(0x115F, 0x1160), (0x3164, 0x3164), (0xFFA0, 0xFFA0)]

/-- Whether a character leaves no mark of its own. -/
def isUnseen (c : Char) : Bool :=
  [controls, formats, separators, fillers].any (fun set => set.holds c) || Mark.isExtender c ||
    Unassigned.isUnassigned c || Unassigned.isPrivate c

end ClassOrigin.Unseen
