/-
File paths as byte strings, read the way a Unix system reads them.

A path is kept in the spelling it was given in; what it means is its list of components, in which
repeated and trailing slashes and every `.` but a leading one have disappeared and `..` is kept.

* **`Path.components`** is the meaning, **`Path.ofComponents`** the plainest spelling of it;
* **`Path.join`** resolves a path against a base;
* **`Path.stripFront?`** takes a leading path off, component by component;
* **`Path.parent?`** and **`Path.extension?`** look at the last component.
-/
import ClassOrigin.Text.Utf8

namespace ClassOrigin

/-- A path in some spelling. -/
structure Path where
  bytes : Bytes
deriving DecidableEq

namespace Path

/-- The byte that separates components. -/
def slash : UInt8 := 0x2F

/-- The byte `.`. -/
def dot : UInt8 := 0x2E

/-- One step of a path. -/
inductive Component
  | root
  | current
  | parent
  | name (bytes : Bytes)
deriving DecidableEq

/-- The path that a text spells. -/
def ofText (text : String) : Path :=
  ⟨Bytes.ofText text⟩

/-- The text of a path, with U+FFFD in place of what is not UTF-8. -/
def text (p : Path) : String :=
  Utf8.decodeLossy p.bytes

/-- Whether a path starts at the root. -/
def isAbsolute (p : Path) : Bool :=
  p.bytes.head? == some slash

/-! ### Components -/

/-- The pieces of a path between slashes, empty ones included. -/
def pieces (p : Path) : List Bytes :=
  p.bytes.splitOn slash

/-- The component that a piece behind the first one stands for, if any. -/
def Component.ofPiece? (piece : Bytes) : Option Component :=
  if piece = [] ∨ piece = [dot] then none
  else if piece = [dot, dot] then some .parent
  else some (.name piece)

/-- What a path means. A leading `.` counts as a component when the path is relative. -/
def components (p : Path) : List Component :=
  let body := p.pieces.filterMap Component.ofPiece?
  if p.isAbsolute then .root :: body
  else if p.pieces.head? = some [dot] then .current :: body
  else body

namespace Component

/-- The spelling of a component. -/
def bytes : Component → Bytes
  | root => [slash]
  | current => [dot]
  | parent => [dot, dot]
  | name bytes => bytes

end Component

/-- Joins byte strings with a separator between neighbours. -/
def intercalate (separator : Bytes) (parts : List Bytes) : Bytes :=
  (parts.intersperse separator).flatten

/-- Whether two spellings mean the same path. -/
def sameAs (p q : Path) : Bool :=
  p.components == q.components

/-! ### Resolving -/

/-- A path as seen from a base: an absolute path stands for itself, any other is appended behind
a slash. Appending nothing leaves a trailing slash. -/
def join (base p : Path) : Path :=
  if p.isAbsolute then p
  else if base.bytes = [] ∨ base.bytes.getLast? = some slash then ⟨base.bytes ++ p.bytes⟩
  else ⟨base.bytes ++ slash :: p.bytes⟩

/-- The plainest spelling of a list of components, of which only the first may be the root. -/
def ofComponents : List Component → Path
  | .root :: rest => ⟨slash :: intercalate [slash] (rest.map Component.bytes)⟩
  | cs => ⟨intercalate [slash] (cs.map Component.bytes)⟩

/-- The same place without redundant slashes and without `.`. -/
def normalize (p : Path) : Path :=
  ofComponents (p.components.filter (· ≠ .current))

/-- What is left of a list behind a leading list, if it starts with that. -/
def dropFront? {α : Type} [DecidableEq α] : List α → List α → Option (List α)
  | [], rest => some rest
  | _ :: _, [] => none
  | x :: front, y :: rest => if x = y then dropFront? front rest else none

/-- The components of a path behind those of `front`, if it starts with them. -/
def stripFront? (front p : Path) : Option (List Component) :=
  dropFront? front.components p.components

/-! ### The last component -/

/-- A piece that adds nothing to a path. -/
def isRedundant (piece : Bytes) : Bool :=
  piece == [] || piece == [dot]

/-- What stands in front of all names of a path: the root, a leading `.`, or nothing. -/
def origin (p : Path) : Path :=
  if p.isAbsolute then ⟨[slash]⟩
  else if p.pieces.head? = some [dot] then ⟨[dot]⟩
  else ⟨[]⟩

/-- The path without its last component, in its own spelling; nothing for the root and for the
empty path. -/
def parent? (p : Path) : Option Path :=
  match p.pieces.reverse.dropWhile isRedundant with
  | [] => if p.origin.bytes = [dot] then some ⟨[]⟩ else none
  | _ :: before =>
    match before.dropWhile isRedundant with
    | [] => some p.origin
    | kept => some ⟨intercalate [slash] kept.reverse⟩

/-- The last component, if it is a name. -/
def fileName? (p : Path) : Option Bytes :=
  match p.components.getLast? with
  | some (.name bytes) => some bytes
  | _ => none

/-- What follows the last `.` of a file name; nothing when the name has no `.` behind its first
byte. -/
def extensionOf? (name : Bytes) : Option Bytes :=
  let tail := name.reverse.takeWhile (· ≠ dot)
  if tail.length + 1 < name.length then some tail.reverse else none

/-- The extension of the last component. -/
def extension? (p : Path) : Option Bytes :=
  p.fileName?.bind extensionOf?

/-- Whether the extension is `wanted`, whatever the case of its ASCII letters. -/
def hasExtension (p : Path) (wanted : String) : Bool :=
  match p.extension? with
  | some found => found.map Bytes.lowerAscii == Bytes.ofText wanted
  | none => false

end Path

end ClassOrigin
