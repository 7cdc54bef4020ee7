/-
The classes of a runtime on disk: an exploded directory, or an archive.

A class is looked for by its own name and then below `classes/`, which is where modules keep
theirs.

* **`RuntimeImage.read`** reads a file or entry, **`RuntimeImage.readClass`** a class;
* **`RuntimeImage.answer`** is the image as a bootstrap source.
-/
import ClassOrigin.Agent.Probe
import ClassOrigin.Storage.Access
import ClassOrigin.Zip.Archive

namespace ClassOrigin

/-- The place where a runtime keeps its classes. -/
structure RuntimeImage where
  path : Path

/-- Why a class could not be read. -/
inductive ImageFault
  | unreadable (file : Path) (cause : FileFault)
  | cannotOpen (archive : Path) (cause : FileFault)
  | notAnArchive (archive : Path)
  | cannotLocate (name : String) (archive : Path)
  | cannotInflate (name : String) (archive : Path)

/-- The wording of a fault. -/
def ImageFault.message : ImageFault → String
  | .unreadable file cause => s!"cannot read bootstrap class {file.text}: {cause.message}"
  | .cannotOpen archive cause => s!"cannot open {archive.text}: {cause.message}"
  | .notAnArchive archive => s!"{archive.text} is not a zip archive"
  | .cannotLocate name archive => s!"cannot locate {name} in {archive.text}"
  | .cannotInflate name archive => s!"cannot inflate {name} from {archive.text}"

namespace RuntimeImage

variable {m : Type → Type} [Monad m] [FileReader m]

/-- Reads an entry of an archive that is given by its bytes. -/
def readEntry (image : RuntimeImage) (name : String) (bytes : Bytes) :
    Except ImageFault (Option Bytes) :=
  match Archive.ofBytes? bytes with
  | none => .error (.notAnArchive image.path)
  | some archive =>
    match archive.locate name with
    | .absent => .ok none
    | .unusable => .error (.cannotLocate name image.path)
    | .found located =>
      match located.content? with
      | some content => .ok (some content)
      | none => .error (.cannotInflate name image.path)

/-- Reads a file below a directory. -/
def readExploded (image : RuntimeImage) (name : String) : m (Except ImageFault (Option Bytes)) := do
  let file := image.path.join (Path.ofText name)
  if ← FileReader.isFile file then
    match ← FileReader.read file with
    | .ok bytes => pure (.ok (some bytes))
    | .error cause => pure (.error (.unreadable file cause))
  else pure (.ok none)

/-- Reads a file or an entry by its exact name. -/
def read (image : RuntimeImage) (name : String) : m (Except ImageFault (Option Bytes)) := do
  if ← FileReader.isDirectory image.path then image.readExploded name
  else
    match ← FileReader.read image.path with
    | .error cause => pure (.error (.cannotOpen image.path cause))
    | .ok bytes => pure (image.readEntry name bytes)

/-- Reads a class: under its own name or, failing that, below `classes/`. -/
def readClass (image : RuntimeImage) (name : String) : m (Except ImageFault (Option Bytes)) := do
  match ← image.read (name ++ ".class") with
  | .ok none => image.read ("classes/" ++ name ++ ".class")
  | answered => pure answered

/-- The answer of an image for a class. -/
def answer (image : RuntimeImage) (name : String) : m BootstrapAnswer := do
  match ← image.readClass name with
  | .ok (some bytes) => pure (.found bytes)
  | .ok none => pure .absent
  | .error fault => pure (.failed fault.message)

end RuntimeImage

end ClassOrigin
