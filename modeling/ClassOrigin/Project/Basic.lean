/-
Projects, as far as finding their sources needs them.

* **`EntryKind`** tells archives from directories on a classpath, **`EntryKind.infer`** guesses
  from the name;
* **`Project`** is what is known about a project: for each declared entry what it resolves to, or
  why it does not.
-/
import ClassOrigin.Storage.Access

namespace ClassOrigin

/-- What an entry of a classpath is. -/
inductive EntryKind
  | directory | jar
deriving DecidableEq

namespace EntryKind

/-- The kind of an entry, guessed from its name alone. -/
def infer (p : Path) : EntryKind :=
  if p.hasExtension "jar" || p.hasExtension "zip" then jar else directory

/-- The name of a kind. -/
def name : EntryKind → String
  | directory => "directory"
  | jar => "jar"

end EntryKind

/-- An entry of a classpath, with its attached sources if they are known. -/
structure Dependency where
  kind : EntryKind
  location : Path
  sources : Option Path
deriving DecidableEq

/-- A directory of compiled classes and the source root they are compiled from. -/
structure OutputBinding where
  outputDirectory : Path
  sourceRoot : Path
deriving DecidableEq

/-- The lists of a project whose entries need paths. -/
inductive ProjectSection
  | classpath | outputDirectories
deriving DecidableEq

/-- The name of a section. -/
def ProjectSection.name : ProjectSection → String
  | classpath => "classpath"
  | outputDirectories => "output_dirs"

/-- Why a declared entry does not resolve. -/
inductive ProjectFault
  | missingPath (place : ProjectSection) (index : Nat)
  | unreadable (file : Path) (reason : String)
deriving DecidableEq

/-- The wording of a fault. -/
def ProjectFault.message : ProjectFault → String
  | .missingPath place index => s!"{place.name} entry #{index} has no path"
  | .unreadable file reason => s!"failed to read {file.text}: {reason}"

/-- What is known about a project; every list is in declared order. -/
structure Project where
  name : String
  /-- Whether the project has sources at all. -/
  hasSources : Bool
  dependencies : List (Except ProjectFault Dependency)
  outputBindings : List (Except ProjectFault OutputBinding)
  sourceRoots : List Path

end ClassOrigin
