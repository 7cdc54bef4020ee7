/-
Search directives: the places where the sources of a project may be, in the order of their
priority.

* **`SearchDirective.candidateRoots`** are the directories and archives of one directive.
-/
import ClassOrigin.Project.Basic

namespace ClassOrigin

/-- One place to look for sources. -/
inductive SearchDirective
  /-- An entry of the classpath. -/
  | dependency (entry : Dependency)
  /-- A directory of compiled classes. -/
  | outputBinding (binding : OutputBinding)
  /-- The project itself, through all of its source roots. -/
  | projectFallback (project : String) (sourceRoots : List Path)
deriving DecidableEq

/-- What is searched for a dependency: attached sources by their name, else the entry itself. -/
def Dependency.searchRoot (entry : Dependency) : Path × EntryKind :=
  match entry.sources with
  | some sources => (sources, EntryKind.infer sources)
  | none => (entry.location, entry.kind)

namespace SearchDirective

/-- The directories and archives to search, each with how it is searched. -/
def candidateRoots : SearchDirective → List (Path × EntryKind)
  | dependency entry => [entry.searchRoot]
  | outputBinding binding => [(binding.sourceRoot, .directory)]
  | projectFallback _ roots => roots.map fun root => (root, .directory)

end SearchDirective

end ClassOrigin
