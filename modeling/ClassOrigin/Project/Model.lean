/-
Project models: manifests with the directory that their paths start from.

* **`ProjectModel.load`** reads a model from a file;
* **`ProjectModel.dependencies`**, **`ProjectModel.outputBindings`** and
  **`ProjectModel.sourceRoots`** resolve what the manifest declares;
* **`ProjectModel.project`** is all of it.
-/
import ClassOrigin.Project.Manifest
import ClassOrigin.Text.Blank

namespace ClassOrigin

/-- A manifest and the root that its paths are resolved against. -/
structure ProjectModel where
  manifest : Manifest
  root : Path
deriving DecidableEq

namespace ProjectModel

/-- The model of a manifest in a directory. -/
def ofManifest (manifest : Manifest) (base : Path) : ProjectModel where
  manifest := manifest
  root :=
    match manifest.root with
    | some root => base.join root
    | none => base

/-- The model of a manifest given as a text, in a directory. -/
def ofText (format : Document.Format) (text : String) (base : Path) :
    Except Manifest.Fault ProjectModel :=
  (Manifest.ofText format text).map fun manifest => ofManifest manifest base

/-- The format of a manifest file, by its name. -/
def formatOf (path : Path) : Document.Format :=
  if path.hasExtension "json" then .json else .toml

/-- Reads a model from a manifest file. -/
def load {m : Type → Type} [Monad m] [FileReader m] (path : Path) :
    m (Except Manifest.Fault ProjectModel) := do
  match ← readText path with
  | .error fault => pure (.error (.unreadable path fault))
  | .ok text => pure (ofText (formatOf path) text (path.parent?.getD (Path.ofText ".")))

/-- A declared path as seen from the root. -/
def resolve (model : ProjectModel) (path : Path) : Path :=
  model.root.join path

/-- A path that has been declared, and is not empty. -/
def present (path : Path) : Bool :=
  ! path.bytes.isEmpty

/-! ### Dependencies -/

/-- What an entry of the classpath resolves to. -/
def dependency (model : ProjectModel) (index : Nat) (entry : ClasspathEntry) :
    Except ProjectFault Dependency :=
  if present entry.path then
    .ok {
      kind := entry.kind.getD (EntryKind.infer entry.path)
      location := model.resolve entry.path
      sources := (entry.sources.filter present).map model.resolve }
  else .error (.missingPath .classpath index)

/-- The paths in the text of a classpath file: those between colons and line breaks, without blanks
at the ends of lines. -/
def classpathPaths (text : String) : List Path :=
  let lines := (text.toList.splitOn '\n').map (Blank.trimBy Blank.isBlank)
  let pieces := lines.flatMap fun line => line.splitOn ':'
  (pieces.filter fun piece => ! piece.isEmpty).map fun piece => Path.ofText (String.ofList piece)

/-- What a path in a classpath file resolves to. -/
def fileDependency (model : ProjectModel) (path : Path) : Dependency :=
  let location := model.resolve path
  { kind := EntryKind.infer location, location, sources := none }

/-- What the entries of the classpath resolve to, those in the manifest first. -/
def dependencies {m : Type → Type} [Monad m] [FileReader m] (model : ProjectModel) :
    m (List (Except ProjectFault Dependency)) := do
  let declared := model.manifest.classpath.mapIdx model.dependency
  match model.manifest.classpathFile.map model.resolve with
  | none => pure declared
  | some file =>
    match ← readText file with
    | .ok text => pure (declared ++ (classpathPaths text).map fun p => .ok (model.fileDependency p))
    | .error fault => pure (declared ++ [.error (.unreadable file fault.message)])

/-! ### Sources -/

/-- What a directory of compiled classes resolves to. -/
def outputBinding (model : ProjectModel) (index : Nat) (directory : OutputDirectory) :
    Except ProjectFault OutputBinding :=
  if present directory.path ∧ present directory.sourceRoot then
    .ok ⟨model.resolve directory.path, model.resolve directory.sourceRoot⟩
  else .error (.missingPath .outputDirectories index)

/-- What the directories of compiled classes resolve to. -/
def outputBindings (model : ProjectModel) : List (Except ProjectFault OutputBinding) :=
  model.manifest.outputDirectories.mapIdx model.outputBinding

/-- Adds a path to the end of a list that has none that means the same. -/
def addRoot (roots : List Path) (root : Path) : List Path :=
  if roots.any root.sameAs then roots else roots ++ [root]

/-- All source roots: the declared ones first, then those that only a directory of compiled classes
names. Of roots that mean the same the first is kept. -/
def sourceRoots (model : ProjectModel) : List Path :=
  let declared := model.manifest.sourceRoots
  let bound := model.manifest.outputDirectories.map OutputDirectory.sourceRoot
  (((declared ++ bound).filter present).map model.resolve).foldl addRoot []

/-- The project that a model describes. -/
def project {m : Type → Type} [Monad m] [FileReader m] (model : ProjectModel) : m Project := do
  let dependencies ← model.dependencies
  pure {
    name := model.manifest.name
    hasSources := model.manifest.hasSources
    dependencies
    outputBindings := model.outputBindings
    sourceRoots := model.sourceRoots }

end ProjectModel

end ClassOrigin
