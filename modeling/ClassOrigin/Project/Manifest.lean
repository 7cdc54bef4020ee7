/-
Manifests: project descriptions as they are written in files.

* **`Manifest.ofText`** reads a manifest in one of the formats.
-/
import ClassOrigin.Document.Record
import ClassOrigin.Json.Reader
import ClassOrigin.Project.Basic
import ClassOrigin.Toml.Reader

namespace ClassOrigin

/-- A declared entry of the classpath. Its kind is guessed when it is left out. -/
structure ClasspathEntry where
  path : Path
  kind : Option EntryKind := none
  sources : Option Path := none
deriving DecidableEq

/-- A declared directory of compiled classes. -/
structure OutputDirectory where
  path : Path
  sourceRoot : Path
deriving DecidableEq

/-- A project description. -/
structure Manifest where
  name : String
  /-- What relative paths are resolved against, itself relative to the manifest's directory. -/
  root : Option Path := none
  hasSources : Bool := true
  sourceRoots : List Path := []
  classpath : List ClasspathEntry := []
  /-- A file with more entries of the classpath. -/
  classpathFile : Option Path := none
  outputDirectories : List OutputDirectory := []
deriving DecidableEq

open Document (Field Format Reader Schema)

/-- The names of the kinds of classpath entries. -/
def EntryKind.variants : List (String × EntryKind) :=
  [("directory", .directory), ("jar", .jar)]

/-- How an entry of the classpath is written. -/
def ClasspathEntry.schema (format : Format) : Schema ClasspathEntry where
  title := "struct ClasspathEntry"
  blank := { path := ⟨[]⟩ }
  fields := [
    .needed "path" Reader.path fun record path => { record with path },
    .free "kind" (Reader.optional (Reader.oneOf format EntryKind.variants)) fun record kind =>
      { record with kind },
    .free "sources" (Reader.optional Reader.path) fun record sources => { record with sources }]

/-- How a directory of compiled classes is written. -/
def OutputDirectory.schema : Schema OutputDirectory where
  title := "struct OutputDir"
  blank := { path := ⟨[]⟩, sourceRoot := ⟨[]⟩ }
  fields := [
    .needed "path" Reader.path fun record path => { record with path },
    .needed "source_root" Reader.path fun record sourceRoot => { record with sourceRoot }]

namespace Manifest

/-- How a manifest is written. -/
def schema (format : Format) : Schema Manifest where
  title := "struct ProjectManifest"
  blank := { name := "" }
  fields := [
    .needed "name" Reader.text fun record name => { record with name },
    .free "root" (Reader.optional Reader.path) fun record root => { record with root },
    .free "source_project" Reader.boolean fun record hasSources => { record with hasSources },
    .free "source_roots" (Reader.many Reader.path) fun record sourceRoots =>
      { record with sourceRoots },
    .free "classpath" (Reader.many ((ClasspathEntry.schema format).read format))
      fun record classpath => { record with classpath },
    .free "classpath_file" (Reader.optional Reader.path) fun record classpathFile =>
      { record with classpathFile },
    .free "output_dirs" (Reader.many (OutputDirectory.schema.read format))
      fun record outputDirectories => { record with outputDirectories }]

/-- Why a manifest could not be had. -/
inductive Fault
  | unreadable (path : Path) (fault : FileFault)
  | malformed (format : Format) (fault : Document.Fault)
deriving DecidableEq

/-- The wording of a fault, where it is fixed. -/
def Fault.message? : Fault → Option String
  | .unreadable path fault => some s!"failed to read project manifest {path.text}: {fault.message}"
  | .malformed .toml fault =>
    fault.message?.map fun message => s!"failed to parse toml manifest: {message}"
  | .malformed .json fault =>
    fault.message?.map fun message => s!"failed to parse json manifest: {message}"

/-- Reads a manifest out of a text. -/
def ofTextIn (format : Format) (text : String) : Except Document.Fault Manifest :=
  match format with
  | .toml =>
    match Toml.read? text with
    | none => .error .unreadable
    | some document => (schema .toml).read .toml document
  | .json => do
    let reading := Json.read text
    let manifest ← (schema .json).read .json reading.root
    if reading.finished then pure manifest else .error .unreadable

/-- Reads a manifest out of a text. -/
def ofText (format : Format) (text : String) : Except Fault Manifest :=
  (ofTextIn format text).mapError (.malformed format)

end Manifest

end ClassOrigin
