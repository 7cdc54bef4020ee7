/-
Reports: what the commands show.

* **`ClassSummary`** tells what is in a class file;
* **`SearchDirective.line`** and **`SourceMatch.line`** are lines of text;
* each has a **`document`** for output in JSON.
-/
import ClassOrigin.ClassFile.Location
import ClassOrigin.Json.Printer
import ClassOrigin.Project.SourceSearch

namespace ClassOrigin

/-- A text, or null. -/
def Document.ofText? (text : Option String) : Document :=
  (text.map Document.text).getD .null

/-- A list of texts. -/
def Document.ofTexts (texts : List String) : Document :=
  .list (texts.map Document.text) true

/-! ### Classes -/

/-- What is in a class file. -/
structure ClassSummary where
  name : String
  superClass : Option String
  major : UInt16
  minor : UInt16
  /-- The number of slots of the constant pool. -/
  slots : Nat
  fields : List String
  methods : List String
  sourceFile : Option String
  sourceLocation : Option String
deriving DecidableEq

namespace ClassSummary

/-- The summary of a class, unless one of its names or attributes cannot be read. -/
def ofClass (c : ClassFile) : Except ClassFile.Error ClassSummary := do
  pure {
    name := ← c.thisClassName
    superClass := ← c.superClassName
    major := c.major
    minor := c.minor
    slots := c.pool.slots.size
    fields := ← c.fields.mapM c.memberName
    methods := ← c.methods.mapM c.memberName
    sourceFile := ← c.sourceFile
    sourceLocation := ← c.sourceLocation }

/-- A summary as lines of text. -/
def lines (summary : ClassSummary) : List String :=
  [s!"class: {summary.name}"] ++
    (summary.superClass.map fun name => s!"  super: {name}").toList ++
    [s!"  version: {summary.major}.{summary.minor}",
      s!"  constant_pool_slots: {summary.slots}",
      "  fields: " ++ ", ".intercalate summary.fields,
      "  methods: " ++ ", ".intercalate summary.methods,
      "  source_file: " ++ summary.sourceFile.getD "(none)",
      "  source_location: " ++ summary.sourceLocation.getD "(none)"]

/-- A summary as a document. -/
def document (summary : ClassSummary) : Document :=
  .table [
    ("name", .text summary.name),
    ("super_class", .ofText? summary.superClass),
    ("major_version", .integer summary.major.toNat),
    ("minor_version", .integer summary.minor.toNat),
    ("constant_pool_slots", .integer summary.slots),
    ("fields", .ofTexts summary.fields),
    ("methods", .ofTexts summary.methods),
    ("source_file", .ofText? summary.sourceFile),
    ("source_location", .ofText? summary.sourceLocation)] true

end ClassSummary

/-! ### Directives -/

namespace SearchDirective

/-- A directive as a line of text. -/
def line : SearchDirective → String
  | dependency entry =>
    let plain := s!"dependency {entry.location.text} [{entry.kind.name}]"
    match entry.sources with
    | some sources => plain ++ s!" (sources: {sources.text})"
    | none => plain
  | outputBinding binding =>
    s!"output {binding.outputDirectory.text} -> {binding.sourceRoot.text}"
  | projectFallback project roots =>
    "project " ++ project ++ " [" ++ ", ".intercalate (roots.map Path.text) ++ "]"

/-- A directive as a document. -/
def document : SearchDirective → Document
  | dependency entry =>
    .table [
      ("kind", .text "dependency"),
      ("entry_kind", .text entry.kind.name),
      ("location", .text entry.location.text),
      ("sources", .ofText? (entry.sources.map Path.text))] true
  | outputBinding binding =>
    .table [
      ("kind", .text "output_binding"),
      ("output_dir", .text binding.outputDirectory.text),
      ("source_root", .text binding.sourceRoot.text)] true
  | projectFallback project roots =>
    .table [
      ("kind", .text "project_fallback"),
      ("project", .text project),
      ("source_roots", .ofTexts (roots.map Path.text))] true

end SearchDirective

/-! ### Matches -/

namespace SourceMatch

/-- A match as a line of text. -/
def line : SourceMatch → String
  | file path => path.text
  | archiveEntry archive entry => archive.text ++ "!/" ++ entry

/-- A match as a document. -/
def document : SourceMatch → Document
  | file path => .table [("kind", .text "file"), ("path", .text path.text)] true
  | archiveEntry archive entry =>
    .table [
      ("kind", .text "archive_entry"),
      ("archive", .text archive.text),
      ("entry", .text entry)] true

end SourceMatch

end ClassOrigin
