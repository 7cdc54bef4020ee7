/-
Settings: how the agent and the command line are set up.

Settings are written in TOML, with a table for the log and one for the agent; everything that is
left out has a default. The path policy is a table with a `kind`, and with a `root` where the kind
needs one; it may hold other keys.

* **`Settings.ofText`** reads settings from a text and **`Settings.load`** from a file.
-/
import ClassOrigin.CodeLocation
import ClassOrigin.Document.Record
import ClassOrigin.Storage.Access
import ClassOrigin.Toml.Reader

namespace ClassOrigin

/-- Where log messages go, which of them, and in what form. -/
structure LogSettings where
  /-- A level, or a list of filter items. -/
  level : String := "info"
  json : Bool := false
  stderr : Bool := true
  file : Option Path := none
deriving DecidableEq

/-- The same sinks with every message up to debug level. -/
def LogSettings.verbose (settings : LogSettings) : LogSettings :=
  { settings with level := "debug" }

/-- How the agent works. -/
structure AgentSettings where
  verbose : Bool := false
  policy : PathPolicy := .absolute
deriving DecidableEq

/-- All settings. -/
structure Settings where
  log : LogSettings := {}
  agent : AgentSettings := {}
deriving DecidableEq

/-! ### Path policies -/

namespace PathPolicy

open Document (Fault Reader)

/-- The kinds of path policy; true for the one that has a root. -/
def kinds : List (String × Bool) :=
  [("absolute", false), ("project_relative", true)]

/-- Whether a kind of path policy has a root. -/
def needsRoot : Reader Bool
  | .text name => Reader.variant kinds name
  | found => .error (found.mismatch "variant identifier")

/-- Reads a path policy from the entries of a table. -/
def ofEntries (entries : List (String × Document)) : Except Fault PathPolicy := do
  match entries.lookup "kind" with
  | none => throw (.missingField "kind")
  | some kind =>
    if ← needsRoot kind then
      match entries.lookup "root" with
      | none => throw (.missingField "root")
      | some root => projectRelative <$> Reader.path root
    else pure absolute

/-- Reads a path policy from a list of its kind and its root. -/
def ofItems : List Document → Except Fault PathPolicy
  | [] => throw (.missingField "kind")
  | kind :: rest => do
    if ← needsRoot kind then
      match rest with
      | [] =>
        throw (.wrongLength 0 "struct variant PathPolicy::ProjectRelative with 1 element")
      | root :: others =>
        let policy ← projectRelative <$> Reader.path root
        if others.isEmpty then pure policy
        else throw (.wrongLength rest.length "1 element in sequence")
    else if rest.isEmpty then pure absolute
    else throw (.wrongLength rest.length "0 elements in sequence")

/-- Reads a path policy. -/
def ofDocument : Reader PathPolicy
  | .table entries _ => ofEntries entries
  | .moment _ => ofEntries []
  | .list items _ => ofItems items
  | found => .error (found.mismatch "internally tagged enum PathPolicy")

end PathPolicy

/-! ### Reading -/

open Document (Field Reader Schema)

/-- How the settings of the log are written. -/
def LogSettings.schema : Schema LogSettings where
  title := "struct LoggingConfig"
  blank := {}
  fields := [
    .free "level" Reader.text fun record level => { record with level },
    .free "json" Reader.boolean fun record json => { record with json },
    .free "stderr" Reader.boolean fun record stderr => { record with stderr },
    .free "file" (Reader.optional Reader.path) fun record file => { record with file }]

/-- How the settings of the agent are written. -/
def AgentSettings.schema : Schema AgentSettings where
  title := "struct AgentConfig"
  blank := {}
  fields := [
    .free "debuglog" Reader.boolean fun record verbose => { record with verbose },
    .free "path_policy" PathPolicy.ofDocument fun record policy => { record with policy }]

namespace Settings

/-- How settings are written. -/
def schema : Schema Settings where
  title := "struct WeaveConfig"
  blank := {}
  fields := [
    .free "logging" (LogSettings.schema.read .toml) fun record log => { record with log },
    .free "agent" (AgentSettings.schema.read .toml) fun record agent => { record with agent }]

/-- Why settings could not be had. -/
inductive Fault
  | unreadable (path : Path) (fault : FileFault)
  | malformed (fault : Document.Fault)
deriving DecidableEq

/-- The wording of a fault, where it is fixed. -/
def Fault.message? : Fault → Option String
  | .unreadable path fault => some s!"failed to read config file {path.text}: {fault.message}"
  | .malformed fault => fault.message?.map fun message => s!"failed to parse toml config: {message}"

/-- Reads settings from a document. -/
def ofDocument (document : Document) : Except Document.Fault Settings :=
  schema.read .toml document

/-- Reads settings from a text. -/
def ofText (text : String) : Except Fault Settings :=
  match Toml.read? text with
  | none => .error (.malformed .unreadable)
  | some document => (ofDocument document).mapError .malformed

/-- Reads settings from a file. -/
def load {m : Type → Type} [Monad m] [FileReader m] (path : Path) :
    m (Except Fault Settings) := do
  match ← readText path with
  | .error fault => pure (.error (.unreadable path fault))
  | .ok text => pure (ofText text)

end Settings

end ClassOrigin
