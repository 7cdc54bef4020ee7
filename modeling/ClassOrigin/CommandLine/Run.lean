/-
Runs of the command line tool.

A run reads its settings, carries out its command and ends with a code: 0 when all went well, 1
when nothing was found or a runtime is not supported, 2 when something failed.

* **`execute`** carries out a command, **`run`** a whole invocation;
* **`Failure.message`** is what a failed run complains about.
-/
import ClassOrigin.Agent.Bootstrap
import ClassOrigin.CommandLine.Invocation
import ClassOrigin.CommandLine.Report
import ClassOrigin.Project.Describer
import ClassOrigin.Project.Model
import ClassOrigin.Settings.Basic
import ClassOrigin.Weaving

namespace ClassOrigin.CommandLine

/-! ### Failures -/

/-- Why a run failed. -/
inductive Failure
  | settings (path : Path) (fault : Settings.Fault)
  | unreadable (path : Path) (fault : FileFault)
  | unwritable (path : Path) (fault : FileFault)
  /-- The file is no class. -/
  | malformed (path : Path) (cause : ClassFile.Error)
  /-- The class has a name or attribute that cannot be read. -/
  | unreadablePart (cause : ClassFile.Error)
  | unresolvable (location : String)
  | transform (path : Path) (cause : ClassFile.Error)
  | manifest (path : Path) (fault : Manifest.Fault)
deriving DecidableEq

/-- What stands for the wording of a text that does not follow its format. -/
def syntaxWording : String := "<syntax>"

/-- The wording of a settings fault and its causes. -/
def settingsWording (fault : Settings.Fault) : String :=
  let message := fault.message?.getD syntaxWording
  match fault with
  | .unreadable _ cause => message ++ ": " ++ cause.message
  | .malformed _ => message

/-- The wording of a manifest fault and its causes. -/
def manifestWording (fault : Manifest.Fault) : String :=
  let message := fault.message?.getD syntaxWording
  match fault with
  | .unreadable _ cause => message ++ ": " ++ cause.message
  | .malformed _ _ => message

/-- The wording of a failure: what was to be done, and the causes from the outside in. -/
def Failure.message : Failure → String
  | .settings path fault => s!"failed to load config {path.text}: {settingsWording fault}"
  | .unreadable path fault => s!"failed to read {path.text}: {fault.message}"
  | .unwritable path fault => s!"failed to write {path.text}: {fault.message}"
  | .malformed path cause => s!"failed to parse {path.text}: {cause.message}"
  | .unreadablePart cause => cause.message
  | .unresolvable location =>
    s!"location {Quoted.quote location} does not resolve to a filesystem path"
  | .transform path cause =>
    let error := WeaveError.malformedClass cause
    s!"failed to transform {path.text}: {error.message}: {cause.message}"
  | .manifest path fault =>
    s!"failed to load project manifest {path.text}: {manifestWording fault}"

/-! ### Outcomes -/

/-- What a run ends with: its code, what it prints and complains about, and what it logged. -/
structure Outcome where
  code : Nat
  output : String
  complaint : String := ""
  log : List LogEntry := []
deriving DecidableEq

/-- A line of output. -/
def lineOf (text : String) : String :=
  text ++ "\n"

/-- Lines of output. -/
def linesOf (texts : List String) : String :=
  String.join (texts.map lineOf)

/-- The outcome of a failed run. -/
def Outcome.ofFailure (failure : Failure) : Outcome where
  code := 2
  output := ""
  complaint := lineOf failure.message

/-! ### Commands -/

section Commands

variable {m : Type → Type} [Monad m]

/-- Shows what is in a class file. -/
def inspect [FileReader m] (file : Path) (json : Bool) : m (Except Failure Outcome) := do
  match ← FileReader.read file with
  | .error fault => pure (.error (.unreadable file fault))
  | .ok bytes =>
    match ClassFile.parse bytes with
    | .error cause => pure (.error (.malformed file cause))
    | .ok parsed =>
      match ClassSummary.ofClass parsed with
      | .error cause => pure (.error (.unreadablePart cause))
      | .ok summary =>
        let output := if json then lineOf (Json.pretty summary.document) else linesOf summary.lines
        pure (.ok { code := 0, output })

/-- The message that a class was rewritten. -/
def rewritten (output : Path) : LogEntry :=
  ⟨.info, "weave.cli", "class rewritten", [("output", .shown output.text)], []⟩

/-- Writes a file that the outcome depends on. -/
def writeThen [FileWriter m] (path : Path) (bytes : Bytes) (outcome : Outcome) :
    m (Except Failure Outcome) := do
  match ← FileWriter.write path bytes with
  | .ok () => pure (.ok outcome)
  | .error fault => pure (.error (.unwritable path fault))

/-- Records a location in a class file. A class that already carries it is copied where the output
goes elsewhere, and otherwise left alone. -/
def transform [FileWriter m] (policy : PathPolicy) (file : Path) (location : String)
    (output : Option Path) : m (Except Failure Outcome) := do
  match ← FileReader.read file with
  | .error fault => pure (.error (.unreadable file fault))
  | .ok bytes =>
    let output := output.getD file
    match weave policy (CodeLocation.ofUrl (some location)) bytes with
    | .ok (some woven) =>
      writeThen output woven {
        code := 0
        output := lineOf s!"rewritten: {output.text}"
        log := [rewritten output] }
    | .ok none =>
      let outcome : Outcome := { code := 0, output := lineOf s!"unchanged: {file.text}" }
      if output.sameAs file then pure (.ok outcome) else writeThen output bytes outcome
    | .error .unresolvableLocation => pure (.error (.unresolvable location))
    | .error (.malformedClass cause) => pure (.error (.transform file cause))

/-- Tells whether the classes of a runtime can be read. -/
def probeImage [FileReader m] (path : Path) : m (Except Failure Outcome) := do
  let image : RuntimeImage := ⟨path⟩
  match ← probe image.answer with
  | .ok () => pure (.ok { code := 0, output := lineOf s!"supported: {path.text}" })
  | .error cause => pure (.ok { code := 1, output := lineOf s!"unsupported: {cause.message}" })

/-- The search directives of a project, with what was logged on the way. -/
def directives [FileReader m] (manifest : Path) :
    m (Except Failure (List SearchDirective × List LogEntry)) := do
  match ← ProjectModel.load manifest with
  | .error fault => pure (.error (.manifest manifest fault))
  | .ok model =>
    let project ← model.project
    pure (.ok (DescriberRegistry.standard.describe project))

/-- Shows the search directives of a project. -/
def describe [FileReader m] (manifest : Path) (json : Bool) : m (Except Failure Outcome) := do
  match ← directives manifest with
  | .error failure => pure (.error failure)
  | .ok (found, log) =>
    let output :=
      if json then lineOf (Json.pretty (.list (found.map SearchDirective.document) true))
      else linesOf (found.map SearchDirective.line)
    pure (.ok { code := 0, output, log })

/-- What a search ends with. -/
def searchOutcome (source : String) (json : Bool) (found : Option SourceMatch)
    (log : List LogEntry) : Outcome where
  code := if found.isSome then 0 else 1
  output :=
    if json then lineOf (Json.pretty ((found.map SourceMatch.document).getD .null))
    else linesOf (found.map SourceMatch.line).toList
  complaint := if ! json && found.isNone then lineOf s!"not found: {source}" else ""
  log := log

/-- Searches a source in a project. -/
def find [FileReader m] (manifest : Path) (source : String) (json : Bool) :
    m (Except Failure Outcome) := do
  match ← directives manifest with
  | .error failure => pure (.error failure)
  | .ok (described, log) =>
    let (found, later) ← findSource described source
    pure (.ok (searchOutcome source json found (log ++ later)))

/-- Carries out a command. -/
def execute [FileWriter m] (settings : Settings) : Command → m (Except Failure Outcome)
  | .inspect file json => inspect file json
  | .transform file location output => transform settings.agent.policy file location output
  | .probe image => probeImage image
  | .describe manifest json => describe manifest json
  | .find manifest source json => find manifest source json

/-- The settings of an invocation. -/
def settingsOf [FileReader m] (invocation : Invocation) : m (Except Failure Settings) := do
  match invocation.settings with
  | none => pure (.ok {})
  | some path =>
    match ← Settings.load path with
    | .ok settings => pure (.ok settings)
    | .error fault => pure (.error (.settings path fault))

/-- The outcome of a command that may have failed. -/
def outcomeOf (result : Except Failure Outcome) : Outcome :=
  match result with
  | .ok outcome => outcome
  | .error failure => .ofFailure failure

/-- Carries out an invocation. -/
def run [FileWriter m] (invocation : Invocation) : m Outcome := do
  match ← settingsOf invocation with
  | .error failure => pure (.ofFailure failure)
  | .ok settings => outcomeOf <$> execute settings invocation.command

end Commands

end ClassOrigin.CommandLine
