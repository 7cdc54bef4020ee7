/-
Where the messages of a run go.

The messages that the filter lets through are written to standard error and to the end of a log
file, as the settings say. A log file that cannot be opened is left out, which is itself worth a
message. A run whose settings cannot be read logs nothing.

* **`runLogged`** carries out an invocation and delivers its messages.
-/
import ClassOrigin.CommandLine.Run
import ClassOrigin.Log.Line

namespace ClassOrigin.CommandLine

/-- What a run with log sinks ends with. The messages are those for standard error, which come
before the complaint. -/
structure Delivered where
  code : Nat
  output : String
  messages : List LogEntry
  /-- Whether messages are written in JSON. -/
  json : Bool := false
  complaint : String

/-- A message as a line of a sink. -/
def sinkLine (json : Bool) (entry : LogEntry) : String :=
  if json then Json.compact entry.document else entry.line

/-- The settings of the log for a run. -/
def logSettings (invocation : Invocation) (settings : Settings) : LogSettings :=
  if invocation.verbose || settings.agent.verbose then settings.log.verbose else settings.log

/-- The message that the log file is left out. -/
def fileLeftOut (path : Path) : LogEntry :=
  ⟨.warn, "weave.config", "log file could not be opened; logging to the remaining sinks",
    [("path", .shown path.text)], []⟩

variable {m : Type → Type} [Monad m] [FileWriter m]

/-- Opens the log file; gives the file to write to, and what there is to say about it. -/
def openFile (file : Option Path) : m (Option Path × List LogEntry) := do
  match file with
  | none => pure (none, [])
  | some path =>
    match ← FileWriter.append path [] with
    | .ok () => pure (some path, [])
    | .error _ => pure (none, [fileLeftOut path])

/-- Writes messages to the end of the log file. -/
def deliver (json : Bool) (file : Option Path) (entries : List LogEntry) : m Unit := do
  match file with
  | none => pure ()
  | some path =>
    let _ ← FileWriter.append path (Bytes.ofText (linesOf (entries.map (sinkLine json))))

/-- Carries out an invocation and delivers its messages. `environment` holds the filter items from
the environment. -/
def runLogged (environment : Option String) (invocation : Invocation) : m Delivered := do
  match ← settingsOf invocation with
  | .error failure =>
    let outcome := Outcome.ofFailure failure
    pure { code := outcome.code, output := "", messages := [], complaint := outcome.complaint }
  | .ok settings =>
    let log := logSettings invocation settings
    let filter := LogFilter.layered log.level environment
    let (file, opening) ← openFile log.file
    let outcome ← outcomeOf <$> execute settings invocation.command
    let entries := (opening ++ outcome.log).filter filter.admits
    deliver log.json file entries
    pure {
      code := outcome.code
      output := outcome.output
      messages := if log.stderr then entries else []
      json := log.json
      complaint := outcome.complaint }

end ClassOrigin.CommandLine
