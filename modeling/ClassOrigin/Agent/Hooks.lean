/-
Load hooks: what happens to a class on its way into a runtime.

A hook sees each class with its name and code source and may replace its bytes. Hooks form a
chain, in which each sees the bytes that the one before it left.

* **`LoadHook.isolated`** is what becomes of a class when its weaving ends, in whichever way;
* **`LoadHook.sourceLocation`** is the hook that weaves;
* **`defineClass`** runs a chain.
-/
import ClassOrigin.Agent.Ending
import ClassOrigin.Weaving

namespace ClassOrigin

/-- A class about to be defined. -/
structure LoadEvent where
  className : Option String
  codeSource : Option String
  bytes : Bytes

/-- What a hook does to a class: the bytes to use instead, if any, and what it logs. -/
abbrev LoadHook := LoadEvent → Option Bytes × List LogEntry

namespace LoadHook

/-- What the weaving hook says about a class. -/
inductive Note
  | recorded
  | noPath
  | failed (cause : WeaveError)
  | brokeDown (message : Option String)

/-- The log entry for a note about the class called `name`. -/
def Note.entry (name : String) : Note → LogEntry
  | recorded => ⟨.debug, "weave.agent", "recorded source location", [("class", .text name)], []⟩
  | noPath =>
    ⟨.debug, "weave.agent", "code source has no filesystem path", [("class", .text name)], []⟩
  | failed cause =>
    ⟨.warn, "weave.agent", "could not instrument class",
      [("class", .text name), ("error", .shown cause.message)], []⟩
  | brokeDown message =>
    ⟨.warn, "weave.agent", "could not instrument class: transformer panicked",
      [("class", .text name), ("panic", .shown (breakdownText message))], []⟩

/-- What becomes of a class called `name` when its weaving ends. A failure or a breakdown leaves the
class alone and is always logged, everything else only in verbose mode. -/
def isolated (verbose : Bool) (name : String) (ending : Ending (Except WeaveError (Option Bytes))) :
    Option Bytes × List LogEntry :=
  let ifVerbose (note : Note) : List LogEntry := if verbose then [note.entry name] else []
  match ending with
  | .returned (.ok (some woven)) => (some woven, ifVerbose .recorded)
  | .returned (.ok none) => (none, [])
  -- This is no failure: the classes of a runtime image have no place on disk, and there are many.
  | .returned (.error .unresolvableLocation) => (none, ifVerbose .noPath)
  | .returned (.error cause) => (none, [(Note.failed cause).entry name])
  | .brokeDown message => (none, [(Note.brokeDown message).entry name])

/-- Weaves a class called `name`. As `weave` always returns, this never breaks down. -/
def weaveNamed (policy : PathPolicy) (verbose : Bool) (name source : String) (bytes : Bytes) :
    Option Bytes × List LogEntry :=
  isolated verbose name (.returned (weave policy (CodeLocation.ofUrl (some source)) bytes))

/-- The hook that records in each class where it came from. Classes without a name or without a
code source are none of its business. -/
def sourceLocation (policy : PathPolicy) (verbose : Bool) : LoadHook := fun event =>
  match event.className, event.codeSource with
  | some name, some source => weaveNamed policy verbose name source event.bytes
  | _, _ => (none, [])

end LoadHook

/-- The bytes that a chain of hooks defines for a class, and what the hooks log in order. -/
def defineClass (hooks : List LoadHook) (event : LoadEvent) : Bytes × List LogEntry :=
  hooks.foldl
    (fun (bytes, log) hook =>
      let (replaced, entries) := hook { event with bytes }
      (replaced.getD bytes, log ++ entries))
    (event.bytes, [])

end ClassOrigin
