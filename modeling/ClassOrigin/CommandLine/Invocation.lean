/-
Invocations: what one run of the command line tool is to do.

* **`Command`** is one of the tool's commands;
* **`Invocation.ofArguments`** reads the arguments of a run.
-/
import ClassOrigin.CommandLine.Arguments
import ClassOrigin.Path

namespace ClassOrigin.CommandLine

/-- A command of the tool. -/
inductive Command
  /-- Shows what is in a class file. -/
  | inspect (file : Path) (json : Bool)
  /-- Records a location in a class file, in place or in a file of its own. -/
  | transform (file : Path) (location : String) (output : Option Path)
  /-- Tells whether the classes of a runtime can be read. -/
  | probe (image : Path)
  /-- Shows the search directives of a project. -/
  | describe (manifest : Path) (json : Bool)
  /-- Searches a source in a project. -/
  | find (manifest : Path) (source : String) (json : Bool)
deriving DecidableEq

/-- What a run is to do. -/
structure Invocation where
  /-- The file with the settings. -/
  settings : Option Path
  verbose : Bool
  command : Command
deriving DecidableEq

/-- The switches that can be given before and behind the command. -/
def commonSwitches : List Switch :=
  [{ name := "config", kind := .value false }, { name := "verbose", kind := .flag },
    { name := "help", letter := some 'h', kind := .help }]

/-- The switch for output in JSON. -/
def jsonSwitch : Switch :=
  { name := "json", kind := .flag }

/-- The levels of the commands. -/
def commandLevels : List (String × Level) :=
  [("inspect", { switches := jsonSwitch :: commonSwitches, operands := [false] }),
    ("transform", {
      switches := { name := "location", kind := .value true } ::
        { name := "output", letter := some 'o', kind := .value false } :: commonSwitches
      operands := [false] }),
    ("probe", { switches := commonSwitches, operands := [false] }),
    ("describe", { switches := jsonSwitch :: commonSwitches, operands := [false] }),
    ("find", { switches := jsonSwitch :: commonSwitches, operands := [false, true] })]

/-- The outer level. -/
def outerLevel : Level where
  switches := { name := "version", letter := some 'V', kind := .help } :: commonSwitches
  commands := "help" :: commandLevels.map Prod.fst

/-- The command that arguments behind its name stand for. -/
def Command.ofGiven? (name : String) (given : Given) : Option Command :=
  let json := given.has "json"
  match name, given.operands.map Path.ofText, given.operands with
  | "inspect", [file], _ => some (.inspect file json)
  | "transform", [file], _ =>
    (given.value? "location").map fun location =>
      .transform file location ((given.value? "output").map Path.ofText)
  | "probe", [image], _ => some (.probe image)
  | "describe", [manifest], _ => some (.describe manifest json)
  | "find", [manifest, _], [_, source] => some (.find manifest source json)
  | _, _, _ => none

namespace Invocation

/-- Asking for help by name, which may be followed by one command. -/
def help (rest : List String) : Refusal :=
  match rest with
  | [] => .help
  | [name] => if outerLevel.commands.contains name then .help else .misuse
  | _ => .misuse

/-- Puts what was given before and behind the name of a command together. Of two settings files
the one given behind counts. -/
def assemble (name : String) (outer inner : Given) : Except Refusal Invocation :=
  match Command.ofGiven? name inner with
  | none => .error .misuse
  | some command =>
    .ok {
      settings := ((inner.value? "config").or (outer.value? "config")).map Path.ofText
      verbose := outer.has "verbose" || inner.has "verbose"
      command }

/-- Reads the arguments of a run. -/
def ofArguments (arguments : List String) : Except Refusal Invocation := do
  let outer ← outerLevel.read arguments
  match outer.command with
  | none => throw .misuse
  | some (name, rest) =>
    match commandLevels.lookup name with
    | none => throw (help rest)
    | some level =>
      let inner ← level.read rest
      if level.accepts inner.given && outerLevel.accepts outer.given then
        assemble name outer.given inner.given
      else throw .misuse

end Invocation

end ClassOrigin.CommandLine
