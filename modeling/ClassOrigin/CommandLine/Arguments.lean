/-
Command line arguments.

What can be given at one level of a command line is known beforehand: switches, which start with
dashes, operands in their order, and at the outer level the commands, which open a level of their
own. A switch is `--name`, or a dash and its letter; a switch with a value takes what follows `=`,
what follows the letter, or the next argument. `--` ends the switches. A switch is given at most
once, and some values must not be empty. These two rules are looked at when the next switch or
operand comes, and at the end, so that asking for help can come first.

* **`Level.read`** reads the arguments of a level.
-/
namespace ClassOrigin.CommandLine

/-- Why arguments lead to no run. -/
inductive Refusal
  /-- Help or the version was asked for. -/
  | help
  | misuse
deriving DecidableEq

/-- What a switch does. -/
inductive SwitchKind
  | flag
  | value (mayBeEmpty : Bool)
  | help
deriving DecidableEq

/-- A switch. -/
structure Switch where
  name : String
  letter : Option Char := none
  kind : SwitchKind

/-- What can be given at one level. -/
structure Level where
  switches : List Switch
  /-- For each operand whether it may be empty. -/
  operands : List Bool := []
  commands : List String := []

/-- What has been given at one level. -/
structure Given where
  flags : List String := []
  values : List (String × String) := []
  operands : List String := []

/-- Where reading stands. -/
structure Progress where
  given : Given := {}
  /-- The switch whose value has to come next. -/
  awaited : Option Switch := none
  /-- Behind `--`. -/
  literal : Bool := false

/-- The arguments of a level, with the command that was met and the arguments behind it. -/
structure Reading where
  given : Given
  command : Option (String × List String) := none

namespace Level

/-- Whether a value of a switch must not be empty. -/
def wantsText (level : Level) (name : String) : Bool :=
  level.switches.any fun s => s.name == name && s.kind == .value false

/-- Whether no switch has been given twice, and no value or operand is empty that must not be. -/
def accepts (level : Level) (given : Given) : Bool :=
  let names := given.flags ++ given.values.map Prod.fst
  names.eraseDups.length == names.length &&
    given.values.all (fun (name, value) => ! (value.isEmpty && level.wantsText name)) &&
    (given.operands.zip level.operands).all fun (operand, mayBeEmpty) =>
      ! operand.isEmpty || mayBeEmpty

/-- Lets reading go on behind a switch or operand, unless a switch waits for its value or what has
been given is not accepted. -/
def settle (level : Level) (progress : Progress) : Except Refusal Unit :=
  if progress.awaited.isNone && level.accepts progress.given then .ok () else .error .misuse

/-- Takes a switch, with the value attached to it if there is one. -/
def takeSwitch (level : Level) (progress : Progress) (switch : Switch)
    (attached : Option String) : Except Refusal Progress := do
  match switch.kind, attached with
  | .help, none =>
    level.settle progress
    throw .help
  | .flag, none =>
    level.settle progress
    let given := progress.given
    let progress := { progress with given := { given with flags := given.flags ++ [switch.name] } }
    level.settle progress
    pure progress
  | .help, some _ | .flag, some _ => throw .misuse
  | .value _, none =>
    level.settle progress
    pure { progress with awaited := some switch }
  | .value _, some value =>
    level.settle progress
    let given := progress.given
    let values := given.values ++ [(switch.name, value)]
    let progress := { progress with given := { given with values } }
    level.settle progress
    pure progress

/-- Takes an argument of the form `--name` or `--name=value`, given without its dashes. -/
def takeLong (level : Level) (progress : Progress) (text : List Char) :
    Except Refusal Progress :=
  let (name, rest) := text.span fun c => c != '='
  match level.switches.find? fun s => s.name.toList == name with
  | none => .error .misuse
  | some switch =>
    level.takeSwitch progress switch
      (if rest.isEmpty then none else some (String.ofList (rest.drop 1)))

/-- Takes an argument of one dash and letters, given without its dash. -/
def takeShort (level : Level) (progress : Progress) : List Char → Except Refusal Progress
  | [] => .ok progress
  | letter :: rest =>
    match level.switches.find? fun s => s.letter == some letter with
    | none => .error .misuse
    | some switch =>
      match switch.kind, rest with
      | .value _, '=' :: value => level.takeSwitch progress switch (some (String.ofList value))
      | .value _, _ :: _ => level.takeSwitch progress switch (some (String.ofList rest))
      | _, _ =>
        match level.takeSwitch progress switch none with
        | .ok progress => takeShort level progress rest
        | .error refusal => .error refusal

/-- Takes an operand. -/
def takeOperand (level : Level) (progress : Progress) (text : String) :
    Except Refusal Progress := do
  level.settle progress
  let given := progress.given
  if level.operands.length ≤ given.operands.length then throw .misuse
  pure { progress with given := { given with operands := given.operands ++ [text] } }

/-- Takes an argument that is neither a switch nor a command. -/
def takePlain (level : Level) (progress : Progress) (text : String) : Except Refusal Progress :=
  match progress.awaited with
  | some switch =>
    let given := progress.given
    let values := given.values ++ [(switch.name, text)]
    .ok { progress with given := { given with values }, awaited := none }
  | none => level.takeOperand progress text

/-- Reads arguments from some point on. -/
def readFrom (level : Level) : List String → Progress → Except Refusal Reading
  | [], progress =>
    if progress.awaited.isNone then .ok { given := progress.given } else .error .misuse
  | argument :: rest, progress =>
    if progress.literal then do
      let progress ← level.takeOperand progress argument
      readFrom level rest progress
    else if progress.awaited.isNone && level.commands.contains argument then
      .ok { given := progress.given, command := some (argument, rest) }
    else
      match argument.toList with
      | ['-', '-'] =>
        if progress.awaited.isNone then readFrom level rest { progress with literal := true }
        else .error .misuse
      | '-' :: '-' :: text => do
        let progress ← level.takeLong progress text
        readFrom level rest progress
      | '-' :: c :: text => do
        let progress ← level.takeShort progress (c :: text)
        readFrom level rest progress
      | _ => do
        let progress ← level.takePlain progress argument
        readFrom level rest progress

/-- Reads the arguments of a level. -/
def read (level : Level) (arguments : List String) : Except Refusal Reading :=
  level.readFrom arguments {}

end Level

namespace Given

/-- The value of a switch. -/
def value? (given : Given) (name : String) : Option String :=
  given.values.lookup name

/-- Whether a flag has been given. -/
def has (given : Given) (name : String) : Bool :=
  given.flags.contains name

end Given

end ClassOrigin.CommandLine
