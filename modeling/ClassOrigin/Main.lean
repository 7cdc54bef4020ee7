/-
The command line tool.

Everything is decided elsewhere; this module only looks at the real disk, prints, and ends the
process.
-/
import ClassOrigin.CommandLine.LogSinks

namespace ClassOrigin

/-- The fault behind an error of the operating system, told by its wording. -/
def FileFault.ofError (error : IO.Error) : FileFault :=
  let wording := (toString error).toLower
  if wording.contains "no such file" then .notFound
  else if wording.contains "not a directory" then .notADirectory
  else if wording.contains "is a directory" then .isADirectory
  else if wording.contains "name too long" then .nameTooLong
  else if wording.contains "nul bytes" then .nulInPath
  else .other (toString error)

/-- Runs an operation on the disk. -/
def attempt {α : Type} (operation : IO α) : IO (Except FileFault α) := do
  try
    pure (.ok (← operation))
  catch error =>
    pure (.error (.ofError error))

instance : FileReader IO where
  isFile path := do
    pure (← attempt (IO.FS.readBinFile path.text)).toOption.isSome
  isDirectory path := do
    match ← attempt (IO.FS.readBinFile path.text) with
    | .error .isADirectory => pure true
    | _ => pure false
  read path := attempt do
    pure (← IO.FS.readBinFile path.text).toList

/-- Bytes in one piece. -/
def Bytes.packed (bytes : Bytes) : ByteArray :=
  bytes.foldl ByteArray.push ByteArray.empty

instance : FileWriter IO where
  write path bytes := attempt (IO.FS.writeBinFile path.text bytes.packed)
  append path bytes := attempt do
    let handle ← IO.FS.Handle.mk path.text .append
    handle.write bytes.packed

/-- A short reminder of what can be asked for. -/
def usage : String :=
  CommandLine.linesOf [
    "Inspect and weave source locations into class files",
    "",
    "Usage: weave [--config FILE] [--verbose] COMMAND",
    "",
    "  inspect CLASS [--json]",
    "  transform CLASS --location URL [-o OUTPUT]",
    "  probe BOOTSTRAP",
    "  describe MANIFEST [--json]",
    "  find MANIFEST SOURCE [--json]"]

/-- Carries out an invocation and prints what it ends with. -/
def perform (invocation : CommandLine.Invocation) : IO UInt32 := do
  let ended ← CommandLine.runLogged (← IO.getEnv "RUST_LOG") invocation
  IO.eprint (CommandLine.linesOf (ended.messages.map (CommandLine.sinkLine ended.json)))
  IO.print ended.output
  IO.eprint ended.complaint
  pure (UInt32.ofNat ended.code)

end ClassOrigin

/-- Runs the tool. -/
def main (arguments : List String) : IO UInt32 := do
  match ClassOrigin.CommandLine.Invocation.ofArguments arguments with
  | .ok invocation => ClassOrigin.perform invocation
  | .error .help =>
    IO.print ClassOrigin.usage
    pure 0
  | .error .misuse =>
    IO.eprint ClassOrigin.usage
    pure 2
