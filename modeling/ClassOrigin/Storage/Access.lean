/-
Access to files, abstracted from where they are kept.

Everything that reads or writes files is written for an arbitrary monad with these operations, so
the same definition runs against a real disk and against a file system that is a value.

* **`FileReader`** looks at files, **`FileWriter`** also changes them;
* **`readText`** reads a file that has to be UTF-8.
-/
import ClassOrigin.Path

namespace ClassOrigin

/-- Why a file could not be read or written. -/
inductive FileFault
  | notFound
  | notADirectory
  | isADirectory
  | nameTooLong
  | nulInPath
  | notText
  | other (reason : String)
deriving DecidableEq

/-- The wording of a fault. -/
def FileFault.message : FileFault → String
  | .notFound => "No such file or directory (os error 2)"
  | .notADirectory => "Not a directory (os error 20)"
  | .isADirectory => "Is a directory (os error 21)"
  | .nameTooLong => "File name too long (os error 36)"
  | .nulInPath => "file name contained an unexpected NUL byte"
  | .notText => "stream did not contain valid UTF-8"
  | .other reason => reason

/-- Looking at files. -/
class FileReader (m : Type → Type) where
  isFile : Path → m Bool
  isDirectory : Path → m Bool
  read : Path → m (Except FileFault Bytes)

/-- Changing files. `write` replaces the content, `append` adds to its end; both create a file
that does not exist. -/
class FileWriter (m : Type → Type) extends FileReader m where
  write : Path → Bytes → m (Except FileFault Unit)
  append : Path → Bytes → m (Except FileFault Unit)

/-- The text of a file. -/
def readText {m : Type → Type} [Monad m] [FileReader m] (path : Path) :
    m (Except FileFault String) := do
  match ← FileReader.read path with
  | .error fault => pure (.error fault)
  | .ok bytes =>
    match Utf8.decode? bytes with
    | some text => pure (.ok text)
    | none => pure (.error .notText)

end ClassOrigin
