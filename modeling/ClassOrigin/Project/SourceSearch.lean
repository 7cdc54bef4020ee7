/-
The search for a source file.

The name of a source is relative to a source root, such as `com/example/A.java`; slashes at its
front do not count. Directories are asked for a file and archives for an entry, in the order of
the directives, and the first that has it wins. What does not exist or cannot be read has nothing.

* **`findSource`** searches.
-/
import ClassOrigin.Log.Entry
import ClassOrigin.Project.Directive
import ClassOrigin.Zip.Archive

namespace ClassOrigin

/-- Where a source was found. -/
inductive SourceMatch
  | file (path : Path)
  | archiveEntry (archive : Path) (entry : String)
deriving DecidableEq

namespace SourceSearch

variable {m : Type → Type} [Monad m] [FileReader m]

/-- The message that an archive is passed over, with why its file could not be read, unless it was
read and is no archive. -/
def skippedArchive (archive : Path) (fault : Option FileFault) : LogEntry :=
  ⟨.debug, "weave.lookup", "skipping unreadable source archive",
    [("archive", .shown archive.text)],
    (fault.map fun fault => ("error", fault.message)).toList⟩

/-- Looks into an archive. -/
def lookInArchive (archive : Path) (name : String) : m (Option SourceMatch × List LogEntry) := do
  if ← FileReader.isFile archive then
    match ← FileReader.read archive with
    | .error fault => pure (none, [skippedArchive archive (some fault)])
    | .ok bytes =>
      match Archive.ofBytes? bytes with
      | some content =>
        pure (if content.contains name then some (.archiveEntry archive name) else none, [])
      | none => pure (none, [skippedArchive archive none])
  else pure (none, [])

/-- Looks into one root. -/
def look (name : String) : Path × EntryKind → m (Option SourceMatch × List LogEntry)
  | (root, .directory) => do
    let candidate := root.join (Path.ofText name)
    pure (if ← FileReader.isFile candidate then some (.file candidate) else none, [])
  | (root, .jar) => lookInArchive root name

/-- Looks into roots in turn until one has the source. -/
def lookThrough (name : String) : List (Path × EntryKind) → m (Option SourceMatch × List LogEntry)
  | [] => pure (none, [])
  | root :: roots => do
    match ← look name root with
    | (some found, log) => pure (some found, log)
    | (none, log) => do
      let (found, later) ← lookThrough name roots
      pure (found, log ++ later)

/-- A name without slashes at its front. -/
def relativeName (name : String) : String :=
  String.ofList (name.toList.dropWhile fun c => c == '/')

end SourceSearch

/-- Searches a source, with what is logged on the way. -/
def findSource {m : Type → Type} [Monad m] [FileReader m] (directives : List SearchDirective)
    (name : String) : m (Option SourceMatch × List LogEntry) :=
  let relative := SourceSearch.relativeName name
  if relative.isEmpty then pure (none, [])
  else SourceSearch.lookThrough relative (directives.flatMap SearchDirective.candidateRoots)

end ClassOrigin
