/-
A file system as a value: a tree of directories and files, and the directory that relative paths
start from. There are no links, so every place is reached by its own names, and no permissions, so
whatever is there can be read and replaced.

* **`FileSystem.locate`** walks a path piece by piece; every piece but the last has to be a
  directory, and so does the last when a slash follows it;
* reading functions run in `ReaderM FileSystem`, writing ones in `StateM FileSystem`.
-/
import ClassOrigin.Storage.Access

namespace ClassOrigin

/-- The names on the way from the root to a place. -/
abbrev Place := List Bytes

/-- What is at a place. -/
inductive Node
  | file (content : Bytes)
  | directory
deriving DecidableEq

/-- A tree of files, listed by place, and the working directory. The root is always a
directory. -/
structure FileSystem where
  nodes : List (Place × Node)
  workingDirectory : Place

namespace FileSystem

/-- An empty file system whose working directory is the root. -/
def empty : FileSystem :=
  ⟨[], []⟩

/-- What is at a place, if anything. -/
def node? (fs : FileSystem) (place : Place) : Option Node :=
  if place = [] then some .directory else fs.nodes.lookup place

/-- Puts something at a place, in the stead of what was there. -/
def put (fs : FileSystem) (place : Place) (node : Node) : FileSystem :=
  { fs with nodes := (place, node) :: fs.nodes.filter fun entry => entry.1 ≠ place }

/-- The longest name that a piece of a path may have. -/
def maxName : Nat := 255

/-- The longest path that is looked up. -/
def maxPath : Nat := 4095

/-- The place reached by one piece of a path from a place that has to be a directory. -/
def step (fs : FileSystem) (place : Place) (piece : Bytes) : Except FileFault Place :=
  match fs.node? place with
  | none => .error .notFound
  | some (.file _) => .error .notADirectory
  | some .directory =>
    if Path.isRedundant piece then .ok place
    else if piece = [Path.dot, Path.dot] then .ok place.dropLast
    else if piece.length > maxName then .error .nameTooLong
    else
      match fs.node? (place ++ [piece]) with
      | some _ => .ok (place ++ [piece])
      | none => .error .notFound

/-- The place where walking a path starts. -/
def start (fs : FileSystem) (p : Path) : Place :=
  if p.isAbsolute then [] else fs.workingDirectory

/-- Refuses the paths that are not looked up at all. -/
def screen (p : Path) : Except FileFault Unit := do
  if p.bytes = [] then throw .notFound
  if p.bytes.contains 0 then throw .nulInPath
  if p.bytes.length > maxPath then throw .nameTooLong

/-- The place that a path names, and what is there. -/
def locate (fs : FileSystem) (p : Path) : Except FileFault (Place × Node) := do
  screen p
  let place ← p.pieces.foldlM fs.step (fs.start p)
  match fs.node? place with
  | some node => pure (place, node)
  | none => throw .notFound

/-- Whether a path names a file. -/
def isFile (fs : FileSystem) (p : Path) : Bool :=
  match fs.locate p with
  | .ok (_, .file _) => true
  | _ => false

/-- Whether a path names a directory. -/
def isDirectory (fs : FileSystem) (p : Path) : Bool :=
  match fs.locate p with
  | .ok (_, .directory) => true
  | _ => false

/-- The content of a file. -/
def read (fs : FileSystem) (p : Path) : Except FileFault Bytes :=
  match fs.locate p with
  | .ok (_, .file content) => .ok content
  | .ok (_, .directory) => .error .isADirectory
  | .error fault => .error fault

/-- The place of a file that is to be written in a directory. -/
def placeIn (fs : FileSystem) (directory : Place) (name : Bytes) : Except FileFault Place :=
  match fs.node? directory with
  | none => .error .notFound
  | some (.file _) => .error .notADirectory
  | some .directory =>
    if Path.isRedundant name || name == [Path.dot, Path.dot] then .error .isADirectory
    else if name.length > maxName then .error .nameTooLong
    else if fs.node? (directory ++ [name]) = some .directory then .error .isADirectory
    else .ok (directory ++ [name])

/-- The place of a file that is to be written: the last piece need not exist, but everything in
front of it does. A path that ends in a slash names a directory, whether it exists or not. -/
def target (fs : FileSystem) (p : Path) : Except FileFault Place := do
  screen p
  let trailing := p.pieces.reverse.takeWhile List.isEmpty
  let front := (p.pieces.reverse.dropWhile List.isEmpty).drop 1
  let directory ← front.reverse.foldlM fs.step (fs.start p)
  if trailing = [] then fs.placeIn directory (p.pieces.getLastD []) else fs.placeIn directory []

/-- Replaces the content of a file. -/
def write (fs : FileSystem) (p : Path) (content : Bytes) : Except FileFault FileSystem := do
  let place ← fs.target p
  pure (fs.put place (.file content))

/-- Adds to the end of a file. -/
def append (fs : FileSystem) (p : Path) (content : Bytes) : Except FileFault FileSystem := do
  let place ← fs.target p
  match fs.node? place with
  | some (.file old) => pure (fs.put place (.file (old ++ content)))
  | _ => pure (fs.put place (.file content))

/-! ### Running programs against a value -/

instance : FileReader (ReaderM FileSystem) where
  isFile p := fun fs => fs.isFile p
  isDirectory p := fun fs => fs.isDirectory p
  read p := fun fs => fs.read p

/-- Runs a change that may fail; a failed one changes nothing. -/
def change (f : FileSystem → Except FileFault FileSystem) :
    StateM FileSystem (Except FileFault Unit) := fun fs =>
  match f fs with
  | .ok fs => (.ok (), fs)
  | .error fault => (.error fault, fs)

instance : FileWriter (StateM FileSystem) where
  isFile p := fun fs => (fs.isFile p, fs)
  isDirectory p := fun fs => (fs.isDirectory p, fs)
  read p := fun fs => (fs.read p, fs)
  write p content := change fun fs => fs.write p content
  append p content := change fun fs => fs.append p content

end FileSystem

end ClassOrigin
