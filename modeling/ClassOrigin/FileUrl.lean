/-
`file:` URLs and the path they stand for.

White space and control characters around a URL are dropped, tabs and line breaks anywhere; a
backslash separates like a slash; the query and the fragment are ignored. `.` and `..` segments,
also with their dots percent-encoded, are resolved before anything is decoded. A host must be
absent or this machine; the one exception is a host with a drive letter as the first segment behind
it, which is dropped. A drive letter is never taken back by `..`.

* **`FileUrl.parse?`** reads a URL; any other scheme or host gives nothing.
-/
import ClassOrigin.HostName.Basic
import ClassOrigin.Path
import ClassOrigin.Text.Blank

namespace ClassOrigin

/-- The path of a `file:` URL, and whether it was written with a slash at its end. -/
structure FileUrl where
  path : Path
  endsWithSlash : Bool

namespace FileUrl

/-! ### Characters -/

/-- A control character or a space. -/
def isControlOrSpace (c : Char) : Bool :=
  c ≤ ' '

/-- A character that is passed over wherever it stands. -/
def isTabOrBreak (c : Char) : Bool :=
  c == '\t' || c == '\n' || c == '\r'

/-- A text without the characters that are passed over. -/
def plain (text : List Char) : List Char :=
  text.filter fun c => ! isTabOrBreak c

/-- What is left of a text behind its first characters, not counting those passed over. -/
def dropPlain : Nat → List Char → List Char
  | 0, text => text
  | _ + 1, [] => []
  | count + 1, c :: text => dropPlain (if isTabOrBreak c then count + 1 else count) text

/-- What follows `file:`, in any mixture of small and capital letters. -/
def afterScheme? (text : List Char) : Option (List Char) :=
  if ((plain text).take 5).map Char.toLower = "file:".toList then some (dropPlain 5 text) else none

/-- A slash in either direction. -/
def isSlash (c : Char) : Bool :=
  c == '/' || c == '\\'

/-- Where a path ends and a query or fragment begins. -/
def endsPath (c : Char) : Bool :=
  c == '?' || c == '#'

/-! ### Segments -/

/-- A letter with a colon or a bar, which names a drive. -/
def isDrive : List Char → Bool
  | [c, d] => c.isAlpha && (d == ':' || d == '|')
  | _ => false

/-- A segment that stands for the place it is in. -/
def isSingleDot (segment : List Char) : Bool :=
  segment.map Char.toLower ∈ [".", "%2e"].map String.toList

/-- A segment that stands for the place above. -/
def isDoubleDot (segment : List Char) : Bool :=
  segment.map Char.toLower ∈ ["..", ".%2e", "%2e.", "%2e%2e"].map String.toList

/-- A drive letter with a colon that is broken off from the rest of its segment. -/
def brokenDrive? (segment : List Char) : Option (List Char × List Char) :=
  let drive := (plain segment).take 2
  let rest := dropPlain 2 segment
  if isDrive drive ∧ drive.getLast? = some ':' ∧ rest.head?.any isTabOrBreak ∧ plain rest ≠ [] then
    some (drive, plain rest)
  else none

/-- The segments that have been read. -/
structure Trail where
  /-- They are in reverse. -/
  segments : List (List Char) := []
  /-- The first one is a drive letter and nothing more. -/
  onDrive : Bool := false

namespace Trail

/-- Takes the last segment back, unless it names a drive. -/
def pop (trail : Trail) : Trail :=
  match trail.segments with
  | [] => trail
  | last :: before => if isDrive last then trail else { trail with segments := before }

/-- Adds a segment. A drive letter in the first place is written with a colon; broken off there
from the rest of its segment, it makes a segment of its own. -/
def push (trail : Trail) (segment : List Char) : Trail :=
  match trail.segments, brokenDrive? segment with
  | [], some (drive, rest) => { segments := [rest, drive] }
  | [], none =>
    let name := plain segment
    if isDrive name then { segments := [name.take 1 ++ [':']], onDrive := true }
    else { segments := [name] }
  | before, _ => { trail with segments := plain segment :: before }

/-- Reads segments, the last of which is empty when the path ends with a slash. -/
def follow (trail : Trail) : List (List Char) → Trail
  | [] => trail
  | segment :: rest =>
    let ends := rest.isEmpty
    if isDoubleDot (plain segment) then
      (if ends then trail.pop.push [] else trail.pop).follow rest
    else if isSingleDot (plain segment) then
      (if ends then trail.push [] else trail).follow rest
    else (trail.push segment).follow rest

/-- The URL whose path has been read. -/
def toUrl (trail : Trail) : FileUrl :=
  let bytes := trail.segments.reverse.flatMap fun segment =>
    Path.slash :: Percent.decode (Bytes.ofText (String.ofList segment))
  { path := ⟨bytes⟩, endsWithSlash := trail.segments.head?.all List.isEmpty }

end Trail

/-! ### URLs -/

/-- Follows the path at the front of a text, up to the query or fragment. -/
def follow (text : List Char) : Trail :=
  ({} : Trail).follow ((text.takeWhile fun c => ! endsPath c).splitOnP isSlash)

/-- A text without a slash at its front. -/
def withoutSlash (text : List Char) : List Char :=
  if (plain text).head?.any isSlash then dropPlain 1 text else text

/-- Reads what follows `file:` and two slashes. Behind an absent host or this machine the path
keeps its first slash, so no drive letter is its first segment there. -/
def afterSlashes? (text : List Char) : Option FileUrl :=
  let written := text.takeWhile fun c => ! (isSlash c || endsPath c)
  let rest := text.drop written.length
  let host := plain written
  if isDrive host then some (follow text).toUrl
  else if host.isEmpty then some (follow rest).toUrl
  else
    match Host.parse? host with
    | none => none
    | some host =>
      if host.isLocal then some (follow rest).toUrl
      else
        let trail := follow (withoutSlash rest)
        if trail.onDrive then some trail.toUrl else none

/-- Reads a `file:` URL. -/
def parse? (text : List Char) : Option FileUrl :=
  (afterScheme? (Blank.trimBy isControlOrSpace text)).bind fun rest =>
    match plain rest with
    | a :: b :: _ =>
      if isSlash a && isSlash b then afterSlashes? (dropPlain 2 rest)
      else some (follow (withoutSlash rest)).toUrl
    | _ => some (follow (withoutSlash rest)).toUrl

end FileUrl

end ClassOrigin
