/-
Code locations: where the bytes of a class came from.

A loader names the place by a URL. A `file:` URL is a directory when it ends with a slash and an
archive otherwise; `jar:URL!/ENTRY` is the archive at `URL`, so of nested archives the outermost
one counts. The file system is never consulted.

* **`CodeLocation.ofUrl`** reads the URL of a code source;
* **`CodeLocation.canonicalPath?`** is the text that is recorded for a location under a policy.
-/
import ClassOrigin.FileUrl
import ClassOrigin.Text.Spelled

namespace ClassOrigin

/-- Where a class came from: an exploded directory, an archive, or no place on disk. -/
inductive CodeLocation
  | directory (path : Path)
  | archive (path : Path)
  | unknown
deriving DecidableEq

/-- How a path on disk is written into a class. -/
inductive PathPolicy
  | absolute
  | projectRelative (root : Path)
deriving DecidableEq

/-- A policy spelled out. -/
def PathPolicy.spelled : PathPolicy → String
  | absolute => "Absolute"
  | projectRelative root => Spelled.record "ProjectRelative" [("root", Spelled.bytes root.bytes)]

namespace CodeLocation

/-- The place on disk. -/
def path? : CodeLocation → Option Path
  | directory path | archive path => some path
  | unknown => none

/-- Whether the location is a place on disk. -/
def isResolvable (location : CodeLocation) : Bool :=
  location.path?.isSome

/-! ### Reading -/

/-- Moves the text in front of the first `!/` onto `acc`, which holds earlier characters in
reverse. -/
def beforeEntryOnto (acc : List Char) : List Char → List Char
  | '!' :: '/' :: _ => acc.reverse
  | c :: rest => beforeEntryOnto (c :: acc) rest
  | [] => acc.reverse

/-- The text in front of the first `!/`, or all of it. -/
def beforeEntry (text : List Char) : List Char :=
  beforeEntryOnto [] text

theorem length_beforeEntryOnto_le (acc text : List Char) :
    (beforeEntryOnto acc text).length ≤ acc.length + text.length := by
  fun_induction beforeEntryOnto acc text with
  | case1 => simp
  | case2 acc c rest _ ih =>
    simp only [List.length_cons] at ih ⊢
    omega
  | case3 => simp

/-- What follows `jar:`. -/
def afterJar? : List Char → Option (List Char)
  | 'j' :: 'a' :: 'r' :: ':' :: rest => some rest
  | _ => none

theorem length_beforeEntry_lt {text rest : List Char} (h : afterJar? text = some rest) :
    (beforeEntry rest).length < text.length := by
  have hle := length_beforeEntryOnto_le [] rest
  unfold afterJar? at h
  split at h
  · cases h
    simp only [beforeEntry, List.length_cons, List.length_nil] at hle ⊢
    omega
  · cases h

/-- The location that a non-blank URL names. -/
def parse? (text : List Char) : Option CodeLocation :=
  match h : afterJar? text with
  | some inner =>
    have := length_beforeEntry_lt h
    match parse? (beforeEntry inner) with
    | some location => location.path?.map archive
    | none => none
  | none =>
    (FileUrl.parse? text).map fun url =>
      if url.endsWithSlash then directory url.path.normalize else archive url.path.normalize
termination_by text.length

/-- The location that the URL of a code source names; white space around it is dropped. -/
def ofUrl (source : Option String) : CodeLocation :=
  match source with
  | none => unknown
  | some text => (parse? (Blank.trim text).toList).getD unknown

/-! ### The recorded text -/

/-- The components of a path separated by single slashes. -/
def slashJoined (components : List Path.Component) : String :=
  String.intercalate "/" (components.map fun c => Utf8.decodeLossy c.bytes)

/-- What a policy writes for a path. Below the root of a project the rest of the path is written,
and `.` for the root itself; a path elsewhere is written in full. -/
def render (policy : PathPolicy) (path : Path) : String :=
  match policy with
  | .absolute => path.text
  | .projectRelative root =>
    match Path.stripFront? root path with
    | some [] => "."
    | some rest => slashJoined rest
    | none => path.text

/-- The text that is recorded for a location, if it is a place on disk. -/
def canonicalPath? (location : CodeLocation) (policy : PathPolicy) : Option String :=
  location.path?.map (render policy)

end CodeLocation

end ClassOrigin
