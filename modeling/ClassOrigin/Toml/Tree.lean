/-
Tables under construction.

The lines of a TOML document add to tables in turn, and what a line may add to depends on how a
table came about: through its own header, only as part of a longer header, or through a dotted key.
A table may get one header. A dotted key opens tables of its own and does not reach into one that
has a header; it may lead through a table implied by a longer header, but not end there.

* **`Node`** is what stands under a key, **`insert?`** adds the value of a dotted key;
* **`Outline`** is a document of which some lines have been read: **`Outline.openTable?`** and
  **`Outline.openElement?`** follow a header, **`Outline.add?`** a line with a value;
* **`Outline.close?`** gives the document.
-/
import ClassOrigin.Document.Basic

namespace ClassOrigin.Toml

/-- How a table came about. -/
inductive Origin
  /-- Through its own header, or as the whole document. -/
  | header
  /-- As part of a longer header. -/
  | implied
  /-- Through a dotted key. -/
  | dotted
deriving DecidableEq

/-- What stands under a key: a value that is closed, a table, or a list of tables, the last one
first. -/
inductive Node where
  | value (value : Document)
  | table (origin : Origin) (entries : List (String × Node))
  | tables (elements : List (List (String × Node)))

/-- The entries of a table, in order. -/
abbrev Entries := List (String × Node)

namespace Entries

/-- Replaces what stands under a key. -/
def replace (entries : Entries) (key : String) (node : Node) : Entries :=
  entries.map fun (k, old) => (k, if k == key then node else old)

/-- Acts on the table at the end of a path, which starts at a table of the given origin. Tables on
the way that do not exist are made, with the origin `fresh`; of a list of tables the last is
entered. -/
def within? {α : Type} (fresh : Origin) (act : Origin → Entries → Option (α × Entries)) :
    List String → Origin → Entries → Option (α × Entries)
  | [], origin, entries => act origin entries
  | key :: path, _, entries =>
    match entries.lookup key with
    | none => do
      let (result, inner) ← within? fresh act path fresh []
      some (result, entries ++ [(key, .table fresh inner)])
    | some (.table origin inner) =>
      if fresh = .dotted ∧ origin = .header then none
      else do
        let (result, inner) ← within? fresh act path origin inner
        some (result, replace entries key (.table origin inner))
    | some (.tables (last :: earlier)) => do
      let (result, last) ← within? fresh act path .header last
      some (result, replace entries key (.tables (last :: earlier)))
    | some (.tables []) | some (.value _) => none

/-- Adds a value under a dotted key: its last part `key` and the parts before. -/
def insert? (entries : Entries) (path : List String) (key : String) (value : Document) :
    Option Entries :=
  let act (origin : Origin) (inner : Entries) : Option (Unit × Entries) :=
    if decide (origin = .dotted) = path.isEmpty then none
    else if (inner.lookup key).isSome then none
    else some ((), inner ++ [(key, .value value)])
  (within? .dotted act path .header entries).map Prod.snd

end Entries

mutual

/-- A node as a document. -/
def Node.document : Node → Document
  | .value value => value
  | .table _ entries => .table (documents entries) true
  | .tables elements => .list (elementDocuments elements []) true

/-- Entries as documents. -/
def documents : List (String × Node) → List (String × Document)
  | [] => []
  | (key, node) :: rest => (key, node.document) :: documents rest

/-- A list of tables as documents, the last one first, in front of `acc`. -/
def elementDocuments : List (List (String × Node)) → List Document → List Document
  | [], acc => acc
  | entries :: rest, acc => elementDocuments rest (.table (documents entries) true :: acc)

end

/-- Where the lines read at the moment belong. -/
inductive Place
  | root
  | table (parent : List String) (key : String)
  | element (parent : List String) (key : String)

/-- A document of which some lines have been read. The table that lines are added to at the moment
is kept apart and put into the rest when the next header comes. -/
structure Outline where
  rest : Entries
  place : Place
  current : Entries

namespace Outline

/-- A document without lines. -/
def empty : Outline :=
  ⟨[], .root, []⟩

/-- The entries of a document with the current table in its place. -/
def settle? (outline : Outline) : Option Entries :=
  match outline.place with
  | .root => some outline.current
  | .table parent key =>
    let act (_ : Origin) (inner : Entries) : Option (Unit × Entries) :=
      some ((), inner ++ [(key, .table .header outline.current)])
    (Entries.within? .implied act parent .header outline.rest).map Prod.snd
  | .element parent key =>
    let act (_ : Origin) (inner : Entries) : Option (Unit × Entries) :=
      match inner.lookup key with
      | none => some ((), inner ++ [(key, .tables [outline.current])])
      | some (.tables earlier) =>
        some ((), inner.replace key (.tables (outline.current :: earlier)))
      | some _ => none
    (Entries.within? .implied act parent .header outline.rest).map Prod.snd

/-- Follows the header of a table. A table implied so far is continued at the end of the table
around it. -/
def openTable? (outline : Outline) (parent : List String) (key : String) : Option Outline := do
  let entries ← outline.settle?
  let act (_ : Origin) (inner : Entries) : Option (Entries × Entries) :=
    match inner.lookup key with
    | none => some ([], inner)
    | some (.table .implied content) => some (content, inner.filter fun (k, _) => k != key)
    | some _ => none
  let (content, entries) ← Entries.within? .implied act parent .header entries
  some ⟨entries, .table parent key, content⟩

/-- Follows the header of a new table in a list of tables. -/
def openElement? (outline : Outline) (parent : List String) (key : String) : Option Outline := do
  let entries ← outline.settle?
  some ⟨entries, .element parent key, []⟩

/-- Follows a line that gives a value to a dotted key. -/
def add? (outline : Outline) (path : List String) (key : String) (value : Document) :
    Option Outline := do
  let current ← outline.current.insert? path key value
  some { outline with current }

/-- The document. -/
def close? (outline : Outline) : Option Document := do
  let entries ← outline.settle?
  some (.table (documents entries) true)

end Outline

end ClassOrigin.Toml
