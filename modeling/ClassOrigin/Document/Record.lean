/-
Reading records out of documents.

A record has named fields. It is written as a table, whose entries are taken in order and whose
keys have to be known, or as a list of its fields in their order.

* **`Reader`** reads a value out of a document; **`text`**, **`boolean`**, **`path`**, **`many`**,
  **`optional`** and **`oneOf`** are the plain ones;
* **`Schema.read`** reads a record.
-/
import ClassOrigin.Document.Basic
import ClassOrigin.Path

namespace ClassOrigin.Document

/-- A way to read a value out of a document. -/
abbrev Reader (α : Type) := Document → Except Fault α

namespace Reader

/-! ### Plain values -/

/-- A text. -/
def text : Reader String
  | .text value => .ok value
  | found => .error (found.mismatch "a string")

/-- A truth value. -/
def boolean : Reader Bool
  | .boolean value => .ok value
  | found => .error (found.mismatch "a boolean")

/-- A path. -/
def path : Reader Path
  | .text value => .ok (Path.ofText value)
  | found => .error (found.mismatch "path string")

/-- A list of values of one kind. -/
def many {α : Type} (item : Reader α) : Reader (List α)
  | .list items complete => do
    let values ← items.mapM item
    if complete then pure values else .error .unreadable
  | found => .error (found.mismatch "a sequence")

/-- A value that may be null. -/
def optional {α : Type} (value : Reader α) : Reader (Option α)
  | .null => .ok none
  | found => some <$> value found

/-! ### Named alternatives -/

/-- The alternative of a given name. -/
def variant {α : Type} (variants : List (String × α)) (name : String) : Except Fault α :=
  match variants.lookup name with
  | some value => .ok value
  | none => .error (.unknownVariant name (variants.map Prod.fst))

/-- Nothing, as a value that goes with a name. -/
def nothing : Format → Document → Except Fault Unit
  | .json, .null => .ok ()
  | .json, found => .error (found.mismatch "unit")
  | .toml, .list [] _ | .toml, .table [] _ => .ok ()
  | .toml, _ => .error .unreadable

/-- One of several names, written as a text or as a table with that name as its only key and
nothing behind it. -/
def oneOf {α : Type} (format : Format) (variants : List (String × α)) : Reader α
  | .text name => variant variants name
  | .table [(name, content)] complete => do
    let value ← variant variants name
    nothing format content
    if complete then pure value else .error .unreadable
  | .table ((name, content) :: _ :: _) _ =>
    match format with
    | .toml => .error .unreadable
    | .json => do
      let _ ← variant variants name
      nothing format content
      .error .unreadable
  | .misnamed key => .error (key.mismatch "variant identifier")
  | _ => .error .unreadable

end Reader

/-! ### Records -/

/-- A field of a record of type `ρ`. -/
structure Field (ρ : Type) where
  name : String
  required : Bool
  /-- Reads the field's value into the record. -/
  fill : Document → ρ → Except Fault ρ

namespace Field

variable {ρ α : Type}

/-- A field that has to be there. -/
def needed (name : String) (value : Reader α) (set : ρ → α → ρ) : Field ρ where
  name := name
  required := true
  fill := fun found record => set record <$> value found

/-- A field that can be left out. -/
def free (name : String) (value : Reader α) (set : ρ → α → ρ) : Field ρ where
  name := name
  required := false
  fill := fun found record => set record <$> value found

end Field

/-- How a record of type `ρ` is written. -/
structure Schema (ρ : Type) where
  /-- What the record is called in messages. -/
  title : String
  /-- The record without any field read. -/
  blank : ρ
  fields : List (Field ρ)

namespace Schema

variable {ρ : Type}

/-- The names of the fields, in order. -/
def names (schema : Schema ρ) : List String :=
  schema.fields.map Field.name

/-- Reads the entries of a table into `record`, after those with the keys `seen`. -/
def fillEntries (schema : Schema ρ) :
    List (String × Document) → List String → ρ → Except Fault (List String × ρ)
  | [], seen, record => .ok (seen, record)
  | (key, value) :: rest, seen, record =>
    match schema.fields.find? fun field => field.name == key with
    | none => .error (.unknownField key schema.names)
    | some field =>
      if seen.contains key then .error (.repeatedField key)
      else
        match field.fill value record with
        | .ok record => fillEntries schema rest (key :: seen) record
        | .error fault => .error fault

/-- The first field that has to be there and is not. -/
def missing? (schema : Schema ρ) (seen : List String) : Option (Field ρ) :=
  schema.fields.find? fun field => field.required && ! seen.contains field.name

/-- What a list of the fields is expected to be. -/
def asList (schema : Schema ρ) : String :=
  let count := schema.fields.length
  schema.title ++ " with " ++ toString count ++ if count = 1 then " element" else " elements"

/-- Reads the items of a list into the fields `fields`, the first of which has the position
`index`; gives the items that are left with the record. -/
def fillItems (schema : Schema ρ) (complete : Bool) :
    List (Field ρ) → Nat → List Document → ρ → Except Fault (List Document × ρ)
  | [], _, items, record => .ok (items, record)
  | field :: fields, index, item :: items, record =>
    match field.fill item record with
    | .ok record => fillItems schema complete fields (index + 1) items record
    | .error fault => .error fault
  | field :: fields, index, [], record =>
    if ! complete then .error .unreadable
    else if field.required then .error (.wrongLength index schema.asList)
    else fillItems schema complete fields (index + 1) [] record

/-- The key under which a moment stands where a record is expected. -/
def momentKey : String := "$__toml_private_datetime"

/-- Reads a record. Items behind the last field do no harm in a TOML document. -/
def read (schema : Schema ρ) (format : Format) : Reader ρ
  | .table entries complete => do
    let (seen, record) ← schema.fillEntries entries [] schema.blank
    if ! complete then .error .unreadable
    else
      match schema.missing? seen with
      | some field => .error (.missingField field.name)
      | none => pure record
  | .list items complete => do
    let (rest, record) ← schema.fillItems complete schema.fields 0 items schema.blank
    if format = .json ∧ ¬ (complete ∧ rest.isEmpty) then .error .unreadable else pure record
  | .moment _ => .error (.unknownField momentKey schema.names)
  | .misnamed _ => .error .unreadable
  | found => .error (found.mismatch schema.title)

end Schema

end ClassOrigin.Document
