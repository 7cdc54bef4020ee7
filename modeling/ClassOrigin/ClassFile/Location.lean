/-
The `SourceLocation` attribute, which records where a class came from.

Its payload is the index of a string constant. A class has at most one; reading refuses a class
with several, writing collapses them into the first.

* **`ClassFile.sourceLocation`** reads the recorded location;
* **`ClassFile.setSourceLocation`** records one. New constants go to the end of the pool, so no
  other attribute and no method body changes its meaning.
-/
import ClassOrigin.ClassFile.Basic

namespace ClassOrigin.ClassFile

/-- The name of the attribute. -/
def locationName : String := "SourceLocation"

/-- The recorded location, if there is one. -/
def sourceLocation (c : ClassFile) : Except Error (Option String) :=
  match c.attributesNamed locationName with
  | [] => .ok none
  | [(_, a)] => (c.indexedText locationName a).map some
  | _ => .error (.malformedAttribute locationName)

/-- How recording a location changed a class. -/
inductive LocationUpdate
  | unchanged
  | inserted
  | replaced
deriving DecidableEq, Repr

/-- Whether an attribute's payload stands for a string constant spelled like `path`. -/
def pointsAt (c : ClassFile) (path : String) (a : Attribute) : Bool :=
  match a.index? with
  | none => false
  | some index =>
    match c.pool.utf8Bytes index with
    | .ok bytes => bytes == ModifiedUtf8.encode path
    | .error _ => false

/-- Gives the first location attribute the payload and drops the later ones. -/
def collapse (isLocation : Attribute → Bool) (payload : Bytes) (attributes : List Attribute) :
    List Attribute :=
  attributes.takeWhile (fun a => ! isLocation a) ++
    match attributes.dropWhile (fun a => ! isLocation a) with
    | [] => []
    | first :: later => { first with payload } :: later.filter fun a => ! isLocation a

/-- Appends a location attribute whose value is the constant at `index`. -/
def insertLocation (c : ClassFile) (index : UInt16) : Except Error LocationUpdate × ClassFile :=
  match c.pool.intern locationName with
  | .error e => (.error e, c)
  | .ok (name, pool) =>
    (.ok .inserted,
      { c with pool, attributes := c.attributes ++ [⟨name, Bytes.ofWord16 index⟩] })

/-- Makes `path` the recorded location. Nothing changes when it already is. On failure the class
may have gained the constant for `path`, and nothing else. -/
def setSourceLocation (c : ClassFile) (path : String) :
    Except Error LocationUpdate × ClassFile :=
  let found := c.attributesNamed locationName
  let isRecorded :=
    match found with
    | [(_, a)] => c.pointsAt path a
    | _ => false
  if isRecorded then (.ok .unchanged, c)
  else if found.isEmpty ∧ c.attributes.length ≥ 65535 then (.error .attributeTableFull, c)
  else
    match c.pool.intern path with
    | .error e => (.error e, c)
    | .ok (index, pool) =>
      if found.isEmpty then { c with pool }.insertLocation index
      else
        (.ok .replaced,
          { c with
            pool
            attributes :=
              collapse (c.isNamed locationName) (Bytes.ofWord16 index) c.attributes })

end ClassOrigin.ClassFile
