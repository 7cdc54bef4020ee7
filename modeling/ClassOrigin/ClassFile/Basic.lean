/-
Class files: a pool of constants and the tables that point into it.

Only the tables' framing is understood; method bodies, annotations and every other attribute stay
as raw payloads, so writing a class gives back what was read.

* **`ClassFile.parse`** reads a whole file, **`ClassFile.toBytes`** writes one;
* **`ClassFile.attributesNamed`** and **`attribute?`** find class attributes by name;
* **`ClassFile.sourceFile`** reads the `SourceFile` attribute.
-/
import ClassOrigin.ClassFile.Pool

namespace ClassOrigin

namespace ClassFile

/-- A named payload. -/
structure Attribute where
  name : UInt16
  payload : Bytes
deriving DecidableEq

/-- A field or a method. -/
structure Member where
  access : UInt16
  name : UInt16
  descriptor : UInt16
  attributes : List Attribute
deriving DecidableEq

end ClassFile

open ClassFile

/-- A class. `superClass` is 0 where there is none, and `minor` and `major` are the format
version. -/
structure ClassFile where
  minor : UInt16
  major : UInt16
  pool : ConstantPool
  access : UInt16
  thisClass : UInt16
  superClass : UInt16
  interfaces : List UInt16
  fields : List Member
  methods : List Member
  attributes : List Attribute
deriving DecidableEq

namespace ClassFile

/-- The word that every class file starts with. -/
def magic : UInt32 := 0xCAFEBABE

/-- The oldest major version that is read. -/
def minMajor : UInt16 := 45

/-- The newest major version that is read. -/
def maxMajor : UInt16 := 70

/-- Whether a version is read. From major version 56 on the minor version is 0, or 65535 for a
class that uses preview features. -/
def supportsVersion (major minor : UInt16) : Bool :=
  minMajor ≤ major && major ≤ maxMajor && (major < 56 || minor = 0 || minor = 0xFFFF)

/-! ### Reading -/

namespace Attribute

/-- Reads an attribute whose name lies in `pool`. -/
def decode (pool : ConstantPool) : Decoder Attribute := do
  let name ← Decoder.u16
  Decoder.check (pool.utf8Bytes name)
  let length ← Decoder.u32
  let payload ← Decoder.block length.toNat
  pure ⟨name, payload⟩

/-- The bytes of an attribute. -/
def encode (a : Attribute) : Bytes :=
  Bytes.ofWord16 a.name ++ Bytes.ofWord32 (UInt32.ofNat a.payload.length) ++ a.payload

/-- The index held by a payload of exactly two bytes. -/
def index? (a : Attribute) : Option UInt16 :=
  match a.payload with
  | [high, low] => some (Bytes.word16 high low)
  | _ => none

end Attribute

namespace Member

/-- Reads a member whose names lie in `pool`. -/
def decode (pool : ConstantPool) : Decoder Member := do
  let access ← Decoder.u16
  let name ← Decoder.u16
  Decoder.check (pool.utf8Bytes name)
  let descriptor ← Decoder.u16
  Decoder.check (pool.utf8Bytes descriptor)
  let attributes ← Decoder.table (Attribute.decode pool)
  pure ⟨access, name, descriptor, attributes⟩

end Member

/-- Reads the index of a class constant with a readable name. -/
def decodeClassIndex (pool : ConstantPool) : Decoder UInt16 := do
  let index ← Decoder.u16
  Decoder.check (pool.className index)
  pure index

/-- Reads the index of the superclass, where 0 stands for none. -/
def decodeSuperIndex (pool : ConstantPool) : Decoder UInt16 := do
  let index ← Decoder.u16
  if index ≠ 0 then Decoder.check (pool.className index)
  pure index

/-- Reads a class from the front of the input. -/
def decode : Decoder ClassFile := do
  let found ← Decoder.u32
  if found ≠ magic then throw (.badMagic found)
  let minor ← Decoder.u16
  let major ← Decoder.u16
  if ¬ supportsVersion major minor then throw (.unsupportedVersion major minor)
  let pool ← ConstantPool.decode
  let access ← Decoder.u16
  let thisClass ← decodeClassIndex pool
  let superClass ← decodeSuperIndex pool
  let interfaces ← Decoder.table (decodeClassIndex pool)
  let fields ← Decoder.table (Member.decode pool)
  let methods ← Decoder.table (Member.decode pool)
  let attributes ← Decoder.table (Attribute.decode pool)
  pure
    { minor, major, pool, access, thisClass, superClass, interfaces, fields, methods, attributes }

/-- Reads a class that takes up the whole input. -/
def parse (bytes : Bytes) : Except Error ClassFile := do
  let (c, rest) ← decode bytes
  let _ ← Decoder.atEnd rest
  pure c

/-! ### Writing -/

/-- A table: its size in 16 bits, then its items. -/
def encodeTable {α : Type} (item : α → Bytes) (items : List α) : Bytes :=
  Bytes.ofWord16 (UInt16.ofNat items.length) ++ items.flatMap item

/-- The bytes of a member. -/
def Member.encode (m : Member) : Bytes :=
  Bytes.ofWord16 m.access ++ Bytes.ofWord16 m.name ++ Bytes.ofWord16 m.descriptor ++
    encodeTable Attribute.encode m.attributes

/-- The bytes of a class. -/
def toBytes (c : ClassFile) : Bytes :=
  Bytes.ofWord32 magic ++ Bytes.ofWord16 c.minor ++ Bytes.ofWord16 c.major ++ c.pool.encode ++
    Bytes.ofWord16 c.access ++ Bytes.ofWord16 c.thisClass ++ Bytes.ofWord16 c.superClass ++
    encodeTable Bytes.ofWord16 c.interfaces ++ encodeTable Member.encode c.fields ++
    encodeTable Member.encode c.methods ++ encodeTable Attribute.encode c.attributes

/-! ### Names -/

/-- The name of the class. -/
def thisClassName (c : ClassFile) : Except Error String :=
  c.pool.className c.thisClass

/-- The name of the superclass, if there is one. -/
def superClassName (c : ClassFile) : Except Error (Option String) :=
  if c.superClass = 0 then .ok none else (c.pool.className c.superClass).map some

/-- The name of a field or method. -/
def memberName (c : ClassFile) (m : Member) : Except Error String :=
  c.pool.text m.name

/-! ### Class attributes -/

/-- Whether an attribute's name reads as `name`. -/
def isNamed (c : ClassFile) (name : String) (a : Attribute) : Bool :=
  match c.pool.text a.name with
  | .ok found => found == name
  | .error _ => false

/-- The class attributes called `name`, each with its position. -/
def attributesNamed (c : ClassFile) (name : String) : List (Nat × Attribute) :=
  c.attributes.zipIdx.filterMap fun (a, i) => if c.isNamed name a then some (i, a) else none

/-- The first class attribute called `name`. -/
def attribute? (c : ClassFile) (name : String) : Option Attribute :=
  c.attributes.find? (c.isNamed name)

/-- The text that the index in an attribute's payload stands for; `name` is the attribute's name
for the error on a payload of another size. -/
def indexedText (c : ClassFile) (name : String) (a : Attribute) : Except Error String :=
  match a.index? with
  | some index => c.pool.text index
  | none => .error (.malformedAttribute name)

/-- The value of the first `SourceFile` attribute, if there is one. -/
def sourceFile (c : ClassFile) : Except Error (Option String) :=
  match c.attribute? "SourceFile" with
  | none => .ok none
  | some a => (c.indexedText "SourceFile" a).map some

end ClassFile

end ClassOrigin
