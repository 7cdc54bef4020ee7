/-
The constant pool: a table of constants indexed from 1.

Slot 0 and the slot behind each wide constant hold nothing. The pool only ever grows at its end,
so an index handed out once keeps its meaning.

* **`ConstantPool.get`**, **`utf8Bytes`**, **`text`**, **`className`** look constants up;
* **`ConstantPool.push`** and **`intern`** add a string constant, the latter only when no slot
  holds it yet;
* **`ConstantPool.checkReferences`** says whether every reference inside the pool lands on a
  constant of the right kind;
* **`ConstantPool.decode`** and **`encode`** are the binary form.
-/
import ClassOrigin.ClassFile.Constant
import ClassOrigin.Text.ModifiedUtf8

namespace ClassOrigin.ClassFile

/-- The constants of a class, slot by slot. -/
structure ConstantPool where
  slots : Array (Option Constant)
deriving DecidableEq

namespace ConstantPool

/-- The largest number of slots, since the count is written in 16 bits. -/
def maxSlots : Nat := 65535

/-- The number of slots as it is written in front of the pool. -/
def length (pool : ConstantPool) : UInt16 :=
  UInt16.ofNat pool.slots.size

/-- A pool without a usable slot. -/
def isEmpty (pool : ConstantPool) : Bool :=
  pool.slots.size ≤ 1

/-- The usable slots in order, each with its index. -/
def toList (pool : ConstantPool) : List (UInt16 × Constant) :=
  pool.slots.toList.zipIdx.filterMap fun (slot, i) => slot.map fun c => (UInt16.ofNat i, c)

/-! ### Look-ups -/

/-- The constant at an index. -/
def get (pool : ConstantPool) (index : UInt16) : Except Error Constant :=
  match pool.slots[index.toNat]? with
  | some (some c) => .ok c
  | _ => .error (.badIndex index)

/-- The encoded bytes of the string constant at an index. -/
def utf8Bytes (pool : ConstantPool) (index : UInt16) : Except Error Bytes := do
  match ← pool.get index with
  | .utf8 bytes => .ok bytes
  | other => .error (.wrongKind index .utf8 other.kind)

/-- The text of the string constant at an index. -/
def text (pool : ConstantPool) (index : UInt16) : Except Error String := do
  let bytes ← pool.utf8Bytes index
  match ModifiedUtf8.decode? bytes with
  | some text => .ok text
  | none => .error .badModifiedUtf8

/-- The name of the class constant at an index. -/
def className (pool : ConstantPool) (index : UInt16) : Except Error String := do
  match ← pool.get index with
  | .classRef name => pool.text name
  | other => .error (.wrongKind index .classRef other.kind)

/-- Whether a slot holds the string constant with these bytes. -/
def holdsUtf8 (bytes : Bytes) : Option Constant → Bool
  | some (.utf8 found) => found == bytes
  | _ => false

/-- The lowest index whose string constant is spelled like `text`. -/
def find? (pool : ConstantPool) (text : String) : Option UInt16 :=
  (pool.slots.findIdx? (holdsUtf8 (ModifiedUtf8.encode text))).map UInt16.ofNat

/-! ### Growing -/

/-- Appends a string constant and gives its index. A text that is too long is reported before a
full pool. -/
def push (pool : ConstantPool) (text : String) : Except Error (UInt16 × ConstantPool) :=
  let bytes := ModifiedUtf8.encode text
  if bytes.length > 65535 then .error (.textTooLong bytes.length)
  else if pool.slots.size ≥ maxSlots then .error .poolFull
  else .ok (pool.length, ⟨pool.slots.push (some (.utf8 bytes))⟩)

/-- The index of the string constant for `text`, which is appended only when there is none. -/
def intern (pool : ConstantPool) (text : String) : Except Error (UInt16 × ConstantPool) :=
  match pool.find? text with
  | some index => .ok (index, pool)
  | none => pool.push text

/-! ### References between constants -/

/-- Demands a constant of the right kind at an index. -/
def expect (pool : ConstantPool) (expected : Referent) (index : UInt16) : Except Error Unit := do
  let c ← pool.get index
  if expected.admits c.kind then .ok () else .error (.wrongKind index expected c.kind)

/-- Demands that the references of the constant at `index` land on the right kinds. The bootstrap
method of a dynamic constant lies outside the pool and is not looked at. -/
def checkConstant (pool : ConstantPool) (index : UInt16) : Constant → Except Error Unit
  | .utf8 _ | .integer _ | .float _ | .long _ | .double _ => .ok ()
  | .classRef name | .moduleRef name | .packageRef name => pool.expect .utf8 name
  | .string text => pool.expect .utf8 text
  | .methodType descriptor => pool.expect .utf8 descriptor
  | .fieldRef owner member | .methodRef owner member | .interfaceMethodRef owner member => do
    pool.expect .classRef owner
    pool.expect .nameAndType member
  | .nameAndType name descriptor => do
    pool.expect .utf8 name
    pool.expect .utf8 descriptor
  | .methodHandle kind reference =>
    if 1 ≤ kind ∧ kind ≤ 9 then pool.expect .memberRef reference
    else .error (.badReferenceKind kind index)
  | .dynamic _ member | .invokeDynamic _ member => pool.expect .nameAndType member

/-- Demands that every reference inside the pool lands on the right kind; the first one that does
not, in index order, is reported. -/
def checkReferences (pool : ConstantPool) : Except Error Unit :=
  pool.toList.forM fun (index, c) => pool.checkConstant index c

/-! ### Binary form -/

/-- Reads constants into the next `open` slots behind `slots`, where `count` is the declared size
of the pool. A wide constant that would need a slot beyond the last is refused. -/
def decodeSlots (count : UInt16) : Nat → Array (Option Constant) → Decoder (Array (Option Constant))
  | 0, slots => fun bytes => .ok (slots, bytes)
  | 1, slots => fun bytes =>
    match Constant.decode bytes with
    | .ok (c, rest) =>
      if c.isWide then .error (.badIndex count) else .ok (slots.push (some c), rest)
    | .error e => .error e
  | free + 2, slots => fun bytes =>
    match Constant.decode bytes with
    | .ok (c, rest) =>
      if c.isWide then decodeSlots count free ((slots.push (some c)).push none) rest
      else decodeSlots count (free + 1) (slots.push (some c)) rest
    | .error e => .error e

/-- Reads a pool and checks its references. -/
def decode : Decoder ConstantPool := do
  let count ← Decoder.u16
  if count = 0 then throw (.badIndex 0)
  let slots ← decodeSlots count (count.toNat - 1) #[none]
  let pool : ConstantPool := ⟨slots⟩
  Decoder.check pool.checkReferences
  pure pool

/-- The bytes of a pool: the number of slots, then the constants in order. -/
def encode (pool : ConstantPool) : Bytes :=
  Bytes.ofWord16 pool.length ++ (pool.slots.toList.filterMap id).flatMap Constant.encode

end ConstantPool

end ClassOrigin.ClassFile
