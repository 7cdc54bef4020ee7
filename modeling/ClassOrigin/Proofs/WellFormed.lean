/-
Well-formed classes.

The conditions that the class file format puts on a class, stated on the class itself and
without a reader:

* **`ConstantPool.WellFormed`** — between 1 and 65535 slots, unusable slots exactly where the
  format leaves them, string constants of at most 65535 bytes, and references that land on
  constants of the right kind;
* **`ClassFile.WellFormed`** — a supported version, a well-formed pool, tables of at most 65535
  entries, and indices that point at what their place calls for.
-/
import Mathlib.Algebra.Group.Nat.Defs
import ClassOrigin.ClassFile.Basic

namespace ClassOrigin.ClassFile

/-! ### Pools -/

namespace ConstantPool

variable (pool : ConstantPool)

/-- `c` is the constant at `index`. -/
def Holds (index : UInt16) (c : Constant) : Prop :=
  pool.slots[index.toNat]? = some (some c)

/-- A string constant lies at `index`. -/
def Utf8At (index : UInt16) : Prop :=
  ∃ bytes, pool.Holds index (.utf8 bytes)

/-- A class constant lies at `index`. -/
def ClassAt (index : UInt16) : Prop :=
  ∃ name, pool.Holds index (.classRef name)

/-- A name with a type lies at `index`. -/
def NameAndTypeAt (index : UInt16) : Prop :=
  ∃ name descriptor, pool.Holds index (.nameAndType name descriptor)

/-- A field, method or interface method lies at `index`. -/
def MemberAt (index : UInt16) : Prop :=
  ∃ owner member, pool.Holds index (.fieldRef owner member) ∨
    pool.Holds index (.methodRef owner member) ∨
    pool.Holds index (.interfaceMethodRef owner member)

/-- A class constant whose name is proper modified UTF-8 lies at `index`. -/
def NamedClassAt (index : UInt16) : Prop :=
  ∃ name bytes text, pool.Holds index (.classRef name) ∧ pool.Holds name (.utf8 bytes) ∧
    ModifiedUtf8.decode? bytes = some text

/-- Where the references of a constant have to land.  The bootstrap method of a dynamic constant
is no reference into the pool. -/
def RefersWell : Constant → Prop
  | .utf8 _ | .integer _ | .float _ | .long _ | .double _ => True
  | .classRef name | .moduleRef name | .packageRef name => pool.Utf8At name
  | .string text => pool.Utf8At text
  | .methodType descriptor => pool.Utf8At descriptor
  | .nameAndType name descriptor => pool.Utf8At name ∧ pool.Utf8At descriptor
  | .fieldRef owner member | .methodRef owner member | .interfaceMethodRef owner member =>
    pool.ClassAt owner ∧ pool.NameAndTypeAt member
  | .methodHandle kind reference => (1 ≤ kind ∧ kind ≤ 9) ∧ pool.MemberAt reference
  | .dynamic _ member | .invokeDynamic _ member => pool.NameAndTypeAt member

/-- The slots that hold nothing are the first one and those behind a wide constant.  The second
condition runs over all numbers, so the slot behind a wide constant has to exist. -/
structure UnusableSlots (slots : List (Option Constant)) : Prop where
  first : slots[0]? = some none
  behind_iff : ∀ i : Nat, slots[i + 1]? = some none ↔ ∃ c, slots[i]? = some (some c) ∧ c.isWide

/-- What the format demands of a pool. -/
structure WellFormed : Prop where
  size_pos : 1 ≤ pool.slots.size
  size_le : pool.slots.size ≤ 65535
  unusable : UnusableSlots pool.slots.toList
  utf8_le : ∀ (i : Nat) (bytes : Bytes),
    pool.slots[i]? = some (some (.utf8 bytes)) → bytes.length ≤ 65535
  refersWell : ∀ (i : Nat) (c : Constant), pool.slots[i]? = some (some c) → pool.RefersWell c

end ConstantPool

/-! ### Classes -/

/-- A list that fits a table and whose entries are all `valid`. -/
def IsTable {α : Type} (valid : α → Prop) (xs : List α) : Prop :=
  xs.length ≤ 65535 ∧ ∀ x ∈ xs, valid x

/-- What the format demands of an attribute whose name lies in `pool`. -/
structure Attribute.WellFormed (pool : ConstantPool) (a : Attribute) : Prop where
  name : pool.Utf8At a.name
  payload_lt : a.payload.length < 2 ^ 32

/-- What the format demands of a member whose names lie in `pool`. -/
structure Member.WellFormed (pool : ConstantPool) (m : Member) : Prop where
  name : pool.Utf8At m.name
  descriptor : pool.Utf8At m.descriptor
  attributes : IsTable (Attribute.WellFormed pool) m.attributes

end ClassFile

open ClassFile in
/-- What the format demands of a class. -/
structure ClassFile.WellFormed (c : ClassFile) : Prop where
  major_ge : 45 ≤ c.major
  major_le : c.major ≤ 70
  minor : 56 ≤ c.major → c.minor = 0 ∨ c.minor = 0xFFFF
  pool : c.pool.WellFormed
  thisClass : c.pool.NamedClassAt c.thisClass
  superClass : c.superClass ≠ 0 → c.pool.NamedClassAt c.superClass
  interfaces : IsTable c.pool.NamedClassAt c.interfaces
  fields : IsTable (Member.WellFormed c.pool) c.fields
  methods : IsTable (Member.WellFormed c.pool) c.methods
  attributes : IsTable (Attribute.WellFormed c.pool) c.attributes

end ClassOrigin
