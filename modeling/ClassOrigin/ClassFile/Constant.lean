/-
The constants of a class file.

A string constant keeps its encoded bytes and a floating point constant keeps its bits, so that
writing a constant gives back exactly what was read. Constants refer to one another by pool
index.

* **`Constant.decode`** and **`Constant.encode`** are the binary form, tag first.
-/
import ClassOrigin.ClassFile.Decoder

namespace ClassOrigin.ClassFile

/-- One constant. -/
inductive Constant
  | utf8 (bytes : Bytes)
  | integer (value : Int32)
  | float (bits : UInt32)
  | long (value : Int64)
  | double (bits : UInt64)
  | classRef (name : UInt16)
  | string (text : UInt16)
  | fieldRef (owner nameAndType : UInt16)
  | methodRef (owner nameAndType : UInt16)
  | interfaceMethodRef (owner nameAndType : UInt16)
  | nameAndType (name descriptor : UInt16)
  | methodHandle (kind : UInt8) (reference : UInt16)
  | methodType (descriptor : UInt16)
  | dynamic (bootstrap nameAndType : UInt16)
  | invokeDynamic (bootstrap nameAndType : UInt16)
  | moduleRef (name : UInt16)
  | packageRef (name : UInt16)
deriving DecidableEq

namespace Constant

/-- The kind of a constant. -/
def kind : Constant → ConstantKind
  | utf8 _ => .utf8
  | integer _ => .integer
  | float _ => .float
  | long _ => .long
  | double _ => .double
  | classRef _ => .classRef
  | string _ => .string
  | fieldRef _ _ => .fieldRef
  | methodRef _ _ => .methodRef
  | interfaceMethodRef _ _ => .interfaceMethodRef
  | nameAndType _ _ => .nameAndType
  | methodHandle _ _ => .methodHandle
  | methodType _ => .methodType
  | dynamic _ _ => .dynamic
  | invokeDynamic _ _ => .invokeDynamic
  | moduleRef _ => .moduleRef
  | packageRef _ => .packageRef

/-- A wide constant takes up two pool slots, of which the second is unusable. -/
def isWide : Constant → Bool
  | long _ | double _ => true
  | _ => false

/-- A constant that consists of a single index. -/
def decodeOne (make : UInt16 → Constant) : Decoder Constant := do
  let index ← Decoder.u16
  pure (make index)

/-- A constant that consists of two indices. -/
def decodeTwo (make : UInt16 → UInt16 → Constant) : Decoder Constant := do
  let first ← Decoder.u16
  let second ← Decoder.u16
  pure (make first second)

/-- The body of a constant with the given tag. -/
def decodeBody (tag : UInt8) : Decoder Constant :=
  match tag with
  | 1 => do
    let length ← Decoder.u16
    let bytes ← Decoder.block length.toNat
    pure (utf8 bytes)
  | 3 => do
    let bits ← Decoder.u32
    pure (integer bits.toInt32)
  | 4 => do
    let bits ← Decoder.u32
    pure (float bits)
  | 5 => do
    let bits ← Decoder.u64
    pure (long bits.toInt64)
  | 6 => do
    let bits ← Decoder.u64
    pure (double bits)
  | 7 => decodeOne classRef
  | 8 => decodeOne string
  | 9 => decodeTwo fieldRef
  | 10 => decodeTwo methodRef
  | 11 => decodeTwo interfaceMethodRef
  | 12 => decodeTwo nameAndType
  | 15 => do
    let kind ← Decoder.u8
    let reference ← Decoder.u16
    pure (methodHandle kind reference)
  | 16 => decodeOne methodType
  | 17 => decodeTwo dynamic
  | 18 => decodeTwo invokeDynamic
  | 19 => decodeOne moduleRef
  | 20 => decodeOne packageRef
  | _ => throw (.badTag tag)

/-- Reads a constant, tag first. -/
def decode : Decoder Constant := do
  let tag ← Decoder.u8
  decodeBody tag

/-- The bytes of a constant, tag first. The length of a string constant is written in 16 bits,
which is all it has in a pool that was read or grown by interning. -/
def encode : Constant → Bytes
  | utf8 bytes => 1 :: Bytes.ofWord16 (UInt16.ofNat bytes.length) ++ bytes
  | integer value => 3 :: Bytes.ofWord32 value.toUInt32
  | float bits => 4 :: Bytes.ofWord32 bits
  | long value => 5 :: Bytes.ofWord64 value.toUInt64
  | double bits => 6 :: Bytes.ofWord64 bits
  | classRef name => 7 :: Bytes.ofWord16 name
  | string text => 8 :: Bytes.ofWord16 text
  | fieldRef owner member => 9 :: Bytes.ofWord16 owner ++ Bytes.ofWord16 member
  | methodRef owner member => 10 :: Bytes.ofWord16 owner ++ Bytes.ofWord16 member
  | interfaceMethodRef owner member => 11 :: Bytes.ofWord16 owner ++ Bytes.ofWord16 member
  | nameAndType name descriptor => 12 :: Bytes.ofWord16 name ++ Bytes.ofWord16 descriptor
  | methodHandle kind reference => 15 :: kind :: Bytes.ofWord16 reference
  | methodType descriptor => 16 :: Bytes.ofWord16 descriptor
  | dynamic bootstrap member => 17 :: Bytes.ofWord16 bootstrap ++ Bytes.ofWord16 member
  | invokeDynamic bootstrap member => 18 :: Bytes.ofWord16 bootstrap ++ Bytes.ofWord16 member
  | moduleRef name => 19 :: Bytes.ofWord16 name
  | packageRef name => 20 :: Bytes.ofWord16 name

end Constant

end ClassOrigin.ClassFile
