/-
What can be wrong with a class file, and how it is worded.

Each cause is a constructor with the numbers that identify it; **`Error.message`** words it, and
**`Error.spelled`** spells it out.
-/
import ClassOrigin.Text.Spelled

namespace ClassOrigin.ClassFile

/-- The kinds of constant that a pool may hold. -/
inductive ConstantKind
  | utf8 | integer | float | long | double | classRef | string
  | fieldRef | methodRef | interfaceMethodRef | nameAndType
  | methodHandle | methodType | dynamic | invokeDynamic | moduleRef | packageRef
deriving DecidableEq, Repr

/-- The name under which the class file format lists a kind. -/
def ConstantKind.name : ConstantKind → String
  | .utf8 => "Utf8"
  | .integer => "Integer"
  | .float => "Float"
  | .long => "Long"
  | .double => "Double"
  | .classRef => "Class"
  | .string => "String"
  | .fieldRef => "Fieldref"
  | .methodRef => "Methodref"
  | .interfaceMethodRef => "InterfaceMethodref"
  | .nameAndType => "NameAndType"
  | .methodHandle => "MethodHandle"
  | .methodType => "MethodType"
  | .dynamic => "Dynamic"
  | .invokeDynamic => "InvokeDynamic"
  | .moduleRef => "Module"
  | .packageRef => "Package"

/-- What the place of a pool reference allows it to point at. -/
inductive Referent
  | utf8 | classRef | nameAndType | memberRef
deriving DecidableEq, Repr

/-- A referent in words. -/
def Referent.name : Referent → String
  | .utf8 => "Utf8"
  | .classRef => "Class"
  | .nameAndType => "NameAndType"
  | .memberRef => "member reference"

/-- The kinds that a referent admits. -/
def Referent.admits : Referent → ConstantKind → Bool
  | .utf8, .utf8 => true
  | .classRef, .classRef => true
  | .nameAndType, .nameAndType => true
  | .memberRef, .fieldRef | .memberRef, .methodRef | .memberRef, .interfaceMethodRef => true
  | _, _ => false

/-- The reasons for which a class cannot be read or changed. -/
inductive Error
  | unexpectedEnd
  | badMagic (found : UInt32)
  | unsupportedVersion (major minor : UInt16)
  | badIndex (index : UInt16)
  | badTag (tag : UInt8)
  | wrongKind (index : UInt16) (expected : Referent) (found : ConstantKind)
  | badReferenceKind (kind : UInt8) (index : UInt16)
  | badModifiedUtf8
  | malformedAttribute (name : String)
  | trailingBytes (count : Nat)
  | poolFull
  | attributeTableFull
  | textTooLong (length : Nat)
deriving DecidableEq, Repr

/-- The lower-case hexadecimal form of a number, padded with zeros to `width` digits. -/
def paddedHex (width n : Nat) : String :=
  let digits := Nat.toDigits 16 n
  String.ofList (List.replicate (width - digits.length) '0' ++ digits)

/-- The wording of an error. -/
def Error.message : Error → String
  | .unexpectedEnd => "unexpected end of input"
  | .badMagic found => s!"invalid classfile magic: 0x{paddedHex 8 found.toNat}"
  | .unsupportedVersion major minor => s!"unsupported classfile version {major}.{minor}"
  | .badIndex index => s!"invalid constant pool index: {index}"
  | .badTag tag => s!"invalid constant pool tag: {tag}"
  | .wrongKind index expected found =>
    s!"constant pool type mismatch at index {index}: expected {expected.name}, found {found.name}"
  | .badReferenceKind kind index =>
    s!"invalid method handle reference kind {kind} at index {index}"
  | .badModifiedUtf8 => "invalid modified UTF-8 constant"
  | .malformedAttribute name => s!"malformed {name} attribute"
  | .trailingBytes count => s!"{count} trailing bytes after classfile"
  | .poolFull => "constant pool is full"
  | .attributeTableFull => "class attribute table is full"
  | .textTooLong length => s!"string constant of {length} bytes exceeds the u2 length limit"

/-- An error spelled out. -/
def Error.spelled : Error → String
  | .unexpectedEnd => "UnexpectedEof"
  | .badMagic found => Spelled.wrapping "InvalidMagic" (toString found)
  | .unsupportedVersion major minor =>
    Spelled.record "UnsupportedVersion" [("major", toString major), ("minor", toString minor)]
  | .badIndex index => Spelled.wrapping "InvalidConstantPoolIndex" (toString index)
  | .badTag tag => Spelled.wrapping "InvalidConstantPoolTag" (toString tag)
  | .wrongKind index expected found =>
    Spelled.record "ConstantPoolTypeMismatch"
      [("index", toString index), ("expected", Quoted.quote expected.name),
        ("found", Quoted.quote found.name)]
  | .badReferenceKind kind index =>
    Spelled.record "InvalidReferenceKind" [("index", toString index), ("kind", toString kind)]
  | .badModifiedUtf8 => "InvalidModifiedUtf8"
  | .malformedAttribute name => Spelled.wrapping "MalformedAttribute" (Quoted.quote name)
  | .trailingBytes count => Spelled.wrapping "TrailingBytes" (toString count)
  | .poolFull => "ConstantPoolOverflow"
  | .attributeTableFull => "AttributeTableFull"
  | .textTooLong length => Spelled.wrapping "Utf8TooLong" (toString length)

end ClassOrigin.ClassFile
