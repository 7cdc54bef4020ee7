/-
Blueprints: small classes assembled byte by byte.

A blueprint lays out the bytes of a class directly, without going through the class model, so the
two can be held against each other. Every class it describes implements `java/io/Serializable`,
has a constant `COUNT` of value 42 and a constructor that calls the superclass, and carries a
double and a not-a-number float that nothing refers to.

* **`Blueprint.toBytes`** is the finished class file.
-/
import ClassOrigin.Bytes
import ClassOrigin.Text.ModifiedUtf8

namespace ClassOrigin

/-- A class attribute of a blueprint, with its value. -/
inductive BlueprintAttribute
  | sourceFile (text : String)
  | sourceLocation (text : String)

namespace BlueprintAttribute

/-- The name of the attribute. -/
def name : BlueprintAttribute → String
  | sourceFile _ => "SourceFile"
  | sourceLocation _ => "SourceLocation"

/-- The value of the attribute. -/
def text : BlueprintAttribute → String
  | sourceFile text | sourceLocation text => text

end BlueprintAttribute

/-- The choices that a blueprint leaves open. `thisIndex` overrides the index of the class's own
constant. -/
structure Blueprint where
  name : String
  major : UInt16 := 52
  minor : UInt16 := 0
  hasSuper : Bool := true
  thisIndex : Option UInt16 := none
  attributes : List BlueprintAttribute := []

namespace Blueprint

/-- A string constant. -/
def utf8Entry (text : String) : Bytes :=
  let bytes := ModifiedUtf8.encode text
  1 :: Bytes.ofWord16 (UInt16.ofNat bytes.length) ++ bytes

/-- A class constant. -/
def classEntry (name : UInt16) : Bytes :=
  7 :: Bytes.ofWord16 name

/-- The entries that every blueprint's pool starts with; the next free index behind them is 20. -/
def commonEntries (name : String) : Bytes :=
  utf8Entry name                                          -- 1
    ++ classEntry 1                                       -- 2
    ++ utf8Entry "java/lang/Object"                       -- 3
    ++ classEntry 3                                       -- 4
    ++ utf8Entry "java/io/Serializable"                   -- 5
    ++ classEntry 5                                       -- 6
    ++ utf8Entry "<init>"                                 -- 7
    ++ utf8Entry "()V"                                    -- 8
    ++ 12 :: Bytes.ofWord16 7 ++ Bytes.ofWord16 8         -- 9
    ++ 10 :: Bytes.ofWord16 4 ++ Bytes.ofWord16 9         -- 10
    ++ utf8Entry "Code"                                   -- 11
    ++ utf8Entry "COUNT"                                  -- 12
    ++ utf8Entry "J"                                      -- 13
    ++ utf8Entry "ConstantValue"                          -- 14
    ++ 5 :: Bytes.ofWord64 42                             -- 15 and 16
    ++ 6 :: Bytes.ofWord64 0x4004000000000000             -- 17 and 18
    ++ 4 :: Bytes.ofWord32 0x7FC00001                     -- 19

/-- The index of the first entry behind the common ones. -/
def firstFree : Nat := 20

/-- The entries for the class attributes: the name and the value of each. -/
def attributeEntries (attributes : List BlueprintAttribute) : Bytes :=
  attributes.flatMap fun a => utf8Entry a.name ++ utf8Entry a.text

/-- The field table: `COUNT`, a constant of type long. -/
def fieldTable : Bytes :=
  Bytes.ofWord16 1 ++ Bytes.ofWord16 0x0019 ++ Bytes.ofWord16 12 ++ Bytes.ofWord16 13
    ++ Bytes.ofWord16 1 ++ Bytes.ofWord16 14 ++ Bytes.ofWord32 2 ++ Bytes.ofWord16 15

/-- The body of the constructor: load the receiver, call the superclass's constructor, return;
one stack slot, one local, no handlers and no attributes. -/
def constructorCode : Bytes :=
  Bytes.ofWord16 1 ++ Bytes.ofWord16 1 ++ Bytes.ofWord32 5
    ++ 0x2A :: 0xB7 :: Bytes.ofWord16 10 ++ [0xB1]
    ++ Bytes.ofWord16 0 ++ Bytes.ofWord16 0

/-- The method table: the constructor. -/
def methodTable : Bytes :=
  Bytes.ofWord16 1 ++ Bytes.ofWord16 0x0001 ++ Bytes.ofWord16 7 ++ Bytes.ofWord16 8
    ++ Bytes.ofWord16 1 ++ Bytes.ofWord16 11
    ++ Bytes.ofWord32 (UInt32.ofNat constructorCode.length) ++ constructorCode

/-- The class attribute table. The `i`-th attribute has its name and value in the two entries that
follow those of the attributes before it. -/
def attributeTable (attributes : List BlueprintAttribute) : Bytes :=
  Bytes.ofWord16 (UInt16.ofNat attributes.length)
    ++ (List.range attributes.length).flatMap fun i =>
      Bytes.ofWord16 (UInt16.ofNat (firstFree + 2 * i)) ++ Bytes.ofWord32 2
        ++ Bytes.ofWord16 (UInt16.ofNat (firstFree + 2 * i + 1))

/-- The class file of a blueprint. -/
def toBytes (b : Blueprint) : Bytes :=
  Bytes.ofWord32 0xCAFEBABE ++ Bytes.ofWord16 b.minor ++ Bytes.ofWord16 b.major
    ++ Bytes.ofWord16 (UInt16.ofNat (firstFree + 2 * b.attributes.length))
    ++ commonEntries b.name ++ attributeEntries b.attributes
    ++ Bytes.ofWord16 0x0021 ++ Bytes.ofWord16 (b.thisIndex.getD 2)
    ++ Bytes.ofWord16 (if b.hasSuper then 4 else 0)
    ++ Bytes.ofWord16 1 ++ Bytes.ofWord16 6
    ++ fieldTable ++ methodTable ++ attributeTable b.attributes

end Blueprint

end ClassOrigin
