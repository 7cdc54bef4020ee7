/-
Entries of a zip archive, as its directory records them.

A record has an entry's name, numbers of at most 32 bits, and extra fields. An extra field can hold
numbers that are larger, another spelling of the name, or the way of encryption. A field that is cut
short by the end of the record ends the extra fields; one that contradicts itself or the record
makes the archive unreadable.

* **`EntryRecord.applyExtra`** applies the extra fields of a record.
-/
import ClassOrigin.Text.Utf8
import ClassOrigin.Zip.Checksum

namespace ClassOrigin

/-- An entry of an archive's directory. -/
structure ArchiveEntry where
  name : String
  isEncrypted : Bool
  method : Nat
  checksum : Nat
  size : Nat
  compressedSize : Nat
  headerStart : Nat

namespace Archive

/-! ### Little-endian fields -/

/-- The 16-bit word at an offset, low byte first. -/
def word16? (bytes : Bytes) (offset : Nat) : Option Nat :=
  match bytes.drop offset with
  | a :: b :: _ => some (a.toNat + 0x100 * b.toNat)
  | _ => none

/-- The 32-bit word at an offset, low byte first. -/
def word32? (bytes : Bytes) (offset : Nat) : Option Nat := do
  let low ← word16? bytes offset
  let high ← word16? bytes (offset + 2)
  pure (low + 0x10000 * high)

/-- The 64-bit word at an offset, low byte first. -/
def word64? (bytes : Bytes) (offset : Nat) : Option Nat := do
  let low ← word32? bytes offset
  let high ← word32? bytes (offset + 4)
  pure (low + 0x100000000 * high)

/-! ### Names -/

/-- The characters that the upper 128 bytes stand for in names without the UTF-8 mark. -/
def upperHalf : List Char :=
  ("ÇüéâäàåçêëèïîìÄÅÉæÆôöòûùÿÖÜ¢£¥₧ƒáíóúñÑªº¿⌐¬½¼¡«»░▒▓│┤╡╢╖╕╣║╗╝╜╛┐" ++
    "└┴┬├─┼╞╟╚╔╩╦╠═╬╧╨╤╥╙╘╒╓╫╪┘┌█▄▌▐▀" ++
    "αßΓπΣσµτΦΘΩδ∞φε∩≡±≥≤⌠⌡÷≈°∙·√ⁿ²■\u00A0").toList

/-- The character of a byte in a name without the UTF-8 mark. -/
def legacyChar (b : UInt8) : Char :=
  if b < 0x80 then Char.ofNat b.toNat else (upperHalf[b.toNat - 0x80]?).getD '\uFFFD'

/-- The text of an entry's name. -/
def nameText (isUtf8 : Bool) (bytes : Bytes) : String :=
  if isUtf8 then Utf8.decodeLossy bytes else String.ofList (bytes.map legacyChar)

end Archive

/-- An entry together with the parts of its record that extra fields refer to. -/
structure EntryRecord where
  entry : ArchiveEntry
  rawName : Bytes
  comment : Bytes
  /-- The way of encryption has been told. -/
  hasKey : Bool := false

namespace EntryRecord

open Archive (word16? word32? word64?)

/-- Where the extra fields lead to. -/
inductive Step
  /-- More fields may follow. -/
  | next (record : EntryRecord) (rest : Bytes)
  /-- The field is cut short. -/
  | last (record : EntryRecord)
  | invalid

/-- Goes on behind the first `length` bytes. -/
def skip (record : EntryRecord) (length : Nat) (rest : Bytes) : Step :=
  if rest.length < length then .last record else .next record (rest.drop length)

/-! ### Large sizes -/

/-- The largest 32-bit word, which stands for a number kept in an extra field. -/
def overflow32 : Nat := 0xFFFFFFFF

/-- A number of an entry that can be large. -/
structure SizeField where
  get : ArchiveEntry → Nat
  set : ArchiveEntry → Nat → ArchiveEntry

/-- The numbers of an entry that can be large, in the order of the field that holds them. -/
def sizeFields : List SizeField :=
  [⟨ArchiveEntry.size, fun entry size => { entry with size }⟩,
    ⟨ArchiveEntry.compressedSize, fun entry compressedSize => { entry with compressedSize }⟩,
    ⟨ArchiveEntry.headerStart, fun entry headerStart => { entry with headerStart }⟩]

/-- Reads large numbers, all of them or those that overflowed; gives the entry with the bytes that
are left, none when they were cut short. -/
def readSizes (all : Bool) : List SizeField → ArchiveEntry → Bytes → ArchiveEntry × Option Bytes
  | [], entry, rest => (entry, some rest)
  | field :: fields, entry, rest =>
    if all || field.get entry == overflow32 then
      match word64? rest 0 with
      | some value => readSizes all fields (field.set entry value) (rest.drop 8)
      | none => (entry, none)
    else readSizes all fields entry rest

/-- Applies a field with large numbers. -/
def applySizes (record : EntryRecord) (length : Nat) (rest : Bytes) : Step :=
  match readSizes (length ≥ 24) sizeFields record.entry rest with
  | (entry, none) => .last { record with entry }
  | (entry, some behind) =>
    let used := rest.length - behind.length
    if length < used then .invalid else skip { record with entry } (length - used) behind

/-! ### Names and comments -/

/-- Applies a field with another spelling of a text, which names the text by its checksum. -/
def applySpelling (record : EntryRecord) (length : Nat) (rest : Bytes) (spelled : Bytes)
    (set : Bytes → String → EntryRecord) : Step :=
  match word32? rest 1 with
  | none => .last record
  | some checksum =>
    let content := (rest.take length).drop 5
    if length < 5 then .invalid
    else if rest.length < length then .last record
    else if (Crc32.ofBytes spelled).toNat ≠ checksum then .invalid
    else
      match Utf8.decode? content with
      | some text => .next (set content text) (rest.drop length)
      | none => .invalid

/-! ### Encryption and times -/

/-- The method of entries whose own method stands in an extra field. -/
def methodElsewhere : Nat := 99

/-- Applies a field on the way of encryption: version, maker, strength, method. -/
def applyEncryption (record : EntryRecord) (length : Nat) (rest : Bytes) : Step :=
  if length ≠ 7 then .invalid
  else
    match word16? rest 0, word16? rest 2, rest[4]?, word16? rest 5 with
    | some version, some maker, some strength, some method =>
      if maker = 0x4541 ∧ (version = 1 ∨ version = 2) ∧ 1 ≤ strength ∧ strength ≤ 3 then
        let entry := { record.entry with method, isEncrypted := true }
        .next { record with entry, hasKey := true } (rest.drop 7)
      else .invalid
    | _, _, _, _ => .last record

/-- Passes over a field with times, which has a fixed form. -/
def passTimes (record : EntryRecord) (length : Nat) (rest : Bytes) : Step :=
  if length ≠ 32 then .invalid
  else
    match word16? rest 4, word16? rest 6 with
    | none, _ => .last record
    | some tag, size =>
      if tag ≠ 1 ∨ size.any (· ≠ 24) then .invalid else skip record 32 rest

/-! ### All fields -/

/-- Applies the field of a kind and length at the front of `rest`. -/
def applyField (record : EntryRecord) (kind length : Nat) (rest : Bytes) : Step :=
  match kind with
  | 0x0001 => record.applySizes length rest
  | 0x000A => record.passTimes length rest
  | 0x6375 =>
    record.applySpelling length rest record.comment fun comment _ => { record with comment }
  | 0x7075 =>
    record.applySpelling length rest record.rawName fun rawName name =>
      { record with rawName, entry := { record.entry with name } }
  | 0x9901 => record.applyEncryption length rest
  | _ => record.skip length rest

/-- Applies extra fields, at most `fuel` of them. -/
def applyFields : Nat → Bytes → EntryRecord → Option EntryRecord
  | 0, _, record => some record
  | fuel + 1, extra, record =>
    match word16? extra 0, word16? extra 2 with
    | some kind, some length =>
      match record.applyField kind length (extra.drop 4) with
      | .next record rest => applyFields fuel rest record
      | .last record => some record
      | .invalid => none
    | _, _ => some record

/-- Applies extra fields. Each takes at least four bytes. -/
def applyExtra (record : EntryRecord) (extra : Bytes) : Option EntryRecord :=
  applyFields extra.length extra record

/-- Whether the method of an entry has been told. -/
def isComplete (record : EntryRecord) : Bool :=
  record.hasKey || record.entry.method != methodElsewhere

end EntryRecord

end ClassOrigin
