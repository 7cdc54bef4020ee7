/-
Zip archives.

An archive is read from its end: the closing record says where the directory of entries starts and
how many there are, unless a larger record in front of it does. Bytes may stand in front of the
archive and behind it. Of several entries with one name the last counts.

* **`Archive.ofBytes?`** reads the directory;
* **`Archive.locate`** finds an entry by its exact name, and fails on one that is encrypted or
  compressed in a way that is not supported;
* **`Archive.Located.content?`** gives the data of an entry, checked against its checksum.
-/
import ClassOrigin.Zip.Entry
import ClassOrigin.Zip.Inflate

namespace ClassOrigin

/-- An archive: all its bytes, and its directory in order. -/
structure Archive where
  bytes : Bytes
  entries : List ArchiveEntry

namespace Archive

/-! ### The directory -/

/-- The bytes that the closing record starts with. -/
def closingMark : Bytes := [0x50, 0x4B, 0x05, 0x06]

/-- The bytes that a directory record starts with. -/
def directoryMark : Bytes := [0x50, 0x4B, 0x01, 0x02]

/-- The bytes that a local record starts with. -/
def localMark : Bytes := [0x50, 0x4B, 0x03, 0x04]

/-- The size of a directory record without its variable parts. -/
def directorySize : Nat := 46

/-- The size of a local record without its variable parts. -/
def localSize : Nat := 30

/-- The size of the closing record without its comment. -/
def closingSize : Nat := 22

/-- Reads a directory record from the front of `bytes`: the entry, and the bytes behind it.
`shift` is the number of bytes in front of the archive. -/
def readEntry? (shift : Nat) (bytes : Bytes) : Option (ArchiveEntry × Bytes) := do
  if bytes.take 4 ≠ directoryMark then failure
  let flags ← word16? bytes 8
  let method ← word16? bytes 10
  let checksum ← word32? bytes 16
  let compressedSize ← word32? bytes 20
  let size ← word32? bytes 24
  let nameLength ← word16? bytes 28
  let extraLength ← word16? bytes 30
  let commentLength ← word16? bytes 32
  let headerStart ← word32? bytes 42
  let tail := bytes.drop directorySize
  let rest := tail.drop (nameLength + extraLength + commentLength)
  if tail.length < nameLength + extraLength + commentLength then failure
  let isUtf8 := flags.testBit 11
  let rawName := tail.take nameLength
  let comment := (tail.drop (nameLength + extraLength)).take commentLength
  let entry : ArchiveEntry :=
    { name := nameText isUtf8 rawName
      isEncrypted := flags.testBit 0
      method, checksum, size, compressedSize, headerStart }
  let record : EntryRecord := { entry, rawName, comment := Bytes.ofText (nameText isUtf8 comment) }
  let record ← record.applyExtra ((tail.drop nameLength).take extraLength)
  if ! record.isComplete then failure
  pure ({ record.entry with headerStart := record.entry.headerStart + shift }, rest)

/-- Reads `n` directory records; `acc` holds the earlier ones in reverse. -/
def readEntries? (shift : Nat) : Nat → List ArchiveEntry → Bytes → Option (List ArchiveEntry)
  | 0, acc, _ => some acc.reverse
  | n + 1, acc, bytes =>
    match readEntry? shift bytes with
    | some (entry, rest) => readEntries? shift n (entry :: acc) rest
    | none => none

/-- The offsets at which `mark` stands in `bytes`, in descending order; `offset` is that of the
front of `bytes`, and `acc` holds the ones found so far. -/
def findMarks (mark : Bytes) (offset : Nat) (acc : List Nat) : Bytes → List Nat
  | [] => acc
  | b :: rest =>
    let here := (b :: rest).take 4 == mark
    findMarks mark (offset + 1) (if here then offset :: acc else acc) rest

/-- The offsets at which `mark` stands in `bytes` from `start` on and before `stop`, in order. -/
def marksBetween (mark bytes : Bytes) (start stop : Nat) : List Nat :=
  (findMarks mark start [] ((bytes.take stop).drop start)).reverse

/-- Where the directory starts: at the stated offset, or else at the first directory record
between there and the closing record. -/
def directoryStart? (bytes : Bytes) (stated closing : Nat) : Option Nat :=
  (marksBetween directoryMark bytes stated closing).head?

/-- What the closing records say about the directory. -/
structure Closing where
  /-- How many entries there are. -/
  count : Nat
  /-- Where the directory starts. -/
  start : Nat
  /-- How many bytes stand in front of the archive. -/
  shift : Nat
deriving DecidableEq

/-! ### Large archives -/

/-- The bytes that the locator of a large closing record starts with. -/
def locatorMark : Bytes := [0x50, 0x4B, 0x06, 0x07]

/-- The bytes that a large closing record starts with. -/
def largeClosingMark : Bytes := [0x50, 0x4B, 0x06, 0x06]

/-- The size of a locator. -/
def locatorSize : Nat := 20

/-- The disk and the offset that the locator in front of a closing record states for a large one,
with the number of disks. -/
def locator? (bytes : Bytes) (closing : Nat) : Option (Nat × Nat × Nat) := do
  if closing < locatorSize then failure
  let record := bytes.drop (closing - locatorSize)
  if record.take 4 ≠ locatorMark then failure
  pure (← word32? record 4, ← word64? record 8, ← word32? record 16)

/-- Reads the large closing record at an offset, which ends where its locator starts. `stated` is
the offset and `disk` the disk that the locator states. -/
def largeClosing? (bytes : Bytes) (disk stated locator offset : Nat) : Option (Option Closing) := do
  let record := bytes.drop offset
  let size ← word64? record 4
  let maker ← word16? record 12
  let needed ← word16? record 14
  let ownDisk ← word32? record 16
  let directoryDisk ← word32? record 20
  let onDisk ← word64? record 24
  let count ← word64? record 32
  let start ← word64? record 48
  if size + 12 ≠ locator - offset ∨ size < 44 ∨ directoryDisk ≠ disk then failure
  if offset < start + count * directorySize then failure
  let shift := offset - stated
  pure <|
    if count < onDisk ∨ maker < needed ∨ ownDisk ≠ directoryDisk then none
    else some { count, start := start + shift, shift }

/-- What the large closing record says that belongs to a closing record. -/
def ofLocator? (bytes : Bytes) (closing : Nat) (locator : Nat × Nat × Nat) : Option Closing :=
  let (disk, stated, disks) := locator
  let stop := closing - locatorSize
  if disks > 1 then none
  else ((marksBetween largeClosingMark bytes stated stop).findSome?
    (largeClosing? bytes disk stated stop)).join

/-! ### The archive -/

/-- What the closing record at an offset says. -/
def closing? (bytes : Bytes) (closing : Nat) : Option Closing := do
  let record := bytes.drop closing
  let disk ← word16? record 4
  let directoryDisk ← word16? record 6
  let onDisk ← word16? record 8
  let total ← word16? record 10
  let stated ← word32? record 16
  let commentLength ← word16? record 20
  if record.length < closingSize + commentLength then failure
  let mayBeLarge := total = 0xFFFF ∨ stated = EntryRecord.overflow32
  match if mayBeLarge then locator? bytes closing else none with
  | some locator => ofLocator? bytes closing locator
  | none =>
    let start ←
      if total = 0 then pure (max stated closing) else directoryStart? bytes stated closing
    if disk ≠ directoryDisk then failure
    pure { count := onDisk, start, shift := start - stated }

/-- Reads the archive whose closing record stands at an offset. -/
def ofClosing? (bytes : Bytes) (offset : Nat) : Option Archive := do
  let closing ← closing? bytes offset
  let entries ← readEntries? closing.shift closing.count [] (bytes.drop closing.start)
  pure ⟨bytes, entries⟩

/-- Reads an archive: the last closing record that leads to a readable directory counts. -/
def ofBytes? (bytes : Bytes) : Option Archive :=
  (findMarks closingMark 0 [] bytes).findSome? (ofClosing? bytes)

/-! ### Entries -/

/-- The entry with a name. -/
def entry? (archive : Archive) (name : String) : Option ArchiveEntry :=
  archive.entries.reverse.find? fun entry => entry.name == name

/-- An entry together with its data as stored. -/
structure Located where
  entry : ArchiveEntry
  stored : Bytes

/-- The stored data of an entry, behind its local record. -/
def stored? (archive : Archive) (entry : ArchiveEntry) : Option Bytes := do
  let record := archive.bytes.drop entry.headerStart
  if record.take 4 ≠ localMark then failure
  let nameLength ← word16? record 26
  let extraLength ← word16? record 28
  pure ((record.drop (localSize + nameLength + extraLength)).take entry.compressedSize)

/-- Looking an entry up. -/
inductive Lookup
  | absent
  | unusable
  | found (located : Located)

/-- Finds an entry whose data can be read: one that is not encrypted, is stored or deflated, and
has its local record in place. -/
def locate (archive : Archive) (name : String) : Lookup :=
  match archive.entry? name with
  | none => .absent
  | some entry =>
    if entry.isEncrypted ∨ (entry.method ≠ 0 ∧ entry.method ≠ 8) then .unusable
    else
      match archive.stored? entry with
      | some stored => .found ⟨entry, stored⟩
      | none => .unusable

/-- The data of an entry; nothing when it cannot be decompressed or fails its checksum. -/
def Located.content? (located : Located) : Option Bytes :=
  let (content, stop) :=
    if located.entry.method = 8 then Inflate.inflate located.stored else (located.stored, none)
  if stop = some .corrupt then none
  else if (Crc32.ofBytes content).toNat = located.entry.checksum then some content
  else none

/-- Whether an entry can be found and read from. -/
def contains (archive : Archive) (name : String) : Bool :=
  match archive.locate name with
  | .found _ => true
  | _ => false

end Archive

end ClassOrigin
