/-
Host names, as the labels they are read as.

A host name is decoded and each character replaced by its spelling, so that different ways to write
one name become the same. A label behind `xn--` is one written in ASCII. Every label has to follow
the rules for marks, joiners and directions, and a name that ends in a number has to be an address.

* **`Host.parse?`** reads a host, **`Host.isLocal`** says whether it is this machine.
-/
import ClassOrigin.HostName.Address
import ClassOrigin.HostName.Direction
import ClassOrigin.HostName.Joining
import ClassOrigin.HostName.Mapping
import ClassOrigin.HostName.Punycode
import ClassOrigin.Text.Composition
import ClassOrigin.Text.Percent
import ClassOrigin.Text.Utf8

namespace ClassOrigin

namespace HostName

/-- Characters that no host name holds. -/
def isForbidden (c : Char) : Bool :=
  c ≤ ' ' || c == '\x7F' || "#/:<>?@[\\]^|%".toList.contains c

/-- The longest label outside ASCII, and the longest one written in ASCII. -/
def maxLabel : Nat := 1000

/-- The longest text behind `xn--`. -/
def maxEncoded : Nat := 2000

/-- Whether a label consists of ASCII characters. -/
def isAscii (label : List Char) : Bool :=
  label.all fun c => c ≤ '\x7F'

/-- What a text is read as, in composed form. -/
def spell? (text : List Char) : Option (List Char) :=
  (text.mapM Mapping.read?).map fun spellings => Composition.compose spellings.flatten

/-- The label that is written in ASCII behind `xn--`. It is written as it would be read. -/
def decodeLabel? (encoded : List Char) : Option (List Char) := do
  if ! isAscii encoded ∨ encoded.length > maxEncoded then failure
  let label ← Punycode.decode? encoded
  if label.all Mapping.isPlain ∧ ¬ label.any (fun c => c = '.' ∨ isForbidden c) ∧
      Composition.compose label = label then
    pure label
  else failure

/-- Reads a label. -/
def label? (text : List Char) : Option (List Char) := do
  let label ←
    match text with
    | 'x' :: 'n' :: '-' :: '-' :: encoded => decodeLabel? encoded
    | text => some text
  if label.head?.any Mark.isMark ∨ ¬ Joining.isSound label ∨
      (¬ isAscii label ∧ label.length > maxLabel) then
    failure
  else pure label

/-- The labels of a host name. -/
def labels? (text : List Char) : Option (List (List Char)) := do
  let name ← spell? text
  if name.isEmpty ∨ name.any isForbidden then failure
  let labels ← (Address.splitAt '.' name).mapM label?
  if Direction.isOrdered labels then pure labels else failure

end HostName

/-- A host: a name, as its labels, or an address. -/
inductive Host
  | name (labels : List (List Char))
  | address
deriving DecidableEq

namespace Host

/-- Reads a host that is not in brackets, from its bytes. -/
def ofBytes? (bytes : Bytes) : Option Host := do
  let text ← Utf8.decode? bytes
  let labels ← HostName.labels? text.toList
  let name := ['.'].intercalate labels
  if ! HostName.Address.endsInNumber name then pure (.name labels)
  else if HostName.Address.isShort name then pure .address
  else failure

/-- Reads a host: an address of sixteen bytes in brackets, or else a name with percent-encoded
bytes or an address of four. -/
def parse? (text : List Char) : Option Host :=
  match text with
  | '[' :: inner =>
    if inner.getLast? = some ']' ∧ HostName.Address.isLong inner.dropLast then some .address
    else none
  | text => ofBytes? (Percent.decode (Bytes.ofText (String.ofList text)))

/-- Whether a host is this machine. -/
def isLocal (host : Host) : Bool :=
  host = .name ["localhost".toList]

end Host

end ClassOrigin
