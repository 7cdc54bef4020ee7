/-
Decompression of deflated data.

The compressed bytes are read as a list of bits, low bit first. Symbols are written in canonical
Huffman codes, which are read by walking a binary tree.

* **`CodeTree.ofLengths?`** builds the canonical code of given lengths;
* **`inflate`** gives the data and how the stream ended: at its end mark, too early, or with
  something that no stream holds.
-/
import ClassOrigin.Bytes

namespace ClassOrigin.Inflate

/-- A sequence of bits still to be read. -/
abbrev Bits := List Bool

/-- The bits of a byte, low bit first. -/
def bitsOfByte (b : UInt8) : Bits :=
  (List.range 8).map fun i => b.toNat.testBit i

/-- Why reading stopped before the end mark. -/
inductive Stop
  | truncated
  | corrupt
deriving DecidableEq

/-- Reads a number of `n` bits, low bit first. -/
def takeNumber : Nat → Bits → Except Stop (Nat × Bits)
  | 0, bits => .ok (0, bits)
  | _ + 1, [] => .error .truncated
  | n + 1, b :: rest => do
    let (high, rest) ← takeNumber n rest
    pure ((if b then 1 else 0) + 2 * high, rest)

/-! ### Codes -/

/-- A code: at each node the next bit chooses a side, and a leaf is a symbol. -/
inductive CodeTree
  | empty
  | leaf (symbol : Nat)
  | node (zero one : CodeTree)

namespace CodeTree

/-- Adds a symbol under a sequence of bits. -/
def insert (symbol : Nat) : Bits → CodeTree → CodeTree
  | [], _ => leaf symbol
  | false :: rest, node zero one => node (insert symbol rest zero) one
  | true :: rest, node zero one => node zero (insert symbol rest one)
  | false :: rest, _ => node (insert symbol rest empty) empty
  | true :: rest, _ => node empty (insert symbol rest empty)

/-- Reads one symbol. -/
def read : CodeTree → Bits → Except Stop (Nat × Bits)
  | leaf symbol, bits => .ok (symbol, bits)
  | empty, _ => .error .corrupt
  | node _ _, [] => .error .truncated
  | node zero one, b :: rest => if b then one.read rest else zero.read rest

/-- The `length` low bits of a number, high bit first. -/
def codeBits (length code : Nat) : Bits :=
  (List.range length).reverse.map fun i => code.testBit i

/-- The longest code word. -/
def maxLength : Nat := 15

/-- The code words of the symbols with the given word lengths: shorter words come first, and among
words of one length the symbols are in order. A length of 0 leaves a symbol out. -/
def codeWords (lengths : List Nat) : List (Nat × Bits) :=
  let step := fun (state : Nat × List (Nat × Bits)) (length : Nat) =>
    let symbols := lengths.zipIdx.filterMap fun (l, symbol) =>
      if l = length then some symbol else none
    let words := symbols.zipIdx.map fun (symbol, i) => (symbol, codeBits length (state.1 + i))
    ((state.1 + symbols.length) * 2, state.2 ++ words)
  (((List.range maxLength).map (· + 1)).foldl step (0, [])).2

/-- How much of the space of all code words the given lengths take up, in units of the longest
word. -/
def usage (lengths : List Nat) : Nat :=
  (lengths.filter (· ≠ 0)).foldl (fun room l => room + Nat.pow 2 (maxLength - l)) 0

/-- Whether the code words with the given lengths fill the space exactly. -/
def isComplete (lengths : List Nat) : Bool :=
  usage lengths == Nat.pow 2 maxLength

/-- The canonical code with the given word lengths. It has to be complete, unless there is at most
one word. -/
def ofLengths? (lengths : List Nat) : Option CodeTree :=
  if isComplete lengths ∨ (lengths.filter (· ≠ 0)).length ≤ 1 then
    some ((codeWords lengths).foldl (fun tree (symbol, word) => insert symbol word tree) empty)
  else none

end CodeTree

/-! ### Symbols -/

/-- The base and the number of extra bits of each match length, from symbol 257 on. -/
def lengthTable : List (Nat × Nat) :=
  [(3, 0), (4, 0), (5, 0), (6, 0), (7, 0), (8, 0), (9, 0), (10, 0), (11, 1), (13, 1), (15, 1),
    (17, 1), (19, 2), (23, 2), (27, 2), (31, 2), (35, 3), (43, 3), (51, 3), (59, 3), (67, 4),
    (83, 4), (99, 4), (115, 4), (131, 5), (163, 5), (195, 5), (227, 5), (258, 0)]

/-- The base and the number of extra bits of each match distance. -/
def distanceTable : List (Nat × Nat) :=
  [(1, 0), (2, 0), (3, 0), (4, 0), (5, 1), (7, 1), (9, 2), (13, 2), (17, 3), (25, 3), (33, 4),
    (49, 4), (65, 5), (97, 5), (129, 6), (193, 6), (257, 7), (385, 7), (513, 8), (769, 8),
    (1025, 9), (1537, 9), (2049, 10), (3073, 10), (4097, 11), (6145, 11), (8193, 12), (12289, 12),
    (16385, 13), (24577, 13)]

/-- Reads the extra bits of the `i`-th row of a table. -/
def readExtra (table : List (Nat × Nat)) (i : Nat) (bits : Bits) : Except Stop (Nat × Bits) :=
  match table[i]? with
  | none => .error .corrupt
  | some (base, extra) => do
    let (n, bits) ← takeNumber extra bits
    pure (base + n, bits)

/-- Repeats `length` bytes from `distance` bytes back. -/
def copyBack (distance : Nat) : Nat → Array UInt8 → Array UInt8
  | 0, out => out
  | length + 1, out => copyBack distance length (out.push (out[out.size - distance]?.getD 0))

/-- Reads a match whose length symbol is the `i`-th: its length and its distance. -/
def readMatch (distances : CodeTree) (i : Nat) (bits : Bits) :
    Except Stop ((Nat × Nat) × Bits) := do
  let (length, bits) ← readExtra lengthTable i bits
  let (symbol, bits) ← distances.read bits
  let (distance, bits) ← readExtra distanceTable symbol bits
  pure ((length, distance), bits)

/-- What has been written, and what is left to read or why reading stopped. -/
abbrev Progress := Array UInt8 × Except Stop Bits

/-- Reads symbols up to the end of the block, at most `fuel` of them. -/
def readSymbols (literals distances : CodeTree) : Nat → Bits → Array UInt8 → Progress
  | 0, _, out => (out, .error .truncated)
  | fuel + 1, bits, out =>
    match literals.read bits with
    | .error stop => (out, .error stop)
    | .ok (symbol, bits) =>
      if symbol < 256 then readSymbols literals distances fuel bits (out.push (UInt8.ofNat symbol))
      else if symbol = 256 then (out, .ok bits)
      else
        match readMatch distances (symbol - 257) bits with
        | .error stop => (out, .error stop)
        | .ok ((length, distance), bits) =>
          if distance > out.size then (out, .error .corrupt)
          else readSymbols literals distances fuel bits (copyBack distance length out)

/-! ### Blocks -/

/-- The word lengths of the fixed literal code. -/
def fixedLiteralLengths : List Nat :=
  List.replicate 144 8 ++ List.replicate 112 9 ++ List.replicate 24 7 ++ List.replicate 8 8

/-- The word lengths of the fixed distance code. -/
def fixedDistanceLengths : List Nat :=
  List.replicate 32 5

/-- The order in which the word lengths of the length code are listed. -/
def lengthOrder : List Nat :=
  [16, 17, 18, 0, 8, 7, 9, 6, 10, 5, 11, 4, 12, 3, 13, 2, 14, 1, 15]

/-- Reads `n` numbers of three bits. -/
def takeTriples : Nat → Bits → Except Stop (List Nat × Bits)
  | 0, bits => .ok ([], bits)
  | n + 1, bits => do
    let (first, bits) ← takeNumber 3 bits
    let (rest, bits) ← takeTriples n bits
    pure (first :: rest, bits)

/-- Reads word lengths until there are `count` of them, in at most `fuel` steps; `acc` holds those
read so far in reverse. -/
def readLengths (tree : CodeTree) (count : Nat) :
    Nat → List Nat → Bits → Except Stop (List Nat × Bits)
  | 0, _, _ => .error .corrupt
  | fuel + 1, acc, bits =>
    if acc.length > count then .error .corrupt
    else if acc.length = count then .ok (acc.reverse, bits)
    else do
      let (symbol, bits) ← tree.read bits
      if symbol < 16 then readLengths tree count fuel (symbol :: acc) bits
      else if symbol = 16 then
        match acc with
        | [] => .error .corrupt
        | last :: _ =>
          let (n, bits) ← takeNumber 2 bits
          readLengths tree count fuel (List.replicate (3 + n) last ++ acc) bits
      else if symbol = 17 then
        let (n, bits) ← takeNumber 3 bits
        readLengths tree count fuel (List.replicate (3 + n) 0 ++ acc) bits
      else
        let (n, bits) ← takeNumber 7 bits
        readLengths tree count fuel (List.replicate (11 + n) 0 ++ acc) bits

/-- The code with the given word lengths; a block without one is corrupt. -/
def codeOf (lengths : List Nat) : Except Stop CodeTree :=
  match CodeTree.ofLengths? lengths with
  | some tree => .ok tree
  | none => .error .corrupt

/-- How many symbols a literal code and a distance code that a block brings along may have beyond
the fewest possible, which are 257 and 1. -/
def mostFurther : Nat := 29

/-- Reads the two codes that a block brings along. The code for their word lengths is complete. -/
def readCodes (bits : Bits) : Except Stop ((CodeTree × CodeTree) × Bits) := do
  let (literals, bits) ← takeNumber 5 bits
  let (distances, bits) ← takeNumber 5 bits
  let (listed, bits) ← takeNumber 4 bits
  if mostFurther < literals ∨ mostFurther < distances then throw .corrupt
  let (triples, bits) ← takeTriples (listed + 4) bits
  let byOrder := lengthOrder.zip triples
  let lengthCode := (List.range 19).map fun symbol => (byOrder.lookup symbol).getD 0
  if ! CodeTree.isComplete lengthCode then throw .corrupt
  let lengthTree ← codeOf lengthCode
  let count := literals + 257 + (distances + 1)
  let (lengths, bits) ← readLengths lengthTree count (count + 1) [] bits
  let literalTree ← codeOf (lengths.take (literals + 257))
  let distanceTree ← codeOf (lengths.drop (literals + 257))
  pure ((literalTree, distanceTree), bits)

/-- Drops the bits up to the next byte. -/
def toByte (bits : Bits) : Bits :=
  bits.drop (bits.length % 8)

/-- Copies `n` bytes as they stand. -/
def copyStored : Nat → Bits → Array UInt8 → Progress
  | 0, bits, out => (out, .ok bits)
  | n + 1, bits, out =>
    match takeNumber 8 bits with
    | .error stop => (out, .error stop)
    | .ok (b, bits) => copyStored n bits (out.push (UInt8.ofNat b))

/-- Reads the length of a stored block, which is followed by its complement. -/
def storedLength (bits : Bits) : Except Stop (Nat × Bits) := do
  let (length, bits) ← takeNumber 16 (toByte bits)
  let (complement, bits) ← takeNumber 16 bits
  if length + complement = 0xFFFF then pure (length, bits) else throw .corrupt

/-- Reads one block of the given type. -/
def readBlock (type fuel : Nat) (bits : Bits) (out : Array UInt8) : Progress :=
  match type with
  | 0 =>
    match storedLength bits with
    | .ok (length, bits) => copyStored length bits out
    | .error stop => (out, .error stop)
  | 1 =>
    match codeOf fixedLiteralLengths, codeOf fixedDistanceLengths with
    | .ok literals, .ok distances => readSymbols literals distances fuel bits out
    | .error stop, _ | _, .error stop => (out, .error stop)
  | 2 =>
    match readCodes bits with
    | .ok ((literals, distances), bits) => readSymbols literals distances fuel bits out
    | .error stop => (out, .error stop)
  | _ => (out, .error .corrupt)

/-- Reads blocks up to the last one, at most `fuel` of them. -/
def readBlocks : Nat → Bits → Array UInt8 → Progress
  | 0, _, out => (out, .error .truncated)
  | fuel + 1, bits, out =>
    match takeNumber 1 bits with
    | .error stop => (out, .error stop)
    | .ok (isLast, bits) =>
      match takeNumber 2 bits with
      | .error stop => (out, .error stop)
      | .ok (type, bits) =>
        match readBlock type (bits.length + 1) bits out with
        | (out, .ok bits) =>
          if isLast = 1 then (out, .ok bits) else readBlocks fuel bits out
        | stopped => stopped

/-- Decompresses a stream: the data that could be read, and how reading stopped if it did so
before the end mark. What follows the end mark is ignored. -/
def inflate (bytes : Bytes) : Bytes × Option Stop :=
  let bits := bytes.flatMap bitsOfByte
  match readBlocks (bits.length + 1) bits #[] with
  | (out, .ok _) => (out.toList, none)
  | (out, .error stop) => (out.toList, some stop)

end ClassOrigin.Inflate
