/-
The bytes of a woven class.

Weaving changes three stretches of a class file and no other: the number of slots in front of the
pool, the end of the pool, where constants are added, and the table of class attributes.  Indices
into the pool are spread over all the rest, method bodies included, and stay what they were.

* **`toBytes_eq`** — the stretches of a class file;
* **`Records.exists_grow`** — an update adds at most the path and the name of the attribute;
* **`splits_of_weave`** — the bytes before and after, stretch by stretch.
-/
import ClassOrigin.Proofs.Weaving

namespace ClassOrigin

namespace ClassFile

variable {c after : ClassFile} {path : String} {result : Except Error LocationUpdate}

/-! ### The stretches of a class file -/

/-- What stands in front of the pool: the first word and the version. -/
def headBytes (c : ClassFile) : Bytes :=
  Bytes.ofWord32 magic ++ Bytes.ofWord16 c.minor ++ Bytes.ofWord16 c.major

/-- What stands between the pool and the class attributes: from the access flags to the end of
the table of methods. -/
def middleBytes (c : ClassFile) : Bytes :=
  Bytes.ofWord16 c.access ++ Bytes.ofWord16 c.thisClass ++ Bytes.ofWord16 c.superClass ++
    encodeTable Bytes.ofWord16 c.interfaces ++ encodeTable Member.encode c.fields ++
    encodeTable Member.encode c.methods

theorem toBytes_eq (c : ClassFile) :
    c.toBytes = c.headBytes ++ Bytes.ofWord16 (UInt16.ofNat c.pool.slots.size) ++
      ConstantPool.encodeSlots c.pool.slots.toList ++ c.middleBytes ++
      encodeTable Attribute.encode c.attributes := by
  rw [toBytes, headBytes, middleBytes, ConstantPool.encode_eq, ConstantPool.length]
  simp only [List.append_assoc]

namespace ConstantPool

/-- Added texts are written behind all that was there. -/
theorem encodeSlots_grow (pool : ConstantPool) (texts : List String) :
    encodeSlots (pool.grow texts).slots.toList = encodeSlots pool.slots.toList ++
      texts.flatMap fun text => (Constant.utf8 (ModifiedUtf8.encode text)).encode := by
  rw [toList_grow, encodeSlots_append]
  congr 1
  induction texts with
  | nil => rfl
  | cons text texts ih => rw [List.map_cons, encodeSlots_some, ih, List.flatMap_cons]

end ConstantPool

/-! ### What an update leaves alone -/

theorem Records.headBytes_eq (h : Records c path result after) :
    after.headBytes = c.headBytes := by
  rw [h.frame]
  rfl

theorem Records.middleBytes_eq (h : Records c path result after) :
    after.middleBytes = c.middleBytes := by
  rw [h.frame]
  rfl

/-- An update adds at most two texts to the pool. -/
theorem Records.exists_grow (h : Records c path result after) :
    ∃ texts, texts.Sublist [path, locationName] ∧ after.pool = c.pool.grow texts := by
  obtain ⟨texts, htexts, hgrow⟩ := h.exists_grow_missing
  exact ⟨_, ConstantPool.missing_sublist.trans htexts, hgrow⟩

end ClassFile

open ClassFile

variable {policy : PathPolicy} {location : CodeLocation} {bytes out : Bytes}

/-- **Weaving touches nothing else, byte for byte.**  The head, the constants that were there and
all from the access flags to the table of methods are the same in `bytes` and in `out`; texts are
added to the pool at its end, none of them cut off by a count; and the class attributes of `out`
are those of `bytes` but for the location attributes, which give way to a single one at the place
of the first, under its name, or at the end where there was none. -/
theorem splits_of_weave (h : weave policy location bytes = .ok (some out)) :
    ∃ (c woven : ClassFile) (path : String) (texts : List String),
      parse bytes = .ok c ∧ parse out = .ok woven ∧
      location.canonicalPath? policy = some path ∧
      texts.Sublist [path, locationName] ∧ c.pool.slots.size + texts.length ≤ 65535 ∧
      bytes = c.headBytes ++ Bytes.ofWord16 (UInt16.ofNat c.pool.slots.size) ++
        ConstantPool.encodeSlots c.pool.slots.toList ++ c.middleBytes ++
        encodeTable Attribute.encode c.attributes ∧
      out = c.headBytes ++ Bytes.ofWord16 (UInt16.ofNat (c.pool.slots.size + texts.length)) ++
        ConstantPool.encodeSlots c.pool.slots.toList ++
        (texts.flatMap fun text => (Constant.utf8 (ModifiedUtf8.encode text)).encode) ++
        c.middleBytes ++ encodeTable Attribute.encode woven.attributes ∧
      ∃ index front a back, Relocates c woven index front a back := by
  obtain ⟨path, c, woven, update, hpath, hparse, hrecords, hne, hwoven⟩ := records_of_weave h
  obtain ⟨hc, rfl⟩ := parse_eq_ok.mp hparse
  obtain ⟨-, rfl⟩ := parse_eq_ok.mp hwoven
  obtain ⟨texts, htexts, hgrow⟩ := hrecords.exists_grow
  obtain ⟨-, hsize⟩ := hrecords.extends hc.pool.size_le
  obtain ⟨index, front, a, back, hrelocates, -⟩ := hrecords.relocates hc hne
  refine ⟨c, woven, path, texts, hparse, hwoven, hpath, htexts, ?_, toBytes_eq c, ?_,
    index, front, a, back, hrelocates⟩
  · rwa [hgrow, ConstantPool.size_grow] at hsize
  · rw [toBytes_eq, hrecords.headBytes_eq, hrecords.middleBytes_eq, hgrow,
      ConstantPool.size_grow, ConstantPool.encodeSlots_grow]
    simp only [List.append_assoc]

/-- Of three location attributes the first keeps its place and its name, and one text is added. -/
theorem splits_of_weave_cluttered :
    weave .absolute (.directory (Path.ofText "/app")) clutteredBytes = .ok (some tidiedBytes) ∧
      ∃ (c woven : ClassFile) (path : String) (texts : List String),
        parse clutteredBytes = .ok c ∧ parse tidiedBytes = .ok woven ∧
        CodeLocation.canonicalPath? (.directory (Path.ofText "/app")) .absolute = some path ∧
        texts.Sublist [path, locationName] ∧ c.pool.slots.size + texts.length ≤ 65535 ∧
        clutteredBytes = c.headBytes ++ Bytes.ofWord16 (UInt16.ofNat c.pool.slots.size) ++
          ConstantPool.encodeSlots c.pool.slots.toList ++ c.middleBytes ++
          encodeTable Attribute.encode c.attributes ∧
        tidiedBytes = c.headBytes ++
          Bytes.ofWord16 (UInt16.ofNat (c.pool.slots.size + texts.length)) ++
          ConstantPool.encodeSlots c.pool.slots.toList ++
          (texts.flatMap fun text => (Constant.utf8 (ModifiedUtf8.encode text)).encode) ++
          c.middleBytes ++ encodeTable Attribute.encode woven.attributes ∧
        ∃ index front a back, Relocates c woven index front a back :=
  have h : weave .absolute (.directory (Path.ofText "/app")) clutteredBytes =
      .ok (some tidiedBytes) := by decide +kernel
  ⟨h, splits_of_weave h⟩

end ClassOrigin
