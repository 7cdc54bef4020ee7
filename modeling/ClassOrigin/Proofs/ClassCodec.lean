/-
Reading and writing classes are inverse to each other.

Reading succeeds exactly on what is written for a well-formed class, `decode_reads`, put together
from the same statement about attributes, members and the indices of classes.  From it:

* **`toBytes_of_parse`** — a class that was read is written back byte for byte;
* **`parse_toBytes_iff`** — a class survives being written and read exactly when it is well
  formed.
-/
import ClassOrigin.Proofs.PoolCodec

namespace ClassOrigin.ClassFile

open Decoder

/-! ### Indices, attributes and members -/

theorem decodeClassIndex_reads (pool : ConstantPool) :
    Reads (decodeClassIndex pool) pool.NamedClassAt Bytes.ofWord16 := by
  intro bytes rest index
  simp only [decodeClassIndex, bind_eq_ok, u16_eq_ok, check_eq_ok, pure_eq_ok,
    ConstantPool.exists_className_eq_ok]
  constructor
  · rintro ⟨index, mid, rfl, -, -, ⟨hnamed, rfl⟩, rfl, rfl⟩
    exact ⟨hnamed, rfl⟩
  · rintro ⟨hnamed, rfl⟩
    exact ⟨index, rest, rfl, (), rest, ⟨hnamed, rfl⟩, rfl, rfl⟩

theorem decodeSuperIndex_reads (pool : ConstantPool) :
    Reads (decodeSuperIndex pool) (fun index => index ≠ 0 → pool.NamedClassAt index)
      Bytes.ofWord16 := by
  intro bytes rest index
  rw [decodeSuperIndex, bind_eq_ok]
  simp only [u16_eq_ok]
  constructor
  · rintro ⟨index', mid, rfl, h⟩
    -- Only an index other than 0 is looked up.
    split at h
    · simp only [bind_eq_ok, check_eq_ok, pure_eq_ok, ConstantPool.exists_className_eq_ok] at h
      obtain ⟨-, -, ⟨hnamed, rfl⟩, rfl, rfl⟩ := h
      exact ⟨fun _ => hnamed, rfl⟩
    · rename_i hzero
      obtain ⟨rfl, rfl⟩ := pure_eq_ok.mp h
      exact ⟨fun hne => absurd hne hzero, rfl⟩
  · rintro ⟨hnamed, rfl⟩
    refine ⟨index, rest, rfl, ?_⟩
    split
    · rename_i hne
      have hname := ConstantPool.exists_className_eq_ok.mpr (hnamed hne)
      exact bind_eq_ok.mpr ⟨(), rest, check_eq_ok.mpr ⟨hname, rfl⟩, pure_eq_ok.mpr ⟨rfl, rfl⟩⟩
    · exact pure_eq_ok.mpr ⟨rfl, rfl⟩

theorem Attribute.decode_reads (pool : ConstantPool) :
    Reads (Attribute.decode pool) (Attribute.WellFormed pool) Attribute.encode := by
  intro bytes rest a
  simp only [Attribute.decode, bind_eq_ok, u16_eq_ok, u32_eq_ok, check_eq_ok, block_eq_ok,
    pure_eq_ok, ConstantPool.exists_utf8Bytes_eq_ok]
  constructor
  · rintro ⟨name, mid, rfl, -, -, ⟨hname, rfl⟩, length, mid', rfl, payload, mid'', ⟨hlen, rfl⟩,
      rfl, rfl⟩
    -- The payload has the length that was read, which is why that length is written again.
    have hlt := length.toNat_lt
    refine ⟨⟨hname, by simpa [hlen] using hlt⟩, ?_⟩
    rw [Attribute.encode, hlen, UInt32.ofNat_toNat, List.append_assoc, List.append_assoc]
  · rintro ⟨⟨hname, hlt⟩, rfl⟩
    have hlen : (UInt32.ofNat a.payload.length).toNat = a.payload.length := by
      rw [UInt32.toNat_ofNat']
      omega
    refine ⟨a.name, _, ?_, (), _, ⟨hname, rfl⟩, UInt32.ofNat a.payload.length, _, rfl, a.payload,
      rest, ⟨hlen.symm, rfl⟩, rfl, rfl⟩
    rw [Attribute.encode, List.append_assoc, List.append_assoc]

theorem Member.decode_reads (pool : ConstantPool) :
    Reads (Member.decode pool) (Member.WellFormed pool) Member.encode := by
  intro bytes rest m
  simp only [Member.decode, bind_eq_ok, u16_eq_ok, check_eq_ok, pure_eq_ok,
    table_eq_ok (Attribute.decode_reads pool), ConstantPool.exists_utf8Bytes_eq_ok]
  constructor
  · rintro ⟨access, mid, rfl, name, mid', rfl, -, -, ⟨hname, rfl⟩, descriptor, mid'', rfl, -, -,
      ⟨hdescriptor, rfl⟩, attributes, mid''', ⟨hattributes, rfl⟩, rfl, rfl⟩
    refine ⟨⟨hname, hdescriptor, hattributes⟩, ?_⟩
    simp only [Member.encode, List.append_assoc]
  · rintro ⟨⟨hname, hdescriptor, hattributes⟩, rfl⟩
    refine ⟨m.access, _, ?_, m.name, _, rfl, (), _, ⟨hname, rfl⟩, m.descriptor, _, rfl, (), _,
      ⟨hdescriptor, rfl⟩, m.attributes, rest, ⟨hattributes, rfl⟩, rfl, rfl⟩
    simp only [Member.encode, List.append_assoc]

/-! ### Classes -/

theorem supportsVersion_iff {major minor : UInt16} :
    supportsVersion major minor = true ↔
      45 ≤ major ∧ major ≤ 70 ∧ (56 ≤ major → minor = 0 ∨ minor = 0xFFFF) := by
  rw [supportsVersion]
  simp only [Bool.and_eq_true, Bool.or_eq_true, decide_eq_true_eq, and_assoc]
  refine and_congr_right fun _ => and_congr_right fun _ => ?_
  rw [or_assoc, ← UInt16.not_le, ← Decidable.imp_iff_not_or]

theorem decode_reads : Reads decode WellFormed toBytes := by
  intro bytes rest c
  simp only [decode, bind_eq_ok, guard_eq_ok, u16_eq_ok, u32_eq_ok, pure_eq_ok,
    ConstantPool.decode_reads, decodeClassIndex_reads _, decodeSuperIndex_reads _,
    table_eq_ok (decodeClassIndex_reads _), table_eq_ok (Member.decode_reads _),
    table_eq_ok (Attribute.decode_reads _), ne_eq, Decidable.not_not, supportsVersion_iff]
  -- Each step of a run gives one clause of well-formedness and one stretch of the bytes.
  constructor
  · rintro ⟨found, mid, rfl, rfl, minor, mid, rfl, major, mid, rfl, ⟨hge, hle, hminor⟩,
      pool, mid, ⟨hpool, rfl⟩, access, mid, rfl, thisClass, mid, ⟨hthis, rfl⟩,
      superClass, mid, ⟨hsuper, rfl⟩, interfaces, mid, ⟨hinterfaces, rfl⟩,
      fields, mid, ⟨hfields, rfl⟩, methods, mid, ⟨hmethods, rfl⟩,
      attributes, mid, ⟨hattributes, rfl⟩, rfl, rfl⟩
    refine ⟨⟨hge, hle, hminor, hpool, hthis, hsuper, hinterfaces, hfields, hmethods,
      hattributes⟩, ?_⟩
    simp only [toBytes, List.append_assoc]
  · rintro ⟨h, rfl⟩
    refine ⟨magic, _, ?_, rfl, c.minor, _, rfl, c.major, _, rfl, ⟨h.major_ge, h.major_le, h.minor⟩,
      c.pool, _, ⟨h.pool, rfl⟩, c.access, _, rfl, c.thisClass, _, ⟨h.thisClass, rfl⟩,
      c.superClass, _, ⟨h.superClass, rfl⟩, c.interfaces, _, ⟨h.interfaces, rfl⟩,
      c.fields, _, ⟨h.fields, rfl⟩, c.methods, _, ⟨h.methods, rfl⟩,
      c.attributes, rest, ⟨h.attributes, rfl⟩, rfl, rfl⟩
    simp only [toBytes, List.append_assoc]

/-- Reading a whole input succeeds with `c` exactly on the bytes of `c`, if it is well formed. -/
theorem parse_eq_ok {bytes : Bytes} {c : ClassFile} :
    parse bytes = .ok c ↔ c.WellFormed ∧ bytes = c.toBytes := by
  simp only [parse, Outcome.bind_eq_ok]
  constructor
  · rintro ⟨⟨c', rest⟩, hdecode, ⟨⟨⟩, rest'⟩, hend, hc⟩
    obtain ⟨hwf, rfl⟩ := decode_reads.mp hdecode
    obtain ⟨rfl, -⟩ := atEnd_eq_ok.mp hend
    cases hc
    exact ⟨hwf, by rw [List.append_nil]⟩
  · rintro ⟨hwf, rfl⟩
    refine ⟨(c, []), decode_reads.mpr ⟨hwf, by rw [List.append_nil]⟩, ((), []), ?_, rfl⟩
    exact atEnd_eq_ok.mpr ⟨rfl, rfl⟩

/-- **Reading loses nothing**: a class that was read from some bytes is written as those bytes. -/
theorem toBytes_of_parse {bytes : Bytes} {c : ClassFile} (h : parse bytes = .ok c) :
    c.toBytes = bytes :=
  (parse_eq_ok.mp h).2.symm

/-- The bytes of a class with every kind of constant, a string constant that is no modified
UTF-8, and a field and a method that carry attributes. -/
def specimenBytes : Bytes :=
  [0xCA, 0xFE, 0xBA, 0xBE, 0x00, 0x00, 0x00, 0x34, 0x00, 0x15,
    0x07, 0x00, 0x02,                                                  -- 1, refers forward
    0x01, 0x00, 0x01, 0x41,                                            -- 2
    0x01, 0x00, 0x01, 0xFF,                                            -- 3, no modified UTF-8
    0x05, 0xFF, 0xFF, 0xFF, 0xFF, 0xFF, 0xFF, 0xFF, 0xFE,              -- 4 and 5
    0x06, 0x7F, 0xF8, 0x00, 0x00, 0x00, 0x00, 0x00, 0x01,              -- 6 and 7
    0x03, 0xFF, 0xFF, 0xFF, 0xFF,                                      -- 8
    0x04, 0x7F, 0xC0, 0x00, 0x01,                                      -- 9
    0x08, 0x00, 0x02,                                                  -- 10
    0x0C, 0x00, 0x02, 0x00, 0x03,                                      -- 11
    0x09, 0x00, 0x01, 0x00, 0x0B,                                      -- 12
    0x0A, 0x00, 0x01, 0x00, 0x0B,                                      -- 13
    0x0B, 0x00, 0x01, 0x00, 0x0B,                                      -- 14
    0x0F, 0x09, 0x00, 0x0E,                                            -- 15
    0x10, 0x00, 0x03,                                                  -- 16
    0x11, 0xFF, 0xFF, 0x00, 0x0B,                                      -- 17
    0x12, 0x00, 0x00, 0x00, 0x0B,                                      -- 18
    0x13, 0x00, 0x02,                                                  -- 19
    0x14, 0x00, 0x03,                                                  -- 20
    0x00, 0x21, 0x00, 0x01, 0x00, 0x00,
    0x00, 0x01, 0x00, 0x01,                                            -- an interface
    0x00, 0x01, 0x00, 0x19, 0x00, 0x02, 0x00, 0x03,                    -- a field
    0x00, 0x01, 0x00, 0x03, 0x00, 0x00, 0x00, 0x00,
    0x00, 0x01, 0x00, 0x01, 0x00, 0x03, 0x00, 0x02,                    -- a method
    0x00, 0x02, 0x00, 0x02, 0x00, 0x00, 0x00, 0x02, 0xDE, 0xAD,
    0x00, 0x02, 0x00, 0x00, 0x00, 0x00,
    0x00, 0x01, 0x00, 0x03, 0x00, 0x00, 0x00, 0x01, 0x00]              -- a class attribute

/-- The class with the bytes `specimenBytes`. -/
def specimen : ClassFile where
  minor := 0
  major := 52
  pool := ⟨#[none, some (.classRef 2), some (.utf8 [0x41]), some (.utf8 [0xFF]),
    some (.long (-2)), none, some (.double 0x7FF8000000000001), none, some (.integer (-1)),
    some (.float 0x7FC00001), some (.string 2), some (.nameAndType 2 3), some (.fieldRef 1 11),
    some (.methodRef 1 11), some (.interfaceMethodRef 1 11), some (.methodHandle 9 14),
    some (.methodType 3), some (.dynamic 0xFFFF 11), some (.invokeDynamic 0 11),
    some (.moduleRef 2), some (.packageRef 3)]⟩
  access := 0x0021
  thisClass := 1
  superClass := 0
  interfaces := [1]
  fields := [⟨0x0019, 2, 3, [⟨3, []⟩]⟩]
  methods := [⟨0x0001, 3, 2, [⟨2, [0xDE, 0xAD]⟩, ⟨2, []⟩]⟩]
  attributes := [⟨3, [0x00]⟩]

theorem parse_specimenBytes : parse specimenBytes = .ok specimen := by rfl

theorem toBytes_of_parse_specimen :
    parse specimenBytes = .ok specimen ∧ specimen.toBytes = specimenBytes :=
  ⟨parse_specimenBytes, toBytes_of_parse parse_specimenBytes⟩

/-- **Exactly the well-formed classes are read back**: a class survives being written and read
when it is well formed, and only then. -/
theorem parse_toBytes_iff (c : ClassFile) : parse c.toBytes = .ok c ↔ c.WellFormed := by
  rw [parse_eq_ok]
  exact and_iff_left rfl

end ClassOrigin.ClassFile
