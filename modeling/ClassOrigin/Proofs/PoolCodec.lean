/-
Reading and writing constant pools are inverse to each other.

A pool is read slot by slot, a wide constant taking two slots, and its references are checked
once all constants are known.  The two halves are proved apart:

* **`Constant.decode_reads`** — one constant, tag first;
* **`decodeSlots_eq_ok`** — the loop over the slots reads exactly the lists of slots in which the
  unusable ones stand behind the wide constants (`Layout`);
* **`checkReferences_eq_ok`** — the check passes exactly when every constant refers well;
* **`ConstantPool.decode_reads`** — a pool is read exactly where a well-formed one is written.
-/
import ClassOrigin.Proofs.Decoding
import ClassOrigin.Proofs.Lookups

namespace ClassOrigin.ClassFile

open Decoder

/-! ### Constants -/

namespace Constant

variable {bytes rest : Bytes} {c : Constant}

/-- The length of a string constant is written in 16 bits. -/
def Fits : Constant → Prop
  | utf8 bytes => bytes.length ≤ 65535
  | _ => True

theorem decodeOne_eq_ok {make : UInt16 → Constant} :
    decodeOne make bytes = .ok (c, rest) ↔
      ∃ index, c = make index ∧ bytes = Bytes.ofWord16 index ++ rest := by
  simp only [decodeOne, bind_eq_ok, u16_eq_ok, pure_eq_ok]
  constructor
  · rintro ⟨index, mid, rfl, rfl, rfl⟩
    exact ⟨index, rfl, rfl⟩
  · rintro ⟨index, rfl, rfl⟩
    exact ⟨index, rest, rfl, rfl, rfl⟩

theorem decodeTwo_eq_ok {make : UInt16 → UInt16 → Constant} :
    decodeTwo make bytes = .ok (c, rest) ↔
      ∃ first second, c = make first second ∧
        bytes = Bytes.ofWord16 first ++ Bytes.ofWord16 second ++ rest := by
  simp only [decodeTwo, bind_eq_ok, u16_eq_ok, pure_eq_ok]
  constructor
  · rintro ⟨first, mid, rfl, second, mid', rfl, rfl, rfl⟩
    exact ⟨first, second, rfl, by rw [List.append_assoc]⟩
  · rintro ⟨first, second, rfl, rfl⟩
    exact ⟨first, _, List.append_assoc _ _ _, second, rest, rfl, rfl, rfl⟩

/-- What the body behind a tag is read as is written with that tag in front. -/
theorem encode_of_decodeBody {tag : UInt8} (h : decodeBody tag bytes = .ok (c, rest)) :
    c.Fits ∧ tag :: bytes = c.encode ++ rest := by
  unfold decodeBody at h
  -- One case a tag; only the length of a string constant has to be recovered from what was read.
  split at h
  · simp only [bind_eq_ok, u16_eq_ok, block_eq_ok, pure_eq_ok] at h
    obtain ⟨length, mid, rfl, text, mid', ⟨hlen, rfl⟩, rfl, rfl⟩ := h
    have hlt := length.toNat_lt
    refine ⟨show text.length ≤ 65535 by omega, ?_⟩
    rw [encode, hlen, UInt16.ofNat_toNat]
    simp only [List.cons_append, List.append_assoc]
  · simp only [bind_eq_ok, u32_eq_ok, pure_eq_ok] at h
    obtain ⟨bits, mid, rfl, rfl, rfl⟩ := h
    exact ⟨trivial, rfl⟩
  · simp only [bind_eq_ok, u32_eq_ok, pure_eq_ok] at h
    obtain ⟨bits, mid, rfl, rfl, rfl⟩ := h
    exact ⟨trivial, rfl⟩
  · simp only [bind_eq_ok, u64_eq_ok, pure_eq_ok] at h
    obtain ⟨bits, mid, rfl, rfl, rfl⟩ := h
    exact ⟨trivial, rfl⟩
  · simp only [bind_eq_ok, u64_eq_ok, pure_eq_ok] at h
    obtain ⟨bits, mid, rfl, rfl, rfl⟩ := h
    exact ⟨trivial, rfl⟩
  · obtain ⟨index, rfl, rfl⟩ := decodeOne_eq_ok.mp h
    exact ⟨trivial, rfl⟩
  · obtain ⟨index, rfl, rfl⟩ := decodeOne_eq_ok.mp h
    exact ⟨trivial, rfl⟩
  · obtain ⟨first, second, rfl, rfl⟩ := decodeTwo_eq_ok.mp h
    exact ⟨trivial, rfl⟩
  · obtain ⟨first, second, rfl, rfl⟩ := decodeTwo_eq_ok.mp h
    exact ⟨trivial, rfl⟩
  · obtain ⟨first, second, rfl, rfl⟩ := decodeTwo_eq_ok.mp h
    exact ⟨trivial, rfl⟩
  · obtain ⟨first, second, rfl, rfl⟩ := decodeTwo_eq_ok.mp h
    exact ⟨trivial, rfl⟩
  · simp only [bind_eq_ok, u8_eq_ok, u16_eq_ok, pure_eq_ok] at h
    obtain ⟨kind, mid, rfl, reference, mid', rfl, rfl, rfl⟩ := h
    exact ⟨trivial, rfl⟩
  · obtain ⟨index, rfl, rfl⟩ := decodeOne_eq_ok.mp h
    exact ⟨trivial, rfl⟩
  · obtain ⟨first, second, rfl, rfl⟩ := decodeTwo_eq_ok.mp h
    exact ⟨trivial, rfl⟩
  · obtain ⟨first, second, rfl, rfl⟩ := decodeTwo_eq_ok.mp h
    exact ⟨trivial, rfl⟩
  · obtain ⟨index, rfl, rfl⟩ := decodeOne_eq_ok.mp h
    exact ⟨trivial, rfl⟩
  · obtain ⟨index, rfl, rfl⟩ := decodeOne_eq_ok.mp h
    exact ⟨trivial, rfl⟩
  · cases h

/-- What is written for a constant is read as that constant. -/
theorem decode_encode (h : c.Fits) (rest : Bytes) : decode (c.encode ++ rest) = .ok (c, rest) := by
  rw [decode, bind_eq_ok]
  cases c with
  | utf8 text =>
    -- A text that fits has a length that 16 bits do not cut off.
    have hlen : (UInt16.ofNat text.length).toNat = text.length := by
      have hle : text.length ≤ 65535 := h
      rw [UInt16.toNat_ofNat']
      omega
    refine ⟨1, _, u8_eq_ok.mpr rfl, ?_⟩
    simp only [decodeBody, bind_eq_ok, u16_eq_ok, block_eq_ok, pure_eq_ok]
    exact ⟨_, _, List.append_assoc _ _ _, text, rest, ⟨hlen.symm, rfl⟩, rfl, rfl⟩
  | integer value =>
    refine ⟨3, _, u8_eq_ok.mpr rfl, ?_⟩
    simp only [decodeBody, bind_eq_ok, u32_eq_ok, pure_eq_ok]
    exact ⟨value.toUInt32, rest, rfl, rfl, rfl⟩
  | float bits =>
    refine ⟨4, _, u8_eq_ok.mpr rfl, ?_⟩
    simp only [decodeBody, bind_eq_ok, u32_eq_ok, pure_eq_ok]
    exact ⟨bits, rest, rfl, rfl, rfl⟩
  | long value =>
    refine ⟨5, _, u8_eq_ok.mpr rfl, ?_⟩
    simp only [decodeBody, bind_eq_ok, u64_eq_ok, pure_eq_ok]
    exact ⟨value.toUInt64, rest, rfl, rfl, rfl⟩
  | double bits =>
    refine ⟨6, _, u8_eq_ok.mpr rfl, ?_⟩
    simp only [decodeBody, bind_eq_ok, u64_eq_ok, pure_eq_ok]
    exact ⟨bits, rest, rfl, rfl, rfl⟩
  | classRef name => exact ⟨7, _, u8_eq_ok.mpr rfl, decodeOne_eq_ok.mpr ⟨name, rfl, rfl⟩⟩
  | string text => exact ⟨8, _, u8_eq_ok.mpr rfl, decodeOne_eq_ok.mpr ⟨text, rfl, rfl⟩⟩
  | fieldRef owner member =>
    exact ⟨9, _, u8_eq_ok.mpr rfl, decodeTwo_eq_ok.mpr ⟨owner, member, rfl, rfl⟩⟩
  | methodRef owner member =>
    exact ⟨10, _, u8_eq_ok.mpr rfl, decodeTwo_eq_ok.mpr ⟨owner, member, rfl, rfl⟩⟩
  | interfaceMethodRef owner member =>
    exact ⟨11, _, u8_eq_ok.mpr rfl, decodeTwo_eq_ok.mpr ⟨owner, member, rfl, rfl⟩⟩
  | nameAndType name descriptor =>
    exact ⟨12, _, u8_eq_ok.mpr rfl, decodeTwo_eq_ok.mpr ⟨name, descriptor, rfl, rfl⟩⟩
  | methodHandle kind reference =>
    refine ⟨15, _, u8_eq_ok.mpr rfl, ?_⟩
    simp only [decodeBody, bind_eq_ok, u8_eq_ok, u16_eq_ok, pure_eq_ok]
    exact ⟨kind, _, rfl, reference, rest, rfl, rfl, rfl⟩
  | methodType descriptor =>
    exact ⟨16, _, u8_eq_ok.mpr rfl, decodeOne_eq_ok.mpr ⟨descriptor, rfl, rfl⟩⟩
  | dynamic bootstrap member =>
    exact ⟨17, _, u8_eq_ok.mpr rfl, decodeTwo_eq_ok.mpr ⟨bootstrap, member, rfl, rfl⟩⟩
  | invokeDynamic bootstrap member =>
    exact ⟨18, _, u8_eq_ok.mpr rfl, decodeTwo_eq_ok.mpr ⟨bootstrap, member, rfl, rfl⟩⟩
  | moduleRef name => exact ⟨19, _, u8_eq_ok.mpr rfl, decodeOne_eq_ok.mpr ⟨name, rfl, rfl⟩⟩
  | packageRef name => exact ⟨20, _, u8_eq_ok.mpr rfl, decodeOne_eq_ok.mpr ⟨name, rfl, rfl⟩⟩

theorem decode_reads : Reads decode Fits encode := by
  intro bytes rest c
  constructor
  · intro h
    rw [decode, bind_eq_ok] at h
    obtain ⟨tag, mid, htag, hbody⟩ := h
    rw [u8_eq_ok.mp htag]
    exact encode_of_decodeBody hbody
  · rintro ⟨hfits, rfl⟩
    exact decode_encode hfits rest

end Constant

namespace ConstantPool

/-! ### Slots -/

/-- A run of slots in which the unusable ones stand behind the wide constants. -/
inductive Layout : List (Option Constant) → Prop
  | nil : Layout []
  | narrow {c : Constant} {slots : List (Option Constant)} :
      c.isWide = false → Layout slots → Layout (some c :: slots)
  | wide {c : Constant} {slots : List (Option Constant)} :
      c.isWide = true → Layout slots → Layout (some c :: none :: slots)

/-- In a layout, no slot in front is unusable, and one behind another is exactly when that other
one holds a wide constant. -/
theorem Layout.behind {slots : List (Option Constant)} (h : Layout slots) :
    slots[0]? ≠ some none ∧
      ∀ i, slots[i + 1]? = some none ↔ ∃ c, slots[i]? = some (some c) ∧ c.isWide := by
  induction h with
  | nil => simp
  | @narrow c slots hc _ ih =>
    refine ⟨by simp, fun i => ?_⟩
    rcases i with _ | i
    · simpa [hc] using ih.1
    · simpa using ih.2 i
  | @wide c slots hc _ ih =>
    refine ⟨by simp, fun i => ?_⟩
    rcases i with _ | _ | i
    · simp [hc]
    · simpa using ih.1
    · simpa using ih.2 i

theorem layout_of_behind : ∀ {slots : List (Option Constant)}, slots[0]? ≠ some none →
    (∀ i, slots[i + 1]? = some none ↔ ∃ c, slots[i]? = some (some c) ∧ c.isWide) →
      Layout slots := by
  intro slots
  -- A wide constant takes two slots, so the induction is on the length and not on the list.
  induction hn : slots.length using Nat.strongRecOn generalizing slots with
  | ind n ih =>
    intro hfirst hbehind
    rcases slots with _ | ⟨_ | c, slots⟩
    · exact .nil
    · exact absurd rfl hfirst
    · have hnext : slots[0]? = some none ↔ c.isWide := by simpa using hbehind 0
      rcases hwide : c.isWide
      · refine .narrow hwide (ih slots.length (by simp [← hn]) rfl ?_ fun i => ?_)
        · simpa [hwide] using hnext
        · simpa using hbehind (i + 1)
      · -- The slot behind a wide constant is there and unusable; the layout goes on behind it.
        rcases slots with _ | ⟨_ | d, slots⟩
        · exact absurd (hnext.mpr hwide) (by simp)
        · have hlt : slots.length < n := by
            simp only [← hn, List.length_cons]
            omega
          refine .wide hwide (ih slots.length hlt rfl ?_ fun i => ?_)
          · simpa using hbehind 1
          · simpa using hbehind (i + 2)
        · exact absurd (hnext.mpr hwide) (by simp)

/-- Behind the first slot, the unusable slots of a pool form a layout. -/
theorem unusableSlots_cons {tail : List (Option Constant)} :
    UnusableSlots (none :: tail) ↔ Layout tail := by
  constructor
  · rintro ⟨-, hbehind⟩
    refine layout_of_behind ?_ fun i => ?_
    · simpa using hbehind 0
    · simpa using hbehind (i + 1)
  · intro h
    refine ⟨rfl, fun i => ?_⟩
    rcases i with _ | i
    · simpa using h.behind.1
    · simpa using h.behind.2 i

/-- The bytes of the constants in a run of slots. -/
def encodeSlots (slots : List (Option Constant)) : Bytes :=
  (slots.filterMap id).flatMap Constant.encode

@[simp] theorem encodeSlots_nil : encodeSlots [] = [] := rfl

@[simp] theorem encodeSlots_some (c : Constant) (slots : List (Option Constant)) :
    encodeSlots (some c :: slots) = c.encode ++ encodeSlots slots := by
  simp [encodeSlots]

@[simp] theorem encodeSlots_none (slots : List (Option Constant)) :
    encodeSlots (none :: slots) = encodeSlots slots := by
  simp [encodeSlots]

@[simp] theorem encodeSlots_append (front back : List (Option Constant)) :
    encodeSlots (front ++ back) = encodeSlots front ++ encodeSlots back := by
  simp [encodeSlots]

/-- A run of slots that the loop over the slots can have read. -/
structure Readable (slots : List (Option Constant)) : Prop where
  layout : Layout slots
  fits : ∀ c, some c ∈ slots → c.Fits

theorem Readable.nil : Readable [] :=
  ⟨.nil, fun c hc => absurd hc (by simp)⟩

theorem readable_narrow {c : Constant} {slots : List (Option Constant)} (hc : c.isWide = false) :
    Readable (some c :: slots) ↔ c.Fits ∧ Readable slots := by
  constructor
  · rintro ⟨hlayout, hfits⟩
    refine ⟨hfits c (by simp), ?_, fun d hd => hfits d (List.mem_cons_of_mem _ hd)⟩
    cases hlayout with
    | narrow _ h => exact h
    | wide hwide _ => exact absurd hwide (by simp [hc])
  · rintro ⟨hfit, hslots⟩
    refine ⟨.narrow hc hslots.layout, fun d hd => ?_⟩
    rcases List.mem_cons.mp hd with hd | hd
    · cases hd
      exact hfit
    · exact hslots.fits d hd

theorem readable_wide {c : Constant} {slots : List (Option Constant)} (hc : c.isWide = true) :
    Readable (some c :: slots) ↔ c.Fits ∧ ∃ behind, slots = none :: behind ∧ Readable behind := by
  constructor
  · rintro ⟨hlayout, hfits⟩
    refine ⟨hfits c (by simp), ?_⟩
    cases hlayout with
    | narrow hnarrow _ => exact absurd hnarrow (by simp [hc])
    | @wide _ behind _ h =>
      exact ⟨behind, rfl, h, fun d hd => hfits d (by simp [hd])⟩
  · rintro ⟨hfit, behind, rfl, hbehind⟩
    refine ⟨.wide hc hbehind.layout, fun d hd => ?_⟩
    rcases List.mem_cons.mp hd with hd | hd
    · cases hd
      exact hfit
    · exact hbehind.fits d (by simpa using hd)

theorem Readable.exists_some {slot : Option Constant} {slots : List (Option Constant)}
    (h : Readable (slot :: slots)) : ∃ c, slot = some c := by
  cases h.layout with
  | narrow => exact ⟨_, rfl⟩
  | wide => exact ⟨_, rfl⟩

/-- The loop fills the free slots with a readable run and consumes what is written for it. -/
theorem decodeSlots_eq_ok {count : UInt16} {free : Nat} {slots all : Array (Option Constant)}
    {bytes rest : Bytes} :
    decodeSlots count free slots bytes = .ok (all, rest) ↔
      ∃ tail, tail.length = free ∧ all.toList = slots.toList ++ tail ∧ Readable tail ∧
        bytes = encodeSlots tail ++ rest := by
  induction free, slots using decodeSlots.induct generalizing bytes with
  | case1 slots =>
    simp only [decodeSlots, Except.ok.injEq, Prod.mk.injEq, List.length_eq_zero_iff]
    constructor
    · rintro ⟨rfl, rfl⟩
      exact ⟨[], rfl, by simp, .nil, rfl⟩
    · rintro ⟨tail, rfl, hall, -, rfl⟩
      exact ⟨Array.toList_inj.mp (by simpa using hall.symm), rfl⟩
  | case2 slots =>
    -- In the last free slot a wide constant finds no room.
    constructor
    · intro h
      simp only [decodeSlots] at h
      split at h
      · rename_i c mid hc
        obtain ⟨hfits, rfl⟩ := Constant.decode_reads.mp hc
        split at h
        · cases h
        · rename_i hwide
          cases h
          refine ⟨[some c], rfl, by simp, ?_, by simp⟩
          exact (readable_narrow (by simpa using hwide)).mpr ⟨hfits, .nil⟩
      · cases h
    · rintro ⟨tail, hlen, hall, htail, rfl⟩
      obtain ⟨slot, rfl⟩ := List.length_eq_one_iff.mp hlen
      obtain ⟨c, rfl⟩ := htail.exists_some
      rcases hwide : c.isWide
      · obtain ⟨hfits, -⟩ := (readable_narrow hwide).mp htail
        have hc : Constant.decode (encodeSlots [some c] ++ rest) = .ok (c, rest) :=
          Constant.decode_reads.mpr ⟨hfits, by simp⟩
        simp only [decodeSlots, hc, hwide]
        rw [← Array.toList_inj.mp (show all.toList = (slots.push (some c)).toList by simp [hall])]
        rfl
      · obtain ⟨-, behind, hnil, -⟩ := (readable_wide hwide).mp htail
        cases hnil
  | case3 free slots ihWide ihNarrow =>
    -- The run goes on two slots further behind a wide constant, one behind any other.
    constructor
    · intro h
      simp only [decodeSlots] at h
      split at h
      · rename_i c mid hc
        obtain ⟨hfits, rfl⟩ := Constant.decode_reads.mp hc
        split at h
        · rename_i hwide
          obtain ⟨tail, rfl, hall, htail, rfl⟩ := (ihWide c).mp h
          refine ⟨some c :: none :: tail, rfl, by simp [hall], ?_, by simp⟩
          exact (readable_wide hwide).mpr ⟨hfits, tail, rfl, htail⟩
        · rename_i hwide
          obtain ⟨tail, hlen, hall, htail, rfl⟩ := (ihNarrow c).mp h
          refine ⟨some c :: tail, by simp [hlen], by simp [hall], ?_, by simp⟩
          exact (readable_narrow (by simpa using hwide)).mpr ⟨hfits, htail⟩
      · cases h
    · rintro ⟨tail, hlen, hall, htail, rfl⟩
      rcases tail with _ | ⟨slot, tail⟩
      · cases hlen
      obtain ⟨c, rfl⟩ := htail.exists_some
      have hc : c.Fits → Constant.decode (encodeSlots (some c :: tail) ++ rest)
          = .ok (c, encodeSlots tail ++ rest) :=
        fun hfits => Constant.decode_reads.mpr ⟨hfits, by simp⟩
      rcases hwide : c.isWide
      · obtain ⟨hfits, htail⟩ := (readable_narrow hwide).mp htail
        simp only [decodeSlots, hc hfits, hwide]
        exact (ihNarrow c).mpr ⟨tail, by simpa using hlen, by simp [hall], htail, rfl⟩
      · obtain ⟨hfits, behind, rfl, hbehind⟩ := (readable_wide hwide).mp htail
        simp only [decodeSlots, hc hfits, hwide]
        exact (ihWide c).mpr ⟨behind, by simpa using hlen, by simp [hall], hbehind, by simp⟩

/-! ### Pools -/

theorem encode_eq (pool : ConstantPool) :
    pool.encode = Bytes.ofWord16 pool.length ++ encodeSlots pool.slots.toList := rfl

/-- A pool is well formed when it is an unusable slot and a readable run behind it, of a size that
fits 16 bits, and its constants refer well. -/
theorem wellFormed_iff {pool : ConstantPool} :
    pool.WellFormed ↔
      (∃ tail, pool.slots.toList = none :: tail ∧ tail.length + 1 ≤ 65535 ∧ Readable tail) ∧
        pool.checkReferences = .ok () := by
  constructor
  · intro h
    have hfirst := h.unusable.first
    rcases hslots : pool.slots.toList with _ | ⟨slot, tail⟩
    · rw [hslots] at hfirst
      exact absurd hfirst (by simp)
    · rw [hslots] at hfirst
      obtain rfl : slot = none := by simpa using hfirst
      refine ⟨⟨tail, rfl, ?_, ?_, fun c hc => ?_⟩, checkReferences_eq_ok.mpr h.refersWell⟩
      · have hsize := h.size_le
        rwa [← Array.length_toList, hslots, List.length_cons] at hsize
      · exact unusableSlots_cons.mp (hslots ▸ h.unusable)
      · -- Slots are numbered from the unusable one in front, and the run behind it from 0.
        cases c with
        | utf8 bytes =>
          obtain ⟨i, hi⟩ := List.getElem?_of_mem hc
          refine h.utf8_le (i + 1) bytes ?_
          rw [← Array.getElem?_toList, hslots, List.getElem?_cons_succ, hi]
        | _ => trivial
  · rintro ⟨⟨tail, hslots, hlen, htail⟩, hrefs⟩
    have hsize : pool.slots.size = tail.length + 1 := by
      rw [← Array.length_toList, hslots, List.length_cons]
    refine ⟨by omega, by omega, ?_, fun i bytes hi => ?_, checkReferences_eq_ok.mp hrefs⟩
    · rw [hslots]
      exact unusableSlots_cons.mpr htail.layout
    · rw [← Array.getElem?_toList, hslots] at hi
      rcases i with _ | i
      · cases hi
      · exact htail.fits (.utf8 bytes) (List.mem_of_getElem? hi)

theorem decode_reads : Reads decode WellFormed encode := by
  intro bytes rest pool
  rw [wellFormed_iff, encode_eq]
  simp only [decode, bind_eq_ok, u16_eq_ok, guard_eq_ok, decodeSlots_eq_ok, check_eq_ok, pure_eq_ok]
  constructor
  · rintro ⟨count, mid, rfl, hcount, slots, mid', ⟨tail, hlen, hslots, htail, rfl⟩, -, -,
      ⟨⟨⟨⟩, hrefs⟩, rfl⟩, rfl, rfl⟩
    -- The count includes the unusable slot in front, so 0 was refused.
    have hpos : count.toNat ≠ 0 := fun h => hcount (UInt16.toNat_inj.mp h)
    have hlt := count.toNat_lt
    have hsize : slots.size = count.toNat := by
      rw [← Array.length_toList, hslots, List.length_append, hlen]
      show 1 + (count.toNat - 1) = count.toNat
      omega
    refine ⟨⟨⟨tail, hslots, by omega, htail⟩, hrefs⟩, ?_⟩
    rw [length, hsize, UInt16.ofNat_toNat, hslots, List.append_assoc]
    rfl
  · rintro ⟨⟨⟨tail, hslots, hlen, htail⟩, hrefs⟩, rfl⟩
    have hsize : pool.slots.size = tail.length + 1 := by
      rw [← Array.length_toList, hslots, List.length_cons]
    have hcount : pool.length.toNat = tail.length + 1 := by
      rw [length, UInt16.toNat_ofNat', hsize]
      omega
    refine ⟨pool.length, _, List.append_assoc _ _ _, ?_, pool.slots, rest,
      ⟨tail, by omega, hslots, htail, ?_⟩, (), rest, ⟨⟨(), hrefs⟩, rfl⟩, rfl, rfl⟩
    · intro h
      rw [h] at hcount
      exact absurd hcount (by simp)
    · rw [hslots, encodeSlots_none]

end ConstantPool

end ClassOrigin.ClassFile
