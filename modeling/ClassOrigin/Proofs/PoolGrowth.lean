/-
Pools grow at their end.

Adding a string constant puts it behind all others, so whatever a pool holds it goes on holding:

* **`push_eq_ok`**, **`intern_eq_ok`** — when a string constant is added, and what comes out;
* **`holds_of_find?`** — the index found for a text leads to its spelling;
* **`Extends`** — one pool is another with string constants behind it; look-ups that succeeded in
  the shorter pool give the same in the longer one;
* **`WellFormed.of_extends`** — a longer pool is well formed if the shorter one is and the number
  of slots still fits, and so is the class around it.
-/
import ClassOrigin.Proofs.PoolCodec
import ClassOrigin.Proofs.TextCodec

namespace ClassOrigin.ClassFile

namespace ConstantPool

variable {pool grown : ConstantPool} {text : String} {index : UInt16}

/-! ### Spelled texts -/

/-- Some string constant of the pool is spelled like `text`. -/
def Spells (pool : ConstantPool) (text : String) : Prop :=
  ∃ i : Nat, pool.slots[i]? = some (some (.utf8 (ModifiedUtf8.encode text)))

theorem holdsUtf8_iff {bytes : Bytes} {slot : Option Constant} :
    holdsUtf8 bytes slot = true ↔ slot = some (.utf8 bytes) := by
  unfold holdsUtf8
  split
  · simp
  · rename_i h
    simp only [Bool.false_eq_true, false_iff]
    exact fun hslot => h bytes hslot

theorem find?_eq_none : pool.find? text = none ↔ ¬ pool.Spells text := by
  rw [find?, Option.map_eq_none_iff, Array.findIdx?_eq_none_iff]
  constructor
  · rintro h ⟨i, hi⟩
    have hfalse := h _ (Array.mem_of_getElem? hi)
    rw [holdsUtf8_iff.mpr rfl] at hfalse
    cases hfalse
  · intro h slot hslot
    obtain ⟨i, hi⟩ := Array.getElem?_of_mem hslot
    rw [Bool.eq_false_iff]
    intro htrue
    rw [holdsUtf8_iff.mp htrue] at hi
    exact h ⟨i, hi⟩

/-- What is found is the first slot with the spelling of the text. -/
theorem find?_eq_some :
    pool.find? text = some index ↔
      ∃ i : Nat, UInt16.ofNat i = index ∧
        pool.slots[i]? = some (some (.utf8 (ModifiedUtf8.encode text))) ∧
        ∀ j < i, pool.slots[j]? ≠ some (some (.utf8 (ModifiedUtf8.encode text))) := by
  simp only [find?, Option.map_eq_some_iff, Array.findIdx?_eq_some_iff_getElem, holdsUtf8_iff]
  constructor
  · rintro ⟨i, ⟨hlt, hi, hfirst⟩, hindex⟩
    refine ⟨i, hindex, by rw [Array.getElem?_eq_getElem hlt, hi], fun j hj hslot => ?_⟩
    rw [Array.getElem?_eq_getElem (by omega)] at hslot
    exact hfirst j hj (Option.some.inj hslot)
  · rintro ⟨i, hindex, hi, hfirst⟩
    obtain ⟨hlt, hslot⟩ := Array.getElem?_eq_some_iff.mp hi
    refine ⟨i, ⟨hlt, hslot, fun j hj heq => ?_⟩, hindex⟩
    exact hfirst j hj (by rw [Array.getElem?_eq_getElem (by omega), heq])

theorem spells_of_find? (h : pool.find? text = some index) : pool.Spells text := by
  obtain ⟨i, -, hi, -⟩ := find?_eq_some.mp h
  exact ⟨i, hi⟩

/-- The index found for a text leads to its spelling. -/
theorem holds_of_find? (hsize : pool.slots.size ≤ 65535) (h : pool.find? text = some index) :
    pool.Holds index (.utf8 (ModifiedUtf8.encode text)) := by
  obtain ⟨i, rfl, hi, -⟩ := find?_eq_some.mp h
  have hlt := (Array.getElem?_eq_some_iff.mp hi).1
  rw [Holds, UInt16.toNat_ofNat', Nat.mod_eq_of_lt (by omega)]
  exact hi

/-- What is spelled like a text is read as that text. -/
theorem text_of_holds_encode (h : pool.Holds index (.utf8 (ModifiedUtf8.encode text))) :
    pool.text index = .ok text :=
  text_eq_ok.mpr ⟨_, h, ModifiedUtf8.decode?_encode text⟩

/-! ### Adding texts -/

/-- The pool with string constants for `texts` behind all others. -/
def grow (pool : ConstantPool) (texts : List String) : ConstantPool :=
  ⟨pool.slots ++ (texts.map fun text => some (Constant.utf8 (ModifiedUtf8.encode text))).toArray⟩

@[simp] theorem grow_nil : pool.grow [] = pool := by
  simp [grow]

@[simp] theorem grow_grow {first second : List String} :
    (pool.grow first).grow second = pool.grow (first ++ second) := by
  simp [grow, Array.append_assoc]

@[simp] theorem size_grow {texts : List String} :
    (pool.grow texts).slots.size = pool.slots.size + texts.length := by
  simp [grow]

theorem toList_grow {texts : List String} :
    (pool.grow texts).slots.toList =
      pool.slots.toList ++ texts.map fun text => some (.utf8 (ModifiedUtf8.encode text)) := by
  simp [grow]

theorem getElem?_grow_of_lt {texts : List String} {i : Nat} (h : i < pool.slots.size) :
    (pool.grow texts).slots[i]? = pool.slots[i]? :=
  Array.getElem?_append_left h

/-- A slot that holds a constant goes on holding it. -/
theorem getElem?_grow {texts : List String} {i : Nat} {slot : Option Constant}
    (h : pool.slots[i]? = some slot) : (pool.grow texts).slots[i]? = some slot := by
  rw [getElem?_grow_of_lt (Array.getElem?_eq_some_iff.mp h).1, h]

/-- The added texts lie behind the slots that were there, in order. -/
theorem getElem?_grow_of_le {texts : List String} {i : Nat} (h : pool.slots.size ≤ i) :
    (pool.grow texts).slots[i]? =
      texts[i - pool.slots.size]?.map fun text => some (.utf8 (ModifiedUtf8.encode text)) := by
  rw [grow, Array.getElem?_append_right h, List.getElem?_toArray, List.getElem?_map]

/-- The first of them takes the next slot. -/
theorem getElem?_grow_size {texts : List String} :
    (pool.grow (text :: texts)).slots[pool.slots.size]?
      = some (some (.utf8 (ModifiedUtf8.encode text))) := by
  rw [getElem?_grow_of_le (Nat.le_refl _), Nat.sub_self]
  rfl

theorem spells_grow {texts : List String} {other : String} :
    (pool.grow texts).Spells other ↔ pool.Spells other ∨ other ∈ texts := by
  constructor
  · rintro ⟨i, hi⟩
    rw [← Array.getElem?_toList, toList_grow] at hi
    rcases List.mem_append.mp (List.mem_of_getElem? hi) with hmem | hmem
    · obtain ⟨j, hj⟩ := List.getElem?_of_mem hmem
      exact .inl ⟨j, by rwa [Array.getElem?_toList] at hj⟩
    · obtain ⟨t, ht, heq⟩ := List.mem_map.mp hmem
      rw [Option.some.injEq, Constant.utf8.injEq, ModifiedUtf8.encode_inj] at heq
      exact .inr (heq ▸ ht)
  · -- A slot keeps its number when texts are added, and added texts have one as well.
    rintro (⟨i, hi⟩ | hmem)
    · exact ⟨i, getElem?_grow hi⟩
    · have hslot : some (.utf8 (ModifiedUtf8.encode other)) ∈ (pool.grow texts).slots.toList := by
        rw [toList_grow]
        exact List.mem_append_right _ (List.mem_map.mpr ⟨other, hmem, rfl⟩)
      obtain ⟨i, hi⟩ := List.getElem?_of_mem hslot
      exact ⟨i, by rwa [Array.getElem?_toList] at hi⟩

theorem push_eq_ok :
    pool.push text = .ok (index, grown) ↔
      (ModifiedUtf8.encode text).length ≤ 65535 ∧ pool.slots.size < 65535 ∧
        index = pool.length ∧ grown = pool.grow [text] := by
  have hgrow : pool.grow [text]
      = ⟨pool.slots.push (some (.utf8 (ModifiedUtf8.encode text)))⟩ := by
    simp [grow]
  rw [push, hgrow]
  split
  · simp only [reduceCtorEq, false_iff]
    omega
  · rename_i hlen
    split
    · rename_i hfull
      simp only [reduceCtorEq, false_iff]
      exact fun h => absurd h.2.1 (Nat.not_lt.mpr hfull)
    · rename_i hroom
      simp only [Except.ok.injEq, Prod.mk.injEq]
      constructor
      · rintro ⟨rfl, rfl⟩
        exact ⟨Nat.le_of_not_lt hlen, Nat.lt_of_not_le hroom, rfl, rfl⟩
      · rintro ⟨-, -, rfl, rfl⟩
        exact ⟨rfl, rfl⟩

theorem push_eq_error {e : Error} :
    pool.push text = .error e ↔
      (65535 < (ModifiedUtf8.encode text).length ∧
          e = .textTooLong (ModifiedUtf8.encode text).length) ∨
        ((ModifiedUtf8.encode text).length ≤ 65535 ∧ 65535 ≤ pool.slots.size ∧ e = .poolFull) := by
  rw [push]
  split
  · rename_i hlen
    simp only [Except.error.injEq]
    constructor
    · rintro rfl
      exact .inl ⟨hlen, rfl⟩
    · rintro (⟨-, rfl⟩ | ⟨hle, -, -⟩)
      · rfl
      · omega
  · rename_i hlen
    split
    · rename_i hfull
      simp only [Except.error.injEq]
      constructor
      · rintro rfl
        exact .inr ⟨Nat.le_of_not_lt hlen, hfull, rfl⟩
      · rintro (⟨hlt, -⟩ | ⟨-, -, rfl⟩)
        · omega
        · rfl
    · rename_i hroom
      simp only [reduceCtorEq, false_iff]
      rintro (⟨hlt, -⟩ | ⟨-, hfull, -⟩)
      · omega
      · exact hroom hfull

theorem intern_eq_ok :
    pool.intern text = .ok (index, grown) ↔
      (pool.find? text = some index ∧ grown = pool) ∨
        (¬ pool.Spells text ∧ pool.push text = .ok (index, grown)) := by
  rw [intern, ← find?_eq_none]
  rcases pool.find? text with _ | found
  · simp
  · simp only [Except.ok.injEq, Prod.mk.injEq, Option.some.injEq, reduceCtorEq,
      false_and, or_false]
    exact and_congr_right fun _ => eq_comm

theorem intern_eq_error {e : Error} :
    pool.intern text = .error e ↔ ¬ pool.Spells text ∧ pool.push text = .error e := by
  rw [intern, ← find?_eq_none]
  rcases pool.find? text with _ | found
  · simp
  · simp

/-! ### Longer pools -/

/-- `grown` is `pool` with string constants of at most 65535 bytes behind it. -/
def Extends (pool grown : ConstantPool) : Prop :=
  ∃ texts : List String, grown = pool.grow texts ∧
    ∀ t ∈ texts, (ModifiedUtf8.encode t).length ≤ 65535

theorem Extends.refl (pool : ConstantPool) : pool.Extends pool :=
  ⟨[], grow_nil.symm, by simp⟩

theorem Extends.trans {first second third : ConstantPool} (h : first.Extends second)
    (h' : second.Extends third) : first.Extends third := by
  obtain ⟨texts, rfl, htexts⟩ := h
  obtain ⟨more, rfl, hmore⟩ := h'
  refine ⟨texts ++ more, grow_grow, fun t ht => ?_⟩
  rcases List.mem_append.mp ht with ht | ht
  · exact htexts t ht
  · exact hmore t ht

theorem Extends.getElem? (h : pool.Extends grown) {i : Nat} {slot : Option Constant}
    (hi : pool.slots[i]? = some slot) : grown.slots[i]? = some slot := by
  obtain ⟨texts, rfl, -⟩ := h
  exact getElem?_grow hi

/-- The slots of the shorter pool are the first ones of the longer pool. -/
theorem Extends.getElem?_of_lt (h : pool.Extends grown) {i : Nat} (hi : i < pool.slots.size) :
    grown.slots[i]? = pool.slots[i]? := by
  obtain ⟨texts, rfl, -⟩ := h
  exact getElem?_grow_of_lt hi

theorem Extends.holds (h : pool.Extends grown) {c : Constant} (hc : pool.Holds index c) :
    grown.Holds index c :=
  h.getElem? hc

theorem Extends.utf8At (h : pool.Extends grown) (hat : pool.Utf8At index) :
    grown.Utf8At index := by
  obtain ⟨bytes, hbytes⟩ := hat
  exact ⟨bytes, h.holds hbytes⟩

theorem Extends.namedClassAt (h : pool.Extends grown) (hat : pool.NamedClassAt index) :
    grown.NamedClassAt index := by
  obtain ⟨name, bytes, text, hname, hbytes, htext⟩ := hat
  exact ⟨name, bytes, text, h.holds hname, h.holds hbytes, htext⟩

theorem Extends.refersWell (h : pool.Extends grown) {c : Constant} (hc : pool.RefersWell c) :
    grown.RefersWell c := by
  have hclass : ∀ {index}, pool.ClassAt index → grown.ClassAt index :=
    fun ⟨name, hname⟩ => ⟨name, h.holds hname⟩
  have hnameAndType : ∀ {index}, pool.NameAndTypeAt index → grown.NameAndTypeAt index :=
    fun ⟨name, descriptor, hat⟩ => ⟨name, descriptor, h.holds hat⟩
  cases c with
  | utf8 | integer | float | long | double => trivial
  | classRef | moduleRef | packageRef => exact h.utf8At hc
  | string => exact h.utf8At hc
  | methodType => exact h.utf8At hc
  | nameAndType => exact ⟨h.utf8At hc.1, h.utf8At hc.2⟩
  | fieldRef | methodRef | interfaceMethodRef => exact ⟨hclass hc.1, hnameAndType hc.2⟩
  | methodHandle kind reference =>
    obtain ⟨hkind, owner, member, hat⟩ := hc
    exact ⟨hkind, owner, member, hat.imp h.holds (.imp h.holds h.holds)⟩
  | dynamic | invokeDynamic => exact hnameAndType hc

/-- What a string constant reads as does not change. -/
theorem Extends.text_eq (h : pool.Extends grown) (hat : pool.Utf8At index) :
    grown.text index = pool.text index := by
  obtain ⟨bytes, hbytes⟩ := hat
  rw [ConstantPool.text, ConstantPool.text, utf8Bytes_eq_ok.mpr hbytes,
    utf8Bytes_eq_ok.mpr (h.holds hbytes)]

theorem Layout.append {front back : List (Option Constant)} (h : Layout front)
    (h' : Layout back) : Layout (front ++ back) := by
  induction h with
  | nil => exact h'
  | narrow hc _ ih => exact .narrow hc ih
  | wide hc _ ih => exact .wide hc ih

theorem layout_texts (texts : List String) :
    Layout (texts.map fun text => some (.utf8 (ModifiedUtf8.encode text))) := by
  induction texts with
  | nil => exact .nil
  | cons text texts ih => exact .narrow rfl ih

/-- A longer pool is well formed if the shorter one is and the number of slots still fits. -/
theorem WellFormed.of_extends (hpool : pool.WellFormed) (h : pool.Extends grown)
    (hsize : grown.slots.size ≤ 65535) : grown.WellFormed := by
  obtain ⟨⟨tail, hslots, -, htail⟩, -⟩ := wellFormed_iff.mp hpool
  have hrefs := hpool.refersWell
  have hrefersWell : ∀ c, pool.RefersWell c → grown.RefersWell c := fun _ => h.refersWell
  obtain ⟨texts, rfl, htexts⟩ := h
  have hgrown : (pool.grow texts).slots.toList =
      none :: (tail ++ texts.map fun text => some (.utf8 (ModifiedUtf8.encode text))) := by
    rw [toList_grow, hslots, List.cons_append]
  refine wellFormed_iff.mpr ⟨⟨_, hgrown, ?_, htail.layout.append (layout_texts texts), ?_⟩, ?_⟩
  · rwa [← List.length_cons, ← hgrown, Array.length_toList]
  · intro c hc
    rcases List.mem_append.mp hc with hc | hc
    · exact htail.fits c hc
    · obtain ⟨t, ht, heq⟩ := List.mem_map.mp hc
      cases heq
      exact htexts t ht
  · -- Old constants refer to old constants, which are still there; string constants to none.
    rw [checkReferences_eq_ok]
    intro i c hc
    rw [← Array.getElem?_toList, toList_grow] at hc
    rcases List.mem_append.mp (List.mem_of_getElem? hc) with hmem | hmem
    · obtain ⟨j, hj⟩ := List.getElem?_of_mem hmem
      rw [Array.getElem?_toList] at hj
      exact hrefersWell c (hrefs j c hj)
    · obtain ⟨t, -, heq⟩ := List.mem_map.mp hmem
      cases heq
      trivial

/-- Adding a text extends the pool, to no more slots than fit, and its index leads to the
spelling. -/
theorem extends_of_push (h : pool.push text = .ok (index, grown)) :
    pool.Extends grown ∧ grown.slots.size ≤ 65535 ∧
      grown.Holds index (.utf8 (ModifiedUtf8.encode text)) := by
  -- The index is the old number of slots, which 16 bits hold.
  obtain ⟨hlen, hroom, rfl, rfl⟩ := push_eq_ok.mp h
  refine ⟨⟨[text], rfl, by simpa using hlen⟩, Nat.le_trans (Nat.le_of_eq size_grow) hroom, ?_⟩
  rw [Holds, length, UInt16.toNat_ofNat', Nat.mod_eq_of_lt (by omega)]
  exact getElem?_grow_size

/-- Interning extends the pool in the same way, if it extends it at all. -/
theorem extends_of_intern (hsize : pool.slots.size ≤ 65535)
    (h : pool.intern text = .ok (index, grown)) :
    pool.Extends grown ∧ grown.slots.size ≤ 65535 ∧
      grown.Holds index (.utf8 (ModifiedUtf8.encode text)) := by
  rcases intern_eq_ok.mp h with ⟨hfound, rfl⟩ | ⟨-, hpush⟩
  · exact ⟨.refl _, hsize, holds_of_find? hsize hfound⟩
  · exact extends_of_push hpush

/-- What a pool holds lies behind its first slot and below the limit. -/
theorem WellFormed.index_mem (hpool : pool.WellFormed) {c : Constant} (h : pool.Holds index c) :
    1 ≤ index ∧ index ≤ 65534 := by
  have hlt := (Array.getElem?_eq_some_iff.mp h).1
  have hsize := hpool.size_le
  have hpos : index.toNat ≠ 0 := by
    intro hzero
    have hfirst := hpool.unusable.first
    rw [Holds, hzero, ← Array.getElem?_toList, hfirst] at h
    cases h
  simp only [UInt16.le_iff_toNat_le, UInt16.reduceToNat]
  omega

end ConstantPool

/-! ### Classes over longer pools -/

section

variable {pool grown : ConstantPool}

theorem IsTable.mono {α : Type} {valid valid' : α → Prop} {xs : List α} (h : IsTable valid xs)
    (hvalid : ∀ x, valid x → valid' x) : IsTable valid' xs :=
  ⟨h.1, fun x hx => hvalid x (h.2 x hx)⟩

theorem Attribute.WellFormed.of_extends {a : Attribute} (ha : a.WellFormed pool)
    (h : pool.Extends grown) : a.WellFormed grown :=
  ⟨h.utf8At ha.name, ha.payload_lt⟩

theorem Member.WellFormed.of_extends {m : Member} (hm : m.WellFormed pool)
    (h : pool.Extends grown) : m.WellFormed grown :=
  ⟨h.utf8At hm.name, h.utf8At hm.descriptor, hm.attributes.mono fun _ ha => ha.of_extends h⟩

end

/-- A class stays well formed when its pool grows, as long as the slots fit. -/
theorem WellFormed.of_extends {c : ClassFile} {grown : ConstantPool} (hc : c.WellFormed)
    (h : c.pool.Extends grown) (hsize : grown.slots.size ≤ 65535) :
    { c with pool := grown }.WellFormed where
  major_ge := hc.major_ge
  major_le := hc.major_le
  minor := hc.minor
  pool := hc.pool.of_extends h hsize
  thisClass := h.namedClassAt hc.thisClass
  superClass := fun hne => h.namedClassAt (hc.superClass hne)
  interfaces := hc.interfaces.mono fun _ => h.namedClassAt
  fields := hc.fields.mono fun _ hm => hm.of_extends h
  methods := hc.methods.mono fun _ hm => hm.of_extends h
  attributes := hc.attributes.mono fun _ ha => ha.of_extends h

end ClassOrigin.ClassFile
