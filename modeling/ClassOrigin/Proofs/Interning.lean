/-
Interning texts in a pool.

A text is looked up before a constant is added for it, so a pool never gains a text that it has:

* **`isIndexOf_of_intern`** — the index of an interned text is the lowest one with its spelling;
* **`IsIndexOf.text_eq`**, **`IsIndexOf.eq_iff`**, **`IsIndexOf.intern_eq`** — such an index reads as
  the text, is that of no other, and is what is answered when the text is interned again;
* **`grow_of_intern`** — interning adds what is **`missing`**, and nothing else;
* **`missing_pair`** — so interning one text after another adds what is missing of both;
* **`GainsNew`** — a pool that has gained constants for some texts in this way; it holds each of
  them once, and is longer by no more than their number.
-/
import Mathlib.Data.Finset.Card
import Mathlib.Data.List.Dedup
import ClassOrigin.Proofs.PoolGrowth

namespace ClassOrigin.ClassFile.ConstantPool

variable {pool grown later : ConstantPool} {text first second : String} {texts : List String}
  {index : UInt16}

/-! ### The index of a text -/

/-- `index` is the lowest one whose string constant is spelled like `text`. -/
structure IsIndexOf (pool : ConstantPool) (text : String) (index : UInt16) : Prop where
  holds : pool.Holds index (.utf8 (ModifiedUtf8.encode text))
  lowest : ∀ j < index, ¬ pool.Holds j (.utf8 (ModifiedUtf8.encode text))

theorem isIndexOf_of_find? (hsize : pool.slots.size ≤ 65535) (h : pool.find? text = some index) :
    pool.IsIndexOf text index := by
  obtain ⟨i, rfl, hi, hfirst⟩ := find?_eq_some.mp h
  have hlt := (Array.getElem?_eq_some_iff.mp hi).1
  refine ⟨holds_of_find? hsize h, fun j hj => hfirst j.toNat ?_⟩
  rwa [UInt16.lt_iff_toNat_lt, UInt16.toNat_ofNat', Nat.mod_eq_of_lt (by omega)] at hj

/-- Texts behind the pool come after the index. -/
theorem IsIndexOf.of_extends (h : pool.IsIndexOf text index) (hext : pool.Extends grown) :
    grown.IsIndexOf text index := by
  refine ⟨hext.holds h.holds, fun j hj hholds => h.lowest j hj ?_⟩
  have hindex := (Array.getElem?_eq_some_iff.mp h.holds).1
  have hlt : j.toNat < pool.slots.size := by
    rw [UInt16.lt_iff_toNat_lt] at hj
    omega
  rwa [Holds, hext.getElem?_of_lt hlt] at hholds

theorem isIndexOf_of_push (hnew : ¬ pool.Spells text) (h : pool.push text = .ok (index, grown)) :
    grown.IsIndexOf text index := by
  obtain ⟨hext, -, hholds⟩ := extends_of_push h
  obtain ⟨-, hroom, hindex, -⟩ := push_eq_ok.mp h
  refine ⟨hholds, fun j hj hj' => hnew ⟨j.toNat, ?_⟩⟩
  -- A lower index is one of the pool as it was.
  have hlt : j.toNat < pool.slots.size := by
    rw [UInt16.lt_iff_toNat_lt, hindex, length, UInt16.toNat_ofNat'] at hj
    exact Nat.lt_of_lt_of_le hj (Nat.mod_le _ _)
  rwa [Holds, hext.getElem?_of_lt hlt] at hj'

/-- The index of an interned text is the lowest one with its spelling. -/
theorem isIndexOf_of_intern (hsize : pool.slots.size ≤ 65535)
    (h : pool.intern text = .ok (index, grown)) : grown.IsIndexOf text index := by
  rcases intern_eq_ok.mp h with ⟨hfound, rfl⟩ | ⟨hnew, hpush⟩
  · exact isIndexOf_of_find? hsize hfound
  · exact isIndexOf_of_push hnew hpush

/-- The text is read back at its index. -/
theorem IsIndexOf.text_eq (h : pool.IsIndexOf text index) : pool.text index = .ok text :=
  text_of_holds_encode h.holds

theorem IsIndexOf.find?_eq (h : pool.IsIndexOf text index) : pool.find? text = some index := by
  refine find?_eq_some.mpr ⟨index.toNat, UInt16.ofNat_toNat, h.holds, fun j hj hslot => ?_⟩
  have hword : (UInt16.ofNat j).toNat = j :=
    UInt16.toNat_ofNat_of_lt (Nat.lt_trans hj index.toNat_lt)
  refine h.lowest (UInt16.ofNat j) ?_ ?_
  · rwa [UInt16.lt_iff_toNat_lt, hword]
  · rwa [Holds, hword]

/-- Interning a text that has an index answers with it and adds nothing, and asks for no room. -/
theorem IsIndexOf.intern_eq (h : pool.IsIndexOf text index) :
    pool.intern text = .ok (index, pool) :=
  intern_eq_ok.mpr (.inl ⟨h.find?_eq, rfl⟩)

/-- Different texts have different indices, and a text has one. -/
theorem IsIndexOf.eq_iff {other : UInt16} (h : pool.IsIndexOf first index)
    (h' : pool.IsIndexOf second other) : index = other ↔ first = second := by
  constructor
  · rintro rfl
    exact Except.ok.inj (h.text_eq.symm.trans h'.text_eq)
  · rintro rfl
    exact Option.some.inj (h.find?_eq.symm.trans h'.find?_eq)

/-- An interned text is no longer than a constant can be. -/
theorem length_le_of_intern (hpool : pool.WellFormed) (h : pool.intern text = .ok (index, grown)) :
    (ModifiedUtf8.encode text).length ≤ 65535 := by
  rcases intern_eq_ok.mp h with ⟨hfound, -⟩ | ⟨-, hpush⟩
  · exact hpool.utf8_le _ _ (holds_of_find? hpool.size_le hfound)
  · exact (push_eq_ok.mp hpush).1

/-! ### Missing texts -/

instance (pool : ConstantPool) (text : String) : Decidable (pool.Spells text) :=
  decidable_of_iff (pool.find? text ≠ none) (by rw [ne_eq, find?_eq_none, not_not])

/-- The texts that the pool has no constant for, each once. -/
def missing (pool : ConstantPool) (texts : List String) : List String :=
  texts.dedup.filter fun text => ¬ pool.Spells text

theorem mem_missing : text ∈ pool.missing texts ↔ text ∈ texts ∧ ¬ pool.Spells text := by
  simp [missing]

theorem nodup_missing : (pool.missing texts).Nodup :=
  texts.nodup_dedup.filter _

theorem missing_sublist : (pool.missing texts).Sublist texts :=
  List.filter_sublist.trans texts.dedup_sublist

theorem missing_of_spells (h : pool.Spells text) : pool.missing [text] = [] := by
  simp [missing, h]

theorem missing_of_not_spells (h : ¬ pool.Spells text) : pool.missing [text] = [text] := by
  simp [missing, h]

/-- Interning adds what is missing. -/
theorem grow_of_intern (h : pool.intern text = .ok (index, grown)) :
    grown = pool.grow (pool.missing [text]) := by
  rcases intern_eq_ok.mp h with ⟨hfound, rfl⟩ | ⟨hnew, hpush⟩
  · rw [missing_of_spells (spells_of_find? hfound), grow_nil]
  · obtain ⟨-, -, -, rfl⟩ := push_eq_ok.mp hpush
    rw [missing_of_not_spells hnew]

/-- Whether a text is missing does not depend on another one being added. -/
theorem missing_grow_singleton (hne : first ≠ second) :
    (pool.grow [first]).missing [second] = pool.missing [second] := by
  have hspells : (pool.grow [first]).Spells second ↔ pool.Spells second := by
    rw [spells_grow, List.mem_singleton, or_iff_left hne.symm]
  by_cases h : pool.Spells second
  · rw [missing_of_spells h, missing_of_spells (hspells.mpr h)]
  · rw [missing_of_not_spells h, missing_of_not_spells (mt hspells.mp h)]

/-- What is missing of two texts is what is missing of the first, and then of the second. -/
theorem missing_pair :
    pool.missing [first, second] =
      pool.missing [first] ++ (pool.grow (pool.missing [first])).missing [second] := by
  by_cases heq : first = second
  · -- The text is there when it is asked for again.
    subst heq
    have hthere : (pool.grow (pool.missing [first])).Spells first := by
      rw [spells_grow, mem_missing, List.mem_singleton]
      tauto
    rw [missing_of_spells hthere, List.append_nil]
    simp [missing]
  · have hdedup : [first, second].dedup = [first, second] :=
      List.dedup_eq_self.mpr (by simpa using heq)
    rw [missing, hdedup]
    by_cases hfirst : pool.Spells first
    · rw [missing_of_spells hfirst, grow_nil]
      simp [missing, hfirst]
    · rw [missing_of_not_spells hfirst, missing_grow_singleton heq]
      simp [missing, hfirst]

/-- Interning one text after another adds what is missing of both. -/
theorem grow_of_intern_intern {index' : UInt16} (h : pool.intern first = .ok (index, grown))
    (h' : grown.intern second = .ok (index', later)) :
    later = pool.grow (pool.missing [first, second]) := by
  have hgrown := grow_of_intern h
  have hlater := grow_of_intern h'
  rw [hlater, hgrown, grow_grow, ← missing_pair]

/-! ### Gained texts -/

/-- `grown` is `pool` with constants behind it for some of the texts `names`: texts that it did
not have, each added once. -/
def GainsNew (names : Finset String) (pool grown : ConstantPool) : Prop :=
  ∃ texts : List String, grown = pool.grow texts ∧ texts.Nodup ∧
    ∀ t ∈ texts, t ∈ names ∧ ¬ pool.Spells t

variable {names : Finset String}

theorem GainsNew.refl (pool : ConstantPool) : GainsNew names pool pool :=
  ⟨[], grow_nil.symm, List.nodup_nil, by simp⟩

/-- What comes later is new to the grown pool, so it is neither in the pool as it was nor among
the texts that came first. -/
theorem GainsNew.trans (h : GainsNew names pool grown) (h' : GainsNew names grown later) :
    GainsNew names pool later := by
  obtain ⟨texts, rfl, hnodup, htexts⟩ := h
  obtain ⟨more, rfl, hnodup', hmore⟩ := h'
  have hnew : ∀ t ∈ more, ¬ pool.Spells t ∧ t ∉ texts := fun t ht => by
    simpa [spells_grow] using (hmore t ht).2
  refine ⟨texts ++ more, grow_grow, ?_, fun t ht => ?_⟩
  · refine hnodup.append hnodup' fun t ht ht' => ?_
    exact (hnew t ht').2 ht
  · rcases List.mem_append.mp ht with ht | ht
    · exact htexts t ht
    · exact ⟨(hmore t ht).1, (hnew t ht).1⟩

theorem gainsNew_missing (hnames : ∀ t ∈ texts, t ∈ names) :
    GainsNew names pool (pool.grow (pool.missing texts)) := by
  refine ⟨_, rfl, nodup_missing, fun t ht => ?_⟩
  obtain ⟨hmem, hnew⟩ := mem_missing.mp ht
  exact ⟨hnames t hmem, hnew⟩

/-- There are no more gained constants than names for them. -/
theorem GainsNew.size_le (h : GainsNew names pool grown) :
    grown.slots.size ≤ pool.slots.size + names.card := by
  obtain ⟨texts, rfl, hnodup, htexts⟩ := h
  rw [size_grow, ← List.toFinset_card_of_nodup hnodup]
  refine Nat.add_le_add_left (Finset.card_le_card fun t ht => ?_) _
  exact (htexts t (List.mem_toFinset.mp ht)).1

/-- What the pool held it holds in the same slot. -/
theorem GainsNew.getElem? (h : GainsNew names pool grown) {i : Nat} (hi : i < pool.slots.size) :
    grown.slots[i]? = pool.slots[i]? := by
  obtain ⟨texts, rfl, -, -⟩ := h
  exact getElem?_grow_of_lt hi

/-- A gained constant is a string constant, and no other one has its bytes. -/
theorem GainsNew.exists_unique (h : GainsNew names pool grown) {i : Nat}
    (hi : pool.slots.size ≤ i) (hlt : i < grown.slots.size) :
    ∃ bytes, grown.slots[i]? = some (some (.utf8 bytes)) ∧
      ∀ j : Nat, grown.slots[j]? = some (some (.utf8 bytes)) → j = i := by
  obtain ⟨texts, rfl, hnodup, htexts⟩ := h
  rw [size_grow] at hlt
  have hplace : i - pool.slots.size < texts.length := by omega
  refine ⟨ModifiedUtf8.encode texts[i - pool.slots.size], ?_, fun j hj => ?_⟩
  · rw [getElem?_grow_of_le hi, List.getElem?_eq_getElem hplace]
    rfl
  · rcases Nat.lt_or_ge j pool.slots.size with hold | hgained
    · -- The pool as it was does not spell the text.
      rw [getElem?_grow_of_lt hold] at hj
      exact absurd ⟨j, hj⟩ (htexts _ (List.getElem_mem hplace)).2
    · -- The bytes tell the text, and the text its place among those that were added.
      rw [getElem?_grow_of_le hgained, Option.map_eq_some_iff] at hj
      obtain ⟨t, ht, heq⟩ := hj
      rw [Option.some.injEq, Constant.utf8.injEq, ModifiedUtf8.encode_inj] at heq
      obtain ⟨hplace', rfl⟩ := List.getElem?_eq_some_iff.mp ht
      have hsame := hnodup.getElem_inj_iff.mp heq
      omega

end ClassOrigin.ClassFile.ConstantPool
