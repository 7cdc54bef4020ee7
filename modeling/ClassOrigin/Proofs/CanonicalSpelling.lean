/-
Spellings that a reader keeps.

Several byte strings may be read as one text, of which the writer writes one:

* **`Group.IsShortest`** — a group that no group with the same unit is shorter than;
* **`isShortest_iff_bytes`** — these are the groups that are written;
* **`IsCanonical`** — shortest groups, whose units have every surrogate in a pair;
* **`encode_eq_iff_isCanonical`** — the byte strings that are written again when they are read,
  and the constants that a search for their text does not pass by.
-/
import ClassOrigin.Proofs.Groups
import ClassOrigin.Proofs.PoolGrowth

namespace ClassOrigin.ModifiedUtf8

variable {bytes : Bytes} {text : String} {groups : List Group} {g g' : Group} {u : UInt16}

/-! ### Shortest groups -/

/-- No group with the same unit is shorter. -/
def Group.IsShortest (g : Group) : Prop :=
  ∀ other : Group, other.unit = g.unit → g.bytes.length ≤ other.bytes.length

/-- The length of the shortest group of a unit. The zero byte is no group, so zero takes two. -/
def shortestLength (u : UInt16) : Nat :=
  if u = 0 then 2 else if u ≤ 0x7F then 1 else if u ≤ 0x7FF then 2 else 3

theorem shortestLength_eq (u : UInt16) :
    shortestLength u =
      if u.toNat = 0 then 2
      else if u.toNat ≤ 0x7F then 1
      else if u.toNat ≤ 0x7FF then 2
      else 3 := by
  simp only [shortestLength, ← UInt16.toNat_inj, UInt16.le_iff_toNat_le, UInt16.reduceToNat]

theorem length_groupOfUnit (u : UInt16) : (groupOfUnit u).length = shortestLength u := by
  rw [shortestLength_eq, groupOfUnit]
  simp only [Bool.and_eq_true, decide_eq_true_eq, UInt16.le_iff_toNat_le, UInt16.reduceToNat]
  by_cases hzero : u.toNat = 0
  · rw [if_neg (by omega), if_pos (by omega), if_pos hzero]
    rfl
  · rw [if_neg hzero]
    by_cases hone : u.toNat ≤ 0x7F
    · rw [if_pos (by omega), if_pos hone]
      rfl
    · rw [if_neg (by omega), if_neg hone]
      by_cases htwo : u.toNat ≤ 0x7FF
      · rw [if_pos htwo, if_pos htwo]
        rfl
      · rw [if_neg htwo, if_neg htwo]
        rfl

/-- The bytes written for a unit are a group of it. -/
theorem exists_group (u : UInt16) : ∃ g : Group, g.bytes = groupOfUnit u ∧ g.unit = u := by
  have hunits : units? (groupOfUnit u) = some [u] := by
    have hread := unitsOnto_groups [] [u]
    rwa [List.flatMap_singleton] at hread
  obtain ⟨groups, hbytes, hmap⟩ := units?_eq_some.mp hunits
  obtain ⟨g, rfl, hg⟩ := List.map_eq_singleton_iff.mp hmap
  exact ⟨g, by rw [← hbytes, spell, List.flatMap_singleton], hg⟩

/-- No group is shorter than its unit allows. -/
theorem shortestLength_le (g : Group) : shortestLength g.unit ≤ g.bytes.length := by
  rw [shortestLength_eq, g.toNat_unit]
  cases g with
  | one a ha =>
    show (if a.toNat = 0 then 2 else if a.toNat ≤ 0x7F then 1 else _) ≤ 1
    refine Nat.le_of_eq ?_
    rw [if_neg (by omega), if_pos ha.2]
  | two a b ha hb =>
    have hnumber : (Group.two a b ha hb).number ≤ 0x7FF := by
      show (a.toNat - 0xC0) * 0x40 + (b.toNat - 0x80) ≤ 0x7FF
      omega
    rw [if_pos hnumber]
    split
    · exact Nat.le_refl _
    · split
      · exact Nat.le_succ _
      · exact Nat.le_refl _
  | three a b c ha hb hc =>
    show _ ≤ 3
    split
    · decide
    · split
      · decide
      · split
        · decide
        · decide

/-- A unit has at most one group of each length. -/
theorem Group.eq_of_length (hunit : g.unit = g'.unit) (hlength : g.bytes.length = g'.bytes.length) :
    g = g' := by
  have hnumber : g.number = g'.number := by rw [← toNat_unit, hunit, toNat_unit]
  cases g with
  | one a ha =>
    cases g' with
    | one a' ha' =>
      have ha'' : a = a' := UInt8.toNat_inj.mp hnumber
      subst ha''
      rfl
    | two => cases hlength
    | three => cases hlength
  | two a b ha hb =>
    cases g' with
    | two a' b' ha' hb' =>
      replace hnumber : (a.toNat - 0xC0) * 0x40 + (b.toNat - 0x80) =
        (a'.toNat - 0xC0) * 0x40 + (b'.toNat - 0x80) := hnumber
      obtain rfl : a = a' := UInt8.toNat_inj.mp (by omega)
      obtain rfl : b = b' := UInt8.toNat_inj.mp (by omega)
      rfl
    | one => cases hlength
    | three => cases hlength
  | three a b c ha hb hc =>
    cases g' with
    | three a' b' c' ha' hb' hc' =>
      replace hnumber :
        (a.toNat - 0xE0) * 0x1000 + (b.toNat - 0x80) * 0x40 + (c.toNat - 0x80) =
          (a'.toNat - 0xE0) * 0x1000 + (b'.toNat - 0x80) * 0x40 + (c'.toNat - 0x80) := hnumber
      obtain rfl : a = a' := UInt8.toNat_inj.mp (by omega)
      obtain rfl : b = b' := UInt8.toNat_inj.mp (by omega)
      obtain rfl : c = c' := UInt8.toNat_inj.mp (by omega)
      rfl
    | one => cases hlength
    | two => cases hlength

theorem Group.isShortest_iff : g.IsShortest ↔ g.bytes.length = shortestLength g.unit := by
  constructor
  · intro h
    obtain ⟨other, hbytes, hunit⟩ := exists_group g.unit
    refine Nat.le_antisymm ?_ (shortestLength_le g)
    rw [← length_groupOfUnit, ← hbytes]
    exact h other hunit
  · intro h other hunit
    rw [h, ← hunit]
    exact shortestLength_le other

/-- The shortest groups are those that are written. -/
theorem Group.isShortest_iff_bytes : g.IsShortest ↔ groupOfUnit g.unit = g.bytes := by
  rw [isShortest_iff, ← length_groupOfUnit]
  constructor
  · intro h
    obtain ⟨other, hbytes, hunit⟩ := exists_group g.unit
    rw [← hbytes] at h ⊢
    rw [eq_of_length hunit h.symm]
  · intro h
    rw [h]

/-! ### Canonical byte strings -/

/-- Shortest groups, whose units have every surrogate in a pair. -/
def IsCanonical (bytes : Bytes) : Prop :=
  ∃ groups, spell groups = bytes ∧ (∀ g ∈ groups, g.IsShortest) ∧
    Utf16.Paired (groups.map Group.unit)

/-- Writing the units of groups gives their bytes where every group is a shortest one. -/
theorem flatMap_groupOfUnit_iff :
    (groups.map Group.unit).flatMap groupOfUnit = spell groups ↔ ∀ g ∈ groups, g.IsShortest := by
  choose shortest hbytes hunit using exists_group
  have hspell : (groups.map Group.unit).flatMap groupOfUnit =
      spell (groups.map fun g => shortest g.unit) := by
    simp only [spell, List.flatMap_map, hbytes]
  have hmap : (groups.map fun g => shortest g.unit) = groups ↔
      ∀ g ∈ groups, shortest g.unit = g := by
    simpa using List.map_inj_left (f := fun g => shortest g.unit) (g := id) (l := groups)
  rw [hspell, spell_injective.eq_iff, hmap]
  refine forall₂_congr fun g _ => ?_
  rw [Group.isShortest_iff_bytes, ← hbytes]
  constructor
  · intro h
    rw [h]
  · intro h
    exact Group.eq_of_length (hunit g.unit) (by rw [h])

/-- A text is written in the groups that it was read from if those are shortest ones and carry
units that are written again. -/
theorem encode_eq_iff (h : decode? (spell groups) = some text) :
    encode text = spell groups ↔
      (∀ g ∈ groups, g.IsShortest) ∧ Utf16.Paired (groups.map Group.unit) := by
  rw [decode?_spell, Option.some.injEq] at h
  subst h
  rw [encode, String.toList_ofList, ← flatMap_groupOfUnit_iff, ← Utf16.encode_decodeLossy_iff]
  constructor
  · intro heq
    -- Both sides are read, and the units on the left are those that were written.
    have hread := unitsOnto_groups [] (Utf16.encode (Utf16.decodeLossy (groups.map Group.unit)))
    rw [heq, unitsOnto_spell, Option.some.injEq] at hread
    simp only [List.reverse_nil, List.nil_append] at hread
    exact ⟨by rw [← heq, ← hread], hread.symm⟩
  · rintro ⟨hgroups, hpaired⟩
    rw [hpaired, hgroups]

theorem isCanonical_spell :
    IsCanonical (spell groups) ↔
      (∀ g ∈ groups, g.IsShortest) ∧ Utf16.Paired (groups.map Group.unit) := by
  constructor
  · rintro ⟨other, hother, h⟩
    rwa [spell_injective hother] at h
  · intro h
    exact ⟨groups, rfl, h⟩

theorem encode_eq_iff_canonical (h : decode? bytes = some text) :
    encode text = bytes ↔ IsCanonical bytes := by
  obtain ⟨groups, rfl⟩ := exists_groups_of_decode? h
  rw [encode_eq_iff h, isCanonical_spell]

/-- **What survives being read and written.**  A byte string that is read as a text is what that
text is written as if and only if all its groups are shortest ones and all its surrogates are in
pairs.  So a pool in which the text is not found reads as it only at constants that are not like
this. -/
theorem encode_eq_iff_isCanonical (h : decode? bytes = some text) :
    (encode text = bytes ↔ IsCanonical bytes) ∧
      (∀ groups, spell groups = bytes →
        (IsCanonical bytes ↔
          (∀ g ∈ groups, g.IsShortest) ∧ Utf16.Paired (groups.map Group.unit))) ∧
      (∀ g : Group, g.IsShortest ↔ g.bytes.length = shortestLength g.unit) ∧
      ∀ pool : ClassFile.ConstantPool, pool.find? text = none →
        ∀ index, pool.text index = .ok text →
          ∃ spelling, pool.Holds index (.utf8 spelling) ∧ ¬ IsCanonical spelling := by
  refine ⟨encode_eq_iff_canonical h, ?_, fun g => g.isShortest_iff, ?_⟩
  · rintro groups rfl
    exact isCanonical_spell
  · intro pool hmissing index htext
    obtain ⟨spelling, hholds, hread⟩ := ClassFile.ConstantPool.text_eq_ok.mp htext
    refine ⟨spelling, hholds, fun hcanonical => ?_⟩
    rw [← encode_eq_iff_canonical hread] at hcanonical
    exact ClassFile.ConstantPool.find?_eq_none.mp hmissing ⟨index.toNat, hcanonical ▸ hholds⟩

/-- `A` in two bytes, and a surrogate that is not in a pair. -/
def strayBytes : Bytes :=
  [0xC1, 0x81, 0xED, 0xA0, 0x80]

/-- A pool with one string constant. -/
def strayPool : ClassFile.ConstantPool :=
  ⟨#[none, some (.utf8 strayBytes)]⟩

/-- A constant that is read as a text and not found by it. -/
theorem encode_eq_iff_isCanonical_stray :
    decode? strayBytes = some "A\uFFFD" ∧ ¬ IsCanonical strayBytes ∧
      strayPool.text 1 = .ok "A\uFFFD" ∧ strayPool.find? "A\uFFFD" = none ∧
      ∃ spelling, strayPool.Holds 1 (.utf8 spelling) ∧ ¬ IsCanonical spelling := by
  have hread : decode? strayBytes = some "A\uFFFD" := by decide +kernel
  have htext : strayPool.text 1 = .ok "A\uFFFD" := by decide +kernel
  have hmissing : strayPool.find? "A\uFFFD" = none := by decide +kernel
  obtain ⟨hwritten, -, -, hpool⟩ := encode_eq_iff_isCanonical hread
  refine ⟨hread, fun hcanonical => ?_, htext, hmissing, hpool strayPool hmissing 1 htext⟩
  exact absurd (hwritten.mpr hcanonical) (by decide +kernel)

end ClassOrigin.ModifiedUtf8
