/-
The groups of modified UTF-8, and what is read from them.

The reader accepts byte strings that are made of groups, and a byte string is made of groups in at
most one way:

* **`Group`** — one, two or three bytes in their ranges, and the unit they carry;
* **`unitsOnto_spell`**, **`exists_groups_of_unitsOnto`** — groups are read as their units, and
  what is read was made of groups;
* **`spell_injective`** — different groups make different byte strings;
* **`decode?_eq_some_iff_groups`** — hence what the reader accepts, and as which text.
-/
import ClassOrigin.Proofs.Surrogates

namespace ClassOrigin.ModifiedUtf8

/-! ### Groups -/

/-- A group: a byte of ASCII other than zero, or a first byte and one or two later bytes. -/
inductive Group
  | one (a : UInt8) (ha : 0x01 ≤ a.toNat ∧ a.toNat ≤ 0x7F)
  | two (a b : UInt8) (ha : 0xC0 ≤ a.toNat ∧ a.toNat ≤ 0xDF)
      (hb : 0x80 ≤ b.toNat ∧ b.toNat ≤ 0xBF)
  | three (a b c : UInt8) (ha : 0xE0 ≤ a.toNat ∧ a.toNat ≤ 0xEF)
      (hb : 0x80 ≤ b.toNat ∧ b.toNat ≤ 0xBF) (hc : 0x80 ≤ c.toNat ∧ c.toNat ≤ 0xBF)

namespace Group

/-- The bytes of a group. -/
def bytes : Group → Bytes
  | one a _ => [a]
  | two a b _ _ => [a, b]
  | three a b c _ _ _ => [a, b, c]

/-- The number that a group carries: six bits in each later byte, the rest in the first. -/
def number : Group → Nat
  | one a _ => a.toNat
  | two a b _ _ => (a.toNat - 0xC0) * 0x40 + (b.toNat - 0x80)
  | three a b c _ _ _ => (a.toNat - 0xE0) * 0x1000 + (b.toNat - 0x80) * 0x40 + (c.toNat - 0x80)

/-- The unit that a group carries. -/
def unit (g : Group) : UInt16 :=
  UInt16.ofNat g.number

theorem number_lt (g : Group) : g.number < 0x10000 := by
  cases g with
  | one a ha =>
    show a.toNat < 0x10000
    omega
  | two a b ha hb =>
    show (a.toNat - 0xC0) * 0x40 + (b.toNat - 0x80) < 0x10000
    omega
  | three a b c ha hb hc =>
    show (a.toNat - 0xE0) * 0x1000 + (b.toNat - 0x80) * 0x40 + (c.toNat - 0x80) < 0x10000
    omega

theorem toNat_unit (g : Group) : g.unit.toNat = g.number :=
  UInt16.toNat_ofNat_of_lt' g.number_lt

end Group

/-- The bytes of groups one behind another. -/
def spell (groups : List Group) : Bytes :=
  groups.flatMap Group.bytes

variable {acc units : List UInt16} {bytes rest rest' : Bytes} {groups : List Group} {g g' : Group}

/-! ### Reading -/

/-- A group is read as its unit. -/
theorem unitsOnto_bytes (acc : List UInt16) (g : Group) (rest : Bytes) :
    unitsOnto acc (g.bytes ++ rest) = unitsOnto (g.unit :: acc) rest := by
  have hunit := g.toNat_unit
  cases g with
  | one a ha =>
    have hsame : a.toUInt16 = (Group.one a ha).unit := UInt16.toNat_inj.mp hunit.symm
    rw [← hsame]
    exact unitsOnto_one (isSingle_iff.mpr ha)
  | two a b ha hb =>
    have hsame : unitOfTwo a b = (Group.two a b ha hb).unit := by
      rw [← UInt16.toNat_inj, toNat_unitOfTwo, hunit]
      show _ = (a.toNat - 0xC0) * 0x40 + (b.toNat - 0x80)
      omega
    rw [← hsame]
    exact unitsOnto_two (isLeadOfTwo_iff.mpr ha) (isTrail_iff.mpr hb)
  | three a b c ha hb hc =>
    have hsame : unitOfThree a b c = (Group.three a b c ha hb hc).unit := by
      rw [← UInt16.toNat_inj, toNat_unitOfThree, hunit]
      show _ = (a.toNat - 0xE0) * 0x1000 + (b.toNat - 0x80) * 0x40 + (c.toNat - 0x80)
      omega
    rw [← hsame]
    exact unitsOnto_three (isLeadOfThree_iff.mpr ha) (isTrail_iff.mpr hb) (isTrail_iff.mpr hc)

/-- Groups are read as their units, in order. -/
theorem unitsOnto_spell (acc : List UInt16) (groups : List Group) :
    unitsOnto acc (spell groups) = some (acc.reverse ++ groups.map Group.unit) := by
  induction groups generalizing acc with
  | nil => simp [spell, unitsOnto]
  | cons g groups ih =>
    rw [spell, List.flatMap_cons, unitsOnto_bytes, ← spell, ih, List.reverse_cons,
      List.append_assoc]
    rfl

/-- What is read was made of groups. -/
theorem exists_groups_of_unitsOnto (h : unitsOnto acc bytes = some units) :
    ∃ groups, spell groups = bytes := by
  fun_induction unitsOnto acc bytes with
  | case1 acc => exact ⟨[], rfl⟩
  | case2 acc a rest ha ih =>
    obtain ⟨groups, rfl⟩ := ih h
    exact ⟨.one a (isSingle_iff.mp ha) :: groups, rfl⟩
  | case3 acc a _ ha b rest hb ih =>
    obtain ⟨groups, rfl⟩ := ih h
    exact ⟨.two a b (isLeadOfTwo_iff.mp ha) (isTrail_iff.mp hb) :: groups, rfl⟩
  | case6 acc a _ _ ha b c rest hbc ih =>
    obtain ⟨groups, rfl⟩ := ih h
    rw [Bool.and_eq_true, isTrail_iff, isTrail_iff] at hbc
    exact ⟨.three a b c (isLeadOfThree_iff.mp ha) hbc.1 hbc.2 :: groups, rfl⟩
  | case4 | case5 | case7 | case8 | case9 => cases h

/-- The units of a byte string are those of the groups that it is made of. -/
theorem units?_eq_some :
    units? bytes = some units ↔ ∃ groups, spell groups = bytes ∧ groups.map Group.unit = units := by
  constructor
  · intro h
    obtain ⟨groups, rfl⟩ := exists_groups_of_unitsOnto h
    rw [units?, unitsOnto_spell] at h
    exact ⟨groups, rfl, Option.some.inj h⟩
  · rintro ⟨groups, rfl, rfl⟩
    exact unitsOnto_spell [] groups

/-! ### Splitting -/

/-- The first byte tells how long a group is, so no group is the beginning of another. -/
theorem eq_of_bytes_append (h : g.bytes ++ rest = g'.bytes ++ rest') : g = g' ∧ rest = rest' := by
  -- In the mixed cases one byte would have to lie in two ranges.
  cases g with
  | one a ha =>
    cases g' <;> simp only [Group.bytes, List.cons_append, List.nil_append, List.cons.injEq] at h
    · grind
    · grind
    · grind
  | two a b ha hb =>
    cases g' <;> simp only [Group.bytes, List.cons_append, List.nil_append, List.cons.injEq] at h
    · grind
    · grind
    · grind
  | three a b c ha hb hc =>
    cases g' <;> simp only [Group.bytes, List.cons_append, List.nil_append, List.cons.injEq] at h
    · grind
    · grind
    · grind

theorem bytes_ne_nil (g : Group) : g.bytes ≠ [] := by
  cases g <;> exact List.cons_ne_nil _ _

/-- Different groups make different byte strings. -/
theorem spell_injective : Function.Injective spell := by
  -- One group is taken off both sides at a time, and the other list is left open for that.
  intro groups
  induction groups with
  | nil =>
    rintro (_ | ⟨g', groups'⟩) h
    · rfl
    · exact absurd (List.append_eq_nil_iff.mp h.symm).1 (bytes_ne_nil g')
  | cons g groups ih =>
    rintro (_ | ⟨g', groups'⟩) h
    · exact absurd (List.append_eq_nil_iff.mp h).1 (bytes_ne_nil g)
    · obtain ⟨rfl, hrest⟩ := eq_of_bytes_append h
      rw [ih hrest]

/-! ### Texts -/

theorem decode?_spell (groups : List Group) :
    decode? (spell groups) = some (String.ofList (Utf16.decodeLossy (groups.map Group.unit))) := by
  rw [decode?, units?_eq_some.mpr ⟨groups, rfl, rfl⟩]
  rfl

theorem exists_groups_of_decode? {text : String} (h : decode? bytes = some text) :
    ∃ groups, spell groups = bytes := by
  obtain ⟨units, hunits, -⟩ := Option.map_eq_some_iff.mp h
  exact exists_groups_of_unitsOnto hunits

/-- **What is read, and as what.**  The byte strings that are read are those made of groups, which
are then the only groups that they are made of.  What is read is the text that the units of the
groups say.  And where all bytes stand for themselves, reading UTF-8 gives the same answer. -/
theorem decode?_eq_some_iff_groups (bytes : Bytes) :
    ((∃ text, decode? bytes = some text) ↔ ∃! groups, spell groups = bytes) ∧
      (∀ text, decode? bytes = some text ↔
        ∃ groups, spell groups = bytes ∧ Utf16.Reads (groups.map Group.unit) text.toList) ∧
      (if bytes.all isSingle then Utf8.decode? bytes else decode? bytes) = decode? bytes := by
  refine ⟨⟨?_, ?_⟩, fun text => ⟨?_, ?_⟩, ?_⟩
  · rintro ⟨text, h⟩
    obtain ⟨groups, hgroups⟩ := exists_groups_of_decode? h
    exact ⟨groups, hgroups, fun other hother => spell_injective (hother.trans hgroups.symm)⟩
  · rintro ⟨groups, rfl, -⟩
    exact ⟨_, decode?_spell groups⟩
  · intro h
    obtain ⟨groups, rfl⟩ := exists_groups_of_decode? h
    rw [decode?_spell, Option.some.injEq] at h
    refine ⟨groups, rfl, Utf16.reads_iff.mpr ?_⟩
    rw [← h, String.toList_ofList]
  · rintro ⟨groups, rfl, hreads⟩
    rw [decode?_spell, ← Utf16.reads_iff.mp hreads, String.ofList_toList]
  · split
    · rename_i hplain
      obtain ⟨text, hread, rfl⟩ := decode?_of_plain (List.all_eq_true.mp hplain)
      rw [hread, Utf8.decode?_ofText]
    · rfl

-- An unpaired surrogate in front of a pair, and `A` in two bytes.
example :
    decode? [0xED, 0xA0, 0xBD, 0xED, 0xA0, 0xBD, 0xED, 0xB8, 0x80, 0xC1, 0x81] =
      some "\uFFFD😀A" := by
  decide +kernel

end ClassOrigin.ModifiedUtf8
