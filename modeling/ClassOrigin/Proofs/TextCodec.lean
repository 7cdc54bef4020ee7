/-
Modified UTF-8 spells every text, and reading gives the text back.

Reading a spelled text goes back over the two layers of the spelling:

* **`decodeOnto_unitsOfChar`** — the units of a character are read as that character, a surrogate
  pair as one character above U+FFFF;
* **`unitsOnto_groupOfUnit`** — the group of a unit is read as that unit, whichever of the three
  forms it has;
* **`decode?_encode`** — hence a spelled text is read back, and no two texts are spelled alike;
* **`mem_groupOfUnit`** — the bytes that occur in groups;
* **`encode_of_plain`**, **`decode?_of_plain`** — ASCII without U+0000 is spelled, and read, as in
  UTF-8;
* **`encode_lossless`** — what holds of the spelling of every text.
-/
import ClassOrigin.Proofs.Utf8Scan
import ClassOrigin.Text.ModifiedUtf8

namespace ClassOrigin

/-! ### Units -/

namespace Utf16

variable {acc : List Char} {u v : UInt16} {rest : List UInt16}

theorem isHigh_iff : isHigh u = true ↔ 0xD800 ≤ u.toNat ∧ u.toNat < 0xDC00 := by
  simp only [isHigh, Bool.and_eq_true, decide_eq_true_eq, UInt16.le_iff_toNat_le,
    UInt16.lt_iff_toNat_lt, UInt16.reduceToNat]

theorem isLow_iff : isLow u = true ↔ 0xDC00 ≤ u.toNat ∧ u.toNat < 0xE000 := by
  simp only [isLow, Bool.and_eq_true, decide_eq_true_eq, UInt16.le_iff_toNat_le,
    UInt16.lt_iff_toNat_lt, UInt16.reduceToNat]

theorem decodeOnto_single (h : isHigh u = false) :
    decodeOnto acc (u :: rest) = decodeOnto (ofUnit u :: acc) rest := by
  rcases rest with _ | ⟨v, rest⟩
  · rfl
  · rw [decodeOnto, h]
    rfl

theorem decodeOnto_pair (hu : isHigh u = true) (hv : isLow v = true) :
    decodeOnto acc (u :: v :: rest) = decodeOnto (ofPair u v :: acc) rest := by
  rw [decodeOnto, hu, hv]
  rfl

/-- A character up to U+FFFF is a single unit, and no surrogate. -/
theorem unitsOfChar_of_lt {c : Char} (h : c.toNat < 0x10000) :
    ∃ u, unitsOfChar c = [u] ∧ isHigh u = false ∧ isLow u = false ∧ ofUnit u = c := by
  have hc : c.toNat < 0xD800 ∨ 0xDFFF < c.toNat ∧ c.toNat < 0x110000 := c.valid
  have hunit : c.val.toUInt16.toNat = c.toNat := by
    rw [UInt32.toNat_toUInt16]
    exact Nat.mod_eq_of_lt h
  have hhigh : isHigh c.val.toUInt16 = false := by
    rw [Bool.eq_false_iff, ne_eq, isHigh_iff, hunit]
    omega
  have hlow : isLow c.val.toUInt16 = false := by
    rw [Bool.eq_false_iff, ne_eq, isLow_iff, hunit]
    omega
  refine ⟨c.val.toUInt16, ?_, hhigh, hlow, ?_⟩
  · have hlt : c.val < 0x10000 := UInt32.lt_iff_toNat_lt.mpr h
    rw [unitsOfChar, if_pos hlt]
  · rw [ofUnit, hhigh, hlow, hunit]
    exact Char.ofNat_toNat c

/-- A character above U+FFFF is a surrogate pair. -/
theorem unitsOfChar_of_ge {c : Char} (h : 0x10000 ≤ c.toNat) :
    ∃ u v, unitsOfChar c = [u, v] ∧ isHigh u = true ∧ isLow v = true ∧ ofPair u v = c := by
  have hc : c.toNat < 0xD800 ∨ 0xDFFF < c.toNat ∧ c.toNat < 0x110000 := c.valid
  have hle : (0x10000 : UInt32) ≤ c.val := UInt32.le_iff_toNat_le.mpr h
  have hsub : (c.val - 0x10000).toNat = c.toNat - 0x10000 := UInt32.toNat_sub_of_le _ _ hle
  have hu : (((c.val - 0x10000) >>> 10) + 0xD800).toUInt16.toNat
      = 0xD800 + (c.toNat - 0x10000) / 0x400 := by
    simp only [UInt32.toNat_toUInt16, UInt32.toNat_add, UInt32.toNat_shiftRight, hsub,
      UInt32.reduceToNat, Nat.reduceMod, Nat.shiftRight_eq_div_pow]
    omega
  have hv : (((c.val - 0x10000) &&& 0x3FF) + 0xDC00).toUInt16.toNat
      = 0xDC00 + (c.toNat - 0x10000) % 0x400 := by
    have hand : (c.toNat - 0x10000) &&& 0x3FF = (c.toNat - 0x10000) % 0x400 :=
      Nat.and_two_pow_sub_one_eq_mod _ 10
    simp only [UInt32.toNat_toUInt16, UInt32.toNat_add, UInt32.toNat_and, hsub,
      UInt32.reduceToNat, hand]
    omega
  refine ⟨(((c.val - 0x10000) >>> 10) + 0xD800).toUInt16,
    (((c.val - 0x10000) &&& 0x3FF) + 0xDC00).toUInt16, ?_, isHigh_iff.mpr ?_, isLow_iff.mpr ?_, ?_⟩
  · rw [unitsOfChar, if_neg (UInt32.not_lt.mpr hle)]
  · rw [hu]
    omega
  · rw [hv]
    omega
  · -- Ten bits went into each unit, and the two halves make up the number again.
    rw [ofPair, hu, hv]
    refine (congrArg Char.ofNat ?_).trans (Char.ofNat_toNat c)
    omega

theorem decodeOnto_unitsOfChar (acc : List Char) (c : Char) (rest : List UInt16) :
    decodeOnto acc (unitsOfChar c ++ rest) = decodeOnto (c :: acc) rest := by
  by_cases h : c.toNat < 0x10000
  · obtain ⟨u, hu, hhigh, -, hc⟩ := unitsOfChar_of_lt h
    rw [hu, List.singleton_append, decodeOnto_single hhigh, hc]
  · obtain ⟨u, v, huv, hu, hv, hc⟩ := unitsOfChar_of_ge (Nat.le_of_not_lt h)
    rw [huv]
    show decodeOnto acc (u :: v :: rest) = _
    rw [decodeOnto_pair hu hv, hc]

theorem decodeOnto_encode (acc text : List Char) :
    decodeOnto acc (encode text) = acc.reverse ++ text := by
  induction text generalizing acc with
  | nil => simp [encode, decodeOnto]
  | cons c text ih =>
    rw [encode, List.flatMap_cons, decodeOnto_unitsOfChar]
    rw [← encode, ih, List.reverse_cons, List.append_assoc]
    rfl

theorem decodeLossy_encode (text : List Char) : decodeLossy (encode text) = text :=
  decodeOnto_encode [] text

end Utf16

/-! ### Groups -/

namespace ModifiedUtf8

variable {acc : List UInt16} {rest : Bytes}

/-- A later byte of a group: six bits behind the mark of a later byte. -/
theorem toNat_trail (w : UInt16) :
    ((w &&& 0x3F).toUInt8 ||| 0x80).toNat = 0x80 + w.toNat % 0x40 := by
  have hand : w.toNat &&& 0x3F = w.toNat % 0x40 := Nat.and_two_pow_sub_one_eq_mod _ 6
  have hor := Nat.two_pow_add_eq_or_of_lt (i := 7) (b := w.toNat % 0x40) (by omega) 1
  rw [UInt8.toNat_or, UInt16.toNat_toUInt8, UInt16.toNat_and]
  simp only [UInt16.reduceToNat, UInt8.reduceToNat, hand]
  rw [Nat.mod_eq_of_lt (by omega), Nat.or_comm]
  exact hor.symm

/-- The bits of a later byte. -/
theorem toNat_trailBits (b : UInt8) : (b &&& 0x3F).toUInt16.toNat = b.toNat % 0x40 := by
  rw [UInt8.toNat_toUInt16, UInt8.toNat_and]
  exact Nat.and_two_pow_sub_one_eq_mod _ 6

theorem isTrail_iff {b : UInt8} : isTrail b = true ↔ 0x80 ≤ b.toNat ∧ b.toNat ≤ 0xBF := by
  simp only [isTrail, Bool.and_eq_true, decide_eq_true_eq, UInt8.le_iff_toNat_le,
    UInt8.reduceToNat]

theorem isSingle_iff {b : UInt8} : isSingle b = true ↔ 0x01 ≤ b.toNat ∧ b.toNat ≤ 0x7F := by
  simp only [isSingle, Bool.and_eq_true, decide_eq_true_eq, UInt8.le_iff_toNat_le,
    UInt8.reduceToNat]

theorem isLeadOfTwo_iff {b : UInt8} : isLeadOfTwo b = true ↔ 0xC0 ≤ b.toNat ∧ b.toNat ≤ 0xDF := by
  simp only [isLeadOfTwo, Bool.and_eq_true, decide_eq_true_eq, UInt8.le_iff_toNat_le,
    UInt8.reduceToNat]

theorem isLeadOfThree_iff {b : UInt8} :
    isLeadOfThree b = true ↔ 0xE0 ≤ b.toNat ∧ b.toNat ≤ 0xEF := by
  simp only [isLeadOfThree, Bool.and_eq_true, decide_eq_true_eq, UInt8.le_iff_toNat_le,
    UInt8.reduceToNat]

theorem toNat_leadOfTwo {u : UInt16} (h : u.toNat < 0x800) :
    ((u >>> 6).toUInt8 ||| 0xC0).toNat = 0xC0 + u.toNat / 0x40 := by
  have hor := Nat.two_pow_add_eq_or_of_lt (i := 6) (b := u.toNat / 0x40) (by omega) 3
  rw [UInt8.toNat_or, UInt16.toNat_toUInt8, UInt16.toNat_shiftRight]
  simp only [UInt16.reduceToNat, UInt8.reduceToNat, Nat.reduceMod, Nat.shiftRight_eq_div_pow]
  rw [Nat.mod_eq_of_lt (by omega), Nat.or_comm]
  exact hor.symm

theorem toNat_leadOfThree (u : UInt16) :
    ((u >>> 12).toUInt8 ||| 0xE0).toNat = 0xE0 + u.toNat / 0x1000 := by
  have hu := u.toNat_lt
  have hor := Nat.two_pow_add_eq_or_of_lt (i := 5) (b := u.toNat / 0x1000) (by omega) 7
  rw [UInt8.toNat_or, UInt16.toNat_toUInt8, UInt16.toNat_shiftRight]
  simp only [UInt16.reduceToNat, UInt8.reduceToNat, Nat.reduceMod, Nat.shiftRight_eq_div_pow]
  rw [Nat.mod_eq_of_lt (by omega), Nat.or_comm]
  exact hor.symm

theorem toNat_unitOfTwo (a b : UInt8) :
    (unitOfTwo a b).toNat = a.toNat % 0x20 * 0x40 + b.toNat % 0x40 := by
  have hand : a.toNat &&& 0x1F = a.toNat % 0x20 := Nat.and_two_pow_sub_one_eq_mod _ 5
  have hor := Nat.two_pow_add_eq_or_of_lt (i := 6) (b := b.toNat % 0x40) (by omega)
    (a.toNat % 0x20)
  rw [unitOfTwo, UInt16.toNat_or, UInt16.toNat_shiftLeft, UInt8.toNat_toUInt16, UInt8.toNat_and,
    toNat_trailBits]
  simp only [UInt16.reduceToNat, UInt8.reduceToNat, Nat.reduceMod, Nat.shiftLeft_eq, hand]
  rw [Nat.mod_eq_of_lt (by omega), Nat.mul_comm]
  exact hor.symm

theorem toNat_unitOfThree (a b c : UInt8) :
    (unitOfThree a b c).toNat
      = a.toNat % 0x10 * 0x1000 + b.toNat % 0x40 * 0x40 + c.toNat % 0x40 := by
  have hand : a.toNat &&& 0x0F = a.toNat % 0x10 := Nat.and_two_pow_sub_one_eq_mod _ 4
  have ha : a.toNat % 0x10 * 2 ^ 12 % 2 ^ 16 = 2 ^ 12 * (a.toNat % 0x10) := by omega
  have hb : b.toNat % 0x40 * 2 ^ 6 % 2 ^ 16 = b.toNat % 0x40 * 2 ^ 6 := by omega
  -- The two lower groups of bits stay below the place where the next one begins.
  have hor := Nat.two_pow_add_eq_or_of_lt (i := 12) (b := b.toNat % 0x40 * 2 ^ 6) (by omega)
    (a.toNat % 0x10)
  have hor' := Nat.two_pow_add_eq_or_of_lt (i := 6) (b := c.toNat % 0x40) (by omega)
    (a.toNat % 0x10 * 0x40 + b.toNat % 0x40)
  have hsplit : 2 ^ 12 * (a.toNat % 0x10) + b.toNat % 0x40 * 2 ^ 6
      = 2 ^ 6 * (a.toNat % 0x10 * 0x40 + b.toNat % 0x40) := by omega
  rw [unitOfThree, UInt16.toNat_or, UInt16.toNat_or, UInt16.toNat_shiftLeft,
    UInt16.toNat_shiftLeft, UInt8.toNat_toUInt16, UInt8.toNat_and, toNat_trailBits,
    toNat_trailBits]
  simp only [UInt16.reduceToNat, UInt8.reduceToNat, Nat.reduceMod, Nat.shiftLeft_eq, hand]
  rw [ha, hb, ← hor, hsplit, ← hor']
  omega

/-! ### Reading groups -/

theorem unitsOnto_one {a : UInt8} (ha : isSingle a = true) :
    unitsOnto acc (a :: rest) = unitsOnto (a.toUInt16 :: acc) rest := by
  rw [unitsOnto.eq_def]
  simp only [ha, if_true]

theorem unitsOnto_two {a b : UInt8} (ha : isLeadOfTwo a = true) (hb : isTrail b = true) :
    unitsOnto acc (a :: b :: rest) = unitsOnto (unitOfTwo a b :: acc) rest := by
  have hsingle : ¬ isSingle a = true := by
    rw [isLeadOfTwo_iff] at ha
    rw [isSingle_iff]
    omega
  rw [unitsOnto, if_neg hsingle, if_pos ha]
  simp only [hb, if_true]

theorem unitsOnto_three {a b c : UInt8} (ha : isLeadOfThree a = true) (hb : isTrail b = true)
    (hc : isTrail c = true) :
    unitsOnto acc (a :: b :: c :: rest) = unitsOnto (unitOfThree a b c :: acc) rest := by
  have hlead := isLeadOfThree_iff.mp ha
  have hsingle : ¬ isSingle a = true := by
    rw [isSingle_iff]
    omega
  have htwo : ¬ isLeadOfTwo a = true := by
    rw [isLeadOfTwo_iff]
    omega
  rw [unitsOnto, if_neg hsingle, if_neg htwo, if_pos ha]
  simp only [hb, hc, Bool.and_self, if_true]

/-- The group of a unit is read as that unit. -/
theorem unitsOnto_groupOfUnit (acc : List UInt16) (u : UInt16) (rest : Bytes) :
    unitsOnto acc (groupOfUnit u ++ rest) = unitsOnto (u :: acc) rest := by
  have hu := u.toNat_lt
  rw [groupOfUnit]
  simp only [Bool.and_eq_true, decide_eq_true_eq, UInt16.le_iff_toNat_le, UInt16.reduceToNat]
  split
  · -- One byte.
    rename_i h
    have hbyte : u.toUInt8.toNat = u.toNat := by
      rw [UInt16.toNat_toUInt8]
      omega
    have hsingle : isSingle u.toUInt8 = true := by
      rw [isSingle_iff, hbyte]
      omega
    have hunit : u.toUInt8.toUInt16 = u := by
      rw [← UInt16.toNat_inj, UInt8.toNat_toUInt16, hbyte]
    rw [List.singleton_append, unitsOnto_one hsingle, hunit]
  · split
    · -- Two bytes; the bytes are named so that arithmetic sees only their values.
      rename_i hnot h
      have hlead := toNat_leadOfTwo (u := u) (by omega)
      have htrail := toNat_trail u
      generalize (u >>> 6).toUInt8 ||| 0xC0 = a at hlead
      generalize (u &&& 0x3F).toUInt8 ||| 0x80 = b at htrail
      have hunit : unitOfTwo a b = u := by
        rw [← UInt16.toNat_inj, toNat_unitOfTwo]
        omega
      show unitsOnto acc (a :: b :: rest) = _
      rw [unitsOnto_two (isLeadOfTwo_iff.mpr (by omega)) (isTrail_iff.mpr (by omega)), hunit]
    · -- Three bytes, in the same way.
      have hlead := toNat_leadOfThree u
      have hmiddle := toNat_trail (u >>> 6)
      have htrail := toNat_trail u
      simp only [UInt16.toNat_shiftRight, UInt16.reduceToNat, Nat.reduceMod,
        Nat.shiftRight_eq_div_pow] at hmiddle
      generalize (u >>> 12).toUInt8 ||| 0xE0 = a at hlead
      generalize (u >>> 6 &&& 0x3F).toUInt8 ||| 0x80 = b at hmiddle
      generalize (u &&& 0x3F).toUInt8 ||| 0x80 = c at htrail
      have hunit : unitOfThree a b c = u := by
        rw [← UInt16.toNat_inj, toNat_unitOfThree]
        omega
      show unitsOnto acc (a :: b :: c :: rest) = _
      rw [unitsOnto_three (isLeadOfThree_iff.mpr (by omega)) (isTrail_iff.mpr (by omega))
        (isTrail_iff.mpr (by omega)), hunit]

theorem unitsOnto_groups (acc units : List UInt16) :
    unitsOnto acc (units.flatMap groupOfUnit) = some (acc.reverse ++ units) := by
  induction units generalizing acc with
  | nil => simp [unitsOnto]
  | cons u units ih =>
    rw [List.flatMap_cons, unitsOnto_groupOfUnit, ih, List.reverse_cons, List.append_assoc]
    rfl

/-! ### Texts -/

/-- A spelled text is read back. -/
theorem decode?_encode (text : String) : decode? (encode text) = some text := by
  rw [decode?, units?, encode, unitsOnto_groups, List.reverse_nil, List.nil_append,
    Option.map_some, Utf16.decodeLossy_encode, String.ofList_toList]

/-- No two texts are spelled alike. -/
theorem encode_inj {s t : String} : encode s = encode t ↔ s = t := by
  constructor
  · intro h
    have hdecode := decode?_encode s
    rw [h, decode?_encode] at hdecode
    exact (Option.some.inj hdecode).symm
  · intro h
    rw [h]

/-- No group has a zero byte in it, nor a byte from `F0` on. -/
theorem mem_groupOfUnit {u : UInt16} {b : UInt8} (h : b ∈ groupOfUnit u) :
    b ≠ 0x00 ∧ b < 0xF0 := by
  have hu := u.toNat_lt
  suffices hb : 0 < b.toNat ∧ b.toNat < 0xF0 by
    refine ⟨fun hzero => ?_, UInt8.lt_iff_toNat_lt.mpr hb.2⟩
    rw [hzero] at hb
    exact absurd hb.1 (by decide)
  rw [groupOfUnit] at h
  simp only [Bool.and_eq_true, decide_eq_true_eq, UInt16.le_iff_toNat_le, UInt16.reduceToNat] at h
  split at h
  · -- One byte, which is the unit.
    rename_i hunit
    rw [List.mem_singleton] at h
    rw [h, UInt16.toNat_toUInt8]
    omega
  · split at h
    · -- Two bytes, from `C2` or the `C0` of U+0000 on.
      rename_i hunit
      have hlead := toNat_leadOfTwo (u := u) (by omega)
      have htrail := toNat_trail u
      simp only [List.mem_cons, List.not_mem_nil, or_false] at h
      rcases h with rfl | rfl
      · omega
      · omega
    · -- Three bytes, of which the first has room for four bits of the unit.
      have hlead := toNat_leadOfThree u
      have hmiddle := toNat_trail (u >>> 6)
      have htrail := toNat_trail u
      simp only [List.mem_cons, List.not_mem_nil, or_false] at h
      rcases h with rfl | rfl | rfl
      · omega
      · omega
      · omega

theorem mem_encode {text : String} {b : UInt8} (h : b ∈ encode text) : b ≠ 0x00 ∧ b < 0xF0 := by
  rw [encode, List.mem_flatMap] at h
  obtain ⟨u, -, hb⟩ := h
  exact mem_groupOfUnit hb

/-! ### Plain texts -/

/-- Only characters of ASCII are written in bytes that stand for themselves. -/
theorem toNat_of_plain {c : Char} (h : ∀ b ∈ String.utf8EncodeChar c, isSingle b = true) :
    0 < c.toNat ∧ c.toNat < 0x80 := by
  have hc : c.toNat < 0xD800 ∨ 0xDFFF < c.toNat ∧ c.toNat < 0x110000 := c.valid
  have hval : c.val.toNat = c.toNat := rfl
  have hfirst : ∀ n ∈ (String.utf8EncodeChar c).head?.map UInt8.toNat, 1 ≤ n ∧ n ≤ 0x7F := by
    intro n hn
    obtain ⟨b, hb, rfl⟩ := Option.map_eq_some_iff.mp hn
    exact isSingle_iff.mp (h b (List.mem_of_mem_head? hb))
  -- Every longer form starts with a byte from `C0` on.
  simp only [String.utf8EncodeChar, hval] at hfirst
  split at hfirst
  · simp [UInt8.toNat_ofNat'] at hfirst
    omega
  · split at hfirst
    · simp [UInt8.toNat_ofNat'] at hfirst
      omega
    · split at hfirst
      · simp [UInt8.toNat_ofNat'] at hfirst
        omega
      · simp [UInt8.toNat_ofNat'] at hfirst
        omega

/-- Such a character is a single unit, and the group of this unit is the byte. -/
theorem groups_of_plain {c : Char} (h : ∀ b ∈ String.utf8EncodeChar c, isSingle b = true) :
    (Utf16.unitsOfChar c).flatMap groupOfUnit = String.utf8EncodeChar c := by
  obtain ⟨hpos, hlt⟩ := toNat_of_plain h
  have hval : c.val.toNat = c.toNat := rfl
  have hunit : c.val.toUInt16.toNat = c.toNat := by
    rw [UInt32.toNat_toUInt16, hval]
    omega
  have hgroup : groupOfUnit c.val.toUInt16 = [c.val.toUInt16.toUInt8] := by
    rw [groupOfUnit, if_pos]
    simp only [Bool.and_eq_true, decide_eq_true_eq, UInt16.le_iff_toNat_le, UInt16.reduceToNat,
      hunit]
    omega
  have hsmall : c.val < 0x10000 := UInt32.lt_iff_toNat_lt.mpr (Nat.lt_trans hlt (by decide))
  have hsize : c.utf8Size = 1 :=
    Char.utf8Size_eq_one_iff.mpr (UInt32.le_iff_toNat_le.mpr (Nat.le_of_lt_succ hlt))
  rw [Utf16.unitsOfChar, if_pos hsmall, List.flatMap_singleton, hgroup, UInt32.toUInt8_toUInt16,
    String.utf8EncodeChar_eq_singleton hsize]

theorem utf8EncodeChar_ofUInt8 {b : UInt8} (h : isSingle b = true) :
    String.utf8EncodeChar (Char.ofUInt8 b) = [b] := by
  have hval : (Char.ofUInt8 b).val = b.toUInt32 := rfl
  have hsize : (Char.ofUInt8 b).utf8Size = 1 := by
    rw [Char.utf8Size_eq_one_iff, hval, UInt32.le_iff_toNat_le, UInt8.toNat_toUInt32]
    exact (isSingle_iff.mp h).2
  rw [String.utf8EncodeChar_eq_singleton hsize, hval, UInt8.toUInt8_toUInt32]

/-- A text that UTF-8 writes in bytes that stand for themselves is spelled by those bytes. -/
theorem encode_of_plain {text : String} (h : ∀ b ∈ Bytes.ofText text, isSingle b = true) :
    encode text = Bytes.ofText text := by
  rw [Bytes.ofText_eq] at h ⊢
  rw [encode, Utf16.encode, List.flatMap_assoc]
  refine List.flatMap_congr fun c hc => groups_of_plain fun b hb => ?_
  exact h b (List.mem_flatMap.mpr ⟨c, hc, hb⟩)

/-- Bytes that stand for themselves are the UTF-8 form of a text. -/
theorem ofText_map_ofUInt8 {bytes : Bytes} (h : ∀ b ∈ bytes, isSingle b = true) :
    Bytes.ofText (String.ofList (bytes.map Char.ofUInt8)) = bytes := by
  have hbytes : bytes.flatMap (fun b => String.utf8EncodeChar (Char.ofUInt8 b)) =
      bytes.flatMap fun b => [b] :=
    List.flatMap_congr fun b hb => utf8EncodeChar_ofUInt8 (h b hb)
  rw [Bytes.ofText_eq, String.toList_ofList, List.flatMap_map, hbytes, List.flatMap_singleton']

/-- They are read as that text. -/
theorem decode?_of_plain {bytes : Bytes} (h : ∀ b ∈ bytes, isSingle b = true) :
    ∃ text, decode? bytes = some text ∧ Bytes.ofText text = bytes := by
  have hutf8 := ofText_map_ofUInt8 h
  refine ⟨String.ofList (bytes.map Char.ofUInt8), ?_, hutf8⟩
  have hdecode := decode?_encode (String.ofList (bytes.map Char.ofUInt8))
  rwa [encode_of_plain (by rwa [hutf8]), hutf8] at hdecode

/-! ### All texts -/

/-- **Modified UTF-8 loses no text.**  Every text is read back from its spelling, so no two texts
are spelled alike; and no spelling has a zero byte in it, nor a byte from `F0` on.  Where all bytes
stand for themselves the UTF-8 form will do: such a text is spelled by it, and bytes of this kind
are read as the text that has them for its form. -/
theorem encode_lossless :
    (∀ text, decode? (encode text) = some text) ∧ Function.Injective encode ∧
      (∀ text, ∀ b ∈ encode text, b ≠ 0x00 ∧ b < 0xF0) ∧
      (∀ text, (∀ b ∈ Bytes.ofText text, isSingle b = true) → encode text = Bytes.ofText text) ∧
      ∀ bytes, (∀ b ∈ bytes, isSingle b = true) →
        ∃ text, decode? bytes = some text ∧ Bytes.ofText text = bytes :=
  ⟨decode?_encode, fun _ _ h => encode_inj.mp h, fun _ _ hb => mem_encode hb,
    fun _ h => encode_of_plain h, fun _ h => decode?_of_plain h⟩

-- U+0000, the last character of each shorter form, and a pair of surrogates.
example :
    encode "\x00\x7F߿\uFFFF😀" =
      [0xC0, 0x80, 0x7F, 0xDF, 0xBF, 0xEF, 0xBF, 0xBF, 0xED, 0xA0, 0xBD, 0xED, 0xB8, 0x80] := by
  decide +kernel

end ModifiedUtf8

end ClassOrigin
