/-
Surrogates in UTF-16.

A pair of surrogates is one character and any other unit is one as well, U+FFFD if it is a
surrogate that is not in a pair:

* **`Reads`** — what the units say, unit by unit and pair by pair;
* **`reads_iff`** — decoding gives the text that the units say, and they say no other;
* **`Paired`** — units in which every surrogate is in a pair;
* **`encode_decodeLossy_iff`** — these are the units that are written again when they are read.
-/
import ClassOrigin.Proofs.TextCodec

namespace ClassOrigin.Utf16

/-! ### What units say -/

/-- A surrogate, of either half. -/
def IsSurrogate (u : UInt16) : Prop :=
  0xD800 ≤ u.toNat ∧ u.toNat < 0xE000

/-- The text that units say, with U+FFFD for each surrogate that is not in a pair. -/
inductive Reads : List UInt16 → List Char → Prop
  | nil : Reads [] []
  | unit {u c units text} (hc : c.toNat = u.toNat) (h : Reads units text) :
      Reads (u :: units) (c :: text)
  | pair {u v c units text} (hu : isHigh u) (hv : isLow v)
      (hc : c.toNat = 0x10000 + (u.toNat - 0xD800) * 0x400 + (v.toNat - 0xDC00))
      (h : Reads units text) : Reads (u :: v :: units) (c :: text)
  | unpaired {u units text} (hu : IsSurrogate u) (hnext : ¬ (isHigh u ∧ units.head?.any isLow))
      (h : Reads units text) : Reads (u :: units) ('\uFFFD' :: text)

/-- Units in which every surrogate is in a pair. -/
inductive Paired : List UInt16 → Prop
  | nil : Paired []
  | unit {u units} (hu : ¬ IsSurrogate u) (h : Paired units) : Paired (u :: units)
  | pair {u v units} (hu : isHigh u) (hv : isLow v) (h : Paired units) : Paired (u :: v :: units)

variable {u v : UInt16} {c : Char} {units : List UInt16} {text : List Char}

theorem isSurrogate_iff : IsSurrogate u ↔ isHigh u ∨ isLow u := by
  rw [isHigh_iff, isLow_iff, IsSurrogate]
  omega

theorem toNat_ofUnit (h : ¬ IsSurrogate u) : (ofUnit u).toNat = u.toNat := by
  have hu := u.toNat_lt
  rw [ofUnit, if_neg (by rwa [Bool.or_eq_true, ← isSurrogate_iff])]
  refine toNat_ofNat_of_isValidChar ?_
  rw [IsSurrogate] at h
  rw [Nat.isValidChar]
  omega

theorem ofUnit_of_isSurrogate (h : IsSurrogate u) : ofUnit u = '\uFFFD' := by
  rw [ofUnit, if_pos (by rwa [Bool.or_eq_true, ← isSurrogate_iff])]

theorem toNat_ofPair (hu : isHigh u) (hv : isLow v) :
    (ofPair u v).toNat = 0x10000 + (u.toNat - 0xD800) * 0x400 + (v.toNat - 0xDC00) := by
  rw [isHigh_iff] at hu
  rw [isLow_iff] at hv
  refine toNat_ofNat_of_isValidChar ?_
  rw [Nat.isValidChar]
  omega

/-! ### Decoding -/

/-- What was decoded before stays in front. -/
theorem decodeOnto_append (acc front : List Char) (units : List UInt16) :
    decodeOnto (acc ++ front) units = front.reverse ++ decodeOnto acc units := by
  fun_induction decodeOnto acc units with
  | case1 acc => simp [decodeOnto]
  | case2 acc u => simp [decodeOnto]
  | case3 acc u v rest h ih =>
    rw [decodeOnto, if_pos h]
    exact ih
  | case4 acc u v rest h ih =>
    rw [decodeOnto, if_neg h]
    exact ih

theorem decodeOnto_eq (acc : List Char) (units : List UInt16) :
    decodeOnto acc units = acc.reverse ++ decodeLossy units :=
  decodeOnto_append [] acc units

theorem decodeLossy_pair (hu : isHigh u) (hv : isLow v) :
    decodeLossy (u :: v :: units) = ofPair u v :: decodeLossy units := by
  rw [decodeLossy, decodeOnto_pair hu hv, decodeOnto_eq]
  rfl

/-- A unit that is not the first of a pair is decoded on its own. -/
theorem decodeLossy_cons (h : ¬ (isHigh u ∧ units.head?.any isLow)) :
    decodeLossy (u :: units) = ofUnit u :: decodeLossy units := by
  rcases units with _ | ⟨v, units⟩
  · rfl
  · rw [decodeLossy, decodeOnto, if_neg (by simpa using h), decodeOnto_eq]
    rfl

/-- Decoding gives what the units say. -/
theorem reads_decodeLossy (units : List UInt16) : Reads units (decodeLossy units) := by
  match units with
  | [] => exact .nil
  | u :: units =>
    by_cases hpair : isHigh u ∧ units.head?.any isLow
    · obtain ⟨hu, hnext⟩ := hpair
      rcases units with _ | ⟨v, units⟩
      · cases hnext
      · rw [decodeLossy_pair hu hnext]
        exact .pair hu hnext (toNat_ofPair hu hnext) (reads_decodeLossy units)
    · rw [decodeLossy_cons hpair]
      by_cases hu : IsSurrogate u
      · rw [ofUnit_of_isSurrogate hu]
        exact .unpaired hu hpair (reads_decodeLossy units)
      · exact .unit (toNat_ofUnit hu) (reads_decodeLossy units)
termination_by units.length

/-- Units say one text. -/
theorem Reads.eq_decodeLossy (h : Reads units text) : text = decodeLossy units := by
  induction h with
  | nil => rfl
  | @unit u c units text hc _ ih =>
    -- No character has the number of a surrogate.
    have hvalid : c.toNat < 0xD800 ∨ 0xDFFF < c.toNat ∧ c.toNat < 0x110000 := c.valid
    have hu : ¬ IsSurrogate u := by
      rw [IsSurrogate]
      omega
    have hsame : c = ofUnit u := Char.toNat_inj.mp (hc.trans (toNat_ofUnit hu).symm)
    rw [decodeLossy_cons fun hpair => hu (isSurrogate_iff.mpr (.inl hpair.1)), hsame, ih]
  | pair hu hv hc _ ih =>
    rw [decodeLossy_pair hu hv, Char.toNat_inj.mp (hc.trans (toNat_ofPair hu hv).symm), ih]
  | unpaired hu hnext _ ih =>
    rw [decodeLossy_cons hnext, ofUnit_of_isSurrogate hu, ih]

theorem reads_iff : Reads units text ↔ text = decodeLossy units := by
  constructor
  · exact Reads.eq_decodeLossy
  · rintro rfl
    exact reads_decodeLossy units

/-! ### Paired surrogates -/

theorem paired_unitsOfChar (c : Char) (h : Paired units) : Paired (unitsOfChar c ++ units) := by
  by_cases hc : c.toNat < 0x10000
  · obtain ⟨u, hu, hhigh, hlow, -⟩ := unitsOfChar_of_lt hc
    rw [hu]
    exact .unit (by simp [isSurrogate_iff, hhigh, hlow]) h
  · obtain ⟨u, v, huv, hu, hv, -⟩ := unitsOfChar_of_ge (Nat.le_of_not_lt hc)
    rw [huv]
    exact .pair hu hv h

theorem paired_encode (text : List Char) : Paired (encode text) := by
  induction text with
  | nil => exact .nil
  | cons c text ih => exact paired_unitsOfChar c ih

theorem unitsOfChar_ofUnit (h : ¬ IsSurrogate u) : unitsOfChar (ofUnit u) = [u] := by
  have hu := u.toNat_lt
  have htoNat := toNat_ofUnit h
  obtain ⟨w, hw, hhigh, hlow, hsame⟩ := unitsOfChar_of_lt (c := ofUnit u) (by omega)
  have htoNat' := toNat_ofUnit (u := w) (by simp [isSurrogate_iff, hhigh, hlow])
  rw [hsame, htoNat] at htoNat'
  rw [hw, UInt16.toNat_inj.mp htoNat']

theorem unitsOfChar_ofPair (hu : isHigh u) (hv : isLow v) :
    unitsOfChar (ofPair u v) = [u, v] := by
  have htoNat := toNat_ofPair hu hv
  obtain ⟨x, y, hxy, hx, hy, hsame⟩ := unitsOfChar_of_ge (c := ofPair u v) (by omega)
  have htoNat' := toNat_ofPair hx hy
  rw [hsame, htoNat] at htoNat'
  rw [isHigh_iff] at hu hx
  rw [isLow_iff] at hv hy
  have hux : u = x := UInt16.toNat_inj.mp (by omega)
  have hvy : v = y := UInt16.toNat_inj.mp (by omega)
  rw [hxy, hux, hvy]

/-- Units are written again as they were read where every surrogate is in a pair. -/
theorem encode_decodeLossy_iff : encode (decodeLossy units) = units ↔ Paired units := by
  constructor
  · intro h
    exact h ▸ paired_encode _
  · intro h
    induction h with
    | nil => rfl
    | unit hu _ ih =>
      rw [decodeLossy_cons fun hpair => hu (isSurrogate_iff.mpr (.inl hpair.1)), encode,
        List.flatMap_cons, unitsOfChar_ofUnit hu, ← encode, ih]
      rfl
    | pair hu hv _ ih =>
      rw [decodeLossy_pair hu hv, encode, List.flatMap_cons, unitsOfChar_ofPair hu hv, ← encode, ih]
      rfl

end ClassOrigin.Utf16
