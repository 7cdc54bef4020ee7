/-
Words and their bytes determine each other.

Words are cut and joined by shifts.  Read as natural numbers, a shift by a byte is a division or
a multiplication by 256, and both directions become arithmetic:

* **`ofWord16_word16`**, **`ofWord32_word32`**, **`ofWord64_word64`** — the bytes of the word
  that some bytes spell are those bytes;
* **`word16_ofWord16`**, **`word32_ofWord32`**, **`word64_ofWord64`** — the word that the bytes
  of a word spell is that word;
* **`take?_eq_some`** — a counted block is taken off exactly where it stands in front.
-/
import ClassOrigin.Bytes

namespace ClassOrigin.Bytes

/-! ### Words as numbers -/

theorem toNat_word16 (a b : UInt8) : (word16 a b).toNat = a.toNat * 256 + b.toNat := by
  have ha := a.toNat_lt
  have hb := b.toNat_lt
  rw [word16, UInt16.toNat_or, UInt16.toNat_shiftLeft]
  simp only [UInt8.toNat_toUInt16, UInt16.reduceToNat, Nat.reduceMod, Nat.shiftLeft_eq]
  rw [Nat.mod_eq_of_lt (by omega), Nat.mul_comm]
  exact (Nat.two_pow_add_eq_or_of_lt (i := 8) hb a.toNat).symm

theorem toNat_word32 (a b c d : UInt8) :
    (word32 a b c d).toNat = (word16 a b).toNat * 65536 + (word16 c d).toNat := by
  have hab := (word16 a b).toNat_lt
  have hcd := (word16 c d).toNat_lt
  rw [word32, UInt32.toNat_or, UInt32.toNat_shiftLeft]
  simp only [UInt16.toNat_toUInt32, UInt32.reduceToNat, Nat.reduceMod, Nat.shiftLeft_eq]
  rw [Nat.mod_eq_of_lt (by omega), Nat.mul_comm]
  exact (Nat.two_pow_add_eq_or_of_lt (i := 16) hcd _).symm

theorem toNat_word64 (a b c d e f g h : UInt8) :
    (word64 a b c d e f g h).toNat
      = (word32 a b c d).toNat * 4294967296 + (word32 e f g h).toNat := by
  have hhigh := (word32 a b c d).toNat_lt
  have hlow := (word32 e f g h).toNat_lt
  rw [word64, UInt64.toNat_or, UInt64.toNat_shiftLeft]
  simp only [UInt32.toNat_toUInt64, UInt64.reduceToNat, Nat.reduceMod, Nat.shiftLeft_eq]
  rw [Nat.mod_eq_of_lt (by omega), Nat.mul_comm]
  exact (Nat.two_pow_add_eq_or_of_lt (i := 32) hlow _).symm

/-! ### From bytes to bytes -/

theorem ofWord16_word16 (a b : UInt8) : ofWord16 (word16 a b) = [a, b] := by
  have ha := a.toNat_lt
  have hb := b.toNat_lt
  rw [ofWord16, List.cons.injEq, List.cons.injEq, ← UInt8.toNat_inj, ← UInt8.toNat_inj]
  simp only [UInt16.toNat_toUInt8, UInt16.toNat_shiftRight, UInt16.reduceToNat, Nat.reduceMod,
    Nat.shiftRight_eq_div_pow, toNat_word16, and_true]
  omega

theorem ofWord32_word32 (a b c d : UInt8) : ofWord32 (word32 a b c d) = [a, b, c, d] := by
  have ha := a.toNat_lt
  have hb := b.toNat_lt
  have hc := c.toNat_lt
  have hd := d.toNat_lt
  rw [ofWord32, List.cons.injEq, List.cons.injEq, List.cons.injEq, List.cons.injEq]
  simp only [← UInt8.toNat_inj, UInt32.toNat_toUInt8, UInt32.toNat_shiftRight, UInt32.reduceToNat,
    Nat.reduceMod, Nat.shiftRight_eq_div_pow, toNat_word32, toNat_word16, and_true]
  omega

theorem ofWord64_word64 (a b c d e f g h : UInt8) :
    ofWord64 (word64 a b c d e f g h) = [a, b, c, d, e, f, g, h] := by
  have hhigh := (word32 a b c d).toNat_lt
  have hlow := (word32 e f g h).toNat_lt
  -- the two halves of the word are the words of the two halves
  have hh : (word64 a b c d e f g h >>> 32).toUInt32 = word32 a b c d := by
    rw [← UInt32.toNat_inj]
    simp only [UInt64.toNat_toUInt32, UInt64.toNat_shiftRight, UInt64.reduceToNat, Nat.reduceMod,
      Nat.shiftRight_eq_div_pow, toNat_word64]
    omega
  have hl : (word64 a b c d e f g h).toUInt32 = word32 e f g h := by
    rw [← UInt32.toNat_inj]
    simp only [UInt64.toNat_toUInt32, toNat_word64]
    omega
  rw [ofWord64, hh, hl, ofWord32_word32, ofWord32_word32]
  rfl

/-! ### From words to words -/

theorem word16_ofWord16 (w : UInt16) : word16 (w >>> 8).toUInt8 w.toUInt8 = w := by
  have hw := w.toNat_lt
  rw [← UInt16.toNat_inj, toNat_word16]
  simp only [UInt16.toNat_toUInt8, UInt16.toNat_shiftRight, UInt16.reduceToNat, Nat.reduceMod,
    Nat.shiftRight_eq_div_pow]
  omega

theorem word32_ofWord32 (w : UInt32) :
    word32 (w >>> 24).toUInt8 (w >>> 16).toUInt8 (w >>> 8).toUInt8 w.toUInt8 = w := by
  have hw := w.toNat_lt
  rw [← UInt32.toNat_inj, toNat_word32, toNat_word16, toNat_word16]
  simp only [UInt32.toNat_toUInt8, UInt32.toNat_shiftRight, UInt32.reduceToNat, Nat.reduceMod,
    Nat.shiftRight_eq_div_pow]
  omega

theorem word64_ofWord64 (w : UInt64) {a b c d e f g h : UInt8}
    (hw : ofWord64 w = [a, b, c, d, e, f, g, h]) : word64 a b c d e f g h = w := by
  have hlt := w.toNat_lt
  simp only [ofWord64, ofWord32, List.cons_append, List.nil_append, List.cons.injEq,
    and_true] at hw
  obtain ⟨rfl, rfl, rfl, rfl, rfl, rfl, rfl, rfl⟩ := hw
  rw [← UInt64.toNat_inj, toNat_word64, word32_ofWord32, word32_ofWord32]
  simp only [UInt64.toNat_toUInt32, UInt64.toNat_shiftRight, UInt64.reduceToNat, Nat.reduceMod,
    Nat.shiftRight_eq_div_pow]
  omega

@[simp] theorem length_ofWord16 (w : UInt16) : (ofWord16 w).length = 2 := rfl

theorem ofWord16_inj {v w : UInt16} : ofWord16 v = ofWord16 w ↔ v = w := by
  constructor
  · intro h
    rw [ofWord16, ofWord16, List.cons.injEq, List.cons.injEq] at h
    obtain ⟨hhigh, hlow, -⟩ := h
    rw [← word16_ofWord16 v, ← word16_ofWord16 w, hhigh, hlow]
  · rintro rfl
    rfl

/-! ### Counted blocks -/

theorem takeOnto_eq_some {acc taken rest : Bytes} : ∀ {n : Nat} {bytes : Bytes},
    takeOnto acc n bytes = some (taken, rest) ↔
      ∃ front, front.length = n ∧ taken = acc.reverse ++ front ∧ bytes = front ++ rest := by
  intro n
  induction n generalizing acc with
  | zero =>
    intro bytes
    simp only [takeOnto, Option.some.injEq, Prod.mk.injEq, List.length_eq_zero_iff]
    constructor
    · rintro ⟨rfl, rfl⟩
      exact ⟨[], rfl, by simp, rfl⟩
    · rintro ⟨front, rfl, rfl, rfl⟩
      exact ⟨by simp, rfl⟩
  | succ n ih =>
    intro bytes
    cases bytes with
    | nil =>
      simp only [takeOnto, reduceCtorEq, false_iff]
      rintro ⟨front, hlen, -, hnil⟩
      have : front = [] := (List.append_eq_nil_iff.mp hnil.symm).1
      rw [this] at hlen
      exact absurd hlen (by simp)
    | cons b bytes =>
      rw [takeOnto, ih]
      constructor
      · rintro ⟨front, hlen, htaken, rfl⟩
        exact ⟨b :: front, by simp [hlen], by simp [htaken], rfl⟩
      · rintro ⟨front, hlen, htaken, hbytes⟩
        rcases front with _ | ⟨b', front⟩
        · exact absurd hlen (by simp)
        · obtain ⟨rfl, rfl⟩ := List.cons.inj hbytes
          exact ⟨front, by simpa using hlen, by simp [htaken], rfl⟩

theorem take?_eq_some {n : Nat} {bytes taken rest : Bytes} :
    take? n bytes = some (taken, rest) ↔ taken.length = n ∧ bytes = taken ++ rest := by
  rw [take?, takeOnto_eq_some]
  simp only [List.reverse_nil, List.nil_append]
  constructor
  · rintro ⟨front, hlen, rfl, hbytes⟩
    exact ⟨hlen, hbytes⟩
  · rintro ⟨hlen, hbytes⟩
    exact ⟨taken, hlen, rfl, hbytes⟩

end ClassOrigin.Bytes
