/-
Percent encoding and back.

Letters, digits and four marks stand for themselves, and every other byte is written as a percent
sign and two hexadecimal digits, in capitals or not.

* **`Encodes`** — the spellings of a byte string, and **`encode`** one of them;
* **`decode_of_encodes`** — a spelling is decoded to what it spells;
* **`mem_of_encodes`** — it has no bytes but percent signs and those that stand for themselves.
-/
import ClassOrigin.Text.Percent
import Mathlib.Data.List.Basic

namespace ClassOrigin.Percent

variable {b high low : UInt8} {spelling bytes : Bytes}

/-! ### Spellings -/

/-- A letter, a digit, or one of `-`, `_`, `~` and `.`. -/
def isUnreserved (b : UInt8) : Bool :=
  (0x30 ≤ b && b ≤ 0x39) || (0x41 ≤ b && b ≤ 0x5A) || (0x61 ≤ b && b ≤ 0x7A) || b == 0x2D ||
    b == 0x5F || b == 0x7E || b == 0x2E

/-- The first byte string is a spelling of the second. -/
inductive Encodes : Bytes → Bytes → Prop
  | nil : Encodes [] []
  | itself {b : UInt8} {spelling bytes : Bytes} (h : isUnreserved b = true)
      (hrest : Encodes spelling bytes) : Encodes (b :: spelling) (b :: bytes)
  | escaped {b high low : UInt8} {spelling bytes : Bytes} (h : isUnreserved b = false)
      (hhigh : hexValue? high = some (b / 16)) (hlow : hexValue? low = some (b % 16))
      (hrest : Encodes spelling bytes) : Encodes (0x25 :: high :: low :: spelling) (b :: bytes)

theorem isUnreserved_iff :
    isUnreserved b = true ↔
      0x30 ≤ b.toNat ∧ b.toNat ≤ 0x39 ∨ 0x41 ≤ b.toNat ∧ b.toNat ≤ 0x5A ∨
        0x61 ≤ b.toNat ∧ b.toNat ≤ 0x7A ∨ b.toNat = 0x2D ∨ b.toNat = 0x5F ∨ b.toNat = 0x7E ∨
        b.toNat = 0x2E := by
  simp [isUnreserved, UInt8.le_iff_toNat_le, ← UInt8.toNat_inj, or_assoc]

/-- The digit of a number below 16, in capitals. -/
def hexDigit (n : UInt8) : UInt8 :=
  if n < 10 then 0x30 + n else 0x37 + n

/-- The spelling with capitals. -/
def encode (bytes : Bytes) : Bytes :=
  bytes.flatMap fun b =>
    if isUnreserved b then [b] else [0x25, hexDigit (b / 16), hexDigit (b % 16)]

theorem hexValue?_hexDigit (h : b < 16) : hexValue? (hexDigit b) = some b := by
  have hcases : ∀ n : Fin 16, hexValue? (hexDigit (UInt8.ofNat n)) = some (UInt8.ofNat n) := by
    decide
  simpa using hcases ⟨b.toNat, h⟩

theorem encodes_encode : ∀ bytes : Bytes, Encodes (encode bytes) bytes
  | [] => .nil
  | b :: bytes => by
    have hrest := encodes_encode bytes
    rw [encode, List.flatMap_cons]
    split
    · exact .itself ‹_› hrest
    · rename_i h
      have hbyte := b.toNat_lt
      have hhigh : b / 16 < 16 := by
        simp only [UInt8.lt_iff_toNat_lt, UInt8.toNat_div, UInt8.reduceToNat]
        omega
      have hlow : b % 16 < 16 := by
        simp only [UInt8.lt_iff_toNat_lt, UInt8.toNat_mod, UInt8.reduceToNat]
        omega
      exact .escaped (eq_false_of_ne_true h) (hexValue?_hexDigit hhigh)
        (hexValue?_hexDigit hlow) hrest

/-! ### Decoding -/

theorem decodeOnto_itself (acc : Bytes) (h : b ≠ 0x25) (rest : Bytes) :
    decodeOnto acc (b :: rest) = decodeOnto (b :: acc) rest := by
  rw [decodeOnto]
  rintro high low rest' rfl
  exact absurd rfl h

theorem decodeOnto_escaped (acc : Bytes) {x y : UInt8} (hhigh : hexValue? high = some x)
    (hlow : hexValue? low = some y) (rest : Bytes) :
    decodeOnto acc (0x25 :: high :: low :: rest) = decodeOnto ((x * 16 + y) :: acc) rest := by
  rw [decodeOnto, hhigh, hlow]

theorem div_mul_add_mod (b : UInt8) : b / 16 * 16 + b % 16 = b := by
  have hbyte := b.toNat_lt
  simp only [← UInt8.toNat_inj, UInt8.toNat_add, UInt8.toNat_mul, UInt8.toNat_div, UInt8.toNat_mod,
    UInt8.reduceToNat]
  omega

theorem decodeOnto_of_encodes (h : Encodes spelling bytes) (acc : Bytes) :
    decodeOnto acc spelling = acc.reverse ++ bytes := by
  induction h generalizing acc with
  | nil => simp [decodeOnto]
  | itself h _ ih =>
    rw [decodeOnto_itself acc (by rintro rfl; cases h), ih]
    simp
  | escaped _ hhigh hlow _ ih =>
    rw [decodeOnto_escaped acc hhigh hlow, div_mul_add_mod, ih]
    simp

/-- What a spelling is decoded to. -/
theorem decode_of_encodes (h : Encodes spelling bytes) : decode spelling = bytes :=
  decodeOnto_of_encodes h []

/-! ### The bytes of a spelling -/

theorem isUnreserved_of_hexValue? {x : UInt8} (h : hexValue? b = some x) :
    isUnreserved b = true := by
  rw [isUnreserved_iff]
  simp only [hexValue?, UInt8.le_iff_toNat_le, UInt8.reduceToNat] at h
  split at h
  · omega
  · split at h
    · omega
    · split at h
      · omega
      · cases h

theorem mem_of_encodes (h : Encodes spelling bytes) (hb : b ∈ spelling) :
    isUnreserved b = true ∨ b = 0x25 := by
  induction h with
  | nil => cases hb
  | itself h _ ih =>
    rcases List.mem_cons.mp hb with rfl | hb
    · exact .inl h
    · exact ih hb
  | escaped _ hhigh hlow _ ih =>
    simp only [List.mem_cons] at hb
    rcases hb with rfl | rfl | rfl | hb
    · exact .inr rfl
    · exact .inl (isUnreserved_of_hexValue? hhigh)
    · exact .inl (isUnreserved_of_hexValue? hlow)
    · exact ih hb

end ClassOrigin.Percent
