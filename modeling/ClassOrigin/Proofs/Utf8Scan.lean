/-
Reading UTF-8 one byte at a time.

The machine only ever adds to its pieces, and a byte of ASCII closes whatever form is open:

* **`foldl_utf8EncodeChar`** — the bytes of a character are read as that character;
* **`scan_ofText`** — so the form of a text is read as its characters, and nothing is ill-formed;
* **`scan_append_cons`** — what stands in front of a byte of ASCII is read on its own, and so is
  what stands behind it;
* **`mem_of_mem_scan`** — a character of ASCII is read from its own byte and from no longer form.
-/
import Mathlib.Data.List.Basic
import ClassOrigin.Text.Utf8

namespace ClassOrigin

theorem Bytes.ofText_eq (text : String) :
    Bytes.ofText text = text.toList.flatMap String.utf8EncodeChar := by
  have hutf8 : text.toUTF8 = (text.toList.flatMap String.utf8EncodeChar).toByteArray := by
    rw [String.toUTF8_eq_toByteArray, ← List.utf8Encode, String.utf8Encode_toList]
  rw [Bytes.ofText, hutf8, List.data_toByteArray]

theorem toNat_ofNat_of_isValidChar {n : Nat} (h : n.isValidChar) : (Char.ofNat n).toNat = n := by
  rw [Char.ofNat, dif_pos h]
  rfl

/-- A number that is no character stands for U+0000. -/
theorem toNat_ofNat_of_pos {n : Nat} (h : 0 < (Char.ofNat n).toNat) :
    (Char.ofNat n).toNat = n := by
  by_cases hvalid : n.isValidChar
  · exact toNat_ofNat_of_isValidChar hvalid
  · rw [Char.ofNat, dif_neg hvalid] at h
    exact absurd h (by decide)

namespace Utf8

variable {b : UInt8} {c : Char} {form : Pending} {s : State} {front back bytes : Bytes}
  {pieces : List (Option Char)}

/-! ### Bytes in first position -/

theorem lead_of_lt (h : b.toNat < 0x80) : lead b = .character (Char.ofNat b.toNat) := by
  rw [lead, if_pos (UInt8.lt_iff_toNat_lt.mpr h)]

/-- The lead of a form of two bytes. -/
theorem lead_two (h : 0xC2 ≤ b.toNat) (h' : b.toNat < 0xE0) :
    lead b = .opens ⟨b.toNat % 0x20, 1, 0x80, 0xBF⟩ := by
  simp only [lead, UInt8.lt_iff_toNat_lt, UInt8.reduceToNat]
  rw [if_neg (by omega), if_neg (by omega), if_pos h']

/-- The lead of a form of three bytes. The next byte is narrowed behind `E0` and `ED`. -/
theorem lead_three (h : 0xE0 ≤ b.toNat) (h' : b.toNat < 0xF0) :
    lead b = .opens ⟨b.toNat % 0x10, 2, if b.toNat = 0xE0 then 0xA0 else 0x80,
      if b.toNat = 0xED then 0x9F else 0xBF⟩ := by
  simp only [lead, UInt8.lt_iff_toNat_lt, ← UInt8.toNat_inj, UInt8.reduceToNat]
  rw [if_neg (by omega), if_neg (by omega), if_neg (by omega)]
  by_cases hE0 : b.toNat = 0xE0
  · simp [hE0]
  · by_cases hED : b.toNat = 0xED
    · simp [hED]
    · simp only [if_neg hE0, if_neg hED, if_pos h']

/-- The lead of a form of four bytes. The next byte is narrowed behind `F0` and `F4`. -/
theorem lead_four (h : 0xF0 ≤ b.toNat) (h' : b.toNat ≤ 0xF4) :
    lead b = .opens ⟨b.toNat % 0x08, 3, if b.toNat = 0xF0 then 0x90 else 0x80,
      if b.toNat = 0xF4 then 0x8F else 0xBF⟩ := by
  simp only [lead, UInt8.lt_iff_toNat_lt, ← UInt8.toNat_inj, UInt8.reduceToNat]
  rw [if_neg (by omega), if_neg (by omega), if_neg (by omega), if_neg (by omega),
    if_neg (by omega), if_neg (by omega)]
  by_cases hF0 : b.toNat = 0xF0
  · simp [hF0]
  · by_cases hF4 : b.toNat = 0xF4
    · simp [hF4]
    · have hlt : b.toNat < 0xF4 := by omega
      simp only [if_neg hF0, if_neg hF4, if_pos hlt]

theorem lead_eq_broken (h : 0x80 ≤ b.toNat ∧ b.toNat < 0xC2 ∨ 0xF4 < b.toNat) :
    lead b = .broken := by
  simp only [lead, UInt8.lt_iff_toNat_lt, ← UInt8.toNat_inj, UInt8.reduceToNat]
  rcases h with ⟨h, h'⟩ | h
  · rw [if_neg (by omega), if_pos h']
  · rw [if_neg (by omega), if_neg (by omega), if_neg (by omega), if_neg (by omega),
      if_neg (by omega), if_neg (by omega), if_neg (by omega), if_neg (by omega),
      if_neg (by omega)]

/-- Only a byte of ASCII is a character by itself. -/
theorem toNat_of_lead (h : lead b = .character c) : c.toNat = b.toNat := by
  obtain hb | hb | hb | hb | hb : b.toNat < 0x80 ∨ (0xC2 ≤ b.toNat ∧ b.toNat < 0xE0) ∨
      (0xE0 ≤ b.toNat ∧ b.toNat < 0xF0) ∨ (0xF0 ≤ b.toNat ∧ b.toNat ≤ 0xF4) ∨
      (0x80 ≤ b.toNat ∧ b.toNat < 0xC2 ∨ 0xF4 < b.toNat) := by omega
  · rw [lead_of_lt hb] at h
    cases h
    exact toNat_ofNat_of_isValidChar (.inl (by omega))
  · rw [lead_two hb.1 hb.2] at h
    cases h
  · rw [lead_three hb.1 hb.2] at h
    cases h
  · rw [lead_four hb.1 hb.2] at h
    cases h
  · rw [lead_eq_broken hb] at h
    cases h

/-! ### Characters -/

theorem step_lead (h : lead b = .opens form) :
    State.step ⟨none, pieces⟩ b = ⟨some form, pieces⟩ := by
  simp only [State.step, State.start, h]

/-- A byte that may follow, in a form with more to come. -/
theorem step_trail (hlow : form.low.toNat ≤ b.toNat) (hhigh : b.toNat ≤ form.high.toNat)
    (hmore : 1 < form.missing) :
    State.step ⟨some form, pieces⟩ b =
      ⟨some ⟨form.bits * 0x40 + b.toNat % 0x40, form.missing - 1, 0x80, 0xBF⟩, pieces⟩ := by
  rw [← UInt8.le_iff_toNat_le] at hlow hhigh
  simp only [State.step]
  rw [if_pos ⟨hlow, hhigh⟩, if_neg (Nat.not_le.mpr hmore)]

/-- The last byte of a form. -/
theorem step_last (hlow : form.low.toNat ≤ b.toNat) (hhigh : b.toNat ≤ form.high.toNat)
    (hlast : form.missing = 1) :
    State.step ⟨some form, pieces⟩ b =
      ⟨none, some (Char.ofNat (form.bits * 0x40 + b.toNat % 0x40)) :: pieces⟩ := by
  rw [← UInt8.le_iff_toNat_le] at hlow hhigh
  simp only [State.step]
  rw [if_pos ⟨hlow, hhigh⟩, if_pos (Nat.le_of_eq hlast)]

section

variable {b₁ b₂ b₃ b₄ : UInt8}

theorem foldl_two (h₁ : 0xC2 ≤ b₁.toNat ∧ b₁.toNat < 0xE0)
    (h₂ : 0x80 ≤ b₂.toNat ∧ b₂.toNat ≤ 0xBF) :
    [b₁, b₂].foldl State.step ⟨none, pieces⟩ =
      ⟨none, some (Char.ofNat (b₁.toNat % 0x20 * 0x40 + b₂.toNat % 0x40)) :: pieces⟩ := by
  rw [List.foldl_cons, step_lead (lead_two h₁.1 h₁.2)]
  exact step_last h₂.1 h₂.2 rfl

theorem foldl_three (h₁ : 0xE0 ≤ b₁.toNat ∧ b₁.toNat < 0xF0)
    (h₂ : 0x80 ≤ b₂.toNat ∧ b₂.toNat ≤ 0xBF) (hE0 : b₁.toNat = 0xE0 → 0xA0 ≤ b₂.toNat)
    (hED : b₁.toNat = 0xED → b₂.toNat ≤ 0x9F) (h₃ : 0x80 ≤ b₃.toNat ∧ b₃.toNat ≤ 0xBF) :
    [b₁, b₂, b₃].foldl State.step ⟨none, pieces⟩ =
      ⟨none, some (Char.ofNat ((b₁.toNat % 0x10 * 0x40 + b₂.toNat % 0x40) * 0x40
        + b₃.toNat % 0x40)) :: pieces⟩ := by
  rw [List.foldl_cons, List.foldl_cons, step_lead (lead_three h₁.1 h₁.2), step_trail]
  · exact step_last h₃.1 h₃.2 rfl
  · dsimp only
    split
    · exact hE0 ‹_›
    · exact h₂.1
  · dsimp only
    split
    · exact hED ‹_›
    · exact h₂.2
  · exact Nat.lt_add_one _

theorem foldl_four (h₁ : 0xF0 ≤ b₁.toNat ∧ b₁.toNat ≤ 0xF4)
    (h₂ : 0x80 ≤ b₂.toNat ∧ b₂.toNat ≤ 0xBF) (hF0 : b₁.toNat = 0xF0 → 0x90 ≤ b₂.toNat)
    (hF4 : b₁.toNat = 0xF4 → b₂.toNat ≤ 0x8F) (h₃ : 0x80 ≤ b₃.toNat ∧ b₃.toNat ≤ 0xBF)
    (h₄ : 0x80 ≤ b₄.toNat ∧ b₄.toNat ≤ 0xBF) :
    [b₁, b₂, b₃, b₄].foldl State.step ⟨none, pieces⟩ =
      ⟨none, some (Char.ofNat (((b₁.toNat % 0x08 * 0x40 + b₂.toNat % 0x40) * 0x40
        + b₃.toNat % 0x40) * 0x40 + b₄.toNat % 0x40)) :: pieces⟩ := by
  rw [List.foldl_cons, List.foldl_cons, step_lead (lead_four h₁.1 h₁.2), step_trail]
  · rw [List.foldl_cons, step_trail]
    · exact step_last h₄.1 h₄.2 rfl
    · exact h₃.1
    · exact h₃.2
    · exact Nat.lt_add_one _
  · dsimp only
    split
    · exact hF0 ‹_›
    · exact h₂.1
  · dsimp only
    split
    · exact hF4 ‹_›
    · exact h₂.2
  · exact Nat.lt_of_sub_eq_succ rfl

end

/-- The bytes of a character are read as that character. -/
theorem foldl_utf8EncodeChar (pieces : List (Option Char)) (c : Char) :
    (String.utf8EncodeChar c).foldl State.step ⟨none, pieces⟩ = ⟨none, some c :: pieces⟩ := by
  have hc : c.toNat < 0xD800 ∨ 0xDFFF < c.toNat ∧ c.toNat < 0x110000 := c.valid
  have hval : c.val.toNat = c.toNat := rfl
  have hofNat : ∀ n, n = c.toNat → Char.ofNat n = c := fun n hn => hn ▸ Char.ofNat_toNat c
  -- A byte is below 0x100, so its number is what was written.
  have hbyte : ∀ n, n < 0x100 → (UInt8.ofNat n).toNat = n := fun n hn => by
    rw [UInt8.toNat_ofNat', Nat.mod_eq_of_lt hn]
  simp only [String.utf8EncodeChar, hval]
  split
  · have hsmall : (UInt8.ofNat c.toNat).toNat = c.toNat := hbyte _ (by omega)
    rw [List.foldl_cons, List.foldl_nil, State.step, State.start, lead_of_lt (by omega)]
    simp only [hofNat _ hsmall]
  · split
    · have h₁ := hbyte (c.toNat / 64 % 32 + 192) (by omega)
      have h₂ := hbyte (c.toNat % 64 + 128) (by omega)
      rw [foldl_two (by omega) (by omega), hofNat _ (by omega)]
    · split
      · have h₁ := hbyte (c.toNat / 4096 % 16 + 224) (by omega)
        have h₂ := hbyte (c.toNat / 64 % 64 + 128) (by omega)
        have h₃ := hbyte (c.toNat % 64 + 128) (by omega)
        rw [foldl_three (by omega) (by omega) (by omega) (by omega) (by omega),
          hofNat _ (by omega)]
      · have h₁ := hbyte (c.toNat / 262144 % 8 + 240) (by omega)
        have h₂ := hbyte (c.toNat / 4096 % 64 + 128) (by omega)
        have h₃ := hbyte (c.toNat / 64 % 64 + 128) (by omega)
        have h₄ := hbyte (c.toNat % 64 + 128) (by omega)
        rw [foldl_four (by omega) (by omega) (by omega) (by omega) (by omega) (by omega),
          hofNat _ (by omega)]

/-! ### Texts -/

theorem foldl_encode (pieces : List (Option Char)) (text : List Char) :
    (text.flatMap String.utf8EncodeChar).foldl State.step ⟨none, pieces⟩ =
      ⟨none, (text.map some).reverse ++ pieces⟩ := by
  induction text generalizing pieces with
  | nil => rfl
  | cons c text ih =>
    rw [List.flatMap_cons, List.foldl_append, foldl_utf8EncodeChar, ih, List.map_cons,
      List.reverse_cons, List.append_assoc]
    rfl

/-- The form of a text is read as its characters. -/
theorem scan_ofText (text : String) : scan (Bytes.ofText text) = text.toList.map some := by
  rw [scan, Bytes.ofText_eq, foldl_encode, List.append_nil]
  exact List.reverse_reverse _

theorem decode?_ofText (text : String) : decode? (Bytes.ofText text) = some text := by
  simp [decode?, scan_ofText, List.filterMap_map]

theorem decodeLossy_ofText (text : String) : decodeLossy (Bytes.ofText text) = text := by
  simp [decodeLossy, scan_ofText, List.map_map, Function.comp_def]

/-! ### What is read so far -/

/-- The state with further pieces in front of all that it has read. -/
def State.onto (s : State) (pieces : List (Option Char)) : State :=
  ⟨s.form, s.pieces ++ pieces⟩

theorem start_onto (pieces more : List (Option Char)) (b : UInt8) :
    State.start (pieces ++ more) b = (State.start pieces b).onto more := by
  rw [State.start, State.start]
  cases lead b with
  | character c => rfl
  | opens form => rfl
  | broken => rfl

/-- A step does not look at the pieces. -/
theorem step_onto (s : State) (more : List (Option Char)) (b : UInt8) :
    (s.onto more).step b = (s.step b).onto more := by
  rcases s with ⟨_ | form, pieces⟩
  · exact start_onto pieces more b
  · simp only [State.step, State.onto]
    split
    · split
      · rfl
      · rfl
    · exact start_onto (none :: pieces) more b

theorem foldl_onto (s : State) (more : List (Option Char)) (bytes : Bytes) :
    bytes.foldl State.step (s.onto more) = (bytes.foldl State.step s).onto more := by
  induction bytes generalizing s with
  | nil => rfl
  | cons b bytes ih => rw [List.foldl_cons, step_onto, ih, List.foldl_cons]

theorem finish_onto (s : State) (more : List (Option Char)) :
    (s.onto more).finish = more.reverse ++ s.finish := by
  rcases s with ⟨_ | form, pieces⟩
  · simp [State.finish, State.onto]
  · simp [State.finish, State.onto]

/-! ### Bytes of ASCII -/

/-- What holds of every open form: only later bytes may follow, and what it stands for in the end
is not in ASCII. -/
structure Pending.Sound (form : Pending) : Prop where
  low_ge : 0x80 ≤ form.low.toNat
  high_le : form.high.toNat ≤ 0xBF
  bits_ge : 2 ≤ form.bits ∨ 1 < form.missing ∧ (1 ≤ form.bits ∨ 0x82 ≤ form.low.toNat)

theorem Pending.sound_of_lead (h : lead b = .opens form) : form.Sound := by
  obtain hb | hb | hb | hb | hb : b.toNat < 0x80 ∨ (0xC2 ≤ b.toNat ∧ b.toNat < 0xE0) ∨
      (0xE0 ≤ b.toNat ∧ b.toNat < 0xF0) ∨ (0xF0 ≤ b.toNat ∧ b.toNat ≤ 0xF4) ∨
      (0x80 ≤ b.toNat ∧ b.toNat < 0xC2 ∨ 0xF4 < b.toNat) := by omega
  · rw [lead_of_lt hb] at h
    cases h
  · rw [lead_two hb.1 hb.2] at h
    cases h
    exact ⟨Nat.le_refl _, Nat.le_refl _, .inl (by dsimp only; omega)⟩
  · rw [lead_three hb.1 hb.2] at h
    cases h
    refine ⟨?_, ?_, .inr ⟨Nat.lt_add_one 1, ?_⟩⟩
    · dsimp only
      split
      · decide
      · decide
    · dsimp only
      split
      · decide
      · decide
    · -- Only `E0` has no bits of its own, and it narrows the next byte.
      by_cases hE0 : b.toNat = 0xE0
      · exact .inr (by simp [hE0])
      · exact .inl (by dsimp only; omega)
  · rw [lead_four hb.1 hb.2] at h
    cases h
    refine ⟨?_, ?_, .inr ⟨Nat.lt_of_sub_eq_succ rfl, ?_⟩⟩
    · dsimp only
      split
      · decide
      · decide
    · dsimp only
      split
      · decide
      · decide
    · by_cases hF0 : b.toNat = 0xF0
      · exact .inr (by simp [hF0])
      · exact .inl (by dsimp only; omega)
  · rw [lead_eq_broken hb] at h
    cases h

/-- What holds of the machine when it has read `bytes`. -/
structure State.Sound (s : State) (bytes : Bytes) : Prop where
  form : ∀ form ∈ s.form, form.Sound
  ascii : ∀ c, some c ∈ s.pieces → 0 < c.toNat → c.toNat < 0x80 → UInt8.ofNat c.toNat ∈ bytes

theorem State.Sound.broken (h : s.Sound bytes) : State.Sound ⟨none, none :: s.pieces⟩ bytes := by
  refine ⟨nofun, fun c hc => h.ascii c ?_⟩
  simpa using hc

theorem State.Sound.append (h : s.Sound bytes) (more : Bytes) : s.Sound (bytes ++ more) :=
  ⟨h.form, fun c hc hpos hlt => List.mem_append_left _ (h.ascii c hc hpos hlt)⟩

theorem State.Sound.start (h : s.Sound bytes) (b : UInt8) :
    (State.start s.pieces b).Sound (bytes ++ [b]) := by
  have hascii := (h.append [b]).ascii
  rw [State.start]
  rcases hlead : lead b with c | form | _
  · refine ⟨nofun, fun d hd hpos hlt => ?_⟩
    rcases List.mem_cons.mp hd with hd | hd
    · cases hd
      rw [toNat_of_lead hlead, UInt8.ofNat_toNat]
      exact List.mem_append_right _ (List.mem_singleton_self b)
    · exact hascii d hd hpos hlt
  · refine ⟨fun other hother => ?_, hascii⟩
    cases hother
    exact Pending.sound_of_lead hlead
  · refine ⟨nofun, fun d hd => hascii d ?_⟩
    simpa using hd

theorem State.Sound.step (h : s.Sound bytes) (b : UInt8) : (s.step b).Sound (bytes ++ [b]) := by
  rcases hform : s.form with _ | form
  · rw [State.step, hform]
    exact h.start b
  · obtain ⟨hlow, hhigh, hbits⟩ := h.form form hform
    simp only [State.step, hform]
    split
    · rename_i hb
      rw [UInt8.le_iff_toNat_le, UInt8.le_iff_toNat_le] at hb
      split
      · -- The last byte of the form: too large a number for ASCII.
        refine ⟨nofun, fun c hc hpos hlt => ?_⟩
        rcases List.mem_cons.mp hc with hc | hc
        · cases hc
          rw [toNat_ofNat_of_pos hpos] at hlt
          omega
        · exact (h.append [b]).ascii c hc hpos hlt
      · refine ⟨fun other hother => ?_, (h.append [b]).ascii⟩
        cases hother
        exact ⟨Nat.le_refl _, Nat.le_refl _, .inl (by dsimp only; omega)⟩
    · exact h.broken.start b

theorem State.Sound.foldl (h : s.Sound front) (bytes : Bytes) :
    (bytes.foldl State.step s).Sound (front ++ bytes) := by
  induction bytes generalizing s front with
  | nil => rwa [List.append_nil]
  | cons b bytes ih =>
    have hrest := ih (h.step b)
    rwa [List.append_assoc] at hrest

theorem sound_foldl (bytes : Bytes) : (bytes.foldl State.step ⟨none, []⟩).Sound bytes := by
  have hstart : State.Sound ⟨none, []⟩ [] := ⟨by simp, by simp⟩
  exact hstart.foldl bytes

/-- A character of ASCII is read from its own byte. -/
theorem mem_of_mem_scan (h : some c ∈ scan bytes) (hpos : 0 < c.toNat) (hlt : c.toNat < 0x80) :
    UInt8.ofNat c.toNat ∈ bytes := by
  refine (sound_foldl bytes).ascii c ?_ hpos hlt
  rw [scan, State.finish] at h
  split at h
  · exact List.mem_reverse.mp h
  · simpa using h

/-- A byte of ASCII closes what is open and is read as its character. -/
theorem State.Sound.step_of_lt (h : s.Sound bytes) (hb : b.toNat < 0x80) :
    s.step b = ⟨none, some (Char.ofNat b.toNat) :: s.finish.reverse⟩ := by
  rcases s with ⟨_ | form, pieces⟩
  · simp [State.step, State.start, lead_of_lt hb, State.finish]
  · have hlow : ¬ (form.low ≤ b ∧ b ≤ form.high) := by
      have hge := (h.form form rfl).low_ge
      rw [UInt8.le_iff_toNat_le]
      omega
    simp [State.step, hlow, State.start, lead_of_lt hb, State.finish]

/-- What stands in front of a byte of ASCII is read on its own, and so is what stands behind. -/
theorem scan_append_cons (front back : Bytes) (hb : b.toNat < 0x80) :
    scan (front ++ b :: back) = scan front ++ some (Char.ofNat b.toNat) :: scan back := by
  have hstep := (sound_foldl front).step_of_lt hb
  have honto := foldl_onto ⟨none, []⟩ (some (Char.ofNat b.toNat) :: (scan front).reverse) back
  rw [State.onto, List.nil_append] at honto
  rw [scan, List.foldl_append, List.foldl_cons, hstep]
  rw [← scan, honto, finish_onto, List.reverse_cons, List.reverse_reverse, List.append_assoc]
  rfl

end Utf8

end ClassOrigin
