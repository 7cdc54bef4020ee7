/-
UTF-8 read exactly.

Bytes that are read without an ill-formed piece are the form of the text that was read, so there is
only one way to spell a text.  The machine checks its ranges byte by byte; put together, the bytes of
a form are those that its number is written with:

* **`utf8EncodeChar_two`**, **`utf8EncodeChar_three`**, **`utf8EncodeChar_four`** — how the characters
  are written that longer forms stand for;
* **`Opens`** — the bytes behind an open form, and **`Opens.close`** — what its last byte makes of
  them;
* **`decode?_eq_some_iff`** — hence a text is read from its own form only.
-/
import ClassOrigin.Proofs.Utf8Scan

namespace ClassOrigin.Utf8

variable {b b₁ b₂ b₃ b₄ : UInt8} {form : Pending} {s : State} {bytes opened : Bytes} {text : String}

/-! ### Longer forms -/

theorem utf8EncodeChar_one (h : b.toNat < 0x80) :
    String.utf8EncodeChar (Char.ofNat b.toNat) = [b] := by
  have hnat := toNat_ofNat_of_isValidChar (n := b.toNat) (.inl (by omega))
  generalize Char.ofNat b.toNat = c at hnat ⊢
  have hval : c.val.toNat = c.toNat := rfl
  simp only [String.utf8EncodeChar, hval]
  rw [if_pos (by omega), hnat, UInt8.ofNat_toNat]

theorem utf8EncodeChar_two (h₁ : 0xC2 ≤ b₁.toNat ∧ b₁.toNat < 0xE0)
    (h₂ : 0x80 ≤ b₂.toNat ∧ b₂.toNat ≤ 0xBF) :
    String.utf8EncodeChar (Char.ofNat (b₁.toNat % 0x20 * 0x40 + b₂.toNat % 0x40)) = [b₁, b₂] := by
  have hvalid : (b₁.toNat % 0x20 * 0x40 + b₂.toNat % 0x40).isValidChar := .inl (by omega)
  have hnat := toNat_ofNat_of_isValidChar hvalid
  generalize Char.ofNat (b₁.toNat % 0x20 * 0x40 + b₂.toNat % 0x40) = c at hnat ⊢
  have hval : c.val.toNat = c.toNat := rfl
  simp only [String.utf8EncodeChar, hval]
  rw [if_neg (by omega), if_pos (by omega)]
  simp only [List.cons.injEq, ← UInt8.toNat_inj, UInt8.toNat_ofNat', and_true]
  omega

theorem utf8EncodeChar_three (h₁ : 0xE0 ≤ b₁.toNat ∧ b₁.toNat < 0xF0)
    (h₂ : 0x80 ≤ b₂.toNat ∧ b₂.toNat ≤ 0xBF) (hE0 : b₁.toNat = 0xE0 → 0xA0 ≤ b₂.toNat)
    (hED : b₁.toNat = 0xED → b₂.toNat ≤ 0x9F) (h₃ : 0x80 ≤ b₃.toNat ∧ b₃.toNat ≤ 0xBF) :
    String.utf8EncodeChar (Char.ofNat ((b₁.toNat % 0x10 * 0x40 + b₂.toNat % 0x40) * 0x40
      + b₃.toNat % 0x40)) = [b₁, b₂, b₃] := by
  have hvalid : ((b₁.toNat % 0x10 * 0x40 + b₂.toNat % 0x40) * 0x40
      + b₃.toNat % 0x40).isValidChar := by
    rw [Nat.isValidChar]
    omega
  have hnat := toNat_ofNat_of_isValidChar hvalid
  generalize Char.ofNat ((b₁.toNat % 0x10 * 0x40 + b₂.toNat % 0x40) * 0x40
    + b₃.toNat % 0x40) = c at hnat ⊢
  have hval : c.val.toNat = c.toNat := rfl
  simp only [String.utf8EncodeChar, hval]
  rw [if_neg (by omega), if_neg (by omega), if_pos (by omega)]
  simp only [List.cons.injEq, ← UInt8.toNat_inj, UInt8.toNat_ofNat', and_true]
  omega

theorem utf8EncodeChar_four (h₁ : 0xF0 ≤ b₁.toNat ∧ b₁.toNat ≤ 0xF4)
    (h₂ : 0x80 ≤ b₂.toNat ∧ b₂.toNat ≤ 0xBF) (hF0 : b₁.toNat = 0xF0 → 0x90 ≤ b₂.toNat)
    (hF4 : b₁.toNat = 0xF4 → b₂.toNat ≤ 0x8F) (h₃ : 0x80 ≤ b₃.toNat ∧ b₃.toNat ≤ 0xBF)
    (h₄ : 0x80 ≤ b₄.toNat ∧ b₄.toNat ≤ 0xBF) :
    String.utf8EncodeChar (Char.ofNat (((b₁.toNat % 0x08 * 0x40 + b₂.toNat % 0x40) * 0x40
      + b₃.toNat % 0x40) * 0x40 + b₄.toNat % 0x40)) = [b₁, b₂, b₃, b₄] := by
  have hvalid : (((b₁.toNat % 0x08 * 0x40 + b₂.toNat % 0x40) * 0x40
      + b₃.toNat % 0x40) * 0x40 + b₄.toNat % 0x40).isValidChar := .inr (by omega)
  have hnat := toNat_ofNat_of_isValidChar hvalid
  generalize Char.ofNat (((b₁.toNat % 0x08 * 0x40 + b₂.toNat % 0x40) * 0x40
    + b₃.toNat % 0x40) * 0x40 + b₄.toNat % 0x40) = c at hnat ⊢
  have hval : c.val.toNat = c.toNat := rfl
  simp only [String.utf8EncodeChar, hval]
  rw [if_neg (by omega), if_neg (by omega), if_neg (by omega)]
  simp only [List.cons.injEq, ← UInt8.toNat_inj, UInt8.toNat_ofNat', and_true]
  omega

/-! ### Open forms -/

/-- The bytes that stand behind an open form, by how many there are and how many more there will
be. -/
inductive Opens : Pending → Bytes → Prop
  | oneOfTwo {b₁ : UInt8} (h₁ : 0xC2 ≤ b₁.toNat ∧ b₁.toNat < 0xE0) :
    Opens ⟨b₁.toNat % 0x20, 1, 0x80, 0xBF⟩ [b₁]
  | oneOfThree {b₁ : UInt8} (h₁ : 0xE0 ≤ b₁.toNat ∧ b₁.toNat < 0xF0) :
    Opens ⟨b₁.toNat % 0x10, 2, if b₁.toNat = 0xE0 then 0xA0 else 0x80,
      if b₁.toNat = 0xED then 0x9F else 0xBF⟩ [b₁]
  | twoOfThree {b₁ b₂ : UInt8} (h₁ : 0xE0 ≤ b₁.toNat ∧ b₁.toNat < 0xF0)
    (h₂ : 0x80 ≤ b₂.toNat ∧ b₂.toNat ≤ 0xBF) (hE0 : b₁.toNat = 0xE0 → 0xA0 ≤ b₂.toNat)
    (hED : b₁.toNat = 0xED → b₂.toNat ≤ 0x9F) :
    Opens ⟨b₁.toNat % 0x10 * 0x40 + b₂.toNat % 0x40, 1, 0x80, 0xBF⟩ [b₁, b₂]
  | oneOfFour {b₁ : UInt8} (h₁ : 0xF0 ≤ b₁.toNat ∧ b₁.toNat ≤ 0xF4) :
    Opens ⟨b₁.toNat % 0x08, 3, if b₁.toNat = 0xF0 then 0x90 else 0x80,
      if b₁.toNat = 0xF4 then 0x8F else 0xBF⟩ [b₁]
  | twoOfFour {b₁ b₂ : UInt8} (h₁ : 0xF0 ≤ b₁.toNat ∧ b₁.toNat ≤ 0xF4)
    (h₂ : 0x80 ≤ b₂.toNat ∧ b₂.toNat ≤ 0xBF) (hF0 : b₁.toNat = 0xF0 → 0x90 ≤ b₂.toNat)
    (hF4 : b₁.toNat = 0xF4 → b₂.toNat ≤ 0x8F) :
    Opens ⟨b₁.toNat % 0x08 * 0x40 + b₂.toNat % 0x40, 2, 0x80, 0xBF⟩ [b₁, b₂]
  | threeOfFour {b₁ b₂ b₃ : UInt8} (h₁ : 0xF0 ≤ b₁.toNat ∧ b₁.toNat ≤ 0xF4)
    (h₂ : 0x80 ≤ b₂.toNat ∧ b₂.toNat ≤ 0xBF) (hF0 : b₁.toNat = 0xF0 → 0x90 ≤ b₂.toNat)
    (hF4 : b₁.toNat = 0xF4 → b₂.toNat ≤ 0x8F) (h₃ : 0x80 ≤ b₃.toNat ∧ b₃.toNat ≤ 0xBF) :
    Opens ⟨(b₁.toNat % 0x08 * 0x40 + b₂.toNat % 0x40) * 0x40 + b₃.toNat % 0x40, 1, 0x80, 0xBF⟩
      [b₁, b₂, b₃]

/-- What a byte in first position is. -/
theorem lead_cases (b : UInt8) :
    (∃ c, lead b = .character c ∧ String.utf8EncodeChar c = [b]) ∨
      (∃ form, lead b = .opens form ∧ Opens form [b]) ∨ lead b = .broken := by
  obtain hb | hb | hb | hb | hb : b.toNat < 0x80 ∨ (0xC2 ≤ b.toNat ∧ b.toNat < 0xE0) ∨
      (0xE0 ≤ b.toNat ∧ b.toNat < 0xF0) ∨ (0xF0 ≤ b.toNat ∧ b.toNat ≤ 0xF4) ∨
      (0x80 ≤ b.toNat ∧ b.toNat < 0xC2 ∨ 0xF4 < b.toNat) := by omega
  · exact .inl ⟨_, lead_of_lt hb, utf8EncodeChar_one hb⟩
  · exact .inr (.inl ⟨_, lead_two hb.1 hb.2, .oneOfTwo hb⟩)
  · exact .inr (.inl ⟨_, lead_three hb.1 hb.2, .oneOfThree hb⟩)
  · exact .inr (.inl ⟨_, lead_four hb.1 hb.2, .oneOfFour hb⟩)
  · exact .inr (.inr (lead_eq_broken hb))

/-- A range that two first bytes narrow, each at one of its ends. -/
theorem toNat_of_narrowed {first low high : Nat} {lowest highest : UInt8}
    (hlow : (if first = low then lowest else 0x80) ≤ b)
    (hhigh : b ≤ if first = high then highest else 0xBF)
    (hlowest : 0x80 ≤ lowest.toNat) (hhighest : highest.toNat ≤ 0xBF) :
    (0x80 ≤ b.toNat ∧ b.toNat ≤ 0xBF) ∧ (first = low → lowest.toNat ≤ b.toNat) ∧
      (first = high → b.toNat ≤ highest.toNat) := by
  rw [UInt8.le_iff_toNat_le] at hlow hhigh
  refine ⟨⟨?_, ?_⟩, fun hfirst => by rwa [if_pos hfirst] at hlow,
    fun hfirst => by rwa [if_pos hfirst] at hhigh⟩
  · split at hlow
    · omega
    · exact hlow
  · split at hhigh
    · omega
    · exact hhigh

/-- A byte that may follow and is not the last one. -/
theorem Opens.trail (h : Opens form opened) (hlow : form.low ≤ b) (hhigh : b ≤ form.high)
    (hmore : ¬ form.missing ≤ 1) :
    Opens ⟨form.bits * 0x40 + b.toNat % 0x40, form.missing - 1, 0x80, 0xBF⟩ (opened ++ [b]) := by
  cases h with
  | oneOfTwo h₁ => exact absurd (Nat.le_refl 1) hmore
  | oneOfThree h₁ =>
    obtain ⟨h₂, hE0, hED⟩ := toNat_of_narrowed hlow hhigh (by decide) (by decide)
    exact .twoOfThree h₁ h₂ hE0 hED
  | twoOfThree h₁ h₂ hE0 hED => exact absurd (Nat.le_refl 1) hmore
  | oneOfFour h₁ =>
    obtain ⟨h₂, hF0, hF4⟩ := toNat_of_narrowed hlow hhigh (by decide) (by decide)
    exact .twoOfFour h₁ h₂ hF0 hF4
  | twoOfFour h₁ h₂ hF0 hF4 =>
    rw [UInt8.le_iff_toNat_le] at hlow hhigh
    exact .threeOfFour h₁ h₂ hF0 hF4 ⟨hlow, hhigh⟩
  | threeOfFour h₁ h₂ hF0 hF4 h₃ => exact absurd (Nat.le_refl 1) hmore

/-- The last byte completes the bytes of a character. -/
theorem Opens.close (h : Opens form opened) (hlow : form.low ≤ b) (hhigh : b ≤ form.high)
    (hlast : form.missing ≤ 1) :
    String.utf8EncodeChar (Char.ofNat (form.bits * 0x40 + b.toNat % 0x40)) = opened ++ [b] := by
  rw [UInt8.le_iff_toNat_le] at hlow hhigh
  cases h with
  | oneOfTwo h₁ => exact utf8EncodeChar_two h₁ ⟨hlow, hhigh⟩
  | oneOfThree h₁ => exact absurd hlast (by simp)
  | twoOfThree h₁ h₂ hE0 hED => exact utf8EncodeChar_three h₁ h₂ hE0 hED ⟨hlow, hhigh⟩
  | oneOfFour h₁ => exact absurd hlast (by simp)
  | twoOfFour h₁ h₂ hF0 hF4 => exact absurd hlast (by simp)
  | threeOfFour h₁ h₂ hF0 hF4 h₃ =>
    exact utf8EncodeChar_four h₁ h₂ hF0 hF4 h₃ ⟨hlow, hhigh⟩

/-! ### The whole scan -/

/-- What holds of the machine when it has read `bytes` and nothing ill-formed: they are the form of
what was read, and then those behind the open form. -/
def State.Exact (s : State) (bytes : Bytes) : Prop :=
  ∀ text : List Char, s.pieces = (text.map some).reverse →
    ∃ opened, bytes = text.flatMap String.utf8EncodeChar ++ opened ∧
      match s.form with
      | none => opened = []
      | some form => Opens form opened

theorem eq_append_of_cons_eq {c : Char} {pieces : List (Option Char)} {text : List Char}
    (h : some c :: pieces = (text.map some).reverse) :
    ∃ front, text = front ++ [c] ∧ pieces = (front.map some).reverse := by
  rcases List.eq_nil_or_concat' text with rfl | ⟨front, d, rfl⟩
  · cases h
  · rw [List.map_append, List.reverse_append] at h
    obtain ⟨hc, hpieces⟩ := List.cons.inj h
    exact ⟨front, by rw [Option.some.inj hc], hpieces⟩

theorem none_notMem_reverse (text : List Char) : none ∉ (text.map some).reverse := by
  simp

/-- What was ill-formed stays among the pieces. -/
theorem none_mem_start (pieces : List (Option Char)) (b : UInt8) :
    none ∈ (State.start (none :: pieces) b).pieces := by
  rw [State.start]
  cases lead b with
  | character c => exact List.mem_cons_of_mem _ List.mem_cons_self
  | opens form => exact List.mem_cons_self
  | broken => exact List.mem_cons_self

theorem State.Exact.start {pieces : List (Option Char)} (h : State.Exact ⟨none, pieces⟩ bytes)
    (b : UInt8) : (State.start pieces b).Exact (bytes ++ [b]) := by
  intro text htext
  rw [State.start] at htext ⊢
  rcases lead_cases b with ⟨c, hlead, hc⟩ | ⟨form, hlead, hform⟩ | hlead
  · rw [hlead] at htext ⊢
    obtain ⟨front, rfl, hpieces⟩ := eq_append_of_cons_eq htext
    obtain ⟨opened, rfl, hopened⟩ := h front hpieces
    obtain rfl : opened = [] := hopened
    exact ⟨[], by simp [hc], rfl⟩
  · rw [hlead] at htext ⊢
    obtain ⟨opened, rfl, hopened⟩ := h text htext
    obtain rfl : opened = [] := hopened
    exact ⟨[b], by simp, hform⟩
  · rw [hlead] at htext
    exact absurd (htext ▸ List.mem_cons_self) (none_notMem_reverse text)

theorem State.Exact.step (h : s.Exact bytes) (b : UInt8) : (s.step b).Exact (bytes ++ [b]) := by
  rcases s with ⟨_ | form, pieces⟩
  · exact h.start b
  · intro text htext
    rw [State.step] at htext ⊢
    dsimp only at htext ⊢
    split at htext
    · rename_i hb
      rw [if_pos hb]
      split at htext
      · rename_i hlast
        rw [if_pos hlast]
        obtain ⟨front, rfl, hpieces⟩ := eq_append_of_cons_eq htext
        obtain ⟨opened, rfl, hopened⟩ := h front hpieces
        have hc := Opens.close hopened hb.1 hb.2 hlast
        exact ⟨[], by simp [hc], rfl⟩
      · rename_i hmore
        rw [if_neg hmore]
        obtain ⟨opened, rfl, hopened⟩ := h text htext
        exact ⟨opened ++ [b], by simp, Opens.trail hopened hb.1 hb.2 hmore⟩
    · -- The form was left unfinished, which cannot be undone.
      exact absurd (htext ▸ none_mem_start pieces b) (none_notMem_reverse text)

theorem State.Exact.foldl {front : Bytes} (h : s.Exact front) (bytes : Bytes) :
    (bytes.foldl State.step s).Exact (front ++ bytes) := by
  induction bytes generalizing s front with
  | nil => rwa [List.append_nil]
  | cons b bytes ih =>
    have hrest := ih (h.step b)
    rwa [List.append_assoc] at hrest

/-- By the invariant at the end of the bytes: no form is open there. -/
theorem eq_flatMap_of_scan {chars : List Char} (h : scan bytes = chars.map some) :
    bytes = chars.flatMap String.utf8EncodeChar := by
  have hstart : State.Exact ⟨none, []⟩ [] := by
    intro text htext
    obtain rfl : text = [] := by simpa using htext
    exact ⟨[], rfl, rfl⟩
  have hexact := hstart.foldl bytes
  rw [List.nil_append] at hexact
  rw [scan, State.finish] at h
  split at h
  · rename_i hform
    obtain ⟨opened, hbytes, hopened⟩ := hexact chars (by rw [← h, List.reverse_reverse])
    rw [hform] at hopened
    obtain rfl : opened = [] := hopened
    rwa [List.append_nil] at hbytes
  · have hnone : none ∈ chars.map some := by
      rw [← h]
      simp
    simp at hnone

theorem eq_map_some_of_all {pieces : List (Option Char)} (h : pieces.all Option.isSome = true) :
    pieces = (pieces.filterMap id).map some := by
  induction pieces with
  | nil => rfl
  | cons piece pieces ih =>
    rw [List.all_cons, Bool.and_eq_true] at h
    obtain ⟨c, rfl⟩ := Option.isSome_iff_exists.mp h.1
    exact congrArg (some c :: ·) (ih h.2)

/-- A text is read from its own form only. -/
theorem decode?_eq_some_iff : decode? bytes = some text ↔ bytes = Bytes.ofText text := by
  refine ⟨fun h => ?_, fun h => by rw [h, decode?_ofText]⟩
  rw [decode?] at h
  split at h
  · rename_i hall
    rw [← Option.some.inj h, Bytes.ofText_eq, String.toList_ofList]
    exact eq_flatMap_of_scan (eq_map_some_of_all hall)
  · cases h

end ClassOrigin.Utf8
