/-
What a decoder accepts, described by what is written.

`d.Reads valid write` says that `d` is the exact inverse of `write` on `valid` values: it
succeeds with `x`, leaving `rest`, on `write x ++ rest` with `x` valid, and on nothing else.
One equation then carries both directions of a round trip.

* **`bind_eq_ok`**, **`guard_eq_ok`** — a successful run taken apart into its steps;
* **`u16_eq_ok`** and its companions — the fixed reads;
* **`table_eq_ok`** — a counted table of readable items, at most 65535 of them.
-/
import ClassOrigin.ClassFile.Basic
import ClassOrigin.Proofs.Outcomes
import ClassOrigin.Proofs.Words

namespace ClassOrigin.ClassFile.Decoder

variable {α β : Type} {bytes rest : Bytes}

/-- `d` succeeds with `x` exactly where a valid `x` is written in front of what it leaves. -/
@[reducible] def Reads (d : Decoder α) (valid : α → Prop) (write : α → Bytes) : Prop :=
  ∀ {bytes rest : Bytes} {x : α}, d bytes = .ok (x, rest) ↔ valid x ∧ bytes = write x ++ rest

/-! ### Runs and their steps -/

theorem bind_eq_ok {d : Decoder α} {k : α → Decoder β} {y : β} :
    (d >>= k) bytes = .ok (y, rest) ↔
      ∃ x mid, d bytes = .ok (x, mid) ∧ k x mid = .ok (y, rest) := by
  -- Decoders are outcomes over a changing rest, and run as their underlying chain does.
  show (d bytes >>= fun p => k p.1 p.2) = _ ↔ _
  rcases hd : d bytes with e | ⟨x, mid⟩
  · constructor
    · intro h
      cases h
    · rintro ⟨x, mid, h, -⟩
      cases h
  · constructor
    · intro h
      exact ⟨x, mid, rfl, h⟩
    · rintro ⟨x', mid', h, hk⟩
      cases h
      exact hk

theorem bind_eq_error {d : Decoder α} {k : α → Decoder β} {e : Error} :
    (d >>= k) bytes = .error e ↔
      d bytes = .error e ∨ ∃ x mid, d bytes = .ok (x, mid) ∧ k x mid = .error e := by
  show (d bytes >>= fun p => k p.1 p.2) = _ ↔ _
  rw [Outcome.bind_eq_error, Prod.exists]

theorem pure_eq_ok {x y : α} :
    (pure x : Decoder α) bytes = .ok (y, rest) ↔ x = y ∧ bytes = rest := by
  show Except.ok (x, bytes) = _ ↔ _
  rw [Except.ok.injEq, Prod.mk.injEq]

/-- A run goes past a guard only if nothing is wrong. -/
theorem guard_eq_ok {wrong : Prop} [Decidable wrong] {e : Error} {k : Unit → Decoder α}
    {d : Decoder α} {y : α} :
    (if wrong then throw e >>= k else d) bytes = .ok (y, rest) ↔
      ¬ wrong ∧ d bytes = .ok (y, rest) := by
  by_cases h : wrong
  · rw [if_pos h]
    constructor
    · intro hrun
      cases hrun
    · intro hrun
      exact absurd h hrun.1
  · rw [if_neg h]
    exact ⟨fun hrun => ⟨h, hrun⟩, fun hrun => hrun.2⟩

theorem check_eq_ok {verdict : Except Error α} {u : Unit} :
    check verdict bytes = .ok (u, rest) ↔ (∃ x, verdict = .ok x) ∧ bytes = rest := by
  rcases verdict with e | x
  · simp [check]
  · simp [check]

theorem atEnd_eq_ok {u : Unit} : atEnd bytes = .ok (u, rest) ↔ bytes = [] ∧ rest = [] := by
  rcases bytes with _ | ⟨b, bytes⟩
  · simp [atEnd, eq_comm]
  · simp [atEnd]

/-! ### Fixed reads -/

theorem u8_eq_ok {b : UInt8} : u8 bytes = .ok (b, rest) ↔ bytes = b :: rest := by
  rcases bytes with _ | ⟨a, bytes⟩
  · simp [u8]
  · simp [u8]

theorem u16_eq_ok {w : UInt16} :
    u16 bytes = .ok (w, rest) ↔ bytes = Bytes.ofWord16 w ++ rest := by
  constructor
  · intro h
    unfold u16 at h
    split at h
    · cases h
      rw [Bytes.ofWord16_word16]
      rfl
    · cases h
  · rintro rfl
    show Except.ok (Bytes.word16 _ _, rest) = _
    rw [Bytes.word16_ofWord16]

theorem u32_eq_ok {w : UInt32} :
    u32 bytes = .ok (w, rest) ↔ bytes = Bytes.ofWord32 w ++ rest := by
  constructor
  · intro h
    unfold u32 at h
    split at h
    · cases h
      rw [Bytes.ofWord32_word32]
      rfl
    · cases h
  · rintro rfl
    show Except.ok (Bytes.word32 _ _ _ _, rest) = _
    rw [Bytes.word32_ofWord32]

theorem u64_eq_ok {w : UInt64} :
    u64 bytes = .ok (w, rest) ↔ bytes = Bytes.ofWord64 w ++ rest := by
  constructor
  · intro h
    unfold u64 at h
    split at h
    · cases h
      rw [Bytes.ofWord64_word64]
      rfl
    · cases h
  · rintro rfl
    show Except.ok (Bytes.word64 _ _ _ _ _ _ _ _, rest) = _
    rw [Bytes.word64_ofWord64 w rfl]

theorem block_eq_ok {n : Nat} {taken : Bytes} :
    block n bytes = .ok (taken, rest) ↔ taken.length = n ∧ bytes = taken ++ rest := by
  rw [← Bytes.take?_eq_some, block]
  rcases Bytes.take? n bytes with _ | ⟨taken', rest'⟩
  · simp
  · simp

/-! ### Tables -/

theorem timesOnto_eq_ok {item : Decoder α} {valid : α → Prop} {write : α → Bytes}
    (h : item.Reads valid write) : ∀ {n : Nat} {acc xs : List α} {bytes rest : Bytes},
      timesOnto item acc n bytes = .ok (xs, rest) ↔
        ∃ more, more.length = n ∧ xs = acc.reverse ++ more ∧ (∀ x ∈ more, valid x) ∧
          bytes = more.flatMap write ++ rest := by
  intro n
  -- The items read so far lie in `acc` in reverse, so the induction is for every `acc`.
  induction n with
  | zero =>
    intro acc xs bytes rest
    simp only [timesOnto, Except.ok.injEq, Prod.mk.injEq, List.length_eq_zero_iff]
    constructor
    · rintro ⟨rfl, rfl⟩
      exact ⟨[], rfl, by simp, by simp, by simp⟩
    · rintro ⟨more, rfl, rfl, -, rfl⟩
      exact ⟨by simp, by simp⟩
  | succ n ih =>
    intro acc xs bytes rest
    constructor
    · intro hrun
      simp only [timesOnto] at hrun
      split at hrun
      · rename_i x mid hx
        obtain ⟨hvalid, rfl⟩ := h.mp hx
        obtain ⟨more, hlen, rfl, hmore, rfl⟩ := ih.mp hrun
        refine ⟨x :: more, by simp [hlen], by simp, ?_, by simp⟩
        intro y hy
        rcases List.mem_cons.mp hy with rfl | hy
        · exact hvalid
        · exact hmore y hy
      · cases hrun
    · rintro ⟨more, hlen, rfl, hmore, rfl⟩
      rcases more with _ | ⟨x, more⟩
      · exact absurd hlen (by simp)
      · have hx : item ((x :: more).flatMap write ++ rest)
            = .ok (x, more.flatMap write ++ rest) :=
          h.mpr ⟨hmore x (by simp), by simp⟩
        simp only [timesOnto, hx]
        exact ih.mpr ⟨more, by simpa using hlen, by simp,
          fun y hy => hmore y (List.mem_cons_of_mem x hy), rfl⟩

theorem times_eq_ok {item : Decoder α} {valid : α → Prop} {write : α → Bytes}
    (h : item.Reads valid write) {n : Nat} {xs : List α} :
    times n item bytes = .ok (xs, rest) ↔
      xs.length = n ∧ (∀ x ∈ xs, valid x) ∧ bytes = xs.flatMap write ++ rest := by
  rw [times, timesOnto_eq_ok h]
  constructor
  · rintro ⟨more, hlen, rfl, hrest⟩
    exact ⟨hlen, hrest⟩
  · rintro ⟨hlen, hrest⟩
    exact ⟨xs, hlen, rfl, hrest⟩

theorem table_eq_ok {item : Decoder α} {valid : α → Prop} {write : α → Bytes}
    (h : item.Reads valid write) {xs : List α} :
    table item bytes = .ok (xs, rest) ↔
      (xs.length ≤ 65535 ∧ ∀ x ∈ xs, valid x) ∧ bytes = encodeTable write xs ++ rest := by
  rw [table, bind_eq_ok]
  constructor
  · rintro ⟨count, mid, hcount, hitems⟩
    rw [u16_eq_ok] at hcount
    obtain ⟨hlen, hvalid, rfl⟩ := (times_eq_ok h).mp hitems
    -- As many items were read as 16 bits can count.
    have hlt := count.toNat_lt
    refine ⟨⟨by omega, hvalid⟩, ?_⟩
    rw [hcount, encodeTable, hlen, UInt16.ofNat_toNat, List.append_assoc]
  · rintro ⟨⟨hlen, hvalid⟩, rfl⟩
    refine ⟨UInt16.ofNat xs.length, xs.flatMap write ++ rest, ?_, ?_⟩
    · rw [u16_eq_ok, encodeTable, List.append_assoc]
    · refine (times_eq_ok h).mpr ⟨?_, hvalid, rfl⟩
      rw [UInt16.toNat_ofNat']
      omega

end ClassOrigin.ClassFile.Decoder
