/-
Texts interned one after the other.

A pool that was read may hold a text several times, or in a spelling of which there is a shorter
one.  Interning settles on one index for each text all the same, and stays with it:

* **`Interning`** — a call that interns a text, with its **`answer`** and the pool **`after`** it;
* **`internings`** — the calls of a run, each made on the pool that the one before it left;
* **`extends_after`** — what one call keeps, and **`extends_of_mem_internings`**,
  **`pairwise_internings`** — hence what a run keeps, by induction;
* **`internings_of_decode`** — on a pool that was read, calls agree on an index exactly when they
  agree on the text, and an index once answered stands for its text from then on.
-/
import ClassOrigin.Proofs.LocationUpdate
import Mathlib.Data.List.Pairwise

namespace ClassOrigin.ClassFile.ConstantPool

/-! ### Calls -/

/-- A call that interns `text` in the pool `before`. -/
structure Interning where
  before : ConstantPool
  text : String

namespace Interning

variable {call : Interning} {index : UInt16} {error : Error}

/-- The index that is answered, or why there is none. -/
def answer (call : Interning) : Except Error UInt16 :=
  (call.before.intern call.text).map Prod.fst

/-- The pool that is left.  A call that is refused leaves the pool as it was. -/
def after (call : Interning) : ConstantPool :=
  match call.before.intern call.text with
  | .ok (_, grown) => grown
  | .error _ => call.before

theorem answer_eq_ok :
    call.answer = .ok index ↔ call.before.intern call.text = .ok (index, call.after) := by
  rw [answer, after]
  rcases call.before.intern call.text with e | ⟨found, grown⟩
  · exact iff_of_false nofun nofun
  · simp [Except.map]

theorem answer_eq_error :
    call.answer = .error error ↔ call.before.intern call.text = .error error := by
  rw [answer]
  rcases call.before.intern call.text with e | ⟨found, grown⟩
  · simp [Except.map]
  · exact iff_of_false nofun nofun

theorem after_of_intern {grown : ConstantPool}
    (h : call.before.intern call.text = .ok (index, grown)) : call.after = grown := by
  rw [after, h]

theorem after_of_answer_eq_error (h : call.answer = .error error) : call.after = call.before := by
  rw [after, answer_eq_error.mp h]

/-! ### What one call keeps -/

/-- A call adds behind the pool what fits there, if it adds anything. -/
theorem extends_after (call : Interning) (hsize : call.before.slots.size ≤ 65535) :
    call.before.Extends call.after ∧ call.after.slots.size ≤ 65535 := by
  rcases hanswer : call.answer with e | index
  · rw [after_of_answer_eq_error hanswer]
    exact ⟨.refl _, hsize⟩
  · obtain ⟨hext, hfits, -⟩ := extends_of_intern hsize (answer_eq_ok.mp hanswer)
    exact ⟨hext, hfits⟩

/-- The answer is the lowest index with the spelling of the text. -/
theorem isIndexOf_after (hsize : call.before.slots.size ≤ 65535) (h : call.answer = .ok index) :
    call.after.IsIndexOf call.text index :=
  isIndexOf_of_intern hsize (answer_eq_ok.mp h)

/-- A text that has an index is answered with it, and nothing is added. -/
theorem answer_of_isIndexOf (h : call.before.IsIndexOf call.text index) :
    call.answer = .ok index ∧ call.after = call.before := by
  rw [answer, after, h.intern_eq]
  exact ⟨rfl, rfl⟩

/-- Two calls that are answered get the same index exactly when they have the same text. -/
def Agree (call call' : Interning) : Prop :=
  ∀ index index', call.answer = .ok index → call'.answer = .ok index' →
    (index = index' ↔ call.text = call'.text)

instance : Std.Symm Agree where
  symm _ _ hagree index index' hanswer hanswer' := by
    rw [eq_comm, hagree index' index hanswer' hanswer, eq_comm]

end Interning

/-! ### Runs -/

/-- The calls that intern the texts one after the other, each on the pool that was left. -/
def internings (pool : ConstantPool) : List String → List Interning
  | [] => []
  | text :: texts => ⟨pool, text⟩ :: (Interning.after ⟨pool, text⟩).internings texts

variable {pool : ConstantPool} {texts : List String} {call call' : Interning} {index : UInt16}
  {bytes rest : Bytes}

open Interning

/-- A call of a run is made on a pool that has what the run started from. -/
theorem extends_of_mem_internings (hsize : pool.slots.size ≤ 65535)
    (h : call ∈ pool.internings texts) :
    pool.Extends call.before ∧ call.before.slots.size ≤ 65535 := by
  induction texts generalizing pool with
  | nil => cases h
  | cons text texts ih =>
    rcases List.mem_cons.mp h with rfl | hlater
    · exact ⟨.refl _, hsize⟩
    · obtain ⟨hext, hfits⟩ := extends_after ⟨pool, text⟩ hsize
      obtain ⟨hmore, hbefore⟩ := ih hfits hlater
      exact ⟨hext.trans hmore, hbefore⟩

/-- A later call is made on a pool that has what an earlier one left. -/
theorem pairwise_internings (hsize : pool.slots.size ≤ 65535) :
    (pool.internings texts).Pairwise fun earlier later => earlier.after.Extends later.before := by
  induction texts generalizing pool with
  | nil => exact .nil
  | cons text texts ih =>
    have hfits := (extends_after ⟨pool, text⟩ hsize).2
    exact .cons (fun later hlater => (extends_of_mem_internings hfits hlater).1) (ih hfits)

/-- The answer to a call of a run is the index of its text in the pool that is left. -/
theorem isIndexOf_of_mem_internings (hsize : pool.slots.size ≤ 65535)
    (h : call ∈ pool.internings texts) (hanswer : call.answer = .ok index) :
    call.after.IsIndexOf call.text index :=
  isIndexOf_after (extends_of_mem_internings hsize h).2 hanswer

/-- It still is when a later call is made, and when that has been answered. -/
theorem pairwise_isIndexOf (hsize : pool.slots.size ≤ 65535) :
    (pool.internings texts).Pairwise fun earlier later => ∀ index, earlier.answer = .ok index →
      later.before.IsIndexOf earlier.text index ∧ later.after.IsIndexOf earlier.text index := by
  refine (pairwise_internings hsize).imp_of_mem ?_
  intro earlier later hearlier hlater hext index hanswer
  have hbefore := (isIndexOf_of_mem_internings hsize hearlier hanswer).of_extends hext
  have hgrows := (extends_after later (extends_of_mem_internings hsize hlater).2).1
  exact ⟨hbefore, hbefore.of_extends hgrows⟩

/-- Any two calls of a run agree, whichever of them comes first. -/
theorem agree_of_mem_internings (hsize : pool.slots.size ≤ 65535)
    (h : call ∈ pool.internings texts) (h' : call' ∈ pool.internings texts) : call.Agree call' := by
  have hself : ∀ call ∈ pool.internings texts, call.Agree call := by
    intro call hcall index index' hanswer hanswer'
    have hindex := isIndexOf_of_mem_internings hsize hcall hanswer
    exact hindex.eq_iff (isIndexOf_of_mem_internings hsize hcall hanswer')
  -- Both indices are compared in the pool that the later call leaves.
  have hpairs : (pool.internings texts).Pairwise Agree := by
    refine (pairwise_isIndexOf hsize).imp_of_mem ?_
    intro earlier later _ hlater hstays index index' hanswer hanswer'
    exact (hstays index hanswer).2.eq_iff (isIndexOf_of_mem_internings hsize hlater hanswer')
  exact List.Pairwise.forall_of_forall hself hpairs h h'

/-- **Interning names texts.**  In a pool that was read, texts are interned one after the other,
some of them perhaps refused.  Any two calls that are answered get the same index exactly when they
have the same text.  The index that is answered reads as the text and is the lowest one with its
spelling, in the pool that is left and in all pools after that; and when the text is interned again,
however full the pool has become, it is answered once more and the pool stays as it is. -/
theorem internings_of_decode (h : decode bytes = .ok (pool, rest)) (texts : List String) :
    (∀ call ∈ pool.internings texts, ∀ call' ∈ pool.internings texts, ∀ index index',
        call.answer = .ok index → call'.answer = .ok index' →
          (index = index' ↔ call.text = call'.text)) ∧
      (∀ call ∈ pool.internings texts, ∀ index, call.answer = .ok index →
        call.after.text index = .ok call.text ∧ call.after.IsIndexOf call.text index) ∧
      (pool.internings texts).Pairwise fun earlier later => ∀ index, earlier.answer = .ok index →
        (later.after.text index = .ok earlier.text ∧ later.after.IsIndexOf earlier.text index) ∧
          (later.text = earlier.text → later.answer = .ok index ∧ later.after = later.before) := by
  have hsize := (decode_reads.mp h).1.size_le
  refine ⟨fun call hcall call' hcall' => agree_of_mem_internings hsize hcall hcall',
    fun call hcall index hanswer => ?_, ?_⟩
  · have hindex := isIndexOf_of_mem_internings hsize hcall hanswer
    exact ⟨hindex.text_eq, hindex⟩
  · refine (pairwise_isIndexOf hsize).imp fun hstays index hanswer => ?_
    obtain ⟨hbefore, hafter⟩ := hstays index hanswer
    refine ⟨⟨hafter.text_eq, hafter⟩, fun hsame => answer_of_isIndexOf ?_⟩
    rw [hsame]
    exact hbefore

/-- The crowded pool with a text in its last slot. -/
def filled : ConstantPool :=
  crowded.pool.grow ["/repo/out"]

/-- In a pool with one slot left, a text takes that slot, the next one is refused for want of
another, and the first is answered again although the pool is full. -/
theorem internings_of_decode_crowded :
    decode crowded.pool.encode = .ok (crowded.pool, []) ∧ filled.slots.size = 65535 ∧
      crowded.pool.internings ["/repo/out", "/repo/in", "/repo/out"] =
        [⟨crowded.pool, "/repo/out"⟩, ⟨filled, "/repo/in"⟩, ⟨filled, "/repo/out"⟩] ∧
      Interning.answer ⟨crowded.pool, "/repo/out"⟩ = .ok 65534 ∧
      Interning.answer ⟨filled, "/repo/in"⟩ = .error .poolFull ∧
      Interning.answer ⟨filled, "/repo/out"⟩ = .ok 65534 ∧
      Interning.after ⟨filled, "/repo/out"⟩ = filled := by
  have hdecode : decode crowded.pool.encode = .ok (crowded.pool, []) :=
    decode_reads.mpr ⟨crowded_wellFormed.pool, (List.append_nil _).symm⟩
  have hsize : filled.slots.size = 65535 := by
    rw [filled, size_grow, size_crowded, List.length_singleton]
  have hfirst : crowded.pool.intern "/repo/out" = .ok (65534, filled) := by
    rw [intern_eq_ok, push_eq_ok, length, size_crowded]
    exact .inr ⟨crowded_oneSlotShort.path_new, crowded_oneSlotShort.path_le, by decide, rfl, rfl⟩
  have hrefused : filled.intern "/repo/in" = .error .poolFull := by
    have hnew : ¬ crowded.pool.Spells "/repo/in" :=
      not_spells_crowded (by decide +kernel) (by decide)
    have hlen : (ModifiedUtf8.encode "/repo/in").length ≤ 65535 := by decide +kernel
    rw [intern_eq_error, push_eq_error, hsize, filled, spells_grow, not_or]
    exact ⟨⟨hnew, by decide⟩, .inr ⟨hlen, Nat.le_refl _, rfl⟩⟩
  have hcalls : crowded.pool.internings ["/repo/out", "/repo/in", "/repo/out"] =
      [⟨crowded.pool, "/repo/out"⟩, ⟨filled, "/repo/in"⟩, ⟨filled, "/repo/out"⟩] := by
    have hafter : Interning.after ⟨crowded.pool, "/repo/out"⟩ = filled := after_of_intern hfirst
    have hafter' : Interning.after ⟨filled, "/repo/in"⟩ = filled :=
      after_of_answer_eq_error (answer_eq_error.mpr hrefused)
    rw [internings, hafter, internings, hafter', internings, internings]
  have hanswer : Interning.answer ⟨crowded.pool, "/repo/out"⟩ = .ok 65534 := by
    rw [answer, hfirst]
    rfl
  obtain ⟨-, -, hlater⟩ := internings_of_decode hdecode ["/repo/out", "/repo/in", "/repo/out"]
  rw [hcalls, List.pairwise_cons] at hlater
  obtain ⟨-, hagain⟩ := hlater.1 ⟨filled, "/repo/out"⟩ (by simp) 65534 hanswer
  exact ⟨hdecode, hsize, hcalls, hanswer, answer_eq_error.mpr hrefused, hagain rfl⟩

end ClassOrigin.ClassFile.ConstantPool
