/-
Trimming.

* **`IsTrimmedBy`** — a text that does not begin or end with a character of some kind;
* **`trimBy_of_isTrimmedBy`** — trimming leaves such a text as it is;
* **`trimBy_append_append`** — and takes away what stands around it;
* **`exists_trimBy_append`** — what stands in front of some other character is not trimmed away from
  behind.
-/
import ClassOrigin.Text.Blank
import Mathlib.Data.List.Basic
import Mathlib.Data.List.TakeWhile

namespace ClassOrigin.Blank

variable {p : Char → Bool} {text front : List Char} {c : Char}

/-- Neither the first nor the last character of a text satisfies `p`. -/
structure IsTrimmedBy (p : Char → Bool) (text : List Char) : Prop where
  head : ∀ c ∈ text.head?, p c = false
  last : ∀ c ∈ text.getLast?, p c = false

instance (p : Char → Bool) (text : List Char) : Decidable (IsTrimmedBy p text) :=
  decidable_of_iff
    ((text.head?.all fun c => !p c) = true ∧ (text.getLast?.all fun c => !p c) = true)
    ⟨fun h => ⟨by simpa [Option.all_eq_true] using h.1, by simpa [Option.all_eq_true] using h.2⟩,
      fun h => ⟨by simpa [Option.all_eq_true] using h.head,
        by simpa [Option.all_eq_true] using h.last⟩⟩

theorem dropWhile_of_head (h : ∀ c ∈ text.head?, p c = false) : text.dropWhile p = text := by
  rcases text with _ | ⟨c, rest⟩
  · rfl
  · exact List.dropWhile_cons_of_neg (by simp [h c rfl])

theorem trimBy_of_isTrimmedBy (h : IsTrimmedBy p text) : trimBy p text = text := by
  rw [trimBy, dropWhile_of_head h.head, dropWhile_of_head (by simpa using h.last),
    List.reverse_reverse]

/-- A text without characters of the kind is trimmed. -/
theorem isTrimmedBy_of_forall (h : ∀ c ∈ text, p c = false) : IsTrimmedBy p text where
  head c hc := h c (List.mem_of_mem_head? hc)
  last c hc := h c (List.mem_of_mem_getLast? hc)

theorem IsTrimmedBy.append {back : List Char} (hfront : IsTrimmedBy p front)
    (hback : IsTrimmedBy p back) : IsTrimmedBy p (front ++ back) where
  head c hc := by
    rcases front with _ | ⟨d, front⟩
    · exact hback.head c hc
    · exact hfront.head c hc
  last c hc := by
    rcases List.eq_nil_or_concat' back with rfl | ⟨back, d, rfl⟩
    · rw [List.append_nil] at hc
      exact hfront.last c hc
    · refine hback.last c ?_
      rwa [List.getLast?_append_of_ne_nil _ (by simp)] at hc

/-- What is trimmed away can stand around a text or not. -/
theorem trimBy_append_append {back : List Char} (hfront : ∀ c ∈ front, p c = true)
    (hback : ∀ c ∈ back, p c = true) (text : List Char) :
    trimBy p (front ++ text ++ back) = trimBy p text := by
  have hrest : back.dropWhile p = [] := List.dropWhile_eq_nil_iff.mpr hback
  rw [trimBy, trimBy, List.append_assoc, List.dropWhile_append_of_pos hfront,
    List.dropWhile_append]
  split
  · rename_i hall
    rw [hrest, List.isEmpty_iff.mp hall]
  · rw [List.reverse_append,
      List.dropWhile_append_of_pos fun c hc => hback c (List.mem_reverse.mp hc)]

theorem exists_trimBy_append (hne : front ≠ []) (hfront : ∀ c ∈ front.head?, p c = false)
    (hc : p c = false) (back : List Char) :
    ∃ kept, trimBy p (front ++ c :: back) = front ++ c :: kept := by
  have hhead : ∀ d ∈ (front ++ c :: back).head?, p d = false := by
    rwa [List.head?_append_of_ne_nil _ hne]
  refine ⟨(back.reverse.dropWhile p).reverse, ?_⟩
  rw [trimBy, dropWhile_of_head hhead, List.reverse_append, List.reverse_cons, List.append_assoc,
    List.dropWhile_append]
  split
  · -- Everything behind the character went, and the character stayed.
    rename_i hall
    rw [List.isEmpty_iff.mp hall, List.singleton_append, List.dropWhile_cons_of_neg (by simp [hc])]
    simp
  · simp

end ClassOrigin.Blank
