/-
Splitting a text at a character.

Texts are split by a walk over byte offsets, which keeps the start of the current piece and the
place that has been reached.  At a separator of one character the walk never has to go back, so
its offsets always stand between a front part, the current piece and the rest:

* **`splitOnAux_end`**, **`splitOnAux_separator`**, **`splitOnAux_other`** — one step of the walk,
  by what comes next;
* **`splitOn_singleton`** — so a text is split as the list of its characters is;
* **`splitOn_append`** — and a separator between two texts splits them apart;
* **`flatten_splitOn`** — what a list is split into is the list without its separators.
-/
import Mathlib.Data.String.Basic

namespace ClassOrigin

open String

variable {c d : Char} {front piece back : List Char} {pieces : List String}

/-- Splitting a list takes away the separators and nothing else. -/
theorem flatten_splitOn {α : Type} [BEq α] [LawfulBEq α] (x : α) (xs : List α) :
    (xs.splitOn x).flatten = xs.filter (· != x) := by
  induction xs with
  | nil => rfl
  | cons y xs ih =>
    rw [List.splitOn_cons_eq_if_modifyHead]
    split
    · rename_i hy
      rw [List.filter_cons_of_neg (by simpa using hy), ← ih]
      rfl
    · rename_i hy
      rw [List.filter_cons_of_pos (by simpa using hy), ← ih]
      -- What is no separator goes in front of the first piece of the rest.
      rcases hsplit : xs.splitOn x with _ | ⟨first, others⟩
      · exact absurd hsplit (List.splitOn_ne_nil x xs)
      · rfl

/-- No piece has a separator in it. -/
theorem notMem_of_mem_splitOn {α : Type} [BEq α] [LawfulBEq α] {x : α} {xs part : List α}
    (h : part ∈ xs.splitOn x) : x ∉ part := by
  intro hx
  have hmem := List.mem_flatten_of_mem h hx
  rw [flatten_splitOn, List.mem_filter] at hmem
  simp at hmem

/-! ### One step -/

theorem splitOnAux_end :
    splitOnAux (ofList (front ++ piece)) (ofList [c]) ⟨utf8Len front⟩ ⟨utf8Len (front ++ piece)⟩ 0
      pieces = pieces.reverse ++ [ofList piece] := by
  have hend := (atEnd_of_valid (front ++ piece) []).mpr rfl
  have hpiece := extract_of_valid front piece []
  rw [List.append_nil] at hend hpiece
  rw [splitOnAux, if_pos hend, utf8Len_append, hpiece, List.reverse_cons]

/-- A separator ends the piece, and the next one starts behind it. -/
theorem splitOnAux_separator :
    splitOnAux (ofList (front ++ piece ++ c :: back)) (ofList [c]) ⟨utf8Len front⟩
        ⟨utf8Len (front ++ piece)⟩ 0 pieces =
      splitOnAux (ofList (front ++ piece ++ c :: back)) (ofList [c])
        ⟨utf8Len (front ++ piece ++ [c])⟩ ⟨utf8Len (front ++ piece ++ [c])⟩ 0
        (ofList piece :: pieces) := by
  have hmore : ¬ Pos.Raw.atEnd (ofList (front ++ piece ++ c :: back)) ⟨utf8Len (front ++ piece)⟩ =
      true := mt (atEnd_of_valid _ _).mp (List.cons_ne_nil c back)
  have hget : Pos.Raw.get (ofList [c]) 0 = c := get_of_valid [] [c]
  have hnext : Pos.Raw.next (ofList [c]) 0 = ⟨c.utf8Size⟩ := by
    simpa using next_of_valid [] c []
  have hend : Pos.Raw.atEnd (ofList [c]) ⟨c.utf8Size⟩ = true := by
    simpa using atEnd_of_valid [c] []
  have hback : Pos.Raw.unoffsetBy ⟨utf8Len (front ++ piece) + c.utf8Size⟩ ⟨c.utf8Size⟩ =
      ⟨utf8Len front + utf8Len piece⟩ := by
    simp [Pos.Raw.unoffsetBy]
  rw [splitOnAux, if_neg hmore, get_of_valid, next_of_valid, hget, hnext]
  simp only [List.headD_cons, beq_self_eq_true, if_true, hend, hback,
    extract_of_valid front piece (c :: back)]
  simp [utf8Len_append, Nat.add_assoc]

/-- Any other character belongs to the piece. -/
theorem splitOnAux_other (h : d ≠ c) :
    splitOnAux (ofList (front ++ piece ++ d :: back)) (ofList [c]) ⟨utf8Len front⟩
        ⟨utf8Len (front ++ piece)⟩ 0 pieces =
      splitOnAux (ofList (front ++ piece ++ d :: back)) (ofList [c]) ⟨utf8Len front⟩
        ⟨utf8Len (front ++ (piece ++ [d]))⟩ 0 pieces := by
  have hmore : ¬ Pos.Raw.atEnd (ofList (front ++ piece ++ d :: back)) ⟨utf8Len (front ++ piece)⟩ =
      true := mt (atEnd_of_valid _ _).mp (List.cons_ne_nil d back)
  have hget : Pos.Raw.get (ofList [c]) 0 = c := get_of_valid [] [c]
  have hstay : Pos.Raw.unoffsetBy ⟨utf8Len (front ++ piece)⟩ 0 = ⟨utf8Len (front ++ piece)⟩ := by
    simp [Pos.Raw.unoffsetBy]
  rw [splitOnAux, if_neg hmore, get_of_valid, hget, if_neg (by simpa using h), hstay,
    next_of_valid]
  simp [utf8Len_append, Nat.add_assoc]

/-! ### The whole walk -/

theorem splitOnAux_singleton (c : Char) (front piece back : List Char) (pieces : List String) :
    splitOnAux (ofList (front ++ piece ++ back)) (ofList [c]) ⟨utf8Len front⟩
        ⟨utf8Len (front ++ piece)⟩ 0 pieces =
      pieces.reverse ++ (List.splitOnPPrepend (· == c) back piece.reverse).map ofList := by
  induction back generalizing front piece pieces with
  | nil => simpa [-ofList_append] using splitOnAux_end
  | cons d back ih =>
    by_cases hd : d = c
    · subst hd
      have hrest := ih (front ++ piece ++ [d]) [] (ofList piece :: pieces)
      rw [splitOnAux_separator, List.splitOnPPrepend_cons_eq_if]
      simpa [-ofList_append] using hrest
    · have hrest := ih front (piece ++ [d]) pieces
      rw [splitOnAux_other hd, List.splitOnPPrepend_cons_eq_if]
      simpa [-ofList_append, hd] using hrest

/-- A text is split at a character as the list of its characters is. -/
theorem splitOn_singleton (text : String) (c : Char) :
    text.splitOn (ofList [c]) = (text.toList.splitOn c).map ofList := by
  have h := splitOnAux_singleton c [] [] text.toList []
  rw [List.nil_append, List.nil_append, ofList_toList] at h
  rw [splitOn, if_neg (by simp)]
  exact h

/-- A separator between two texts splits them apart. -/
theorem splitOn_append (first second : String) (c : Char) :
    (first ++ ofList [c] ++ second).splitOn (ofList [c]) =
      first.splitOn (ofList [c]) ++ second.splitOn (ofList [c]) := by
  have hchars : (first ++ ofList [c] ++ second).toList = first.toList ++ c :: second.toList := by
    simp
  rw [splitOn_singleton, splitOn_singleton, splitOn_singleton, hchars, List.splitOn,
    List.splitOnP_append_cons (p := fun x => x == c) _ _ (beq_self_eq_true c), List.map_append]
  rfl

end ClassOrigin
