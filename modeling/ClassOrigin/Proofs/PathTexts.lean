/-
Paths and texts.

A slash is a byte of ASCII, so a text and its UTF-8 form are split by slashes in the same places:

* **`decodeLossy_intercalate`** — what is joined by slashes is read piece by piece, whether or not
  the pieces are well formed;
* **`ofText_intercalate`** — and texts that are joined by slashes are written one by one;
* **`exists_ofText_of_mem_components`** — hence the components of a path that is a text are texts.
-/
import ClassOrigin.CodeLocation
import ClassOrigin.Proofs.PathComponents
import ClassOrigin.Proofs.Utf8Scan

namespace ClassOrigin

/-! ### Bytes of ASCII in characters -/

namespace Utf8

variable {b : UInt8} {c : Char} {bytes : Bytes}

/-- A byte of ASCII is no part of another character. -/
theorem eq_of_mem_utf8EncodeChar (hb : b.toNat < 0x80) (h : b ∈ String.utf8EncodeChar c) :
    c = Char.ofNat b.toNat := by
  have hscan : scan (String.utf8EncodeChar c) = [some c] := by
    rw [scan, foldl_utf8EncodeChar]
    rfl
  obtain ⟨front, back, hsplit⟩ := List.append_of_mem h
  have hmem : some (Char.ofNat b.toNat) ∈ scan (String.utf8EncodeChar c) := by
    rw [hsplit, scan_append_cons front back hb]
    exact List.mem_append_right _ List.mem_cons_self
  rw [hscan, List.mem_singleton] at hmem
  exact (Option.some.inj hmem).symm

theorem finish_start_ne_nil (pieces : List (Option Char)) (b : UInt8) :
    (State.start pieces b).finish ≠ [] := by
  rw [State.start]
  cases lead b with
  | character c => simp [State.finish]
  | opens form => simp [State.finish]
  | broken => simp [State.finish]

/-- A byte is read, or opens a form that is not finished. -/
theorem finish_step_ne_nil (s : State) (b : UInt8) : (s.step b).finish ≠ [] := by
  rcases s with ⟨_ | form, pieces⟩
  · exact finish_start_ne_nil pieces b
  · simp only [State.step]
    split
    · split
      · simp [State.finish]
      · simp [State.finish]
    · exact finish_start_ne_nil (none :: pieces) b

/-- What has bytes is read as something. -/
theorem scan_ne_nil (h : bytes ≠ []) : scan bytes ≠ [] := by
  obtain ⟨front, b, rfl⟩ := (List.eq_nil_or_concat' bytes).resolve_left h
  rw [scan, List.foldl_append]
  exact finish_step_ne_nil _ b

theorem toList_decodeLossy (bytes : Bytes) :
    (decodeLossy bytes).toList = (scan bytes).map (·.getD '\uFFFD') :=
  String.toList_ofList

/-- A character of ASCII that is read is one of the bytes. -/
theorem mem_of_mem_decodeLossy (h : c ∈ (decodeLossy bytes).toList) (hpos : 0 < c.toNat)
    (hlt : c.toNat < 0x80) : UInt8.ofNat c.toNat ∈ bytes := by
  rw [toList_decodeLossy] at h
  obtain ⟨_ | d, hmem, hd⟩ := List.mem_map.mp h
  · rw [← hd] at hlt
    cases Nat.lt_irrefl _ (hlt.trans (by decide))
  · cases hd
    exact mem_of_mem_scan hmem hpos hlt

theorem decodeLossy_eq_empty_iff : decodeLossy bytes = "" ↔ bytes = [] := by
  refine ⟨fun h => ?_, fun h => by rw [h]; decide⟩
  by_contra hne
  have hscan := congrArg String.toList h
  rw [toList_decodeLossy] at hscan
  exact scan_ne_nil hne (List.map_eq_nil_iff.mp hscan)

theorem toList_decodeLossy_append_cons (front back : Bytes) (hb : b.toNat < 0x80) :
    (decodeLossy (front ++ b :: back)).toList =
      (decodeLossy front).toList ++ Char.ofNat b.toNat :: (decodeLossy back).toList := by
  simp only [toList_decodeLossy, scan_append_cons front back hb, List.map_append, List.map_cons]
  rfl

theorem decodeLossy_eq_dot_iff : decodeLossy bytes = "." ↔ bytes = [Path.dot] := by
  refine ⟨fun h => ?_, fun h => by rw [h]; decide⟩
  have hmem : '.' ∈ (decodeLossy bytes).toList := by
    rw [h]
    decide
  -- The dot is one of the bytes, and nothing is read around it.
  obtain ⟨front, back, rfl⟩ :=
    List.append_of_mem (mem_of_mem_decodeLossy hmem (by decide) (by decide))
  have hone := (toList_decodeLossy_append_cons (b := Path.dot) front back (by decide)).symm.trans
    (congrArg String.toList h)
  have haround : (decodeLossy front).toList = [] ∧ (decodeLossy back).toList = [] := by
    rcases List.append_eq_singleton_iff.mp hone with ⟨hfront, hback⟩ | ⟨-, hback⟩
    · exact ⟨hfront, (List.cons.inj hback).2⟩
    · cases hback
  obtain ⟨hfront, hback⟩ := haround
  rw [String.toList_eq_nil_iff, decodeLossy_eq_empty_iff] at hfront hback
  rw [hfront, hback]
  rfl

/-- What is joined by slashes is read piece by piece. -/
theorem decodeLossy_intercalate : ∀ parts : List Bytes,
    decodeLossy (Path.intercalate [Path.slash] parts) = "/".intercalate (parts.map decodeLossy)
  | [] => by decide
  | [part] => by rw [Path.intercalate_singleton]; exact String.intercalate_singleton.symm
  | part :: next :: parts => by
    have hparts := decodeLossy_intercalate (next :: parts)
    rw [List.map_cons] at hparts
    rw [Path.intercalate_cons_cons, List.map_cons, List.map_cons, String.intercalate_cons_cons,
      ← hparts, ← String.toList_inj, toList_decodeLossy_append_cons _ _ (by decide)]
    simp [Path.slash]

end Utf8

/-! ### Texts as bytes -/

namespace Bytes

theorem ofText_injective : Function.Injective ofText := by
  intro s t h
  rw [← Utf8.decodeLossy_ofText s, h, Utf8.decodeLossy_ofText]

theorem ofText_append (s t : String) : ofText (s ++ t) = ofText s ++ ofText t := by
  rw [ofText_eq, ofText_eq, ofText_eq, String.toList_append, List.flatMap_append]

theorem ofText_intercalate : ∀ texts : List String,
    ofText ("/".intercalate texts) = Path.intercalate [Path.slash] (texts.map ofText)
  | [] => by decide
  | [text] => by
    rw [String.intercalate_singleton]
    exact (Path.intercalate_singleton (ofText text)).symm
  | text :: next :: texts => by
    have htexts := ofText_intercalate (next :: texts)
    have hslash : ofText "/" = [Path.slash] := by decide
    rw [List.map_cons] at htexts
    rw [String.intercalate_cons_cons, List.map_cons, List.map_cons, Path.intercalate_cons_cons,
      ← htexts, ofText_append, ofText_append, hslash, List.append_assoc]
    rfl

theorem slash_notMem_ofText {text : String} (h : '/' ∉ text.toList) :
    Path.slash ∉ ofText text := by
  rw [ofText_eq, List.mem_flatMap]
  rintro ⟨c, hc, hslash⟩
  rw [Utf8.eq_of_mem_utf8EncodeChar (by decide) hslash] at hc
  exact h hc

end Bytes

/-! ### Paths that are texts -/

namespace Path

variable {text : String} {c : Component}

/-- A text is split by its slashes, and so are its bytes. -/
theorem pieces_ofText (text : String) :
    (ofText text).pieces =
      (text.toList.splitOn '/').map fun part => Bytes.ofText (String.ofList part) := by
  have htext : text = "/".intercalate ((text.toList.splitOn '/').map String.ofList) := by
    rw [← String.toList_inj, String.toList_intercalate, List.map_map]
    simp [Function.comp_def, List.intercalate_splitOn]
  have hbytes := Bytes.ofText_intercalate ((text.toList.splitOn '/').map String.ofList)
  rw [← htext, List.map_map] at hbytes
  rw [ofText, pieces, hbytes]
  refine List.splitOn_intercalate slash (fun piece hpiece => ?_) (by simp)
  obtain ⟨part, hpart, rfl⟩ := List.mem_map.mp hpiece
  exact Bytes.slash_notMem_ofText (by simpa using notMem_of_mem_splitOn hpart)

/-- The components of a text are texts. -/
theorem exists_ofText_of_mem_components (h : c ∈ (ofText text).components) :
    ∃ part, Bytes.ofText part = c.bytes := by
  rw [components_eq, List.mem_append] at h
  rcases h with h | h
  · rw [lead] at h
    split at h
    · rw [List.mem_singleton.mp h]
      exact ⟨"/", by decide⟩
    · split at h
      · rw [List.mem_singleton.mp h]
        exact ⟨".", by decide⟩
      · cases h
  · obtain ⟨piece, hmem, hpiece⟩ := List.mem_filterMap.mp h
    rw [pieces_ofText] at hmem
    obtain ⟨part, -, rfl⟩ := List.mem_map.mp hmem
    exact ⟨String.ofList part, (Component.bytes_of_ofPiece? hpiece).symm⟩

end Path

end ClassOrigin
