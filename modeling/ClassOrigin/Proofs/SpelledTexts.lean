/-
Texts spelled out byte by byte.

Bytes that should be a text are spelled character by character, and those that are part of no
character by their numbers.  No form of a character is the front of another one, so the bytes of a
text fall into its characters again:

* **`Utf8.scan_encode_append`** — behind a character, reading starts anew;
* **`Spelled.character?_encode_append`** — so a character is found where bytes start with it;
* **`Spelled.bytes_ofText`** — hence the bytes of a text are spelled as the text is quoted.
-/
import ClassOrigin.Proofs.PathTexts
import ClassOrigin.Proofs.Utf8Exactness
import ClassOrigin.Text.Spelled

namespace ClassOrigin

open String (utf8EncodeChar)

/-! ### Fronts of characters -/

namespace Utf8

variable {c d : Char} {rest : Bytes}

/-- Behind a character, reading starts anew. -/
theorem scan_encode_append (c : Char) (rest : Bytes) :
    scan (utf8EncodeChar c ++ rest) = some c :: scan rest := by
  have honto : (⟨none, [some c]⟩ : State) = State.onto ⟨none, []⟩ [some c] := rfl
  rw [scan, List.foldl_append, foldl_utf8EncodeChar, honto, foldl_onto, finish_onto]
  rfl

/-- No form of a character goes on behind the form of another. -/
theorem eq_nil_of_encode_append (h : utf8EncodeChar d ++ rest = utf8EncodeChar c) : rest = [] := by
  have hscan : scan (utf8EncodeChar d ++ rest) = scan (utf8EncodeChar c ++ []) := by
    rw [h, List.append_nil]
  rw [scan_encode_append, scan_encode_append] at hscan
  by_contra hne
  exact scan_ne_nil hne (List.cons.inj hscan).2

end Utf8

namespace Spelled

/-! ### The first character -/

/-- A front of bytes that spells one character is the form of that character. -/
theorem eq_encode_of_decode? {bytes : Bytes} {d : Char}
    (h : (Utf8.decode? bytes).map String.toList = some [d]) : bytes = utf8EncodeChar d := by
  obtain ⟨text, htext, hchars⟩ := Option.map_eq_some_iff.mp h
  rw [Utf8.decode?_eq_some_iff.mp htext, Bytes.ofText_eq, hchars]
  exact List.flatMap_singleton _ d

theorem decode?_encode (c : Char) :
    (Utf8.decode? (utf8EncodeChar c)).map String.toList = some [c] := by
  have hbytes : utf8EncodeChar c = Bytes.ofText (String.ofList [c]) := by
    rw [Bytes.ofText_eq, String.toList_ofList, List.flatMap_singleton]
  rw [hbytes, Utf8.decode?_ofText, Option.map_some, String.toList_ofList]

/-- A character is found where bytes start with it: no shorter front of them is a character. -/
theorem character?_encode_append (c : Char) (rest : Bytes) :
    character? (utf8EncodeChar c ++ rest) = some (c, (utf8EncodeChar c).length - 1) := by
  set form := utf8EncodeChar c with hform
  have hlength : 0 < form.length ∧ form.length ≤ 4 := by
    rw [hform, String.length_utf8EncodeChar]
    exact ⟨c.utf8Size_pos, c.utf8Size_le_four⟩
  have hrange : ∀ n < 4, List.range 4 = List.range n ++ n :: List.range' (n + 1) (3 - n) := by
    decide
  refine List.findSome?_eq_some_iff.mpr
    ⟨_, form.length - 1, _, hrange (form.length - 1) (by omega), ?_, fun more hmore => ?_⟩
  · rw [Nat.sub_add_cancel hlength.1, List.take_left, hform, decode?_encode]
  · have hshort : more + 1 < form.length := by
      have := List.mem_range.mp hmore
      omega
    rw [List.take_append_of_le_length hshort.le]
    split
    · rename_i d hd
      -- What is left of the form behind a shorter character would have to be empty.
      have hfront : utf8EncodeChar d ++ form.drop (more + 1) = utf8EncodeChar c := by
        rw [← eq_encode_of_decode? hd, List.take_append_drop]
      have hnil := Utf8.eq_nil_of_encode_append hfront
      exact absurd (List.drop_eq_nil_iff.mp hnil) (Nat.not_le.mpr hshort)
    · rfl

/-! ### Texts -/

theorem pieces_append (front back : Bytes) :
    pieces front.length (front ++ back) = pieces 0 back := by
  induction front with
  | nil => rfl
  | cons b front ih => exact ih

theorem pieces_encode_append (c : Char) (rest : Bytes) :
    pieces 0 (utf8EncodeChar c ++ rest) = Quoted.escape c :: pieces 0 rest := by
  have hfirst := character?_encode_append c rest
  obtain ⟨b, more, hform⟩ := List.exists_cons_of_ne_nil (String.utf8EncodeChar_ne_nil (c := c))
  rw [hform] at hfirst ⊢
  rw [List.cons_append] at hfirst ⊢
  rw [pieces, hfirst]
  exact congrArg (Quoted.escape c :: ·) (pieces_append more rest)

theorem pieces_encode (text : List Char) :
    pieces 0 (text.flatMap utf8EncodeChar) = text.map Quoted.escape := by
  induction text with
  | nil => rfl
  | cons c text ih => rw [List.flatMap_cons, pieces_encode_append, ih, List.map_cons]

/-- **Bytes of a text.**  The bytes of a text are spelled as the text is quoted. -/
theorem bytes_ofText (text : String) : bytes (Bytes.ofText text) = Quoted.quote text := by
  rw [bytes, Bytes.ofText_eq, pieces_encode, Quoted.quote, String.foldl_eq_foldl_toList,
    String.join, List.foldl_map]

-- A form that stops short is written byte by byte.
example : bytes [0x2F, 0xC3, 0xA9, 0xE2, 0x82] = "\"/é\\xE2\\x82\"" := by decide +kernel

end Spelled

end ClassOrigin
