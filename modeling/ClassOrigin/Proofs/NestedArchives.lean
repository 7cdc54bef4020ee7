/-
URLs inside archives.

A `jar:` URL is cut in front of its first `!/`, and what is left names the archive; that may be a
`jar:` URL again.

* **`beforeEntry_append`**, **`beforeEntry_of_unmarked`** — where a text is cut;
* **`Unwinds`** — the cuts that lead from a text to a URL that is no `jar:` URL;
* **`exists_unwinds`** — they come to an end on every text, as each takes four characters away;
* **`parse?_of_unwinds`** — the URL at the end is what counts, and after a cut it is an archive;
* **`ofUrl_nestedUrl`** — so an entry is in the outermost archive, however deep it lies.
-/
import ClassOrigin.CodeLocation
import ClassOrigin.Proofs.Trimming
import Mathlib.Data.List.Infix

namespace ClassOrigin.CodeLocation

variable {text inner core front : List Char} {steps : ℕ}

/-! ### Where a text is cut -/

theorem beforeEntryOnto_cons (acc : List Char) {c : Char} {rest : List Char}
    (h : ¬ "!/".toList <+: c :: rest) :
    beforeEntryOnto acc (c :: rest) = beforeEntryOnto (c :: acc) rest := by
  rw [beforeEntryOnto]
  rintro back rfl rfl
  exact h ⟨back, rfl⟩

theorem beforeEntryOnto_of_unmarked (acc : List Char) (h : ¬ "!/".toList <:+: text) :
    beforeEntryOnto acc text = acc.reverse ++ text := by
  induction text generalizing acc with
  | nil => simp [beforeEntryOnto]
  | cons c rest ih =>
    rw [List.infix_cons_iff, not_or] at h
    rw [beforeEntryOnto_cons acc h.1, ih _ h.2]
    simp

theorem beforeEntryOnto_append (acc back : List Char) (h : ¬ "!/".toList <:+: front) :
    beforeEntryOnto acc (front ++ '!' :: '/' :: back) = acc.reverse ++ front := by
  induction front generalizing acc with
  | nil => simp [beforeEntryOnto]
  | cons c rest ih =>
    rw [List.infix_cons_iff, not_or] at h
    have hcut : ¬ "!/".toList <+: c :: (rest ++ '!' :: '/' :: back) := by
      -- The mark behind `rest` starts with `!`, so it adds no slash to a `!` in front of it.
      rcases rest with _ | ⟨d, rest⟩
      · simp
      · simpa using h.1
    rw [List.cons_append, beforeEntryOnto_cons acc hcut, ih _ h.2]
    simp

/-- A text without the mark is not cut. -/
theorem beforeEntry_of_unmarked (h : ¬ "!/".toList <:+: text) : beforeEntry text = text :=
  beforeEntryOnto_of_unmarked [] h

/-- A text is cut at its first mark, whatever stands behind that. -/
theorem beforeEntry_append (back : List Char) (h : ¬ "!/".toList <:+: front) :
    beforeEntry (front ++ '!' :: '/' :: back) = front :=
  beforeEntryOnto_append [] back h

/-! ### Cut after cut -/

theorem parse?_of_jar (h : afterJar? text = some inner) :
    parse? text = ((parse? (beforeEntry inner)).bind path?).map archive := by
  rw [parse?]
  split
  · rename_i inner' hinner
    obtain rfl := Option.some.inj (h.symm.trans hinner)
    rcases parse? (beforeEntry inner) with _ | location
    · rfl
    · rfl
  · rename_i hnone
    rw [h] at hnone
    cases hnone

theorem parse?_of_not_jar (h : afterJar? text = none) :
    parse? text = (FileUrl.parse? text).map fun url =>
      if url.endsWithSlash then directory url.path.normalize else archive url.path.normalize := by
  rw [parse?]
  split
  · rename_i hsome
    rw [h] at hsome
    cases hsome
  · rfl

/-- Cutting `text` the given number of times leaves `core`, which cannot be cut any more. -/
inductive Unwinds : List Char → ℕ → List Char → Prop
  | done {text : List Char} (h : afterJar? text = none) : Unwinds text 0 text
  | cut {text inner core : List Char} {steps : ℕ} (h : afterJar? text = some inner)
      (hrest : Unwinds (beforeEntry inner) steps core) : Unwinds text (steps + 1) core

theorem length_of_afterJar? (h : afterJar? text = some inner) : text.length = inner.length + 4 := by
  unfold afterJar? at h
  split at h
  · cases h
    rfl
  · cases h

/-- Every text can be cut until nothing is left to cut. -/
theorem exists_unwinds (text : List Char) :
    ∃ steps core, Unwinds text steps core ∧ 4 * steps + core.length ≤ text.length := by
  rcases h : afterJar? text with _ | inner
  · exact ⟨0, text, .done h, by omega⟩
  · obtain ⟨steps, core, hunwinds, hlength⟩ := exists_unwinds (beforeEntry inner)
    have hcut : (beforeEntry inner).length ≤ inner.length :=
      (length_beforeEntryOnto_le [] inner).trans (by simp)
    have hjar := length_of_afterJar? h
    exact ⟨steps + 1, core, .cut h hunwinds, by omega⟩
termination_by text.length
decreasing_by exact length_beforeEntry_lt h

/-- The URL that is left says which path is meant. -/
theorem path?_of_unwinds (h : Unwinds text steps core) :
    (parse? text).bind path? = (FileUrl.parse? core).map fun url => url.path.normalize := by
  induction h with
  | @done text h =>
    rw [parse?_of_not_jar h]
    rcases FileUrl.parse? text with _ | url
    · rfl
    · simp only [Option.map_some, Option.bind_some]
      split
      · rfl
      · rfl
  | cut h _ ih =>
    rw [parse?_of_jar h, ← ih]
    rcases (parse? (beforeEntry _)).bind path? with _ | p
    · rfl
    · rfl

/-- After a cut, whatever is found is an archive. -/
theorem parse?_of_unwinds_succ (h : Unwinds text (steps + 1) core) :
    parse? text = ((parse? text).bind path?).map archive := by
  cases h with
  | cut h _ =>
    rw [parse?_of_jar h]
    rcases (parse? (beforeEntry _)).bind path? with _ | p
    · rfl
    · rfl

/-! ### Archives in archives -/

/-- A text behind some number of prefixes. -/
def prefixed (depth : ℕ) (text : List Char) : List Char :=
  (List.replicate depth "jar:").flatMap String.toList ++ text

theorem afterJar?_prefixed_succ (depth : ℕ) (text back : List Char) :
    afterJar? (prefixed (depth + 1) text ++ back) = some (prefixed depth text ++ back) :=
  rfl

theorem not_infix_prefixed (h : ¬ "!/".toList <:+: text) (depth : ℕ) :
    ¬ "!/".toList <:+: prefixed depth text := by
  induction depth with
  | zero => exact h
  | succ depth ih =>
    have hsucc : prefixed (depth + 1) text = 'j' :: 'a' :: 'r' :: ':' :: prefixed depth text := rfl
    rw [hsucc]
    simpa [List.infix_cons_iff] using ih

section

variable {outer : List Char} (hentry : ¬ "!/".toList <:+: outer) (h : Unwinds outer steps core)
  (depth : ℕ)

include hentry h

theorem unwinds_prefixed : Unwinds (prefixed depth outer) (steps + depth) core := by
  induction depth with
  | zero => exact h
  | succ depth ih =>
    have hjar := afterJar?_prefixed_succ depth outer []
    rw [List.append_nil, List.append_nil] at hjar
    refine .cut hjar ?_
    rwa [beforeEntry_of_unmarked (not_infix_prefixed hentry depth)]

/-- The first cut takes all entries away. -/
theorem unwinds_entry (entries : List Char) :
    Unwinds (prefixed (depth + 1) outer ++ '!' :: '/' :: entries) (steps + depth + 1) core := by
  refine .cut (afterJar?_prefixed_succ depth outer _) ?_
  rw [beforeEntry_append entries (not_infix_prefixed hentry depth)]
  exact unwinds_prefixed hentry h depth

theorem parse?_entry (entries : List Char) :
    parse? (prefixed (depth + 1) outer ++ '!' :: '/' :: entries) =
      ((parse? outer).bind path?).map archive := by
  have hnested := unwinds_entry hentry h depth entries
  rw [parse?_of_unwinds_succ hnested, path?_of_unwinds hnested, path?_of_unwinds h]

end

/-- The URL of an entry of the archive at `outer`, behind some number of prefixes. -/
def nestedUrl (depth : ℕ) (outer entries : String) : String :=
  String.join (List.replicate depth "jar:") ++ outer ++ "!/" ++ entries

theorem toList_nestedUrl (depth : ℕ) (outer entries : String) :
    (nestedUrl depth outer entries).toList =
      prefixed depth outer.toList ++ '!' :: '/' :: entries.toList := by
  simp [nestedUrl, prefixed, String.toList_join]

theorem toList_trim (text : String) :
    (Blank.trim text).toList = Blank.trimBy Blank.isBlank text.toList :=
  String.toList_ofList

theorem path?_ofUrl (text : String) :
    (ofUrl (some text)).path? = (parse? (Blank.trim text).toList).bind path? := by
  rw [ofUrl]
  rcases parse? (Blank.trim text).toList with _ | location
  · rfl
  · rfl

/-- An entry is where the archive is. -/
theorem ofUrl_entry {outer : String} (htrimmed : Blank.IsTrimmedBy Blank.isBlank outer.toList)
    (hentry : ¬ "!/".toList <:+: outer.toList) (depth : ℕ) (entries : String) :
    ofUrl (some (nestedUrl (depth + 1) outer entries)) =
      ((ofUrl (some outer)).path?.map archive).getD unknown := by
  -- White space can only be trimmed away behind the mark.
  have hfirst : ∀ c ∈ (prefixed (depth + 1) outer.toList ++ ['!']).head?,
      Blank.isBlank c = false := by
    rintro c ⟨⟩
    decide
  have hslash : Blank.isBlank '/' = false := by decide
  obtain ⟨kept, hkept⟩ := Blank.exists_trimBy_append (by simp) hfirst hslash entries.toList
  obtain ⟨steps, core, hunwinds, -⟩ := exists_unwinds outer.toList
  have hmark : prefixed (depth + 1) outer.toList ++ '!' :: '/' :: entries.toList =
      (prefixed (depth + 1) outer.toList ++ ['!']) ++ '/' :: entries.toList := by simp
  have hparse := parse?_entry hentry hunwinds depth kept
  rw [path?_ofUrl, toList_trim, Blank.trimBy_of_isTrimmedBy htrimmed, ← hparse, ofUrl, toList_trim,
    toList_nestedUrl, hmark, hkept]
  simp

/-- **The outermost archive counts.**  A text `outer` without white space around it and without the
mark `!/` may stand behind any number of prefixes and in front of any entries, with more marks and
white space in them: the location is the archive at the path of `outer`, and nothing where `outer`
names nothing.  Neither the number of prefixes nor the entries have a part in it.  And every text
comes to an end: it can be cut no more often than it has room for prefixes, and the URL that is left
then says which path is meant. -/
theorem ofUrl_nestedUrl {outer : String}
    (htrimmed : Blank.IsTrimmedBy Blank.isBlank outer.toList)
    (hentry : ¬ "!/".toList <:+: outer.toList) {depth : ℕ} (hdepth : 0 < depth)
    (entries : String) :
    (∀ q, (ofUrl (some outer)).path? = some q →
        ofUrl (some (nestedUrl depth outer entries)) = archive q) ∧
      (ofUrl (some outer) = unknown →
        ofUrl (some (nestedUrl depth outer entries)) = unknown) ∧
      (∀ (otherDepth : ℕ) (otherEntries : String), 0 < otherDepth →
        ofUrl (some (nestedUrl otherDepth outer otherEntries)) =
          ofUrl (some (nestedUrl depth outer entries))) ∧
      ∀ text, ∃ steps core, Unwinds text steps core ∧ 4 * steps + core.length ≤ text.length ∧
        (parse? text).bind path? = (FileUrl.parse? core).map fun url => url.path.normalize := by
  have hnested (depth : ℕ) (hdepth : 0 < depth) (entries : String) :
      ofUrl (some (nestedUrl depth outer entries)) =
        ((ofUrl (some outer)).path?.map archive).getD unknown := by
    obtain ⟨depth, rfl⟩ := Nat.exists_eq_succ_of_ne_zero hdepth.ne'
    exact ofUrl_entry htrimmed hentry depth entries
  refine ⟨fun q hq => ?_, fun hunknown => ?_, fun otherDepth otherEntries hother => ?_,
    fun text => ?_⟩
  · rw [hnested depth hdepth entries, hq]
    rfl
  · rw [hnested depth hdepth entries, hunknown]
    rfl
  · rw [hnested depth hdepth entries, hnested otherDepth hother otherEntries]
  · obtain ⟨steps, core, hunwinds, hlength⟩ := exists_unwinds text
    exact ⟨steps, core, hunwinds, hlength, path?_of_unwinds hunwinds⟩

/-- An archive whose name ends in `!`, behind three prefixes, with a mark and white space in the
name of the entry. -/
theorem ofUrl_nestedUrl_marked :
    Blank.IsTrimmedBy Blank.isBlank "jar:file:/a!".toList ∧
      ¬ "!/".toList <:+: "jar:file:/a!".toList ∧
      (ofUrl (some "jar:file:/a!")).path? = some (Path.ofText "/a!") ∧
      ofUrl (some "jar:jar:jar:file:/a!!/b!/ c \n") = archive (Path.ofText "/a!") := by
  have htrimmed : Blank.IsTrimmedBy Blank.isBlank "jar:file:/a!".toList :=
    ⟨by rintro c ⟨⟩; decide, by rintro c ⟨⟩; decide⟩
  have hentry : ¬ "!/".toList <:+: "jar:file:/a!".toList := by decide +kernel
  have hpath : (ofUrl (some "jar:file:/a!")).path? = some (Path.ofText "/a!") := by decide +kernel
  have hurl : nestedUrl 2 "jar:file:/a!" "b!/ c \n" = "jar:jar:jar:file:/a!!/b!/ c \n" := by
    decide +kernel
  obtain ⟨harchive, -⟩ := ofUrl_nestedUrl htrimmed hentry Nat.two_pos "b!/ c \n"
  exact ⟨htrimmed, hentry, hpath, hurl ▸ harchive _ hpath⟩

end ClassOrigin.CodeLocation
