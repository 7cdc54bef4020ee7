/-
The place that a URL names.

Every segment of a `file:` URL is written behind a slash, and the last one is always kept, so:

* **`Trail.follow_ne_nil`** — following segments leaves at least one;
* **`isAbsolute_of_parse?`** — hence the path of a `file:` URL starts at the root;
* **`isPlain_of_ofUrl`** — and so does the path of a place on disk, which is spelled plainly.
-/
import ClassOrigin.CodeLocation
import ClassOrigin.Proofs.PathComponents

namespace ClassOrigin

/-! ### Segments -/

namespace FileUrl

variable {text : List Char} {url : FileUrl}

namespace Trail

theorem push_ne_nil (trail : Trail) (segment : List Char) : (trail.push segment).segments ≠ [] := by
  rw [push]
  split
  · simp
  · dsimp only
    split
    · simp
    · simp
  · simp

/-- The last segment leaves something, whatever it is. -/
theorem follow_ne_nil {segments : List (List Char)} (h : segments ≠ []) (trail : Trail) :
    (trail.follow segments).segments ≠ [] := by
  induction segments generalizing trail with
  | nil => exact absurd rfl h
  | cons segment rest ih =>
    by_cases hrest : rest = []
    · -- A dot or two at the end leave an empty segment for the slash behind them.
      subst hrest
      simp only [follow, List.isEmpty_nil, if_true]
      split
      · exact push_ne_nil _ _
      · split
        · exact push_ne_nil _ _
        · exact push_ne_nil _ _
    · rw [follow]
      split
      · exact ih hrest _
      · split
        · exact ih hrest _
        · exact ih hrest _

theorem isAbsolute_toUrl {trail : Trail} (h : trail.segments ≠ []) :
    trail.toUrl.path.isAbsolute := by
  obtain ⟨before, last, hsegments⟩ := List.exists_cons_of_ne_nil (List.reverse_ne_nil_iff.mpr h)
  simp [toUrl, hsegments, Path.isAbsolute]

end Trail

/-- The path of a text is never empty, not even that of the empty text. -/
theorem isAbsolute_follow (text : List Char) : (follow text).toUrl.path.isAbsolute :=
  Trail.isAbsolute_toUrl (Trail.follow_ne_nil (List.splitOnP_ne_nil _ _) _)

theorem isAbsolute_of_afterSlashes? (h : afterSlashes? text = some url) :
    url.path.isAbsolute := by
  simp only [afterSlashes?] at h
  split at h
  · cases h
    exact isAbsolute_follow _
  · split at h
    · cases h
      exact isAbsolute_follow _
    · split at h
      · cases h
      · split at h
        · cases h
          exact isAbsolute_follow _
        · split at h
          · cases h
            exact isAbsolute_follow _
          · cases h

/-- A `file:` URL stands for an absolute path. -/
theorem isAbsolute_of_parse? (h : parse? text = some url) : url.path.isAbsolute := by
  obtain ⟨rest, -, hrest⟩ := Option.bind_eq_some_iff.mp h
  split at hrest
  · split at hrest
    · exact isAbsolute_of_afterSlashes? hrest
    · cases hrest
      exact isAbsolute_follow _
  · cases hrest
    exact isAbsolute_follow _

end FileUrl

/-! ### Places on disk -/

namespace CodeLocation

variable {p : Path}

theorem exists_isAbsolute_of_parse? {text : List Char} {location : CodeLocation}
    (h : parse? text = some location) (hpath : location.path? = some p) :
    ∃ q : Path, q.isAbsolute ∧ q.normalize = p := by
  fun_induction parse? text generalizing location with
  | case1 text inner hjar hlt outer hinner ih =>
    -- What is inside an archive has the path of the archive.
    obtain ⟨path, houter, rfl⟩ := Option.map_eq_some_iff.mp h
    cases hpath
    exact ih hinner houter
  | case2 text inner hjar hlt hinner ih => cases h
  | case3 text hjar =>
    obtain ⟨url, hurl, rfl⟩ := Option.map_eq_some_iff.mp h
    refine ⟨url.path, FileUrl.isAbsolute_of_parse? hurl, ?_⟩
    split at hpath
    · exact Option.some.inj hpath
    · exact Option.some.inj hpath

/-- The path of a place on disk starts at the root and is spelled plainly. -/
theorem isPlain_of_ofUrl {source : Option String} (h : (ofUrl source).path? = some p) :
    p.IsPlain := by
  rcases source with _ | text
  · cases h
  · rw [ofUrl] at h
    rcases hparse : parse? (Blank.trim text).toList with _ | location
    · rw [hparse] at h
      cases h
    · rw [hparse, Option.getD_some] at h
      obtain ⟨q, habsolute, rfl⟩ := exists_isAbsolute_of_parse? hparse h
      exact Path.isPlain_normalize habsolute

end CodeLocation

end ClassOrigin
