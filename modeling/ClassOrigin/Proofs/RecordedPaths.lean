/-
Back from the recorded text to the path.

A path below a root is recorded by its steps below the root, so the root with these steps is the
path again, and a path elsewhere is recorded whole and replaces the root:

* **`ofText_slashJoined`** — joined components that are texts are written as they are spelled;
* **`components_join_intercalate`** — the components behind those of a root lead on from it;
* **`components_join_render`** — hence the recorded text leads from the root to the path;
* **`components_join_canonicalPath`** — and no two places are recorded alike.
-/
import ClassOrigin.Proofs.PathTexts

namespace ClassOrigin

/-! ### Leading on from a root -/

namespace Path

variable {root p : Path} {cs : List Component}

/-- The root joined to steps brings a second slash. -/
theorem intercalate_root (hne : cs ≠ []) :
    intercalate [slash] ((Component.root :: cs).map Component.bytes) =
      slash :: slash :: intercalate [slash] (cs.map Component.bytes) := by
  obtain ⟨c, cs, rfl⟩ := List.exists_cons_of_ne_nil hne
  rw [List.map_cons, List.map_cons, intercalate_cons_cons]
  rfl

/-- That slash means nothing. -/
theorem components_slash_slash (back : Bytes) :
    components ⟨slash :: slash :: back⟩ = .root :: steps ⟨back⟩ := by
  rw [components_slash]
  exact congrArg (.root :: ·) (steps_append_slash [] back)

/-- What an absolute path has behind the components of a root leads from the root to the path. -/
theorem components_join_intercalate (habsolute : p.isAbsolute)
    (hbelow : p.components = root.components ++ cs) (hne : cs ≠ []) :
    (root.join ⟨intercalate [slash] (cs.map Component.bytes)⟩).components = p.components := by
  have hsteps : ∀ c ∈ p.steps, c.IsStep := fun c hc => isStep_of_mem_steps hc
  rw [components_of_isAbsolute habsolute] at hbelow ⊢
  rcases hroot : root.components with _ | ⟨first, before⟩
  · -- Nothing was taken off, so the root of the path is still there.
    rw [hroot, List.nil_append] at hbelow
    subst hbelow
    by_cases hnone : p.steps = []
    · rw [hnone, join_of_isAbsolute (by rfl)]
      rfl
    · rw [intercalate_root hnone, join_of_isAbsolute (by rfl), components_slash_slash,
        steps_spelled hsteps]
  · rw [hroot, List.cons_append, List.cons.injEq] at hbelow
    obtain ⟨rfl, hsplit⟩ := hbelow
    have hcs : ∀ c ∈ cs, c.IsStep := by
      intro c hc
      rw [hsplit] at hsteps
      exact hsteps c (List.mem_append_right before hc)
    have hbytes : root.bytes ≠ [] := by
      rw [ne_eq, ← components_eq_nil_iff, hroot]
      exact List.cons_ne_nil _ _
    rw [components_join hbytes (isAbsolute_intercalate hcs), steps_spelled hcs, hroot, hsplit]
    rfl

end Path

/-! ### The recorded text -/

namespace CodeLocation

variable {location : CodeLocation} {p root : Path} {cs : List Path.Component} {text : String}

/-- Joined components are read all at once. -/
theorem slashJoined_eq (cs : List Path.Component) :
    slashJoined cs =
      Path.text ⟨Path.intercalate [Path.slash] (cs.map Path.Component.bytes)⟩ := by
  rw [slashJoined, Path.text, Utf8.decodeLossy_intercalate, List.map_map]
  rfl

/-- Joined components that are texts are written as they are spelled. -/
theorem ofText_slashJoined (h : ∀ c ∈ cs, ∃ part, Bytes.ofText part = c.bytes) :
    Path.ofText (slashJoined cs) =
      ⟨Path.intercalate [Path.slash] (cs.map Path.Component.bytes)⟩ := by
  have hparts : cs.map (fun c => Bytes.ofText (Utf8.decodeLossy c.bytes)) =
      cs.map Path.Component.bytes := by
    refine List.map_congr_left fun c hc => ?_
    obtain ⟨part, hpart⟩ := h c hc
    rw [← hpart, Utf8.decodeLossy_ofText]
  rw [Path.ofText, slashJoined, Bytes.ofText_intercalate, List.map_map, ← hparts]
  rfl

theorem text_ofText (text : String) : (Path.ofText text).text = text :=
  Utf8.decodeLossy_ofText text

/-- The text that is recorded below a root leads from it to the path. -/
theorem components_join_render (habsolute : (Path.ofText text).isAbsolute) (root : Path) :
    (root.join (Path.ofText (render (.projectRelative root) (Path.ofText text)))).components =
      (Path.ofText text).components := by
  rw [render]
  rcases hstrip : Path.stripFront? root (Path.ofText text) with _ | _ | ⟨c, cs⟩
  · -- Elsewhere.
    rw [text_ofText, Path.join_of_isAbsolute habsolute]
  · -- At the root itself.
    rw [Path.stripFront?_eq_some, List.append_nil] at hstrip
    have hbytes : root.bytes ≠ [] := by
      rw [ne_eq, ← Path.components_eq_nil_iff, ← hstrip, Path.components_of_isAbsolute habsolute]
      exact List.cons_ne_nil _ _
    have hdot : (Path.ofText ".").steps = [] := by decide
    show (root.join (Path.ofText ".")).components = _
    rw [Path.components_join hbytes (by decide), hdot, List.append_nil, hstrip]
  · rw [Path.stripFront?_eq_some] at hstrip
    have htexts : ∀ d ∈ c :: cs, ∃ part, Bytes.ofText part = d.bytes := by
      intro d hd
      have hmem : d ∈ (Path.ofText text).components := by
        rw [hstrip]
        exact List.mem_append_right _ hd
      exact Path.exists_ofText_of_mem_components hmem
    simp only
    rw [ofText_slashJoined htexts]
    exact Path.components_join_intercalate habsolute hstrip (List.cons_ne_nil c cs)

/-- **The way back.**  For a place whose path is an absolute text, in whatever spelling, the text
recorded under a root leads from that root to the path, wherever the root is; the text recorded in
full is the path as it is spelled.  So under one policy two such places are recorded alike only if
their paths mean the same. -/
theorem components_join_canonicalPath (hpath : location.path? = some (Path.ofText text))
    (habsolute : (Path.ofText text).isAbsolute) :
    (∀ root, ∃ recorded, location.canonicalPath? (.projectRelative root) = some recorded ∧
        (root.join (Path.ofText recorded)).components = (Path.ofText text).components) ∧
      location.canonicalPath? .absolute = some text ∧
      ∀ (other : CodeLocation) (otherText : String) (policy : PathPolicy),
        other.path? = some (Path.ofText otherText) → (Path.ofText otherText).isAbsolute →
        other.canonicalPath? policy = location.canonicalPath? policy →
          (Path.ofText otherText).components = (Path.ofText text).components := by
  refine ⟨fun root => ⟨_, by rw [canonicalPath?, hpath]; rfl, ?_⟩, ?_, ?_⟩
  · exact components_join_render habsolute root
  · rw [canonicalPath?, hpath, Option.map_some, render, text_ofText]
  · intro other otherText policy hother habsolute' hsame
    rw [canonicalPath?, canonicalPath?, hother, hpath, Option.map_some, Option.map_some,
      Option.some.injEq] at hsame
    rcases policy with _ | root
    · rw [render, render, text_ofText, text_ofText] at hsame
      rw [hsame]
    · rw [← components_join_render habsolute' root, hsame, components_join_render habsolute root]

/-- A place written with needless slashes and dots, below a root that is written with others. -/
theorem components_join_canonicalPath_unplain :
    (archive (Path.ofText "/work//app/./lib/../é.jar")).canonicalPath?
        (.projectRelative (Path.ofText "/./work/app//")) = some "lib/../é.jar" ∧
      ((Path.ofText "/./work/app//").join (Path.ofText "lib/../é.jar")).components =
        (Path.ofText "/work//app/./lib/../é.jar").components ∧
      (directory (Path.ofText "/work/app/lib/..//é.jar/")).canonicalPath?
          (.projectRelative (Path.ofText "/./work/app//")) = some "lib/../é.jar" ∧
      (Path.ofText "/work/app/lib/..//é.jar/").components =
        (Path.ofText "/work//app/./lib/../é.jar").components := by
  have hrecorded : (archive (Path.ofText "/work//app/./lib/../é.jar")).canonicalPath?
      (.projectRelative (Path.ofText "/./work/app//")) = some "lib/../é.jar" := by decide +kernel
  have hother : (directory (Path.ofText "/work/app/lib/..//é.jar/")).canonicalPath?
      (.projectRelative (Path.ofText "/./work/app//")) = some "lib/../é.jar" := by decide +kernel
  have hpath : (archive (Path.ofText "/work//app/./lib/../é.jar")).path? =
      some (Path.ofText "/work//app/./lib/../é.jar") := rfl
  obtain ⟨hback, -, halike⟩ := components_join_canonicalPath hpath (by decide +kernel)
  refine ⟨hrecorded, ?_, hother, ?_⟩
  · obtain ⟨recorded, hsame, hcomponents⟩ := hback (Path.ofText "/./work/app//")
    rw [hrecorded, Option.some.injEq] at hsame
    rwa [← hsame] at hcomponents
  · exact halike (directory (Path.ofText "/work/app/lib/..//é.jar/")) "/work/app/lib/..//é.jar/" _
      rfl (by decide +kernel) (hother.trans hrecorded.symm)

end CodeLocation

end ClassOrigin
