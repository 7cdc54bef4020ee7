/-
The normal form of recorded texts.

A normal text is `.`, or segments with single slashes between them and at most one in front.  There
is one normal text for each meaning, and what is recorded for a place is normal, with one exception:
an empty root takes nothing off a path, not even the root of the file system, which is then joined
to its steps by a second slash.

* **`IsNormal.eq_of_normalize_eq`** — normal texts that mean the same are the same;
* **`isSegment_of_isStep`** — a step is read as a segment, whatever its bytes are;
* **`render_of_keepsRoot`**, **`isNormal_render`** — what is written with a kept root and without;
* **`isNormal_canonicalPath_iff`** — what is recorded is normal, the exception apart, and with it no
  place is recorded in two spellings.
-/
import ClassOrigin.Proofs.RecordedPaths
import ClassOrigin.Proofs.UrlPaths

namespace ClassOrigin

variable {t s : String} {segments : List String} {c : Path.Component} {cs : List Path.Component}

/-! ### Normal texts -/

/-- A text that stands between slashes and is not redundant there. -/
structure IsSegment (s : String) : Prop where
  ne_empty : s ≠ ""
  ne_dot : s ≠ "."
  slash_notMem : '/' ∉ s.toList

/-- Texts without redundant slashes or dots. The root is `/` with no segments behind it. -/
inductive IsNormal : String → Prop
  | here : IsNormal "."
  | relative {segments : List String} (hne : segments ≠ []) (h : ∀ s ∈ segments, IsSegment s) :
      IsNormal ("/".intercalate segments)
  | absolute {segments : List String} (h : ∀ s ∈ segments, IsSegment s) :
      IsNormal ("/" ++ "/".intercalate segments)

/-- A segment is read as a step. -/
theorem IsSegment.exists_isStep (h : IsSegment s) :
    ∃ c : Path.Component, c.IsStep ∧ c.bytes = Bytes.ofText s := by
  have hempty : Bytes.ofText s ≠ [] := fun hnil => h.ne_empty (Bytes.ofText_injective hnil)
  have hdot : Bytes.ofText s ≠ [Path.dot] := fun hdot => h.ne_dot (Bytes.ofText_injective hdot)
  rcases hpiece : Path.Component.ofPiece? (Bytes.ofText s) with _ | c
  · rcases Path.Component.ofPiece?_eq_none.mp hpiece with hnil | hnil
    · exact absurd hnil hempty
    · exact absurd hnil hdot
  · have hslash := Bytes.slash_notMem_ofText h.slash_notMem
    exact ⟨c, Path.Component.isStep_of_ofPiece? hpiece hslash,
      Path.Component.bytes_of_ofPiece? hpiece⟩

theorem exists_steps_of_segments (h : ∀ s ∈ segments, IsSegment s) :
    ∃ cs : List Path.Component, (∀ c ∈ cs, c.IsStep) ∧
      Path.ofText ("/".intercalate segments) =
        ⟨Path.intercalate [Path.slash] (cs.map Path.Component.bytes)⟩ ∧
      cs.length = segments.length := by
  have hcs : ∃ cs : List Path.Component, (∀ c ∈ cs, c.IsStep) ∧
      cs.map Path.Component.bytes = segments.map Bytes.ofText := by
    induction segments with
    | nil => exact ⟨[], by simp, rfl⟩
    | cons s segments ih =>
      obtain ⟨c, hc, hbytes⟩ := (h s List.mem_cons_self).exists_isStep
      obtain ⟨cs, hcs, hmap⟩ := ih fun s hs => h s (List.mem_cons_of_mem _ hs)
      refine ⟨c :: cs, List.forall_mem_cons.mpr ⟨hc, hcs⟩, ?_⟩
      rw [List.map_cons, List.map_cons, hbytes, hmap]
  obtain ⟨cs, hsteps, hmap⟩ := hcs
  refine ⟨cs, hsteps, ?_, ?_⟩
  · rw [Path.ofText, Bytes.ofText_intercalate, hmap]
  · simpa using congrArg List.length hmap

theorem ofText_slash_append (t : String) :
    Path.ofText ("/" ++ t) = ⟨Path.slash :: (Path.ofText t).bytes⟩ := by
  have hslash : Bytes.ofText "/" = [Path.slash] := by decide
  rw [Path.ofText, Bytes.ofText_append, hslash]
  rfl

/-- A normal text is the plainest spelling of what it means, and empty only as a path. -/
theorem IsNormal.normalize_ofText (h : IsNormal t) :
    t = "." ∧ (Path.ofText t).normalize = ⟨[]⟩ ∨
      (Path.ofText t).normalize = Path.ofText t ∧ (Path.ofText t).normalize ≠ ⟨[]⟩ := by
  cases h with
  | here => exact .inl ⟨rfl, by decide⟩
  | @relative segments hne h =>
    obtain ⟨cs, hcs, hbytes, hlength⟩ := exists_steps_of_segments h
    have hself : (Path.ofText ("/".intercalate segments)).normalize =
        Path.ofText ("/".intercalate segments) := by
      rw [hbytes, Path.normalize_of_not_isAbsolute (Path.isAbsolute_intercalate hcs),
        Path.steps_spelled hcs]
    -- There are as many steps as segments, and the empty path has none.
    refine .inr ⟨hself, fun hnil => hne ?_⟩
    rw [hself, hbytes] at hnil
    have hsteps := Path.steps_spelled hcs
    rw [hnil] at hsteps
    rw [← List.length_eq_zero_iff, ← hlength, ← hsteps]
    rfl
  | @absolute segments h =>
    obtain ⟨cs, hcs, hbytes, -⟩ := exists_steps_of_segments h
    have hroot : Path.ofText ("/" ++ "/".intercalate segments) =
        Path.ofComponents (.root :: cs) := by
      rw [ofText_slash_append, hbytes]
      rfl
    rw [hroot, Path.normalize_ofComponents hcs]
    exact .inr ⟨rfl, by rintro ⟨⟩⟩

/-- Normal texts that mean the same are the same. -/
theorem IsNormal.eq_of_normalize_eq (ht : IsNormal t) (hs : IsNormal s)
    (h : (Path.ofText t).normalize = (Path.ofText s).normalize) : t = s := by
  rcases ht.normalize_ofText with ⟨rfl, htnil⟩ | ⟨htself, htne⟩
  · rcases hs.normalize_ofText with ⟨rfl, -⟩ | ⟨-, hsne⟩
    · rfl
    · exact absurd (h.symm.trans htnil) hsne
  · rcases hs.normalize_ofText with ⟨rfl, hsnil⟩ | ⟨hsself, -⟩
    · exact absurd (h.trans hsnil) htne
    · rw [htself, hsself, Path.ofText, Path.ofText, Path.mk.injEq] at h
      exact Bytes.ofText_injective h

/-- A second slash in front is redundant, so it is not normal. -/
theorem IsNormal.not_slash_append (ht : IsNormal t) (habsolute : (Path.ofText t).isAbsolute) :
    ¬ IsNormal ("/" ++ t) := by
  intro hslash
  -- The slash adds nothing to what the text means, so it would have to be the same text.
  have hsame : "/" ++ t = t := by
    refine hslash.eq_of_normalize_eq ht ?_
    rw [ofText_slash_append, Path.normalize_slash_cons habsolute]
  have hlength := congrArg String.length hsame
  rw [String.length_append] at hlength
  simp at hlength

/-! ### Steps as segments -/

/-- A step is read as a segment, also where its bytes are not well formed. -/
theorem isSegment_of_isStep (h : c.IsStep) : IsSegment (Utf8.decodeLossy c.bytes) where
  ne_empty hempty := h.bytes_ne_nil (Utf8.decodeLossy_eq_empty_iff.mp hempty)
  ne_dot hdot := h.bytes_ne_dot (Utf8.decodeLossy_eq_dot_iff.mp hdot)
  slash_notMem hslash :=
    h.slash_notMem (Utf8.mem_of_mem_decodeLossy hslash (by decide) (by decide))

theorem isSegment_of_mem_map (h : ∀ c ∈ cs, c.IsStep) :
    ∀ s ∈ cs.map (fun c => Utf8.decodeLossy c.bytes), IsSegment s := by
  intro s hs
  obtain ⟨c, hc, rfl⟩ := List.mem_map.mp hs
  exact isSegment_of_isStep (h c hc)

/-! ### The recorded text -/

namespace CodeLocation

variable {policy : PathPolicy} {p : Path}

/-- An empty root takes nothing off a path, so the root of the file system stays in front of the
steps, which are joined to it by a slash more. -/
def KeepsRoot (policy : PathPolicy) (p : Path) : Prop :=
  policy = .projectRelative ⟨[]⟩ ∧ p ≠ ⟨[Path.slash]⟩

theorem text_of_isPlain (h : p.IsPlain) : p.text = "/" ++ slashJoined p.steps := by
  have hbytes := congrArg Path.text h.eq_ofComponents
  rw [hbytes, slashJoined_eq, ← String.toList_inj, String.toList_append]
  exact Utf8.toList_decodeLossy_append_cons (b := Path.slash) [] _ (by decide)

theorem isNormal_slashJoined (h : ∀ c ∈ cs, c.IsStep) (hne : cs ≠ []) :
    IsNormal (slashJoined cs) :=
  .relative (by simpa using hne) (isSegment_of_mem_map h)

theorem isNormal_text (h : p.IsPlain) : IsNormal p.text := by
  rw [text_of_isPlain h]
  exact .absolute (isSegment_of_mem_map fun c hc => Path.isStep_of_mem_steps hc)

theorem isAbsolute_ofText_text (h : p.IsPlain) : (Path.ofText p.text).isAbsolute := by
  rw [text_of_isPlain h, ofText_slash_append]
  rfl

theorem render_of_keepsRoot (h : p.IsPlain) (hkeeps : KeepsRoot policy p) :
    render policy p = "/" ++ p.text := by
  obtain ⟨rfl, hne⟩ := hkeeps
  rw [ne_eq, h.eq_slash_iff] at hne
  obtain ⟨c, cs, hsteps⟩ := List.exists_cons_of_ne_nil hne
  have hstrip : Path.stripFront? ⟨[]⟩ p = some (.root :: p.steps) := by
    rw [Path.stripFront?_eq_some, Path.components_of_isAbsolute h.isAbsolute]
    rfl
  have hjoined : slashJoined (.root :: c :: cs) = "/" ++ "/" ++ slashJoined (c :: cs) :=
    String.intercalate_cons_cons
  rw [render, hstrip, text_of_isPlain h, hsteps, ← String.append_assoc]
  exact hjoined

theorem isNormal_render (h : p.IsPlain) (hkeeps : ¬ KeepsRoot policy p) :
    IsNormal (render policy p) := by
  rcases policy with _ | root
  · exact isNormal_text h
  · rw [render]
    rcases hstrip : Path.stripFront? root p with _ | _ | ⟨c, rest⟩
    · exact isNormal_text h
    · exact .here
    · rw [Path.stripFront?_eq_some, Path.components_of_isAbsolute h.isAbsolute] at hstrip
      show IsNormal (slashJoined (c :: rest))
      rcases hroot : root.components with _ | ⟨first, before⟩
      · -- Nothing was taken off, so the path is the root and is written as that.
        rw [hroot, List.nil_append] at hstrip
        have hempty : root = ⟨[]⟩ := congrArg Path.mk (Path.components_eq_nil_iff.mp hroot)
        have hsteps : p.steps = [] := by
          by_contra hne
          exact hkeeps ⟨by rw [hempty], h.eq_slash_iff.not.mpr hne⟩
        rw [← hstrip, hsteps]
        exact @IsNormal.absolute [] (by simp)
      · rw [hroot, List.cons_append, List.cons.injEq] at hstrip
        refine isNormal_slashJoined (fun d hd => ?_) (List.cons_ne_nil c rest)
        have hmem : d ∈ p.steps := by
          rw [hstrip.2]
          exact List.mem_append_right before hd
        exact Path.isStep_of_mem_steps hmem

theorem isNormal_render_iff (h : p.IsPlain) :
    IsNormal (render policy p) ↔ ¬ KeepsRoot policy p := by
  refine ⟨fun hnormal hkeeps => ?_, isNormal_render h⟩
  rw [render_of_keepsRoot h hkeeps] at hnormal
  exact (isNormal_text h).not_slash_append (isAbsolute_ofText_text h) hnormal

/-- Of texts that mean the same, those with a kept root are the same, and so are those without. -/
theorem render_eq_iff {q : Path} {other : PathPolicy} (hp : p.IsPlain) (hq : q.IsPlain)
    (hsame : (Path.ofText (render policy p)).normalize =
      (Path.ofText (render other q)).normalize) :
    render policy p = render other q ↔ (KeepsRoot policy p ↔ KeepsRoot other q) := by
  constructor
  · intro heq
    have hnormal : IsNormal (render policy p) ↔ _ := isNormal_render_iff hp
    rw [heq, isNormal_render_iff hq, not_iff_not] at hnormal
    exact hnormal.symm
  · intro hboth
    by_cases hkeeps : KeepsRoot policy p
    · rw [render_of_keepsRoot hp hkeeps, render_of_keepsRoot hq (hboth.mp hkeeps)] at hsame ⊢
      rw [ofText_slash_append, ofText_slash_append,
        Path.normalize_slash_cons (isAbsolute_ofText_text hp),
        Path.normalize_slash_cons (isAbsolute_ofText_text hq)] at hsame
      rw [(isNormal_text hp).eq_of_normalize_eq (isNormal_text hq) hsame]
    · have hkeeps' := hboth.not.mp hkeeps
      exact (isNormal_render hp hkeeps).eq_of_normalize_eq (isNormal_render hq hkeeps') hsame

/-- **The normal form.**  What is recorded for the place that a URL names is normal, except that an
empty root writes a second slash in front of every path but the root.  So two texts that mean the
same are the same, unless just one of them has that slash. -/
theorem isNormal_canonicalPath_iff {source : Option String}
    (hpath : (ofUrl source).path? = some p) (policy : PathPolicy) :
    ∃ recorded, (ofUrl source).canonicalPath? policy = some recorded ∧
      (IsNormal recorded ↔ ¬ KeepsRoot policy p) ∧
      (KeepsRoot policy p → recorded = "/" ++ p.text) ∧
      ∀ (otherSource : Option String) (otherPath : Path) (otherPolicy : PathPolicy) (text : String),
        (ofUrl otherSource).path? = some otherPath →
        (ofUrl otherSource).canonicalPath? otherPolicy = some text →
        (Path.ofText recorded).normalize = (Path.ofText text).normalize →
          (recorded = text ↔ (KeepsRoot policy p ↔ KeepsRoot otherPolicy otherPath)) := by
  have hplain := isPlain_of_ofUrl hpath
  refine ⟨_, by rw [canonicalPath?, hpath]; rfl, isNormal_render_iff hplain,
    render_of_keepsRoot hplain, ?_⟩
  intro otherSource otherPath otherPolicy text hother htext hsame
  rw [canonicalPath?, hother, Option.map_some, Option.some.injEq] at htext
  subst htext
  exact render_eq_iff hplain (isPlain_of_ofUrl hother) hsame

/-- The same archive is recorded with one slash in front and, under an empty root, with two. -/
theorem isNormal_canonicalPath_iff_rootless :
    (ofUrl (some "file:/a/b")).canonicalPath? .absolute = some "/a/b" ∧ IsNormal "/a/b" ∧
      (ofUrl (some "file:/a/b")).canonicalPath? (.projectRelative (Path.ofText "")) =
        some "//a/b" ∧ ¬ IsNormal "//a/b" ∧
      (Path.ofText "/a/b").normalize = (Path.ofText "//a/b").normalize := by
  have hpath : (ofUrl (some "file:/a/b")).path? = some (Path.ofText "/a/b") := by decide +kernel
  have habsolute : (ofUrl (some "file:/a/b")).canonicalPath? .absolute = some "/a/b" := by
    decide +kernel
  have hrootless : (ofUrl (some "file:/a/b")).canonicalPath? (.projectRelative (Path.ofText "")) =
      some "//a/b" := by decide +kernel
  have hnormal : IsNormal "/a/b" := by
    obtain ⟨recorded, hrecorded, hiff, -⟩ := isNormal_canonicalPath_iff hpath .absolute
    obtain rfl := Option.some.inj (hrecorded.symm.trans habsolute)
    refine hiff.mpr ?_
    rintro ⟨hpolicy, -⟩
    cases hpolicy
  have hslashes : ¬ IsNormal "//a/b" := by
    obtain ⟨recorded, hrecorded, hiff, -⟩ :=
      isNormal_canonicalPath_iff hpath (.projectRelative (Path.ofText ""))
    obtain rfl := Option.some.inj (hrecorded.symm.trans hrootless)
    exact fun h => hiff.mp h ⟨rfl, by decide⟩
  exact ⟨habsolute, hnormal, hrootless, hslashes, by decide +kernel⟩

end CodeLocation

end ClassOrigin
