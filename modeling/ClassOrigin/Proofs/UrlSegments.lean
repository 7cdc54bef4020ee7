/-
URLs without anything to pass over or to resolve.

Where all characters are visible, nothing is trimmed or passed over, and a segment that names
neither a drive nor a dot is kept as it is written:

* **`plain_of_visible`**, **`dropPlain_of_visible`** — visible characters all count;
* **`IsOrdinary`** — the segments that are kept, and **`Trail.follow_segments`** that they are;
* **`decoded_of_isSingleDot`**, **`decoded_of_isDoubleDot`** — what is read as a dot or two stands for
  them, in whatever spelling;
* **`toUrl_follow`** — so the path of a text is its segments, and the last of them says whether
  there is a slash at the end;
* **`parse?_file`**, **`parse?_fileHost`** — where that path starts in a URL without a host;
* **`normalize_pathOf`** — what it means is what its segments stand for, one by one.
-/
import ClassOrigin.Proofs.PathComponents
import ClassOrigin.Proofs.Trimming
import ClassOrigin.FileUrl
import Mathlib.Data.List.TakeWhile

namespace ClassOrigin

namespace Path

/-- Names behind slashes add their steps. -/
theorem steps_append_flatMap {α : Type} (front : Bytes) (name : α → Bytes) (list : List α) :
    steps ⟨front ++ list.flatMap fun a => slash :: name a⟩ =
      steps ⟨front⟩ ++ list.flatMap fun a => steps ⟨name a⟩ := by
  induction list generalizing front with
  | nil => simp
  | cons a rest ih =>
    rw [List.flatMap_cons, List.flatMap_cons, ← List.append_assoc, ih, steps_append_slash,
      List.append_assoc]

end Path

namespace FileUrl

variable {c d : Char} {text rest segment : List Char} {segments : List (List Char)}

/-! ### Visible characters -/

/-- A visible character of ASCII. -/
def IsVisible (c : Char) : Prop :=
  0x20 < c.toNat ∧ c.toNat < 0x7F

theorem IsVisible.ne_of_toNat {d : Char} (h : IsVisible c) (hd : d.toNat ≤ 0x20) : c ≠ d := by
  rintro rfl
  exact absurd hd (Nat.not_le.mpr h.1)

theorem isTabOrBreak_of_isVisible (h : IsVisible c) : isTabOrBreak c = false := by
  simp [isTabOrBreak, h.ne_of_toNat (show '\t'.toNat ≤ 0x20 by decide),
    h.ne_of_toNat (show '\n'.toNat ≤ 0x20 by decide),
    h.ne_of_toNat (show '\r'.toNat ≤ 0x20 by decide)]

theorem isControlOrSpace_of_isVisible (h : IsVisible c) : isControlOrSpace c = false := by
  have hle : ¬ c.toNat ≤ ' '.toNat := Nat.not_le.mpr h.1
  simpa [isControlOrSpace, Char.le_def, UInt32.le_iff_toNat_le] using hle

theorem isBlank_of_isVisible (h : IsVisible c) : Blank.isBlank c = false := by
  obtain ⟨hlow, hhigh⟩ := h
  simp only [Blank.isBlank, Bool.or_eq_false_iff, Bool.and_eq_false_iff, decide_eq_false_iff_not,
    beq_eq_false_iff_ne]
  omega

section

variable (h : ∀ c ∈ text, IsVisible c)
include h

theorem plain_of_visible : plain text = text :=
  List.filter_eq_self.mpr fun c hc => by simp [isTabOrBreak_of_isVisible (h c hc)]

theorem dropPlain_of_visible (count : ℕ) : dropPlain count text = text.drop count := by
  induction text generalizing count with
  | nil =>
    rcases count with _ | count
    · rfl
    · rfl
  | cons c text ih =>
    rcases count with _ | count
    · rfl
    · rw [dropPlain, isTabOrBreak_of_isVisible (h c List.mem_cons_self)]
      exact ih (fun d hd => h d (List.mem_cons_of_mem c hd)) count

theorem trimBy_of_visible : Blank.trimBy isControlOrSpace text = text :=
  Blank.trimBy_of_isTrimmedBy
    (Blank.isTrimmedBy_of_forall fun c hc => isControlOrSpace_of_isVisible (h c hc))

theorem isTrimmedBy_of_visible : Blank.IsTrimmedBy Blank.isBlank text :=
  Blank.isTrimmedBy_of_forall fun c hc => isBlank_of_isVisible (h c hc)

end

/-! ### Ordinary segments -/

/-- A segment in which every character counts and which names neither a drive nor a dot. -/
structure IsOrdinary (segment : List Char) : Prop where
  isVisible : ∀ c ∈ segment, IsVisible c
  isSlash_eq : ∀ c ∈ segment, isSlash c = false
  endsPath_eq : ∀ c ∈ segment, endsPath c = false
  noDrive : ∀ c ∈ segment, c ≠ ':' ∧ c ≠ '|'
  isSingleDot_eq : isSingleDot segment = false
  isDoubleDot_eq : isDoubleDot segment = false

theorem isOrdinary_nil : IsOrdinary [] :=
  ⟨nofun, nofun, nofun, nofun, rfl, rfl⟩

/-- A drive has a colon or a bar in its name. -/
theorem isDrive_eq_false (h : ∀ c ∈ segment, c ≠ ':' ∧ c ≠ '|') : isDrive segment = false := by
  unfold isDrive
  split
  · rename_i c d
    obtain ⟨hcolon, hbar⟩ := h d (by simp)
    simp [hcolon, hbar]
  · rfl

theorem brokenDrive?_eq_none (h : IsOrdinary segment) : brokenDrive? segment = none := by
  have hdrive : isDrive ((plain segment).take 2) = false := by
    rw [plain_of_visible h.isVisible]
    exact isDrive_eq_false fun c hc => h.noDrive c (List.mem_of_mem_take hc)
  simp [brokenDrive?, hdrive]

namespace Trail

theorem push_segments (trail : Trail) (h : IsOrdinary segment) :
    (trail.push segment).segments = segment :: trail.segments := by
  have hplain := plain_of_visible h.isVisible
  have hdrive := isDrive_eq_false h.noDrive
  rw [push, brokenDrive?_eq_none h]
  rcases trail with ⟨_ | ⟨last, before⟩, onDrive⟩
  · simp [hplain, hdrive]
  · simp [hplain]

/-- Ordinary segments are taken on one after the other. -/
theorem follow_segments (trail : Trail) (h : ∀ s ∈ segments, IsOrdinary s) :
    (trail.follow segments).segments = segments.reverse ++ trail.segments := by
  induction segments generalizing trail with
  | nil => rfl
  | cons segment rest ih =>
    obtain ⟨hsegment, hrest⟩ := List.forall_mem_cons.mp h
    have hplain := plain_of_visible hsegment.isVisible
    rw [follow, hplain, hsegment.isDoubleDot_eq, hsegment.isSingleDot_eq, if_neg nofun,
      if_neg nofun, ih _ hrest, push_segments trail hsegment]
    simp

end Trail

/-! ### Decoded segments -/

/-- The bytes that a segment stands for. -/
def decoded (segment : List Char) : Bytes :=
  Percent.decode (Bytes.ofText (String.ofList segment))

/-- A capital has its small letter 32 places up, and any other character stays. -/
theorem toNat_toLower (c : Char) :
    c.toLower.toNat = c.toNat ∨ 0x41 ≤ c.toNat ∧ c.toLower.toNat = c.toNat + 0x20 := by
  unfold Char.toLower
  split
  · rename_i h
    have hlow : 0x41 ≤ c.val.toNat := h.1
    have hhigh : c.val.toNat ≤ 0x5A := h.2
    right
    show 0x41 ≤ c.val.toNat ∧ (c.val + 0x20).toNat = c.val.toNat + 0x20
    simp only [UInt32.toNat_add, UInt32.reduceToNat]
    omega
  · exact .inl rfl

theorem toLower_eq_iff (hd : d.toNat < 0x41) : c.toLower = d ↔ c = d := by
  rw [← Char.toNat_inj, ← Char.toNat_inj]
  rcases toNat_toLower c with heq | ⟨hlow, heq⟩
  · rw [heq]
  · omega

theorem toLower_eq_e_iff : c.toLower = 'e' ↔ c = 'e' ∨ c = 'E' := by
  constructor
  · intro h
    have hnat : c.toLower.toNat = 0x65 := congrArg Char.toNat h
    rcases toNat_toLower c with heq | ⟨-, hplus⟩
    · exact .inl (Char.toNat_inj.mp (heq.symm.trans hnat))
    · refine .inr (Char.toNat_inj.mp ?_)
      show c.toNat = 0x45
      omega
  · rintro (rfl | rfl)
    · rfl
    · rfl

/-- A segment that is read as a dot stands for one. -/
theorem decoded_of_isSingleDot (h : isSingleDot segment = true) : decoded segment = [Path.dot] := by
  have hcases : segment = ['.'] ∨ ∃ e, segment = ['%', '2', e] ∧ (e = 'e' ∨ e = 'E') := by
    simpa (disch := decide) [isSingleDot, List.map_eq_cons_iff, toLower_eq_iff, toLower_eq_e_iff]
      using h
  rcases hcases with rfl | ⟨e, rfl, rfl | rfl⟩
  · rfl
  · rfl
  · rfl

theorem decoded_of_isDoubleDot (h : isDoubleDot segment = true) :
    decoded segment = [Path.dot, Path.dot] := by
  have hcases : segment = ['.', '.'] ∨
      (∃ e, segment = ['.', '%', '2', e] ∧ (e = 'e' ∨ e = 'E')) ∨
      (∃ e, segment = ['%', '2', e, '.'] ∧ (e = 'e' ∨ e = 'E')) ∨
      ∃ e f, segment = ['%', '2', e, '%', '2', f] ∧ (e = 'e' ∨ e = 'E') ∧ (f = 'e' ∨ f = 'E') := by
    simpa (disch := decide) [isDoubleDot, List.map_eq_cons_iff, toLower_eq_iff, toLower_eq_e_iff]
      using h
  rcases hcases with rfl | ⟨e, rfl, rfl | rfl⟩ | ⟨e, rfl, rfl | rfl⟩ |
    ⟨e, f, rfl, rfl | rfl, rfl | rfl⟩
  all_goals rfl

/-! ### Paths of ordinary segments -/

/-- The segments behind slashes. -/
def pathOf (segments : List (List Char)) : Path :=
  ⟨segments.flatMap fun segment => Path.slash :: decoded segment⟩

theorem mem_intercalate (h : c ∈ ['/'].intercalate segments) :
    c = '/' ∨ ∃ s ∈ segments, c ∈ s := by
  induction segments with
  | nil => cases h
  | cons first others ih =>
    rcases others with _ | ⟨next, others⟩
    · rw [List.intercalate_singleton] at h
      exact .inr ⟨first, List.mem_cons_self, h⟩
    · rw [List.intercalate_cons_cons, List.append_assoc, List.mem_append] at h
      rcases h with h | h
      · exact .inr ⟨first, List.mem_cons_self, h⟩
      · rcases List.mem_cons.mp h with hslash | h
        · exact .inl hslash
        · rcases ih h with hslash | ⟨s, hs, hc⟩
          · exact .inl hslash
          · exact .inr ⟨s, List.mem_cons_of_mem first hs, hc⟩

/-- An empty segment at the end leaves a slash there. -/
theorem intercalate_append_nil (hne : segments ≠ []) :
    ['/'].intercalate (segments ++ [[]]) = ['/'].intercalate segments ++ ['/'] := by
  induction segments with
  | nil => exact absurd rfl hne
  | cons first others ih =>
    rcases others with _ | ⟨next, others⟩
    · simp
    · have hothers := ih (List.cons_ne_nil next others)
      rw [List.cons_append] at hothers
      rw [List.cons_append, List.cons_append, List.intercalate_cons_cons, hothers,
        List.intercalate_cons_cons, List.append_assoc, List.append_assoc, List.append_assoc]

section

variable (h : ∀ s ∈ segments, IsOrdinary s)
include h

theorem isVisible_of_mem_intercalate (hc : c ∈ ['/'].intercalate segments) : IsVisible c := by
  rcases mem_intercalate hc with rfl | ⟨s, hs, hc⟩
  · exact ⟨by decide, by decide⟩
  · exact (h s hs).isVisible c hc

theorem endsPath_of_mem_intercalate (hc : c ∈ ['/'].intercalate segments) :
    endsPath c = false := by
  rcases mem_intercalate hc with rfl | ⟨s, hs, hc⟩
  · rfl
  · exact (h s hs).endsPath_eq c hc

/-- The slashes between segments separate them and no others do. -/
theorem splitOnP_intercalate (hne : segments ≠ []) :
    (['/'].intercalate segments).splitOnP isSlash = segments := by
  induction segments with
  | nil => exact absurd rfl hne
  | cons first others ih =>
    obtain ⟨hfirst, hothers⟩ := List.forall_mem_cons.mp h
    rcases others with _ | ⟨next, others⟩
    · rw [List.intercalate_singleton, List.splitOnP_eq_singleton hfirst.isSlash_eq]
    · rw [List.intercalate_cons_cons, List.append_assoc, List.singleton_append,
        List.splitOnP_append_cons_of_forall_mem hfirst.isSlash_eq '/' rfl,
        ih hothers (List.cons_ne_nil next others)]

theorem toUrl_follow (hne : segments ≠ []) :
    (follow (['/'].intercalate segments)).toUrl =
      ⟨pathOf segments, segments.getLast?.all List.isEmpty⟩ := by
  have hpath : (['/'].intercalate segments).takeWhile (fun c => ! endsPath c) =
      ['/'].intercalate segments := by
    refine List.takeWhile_eq_self_iff.mpr fun c hc => ?_
    simp [endsPath_of_mem_intercalate h hc]
  have hkept : (follow (['/'].intercalate segments)).segments = segments.reverse := by
    rw [follow, hpath, splitOnP_intercalate h hne, Trail.follow_segments _ h, List.append_nil]
  rw [Trail.toUrl, hkept, List.reverse_reverse, List.head?_reverse]
  rfl

end

/-! ### Where a path starts -/

section

variable (h : ∀ c ∈ rest, IsVisible c)
include h

theorem isVisible_of_mem_file : ∀ c ∈ "file:".toList ++ rest, IsVisible c :=
  List.forall_mem_append.mpr ⟨by simp [IsVisible], h⟩

theorem afterScheme?_file : afterScheme? ("file:".toList ++ rest) = some rest := by
  have hvisible := isVisible_of_mem_file h
  rw [afterScheme?, plain_of_visible hvisible, dropPlain_of_visible hvisible]
  rfl

theorem withoutSlash_cons : withoutSlash ('/' :: rest) = rest := by
  have hvisible : ∀ c ∈ '/' :: rest, IsVisible c :=
    List.forall_mem_cons.mpr ⟨⟨by decide, by decide⟩, h⟩
  rw [withoutSlash, plain_of_visible hvisible, dropPlain_of_visible hvisible]
  rfl

/-- Behind a single slash there is no host. -/
theorem parse?_slash (hfirst : rest.head?.any isSlash = false) :
    parse? ("file:".toList ++ '/' :: rest) = some (follow rest).toUrl := by
  have hvisible : ∀ c ∈ '/' :: rest, IsVisible c :=
    List.forall_mem_cons.mpr ⟨⟨by decide, by decide⟩, h⟩
  rw [parse?, trimBy_of_visible (isVisible_of_mem_file hvisible), afterScheme?_file hvisible,
    Option.bind_some, plain_of_visible hvisible, withoutSlash_cons h]
  rcases rest with _ | ⟨b, rest⟩
  · rfl
  · have hb : isSlash b = false := by simpa using hfirst
    simp [hb]

/-- Between the second slash and the third the host is absent. -/
theorem parse?_slashes :
    parse? ("file:".toList ++ '/' :: '/' :: '/' :: rest) = some (follow ('/' :: rest)).toUrl := by
  have hvisible : ∀ c ∈ '/' :: '/' :: '/' :: rest, IsVisible c := by
    simpa using ⟨⟨by decide, by decide⟩, h⟩
  rw [parse?, trimBy_of_visible (isVisible_of_mem_file hvisible), afterScheme?_file hvisible,
    Option.bind_some, plain_of_visible hvisible, dropPlain_of_visible hvisible]
  rfl

end

/-! ### URLs of segments -/

section

variable (h : ∀ s ∈ segments, IsOrdinary s)
include h

/-- Segments that follow a single slash, the first of them not empty. -/
theorem parse?_file (hfirst : segments.head?.all List.isEmpty = false) :
    parse? ("file:/".toList ++ ['/'].intercalate segments) =
      some ⟨pathOf segments, segments.getLast?.all List.isEmpty⟩ := by
  obtain ⟨first, others, rfl⟩ : ∃ first others, segments = first :: others := by
    rcases segments with _ | ⟨first, others⟩
    · cases hfirst
    · exact ⟨first, others, rfl⟩
  obtain ⟨c, first, rfl⟩ : ∃ c rest, first = c :: rest := by
    rcases first with _ | ⟨c, first⟩
    · cases hfirst
    · exact ⟨c, first, rfl⟩
  have hc : isSlash c = false := (h _ List.mem_cons_self).isSlash_eq c List.mem_cons_self
  have hhead : (['/'].intercalate ((c :: first) :: others)).head?.any isSlash = false := by
    rcases others with _ | ⟨next, others⟩
    · simpa using hc
    · rw [List.intercalate_cons_cons]
      simpa using hc
  have hparse := parse?_slash (fun d => isVisible_of_mem_intercalate h (c := d)) hhead
  rwa [toUrl_follow h (List.cons_ne_nil _ _)] at hparse

/-- Segments that follow three slashes. -/
theorem parse?_fileHost (hne : segments ≠ []) :
    parse? ("file:///".toList ++ ['/'].intercalate segments) =
      some ⟨pathOf ([] :: segments), segments.getLast?.all List.isEmpty⟩ := by
  have hcons : ∀ s ∈ [] :: segments, IsOrdinary s :=
    List.forall_mem_cons.mpr ⟨isOrdinary_nil, h⟩
  obtain ⟨first, others, rfl⟩ := List.exists_cons_of_ne_nil hne
  have hparse := parse?_slashes (fun d => isVisible_of_mem_intercalate h (c := d))
  have hslash : '/' :: ['/'].intercalate (first :: others) =
      ['/'].intercalate ([] :: first :: others) := by
    rw [List.intercalate_cons_cons]
    rfl
  rwa [hslash, toUrl_follow hcons (List.cons_ne_nil _ _), List.getLast?_cons_cons] at hparse

end

/-- Extra slashes add no steps. -/
theorem steps_pathOf (segments : List (List Char)) :
    (pathOf segments).steps = segments.flatMap fun s => Path.steps ⟨decoded s⟩ :=
  Path.steps_append_flatMap [] decoded segments

theorem normalize_pathOf (hne : segments ≠ []) :
    (pathOf segments).normalize =
      Path.ofComponents (.root :: segments.flatMap fun s => Path.steps ⟨decoded s⟩) := by
  obtain ⟨first, others, rfl⟩ := List.exists_cons_of_ne_nil hne
  rw [Path.normalize_of_isAbsolute rfl, steps_pathOf]

end FileUrl

end ClassOrigin
