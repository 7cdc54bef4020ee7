/-
The components of a path.

A path means what stands in front of its names, the root or a leading `.` or nothing, and then its
steps:

* **`Component.IsStep`** — a component that is spelled by one piece, as every step is;
* **`steps_spelled`** — steps can be read off any spelling that separates them by slashes;
* **`components_append_slash`** — what follows a slash adds steps and nothing else;
* **`components_join`**, **`steps_join`** — so a relative path adds its steps to a base, and
  **`join_of_isAbsolute`** — an absolute path replaces it;
* **`stripFront?_eq_some`** — a path below another one is that path with further components;
* **`normalize_of_isAbsolute`** — an absolute path is normalized to the root and its steps;
* **`isPlain_normalize`** — which is its plainest spelling, and normalizing keeps that.
-/
import ClassOrigin.Path
import ClassOrigin.Proofs.Splitting

namespace ClassOrigin.Path

variable {p q base : Path} {c : Component} {cs : List Component} {front piece : Bytes}

/-- Paths mean the same when they have the same components. -/
theorem sameAs_iff : p.sameAs q = true ↔ p.components = q.components :=
  beq_iff_eq

/-! ### Steps -/

/-- A component that a single piece spells. -/
structure Component.IsStep (c : Component) : Prop where
  ofPiece?_bytes : Component.ofPiece? c.bytes = some c
  slash_notMem : slash ∉ c.bytes

/-- The components behind the first place. -/
def steps (p : Path) : List Component :=
  p.pieces.filterMap Component.ofPiece?

/-- The component in the first place, if it is no step. -/
def lead (p : Path) : List Component :=
  if p.isAbsolute then [.root] else if p.pieces.head? = some [dot] then [.current] else []

theorem components_eq (p : Path) : p.components = p.lead ++ p.steps := by
  rw [components, lead]
  split
  · rfl
  · split
    · rfl
    · rfl

theorem Component.bytes_of_ofPiece? (h : Component.ofPiece? piece = some c) : c.bytes = piece := by
  rw [Component.ofPiece?] at h
  split at h
  · cases h
  · split at h
    · cases h
      exact Eq.symm ‹_›
    · cases h
      rfl

theorem Component.ofPiece?_eq_none :
    Component.ofPiece? piece = none ↔ piece = [] ∨ piece = [dot] := by
  rw [Component.ofPiece?]
  split
  · simpa
  · rename_i h
    split
    · simpa using h
    · simpa using h

theorem Component.IsStep.ne_root (h : c.IsStep) : c ≠ .root := by
  rintro rfl
  exact h.slash_notMem (List.mem_singleton_self slash)

theorem Component.IsStep.ne_current (h : c.IsStep) : c ≠ .current := by
  rintro rfl
  cases h.ofPiece?_bytes

theorem Component.IsStep.bytes_ne_nil (h : c.IsStep) : c.bytes ≠ [] := by
  intro hnil
  have hpiece := h.ofPiece?_bytes
  rw [hnil] at hpiece
  cases hpiece

theorem Component.IsStep.bytes_ne_dot (h : c.IsStep) : c.bytes ≠ [dot] := by
  intro hdot
  have hpiece := h.ofPiece?_bytes
  rw [hdot] at hpiece
  cases hpiece

theorem Component.isStep_of_ofPiece? (h : Component.ofPiece? piece = some c)
    (hslash : slash ∉ piece) : c.IsStep := by
  have hbytes := Component.bytes_of_ofPiece? h
  exact ⟨hbytes ▸ h, hbytes ▸ hslash⟩

theorem isStep_of_mem_steps (h : c ∈ p.steps) : c.IsStep := by
  obtain ⟨piece, hmem, hpiece⟩ := List.mem_filterMap.mp h
  exact Component.isStep_of_ofPiece? hpiece (notMem_of_mem_splitOn hmem)

theorem intercalate_singleton (part : Bytes) : intercalate [slash] [part] = part :=
  List.intercalate_singleton

theorem intercalate_cons_cons (part next : Bytes) (parts : List Bytes) :
    intercalate [slash] (part :: next :: parts) =
      part ++ slash :: intercalate [slash] (next :: parts) := by
  rw [intercalate, ← List.intercalate, List.intercalate_cons_cons, List.append_assoc]
  rfl

/-- Steps are read off their spelling. -/
theorem steps_spelled (h : ∀ c ∈ cs, c.IsStep) :
    steps ⟨intercalate [slash] (cs.map Component.bytes)⟩ = cs := by
  rcases cs with _ | ⟨c, cs⟩
  · rfl
  · have hpieces : pieces ⟨intercalate [slash] ((c :: cs).map Component.bytes)⟩ =
        (c :: cs).map Component.bytes := by
      refine List.splitOn_intercalate slash (fun piece hpiece => ?_) (by simp)
      obtain ⟨d, hd, rfl⟩ := List.mem_map.mp hpiece
      exact (h d hd).slash_notMem
    rw [steps, hpieces, List.filterMap_map, List.filterMap_congr (g := some)]
    · exact List.filterMap_some
    · intro d hd
      exact (h d hd).ofPiece?_bytes

/-- Steps by themselves do not start at the root. -/
theorem isAbsolute_intercalate (h : ∀ c ∈ cs, c.IsStep) :
    isAbsolute ⟨intercalate [slash] (cs.map Component.bytes)⟩ = false := by
  have hfirst : ∀ c ∈ cs, ∃ b bytes, c.bytes = b :: bytes ∧ b ≠ slash := by
    intro c hc
    obtain ⟨b, bytes, hbytes⟩ := List.exists_cons_of_ne_nil (h c hc).bytes_ne_nil
    refine ⟨b, bytes, hbytes, fun hb => (h c hc).slash_notMem ?_⟩
    rw [hbytes, hb]
    exact List.mem_cons_self
  rcases cs with _ | ⟨c, _ | ⟨d, cs⟩⟩
  · rfl
  · obtain ⟨b, bytes, hbytes, hb⟩ := hfirst c List.mem_cons_self
    rw [List.map_cons, List.map_nil, intercalate_singleton, hbytes, isAbsolute]
    simpa using hb
  · obtain ⟨b, bytes, hbytes, hb⟩ := hfirst c List.mem_cons_self
    rw [List.map_cons, List.map_cons, intercalate_cons_cons, hbytes, isAbsolute]
    simpa using hb

/-! ### Slashes -/

theorem pieces_append_slash (front back : Bytes) :
    pieces ⟨front ++ slash :: back⟩ = pieces ⟨front⟩ ++ pieces ⟨back⟩ :=
  List.splitOn_append_cons_self front back

theorem steps_append_slash (front back : Bytes) :
    steps ⟨front ++ slash :: back⟩ = steps ⟨front⟩ ++ steps ⟨back⟩ := by
  rw [steps, pieces_append_slash, List.filterMap_append]
  rfl

theorem lead_append_slash (h : front ≠ []) (back : Bytes) :
    lead ⟨front ++ slash :: back⟩ = lead ⟨front⟩ := by
  have habsolute : isAbsolute ⟨front ++ slash :: back⟩ = isAbsolute ⟨front⟩ := by
    rw [isAbsolute, isAbsolute, List.head?_append_of_ne_nil _ h]
  have hfirst : (pieces ⟨front ++ slash :: back⟩).head? = (pieces ⟨front⟩).head? := by
    rw [pieces_append_slash]
    exact List.head?_append_of_ne_nil _ (List.splitOn_ne_nil slash front)
  rw [lead, lead, habsolute, hfirst]

/-- What follows a slash adds its steps. -/
theorem components_append_slash (h : front ≠ []) (back : Bytes) :
    components ⟨front ++ slash :: back⟩ = components ⟨front⟩ ++ steps ⟨back⟩ := by
  rw [components_eq, components_eq, lead_append_slash h, steps_append_slash, List.append_assoc]

/-- The root and the steps behind it. -/
theorem components_of_isAbsolute (h : p.isAbsolute) : p.components = .root :: p.steps := by
  rw [components_eq, lead, if_pos h]
  rfl

theorem components_slash (back : Bytes) :
    components ⟨slash :: back⟩ = .root :: steps ⟨back⟩ := by
  have hsteps := steps_append_slash [] back
  rw [components_of_isAbsolute rfl]
  exact congrArg (.root :: ·) hsteps

/-! ### Resolving -/

theorem join_of_isAbsolute (h : p.isAbsolute) : base.join p = p := by
  rw [join, if_pos h]

/-- A slash at the end of the base means nothing by itself. -/
theorem components_append_of_getLast? (h : front.getLast? = some slash) (back : Bytes) :
    components ⟨front ++ back⟩ = components ⟨front⟩ ++ steps ⟨back⟩ := by
  obtain ⟨start, rfl⟩ := List.getLast?_eq_some_iff.mp h
  rw [List.append_assoc, List.singleton_append]
  by_cases hstart : start = []
  · subst hstart
    exact components_slash back
  · rw [components_append_slash hstart, components_append_slash hstart]
    simp [steps, pieces, Component.ofPiece?]

/-- A relative path adds its steps to the base. -/
theorem components_join (hbase : base.bytes ≠ []) (h : p.isAbsolute = false) :
    (base.join p).components = base.components ++ p.steps := by
  rw [join, if_neg (by simp [h])]
  split
  · rename_i hslash
    exact components_append_of_getLast? (hslash.resolve_left hbase) p.bytes
  · exact components_append_slash hbase p.bytes

/-- The pieces of a relative path stand behind others, which mean the steps of the base. -/
theorem pieces_join (h : p.isAbsolute = false) :
    ∃ before, (base.join p).pieces = before ++ p.pieces ∧
      before.filterMap Component.ofPiece? = base.steps := by
  rw [join, if_neg (by simp [h])]
  split
  · rename_i hend
    rcases hend with hempty | hslash
    · obtain ⟨bytes⟩ := base
      obtain rfl : bytes = [] := hempty
      exact ⟨[], rfl, rfl⟩
    · obtain ⟨start, hstart⟩ := List.getLast?_eq_some_iff.mp hslash
      refine ⟨pieces ⟨start⟩, ?_, ?_⟩
      · rw [hstart, List.append_assoc]
        exact pieces_append_slash start p.bytes
      · rw [show base = ⟨start ++ slash :: []⟩ from congrArg Path.mk hstart, steps_append_slash]
        exact (List.append_nil _).symm
  · exact ⟨base.pieces, pieces_append_slash base.bytes p.bytes, rfl⟩

/-- A relative path adds its steps to those of the base. -/
theorem steps_join (h : p.isAbsolute = false) : (base.join p).steps = base.steps ++ p.steps := by
  obtain ⟨before, hpieces, hbefore⟩ := pieces_join h
  rw [steps, hpieces, List.filterMap_append, hbefore]
  rfl

/-! ### Below another path -/

theorem dropFront?_eq_some {α : Type} [DecidableEq α] {front list rest : List α} :
    dropFront? front list = some rest ↔ list = front ++ rest := by
  fun_induction dropFront? front list with
  | case1 rest' => simp [eq_comm]
  | case2 x front => simp
  | case3 front y list ih => simp [ih]
  | case4 x front y list hne => simp [Ne.symm hne]

theorem stripFront?_eq_some :
    stripFront? base p = some cs ↔ p.components = base.components ++ cs :=
  dropFront?_eq_some

/-- Only the empty path has no components. -/
theorem components_eq_nil_iff : p.components = [] ↔ p.bytes = [] := by
  obtain ⟨_ | ⟨b, bytes⟩⟩ := p
  · exact iff_of_true rfl rfl
  · refine iff_of_false (fun hnil => ?_) (List.cons_ne_nil b bytes)
    by_cases hslash : b = slash
    · rw [components_of_isAbsolute (by simp [isAbsolute, hslash])] at hnil
      cases hnil
    · -- The first piece starts with the byte, so it is a leading `.` or a step.
      obtain ⟨first, others, hpieces⟩ : ∃ first others,
          pieces ⟨b :: bytes⟩ = (b :: first) :: others := by
        rcases hsplit : bytes.splitOn slash with _ | ⟨first, others⟩
        · exact absurd hsplit (List.splitOn_ne_nil slash bytes)
        · refine ⟨first, others, ?_⟩
          rw [pieces, List.splitOn_cons_eq_if_modifyHead, if_neg (by simpa using hslash), hsplit]
          rfl
      rw [components_eq, List.append_eq_nil_iff] at hnil
      obtain ⟨hlead, hsteps⟩ := hnil
      have hnone := List.filterMap_eq_nil_iff.mp hsteps (b :: first) (by rw [hpieces]; simp)
      have hdot := (Component.ofPiece?_eq_none.mp hnone).resolve_left (List.cons_ne_nil b first)
      rw [lead, hpieces, hdot] at hlead
      split at hlead
      · cases hlead
      · simp at hlead

/-! ### Plain spellings -/

theorem steps_ofComponents (h : ∀ c ∈ cs, c.IsStep) : (ofComponents (.root :: cs)).steps = cs :=
  (steps_append_slash [] _).trans (steps_spelled h)

theorem filter_steps (p : Path) : p.steps.filter (· ≠ .current) = p.steps := by
  refine List.filter_eq_self.mpr fun c hc => ?_
  simpa using (isStep_of_mem_steps hc).ne_current

/-- An absolute path is normalized to the root and its steps. -/
theorem normalize_of_isAbsolute (h : p.isAbsolute) :
    p.normalize = ofComponents (.root :: p.steps) := by
  rw [normalize, components_of_isAbsolute h, List.filter_cons_of_pos (by decide), filter_steps]

/-- Any other path is normalized to its steps. -/
theorem normalize_of_not_isAbsolute (h : p.isAbsolute = false) :
    p.normalize = ⟨intercalate [slash] (p.steps.map Component.bytes)⟩ := by
  have hlead : p.lead.filter (· ≠ .current) = [] := by
    rw [lead, if_neg (by simp [h])]
    split
    · rfl
    · rfl
  rw [normalize, components_eq, List.filter_append, hlead, filter_steps, List.nil_append]
  rcases hsteps : p.steps with _ | ⟨c, cs⟩
  · rfl
  · have hne := (isStep_of_mem_steps (hsteps ▸ List.mem_cons_self : c ∈ p.steps)).ne_root
    cases c with
    | root => exact absurd rfl hne
    | current => rfl
    | parent => rfl
    | name bytes => rfl

theorem normalize_ofComponents (h : ∀ c ∈ cs, c.IsStep) :
    (ofComponents (.root :: cs)).normalize = ofComponents (.root :: cs) := by
  rw [normalize_of_isAbsolute rfl, steps_ofComponents h]

/-- Starting at the root, and spelled as plainly as that can be. -/
structure IsPlain (p : Path) : Prop where
  isAbsolute : p.isAbsolute
  normalize_eq : p.normalize = p

theorem IsPlain.eq_ofComponents (h : p.IsPlain) : p = ofComponents (.root :: p.steps) := by
  rw [← normalize_of_isAbsolute h.isAbsolute, h.normalize_eq]

/-- Normalizing an absolute path once is enough. -/
theorem isPlain_normalize (h : p.isAbsolute) : p.normalize.IsPlain := by
  rw [normalize_of_isAbsolute h]
  exact ⟨rfl, normalize_ofComponents fun c hc => isStep_of_mem_steps hc⟩

theorem IsPlain.eq_slash_iff (h : p.IsPlain) : p = ⟨[slash]⟩ ↔ p.steps = [] := by
  constructor
  · rintro rfl
    rfl
  · intro hsteps
    rw [h.eq_ofComponents, hsteps]
    rfl

/-- A slash in front of the root means nothing. -/
theorem normalize_slash_cons (h : p.isAbsolute) : normalize ⟨slash :: p.bytes⟩ = p.normalize := by
  have hsteps : steps ⟨slash :: p.bytes⟩ = p.steps := steps_append_slash [] p.bytes
  rw [normalize_of_isAbsolute rfl, normalize_of_isAbsolute h, hsteps]

end ClassOrigin.Path
