/-
The kinds of classpath entries.

The kind of an entry that does not say it is guessed from a file name.  An entry of a manifest is
guessed from the path as it is declared, one of a classpath file from what its path resolves to.  The
two have the same last name unless the declared path has none and leads to the root itself:

* **`Path.fileName?_eq`** — the file name is the last step, if that is a name;
* **`Path.fileName?_join`**, **`EntryKind.infer_join`** — so the base counts for the kind only under
  a path without steps, which by **`Path.sameAs_dot_iff`** is `.` in some spelling;
* **`ProjectModel.listed_eq_declared_iff`** — hence a path means the same in both places, apart from
  `.` when the root is named like an archive.
-/
import ClassOrigin.Proofs.ClasspathFiles

namespace ClassOrigin

/-! ### File names -/

namespace Path

variable {base p : Path}

/-- Neither the root nor a leading `.` is a file name. -/
theorem fileName?_eq (p : Path) :
    p.fileName? =
      match p.steps.getLast? with
      | some (.name bytes) => some bytes
      | _ => none := by
  rw [fileName?, components_eq, List.getLast?_append]
  rcases p.steps.getLast? with _ | last
  · -- What stands in front of the steps is the root, a leading `.`, or nothing.
    show (match p.lead.getLast? with
      | some (.name bytes) => some bytes
      | _ => none) = none
    rw [lead]
    cases p.isAbsolute
    · rw [if_neg Bool.false_ne_true]
      by_cases hdot : p.pieces.head? = some [dot]
      · rw [if_pos hdot]
        rfl
      · rw [if_neg hdot]
        rfl
    · rfl
  · rfl

/-- The base has a say only when nothing is added to it. -/
theorem fileName?_join (h : p.isAbsolute = false) :
    (base.join p).fileName? = if p.steps = [] then base.fileName? else p.fileName? := by
  rw [fileName?_eq, steps_join h, List.getLast?_append]
  by_cases hsteps : p.steps = []
  · rw [if_pos hsteps, fileName?_eq base, hsteps]
    rfl
  · rw [if_neg hsteps, fileName?_eq p, List.getLast?_eq_some_getLast hsteps]
    rfl

/-- A path that stays where it is. -/
theorem sameAs_dot_iff (h : p.bytes ≠ []) :
    p.sameAs (ofText ".") = true ↔ p.isAbsolute = false ∧ p.steps = [] := by
  have hdot : (ofText ".").components = [.current] := by decide
  rw [sameAs_iff, hdot]
  constructor
  · intro hcomponents
    have habsolute : p.isAbsolute = false := by
      rcases hroot : p.isAbsolute
      · rfl
      · rw [components_of_isAbsolute hroot] at hcomponents
        cases hcomponents
    refine ⟨habsolute, List.eq_nil_iff_forall_not_mem.mpr fun c hc => ?_⟩
    have hmem : c ∈ p.components := by
      rw [components_eq]
      exact List.mem_append_right p.lead hc
    rw [hcomponents, List.mem_singleton] at hmem
    exact (isStep_of_mem_steps hc).ne_current hmem
  · rintro ⟨habsolute, hsteps⟩
    have hne := mt components_eq_nil_iff.mp h
    rw [components_eq, hsteps, List.append_nil, lead, if_neg (by simp [habsolute])] at hne ⊢
    split
    · rfl
    · rename_i hfirst
      exact absurd (if_neg hfirst) hne

end Path

namespace EntryKind

variable {base p q : Path}

theorem infer_congr (h : p.fileName? = q.fileName?) : infer p = infer q := by
  have hextension : p.extension? = q.extension? := by rw [Path.extension?, Path.extension?, h]
  rw [infer, infer, Path.hasExtension, Path.hasExtension, Path.hasExtension, Path.hasExtension,
    hextension]

theorem infer_of_steps_eq_nil (h : p.steps = []) : infer p = directory := by
  have hname : p.fileName? = none := by
    rw [Path.fileName?_eq, h]
    rfl
  rw [infer, Path.hasExtension, Path.hasExtension, Path.extension?, hname]
  rfl

/-- The kind of what a path resolves to. -/
theorem infer_join (base p : Path) :
    infer (base.join p) = if p.isAbsolute = false ∧ p.steps = [] then infer base else infer p := by
  rcases habsolute : p.isAbsolute
  · by_cases hsteps : p.steps = []
    · rw [if_pos ⟨rfl, hsteps⟩]
      exact infer_congr ((Path.fileName?_join habsolute).trans (if_pos hsteps))
    · rw [if_neg fun h => hsteps h.2]
      exact infer_congr ((Path.fileName?_join habsolute).trans (if_neg hsteps))
  · rw [Path.join_of_isAbsolute habsolute, if_neg (by simp)]

end EntryKind

/-! ### Declared and listed entries -/

/-- The entry of a manifest that declares a path and nothing else. -/
def ListedPath.entry (listed : ListedPath) : ClasspathEntry :=
  { path := listed.path }

theorem ListedPath.bytes_ne_nil (listed : ListedPath) : listed.path.bytes ≠ [] := by
  intro h
  refine listed.ne_empty ?_
  rw [← String.toList_eq_nil_iff]
  rcases htext : listed.text.toList with _ | ⟨c, rest⟩
  · rfl
  · rw [path, Path.ofText, Bytes.ofText_eq, htext, List.flatMap_cons] at h
    exact absurd (List.append_eq_nil_iff.mp h).1 String.utf8EncodeChar_ne_nil

open SourceSearch

namespace ProjectModel

section

variable {σ : Type} [FileReader (ReaderM σ)] (world : σ) {model listing declaring : ProjectModel}
  {file : Path} {layout : ClasspathLayout} {entry : ClasspathEntry} {q : ListedPath} {i j : Nat}

theorem dependency_entry (model : ProjectModel) (j : Nat) (q : ListedPath) :
    model.dependency j q.entry = .ok ⟨EntryKind.infer q.path, model.resolve q.path, none⟩ := by
  have hpresent : present q.path = true := by
    simpa [present] using q.bytes_ne_nil
  rw [dependency]
  exact if_pos hpresent

/-- The entries of the manifest stand first. -/
theorem getElem?_dependencies (h : model.manifest.classpath[j]? = some entry) :
    (runIn world model.dependencies)[j]? = some (model.dependency j entry) := by
  have hdeclared : model.declaredDependencies[j]? = some (model.dependency j entry) := by
    rw [declaredDependencies, List.getElem?_mapIdx, h]
    rfl
  rcases hfile : model.manifest.classpathFile with _ | file
  · rw [runIn_dependencies_of_none world hfile, hdeclared]
  · obtain ⟨hlt, -⟩ := List.getElem?_eq_some_iff.mp hdeclared
    rw [runIn_dependencies_of_some world hfile, List.getElem?_append_left hlt, hdeclared]

/-- The paths of the classpath file stand behind them. -/
theorem getElem?_dependencies_length_add (hfile : model.manifest.classpathFile = some file)
    (hread : runIn world (FileReader.read (model.resolve file)) = .ok (Bytes.ofText layout.text))
    (h : layout.paths[i]? = some q) :
    (runIn world model.dependencies)[model.manifest.classpath.length + i]? =
      some (.ok (model.fileDependency q.path)) := by
  have hlength : model.declaredDependencies.length = model.manifest.classpath.length :=
    List.length_mapIdx
  rw [runIn_dependencies_of_some world hfile, runIn_readText_of_text world hread,
    listedDependencies, classpathPaths_text, ← hlength, List.getElem?_append_right (by omega),
    Nat.add_sub_cancel_left, List.map_map, List.getElem?_map, h]
  rfl

/-- **Listed and declared entries.**  A path of a classpath file resolves to the same place as an
entry that declares it, without attached sources.  It is the same dependency unless the path leads to
the root and the root is named like an archive: then it is an archive where it is listed and a
directory where it is declared. -/
theorem listed_eq_declared_iff (hroot : listing.root = declaring.root)
    (hfile : listing.manifest.classpathFile = some file)
    (hread : runIn world (FileReader.read (listing.resolve file)) = .ok (Bytes.ofText layout.text))
    (hlisted : layout.paths[i]? = some q)
    (hdeclared : declaring.manifest.classpath[j]? = some q.entry) :
    ∃ listed declared : Dependency,
      (runIn world listing.dependencies)[listing.manifest.classpath.length + i]? =
        some (.ok listed) ∧
      (runIn world declaring.dependencies)[j]? = some (.ok declared) ∧
      listed.location = declared.location ∧ listed.sources = declared.sources ∧
      let clash := q.path.sameAs (Path.ofText ".") = true ∧ EntryKind.infer listing.root = .jar
      (listed = declared ↔ ¬ clash) ∧
      (clash → listed.kind = .jar ∧ declared.kind = .directory) := by
  refine ⟨listing.fileDependency q.path,
    ⟨EntryKind.infer q.path, declaring.resolve q.path, none⟩,
    getElem?_dependencies_length_add world hfile hread hlisted,
    (getElem?_dependencies world hdeclared).trans (congrArg some (dependency_entry declaring j q)),
    congrArg (Path.join · q.path) hroot, rfl, ?_⟩
  have hkind : (listing.fileDependency q.path).kind =
      if q.path.sameAs (Path.ofText ".") = true then EntryKind.infer listing.root
      else EntryKind.infer q.path := by
    rw [if_congr (Path.sameAs_dot_iff q.bytes_ne_nil) rfl rfl]
    exact EntryKind.infer_join listing.root q.path
  have heq : listing.fileDependency q.path =
        ⟨EntryKind.infer q.path, declaring.resolve q.path, none⟩ ↔
      (listing.fileDependency q.path).kind = EntryKind.infer q.path := by
    refine ⟨congrArg Dependency.kind, fun h => ?_⟩
    rw [← h, resolve, ← hroot]
    rfl
  intro clash
  by_cases hdot : q.path.sameAs (Path.ofText ".") = true
  · have hdirectory : EntryKind.infer q.path = .directory :=
      EntryKind.infer_of_steps_eq_nil ((Path.sameAs_dot_iff q.bytes_ne_nil).mp hdot).2
    rw [if_pos hdot] at hkind
    refine ⟨?_, fun h => ⟨hkind.trans h.2, hdirectory⟩⟩
    rw [heq, hkind, hdirectory]
    rcases hname : EntryKind.infer listing.root
    · simp [clash, hname]
    · simp [clash, hname, hdot]
  · rw [if_neg hdot] at hkind
    exact ⟨iff_of_true (heq.mpr hkind) fun h => hdot h.1, fun h => absurd h.1 hdot⟩

/-- The root of a project, declared and listed, in a directory that is named like an archive. -/
theorem listed_eq_declared_iff_dot :
    let manifest : Manifest :=
      { name := "app", classpath := [{ path := Path.ofText "." }],
        classpathFile := some (Path.ofText "cp.txt") }
    let model : ProjectModel := ⟨manifest, Path.ofText "app.jar"⟩
    let files : FileSystem :=
      { FileSystem.empty with
        nodes := [([Bytes.ofText "app.jar"], .directory),
          ([Bytes.ofText "app.jar", Bytes.ofText "cp.txt"], .file (Bytes.ofText ".\n"))] }
    ∃ listed declared : Dependency,
      runIn files model.dependencies = [.ok declared, .ok listed] ∧
        listed.location = declared.location ∧ listed.kind = .jar ∧ declared.kind = .directory := by
  intro manifest model files
  let here : ListedPath := ⟨".", by decide, by decide, by decide, by decide⟩
  let layout : ClasspathLayout :=
    { indent := .none
      items := [.path here, .lineBreak .none false .none]
      trail := .none
      apart := by simp [ClasspathItem.Apart, ClasspathItem.path?] }
  have hread : runIn files (FileReader.read (model.resolve (Path.ofText "cp.txt"))) =
      .ok (Bytes.ofText layout.text) := by
    decide +kernel
  have hfirst : layout.paths[0]? = some here := rfl
  have hentry : model.manifest.classpath[0]? = some here.entry := rfl
  obtain ⟨listed, declared, hlisted, hdeclared, hlocation, -, -, hclash⟩ :=
    listed_eq_declared_iff files (rfl : model.root = model.root) rfl hread hfirst hentry
  have hlength : (runIn files model.dependencies).length = 2 := by
    decide +kernel
  obtain ⟨hjar, hdirectory⟩ := hclash (by decide +kernel)
  refine ⟨listed, declared, ?_, hlocation, hjar, hdirectory⟩
  obtain ⟨first, second, hboth⟩ := List.length_eq_two.mp hlength
  rw [hboth] at hlisted hdeclared ⊢
  obtain rfl := Option.some.inj hlisted
  obtain rfl := Option.some.inj hdeclared
  rfl

end

end ProjectModel

end ClassOrigin
