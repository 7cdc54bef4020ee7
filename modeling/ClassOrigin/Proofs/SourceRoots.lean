/-
The source roots of a project.

Source roots are collected from two lists, and of those that mean the same the first is kept, in the
spelling that it has.  So the root of an output directory is always among them, if in other words, and
a search that comes to the end of a description has been everywhere:

* **`Path.firsts`** — the paths of a list with other components than all in front of them, and
  **`ProjectModel.foldl_addRoot`** — which are what is collected one after the other;
* **`ProjectModel.exists_sourceRoot_components`** — the root of an output directory is among them;
* **`FileSystem.walk_join`** — where a name below a root leads depends on the root's components;
* **`FileSystem.isFile_join_of_components_eq`** — so equal roots have the same files, as far as
  their spellings leave room for a name;
* **`ProjectModel.sourceRoots_complete`** — hence output directories add nothing to what is found,
  and **`ProjectModel.findSource_of_long_root`** — unless a spelling is too long.
-/
import ClassOrigin.Proofs.FileWrites
import ClassOrigin.Proofs.SourceSearches
import Mathlib.Data.List.Induction

namespace ClassOrigin

/-! ### The first of equal paths -/

namespace Path

variable {p q : Path} {paths : List Path}

/-- The paths of a list without those that have the components of an earlier one. -/
def firsts (paths : List Path) : List Path :=
  (paths.zipIdx.filter fun entry =>
    (paths.take entry.2).all fun earlier => entry.1.components != earlier.components).map Prod.fst

theorem any_sameAs_iff :
    paths.any p.sameAs = true ↔ ∃ q ∈ paths, p.components = q.components := by
  simp only [List.any_eq_true, sameAs_iff]

theorem firsts_append_singleton (paths : List Path) (p : Path) :
    firsts (paths ++ [p]) = if paths.any p.sameAs then firsts paths else firsts paths ++ [p] := by
  -- What stands in front of an entry of `paths` is the same in the longer list.
  have hfront : (paths.zipIdx.filter fun entry =>
        ((paths ++ [p]).take entry.2).all fun earlier => entry.1.components != earlier.components) =
      paths.zipIdx.filter fun entry =>
        (paths.take entry.2).all fun earlier => entry.1.components != earlier.components := by
    refine List.filter_congr fun entry hentry => ?_
    have hlt : entry.2 < paths.length := by
      simpa using List.snd_lt_add_of_mem_zipIdx hentry
    rw [List.take_append_of_le_length hlt.le]
  rw [firsts, List.zipIdx_append, List.filter_append, hfront, List.map_append, ← firsts]
  rcases hany : paths.any p.sameAs
  · have hall : (paths.all fun earlier => p.components != earlier.components) = true := by
      rw [← Bool.not_false, ← hany, List.not_any_eq_all_not]
      rfl
    simp [hall]
  · have hall : (paths.all fun earlier => p.components != earlier.components) = false := by
      rw [← Bool.not_true, ← hany, List.not_any_eq_all_not]
      rfl
    simp [hall]

theorem mem_of_mem_firsts (h : p ∈ firsts paths) : p ∈ paths := by
  obtain ⟨⟨path, i⟩, hentry, rfl⟩ := List.mem_map.mp h
  exact List.fst_mem_of_mem_zipIdx (List.mem_filter.mp hentry).1

/-- By induction from the end: a path is kept, or one with its components was there before. -/
theorem exists_mem_firsts (h : p ∈ paths) : ∃ q ∈ firsts paths, p.components = q.components := by
  induction paths using List.reverseRecOn generalizing p with
  | nil => cases h
  | append_singleton paths last ih =>
    rw [firsts_append_singleton]
    have hkept (hp : p ∈ paths) : ∃ q ∈ if paths.any last.sameAs then firsts paths
        else firsts paths ++ [last], p.components = q.components := by
      obtain ⟨q, hq, hsame⟩ := ih hp
      refine ⟨q, ?_, hsame⟩
      split
      · exact hq
      · exact List.mem_append_left [last] hq
    rcases List.mem_append.mp h with hp | hp
    · exact hkept hp
    · obtain rfl := List.mem_singleton.mp hp
      split
      · rename_i hany
        obtain ⟨other, hother, hsame⟩ := any_sameAs_iff.mp hany
        obtain ⟨q, hq, hotherq⟩ := ih hother
        exact ⟨q, hq, hsame.trans hotherq⟩
      · exact ⟨p, List.mem_append_right _ (List.mem_singleton_self p), rfl⟩

theorem any_firsts (paths : List Path) (p : Path) :
    (firsts paths).any p.sameAs = paths.any p.sameAs := by
  rw [Bool.eq_iff_iff, any_sameAs_iff, any_sameAs_iff]
  constructor
  · rintro ⟨q, hq, hsame⟩
    exact ⟨q, mem_of_mem_firsts hq, hsame⟩
  · rintro ⟨other, hother, hsame⟩
    obtain ⟨q, hq, hotherq⟩ := exists_mem_firsts hother
    exact ⟨q, hq, hsame.trans hotherq⟩

/-- No two of them have the same components. -/
theorem pairwise_firsts (paths : List Path) :
    (firsts paths).Pairwise fun earlier later => earlier.components ≠ later.components := by
  induction paths using List.reverseRecOn with
  | nil => exact List.Pairwise.nil
  | append_singleton paths last ih =>
    rw [firsts_append_singleton]
    split
    · exact ih
    · rename_i hany
      rw [← any_firsts, any_sameAs_iff] at hany
      refine List.pairwise_append.mpr ⟨ih, List.pairwise_singleton _ last, ?_⟩
      intro earlier hearlier later hlater hsame
      obtain rfl := List.mem_singleton.mp hlater
      exact hany ⟨earlier, hearlier, hsame.symm⟩

end Path

namespace ProjectModel

variable {model : ProjectModel} {binding : OutputBinding}

/-- By induction from the end: what has been collected so far. -/
theorem foldl_addRoot (paths : List Path) : paths.foldl addRoot [] = Path.firsts paths := by
  induction paths using List.reverseRecOn with
  | nil => rfl
  | append_singleton paths last ih =>
    rw [List.foldl_append, ih, Path.firsts_append_singleton, ← Path.any_firsts]
    rfl

/-- Everything that is declared as a source root and is not empty, as seen from the root. -/
def declaredRoots (model : ProjectModel) : List Path :=
  let declared := model.manifest.sourceRoots
  let bound := model.manifest.outputDirectories.map fun directory => directory.sourceRoot
  ((declared ++ bound).filter fun path => path.bytes ≠ []).map fun path => model.root.join path

/-- A path that is there is one that is not empty. -/
theorem present_eq : present = fun path => decide (path.bytes ≠ []) := by
  funext path
  rw [present, Bool.eq_iff_iff]
  simp

theorem sourceRoots_eq (model : ProjectModel) :
    model.sourceRoots = Path.firsts model.declaredRoots := by
  rw [sourceRoots, foldl_addRoot, present_eq]
  rfl

theorem mem_declaredRoots_of_mem_outputBindings (h : .ok binding ∈ model.outputBindings) :
    binding.sourceRoot ∈ model.declaredRoots := by
  obtain ⟨i, hi, hbinding⟩ := List.mem_mapIdx.mp h
  rw [outputBinding, present_eq] at hbinding
  split at hbinding
  · rename_i hpresent
    cases hbinding
    refine List.mem_map_of_mem (List.mem_filter.mpr ⟨?_, hpresent.2⟩)
    exact List.mem_append_right _ (List.mem_map_of_mem (List.getElem_mem hi))
  · cases hbinding

/-- The root of an output directory is kept, or one with its components. -/
theorem exists_sourceRoot_components (h : .ok binding ∈ model.outputBindings) :
    ∃ root ∈ model.sourceRoots, binding.sourceRoot.components = root.components := by
  rw [sourceRoots_eq]
  exact Path.exists_mem_firsts (mem_declaredRoots_of_mem_outputBindings h)

end ProjectModel

/-! ### The bytes of names -/

namespace Path

variable {p : Path}

/-- A byte that can stand in names only stands in the steps of a path. -/
theorem mem_bytes_iff {b : UInt8} (hslash : b ≠ slash) (hdot : b ≠ dot) :
    b ∈ p.bytes ↔ ∃ piece ∈ p.components.filterMap Component.step?, b ∈ piece := by
  have hpieces : b ∈ p.bytes ↔ ∃ piece ∈ p.pieces, b ∈ piece := by
    rw [← List.mem_flatten, pieces, flatten_splitOn, List.mem_filter]
    simp [hslash]
  rw [hpieces, filterMap_step?_components]
  refine exists_congr fun piece => ?_
  rw [List.mem_filter, and_assoc]
  refine and_congr_right fun _ => ?_
  constructor
  · intro hb
    refine ⟨?_, hb⟩
    rw [isRedundant, Bool.not_eq_true', Bool.or_eq_false_iff, beq_eq_false_iff_ne,
      beq_eq_false_iff_ne]
    refine ⟨List.ne_nil_of_mem hb, ?_⟩
    rintro rfl
    exact hdot (List.mem_singleton.mp hb)
  · exact And.right

end Path

/-! ### Equal roots -/

namespace FileSystem

variable {fs : FileSystem} {place : Place} {p q name : Path} {piece : Bytes} {back : List Bytes}

/-- The checks in their order. -/
theorem screen_eq (p : Path) :
    screen p =
      if p.bytes = [] then .error .notFound
      else if p.bytes.contains 0 then .error .nulInPath
      else if p.bytes.length > maxPath then .error .nameTooLong
      else .ok () := by
  rw [screen]
  by_cases hempty : p.bytes = []
  · rw [if_pos hempty, if_pos hempty]
    rfl
  · rw [if_neg hempty, if_neg hempty]
    dsimp only
    split
    · rfl
    · rfl

theorem screen_eq_ok :
    screen p = .ok () ↔ p.bytes ≠ [] ∧ 0 ∉ p.bytes ∧ p.bytes.length ≤ maxPath := by
  rw [screen_eq]
  split
  · rename_i hempty
    exact iff_of_false nofun fun h => h.1 hempty
  · rename_i hempty
    split
    · rename_i hnul
      exact iff_of_false nofun fun h => h.2.1 (List.contains_iff_mem.mp hnul)
    · rename_i hnul
      split
      · rename_i hlong
        exact iff_of_false nofun fun h => Nat.not_lt.mpr h.2.2 hlong
      · rename_i hshort
        exact iff_of_true rfl ⟨hempty, mt List.contains_iff_mem.mpr hnul, Nat.not_lt.mp hshort⟩

/-- Whatever comes next has to be in the same directory. -/
theorem walk_cons_of_redundant (hpiece : Path.isRedundant piece = true) (hback : back ≠ []) :
    (piece :: back).foldlM fs.step place = back.foldlM fs.step place := by
  obtain ⟨next, rest, rfl⟩ := List.exists_cons_of_ne_nil hback
  rcases hnode : fs.node? place with _ | content | _
  · have hstep (piece : Bytes) : fs.step place piece = .error .notFound := by
      rw [step, hnode]
    rw [List.foldlM_cons, List.foldlM_cons, hstep, hstep]
    rfl
  · have hstep (piece : Bytes) : fs.step place piece = .error .notADirectory := by
      rw [step, hnode]
    rw [List.foldlM_cons, List.foldlM_cons, hstep, hstep]
    rfl
  · rw [List.foldlM_cons, step_of_redundant hpiece hnode]
    rfl

/-- By induction on the pieces in front: those that add nothing do not matter when others follow. -/
theorem walk_append_filter (front : List Bytes) (hback : back ≠ []) (place : Place) :
    (front ++ back).foldlM fs.step place =
      ((front.filter fun piece => !Path.isRedundant piece) ++ back).foldlM fs.step place := by
  induction front generalizing place with
  | nil => rfl
  | cons piece front ih =>
    rcases hpiece : Path.isRedundant piece
    · rw [List.filter_cons_of_pos (by simpa using hpiece)]
      exact congrArg (fs.step place piece >>= ·) (funext ih)
    · rw [List.filter_cons_of_neg (by simpa using hpiece), ← ih, List.cons_append]
      exact walk_cons_of_redundant hpiece (List.append_ne_nil_of_right_ne_nil front hback)

/-- Where a name below a root leads. -/
theorem walk_join (hname : name.isAbsolute = false) (place : Place) :
    (p.join name).pieces.foldlM fs.step place =
      (p.components.filterMap Path.Component.step? ++ name.pieces).foldlM fs.step place := by
  obtain ⟨before, hpieces, hbefore⟩ := Path.pieces_join hname
  have hback : name.pieces ≠ [] := List.splitOn_ne_nil Path.slash name.bytes
  rw [hpieces, walk_append_filter before hback, ← Path.filterMap_step?_ofPiece?, hbefore, Path.steps,
    Path.filterMap_step?_ofPiece?, Path.filterMap_step?_components]

theorem isFile_eq_true :
    fs.isFile p = true ↔ ∃ place content, fs.locate p = .ok (place, .file content) := by
  rw [isFile]
  rcases fs.locate p with fault | ⟨place, _ | _⟩
  · simp
  · simp
  · simp

/-- A file below a root is a file below every root with the same components, where the spelling of
that leaves room for its name. -/
theorem isFile_join_of_components_eq (hcomponents : p.components = q.components)
    (hname : name.isAbsolute = false) (hlength : (q.join name).bytes.length ≤ maxPath)
    (h : fs.isFile (p.join name) = true) : fs.isFile (q.join name) = true := by
  by_cases hp : p.bytes = []
  · have hq : q.bytes = [] := by
      rw [← Path.components_eq_nil_iff, ← hcomponents, Path.components_eq_nil_iff, hp]
    rwa [show q = p from congrArg Path.mk (hq.trans hp.symm)]
  · have hq : q.bytes ≠ [] := by
      rwa [Ne, ← Path.components_eq_nil_iff, ← hcomponents, Path.components_eq_nil_iff]
    have hjoined : (p.join name).components = (q.join name).components := by
      rw [Path.components_join hp hname, Path.components_join hq hname, hcomponents]
    obtain ⟨place, content, hlocate⟩ := isFile_eq_true.mp h
    obtain ⟨hscreen, hwalk, hnode⟩ := locate_eq_ok.mp hlocate
    obtain ⟨hne, hnul, -⟩ := screen_eq_ok.mp hscreen
    refine isFile_eq_true.mpr ⟨place, content, locate_eq_ok.mpr ⟨screen_eq_ok.mpr ⟨?_, ?_, hlength⟩,
      ?_, hnode⟩⟩
    · rwa [Ne, ← Path.components_eq_nil_iff, ← hjoined, Path.components_eq_nil_iff]
    · rwa [Path.mem_bytes_iff (by decide) (by decide), ← hjoined,
        ← Path.mem_bytes_iff (by decide) (by decide)]
    · rw [← start_eq_of_components_eq hjoined, walk_join hname, ← hcomponents,
        ← walk_join hname, hwalk]

theorem length_le_of_isFile (h : fs.isFile p = true) : p.bytes.length ≤ maxPath := by
  obtain ⟨place, content, hlocate⟩ := isFile_eq_true.mp h
  exact (screen_eq_ok.mp (locate_eq_ok.mp hlocate).1).2.2

end FileSystem

/-! ### Searches without output directories -/

/-- Whether a directive is that of an output directory. -/
def SearchDirective.isOutputBinding : SearchDirective → Bool
  | outputBinding _ => true
  | dependency _ | projectFallback _ _ => false

namespace Describer

theorem exists_of_mem_resolved {α : Type} {directive : α → SearchDirective}
    {entries : List (Except ProjectFault α)} {d : SearchDirective}
    (h : d ∈ resolved directive entries) : ∃ entry, directive entry = d := by
  obtain ⟨entry | entry, -, hentry⟩ := List.mem_filterMap.mp h
  · cases hentry
  · exact ⟨entry, Option.some.inj hentry⟩

/-- What is left without the directives of output directories describes a project that has none. -/
theorem filter_directivesOf (project : Project) :
    (directivesOf project).filter (!·.isOutputBinding) =
      directivesOf { project with outputBindings := [] } := by
  have hdependencies : (resolved .dependency project.dependencies).filter (!·.isOutputBinding) =
      resolved .dependency project.dependencies := by
    refine List.filter_eq_self.mpr fun d hd => ?_
    obtain ⟨entry, rfl⟩ := exists_of_mem_resolved hd
    rfl
  have hbindings : (resolved .outputBinding project.outputBindings).filter (!·.isOutputBinding) =
      [] := by
    refine List.filter_eq_nil_iff.mpr fun d hd => ?_
    obtain ⟨entry, rfl⟩ := exists_of_mem_resolved hd
    exact Bool.false_ne_true
  rw [directivesOf, List.filter_append, List.filter_append, hdependencies, hbindings]
  rfl

end Describer

section

variable {dependencies : List (Except ProjectFault Dependency)}
  {bindings : List (Except ProjectFault OutputBinding)} {sourceRoots : List Path}
  {root : Path × EntryKind}

/-- The places to search are those without output directories, and those of output directories. -/
theorem mem_searchedRoots_iff :
    root ∈ searchedRoots dependencies bindings sourceRoots ↔
      root ∈ searchedRoots dependencies [] sourceRoots ∨
        ∃ binding, .ok binding ∈ bindings ∧ (binding.sourceRoot, .directory) = root := by
  have hbindings : root ∈ bindings.flatMap bindingRoots ↔
      ∃ binding, .ok binding ∈ bindings ∧ (binding.sourceRoot, .directory) = root := by
    rw [List.mem_flatMap]
    constructor
    · rintro ⟨fault | binding, hbinding, hroot⟩
      · cases hroot
      · exact ⟨binding, hbinding, (List.mem_singleton.mp hroot).symm⟩
    · rintro ⟨binding, hbinding, rfl⟩
      exact ⟨.ok binding, hbinding, List.mem_singleton_self _⟩
  rw [← hbindings]
  simp only [searchedRoots, List.mem_append, List.flatMap_nil, List.not_mem_nil, or_false]
  exact or_right_comm

theorem mem_searchedRoots_of_mem_sourceRoots {path : Path} (h : path ∈ sourceRoots) :
    (path, .directory) ∈ searchedRoots dependencies bindings sourceRoots :=
  List.mem_append_right _ (List.mem_map_of_mem h)

end

open SourceSearch

/-- Something is found where some root has the source. -/
theorem isSome_findSource_directivesOf {σ : Type} [FileReader (ReaderM σ)] (world : σ)
    (project : Project) (name : String) :
    (runIn world (findSource (Describer.directivesOf project) name)).1.isSome = true ↔
      relativeName name ≠ "" ∧
        ∃ root ∈ searchedRoots project.dependencies project.outputBindings project.sourceRoots,
          holds world (relativeName name) root = true := by
  rw [findSource_fst, Describer.candidateRoots_directivesOf]
  by_cases hempty : relativeName name = ""
  · rw [if_pos hempty]
    exact iff_of_false nofun fun h => h.1 hempty
  · rw [if_neg hempty, lookThrough_fst, Option.isSome_map, List.find?_isSome]
    exact (and_iff_right hempty).symm

namespace ProjectModel

/-- Whether a name stays within the length of paths below each source root that is kept, if it does
so below the root as an output directory spells it. -/
def LeavesRoom (model : ProjectModel) (name : Path) : Prop :=
  ∀ binding, .ok binding ∈ model.outputBindings →
    ∀ root ∈ model.sourceRoots, binding.sourceRoot.components = root.components →
      (binding.sourceRoot.join name).bytes.length ≤ FileSystem.maxPath →
        (root.join name).bytes.length ≤ FileSystem.maxPath

/-- What the root of an output directory has, a source root has. -/
theorem exists_sourceRoot_holds {model : ProjectModel} {binding : OutputBinding} {name : String}
    (files : FileSystem) (hroom : model.LeavesRoom (Path.ofText (relativeName name)))
    (hbinding : .ok binding ∈ model.outputBindings)
    (h : holds files (relativeName name) (binding.sourceRoot, .directory) = true) :
    ∃ root ∈ model.sourceRoots, holds files (relativeName name) (root, .directory) = true := by
  obtain ⟨root, hroot, hsame⟩ := exists_sourceRoot_components hbinding
  have hlength := hroom binding hbinding root hroot hsame (FileSystem.length_le_of_isFile h)
  refine ⟨root, hroot, FileSystem.isFile_join_of_components_eq hsame ?_ hlength h⟩
  exact Path.isAbsolute_ofText (head?_relativeName name)

/-- **Source roots.**  The source roots of a model are the declared ones and then those of its output
directories, without the empty ones, as seen from the root of the model, and of those with the same
components the first alone.  The root of every output directory that resolves is among them, in some
spelling.  So in every file system a source is found without the directives of output directories if
it is found with them, as long as the spellings that are kept leave room for its name. -/
theorem sourceRoots_complete (model : ProjectModel) :
    let declared := model.manifest.sourceRoots
    let bound := model.manifest.outputDirectories.map fun directory => directory.sourceRoot
    model.sourceRoots = Path.firsts
      (((declared ++ bound).filter fun path => path.bytes ≠ []).map
        fun path => model.root.join path) ∧
    model.sourceRoots.Pairwise (fun earlier later => earlier.components ≠ later.components) ∧
    (∀ binding, .ok binding ∈ model.outputBindings →
      ∃ root ∈ model.sourceRoots, binding.sourceRoot.components = root.components) ∧
    ∀ files : FileSystem, ∃ directives,
      (Describer.standard.describe (runIn files model.project)).directives = some directives ∧
      ∀ name, model.LeavesRoom (Path.ofText (relativeName name)) →
        (runIn files (findSource (directives.filter (!·.isOutputBinding)) name)).1.isSome =
          (runIn files (findSource directives name)).1.isSome := by
  refine ⟨sourceRoots_eq model, ?_, fun binding => exists_sourceRoot_components, fun files => ?_⟩
  · rw [sourceRoots_eq]
    exact Path.pairwise_firsts model.declaredRoots
  · refine ⟨_, Describer.directives_describe (runIn files model.project), fun name hroom => ?_⟩
    split
    · rw [Describer.filter_directivesOf, Bool.eq_iff_iff, isSome_findSource_directivesOf,
        isSome_findSource_directivesOf]
      refine and_congr_right fun _ => ⟨?_, ?_⟩
      · rintro ⟨root, hroot, hholds⟩
        exact ⟨root, mem_searchedRoots_iff.mpr (.inl hroot), hholds⟩
      · rintro ⟨root, hroot, hholds⟩
        rcases mem_searchedRoots_iff.mp hroot with hroot | ⟨binding, hbinding, rfl⟩
        · exact ⟨root, hroot, hholds⟩
        · obtain ⟨kept, hkept, hholds⟩ := exists_sourceRoot_holds files hroom hbinding hholds
          exact ⟨_, mem_searchedRoots_of_mem_sourceRoots hkept, hholds⟩
    · rfl

/-- Two spellings of a root among entries left empty: one root is kept, and a source below it is
found with and without the output directory. -/
theorem sourceRoots_complete_respelled :
    let manifest : Manifest :=
      { name := "app", sourceRoots := [Path.ofText "", Path.ofText "./src//main/", Path.ofText ""],
        outputDirectories := [⟨Path.ofText "gen", Path.ofText ""⟩,
          ⟨Path.ofText "out", Path.ofText "src/./main"⟩] }
    let model : ProjectModel := ⟨manifest, Path.ofText "/work"⟩
    let files : FileSystem :=
      { FileSystem.empty with
        nodes := [([Bytes.ofText "work"], .directory),
          ([Bytes.ofText "work", Bytes.ofText "src"], .directory),
          ([Bytes.ofText "work", Bytes.ofText "src", Bytes.ofText "main"], .directory),
          ([Bytes.ofText "work", Bytes.ofText "src", Bytes.ofText "main", Bytes.ofText "A.java"],
            .file [])] }
    model.sourceRoots = [Path.ofText "/work/./src//main/"] ∧
      model.LeavesRoom (Path.ofText "A.java") ∧
      (runIn files (findSource
        ((Describer.directivesOf (runIn files model.project)).filter (!·.isOutputBinding))
        "A.java")).1.isSome = true := by
  intro manifest model files
  have hroots : model.sourceRoots = [Path.ofText "/work/./src//main/"] := by
    decide +kernel
  have hroom : model.LeavesRoom (Path.ofText (relativeName "A.java")) := by
    intro binding _ root hroot _ _
    rw [hroots, List.mem_singleton] at hroot
    rw [hroot]
    decide +kernel
  obtain ⟨-, -, -, hsearch⟩ := sourceRoots_complete model
  obtain ⟨directives, hdescribe, hfound⟩ := hsearch files
  have hdirectives : Describer.directivesOf (runIn files model.project) = directives :=
    Option.some.inj hdescribe
  refine ⟨hroots, hroom, ?_⟩
  rw [hdirectives, hfound "A.java" hroom, ← hdirectives]
  decide +kernel

/-- A root that is kept in a spelling with no room for names: its source is found through the output
directory alone. -/
theorem findSource_of_long_root :
    let spelling : Path :=
      ⟨Bytes.ofText "s/" ++ (List.replicate 2100 [Path.dot, Path.slash]).flatten⟩
    let manifest : Manifest :=
      { name := "app", sourceRoots := [spelling],
        outputDirectories := [⟨Path.ofText "out", Path.ofText "s"⟩] }
    let model : ProjectModel := ⟨manifest, Path.ofText ""⟩
    let files : FileSystem :=
      { FileSystem.empty with
        nodes := [([Bytes.ofText "s"], .directory),
          ([Bytes.ofText "s", Bytes.ofText "A.java"], .file [])] }
    let directives := Describer.directivesOf (runIn files model.project)
    (Describer.standard.describe (runIn files model.project)).directives = some directives ∧
      (runIn files (findSource directives "A.java")).1 = some (.file (Path.ofText "s/A.java")) ∧
      (runIn files (findSource (directives.filter (!·.isOutputBinding)) "A.java")).1 = none := by
  refine ⟨rfl, ?_, ?_⟩
  · decide +kernel
  · decide +kernel

end ProjectModel

end ClassOrigin
