/-
Searching what a project declares.

A project is described and its description searched, while the files stay as they are.  A search
asks one root after the other, so it is known by what a single root has:

* **`holds`** — whether a root has a source, a directory as a file and an archive as an entry;
* **`look_fst`** — what looking into one root finds;
* **`lookThrough_eq_some_iff`**, **`lookThrough_eq_none_iff`** — so a search finds what the first
  root has that has anything;
* **`searchedRoots`** — the places that a project's declarations come to, entry by entry, and
  **`Describer.candidateRoots_directivesOf`** — which are those that a description leads to;
* **`findSource_describe`** — hence what is found by way of a description.
-/
import ClassOrigin.Project.Describer
import ClassOrigin.Project.Model
import ClassOrigin.Project.SourceSearch
import ClassOrigin.Proofs.PathTexts
import ClassOrigin.Storage.FileSystem

namespace ClassOrigin

/-! ### Names -/

namespace Path

variable {text : String}

/-- A text that does not start with a slash is a relative path. -/
theorem isAbsolute_ofText (h : text.toList.head? ≠ some '/') : (ofText text).isAbsolute = false := by
  rw [ofText, isAbsolute, Bytes.ofText_eq]
  rcases htext : text.toList with _ | ⟨c, rest⟩
  · rfl
  · obtain ⟨b, bytes, hbytes⟩ := List.exists_cons_of_ne_nil (String.utf8EncodeChar_ne_nil (c := c))
    have hb : b ≠ slash := by
      intro hslash
      have hmem : slash ∈ String.utf8EncodeChar c := by
        rw [hbytes, hslash]
        exact List.mem_cons_self
      have hc : c = '/' := Utf8.eq_of_mem_utf8EncodeChar (by decide) hmem
      exact h (by rw [htext, hc, List.head?_cons])
    simpa [hbytes] using hb

/-- A relative path leads from a base to below it. -/
theorem components_prefix_join {base p : Path} (h : p.isAbsolute = false) :
    base.components <+: (base.join p).components := by
  by_cases hbase : base.bytes = []
  · rw [components_eq_nil_iff.mpr hbase]
    exact List.nil_prefix
  · rw [components_join hbase h]
    exact List.prefix_append _ p.steps

end Path

namespace SourceSearch

theorem toList_relativeName (name : String) :
    (relativeName name).toList = name.toList.dropWhile (· == '/') :=
  String.toList_ofList

theorem head?_relativeName (name : String) : (relativeName name).toList.head? ≠ some '/' := by
  intro h
  have hfirst := List.head?_dropWhile_not (· == '/') name.toList
  rw [← toList_relativeName, h] at hfirst
  cases hfirst

/-- Only slashes at the front are left out. -/
theorem exists_toList_eq (name : String) :
    ∃ slashes, name.toList = List.replicate slashes '/' ++ (relativeName name).toList := by
  have hslashes : ∀ c ∈ name.toList.takeWhile (· == '/'), c = '/' := by
    intro c hc
    simpa using List.all_eq_true.mp List.all_takeWhile c hc
  refine ⟨(name.toList.takeWhile (· == '/')).length, ?_⟩
  rw [← List.eq_replicate_of_mem hslashes, toList_relativeName, List.takeWhile_append_dropWhile]

/-! ### Looking into one root -/

section

variable {σ : Type} (world : σ)

/-- What a program sees of the files. -/
abbrev runIn {α : Type} (program : ReaderM σ α) : α :=
  program.run world

theorem runIn_bind {α β : Type} (program : ReaderM σ α) (next : α → ReaderM σ β) :
    runIn world (program >>= next) = runIn world (next (runIn world program)) :=
  rfl

variable [FileReader (ReaderM σ)] {name : String} {roots : List (Path × EntryKind)}
  {result : SourceMatch}

/-- The archive at a path, if there is a file and it can be read. -/
def archiveAt? (path : Path) : Option Archive :=
  if runIn world (FileReader.isFile path) then
    (runIn world (FileReader.read path)).toOption.bind Archive.ofBytes?
  else none

/-- Whether a root has a source, a directory as a file and an archive as an entry. -/
def holds (name : String) : Path × EntryKind → Bool
  | (root, .directory) => runIn world (FileReader.isFile (root.join (Path.ofText name)))
  | (root, .jar) => (archiveAt? world root).any (Archive.contains · name)

/-- What is found when a root has a source. -/
def matchIn (name : String) : Path × EntryKind → SourceMatch
  | (root, .directory) => .file (root.join (Path.ofText name))
  | (root, .jar) => .archiveEntry root name

theorem look_fst (name : String) (root : Path × EntryKind) :
    (runIn world (look name root)).1 =
      if holds world name root then some (matchIn name root) else none := by
  obtain ⟨root, _ | _⟩ := root
  · rfl
  · rw [look, lookInArchive, runIn_bind, holds, archiveAt?]
    split
    · rw [runIn_bind]
      rcases runIn world (FileReader.read root) with fault | bytes
      · rfl
      · rw [Except.toOption, Option.bind_some]
        dsimp only
        rcases Archive.ofBytes? bytes with _ | archive
        · rfl
        · rfl
    · rfl

/-! ### Looking through roots -/

theorem lookThrough_cons_fst (name : String) (root : Path × EntryKind)
    (roots : List (Path × EntryKind)) :
    (runIn world (lookThrough name (root :: roots))).1 =
      (if holds world name root then some (matchIn name root) else none).or
        (runIn world (lookThrough name roots)).1 := by
  rw [lookThrough, runIn_bind, ← look_fst]
  rcases runIn world (look name root) with ⟨_ | found, log⟩
  · rfl
  · rfl

theorem lookThrough_fst (name : String) (roots : List (Path × EntryKind)) :
    (runIn world (lookThrough name roots)).1 =
      (roots.find? (holds world name)).map (matchIn name) := by
  induction roots with
  | nil => rfl
  | cons root roots ih =>
    rw [lookThrough_cons_fst, ih, List.find?_cons]
    rcases holds world name root
    · rfl
    · rfl

theorem lookThrough_eq_some_iff :
    (runIn world (lookThrough name roots)).1 = some result ↔
      ∃ front root back, roots = front ++ root :: back ∧
        (∀ other ∈ front, holds world name other = false) ∧ holds world name root = true ∧
        matchIn name root = result := by
  rw [lookThrough_fst, Option.map_eq_some_iff]
  constructor
  · rintro ⟨root, hfind, rfl⟩
    obtain ⟨hroot, front, back, rfl, hfront⟩ := List.find?_eq_some_iff_append.mp hfind
    exact ⟨front, root, back, rfl, by simpa using hfront, hroot, rfl⟩
  · rintro ⟨front, root, back, rfl, hfront, hroot, rfl⟩
    refine ⟨root, List.find?_eq_some_iff_append.mpr ⟨hroot, front, back, rfl, ?_⟩, rfl⟩
    simpa using hfront

theorem lookThrough_eq_none_iff :
    (runIn world (lookThrough name roots)).1 = none ↔
      ∀ root ∈ roots, holds world name root = false := by
  rw [lookThrough_fst, Option.map_eq_none_iff, List.find?_eq_none]
  simp

end

end SourceSearch

/-! ### Described projects -/

open SourceSearch

/-- Where a dependency is searched: in its attached sources, which are an archive if their name says
so, and at its own location when it has none. -/
def dependencyRoots : Except ProjectFault Dependency → List (Path × EntryKind)
  | .ok ⟨_, _, some sources⟩ =>
    let isArchive := sources.hasExtension "jar" || sources.hasExtension "zip"
    [(sources, if isArchive then .jar else .directory)]
  | .ok ⟨kind, location, none⟩ => [(location, kind)]
  | .error _ => []

/-- Where an output directory is searched: in the root that it is compiled from. -/
def bindingRoots : Except ProjectFault OutputBinding → List (Path × EntryKind)
  | .ok ⟨_, root⟩ => [(root, .directory)]
  | .error _ => []

/-- The places that declarations come to, in their order.  Entries that do not resolve come to
nothing. -/
def searchedRoots (dependencies : List (Except ProjectFault Dependency))
    (bindings : List (Except ProjectFault OutputBinding)) (sourceRoots : List Path) :
    List (Path × EntryKind) :=
  dependencies.flatMap dependencyRoots ++ bindings.flatMap bindingRoots ++
    sourceRoots.map fun root => (root, .directory)

/-- The roots of the directives for entries, when each entry is taken by itself. -/
theorem Describer.flatMap_resolved {α : Type} {directive : α → SearchDirective}
    {rootsOf : Except ProjectFault α → List (Path × EntryKind)}
    (hok : ∀ entry, rootsOf (.ok entry) = (directive entry).candidateRoots)
    (herror : ∀ fault, rootsOf (.error fault) = []) (entries : List (Except ProjectFault α)) :
    (resolved directive entries).flatMap SearchDirective.candidateRoots =
      entries.flatMap rootsOf := by
  induction entries with
  | nil => rfl
  | cons entry rest ih =>
    rw [List.flatMap_cons, ← ih]
    rcases entry with fault | entry
    · rw [herror]
      rfl
    · rw [hok]
      rfl

/-- The roots of a description, in the order of its directives. -/
theorem Describer.candidateRoots_directivesOf (project : Project) :
    (directivesOf project).flatMap SearchDirective.candidateRoots =
      searchedRoots project.dependencies project.outputBindings project.sourceRoots := by
  rw [directivesOf, List.flatMap_append, List.flatMap_append, searchedRoots]
  congr 2
  · refine flatMap_resolved (fun entry => ?_) (fun _ => rfl) project.dependencies
    obtain ⟨kind, location, _ | sources⟩ := entry
    · rfl
    · rfl
  · exact flatMap_resolved (fun _ => rfl) (fun _ => rfl) project.outputBindings
  · exact List.flatMap_singleton _ _

/-- A project is always described. -/
theorem Describer.directives_describe (project : Project) :
    (standard.describe project).directives =
      some (if project.hasSources then directivesOf project else []) := by
  show (describeStandard project).directives = _
  rw [describeStandard]
  split
  · rfl
  · rfl

section

variable {σ : Type} [FileReader (ReaderM σ)] (world : σ) {name : String} {path : Path}
  {roots : List (Path × EntryKind)}

/-- A name is searched without the slashes at its front. -/
theorem findSource_fst (directives : List SearchDirective) (name : String) :
    (runIn world (findSource directives name)).1 =
      if relativeName name = "" then none
      else
        (runIn world (lookThrough (relativeName name)
          (directives.flatMap SearchDirective.candidateRoots))).1 := by
  rw [findSource]
  by_cases hempty : relativeName name = ""
  · rw [if_pos hempty, if_pos (String.isEmpty_iff.mpr hempty)]
    rfl
  · rw [if_neg hempty, if_neg (mt String.isEmpty_iff.mp hempty)]

theorem findSource_nil_fst (name : String) : (runIn world (findSource [] name)).1 = none := by
  rw [findSource_fst]
  split
  · rfl
  · rfl

/-- A file lies below the root that it is found in. -/
theorem components_prefix_of_lookThrough
    (h : (runIn world (lookThrough (relativeName name) roots)).1 = some (.file path)) :
    ∃ root, (root, .directory) ∈ roots ∧ root.components <+: path.components := by
  obtain ⟨front, ⟨root, kind⟩, back, rfl, -, -, hmatch⟩ := (lookThrough_eq_some_iff world).mp h
  cases kind with
  | directory =>
    obtain rfl := SourceMatch.file.inj hmatch
    refine ⟨root, by simp, Path.components_prefix_join ?_⟩
    exact Path.isAbsolute_ofText (head?_relativeName name)
  | jar => cases hmatch

/-- **A description says where the sources are.**  The standard describer describes every model, and
a source is searched in its description under its name without the slashes at the front.  Without
sources, and for a name of slashes alone, nothing is found.  Otherwise what is found is what the
first root has that has the source, in the order of the entries that resolve, so that nothing is
found only where no root has it: entries that do not resolve are no roots, and roots that are missing
or cannot be read have nothing, wherever they stand.  A file that is found lies below the root that
it is found in. -/
theorem findSource_describe (model : ProjectModel) (name : String) :
    ∃ directives,
      (Describer.standard.describe (runIn world model.project)).directives = some directives ∧
      let relative := relativeName name
      let roots :=
        searchedRoots (runIn world model.dependencies) model.outputBindings model.sourceRoots
      let found := (runIn world (findSource directives name)).1
      (∃ slashes, name.toList = List.replicate slashes '/' ++ relative.toList) ∧
      relative.toList.head? ≠ some '/' ∧
      (model.manifest.hasSources = false ∨ relative = "" → found = none) ∧
      (model.manifest.hasSources = true → relative ≠ "" →
        (∀ result, found = some result ↔
          ∃ front root back, roots = front ++ root :: back ∧
            (∀ other ∈ front, holds world relative other = false) ∧
            holds world relative root = true ∧ matchIn relative root = result) ∧
        (found = none ↔ ∀ root ∈ roots, holds world relative root = false)) ∧
      ∀ path, found = some (.file path) →
        ∃ root, (root, .directory) ∈ roots ∧ root.components <+: path.components := by
  rcases hsources : model.manifest.hasSources
  · have hproject : (runIn world model.project).hasSources = false := hsources
    have hdescribe := Describer.directives_describe (runIn world model.project)
    rw [hproject, if_neg Bool.false_ne_true] at hdescribe
    have hnone := findSource_nil_fst world name
    refine ⟨[], hdescribe, exists_toList_eq name, head?_relativeName name, fun _ => hnone,
      nofun, fun path hpath => ?_⟩
    rw [hnone] at hpath
    cases hpath
  · have hproject : (runIn world model.project).hasSources = true := hsources
    have hdescribe := Describer.directives_describe (runIn world model.project)
    rw [hproject, if_pos rfl] at hdescribe
    have hfound := findSource_fst world (Describer.directivesOf (runIn world model.project)) name
    rw [Describer.candidateRoots_directivesOf] at hfound
    refine ⟨_, hdescribe, exists_toList_eq name, head?_relativeName name, ?_, ?_, ?_⟩
    · rintro (hfalse | hempty)
      · cases hfalse
      · rw [hfound, if_pos hempty]
    · intro _ hne
      rw [hfound, if_neg hne]
      exact ⟨fun result => lookThrough_eq_some_iff world, lookThrough_eq_none_iff world⟩
    · intro path hpath
      rw [hfound] at hpath
      split at hpath
      · cases hpath
      · exact components_prefix_of_lookThrough world hpath

/-- Entries without paths, attached sources left empty, an archive that is missing and one that is
none: a source is found behind all of them, in the first of the two places that have it. -/
theorem findSource_describe_cluttered :
    let manifest : Manifest :=
      { name := "app"
        sourceRoots := [Path.ofText "", Path.ofText "src"]
        classpath := [⟨Path.ofText "", none, none⟩,
          ⟨Path.ofText "lib/a.jar", none, some (Path.ofText "lib/bad.zip")⟩,
          ⟨Path.ofText "lib/gone.jar", none, some (Path.ofText "")⟩,
          ⟨Path.ofText "lib/bad.zip", some .directory, none⟩]
        outputDirectories := [⟨Path.ofText "", Path.ofText "gen"⟩,
          ⟨Path.ofText "out", Path.ofText "src/main"⟩] }
    let model : ProjectModel := ⟨manifest, Path.ofText "/work"⟩
    let work := Bytes.ofText "work"
    let files : FileSystem :=
      { FileSystem.empty with
        nodes := [([work], .directory),
          ([work, Bytes.ofText "lib"], .directory),
          ([work, Bytes.ofText "lib", Bytes.ofText "bad.zip"], .file [0x00]),
          ([work, Bytes.ofText "src"], .directory),
          ([work, Bytes.ofText "src", Bytes.ofText "A.java"], .file []),
          ([work, Bytes.ofText "src", Bytes.ofText "main"], .directory),
          ([work, Bytes.ofText "src", Bytes.ofText "main", Bytes.ofText "A.java"], .file [])] }
    let directives := Describer.directivesOf (runIn files model.project)
    model.manifest.hasSources = true ∧ relativeName "//A.java" ≠ "" ∧
      (Describer.standard.describe (runIn files model.project)).directives = some directives ∧
      (runIn files (findSource directives "//A.java")).1 =
        some (.file (Path.ofText "/work/src/main/A.java")) := by
  intro manifest model work files directives
  have hname : relativeName "//A.java" = "A.java" := by decide +kernel
  have hne : relativeName "//A.java" ≠ "" := by decide +kernel
  obtain ⟨found, hdescribe, -, -, -, hsearch, -⟩ := findSource_describe files model "//A.java"
  have hdirectives : directives = found := Option.some.inj hdescribe
  refine ⟨rfl, hne, hdirectives ▸ hdescribe, ?_⟩
  rw [hdirectives, (hsearch rfl hne).1, hname]
  -- In front stand a file that is no archive, no file at all, and a file taken for a directory.
  refine ⟨[(Path.ofText "/work/lib/bad.zip", .jar), (Path.ofText "/work/lib/gone.jar", .jar),
    (Path.ofText "/work/lib/bad.zip", .directory)], (Path.ofText "/work/src/main", .directory),
    [(Path.ofText "/work/src", .directory), (Path.ofText "/work/gen", .directory),
      (Path.ofText "/work/src/main", .directory)], ?_, ?_, ?_, ?_⟩
  · decide +kernel
  · decide +kernel
  · decide +kernel
  · decide +kernel

end

end ClassOrigin
