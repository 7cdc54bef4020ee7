/-
Classpath files.

A classpath file is read in two turns: its text is cut into lines, which are trimmed, and each line is
cut at its colons.  Empty pieces come up in both turns and are dropped.  So it does not matter how the
paths are laid out, as long as something stands between each two of them:

* **`ListedPath`** — a path that can be told from what stands around it;
* **`ClasspathLayout`** — a text made of such paths, colons, and line breaks with blanks around them;
* **`filePieces_append_break`**, **`linePieces_append_colon`** — a separator takes a text apart;
* **`filePieces_spell`** — hence the pieces of a layout are its paths;
* **`ProjectModel.dependencies_of_classpathFile`** — and what a project depends on are its own
  entries and then the paths of the file, or one fault when the file cannot be read.
-/
import ClassOrigin.Proofs.SourceSearches
import ClassOrigin.Proofs.Trimming
import ClassOrigin.Proofs.Utf8Exactness
import Mathlib.Data.List.Chain

namespace ClassOrigin

/-! ### Layouts -/

/-- A path that can stand in a classpath file. -/
structure ListedPath where
  text : String
  ne_empty : text ≠ ""
  colon_notMem : ':' ∉ text.toList
  break_notMem : '\n' ∉ text.toList
  trimmed : Blank.IsTrimmedBy Blank.isBlank text.toList

/-- The path that is listed. -/
def ListedPath.path (entry : ListedPath) : Path :=
  Path.ofText entry.text

/-- White space within a line. -/
structure Blanks where
  chars : List Char
  isBlank : ∀ c ∈ chars, Blank.isBlank c = true
  break_notMem : '\n' ∉ chars

/-- No white space. -/
def Blanks.none : Blanks :=
  ⟨[], List.forall_mem_nil _, List.not_mem_nil⟩

/-- What a classpath file is made of. -/
inductive ClasspathItem
  | path (entry : ListedPath)
  | colon
  /-- The end of a line, as a line feed with or without a carriage return, with blanks at the end of
  this line and at the start of the next. -/
  | lineBreak (before : Blanks) (carriageReturn : Bool) (after : Blanks)

namespace ClasspathItem

/-- The path of an item that is one. -/
def path? : ClasspathItem → Option ListedPath
  | path entry => some entry
  | colon | lineBreak _ _ _ => none

/-- How an item is written. -/
def spell : ClasspathItem → List Char
  | path entry => entry.text.toList
  | colon => [':']
  | lineBreak before carriageReturn after =>
    before.chars ++ (if carriageReturn then ['\r'] else []) ++ '\n' :: after.chars

/-- Two items that may stand side by side: not both are paths. -/
def Apart (first second : ClasspathItem) : Prop :=
  first.path? = none ∨ second.path? = none

end ClasspathItem

/-- A classpath file: paths with separators between them, and with more separators and blanks wherever
these can stand. -/
structure ClasspathLayout where
  indent : Blanks
  items : List ClasspathItem
  trail : Blanks
  apart : items.IsChain ClasspathItem.Apart

namespace ClasspathLayout

/-- The paths of a layout, in order. -/
def paths (layout : ClasspathLayout) : List ListedPath :=
  layout.items.filterMap ClasspathItem.path?

/-- The text of a layout. -/
def text (layout : ClasspathLayout) : String :=
  String.ofList (layout.indent.chars ++ layout.items.flatMap ClasspathItem.spell ++
    layout.trail.chars)

end ClasspathLayout

/-! ### Pieces -/

variable {front back line : List Char} {items done : List ClasspathItem}

/-- The pieces of a line between its colons, without the empty ones. -/
def linePieces (line : List Char) : List (List Char) :=
  (line.splitOn ':').filter fun piece => !piece.isEmpty

/-- The pieces of all lines of a text, which are trimmed. -/
def filePieces (text : List Char) : List (List Char) :=
  (text.splitOn '\n').flatMap fun line => linePieces (Blank.trimBy Blank.isBlank line)

theorem classpathPaths_eq (text : String) :
    ProjectModel.classpathPaths text =
      (filePieces text.toList).map fun piece => Path.ofText (String.ofList piece) := by
  simp only [ProjectModel.classpathPaths, filePieces, linePieces, List.filter_flatMap,
    List.flatMap_map]

/-- A colon takes a line apart. -/
theorem linePieces_append_colon (front back : List Char) :
    linePieces (front ++ ':' :: back) = linePieces front ++ linePieces back := by
  rw [linePieces, List.splitOn_append_cons_self, List.filter_append]
  rfl

/-- A line feed takes a text apart. -/
theorem filePieces_append_break (front back : List Char) :
    filePieces (front ++ '\n' :: back) = filePieces front ++ filePieces back := by
  rw [filePieces, List.splitOn_append_cons_self, List.flatMap_append]
  rfl

theorem linePieces_nil : linePieces [] = [] := by
  decide

/-- What has no colon is a piece by itself. -/
theorem linePieces_of_notMem (hne : line ≠ []) (h : ':' ∉ line) : linePieces line = [line] := by
  rw [linePieces, List.splitOn_eq_singleton h, List.filter_cons_of_pos (by simpa using hne)]
  rfl

theorem filePieces_of_notMem (h : '\n' ∉ line) :
    filePieces line = linePieces (Blank.trimBy Blank.isBlank line) := by
  rw [filePieces, List.splitOn_eq_singleton h, List.flatMap_singleton]

/-! ### The pieces of a layout -/

namespace ClasspathItem

/-- An item that does not end its line. -/
def StaysOnLine : ClasspathItem → Prop
  | path _ | colon => True
  | lineBreak _ _ _ => False

theorem isTrimmedBy_spell : ∀ {item : ClasspathItem}, item.StaysOnLine →
    Blank.IsTrimmedBy Blank.isBlank item.spell
  | path entry, _ => entry.trimmed
  | colon, _ => Blank.isTrimmedBy_of_forall (List.forall_mem_singleton.mpr rfl)

theorem break_notMem_spell : ∀ {item : ClasspathItem}, item.StaysOnLine → '\n' ∉ item.spell
  | path entry, _ => entry.break_notMem
  | colon, _ => by decide

theorem isTrimmedBy_flatMap_spell (h : ∀ item ∈ items, item.StaysOnLine) :
    Blank.IsTrimmedBy Blank.isBlank (items.flatMap spell) := by
  induction items with
  | nil => exact Blank.isTrimmedBy_of_forall (by simp)
  | cons item items ih =>
    obtain ⟨hitem, hitems⟩ := List.forall_mem_cons.mp h
    exact (isTrimmedBy_spell hitem).append (ih hitems)

/-- The paths of items on one line are its pieces. -/
theorem linePieces_flatMap_spell : ∀ {items : List ClasspathItem},
    (∀ item ∈ items, item.StaysOnLine) → items.IsChain Apart →
    linePieces (items.flatMap spell) =
      (items.filterMap path?).map fun entry => entry.text.toList
  | [], _, _ => linePieces_nil
  | colon :: items, h, hapart => by
    have hrest := linePieces_flatMap_spell (List.forall_mem_cons.mp h).2 hapart.tail
    exact (linePieces_append_colon [] _).trans hrest
  | [path entry], _, _ => by
    have hpiece := linePieces_of_notMem (mt String.toList_eq_nil_iff.mp entry.ne_empty)
      entry.colon_notMem
    simpa [spell, path?] using hpiece
  | path entry :: colon :: items, h, hapart => by
    have hpiece := linePieces_of_notMem (mt String.toList_eq_nil_iff.mp entry.ne_empty)
      entry.colon_notMem
    have hrest := linePieces_flatMap_spell
      (List.forall_mem_cons.mp (List.forall_mem_cons.mp h).2).2 hapart.tail.tail
    calc linePieces ((path entry :: colon :: items).flatMap spell)
        = linePieces (entry.text.toList ++ ':' :: items.flatMap spell) := rfl
      _ = [entry.text.toList] ++ linePieces (items.flatMap spell) := by
        rw [linePieces_append_colon, hpiece]
      _ = _ := by
        rw [hrest]
        rfl
  | path _ :: path _ :: _, _, hapart => by
    rcases (List.isChain_cons_cons.mp hapart).1 with h | h
    · cases h
    · cases h
  | path _ :: lineBreak _ _ _ :: _, h, _ => by
    cases (List.forall_mem_cons.mp (List.forall_mem_cons.mp h).2).1
  | lineBreak _ _ _ :: _, h, _ => by
    cases (List.forall_mem_cons.mp h).1

end ClasspathItem

open ClasspathItem

/-- One line, with blanks around it. -/
theorem filePieces_line (hitems : ∀ item ∈ items, item.StaysOnLine) (hapart : items.IsChain Apart)
    (hfront : ∀ c ∈ front, Blank.isBlank c = true) (hfront' : '\n' ∉ front)
    (hback : ∀ c ∈ back, Blank.isBlank c = true) (hback' : '\n' ∉ back) :
    filePieces (front ++ items.flatMap spell ++ back) =
      (items.filterMap path?).map fun entry => entry.text.toList := by
  have hline : '\n' ∉ items.flatMap spell := by
    intro hmem
    obtain ⟨item, hitem, hbreak⟩ := List.mem_flatMap.mp hmem
    exact break_notMem_spell (hitems item hitem) hbreak
  rw [filePieces_of_notMem (by simp [hfront', hline, hback']),
    Blank.trimBy_append_append hfront hback,
    Blank.trimBy_of_isTrimmedBy (isTrimmedBy_flatMap_spell hitems),
    linePieces_flatMap_spell hitems hapart]

/-- By induction on the items that are left: `done` holds those on the same line in front of them,
and each line break starts another line. -/
theorem filePieces_spell (indent trail : Blanks) (hdone : ∀ item ∈ done, item.StaysOnLine)
    (hapart : (done ++ items).IsChain Apart) :
    filePieces (indent.chars ++ (done ++ items).flatMap spell ++ trail.chars) =
      ((done ++ items).filterMap path?).map fun entry => entry.text.toList := by
  induction items generalizing indent done with
  | nil =>
    rw [List.append_nil] at hapart ⊢
    exact filePieces_line hdone hapart indent.isBlank indent.break_notMem trail.isBlank
      trail.break_notMem
  | cons item items ih =>
    have hsame : done ++ item :: items = (done ++ [item]) ++ items := by simp
    have hstays (hitem : item.StaysOnLine) :
        filePieces (indent.chars ++ (done ++ item :: items).flatMap spell ++ trail.chars) =
          ((done ++ item :: items).filterMap path?).map fun entry => entry.text.toList := by
      rw [hsame] at hapart ⊢
      refine ih indent (fun other hother => ?_) hapart
      rcases List.mem_append.mp hother with hother | hother
      · exact hdone other hother
      · rwa [List.mem_singleton.mp hother]
    cases item with
    | path entry => exact hstays trivial
    | colon => exact hstays trivial
    | lineBreak before carriageReturn after =>
      obtain ⟨hfirst, hrest, -⟩ := List.isChain_append.mp hapart
      have hnext := ih after (List.forall_mem_nil _) hrest.tail
      have hreturn : ∀ c ∈ (if carriageReturn then ['\r'] else []),
          Blank.isBlank c = true ∧ c ≠ '\n' := by
        cases carriageReturn
        · exact List.forall_mem_nil _
        · exact List.forall_mem_singleton.mpr ⟨rfl, by decide⟩
      have hblank : ∀ c ∈ before.chars ++ (if carriageReturn then ['\r'] else []),
          Blank.isBlank c = true ∧ c ≠ '\n' := by
        intro c hc
        rcases List.mem_append.mp hc with hc | hc
        · exact ⟨before.isBlank c hc, fun h => before.break_notMem (h ▸ hc)⟩
        · exact hreturn c hc
      have hline := filePieces_line hdone hfirst indent.isBlank indent.break_notMem
        (fun c hc => (hblank c hc).1) fun hbreak => (hblank _ hbreak).2 rfl
      calc filePieces (indent.chars ++
            (done ++ lineBreak before carriageReturn after :: items).flatMap spell ++ trail.chars)
          = filePieces ((indent.chars ++ done.flatMap spell ++
              (before.chars ++ if carriageReturn then ['\r'] else [])) ++
              '\n' :: (after.chars ++ items.flatMap spell ++ trail.chars)) := by
            simp [spell]
        _ = (done.filterMap path?).map (fun entry => entry.text.toList) ++
              (items.filterMap path?).map fun entry => entry.text.toList := by
            rw [filePieces_append_break, hline]
            exact congrArg _ hnext
        _ = ((done ++ lineBreak before carriageReturn after :: items).filterMap path?).map
              fun entry => entry.text.toList := by
            rw [List.filterMap_append, List.map_append]
            rfl

/-- What is read from a layout are its paths. -/
theorem classpathPaths_text (layout : ClasspathLayout) :
    ProjectModel.classpathPaths layout.text = layout.paths.map ListedPath.path := by
  have hpieces := filePieces_spell layout.indent layout.trail (List.forall_mem_nil _) layout.apart
  rw [classpathPaths_eq, ClasspathLayout.text, String.toList_ofList]
  rw [List.nil_append] at hpieces
  rw [hpieces, List.map_map]
  simp [ClasspathLayout.paths, ListedPath.path, Function.comp_def]

/-! ### Projects with a classpath file -/

open SourceSearch

section

variable {σ : Type} [FileReader (ReaderM σ)] (world : σ) {model : ProjectModel} {file path : Path}

theorem runIn_readText_of_text {text : String}
    (h : runIn world (FileReader.read path) = .ok (Bytes.ofText text)) :
    runIn world (readText path) = .ok text := by
  rw [readText, runIn_bind, h]
  dsimp only
  rw [Utf8.decode?_ofText]
  rfl

/-- There is a text to read unless the bytes of the file, if there are any, are those of none. -/
theorem exists_runIn_readText_eq_error
    (h : ∀ text, runIn world (FileReader.read path) ≠ .ok (Bytes.ofText text)) :
    ∃ fault, runIn world (readText path) = .error fault := by
  rw [readText, runIn_bind]
  rcases hread : runIn world (FileReader.read path) with fault | bytes
  · exact ⟨fault, rfl⟩
  · rcases hdecode : Utf8.decode? bytes with _ | text
    · refine ⟨.notText, ?_⟩
      dsimp only
      rw [hdecode]
      rfl
    · rw [Utf8.decode?_eq_some_iff.mp hdecode] at hread
      exact absurd hread (h text)

namespace ProjectModel

/-- What the entries in the manifest resolve to. -/
def declaredDependencies (model : ProjectModel) : List (Except ProjectFault Dependency) :=
  model.manifest.classpath.mapIdx model.dependency

theorem runIn_dependencies_of_none (h : model.manifest.classpathFile = none) :
    runIn world model.dependencies = model.declaredDependencies := by
  rw [dependencies, h]
  rfl

/-- What the text of a classpath file resolves to, or that there is none. -/
def listedDependencies (model : ProjectModel) (file : Path) :
    Except FileFault String → List (Except ProjectFault Dependency)
  | .ok text => (classpathPaths text).map fun p => .ok (model.fileDependency p)
  | .error fault => [.error (.unreadable (model.resolve file) fault.message)]

theorem runIn_dependencies_of_some (h : model.manifest.classpathFile = some file) :
    runIn world model.dependencies =
      model.declaredDependencies ++
        model.listedDependencies file (runIn world (readText (model.resolve file))) := by
  rw [dependencies, h]
  show runIn world (readText (model.resolve file) >>= _) = _
  rw [runIn_bind]
  cases runIn world (readText (model.resolve file)) with
  | error fault => rfl
  | ok text => rfl

/-- **Classpath files.**  The paths of a file come behind the entries of the manifest, in order and
each one once, however they are laid out.  A file that cannot be read, or is no text, is one fault. -/
theorem dependencies_of_classpathFile (h : model.manifest.classpathFile = some file) :
    (∀ layout : ClasspathLayout,
      runIn world (FileReader.read (model.resolve file)) = .ok (Bytes.ofText layout.text) →
        runIn world model.dependencies =
          model.declaredDependencies ++ layout.paths.map fun entry =>
            .ok ⟨EntryKind.infer (model.resolve entry.path), model.resolve entry.path, none⟩) ∧
    ((∀ text, runIn world (FileReader.read (model.resolve file)) ≠ .ok (Bytes.ofText text)) →
      ∃ fault : FileFault, runIn world (readText (model.resolve file)) = .error fault ∧
        runIn world model.dependencies =
          model.declaredDependencies ++
            [.error (.unreadable (model.resolve file) fault.message)]) := by
  rw [runIn_dependencies_of_some world h]
  refine ⟨fun layout hread => ?_, fun hread => ?_⟩
  · rw [runIn_readText_of_text world hread, listedDependencies, classpathPaths_text, List.map_map]
    rfl
  · obtain ⟨fault, hfault⟩ := exists_runIn_readText_eq_error world hread
    exact ⟨fault, hfault, by rw [hfault, listedDependencies]⟩

/-- Two paths among many separators, behind an entry of the manifest. -/
theorem dependencies_of_classpathFile_cluttered :
    let manifest : Manifest :=
      { name := "app", classpath := [{ path := Path.ofText "out" }],
        classpathFile := some (Path.ofText "cp.txt") }
    let model : ProjectModel := ⟨manifest, Path.ofText "/work"⟩
    let files : FileSystem :=
      { FileSystem.empty with
        nodes := [([Bytes.ofText "work"], .directory),
          ([Bytes.ofText "work", Bytes.ofText "cp.txt"],
            .file (Bytes.ofText " ::lib/a b.JAR:\t\r\n\n \r\n:../gen \n"))] }
    model.manifest.classpathFile = some (Path.ofText "cp.txt") ∧
      runIn files model.dependencies =
        [.ok ⟨.directory, Path.ofText "/work/out", none⟩,
          .ok ⟨.jar, Path.ofText "/work/lib/a b.JAR", none⟩,
          .ok ⟨.directory, Path.ofText "/work/../gen", none⟩] := by
  intro manifest model files
  let archive : ListedPath := ⟨"lib/a b.JAR", by decide, by decide, by decide, by decide⟩
  let folder : ListedPath := ⟨"../gen", by decide, by decide, by decide, by decide⟩
  let blank : Blanks := ⟨[' '], List.forall_mem_singleton.mpr rfl, by decide⟩
  let tab : Blanks := ⟨['\t'], List.forall_mem_singleton.mpr rfl, by decide⟩
  let layout : ClasspathLayout :=
    { indent := blank
      items := [.colon, .colon, .path archive, .colon, .lineBreak tab true .none,
        .lineBreak .none false blank, .lineBreak .none true .none, .colon, .path folder,
        .lineBreak blank false .none]
      trail := .none
      apart := by simp [ClasspathItem.Apart, ClasspathItem.path?] }
  have hread : runIn files (FileReader.read (model.resolve (Path.ofText "cp.txt"))) =
      .ok (Bytes.ofText layout.text) := by
    decide +kernel
  have hfile : model.manifest.classpathFile = some (Path.ofText "cp.txt") := rfl
  obtain ⟨hlayout, -⟩ := dependencies_of_classpathFile files hfile
  refine ⟨hfile, (hlayout layout hread).trans ?_⟩
  decide +kernel

end ProjectModel

end

end ClassOrigin
