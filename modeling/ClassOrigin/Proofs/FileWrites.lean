/-
File systems under writing.

A walk asks two things of the places on its way: whether they are directories, and whether there is
anything at the next one.  Writing a file leaves every directory a directory and takes nothing away,
so a walk that succeeded before leads to the same place afterwards.

* **`Writes`** — what any number of files written at given places leave as it was;
* **`Writes.locate_eq`**, **`Writes.target_eq`** — after that, paths lead where they led;
* **`locate_of_target`** — what is written through a path is read through it;
* **`eq_of_sameAs`** — a file and a target whose paths mean the same are at one place.
-/
import ClassOrigin.Proofs.Outcomes
import ClassOrigin.Proofs.PathComponents
import ClassOrigin.Storage.FileSystem
import Mathlib.Data.List.Basic
import Mathlib.Data.Set.Basic

namespace ClassOrigin

open Outcome

/-! ### The steps of a path -/

namespace Path

/-- The piece of a path that takes a component's step; the root and a leading `.` take none. -/
def Component.step? : Component → Option Bytes
  | .root | .current => none
  | .parent => some [dot, dot]
  | .name bytes => some bytes

theorem step?_ofPiece? (piece : Bytes) :
    (Component.ofPiece? piece).bind Component.step? =
      if isRedundant piece then none else some piece := by
  by_cases hredundant : piece = [] ∨ piece = [dot]
  · rw [Component.ofPiece?, if_pos hredundant, isRedundant]
    rcases hredundant with rfl | rfl
    · rfl
    · rfl
  · have hkept : isRedundant piece = false := by simpa [isRedundant] using hredundant
    rw [Component.ofPiece?, if_neg hredundant, hkept]
    split
    · rename_i h
      rw [h]
      rfl
    · rfl

theorem filterMap_step?_ofPiece? (pieces : List Bytes) :
    (pieces.filterMap Component.ofPiece?).filterMap Component.step? =
      pieces.filter fun piece => !isRedundant piece := by
  rw [List.filterMap_filterMap, ← List.filterMap_eq_filter]
  congr 1
  funext piece
  rw [step?_ofPiece?]
  rcases hredundant : isRedundant piece
  · simp [Option.guard, hredundant]
  · simp [Option.guard, hredundant]

/-- The steps that a path means are its pieces without those that add nothing. -/
theorem filterMap_step?_components (p : Path) :
    p.components.filterMap Component.step? = p.pieces.filter fun piece => !isRedundant piece := by
  rw [← filterMap_step?_ofPiece?, components]
  split
  · rfl
  · split
    · rfl
    · rfl

theorem root_mem_components {p : Path} : Component.root ∈ p.components ↔ p.isAbsolute := by
  have hsteps : Component.root ∉ p.steps := by
    intro hroot
    exact (isStep_of_mem_steps hroot).ne_root rfl
  rw [components_eq, List.mem_append, or_iff_left hsteps, lead]
  rcases p.isAbsolute
  · rw [if_neg Bool.false_ne_true]
    split
    · simp
    · simp
  · simp

end Path

namespace FileSystem

variable {fs before after last : FileSystem} {places : Set Place} {place other : Place} {p q : Path}
  {content piece : Bytes} {node : Node}

/-! ### Places and what is there -/

theorem node?_put_self (h : place ≠ []) : (fs.put place node).node? place = some node := by
  rw [node?, if_neg h, put, List.lookup_cons_self]

theorem lookup_filter_ne (h : other ≠ place) (nodes : List (Place × Node)) :
    (nodes.filter fun entry => entry.1 ≠ place).lookup other = nodes.lookup other := by
  induction nodes with
  | nil => rfl
  | cons entry nodes ih =>
    obtain ⟨key, there⟩ := entry
    by_cases hkey : key = place
    · -- The entry that is left out is not the one that is looked for.
      rw [List.filter_cons_of_neg (by simpa using hkey), ih, List.lookup_cons, hkey,
        beq_false_of_ne h]
    · rw [List.filter_cons_of_pos (by simpa using hkey), List.lookup_cons, List.lookup_cons, ih]

theorem node?_put_of_ne (h : other ≠ place) : (fs.put place node).node? other = fs.node? other := by
  rw [node?, node?, put, List.lookup_cons, beq_false_of_ne h, lookup_filter_ne h]

/-- A piece that can be the name of something. -/
structure IsName (piece : Bytes) : Prop where
  not_redundant : Path.isRedundant piece = false
  not_parent : piece ≠ [Path.dot, Path.dot]
  length_le : piece.length ≤ maxName

theorem step_of_redundant (h : Path.isRedundant piece = true)
    (hdirectory : fs.node? place = some .directory) : fs.step place piece = .ok place := by
  rw [step, hdirectory]
  exact if_pos h

theorem step_parent (hdirectory : fs.node? place = some .directory) :
    fs.step place [Path.dot, Path.dot] = .ok place.dropLast := by
  rw [step, hdirectory]
  rfl

theorem step_of_isName (h : IsName piece) (hdirectory : fs.node? place = some .directory) :
    fs.step place piece =
      match fs.node? (place ++ [piece]) with
      | some _ => .ok (place ++ [piece])
      | none => .error .notFound := by
  have hredundant : ¬ Path.isRedundant piece = true := by simp [h.not_redundant]
  rw [step, hdirectory]
  exact (if_neg hredundant).trans ((if_neg h.not_parent).trans (if_neg (Nat.not_lt.mpr h.length_le)))

theorem step_eq_ok :
    fs.step place piece = .ok other ↔
      fs.node? place = some .directory ∧
        (Path.isRedundant piece = true ∧ other = place ∨
          piece = [Path.dot, Path.dot] ∧ other = place.dropLast ∨
          IsName piece ∧ fs.node? (place ++ [piece]) ≠ none ∧ other = place ++ [piece]) := by
  constructor
  · intro h
    rw [step] at h
    split at h
    · cases h
    · cases h
    · -- The place is a directory; each guard of the step leaves one case.
      rename_i hdirectory
      refine ⟨hdirectory, ?_⟩
      split at h
      · rename_i hredundant
        cases h
        exact .inl ⟨hredundant, rfl⟩
      · rename_i hredundant
        split at h
        · rename_i hparent
          cases h
          exact .inr (.inl ⟨hparent, rfl⟩)
        · rename_i hparent
          split at h
          · cases h
          · rename_i hlength
            split at h
            · rename_i hthere
              cases h
              refine .inr (.inr ⟨⟨by simpa using hredundant, hparent, by omega⟩, ?_, rfl⟩)
              rw [hthere]
              nofun
            · cases h
  · rintro ⟨hdirectory, ⟨hredundant, rfl⟩ | ⟨rfl, rfl⟩ | ⟨hname, hthere, rfl⟩⟩
    · exact step_of_redundant hredundant hdirectory
    · exact step_parent hdirectory
    · obtain ⟨there, hthere⟩ := Option.ne_none_iff_exists'.mp hthere
      rw [step_of_isName hname hdirectory, hthere]

theorem placeIn_eq_ok :
    fs.placeIn place piece = .ok other ↔
      fs.node? place = some .directory ∧ IsName piece ∧
        fs.node? (place ++ [piece]) ≠ some .directory ∧ other = place ++ [piece] := by
  constructor
  · intro h
    rw [placeIn] at h
    split at h
    · cases h
    · cases h
    · rename_i hdirectory
      split at h
      · cases h
      · rename_i hname
        split at h
        · cases h
        · rename_i hlength
          split at h
          · cases h
          · rename_i hfree
            cases h
            simp only [Bool.or_eq_true, beq_iff_eq, not_or, Bool.not_eq_true] at hname
            exact ⟨hdirectory, ⟨hname.1, hname.2, by omega⟩, hfree, rfl⟩
  · rintro ⟨hdirectory, hname, hfree, rfl⟩
    rw [placeIn, hdirectory]
    simp [hname.not_redundant, hname.not_parent, Nat.not_lt.mpr hname.length_le, hfree]

/-! ### Paths -/

theorem locate_eq_ok :
    fs.locate p = .ok (place, node) ↔
      screen p = .ok () ∧ p.pieces.foldlM fs.step (fs.start p) = .ok place ∧
        fs.node? place = some node := by
  simp only [locate, bind_eq_ok]
  constructor
  · rintro ⟨⟨⟩, hscreen, found, hwalk, h⟩
    split at h
    · rename_i hthere
      cases h
      exact ⟨hscreen, hwalk, hthere⟩
    · cases h
  · rintro ⟨hscreen, hwalk, hthere⟩
    refine ⟨(), hscreen, place, hwalk, ?_⟩
    rw [hthere]
    rfl

/-- A path that is good for writing has a name as its last piece. -/
theorem target_eq_ok :
    fs.target p = .ok place ↔
      screen p = .ok () ∧ ∃ front name directory, p.pieces = front ++ [name] ∧
        front.foldlM fs.step (fs.start p) = .ok directory ∧
        fs.placeIn directory name = .ok place := by
  simp only [target, bind_eq_ok]
  constructor
  · rintro ⟨⟨⟩, hscreen, directory, hwalk, hplace⟩
    refine ⟨hscreen, ?_⟩
    rcases List.eq_nil_or_concat' p.pieces with hpieces | ⟨front, name, hpieces⟩
    · rw [hpieces] at hplace
      cases (placeIn_eq_ok.mp hplace).2.1.not_redundant
    · rcases hname : name.isEmpty
      · refine ⟨front, name, directory, hpieces, ?_, ?_⟩
        · simpa [hpieces, hname] using hwalk
        · simpa [hpieces, hname] using hplace
      · -- A path that ends in a slash is good for no file.
        rw [if_neg (by simp [hpieces, hname])] at hplace
        cases (placeIn_eq_ok.mp hplace).2.1.not_redundant
  · rintro ⟨hscreen, front, name, directory, hpieces, hwalk, hplace⟩
    have hname : name.isEmpty = false := by
      rcases name with _ | ⟨b, name⟩
      · cases (placeIn_eq_ok.mp hplace).2.1.not_redundant
      · rfl
    refine ⟨(), hscreen, directory, ?_, ?_⟩
    · simpa [hpieces, hname] using hwalk
    · simpa [hpieces, hname] using hplace

/-- There is room for a file where a path leads that is good for writing. -/
theorem free_of_target (h : fs.target p = .ok place) :
    place ≠ [] ∧ fs.node? place ≠ some .directory := by
  obtain ⟨-, front, name, directory, -, -, hplace⟩ := target_eq_ok.mp h
  obtain ⟨-, -, hfree, rfl⟩ := placeIn_eq_ok.mp hplace
  exact ⟨List.append_ne_nil_of_right_ne_nil _ (by simp), hfree⟩

/-- What a path leads to when it is good for writing. -/
theorem locate_of_target (h : fs.target p = .ok place) :
    fs.locate p =
      match fs.node? place with
      | some node => .ok (place, node)
      | none => .error .notFound := by
  obtain ⟨hscreen, front, name, directory, hpieces, hwalk, hplace⟩ := target_eq_ok.mp h
  obtain ⟨hdirectory, hname, -, rfl⟩ := placeIn_eq_ok.mp hplace
  have hend : p.pieces.foldlM fs.step (fs.start p) = fs.step directory name := by
    rw [hpieces, List.foldlM_append, hwalk]
    exact bind_pure (fs.step directory name)
  rcases hthere : fs.node? (directory ++ [name]) with _ | there
  · rw [locate, hscreen, hend, step_of_isName hname hdirectory, hthere]
    rfl
  · refine locate_eq_ok.mpr ⟨hscreen, ?_, hthere⟩
    rw [hend, step_of_isName hname hdirectory, hthere]

theorem read_eq_ok :
    fs.read p = .ok content ↔ ∃ place, fs.locate p = .ok (place, .file content) := by
  rw [read]
  rcases fs.locate p with fault | ⟨place, _ | _⟩
  · simp
  · simp
  · simp

theorem read_of_target (h : fs.target p = .ok place) :
    fs.read p = .ok content ↔ fs.node? place = some (.file content) := by
  rw [read_eq_ok, locate_of_target h]
  rcases fs.node? place with _ | there
  · simp
  · simp

/-! ### Two spellings of a path -/

/-- By induction on the pieces: those that add nothing lead nowhere else. -/
theorem walk_filter {pieces : List Bytes} (h : pieces.foldlM fs.step place = .ok other) :
    (pieces.filter fun piece => !Path.isRedundant piece).foldlM fs.step place = .ok other := by
  induction pieces generalizing place with
  | nil => exact h
  | cons piece pieces ih =>
    obtain ⟨next, hstep, hwalk⟩ := bind_eq_ok.mp h
    rcases hredundant : Path.isRedundant piece
    · rw [List.filter_cons_of_pos (by simpa using hredundant)]
      exact bind_eq_ok.mpr ⟨next, hstep, ih hwalk⟩
    · rw [List.filter_cons_of_neg (by simpa using hredundant)]
      rw [step_of_redundant hredundant (step_eq_ok.mp hstep).1] at hstep
      cases hstep
      exact ih hwalk

/-- Walks of paths that mean the same start at one place. -/
theorem start_eq_of_components_eq (h : q.components = p.components) : fs.start q = fs.start p := by
  have habsolute : q.isAbsolute = p.isAbsolute := by
    rw [Bool.eq_iff_iff, ← Path.root_mem_components, h, Path.root_mem_components]
  rw [start, start, habsolute]

/-- A file that can be read and a target whose path means the same are at one place. -/
theorem eq_of_sameAs (hsame : q.sameAs p) (hlocate : fs.locate p = .ok (place, node))
    (htarget : fs.target q = .ok other) : other = place := by
  have hcomponents : q.components = p.components := Path.sameAs_iff.mp hsame
  have hpieces := congrArg (List.filterMap Path.Component.step?) hcomponents
  have hstart : fs.start q = fs.start p := start_eq_of_components_eq hcomponents
  obtain ⟨-, front, name, directory, hsplit, hfront, hplace⟩ := target_eq_ok.mp htarget
  obtain ⟨hdirectory, hname, -, rfl⟩ := placeIn_eq_ok.mp hplace
  obtain ⟨-, hwalk, -⟩ := locate_eq_ok.mp hlocate
  -- Without the pieces that add nothing, both walks are one.
  rw [Path.filterMap_step?_components, Path.filterMap_step?_components, hsplit, List.filter_append,
    List.filter_cons_of_pos (by simpa using hname.not_redundant), List.filter_nil] at hpieces
  have hlast : fs.step directory name = .ok place := by
    have hboth := walk_filter hwalk
    rw [← hpieces, ← hstart, List.foldlM_append] at hboth
    obtain ⟨found, hfound, hlast⟩ := bind_eq_ok.mp hboth
    rw [walk_filter hfront] at hfound
    cases hfound
    exact (bind_pure (fs.step directory name)).symm.trans hlast
  rw [step_of_isName hname hdirectory] at hlast
  split at hlast
  · cases hlast
    rfl
  · cases hlast

/-! ### Writing files -/

/-- What is left as it was when files are written at some of `places`: directories stay what they
are, nothing is taken away, and everywhere else there is what there was. -/
structure Writes (places : Set Place) (before after : FileSystem) : Prop where
  workingDirectory_eq : after.workingDirectory = before.workingDirectory
  directory_iff : ∀ place,
    after.node? place = some .directory ↔ before.node? place = some .directory
  ne_none : ∀ place, before.node? place ≠ none → after.node? place ≠ none
  elsewhere : ∀ place ∉ places, after.node? place = before.node? place

namespace Writes

theorem refl (places : Set Place) (fs : FileSystem) : Writes places fs fs :=
  ⟨rfl, fun _ => Iff.rfl, fun _ => id, fun _ _ => rfl⟩

theorem trans (h : Writes places before after) (h' : Writes places after last) :
    Writes places before last where
  workingDirectory_eq := h'.workingDirectory_eq.trans h.workingDirectory_eq
  directory_iff place := (h'.directory_iff place).trans (h.directory_iff place)
  ne_none place hthere := h'.ne_none place (h.ne_none place hthere)
  elsewhere place hplace := (h'.elsewhere place hplace).trans (h.elsewhere place hplace)

theorem mono {more : Set Place} (h : Writes places before after) (hsub : places ⊆ more) :
    Writes more before after :=
  { h with elsewhere := fun place hplace => h.elsewhere place fun hmem => hplace (hsub hmem) }

/-- A file written where a path leads that is good for writing. -/
theorem put (htarget : fs.target p = .ok place) (content : Bytes) :
    Writes {place} fs (fs.put place (.file content)) := by
  obtain ⟨hroot, hfile⟩ := free_of_target htarget
  -- The place itself was no directory and is none; at all other places nothing changes.
  refine ⟨rfl, fun other => ?_, fun other hthere => ?_, fun other hne => node?_put_of_ne hne⟩
  · rcases eq_or_ne other place with rfl | hne
    · rw [node?_put_self hroot]
      simp [hfile]
    · rw [node?_put_of_ne hne]
  · rcases eq_or_ne other place with rfl | hne
    · rw [node?_put_self hroot]
      nofun
    · rwa [node?_put_of_ne hne]

variable (h : Writes places before after)
include h

theorem start_eq (p : Path) : after.start p = before.start p := by
  rw [start, start, h.workingDirectory_eq]

theorem step_eq (hstep : before.step place piece = .ok other) :
    after.step place piece = .ok other := by
  obtain ⟨hdirectory, hcase⟩ := step_eq_ok.mp hstep
  refine step_eq_ok.mpr ⟨(h.directory_iff place).mpr hdirectory, ?_⟩
  rcases hcase with hstay | hup | ⟨hname, hthere, hother⟩
  · exact .inl hstay
  · exact .inr (.inl hup)
  · exact .inr (.inr ⟨hname, h.ne_none _ hthere, hother⟩)

/-- By induction on the pieces: a walk goes where it went. -/
theorem walk_eq {pieces : List Bytes} (hwalk : pieces.foldlM before.step place = .ok other) :
    pieces.foldlM after.step place = .ok other := by
  induction pieces generalizing place with
  | nil => exact hwalk
  | cons piece pieces ih =>
    obtain ⟨next, hstep, hwalk⟩ := bind_eq_ok.mp hwalk
    exact bind_eq_ok.mpr ⟨next, h.step_eq hstep, ih hwalk⟩

theorem locate_eq {now : Node} (hlocate : before.locate p = .ok (place, node))
    (hnow : after.node? place = some now) : after.locate p = .ok (place, now) := by
  obtain ⟨hscreen, hwalk, -⟩ := locate_eq_ok.mp hlocate
  refine locate_eq_ok.mpr ⟨hscreen, ?_, hnow⟩
  rw [h.start_eq]
  exact h.walk_eq hwalk

theorem locate_of_notMem (hlocate : before.locate p = .ok (place, node))
    (hplace : place ∉ places) : after.locate p = .ok (place, node) :=
  h.locate_eq hlocate ((h.elsewhere place hplace).trans (locate_eq_ok.mp hlocate).2.2)

theorem target_eq (htarget : before.target p = .ok place) : after.target p = .ok place := by
  obtain ⟨hscreen, front, name, directory, hpieces, hwalk, hplace⟩ := target_eq_ok.mp htarget
  refine target_eq_ok.mpr ⟨hscreen, front, name, directory, hpieces, ?_, ?_⟩
  · rw [h.start_eq]
    exact h.walk_eq hwalk
  · obtain ⟨hdirectory, hname, hfree, hother⟩ := placeIn_eq_ok.mp hplace
    exact placeIn_eq_ok.mpr ⟨(h.directory_iff _).mpr hdirectory, hname,
      mt (h.directory_iff _).mp hfree, hother⟩

end Writes

/-! ### Programs that write -/

/-- What a program ends with when it runs on a file system, and what it leaves of that. -/
abbrev run {α : Type} (fs : FileSystem) (program : StateM FileSystem α) : α × FileSystem :=
  program fs

/-- A program goes on where the one before it stopped. -/
theorem run_bind {α β : Type} (fs : FileSystem) (x : StateM FileSystem α)
    (f : α → StateM FileSystem β) :
    fs.run (x >>= f) = (fs.run x).2.run (f (fs.run x).1) := rfl

/-- Where a path leads when it is good for writing. -/
def targets (fs : FileSystem) (p : Path) : Set Place :=
  {place | fs.target p = .ok place}

theorem run_write (h : fs.target p = .ok place) (content : Bytes) :
    fs.run (FileWriter.write p content) = (.ok (), fs.put place (.file content)) := by
  show change (fun fs => fs.write p content) fs = _
  rw [change, write, h]
  rfl

theorem exists_append_eq (h : fs.target p = .ok place) (content : Bytes) :
    ∃ new, fs.append p content = .ok (fs.put place (.file new)) := by
  rcases hthere : fs.node? place with _ | old | _
  · exact ⟨content, by simp [append, h, hthere, bind, Except.bind, pure, Except.pure]⟩
  · exact ⟨old ++ content, by simp [append, h, hthere, bind, Except.bind, pure, Except.pure]⟩
  · exact ⟨content, by simp [append, h, hthere, bind, Except.bind, pure, Except.pure]⟩

/-- Adding to a file succeeds where there is room for one, and touches nothing else. -/
theorem run_append (p : Path) (content : Bytes) (fs : FileSystem) :
    let ended := fs.run (FileWriter.append p content)
    (ended.1 = .ok () → ∃ place, fs.target p = .ok place) ∧ Writes (fs.targets p) fs ended.2 := by
  intro ended
  have hended : ended = change (fun fs => fs.append p content) fs := rfl
  rcases htarget : fs.target p with fault | place
  · rw [change, append, htarget] at hended
    rw [hended]
    exact ⟨nofun, Writes.refl _ fs⟩
  · obtain ⟨new, hnew⟩ := exists_append_eq htarget content
    rw [change, hnew] at hended
    rw [hended]
    refine ⟨fun _ => ⟨place, rfl⟩, (Writes.put htarget new).mono ?_⟩
    rintro _ rfl
    exact htarget

end FileSystem

end ClassOrigin
