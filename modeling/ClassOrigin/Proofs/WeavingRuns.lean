/-
Runs of the tool that record a location.

A run opens its log, carries out its command, and writes its messages to the log.  Where the log is
a file of its own, what the command finds and leaves is what is there before and after the run.

* **`exists_runLogged`** — a run is its command, between two writes to the log;
* **`transform_of_weave`**, **`transform_of_error`** — what recording a location does to the files;
* **`runLogged_transform`** — hence a run leaves in the file what an agent with the same settings
  defines for the class, and touches nothing when it fails.
-/
import ClassOrigin.CommandLine.LogSinks
import ClassOrigin.Proofs.FileWrites
import ClassOrigin.Proofs.Loading
import Mathlib.Data.Set.Insert

namespace ClassOrigin.CommandLine

open FileSystem

variable {fs : FileSystem} {invocation : Invocation} {settings : Settings} {file : Path}
  {location : String} {output : Option Path} {bytes : Bytes} {source target place : Place}
  {policy : PathPolicy}

/-! ### The settings and the log -/

theorem load_snd (path : Path) (fs : FileSystem) :
    (fs.run (Settings.load path)).2 = fs := by
  have hread : (fs.run (readText path)).2 = fs := by
    rw [readText, run_bind]
    rcases (fs.run (FileReader.read path)).1 with fault | bytes
    · rfl
    · dsimp only
      rcases Utf8.decode? bytes with _ | text
      · rfl
      · rfl
  rw [Settings.load, run_bind, hread]
  rcases (fs.run (readText path)).1 with fault | text
  · rfl
  · rfl

/-- Reading the settings changes no file. -/
theorem settingsOf_snd (invocation : Invocation) (fs : FileSystem) :
    (fs.run (settingsOf invocation)).2 = fs := by
  rw [settingsOf]
  rcases invocation.settings with _ | path
  · rfl
  · show (fs.run (Settings.load path >>= _)).2 = fs
    rw [run_bind, load_snd]
    rcases (fs.run (Settings.load path)).1 with fault | settings
    · rfl
    · rfl

/-- Where the log goes, if there is a log file that can be written. -/
def logPlaces (fs : FileSystem) (log : Option Path) : Set Place :=
  {place | ∃ path, log = some path ∧ place ∈ fs.targets path}

theorem openFile_writes (log : Option Path) (fs : FileSystem) :
    let opened := fs.run (openFile log)
    (∀ path, opened.1.1 = some path → log = some path ∧ ∃ place, fs.target path = .ok place) ∧
      Writes (logPlaces fs log) fs opened.2 := by
  intro opened
  rcases log with _ | path
  · exact ⟨nofun, Writes.refl _ fs⟩
  · obtain ⟨htarget, hwrites⟩ := run_append path [] fs
    have hopened : opened = (fs.run (FileWriter.append path [])).2.run _ := run_bind fs _ _
    have hlog : fs.targets path ⊆ logPlaces fs (some path) := fun place h => ⟨path, rfl, h⟩
    rcases happend : (fs.run (FileWriter.append path [])).1 with fault | ⟨⟩
    · rw [happend] at hopened
      rw [hopened]
      exact ⟨nofun, hwrites.mono hlog⟩
    · rw [happend] at hopened
      rw [hopened]
      refine ⟨?_, hwrites.mono hlog⟩
      rintro _ ⟨⟩
      exact ⟨rfl, htarget happend⟩

theorem deliver_writes (json : Bool) (log : Option Path) (entries : List LogEntry)
    (fs : FileSystem) : Writes (logPlaces fs log) fs (fs.run (deliver json log entries)).2 := by
  rcases log with _ | path
  · exact Writes.refl _ fs
  · exact (run_append path _ fs).2.mono fun place h => ⟨path, rfl, h⟩

/-- A run is its command, carried out between two writes to the log. -/
theorem exists_runLogged (hsettings : (fs.run (settingsOf invocation)).1 = .ok settings)
    (environment : Option String) :
    ∃ ready, Writes (logPlaces fs settings.log.file) fs ready ∧
      let ended := ready.run (execute settings invocation.command)
      (fs.run (runLogged environment invocation)).1.code = (outcomeOf ended.1).code ∧
        ∀ places, Writes places ready ended.2 →
          Writes (logPlaces fs settings.log.file) ended.2
            (fs.run (runLogged environment invocation)).2 := by
  have hfile : (logSettings invocation settings).file = settings.log.file := by
    rw [logSettings]
    split
    · rfl
    · rfl
  rw [runLogged, run_bind, settingsOf_snd, hsettings, ← hfile]
  obtain ⟨hopened, hready⟩ := openFile_writes (logSettings invocation settings).file fs
  refine ⟨_, hready, rfl, fun places hwrites => (deliver_writes _ _ _ _).mono ?_⟩
  -- The log is where it was when it was opened.
  rintro place ⟨path, hpath, hplace⟩
  obtain ⟨hlog, was, hwas⟩ := hopened path hpath
  have hnow := hwrites.target_eq (hready.target_eq hwas)
  have hsame : was = place := Except.ok.inj (hnow.symm.trans hplace)
  exact ⟨path, hlog, hsame ▸ hwas⟩

/-! ### Recording a location -/

theorem run_writeThen {path : Path} (h : fs.target path = .ok place) (content : Bytes)
    (outcome : Outcome) :
    fs.run (writeThen path content outcome) = (.ok outcome, fs.put place (.file content)) := by
  rw [writeThen, run_bind, run_write h]
  rfl

section

variable (hlocate : fs.locate file = .ok (source, .file bytes))
include hlocate

theorem run_read : fs.run (FileReader.read file) = (.ok bytes, fs) :=
  congrArg (·, fs) (read_eq_ok.mpr ⟨source, hlocate⟩)

theorem transform_of_weave {result : Option Bytes}
    (htarget : fs.target (output.getD file) = .ok target)
    (hweave : weave policy (.ofUrl (some location)) bytes = .ok result) :
    let ended := fs.run (transform policy file location output)
    (outcomeOf ended.1).code = 0 ∧ ended.2.node? target = some (.file (result.getD bytes)) ∧
      Writes {target} fs ended.2 := by
  intro ended
  have hended : ended = _ := run_bind fs _ _
  rw [run_read hlocate] at hended
  simp only [hweave] at hended
  rcases result with _ | woven
  · dsimp only at hended
    split at hended
    · -- Nothing is written where the output is the class file itself, under any spelling.
      rename_i hsame
      have hplace : target = source := eq_of_sameAs hsame hlocate htarget
      rw [hended, hplace]
      exact ⟨rfl, (locate_eq_ok.mp hlocate).2.2, Writes.refl _ fs⟩
    · rw [hended, run_writeThen htarget]
      exact ⟨rfl, node?_put_self (free_of_target htarget).1, Writes.put htarget bytes⟩
  · dsimp only at hended
    rw [hended, run_writeThen htarget]
    exact ⟨rfl, node?_put_self (free_of_target htarget).1, Writes.put htarget woven⟩

theorem transform_of_error {e : WeaveError}
    (hweave : weave policy (.ofUrl (some location)) bytes = .error e) :
    let ended := fs.run (transform policy file location output)
    (outcomeOf ended.1).code = 2 ∧ ended.2 = fs := by
  intro ended
  have hended : ended = _ := run_bind fs _ _
  rw [run_read hlocate] at hended
  simp only [hweave] at hended
  rcases e with _ | cause
  · rw [hended]
    exact ⟨rfl, rfl⟩
  · rw [hended]
    exact ⟨rfl, rfl⟩

end

/-! ### Whole runs -/

/-- An invocation that records a location in a class file, with what it asks of the files: the
class can be read, there is room for the output, and the log is neither of the two. -/
structure Recording (fs : FileSystem) (invocation : Invocation) (settings : Settings) (file : Path)
    (location : String) (output : Option Path) (bytes : Bytes) (source target : Place) : Prop where
  command_eq : invocation.command = .transform file location output
  settings_eq : (fs.run (settingsOf invocation)).1 = .ok settings
  locate_file : fs.locate file = .ok (source, .file bytes)
  target_output : fs.target (output.getD file) = .ok target
  source_notMem : source ∉ logPlaces fs settings.log.file
  target_notMem : target ∉ logPlaces fs settings.log.file

namespace Recording

variable (h : Recording fs invocation settings file location output bytes source target)
include h

/-- A run without an output of its own writes the class file. -/
theorem target_eq_source (houtput : output = none) : target = source := by
  have htarget := h.target_output
  rw [houtput] at htarget
  exact eq_of_sameAs (Path.sameAs_iff.mpr rfl) h.locate_file htarget

/-- A run that weaves leaves the result in the output, and all but its output and its log alone. -/
theorem runLogged_of_weave {result : Option Bytes}
    (hweave : weave settings.agent.policy (.ofUrl (some location)) bytes = .ok result)
    (environment : Option String) :
    let ended := fs.run (runLogged environment invocation)
    ended.1.code = 0 ∧ ended.2.node? target = some (.file (result.getD bytes)) ∧
      Writes (insert target (logPlaces fs settings.log.file)) fs ended.2 := by
  obtain ⟨ready, hready, hcode, hdone⟩ := exists_runLogged h.settings_eq environment
  simp only [h.command_eq, execute] at hcode hdone
  have hlocate := hready.locate_of_notMem h.locate_file h.source_notMem
  obtain ⟨hended, htarget, hwrites⟩ :=
    transform_of_weave hlocate (hready.target_eq h.target_output) hweave
  -- The log is written once more behind the output, and does not reach it.
  have hlast := hdone _ hwrites
  refine ⟨hcode.trans hended, (hlast.elsewhere target h.target_notMem).trans htarget, ?_⟩
  have hlog := Set.subset_insert target (logPlaces fs settings.log.file)
  exact ((hready.mono hlog).trans (hwrites.mono (by simp))).trans (hlast.mono hlog)

/-- A run on which weaving fails leaves everything but its log alone. -/
theorem runLogged_of_error {e : WeaveError}
    (hweave : weave settings.agent.policy (.ofUrl (some location)) bytes = .error e)
    (environment : Option String) :
    let ended := fs.run (runLogged environment invocation)
    ended.1.code = 2 ∧ Writes (logPlaces fs settings.log.file) fs ended.2 := by
  obtain ⟨ready, hready, hcode, hdone⟩ := exists_runLogged h.settings_eq environment
  simp only [h.command_eq, execute] at hcode hdone
  have hlocate := hready.locate_of_notMem h.locate_file h.source_notMem
  obtain ⟨hended, hkept⟩ := transform_of_error hlocate hweave
  rw [hkept] at hdone
  exact ⟨hcode.trans hended, hready.trans (hdone ∅ (Writes.refl ∅ ready))⟩

end Recording

/-- **The tool does what the agent does.**  A run that records a location in place leaves in the
class file what an active agent with the same path policy defines for a class of these bytes from
this location, whatever its name.  A run with an output of its own leaves the class file as it was,
and leaves there what the agent defines, which is a copy where nothing changes.  The code of a run
is 0 exactly when weaving goes through.  When weaving fails it is 2, and nothing but the log is
created or changed; and nothing but the output and the log ever is. -/
theorem runLogged_transform
    (h : Recording fs invocation settings file location output bytes source target)
    {σ : Type} (ask : String → StateM σ BootstrapAnswer) (world : σ) (verbose : Bool)
    (hactive : (Agent.attachNew ask world verbose settings.agent.policy).agent.state = .active)
    (name : String) (environment : Option String) :
    let ended := fs.run (runLogged environment invocation)
    let attached := Agent.attachNew ask world verbose settings.agent.policy
    let defined := (defineClass attached.hooks ⟨some name, some location, bytes⟩).1
    let woven := weave settings.agent.policy (.ofUrl (some location)) bytes
    (output = none ∨ target = source → ended.2.read file = .ok defined) ∧
      (target ≠ source →
        ended.2.read file = .ok bytes ∧
          ∀ result, woven = .ok result →
            ended.2.read (output.getD file) = .ok defined ∧ defined = result.getD bytes) ∧
      (ended.1.code = 0 ↔ ∃ result, woven = .ok result) ∧
      (∀ e, woven = .error e →
        ended.1.code = 2 ∧
          ∀ place ∉ logPlaces fs settings.log.file, ended.2.node? place = fs.node? place) ∧
      ∀ place, place ≠ target → place ∉ logPlaces fs settings.log.file →
        ended.2.node? place = fs.node? place := by
  intro ended attached defined woven
  have hdefined : defined = woven.toOption.join.getD bytes :=
    defineClass_of_active hactive nofun
  have hplace : output = none ∨ target = source → target = source :=
    fun hor => hor.elim h.target_eq_source id
  rcases hwoven : woven with e | result
  · -- The agent defines what it was given, and the run leaves it in the class file.
    rw [hwoven] at hdefined
    obtain ⟨hcode, hwrites⟩ := h.runLogged_of_error hwoven environment
    have hfile : ended.2.read file = .ok bytes :=
      read_eq_ok.mpr ⟨source, hwrites.locate_of_notMem h.locate_file h.source_notMem⟩
    refine ⟨fun _ => hfile.trans (congrArg _ hdefined.symm), fun _ => ⟨hfile, nofun⟩, ?_, ?_, ?_⟩
    · simp [ended, hcode]
    · exact fun _ _ => ⟨hcode, hwrites.elsewhere⟩
    · exact fun place _ => hwrites.elsewhere place
  · rw [hwoven] at hdefined
    obtain ⟨hcode, htarget, hwrites⟩ := h.runLogged_of_weave hwoven environment
    have houtside (place : Place) (hne : place ≠ target)
        (hlog : place ∉ logPlaces fs settings.log.file) :
        place ∉ insert target (logPlaces fs settings.log.file) :=
      fun hmem => hmem.elim hne hlog
    refine ⟨fun hor => ?_, fun hne => ⟨?_, ?_⟩, ?_, nofun, ?_⟩
    · -- The output is the class file.
      rw [hplace hor] at htarget
      exact read_eq_ok.mpr ⟨source, hdefined ▸ hwrites.locate_eq h.locate_file htarget⟩
    · exact read_eq_ok.mpr ⟨source, hwrites.locate_of_notMem h.locate_file
        (houtside source hne.symm h.source_notMem)⟩
    · rintro _ ⟨⟩
      exact ⟨(read_of_target (hwrites.target_eq h.target_output)).mpr (hdefined ▸ htarget), hdefined⟩
    · simp [ended, hcode]
    · exact fun place hne hlog => hwrites.elsewhere place (houtside place hne hlog)

/-- A directory with a class file and settings that ask for a log file. -/
def workshop : FileSystem where
  nodes := [([Bytes.ofText "A.class"], .file clutteredBytes),
    ([Bytes.ofText "weave.toml"], .file (Bytes.ofText "[logging]\nfile = \"weave.log\"\n"))]
  workingDirectory := []

/-- Weaving the class file of the workshop into another one. -/
def errand : Invocation where
  settings := some (Path.ofText "weave.toml")
  verbose := false
  command := .transform (Path.ofText "A.class") "file:/app/" (some (Path.ofText "B.class"))

theorem recording_errand :
    Recording workshop errand { log := { file := some (Path.ofText "weave.log") } }
      (Path.ofText "A.class") "file:/app/" (some (Path.ofText "B.class")) clutteredBytes
      [Bytes.ofText "A.class"] [Bytes.ofText "B.class"] := by
  have hlog : workshop.target (Path.ofText "weave.log") = .ok [Bytes.ofText "weave.log"] := by
    decide +kernel
  refine ⟨rfl, by decide +kernel, by decide +kernel, by decide +kernel, ?_, ?_⟩
  · rintro ⟨path, ⟨⟩, hplace⟩
    have hsame := Except.ok.inj (hlog.symm.trans hplace)
    revert hsame
    decide +kernel
  · rintro ⟨path, ⟨⟩, hplace⟩
    have hsame := Except.ok.inj (hlog.symm.trans hplace)
    revert hsame
    decide +kernel

theorem runLogged_transform_errand :
    (workshop.run (runLogged none errand)).1.code = 0 ∧
      (workshop.run (runLogged none errand)).2.read (Path.ofText "A.class") =
        .ok clutteredBytes ∧
      (workshop.run (runLogged none errand)).2.read (Path.ofText "B.class") = .ok tidiedBytes := by
  have hweave : weave .absolute (.ofUrl (some "file:/app/")) clutteredBytes =
      .ok (some tidiedBytes) := by decide +kernel
  have hactive : (Agent.attachNew Agent.healthy.ask () false .absolute).agent.state = .active := by
    decide +kernel
  obtain ⟨-, hapart, hcode, -⟩ :=
    runLogged_transform recording_errand Agent.healthy.ask () false hactive "A" none
  obtain ⟨hsource, htarget⟩ := hapart (by decide +kernel)
  obtain ⟨hread, hdefined⟩ := htarget _ hweave
  exact ⟨hcode.mpr ⟨_, hweave⟩, hsource, hread.trans (congrArg _ hdefined)⟩

end ClassOrigin.CommandLine
