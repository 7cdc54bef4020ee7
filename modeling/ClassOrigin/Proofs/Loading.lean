/-
Classes on their way into a runtime.

An agent that attached to an empty chain has left at most one hook there, so what the runtime
defines for a class is what that hook makes of it.

* **`follows_isolated`** — however the weaving of a class ends, its bytes are replaced if new ones
  were returned, it warns if the weaving failed or broke down, and says at most one thing;
* **`follows_sourceLocation`** — so the weaving hook replaces the bytes of a named class when weaving
  does, and warns when weaving fails on a class with a place on disk;
* **`hooks_of_attach`** — it is in the chain exactly when the agent is active;
* **`defineClass_of_active`**, **`defineClass_of_not_woven`** — so a class is replaced when it has a
  name and weaving goes through, and left as it is otherwise;
* **`defineClass_of_attach`** — hence a runtime defines what it was given or a class that carries
  its location, and hears of a failure once.
-/
import ClassOrigin.Proofs.Attaching
import ClassOrigin.Proofs.Weaving

namespace ClassOrigin

open ClassFile

variable {event : LoadEvent}

/-! ### The weaving hook -/

namespace LoadHook

variable {policy : PathPolicy} {verbose : Bool} {bytes : Bytes}

/-- What the hook does and says about a class, named or not, whose weaving ends with `ending`. -/
structure Follows (named : Prop) (ending : Ending (Except WeaveError (Option Bytes)))
    (outcome : Option Bytes × List LogEntry) : Prop where
  replaces_iff : ∀ out, outcome.1 = some out ↔ named ∧ ending = .returned (.ok (some out))
  warns_iff : (∃ entry ∈ outcome.2, entry.level = .warn) ↔
    named ∧ ((∃ e, ending = .returned (.error (.malformedClass e))) ∨
      ∃ message, ending = .brokeDown message)
  length_log : outcome.2.length ≤ 1

section

variable {named : Prop} {result : Except WeaveError (Option Bytes)}
  {outcome : Option Bytes × List LogEntry}

theorem Follows.fst_eq_some_iff (h : Follows named (.returned result) outcome) {out : Bytes} :
    outcome.1 = some out ↔ named ∧ result = .ok (some out) := by
  rw [h.replaces_iff, Ending.returned.injEq]

/-- A hook that follows weaving puts its result, if there is any, in place of the bytes. -/
theorem Follows.fst_eq (h : Follows named (.returned result) outcome) (hnamed : named) :
    outcome.1 = result.toOption.join := by
  refine Option.ext fun out => h.fst_eq_some_iff.trans ?_
  rcases result with e | _ | woven
  · simp [Except.toOption]
  · simp [Except.toOption]
  · simp [Except.toOption, hnamed]

end

/-- However the weaving of a class ends, the class is replaced by what was returned or left alone,
and a breakdown is reported like a failure. -/
theorem follows_isolated (verbose : Bool) (name : String)
    (ending : Ending (Except WeaveError (Option Bytes))) :
    Follows True ending (isolated verbose name ending) := by
  rcases ending with ((_ | e) | (_ | woven)) | message
  · -- A class without a place on disk is mentioned in verbose mode only, and not as a warning.
    rcases verbose
    · exact ⟨by simp [isolated], by simp [isolated], by simp [isolated]⟩
    · exact ⟨by simp [isolated], by simp [isolated, Note.entry], by simp [isolated]⟩
  · exact ⟨by simp [isolated], by simp [isolated, Note.entry], by simp [isolated]⟩
  · exact ⟨by simp [isolated], by simp [isolated], by simp [isolated]⟩
  · rcases verbose
    · exact ⟨by simp [isolated], by simp [isolated], by simp [isolated]⟩
    · exact ⟨by simp [isolated], by simp [isolated, Note.entry], by simp [isolated]⟩
  · exact ⟨by simp [isolated], by simp [isolated, Note.entry], by simp [isolated]⟩

/-- A class that is none of the hook's business is left alone in silence. -/
theorem follows_of_not_named {ending : Ending (Except WeaveError (Option Bytes))} {named : Prop}
    (h : ¬ named) : Follows named ending (none, []) :=
  ⟨by simp [h], by simp [h], Nat.zero_le 1⟩

theorem follows_sourceLocation (policy : PathPolicy) (verbose : Bool) (event : LoadEvent) :
    Follows (event.className ≠ none)
      (.returned (weave policy (.ofUrl event.codeSource) event.bytes))
      (sourceLocation policy verbose event) := by
  obtain ⟨className, codeSource, bytes⟩ := event
  rcases className with _ | name
  · exact follows_of_not_named (not_not.mpr rfl)
  · rw [show (some name ≠ none) = True from eq_true nofun]
    rcases codeSource with _ | source
    · -- Without a code source there is no place on disk, about which nothing is said either.
      exact follows_isolated false name (.returned (.error .unresolvableLocation))
    · exact follows_isolated verbose name (.returned (weave policy (.ofUrl (some source)) bytes))

end LoadHook

/-! ### The chain of an agent -/

/-- A new agent after it attached to an empty chain. -/
abbrev Agent.attachNew {σ : Type} (ask : String → StateM σ BootstrapAnswer) (world : σ)
    (verbose : Bool) (policy : PathPolicy) : Agent.Attached :=
  (Agent.attach ask { verbose, policy } [] world).1

section

variable {σ : Type} (ask : String → StateM σ BootstrapAnswer) (world : σ) (verbose : Bool)
  (policy : PathPolicy)

/-- An agent that attaches to an empty chain leaves the weaving hook there, or nothing. -/
theorem hooks_of_attach :
    let attached := Agent.attachNew ask world verbose policy
    attached.agent.state = .active ∧ attached.hooks = [LoadHook.sourceLocation policy verbose] ∨
      attached.agent.state = .disabled ∧ attached.hooks = [] := by
  intro attached
  have hattach : attached = Agent.settleOn { verbose, policy } [] (ask probeClass world).1 :=
    congrArg Prod.fst (Agent.attach_fresh rfl ⟨ask, []⟩)
  rw [hattach]
  by_cases h : (ask probeClass world).1.Supports
  · obtain ⟨hagent, hhooks, -⟩ := Agent.settleOn_of_supports { verbose, policy } [] h
    exact .inl ⟨by rw [hagent], hhooks⟩
  · obtain ⟨hagent, hhooks, -⟩ := Agent.settleOn_of_not_supports { verbose, policy } [] h
    exact .inr ⟨by rw [hagent], hhooks⟩

theorem defineClass_singleton (hook : LoadHook) (event : LoadEvent) :
    defineClass [hook] event = ((hook event).1.getD event.bytes, (hook event).2) := by
  simp [defineClass]

variable {ask world verbose policy}

/-- What an active agent makes of a class with a name. -/
theorem defineClass_of_active
    (hactive : (Agent.attachNew ask world verbose policy).agent.state = .active)
    (hnamed : event.className ≠ none) :
    (defineClass (Agent.attachNew ask world verbose policy).hooks event).1 =
      (weave policy (.ofUrl event.codeSource) event.bytes).toOption.join.getD event.bytes := by
  rcases hooks_of_attach ask world verbose policy with ⟨-, hhooks⟩ | ⟨hdisabled, -⟩
  · rw [hhooks, defineClass_singleton]
    exact congrArg (Option.getD · event.bytes)
      ((LoadHook.follows_sourceLocation policy verbose event).fst_eq hnamed)
  · rw [hdisabled] at hactive
    cases hactive

/-- An agent leaves a class as it is unless it is active, the class has a name, and weaving goes
through. -/
theorem defineClass_of_not_woven
    (h : (Agent.attachNew ask world verbose policy).agent.state = .active →
      event.className ≠ none →
        ∀ result, weave policy (.ofUrl event.codeSource) event.bytes ≠ .ok result) :
    (defineClass (Agent.attachNew ask world verbose policy).hooks event).1 = event.bytes := by
  rcases hooks_of_attach ask world verbose policy with ⟨hactive, hhooks⟩ | ⟨-, hhooks⟩
  · rcases hname : event.className with _ | name
    · rw [hhooks, defineClass_singleton, LoadHook.sourceLocation, hname]
      rfl
    · have hnamed : event.className ≠ none := by simp [hname]
      rw [defineClass_of_active hactive hnamed]
      rcases hweave : weave policy (.ofUrl event.codeSource) event.bytes with e | result
      · rfl
      · exact absurd hweave (h hactive hnamed result)
  · rw [hhooks]
    rfl

/-- Weaving goes through for no class that falls under one of these. -/
theorem weave_ne_ok
    (h : event.codeSource = none ∨ (CodeLocation.ofUrl event.codeSource).isResolvable = false ∨
      (∃ e, parse event.bytes = .error e) ∨
      ∃ path, (CodeLocation.ofUrl event.codeSource).canonicalPath? policy = some path ∧
        Unrecordable path event.bytes)
    (result : Option Bytes) : weave policy (.ofUrl event.codeSource) event.bytes ≠ .ok result := by
  intro hweave
  obtain ⟨path, hpath, hfit⟩ := exists_weave_eq_ok.mp ⟨result, hweave⟩
  rcases h with h | h | h | ⟨path', hpath', h⟩
  · rw [h] at hweave
    cases hweave
  · rw [canonicalPath_eq_none.mpr h] at hpath
    cases hpath
  · exact hfit (.inl h)
  · rw [hpath] at hpath'
    cases hpath'
    exact hfit h

/-- What is said about a class under an agent. -/
theorem log_defineClass :
    let attached := Agent.attachNew ask world verbose policy
    let log := (defineClass attached.hooks event).2
    log.length ≤ 1 ∧
      ((∃ entry ∈ log, entry.level = .warn) ↔
        attached.hooks ≠ [] ∧ event.className ≠ none ∧
          ∃ e, weave policy (.ofUrl event.codeSource) event.bytes = .error (.malformedClass e)) := by
  intro attached log
  have hlog : log = (defineClass attached.hooks event).2 := rfl
  rcases hooks_of_attach ask world verbose policy with ⟨-, hhooks⟩ | ⟨-, hhooks⟩
  · have hfollows := LoadHook.follows_sourceLocation policy verbose event
    rw [hlog, hhooks, defineClass_singleton]
    exact ⟨hfollows.length_log, hfollows.warns_iff.trans (by simp)⟩
  · rw [hlog, hhooks]
    exact ⟨Nat.zero_le 1, by simp [defineClass]⟩

variable (ask world verbose policy)

/-- **A runtime defines the original or a located class.**  What is defined for a class under an
agent, whichever one and however it attached, is what was given, or is read as a class that carries
the path of its code source.  It is what was given where the agent is disabled, the class has no
name or no code source, that is no place on disk, or the class cannot be read or changed; and
everywhere else it carries its location.  At most one thing is said, and it is a warning exactly
where an installed hook fails on a named class with a place on disk, verbose or not. -/
theorem defineClass_of_attach (event : LoadEvent) :
    let attached := Agent.attachNew ask world verbose policy
    let defined := defineClass attached.hooks event
    let location := CodeLocation.ofUrl event.codeSource
    (defined.1 = event.bytes ∨
        ∃ path c, location.canonicalPath? policy = some path ∧ parse defined.1 = .ok c ∧
          c.sourceLocation = .ok (some path)) ∧
      (attached.agent.state = .disabled ∨ event.className = none ∨ event.codeSource = none ∨
          location.isResolvable = false ∨ (∃ e, parse event.bytes = .error e) ∨
          (∃ path, location.canonicalPath? policy = some path ∧ Unrecordable path event.bytes) →
        defined.1 = event.bytes) ∧
      (∀ path, attached.agent.state = .active → event.className ≠ none →
        location.canonicalPath? policy = some path → ¬ Unrecordable path event.bytes →
          ∃ c, parse defined.1 = .ok c ∧ c.sourceLocation = .ok (some path)) ∧
      defined.2.length ≤ 1 ∧
      ((∃ entry ∈ defined.2, entry.level = .warn) ↔
        attached.hooks ≠ [] ∧ event.className ≠ none ∧
          ∃ path, location.canonicalPath? policy = some path ∧ Unrecordable path event.bytes) := by
  intro attached defined location
  -- Where weaving goes through, what it gives is what is defined.
  have hlocated (hactive : attached.agent.state = .active) (hnamed : event.className ≠ none)
      (result : Option Bytes) (hweave : weave policy location event.bytes = .ok result) :
      ∃ path c, location.canonicalPath? policy = some path ∧ parse defined.1 = .ok c ∧
        c.sourceLocation = .ok (some path) := by
    have hdefined : defined.1 = result.getD event.bytes := by
      rw [show defined.1 = _ from defineClass_of_active hactive hnamed, hweave]
      rfl
    rw [hdefined]
    exact located_of_weave hweave
  obtain ⟨hlength, hwarns⟩ : defined.2.length ≤ 1 ∧ _ := log_defineClass
  refine ⟨?_, fun hskip => defineClass_of_not_woven fun hactive hnamed => ?_,
    fun path hactive hnamed hpath hfit => ?_, hlength, hwarns.trans (by rw [weave_eq_malformed])⟩
  · by_cases h : attached.agent.state = .active ∧ event.className ≠ none ∧
        ∃ result, weave policy location event.bytes = .ok result
    · obtain ⟨hactive, hnamed, result, hweave⟩ := h
      exact .inr (hlocated hactive hnamed result hweave)
    · exact .inl (defineClass_of_not_woven fun hactive hnamed result hweave =>
        h ⟨hactive, hnamed, result, hweave⟩)
  · rcases hskip with hdisabled | hname | hskip
    · rw [show attached.agent.state = .active from hactive] at hdisabled
      cases hdisabled
    · exact absurd hname hnamed
    · exact weave_ne_ok hskip
  · obtain ⟨result, hweave⟩ := exists_weave_eq_ok.mpr ⟨path, hpath, hfit⟩
    obtain ⟨path', c, hpath', hparse, hcarried⟩ := hlocated hactive hnamed result hweave
    rw [hpath] at hpath'
    cases hpath'
    exact ⟨c, hparse, hcarried⟩

end

end ClassOrigin
