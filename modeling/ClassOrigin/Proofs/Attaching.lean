/-
Attaching an agent.

An agent may be attached any number of times, each time with a bootstrap source and a chain of hooks
of its own.  Only the first attempt does anything:

* **`attach_of_settled`** — an agent that has settled asks nobody and installs nothing;
* **`attachAll_of_settled`** — hence neither does a whole run of attempts, by induction;
* **`attachAll_fresh`** — so a run with a new agent is settled by the one question that its first
  attempt puts to its source, and what it leaves can be read off the answer.
-/
import ClassOrigin.Agent.Lifecycle
import ClassOrigin.Proofs.ClassCodec

namespace ClassOrigin

open ClassFile

/-! ### The verdict of the probe -/

/-- The answer is a class that can be read. -/
def BootstrapAnswer.Supports (answer : BootstrapAnswer) : Prop :=
  ∃ bytes c, answer = .found bytes ∧ parse bytes = .ok c

theorem judge_eq_ok {answer : BootstrapAnswer} : judge answer = .ok () ↔ answer.Supports := by
  constructor
  · intro h
    cases answer with
    | found bytes =>
      rw [judge] at h
      split at h
      · rename_i c hparse
        exact ⟨bytes, c, rfl, hparse⟩
      · cases h
    | absent | failed reason | brokeDown message => cases h
  · rintro ⟨bytes, c, rfl, hparse⟩
    rw [judge, hparse]

/-- The warnings in a log. -/
def warnings (log : List LogEntry) : List LogEntry :=
  log.filter fun entry => entry.level = .warn

/-- An attempt to attach: its bootstrap source, whose answers may depend on the world and change
it, and its chain of hooks. -/
structure Attempt (σ : Type) where
  ask : String → StateM σ BootstrapAnswer
  hooks : List LoadHook

namespace Agent

variable {σ : Type} {agent : Agent} {world : σ}

/-! ### One attempt -/

theorem attach_of_settled (h : agent.state ≠ .unattached) (attempt : Attempt σ) :
    agent.attach attempt.ask attempt.hooks world = (⟨agent, attempt.hooks, []⟩, world) := by
  rw [attach, if_neg h]
  rfl

/-- What an agent that has not settled becomes when its probe is answered. -/
def settleOn (agent : Agent) (hooks : List LoadHook) (answer : BootstrapAnswer) : Attached :=
  settle { agent with state := .probing } hooks (judge answer)

/-- A new agent puts one question to the source and settles on the answer. -/
theorem attach_fresh (h : agent.state = .unattached) (attempt : Attempt σ) :
    agent.attach attempt.ask attempt.hooks world =
      (agent.settleOn attempt.hooks (attempt.ask probeClass world).1,
        (attempt.ask probeClass world).2) := by
  rw [attach, if_pos h]
  rfl

theorem settleOn_of_supports (agent : Agent) (hooks : List LoadHook) {answer : BootstrapAnswer}
    (h : answer.Supports) :
    (agent.settleOn hooks answer).agent = { agent with state := .active } ∧
      (agent.settleOn hooks answer).hooks =
        hooks ++ [LoadHook.sourceLocation agent.policy agent.verbose] ∧
      warnings (agent.settleOn hooks answer).log = [] := by
  rw [settleOn, judge_eq_ok.mpr h]
  refine ⟨rfl, rfl, ?_⟩
  rcases agent.verbose
  · simp [settle, warnings]
  · simp [settle, warnings, Note.entry]

theorem settleOn_of_not_supports (agent : Agent) (hooks : List LoadHook)
    {answer : BootstrapAnswer} (h : ¬ answer.Supports) :
    (agent.settleOn hooks answer).agent = { agent with state := .disabled } ∧
      (agent.settleOn hooks answer).hooks = hooks ∧
      (warnings (agent.settleOn hooks answer).log).length = 1 := by
  rw [settleOn]
  rcases hverdict : judge answer with cause | ⟨⟩
  · refine ⟨rfl, rfl, ?_⟩
    -- The details of a failure, which only a verbose agent gives, are no warning.
    rcases agent.verbose
    · simp [settle, warnings, Note.entry]
    · simp [settle, warnings, Note.entry]
  · exact absurd (judge_eq_ok.mp hverdict) h

theorem state_settleOn (agent : Agent) (hooks : List LoadHook) (answer : BootstrapAnswer) :
    (agent.settleOn hooks answer).agent.state = .active ∨
      (agent.settleOn hooks answer).agent.state = .disabled := by
  by_cases h : answer.Supports
  · rw [(settleOn_of_supports agent hooks h).1]
    exact .inl rfl
  · rw [(settleOn_of_not_supports agent hooks h).1]
    exact .inr rfl

/-! ### Any number of attempts -/

/-- Attempts made one after the other, each with the agent as the one before it left it. -/
def attachAll (agent : Agent) : List (Attempt σ) → StateM σ (List Attached)
  | [] => pure []
  | attempt :: later => do
    let attached ← agent.attach attempt.ask attempt.hooks
    let others ← attached.agent.attachAll later
    pure (attached :: others)

theorem attachAll_cons (agent : Agent) (attempt : Attempt σ) (later : List (Attempt σ)) :
    agent.attachAll (attempt :: later) world =
      let attached := agent.attach attempt.ask attempt.hooks world
      let others := attached.1.agent.attachAll later attached.2
      (attached.1 :: others.1, others.2) := rfl

/-- By induction on the attempts: each leaves the agent as it was, and so settled. -/
theorem attachAll_of_settled (h : agent.state ≠ .unattached) (attempts : List (Attempt σ)) :
    agent.attachAll attempts world =
      (attempts.map fun attempt => ⟨agent, attempt.hooks, []⟩, world) := by
  induction attempts with
  | nil => rfl
  | cons attempt later ih =>
    rw [attachAll_cons, attach_of_settled h]
    simp only [ih, List.map_cons]

/-- The first attempt settles a new agent, and the others find it settled. -/
theorem attachAll_fresh (h : agent.state = .unattached) (first : Attempt σ)
    (later : List (Attempt σ)) :
    let attached := agent.settleOn first.hooks (first.ask probeClass world).1
    agent.attachAll (first :: later) world =
      (attached :: later.map fun attempt => ⟨attached.agent, attempt.hooks, []⟩,
        (first.ask probeClass world).2) := by
  intro attached
  have hsettled : attached.agent.state ≠ .unattached := by
    rcases state_settleOn agent first.hooks (first.ask probeClass world).1 with hs | hs
    · simp [attached, hs]
    · simp [attached, hs]
  rw [attachAll_cons, attach_fresh h]
  simp only [attachAll_of_settled hsettled, attached]

/-! ### Runs with a new agent -/

/-- The same attempts in a world where each question to a source is written down, with the
position of the attempt. -/
def noted (attempts : List (Attempt σ)) : List (Attempt (σ × List (Nat × String))) :=
  attempts.mapIdx fun position attempt =>
    { ask := fun name (world, questions) =>
        ((attempt.ask name world).1, (attempt.ask name world).2, questions ++ [(position, name)])
      hooks := attempt.hooks }

/-- **An agent attaches once.**  Whatever the sources do and however often it is tried: one question
is asked in all, of the first source and for the class of the probe; every attempt ends in the state
that the answer calls for; the one hook of an active agent goes to the chain of the first attempt,
and a disabled agent installs none; a disabled agent is reported in one warning, an active one in
none. -/
theorem attachAll_new (verbose : Bool) (policy : PathPolicy) (first : Attempt σ)
    (later : List (Attempt σ)) (world : σ) :
    let agent : Agent := { verbose, policy }
    let run := agent.attachAll (first :: later) world
    let answer := (first.ask probeClass world).1
    run.2 = (first.ask probeClass world).2 ∧
      (agent.attachAll (noted (first :: later)) (world, [])).2 = (run.2, [(0, probeClass)]) ∧
      run.1.length = later.length + 1 ∧
      (∀ attached ∈ run.1, attached.agent.state ≠ .probing) ∧
      (answer.Supports →
        (∀ attached ∈ run.1, attached.agent.state = .active) ∧
        run.1.map Attached.hooks =
          (first.hooks ++ [LoadHook.sourceLocation policy verbose]) :: later.map Attempt.hooks ∧
        warnings (run.1.flatMap Attached.log) = []) ∧
      (¬ answer.Supports →
        (∀ attached ∈ run.1, attached.agent.state = .disabled) ∧
        run.1.map Attached.hooks = first.hooks :: later.map Attempt.hooks ∧
        (warnings (run.1.flatMap Attached.log)).length = 1) := by
  intro agent run answer
  have hrun : run = _ := attachAll_fresh rfl first later
  -- All attempts leave the agent that the first one settled, and only that one logs anything.
  have hagent : ∀ attached ∈ run.1,
      attached.agent = (agent.settleOn first.hooks answer).agent := by
    intro attached h
    rw [hrun] at h
    rcases List.mem_cons.mp h with rfl | h
    · rfl
    · obtain ⟨attempt, -, rfl⟩ := List.mem_map.mp h
      rfl
  have hhooks : run.1.map Attached.hooks =
      (agent.settleOn first.hooks answer).hooks :: later.map Attempt.hooks := by
    simp [hrun, answer, Function.comp_def]
  have hlog : run.1.flatMap Attached.log = (agent.settleOn first.hooks answer).log := by
    simp [hrun, answer, List.flatMap_map]
  refine ⟨by rw [hrun], ?_, by simp [hrun], fun attached h hprobing => ?_, fun h => ?_, fun h => ?_⟩
  · rw [noted, List.mapIdx_cons, attachAll_fresh rfl, hrun]
    rfl
  · rw [hagent attached h] at hprobing
    rcases state_settleOn agent first.hooks answer with hstate | hstate
    · rw [hstate] at hprobing
      cases hprobing
    · rw [hstate] at hprobing
      cases hprobing
  · obtain ⟨hactive, hadded, hsilent⟩ := settleOn_of_supports agent first.hooks h
    refine ⟨fun attached hmem => ?_, by rw [hhooks, hadded], by rw [hlog, hsilent]⟩
    rw [hagent attached hmem, hactive]
  · obtain ⟨hdisabled, hkept, hwarned⟩ := settleOn_of_not_supports agent first.hooks h
    refine ⟨fun attached hmem => ?_, by rw [hhooks, hkept], by rw [hlog, hwarned]⟩
    rw [hagent attached hmem, hdisabled]

/-- An attempt with a source that has a class to show. -/
def healthy : Attempt Unit :=
  ⟨fun _ => pure (.found specimenBytes), []⟩

/-- An attempt with a source that breaks down. -/
def broken : Attempt Unit :=
  ⟨fun _ => pure (.brokeDown none), []⟩

/-- A second attempt mends nothing and spoils nothing. -/
theorem attachAll_new_retried :
    (∀ attached ∈ (attachAll {} [healthy, broken] ()).1, attached.agent.state = .active) ∧
      (∀ attached ∈ (attachAll {} [broken, healthy] ()).1, attached.agent.state = .disabled) := by
  obtain ⟨-, -, -, -, hactive, -⟩ := attachAll_new false .absolute healthy [broken] ()
  obtain ⟨-, -, -, -, -, hdisabled⟩ := attachAll_new false .absolute broken [healthy] ()
  refine ⟨(hactive ⟨specimenBytes, specimen, rfl, parse_specimenBytes⟩).1, (hdisabled ?_).1⟩
  rintro ⟨bytes, c, hfound, -⟩
  cases hfound

end Agent

end ClassOrigin
