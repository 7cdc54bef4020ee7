/-
The agent: it probes a runtime once and then weaves its classes, or stays out of the way.

    unattached --attach--> active      when the probe succeeds
                       \-> disabled    when it fails

Both outcomes are final. A disabled agent installs no hook.

* **`Agent.attach`** is the only step.
-/
import ClassOrigin.Agent.Hooks
import ClassOrigin.Agent.Probe

namespace ClassOrigin

/-- Where an agent is in its life; the probe runs within a step and shows in none. -/
inductive AgentState
  | unattached
  | probing
  | active
  | disabled
deriving DecidableEq

/-- An agent. -/
structure Agent where
  verbose : Bool := false
  policy : PathPolicy := .absolute
  state : AgentState := .unattached

namespace Agent

/-- Whether an agent's argument asks for verbose mode. -/
def isVerboseArgument (argument : Option String) : Bool :=
  argument == some "debuglog"

/-- What an agent says about attaching. -/
inductive Note
  | enabled (policy : PathPolicy)
  | disabled (cause : ProbeError)
  | details (cause : ProbeError)

/-- The log entry for a note. -/
def Note.entry : Note → LogEntry
  | enabled policy =>
    ⟨.info, "weave.agent", "source location weaving enabled", [], [("policy", policy.spelled)]⟩
  | disabled cause =>
    ⟨.warn, "weave.agent", "runtime is not supported; source location weaving disabled",
      [("error", .shown cause.message)], []⟩
  | details cause =>
    ⟨.debug, "weave.agent", "probe failure details", [], [("error", cause.spelled)]⟩

/-- An agent and the chain of hooks it works on, after a step, with what the step logged. -/
structure Attached where
  agent : Agent
  hooks : List LoadHook
  log : List LogEntry

/-- What the verdict of the probe does. -/
def settle (agent : Agent) (hooks : List LoadHook) (verdict : Except ProbeError Unit) : Attached :=
  let ifVerbose (note : Note) : List LogEntry := if agent.verbose then [note.entry] else []
  match verdict with
  | .ok () =>
    { agent := { agent with state := .active }
      hooks := hooks ++ [LoadHook.sourceLocation agent.policy agent.verbose]
      log := ifVerbose (.enabled agent.policy) }
  | .error cause =>
    { agent := { agent with state := .disabled }
      hooks
      log := (Note.disabled cause).entry :: ifVerbose (.details cause) }

/-- Probes a runtime and settles, if the agent has not done so before. -/
def attach {m : Type → Type} [Monad m] (ask : String → m BootstrapAnswer) (agent : Agent)
    (hooks : List LoadHook) : m Attached :=
  if agent.state = .unattached then do
    let probing := { agent with state := .probing }
    let verdict ← probe ask
    pure (probing.settle hooks verdict)
  else pure ⟨agent, hooks, []⟩

end Agent

end ClassOrigin
