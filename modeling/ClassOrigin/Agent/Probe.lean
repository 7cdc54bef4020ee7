/-
The capability probe: whether the classes of a runtime can be read.

A bootstrap source answers for a class by name, and may fail in any way. The probe asks it for one
class, which every runtime has.

* **`judge`** is the verdict on an answer, **`probe`** asks and judges.
-/
import ClassOrigin.Agent.Ending
import ClassOrigin.ClassFile.Basic

namespace ClassOrigin

/-- What a bootstrap source says about a class. A source that breaks down may leave a message. -/
inductive BootstrapAnswer
  | found (bytes : Bytes)
  | absent
  | failed (reason : String)
  | brokeDown (message : Option String)

/-- Why a runtime is not supported. -/
inductive ProbeError
  | unavailable (reason : String)
  | missing
  | unsupported (cause : ClassFile.Error)
  | brokeDown (message : String)
deriving DecidableEq

/-- The class that the probe asks for. -/
def probeClass : String := "java/lang/Object"

/-- The wording of an error. -/
def ProbeError.message : ProbeError → String
  | .unavailable reason => s!"failed to read bootstrap class {probeClass}: {reason}"
  | .missing => s!"bootstrap class {probeClass} not found"
  | .unsupported cause => s!"cannot parse bootstrap class {probeClass}: {cause.message}"
  | .brokeDown message => s!"capability probe panicked: {message}"

/-- An error spelled out. -/
def ProbeError.spelled : ProbeError → String
  | .unavailable reason =>
    Spelled.record "BootstrapUnavailable"
      [("class", Quoted.quote probeClass), ("reason", Quoted.quote reason)]
  | .missing => Spelled.record "BootstrapMissing" [("class", Quoted.quote probeClass)]
  | .unsupported cause =>
    Spelled.record "UnsupportedRuntime"
      [("class", Quoted.quote probeClass), ("source", cause.spelled)]
  | .brokeDown message => Spelled.wrapping "ProbePanicked" (Quoted.quote message)

/-- The verdict on a bootstrap source's answer. -/
def judge : BootstrapAnswer → Except ProbeError Unit
  | .found bytes =>
    match ClassFile.parse bytes with
    | .ok _ => .ok ()
    | .error cause => .error (.unsupported cause)
  | .absent => .error .missing
  | .failed reason => .error (.unavailable reason)
  | .brokeDown message => .error (.brokeDown (breakdownText message))

/-- Asks a bootstrap source for the probe's class and judges the answer. -/
def probe {m : Type → Type} [Monad m] (ask : String → m BootstrapAnswer) :
    m (Except ProbeError Unit) := do
  let answer ← ask probeClass
  pure (judge answer)

end ClassOrigin
