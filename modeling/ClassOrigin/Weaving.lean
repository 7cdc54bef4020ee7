/-
Weaving: recording in a class where it came from.

* **`weave`** gives the changed class, or nothing when the class already carries the location;
* **`weaveOrLeave`** leaves a class alone that cannot be woven, and says why in the log.
-/
import ClassOrigin.ClassFile.Location
import ClassOrigin.CodeLocation
import ClassOrigin.Log.Entry

namespace ClassOrigin

/-- Why a class could not be woven. -/
inductive WeaveError
  | unresolvableLocation
  | malformedClass (cause : ClassFile.Error)
deriving DecidableEq

/-- The wording of an error. -/
def WeaveError.message : WeaveError → String
  | .unresolvableLocation => "code location does not resolve to a filesystem path"
  | .malformedClass cause => s!"malformed classfile: {cause.message}"

/-- Records a path in a class. -/
def recordPath (path : String) (bytes : Bytes) : Except ClassFile.Error (Option Bytes) := do
  let parsed ← ClassFile.parse bytes
  let (update, woven) := parsed.setSourceLocation path
  match ← update with
  | .unchanged => pure none
  | .inserted | .replaced => pure (some woven.toBytes)

/-- Records a location in a class. The location is looked at before the class. -/
def weave (policy : PathPolicy) (location : CodeLocation) (bytes : Bytes) :
    Except WeaveError (Option Bytes) :=
  match location.canonicalPath? policy with
  | none => .error .unresolvableLocation
  | some path => (recordPath path bytes).mapError .malformedClass

/-- Records a location in a class if that is possible. -/
def weaveOrLeave (policy : PathPolicy) (location : CodeLocation) (bytes : Bytes) :
    Option Bytes × List LogEntry :=
  match weave policy location bytes with
  | .ok woven => (woven, [])
  | .error e =>
    (none, [⟨.debug, "weave.agent", "class left unchanged", [("error", .shown e.message)], []⟩])

end ClassOrigin
