/-
Describers: how a project is turned into search directives.

* **`Describer.standard`** takes dependencies first, then directories of compiled classes, then the
  project itself;
* **`DescriberRegistry`** holds describers with different names, and
  **`DescriberRegistry.describe`** asks all of them.
-/
import ClassOrigin.Log.Entry
import ClassOrigin.Project.Directive
import ClassOrigin.Text.Quoted

namespace ClassOrigin

/-- What a describer says about a project; no directives when it broke down. -/
structure Description where
  directives : Option (List SearchDirective)
  log : List LogEntry

/-- A way to turn projects into search directives. -/
structure Describer where
  id : String
  describe : Project → Description

namespace Describer

/-- The target of messages about the search for sources. -/
def logTarget : String := "weave.lookup"

/-- The message that a declared entry is left out. -/
def skipped (project : Project) (message : String) (fault : ProjectFault) : LogEntry :=
  ⟨.debug, logTarget, message, [("project", .text project.name), ("error", .shown fault.message)],
    []⟩

/-- The directives for the entries that resolve. -/
def resolved {α : Type} (directive : α → SearchDirective)
    (entries : List (Except ProjectFault α)) : List SearchDirective :=
  entries.filterMap fun
    | .ok entry => some (directive entry)
    | .error _ => none

/-- The messages about the entries that do not resolve. -/
def unresolved {α : Type} (project : Project) (message : String)
    (entries : List (Except ProjectFault α)) : List LogEntry :=
  entries.filterMap fun
    | .ok _ => none
    | .error fault => some (skipped project message fault)

/-- The directives of a project that has sources. -/
def directivesOf (project : Project) : List SearchDirective :=
  resolved .dependency project.dependencies ++
    resolved .outputBinding project.outputBindings ++
    [.projectFallback project.name project.sourceRoots]

/-- Describes a project by its own declarations. A project without sources has no directives. -/
def describeStandard (project : Project) : Description :=
  if project.hasSources then
    { directives := some (directivesOf project)
      log :=
        unresolved project "skipping classpath entry" project.dependencies ++
          unresolved project "skipping output directory" project.outputBindings }
  else
    { directives := some []
      log := [⟨.debug, logTarget, "not a source project; nothing to describe",
        [("project", .text project.name)], []⟩] }

/-- The describer that goes by a project's own declarations. -/
def standard : Describer where
  id := "default"
  describe := describeStandard

end Describer

/-- The describers that are asked about every project, in order. -/
structure DescriberRegistry where
  describers : List Describer

/-- Why a describer was not registered. -/
inductive RegistryFault
  | duplicateId (id : String)
deriving DecidableEq

/-- The wording of a fault. -/
def RegistryFault.message : RegistryFault → String
  | .duplicateId id => s!"a project describer with id {Quoted.quote id} is already registered"

namespace DescriberRegistry

/-- The registry without describers. -/
def empty : DescriberRegistry :=
  ⟨[]⟩

/-- The registry with the standard describer alone. -/
def standard : DescriberRegistry :=
  ⟨[Describer.standard]⟩

/-- The names of the describers. -/
def ids (registry : DescriberRegistry) : List String :=
  registry.describers.map Describer.id

/-- Adds a describer at the end, unless its name is taken. -/
def register (registry : DescriberRegistry) (describer : Describer) :
    Except RegistryFault DescriberRegistry :=
  if registry.ids.contains describer.id then .error (.duplicateId describer.id)
  else .ok ⟨registry.describers ++ [describer]⟩

/-- The message that a describer broke down. -/
def brokeDown (describer : Describer) (project : Project) : LogEntry :=
  ⟨.warn, Describer.logTarget, "project describer panicked; its directives are ignored",
    [("describer", .text describer.id), ("project", .text project.name)], []⟩

/-- What one describer contributes: nothing when it breaks down. -/
def contribution (project : Project) (describer : Describer) :
    List SearchDirective × List LogEntry :=
  let description := describer.describe project
  match description.directives with
  | some directives => (directives, description.log)
  | none => ([], description.log ++ [brokeDown describer project])

/-- The directives of all describers, with what was logged on the way. -/
def describe (registry : DescriberRegistry) (project : Project) :
    List SearchDirective × List LogEntry :=
  let parts := registry.describers.map (contribution project)
  (parts.flatMap Prod.fst, parts.flatMap Prod.snd)

end DescriberRegistry

end ClassOrigin
