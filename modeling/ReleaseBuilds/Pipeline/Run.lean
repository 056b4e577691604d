import ReleaseBuilds.Repository.Encoding
import ReleaseBuilds.Kubernetes.Volume
import ReleaseBuilds.Pipeline.Request

/-!
# Pipelines and runs as resources

The resources of Tekton that the cluster answers with. Of a pipeline only its existence matters;
of a run its name, when it was created, started and completed, and whether it succeeded. Their
specs are checked for their form and carried along.
-/

namespace ReleaseBuilds

open Json (record? always whenPresent ofMembers)
open Kubernetes (Metadata Shape Kind)

/-- An observation about a run. -/
structure RunCondition where
  kind : String
  status : String
  reason : Option String := none
  message : Option String := none
deriving DecidableEq, Repr

structure RunStatus where
  startTime : Option Instant := none
  completionTime : Option Instant := none
  conditions : List RunCondition := []
deriving DecidableEq, Repr

/-- Whether the run succeeded, as far as that is known; the first observation about it counts. -/
def RunStatus.succeeded? (s : RunStatus) : Option Bool :=
  match (s.conditions.find? fun c => c.kind == "Succeeded").map (·.status) with
  | some "True" => some true
  | some "False" => some false
  | _ => none

/-- What matters about a run. -/
structure RunState where
  name : String := ""
  createdAt : Option Instant := none
  startTime : Option Instant := none
  completionTime : Option Instant := none
  succeeded : Option Bool := none
deriving DecidableEq, Repr

namespace RunState

def hasStarted (r : RunState) : Bool := r.startTime.isSome

/-- Only a run that has started can have completed. -/
def hasCompleted (r : RunState) : Bool := r.hasStarted && r.completionTime.isSome

end RunState

/-- A run as the cluster holds it; its spec is in normal form. -/
structure PipelineRun where
  metadata : Metadata
  spec : Json
  status : Option RunStatus := none

def PipelineRun.state (run : PipelineRun) : RunState :=
  { name := run.metadata.callName
    createdAt := run.metadata.created?
    startTime := run.status.bind (·.startTime)
    completionTime := run.status.bind (·.completionTime)
    succeeded := run.status.bind (·.succeeded?) }

/-- A pipeline as the cluster holds it; its spec may be any object. -/
structure Pipeline where
  metadata : Metadata
  spec : Json

/-! ## Written forms -/

namespace RunCondition

def ofJson? (j : Json) : Option RunCondition := do
  let fields ← j.record? ["type", "status", "reason", "message"]
  return {
    kind := ← (fields "type").required Json.asText?
    status := ← (fields "status").required Json.asText?
    reason := ← (fields "reason").optional Json.asText?
    message := ← (fields "message").optional Json.asText? }

def toJson (c : RunCondition) : Json :=
  .object [("type", .text c.kind), ("status", .text c.status), ("reason", .ofOption .text c.reason),
    ("message", .ofOption .text c.message)]

end RunCondition

namespace RunStatus

def ofJson? (j : Json) : Option RunStatus := do
  let fields ← j.record? ["startTime", "completionTime", "conditions"]
  return {
    startTime := ← (fields "startTime").optional Instant.ofJson?
    completionTime := ← (fields "completionTime").optional Instant.ofJson?
    conditions := ← (fields "conditions").orElse [] (Json.asList? RunCondition.ofJson?) }

def toJson (s : RunStatus) : Json :=
  .object [("startTime", .ofOption Instant.toJson s.startTime),
    ("completionTime", .ofOption Instant.toJson s.completionTime),
    ("conditions", .ofList RunCondition.toJson s.conditions)]

end RunStatus

namespace PipelineRun

/-- The form of the spec of a run. -/
def specShape : Shape := .record true [
  ("pipelineRef", .optional, .record true [("name", .required, .text)]),
  ("params", .unlessEmpty, .list (.record true [
    ("name", .required, .text),
    ("value", .required, .text)])),
  ("workspaces", .unlessEmpty, .list (.record true [
    ("name", .required, .text),
    ("secret", .optional, Kubernetes.Volume.secret),
    ("volumeClaimTemplate", .optional, Kubernetes.Volume.claim)]))]

def kind : Kind := ⟨"tekton.dev/v1", "PipelineRun", "pipelineruns"⟩

def ofJson? (j : Json) : Option PipelineRun := do
  let fields ← j.record? ["metadata", "spec", "status"]
  return {
    metadata := ← (fields "metadata").required Metadata.ofJson?
    spec := ← (fields "spec").required (specShape.normalise? 1)
    status := ← (fields "status").optionalMember RunStatus.ofJson? }

def toJson (r : PipelineRun) : Json :=
  ofMembers (kind.members ++ [
    always "metadata" r.metadata.toJson,
    always "spec" r.spec,
    whenPresent "status" RunStatus.toJson r.status])

end PipelineRun

namespace Pipeline

def kind : Kind := ⟨"tekton.dev/v1", "Pipeline", "pipelines"⟩

def ofJson? (j : Json) : Option Pipeline := do
  let fields ← j.record? ["metadata", "spec"]
  return {
    metadata := ← (fields "metadata").required Metadata.ofJson?
    spec := ← (fields "spec").required ((Shape.map .anything).normalise? 1) }

def toJson (p : Pipeline) : Json :=
  ofMembers (kind.members ++ [always "metadata" p.metadata.toJson, always "spec" p.spec])

end Pipeline

namespace WorkspaceBinding

def toJson (b : WorkspaceBinding) : Json :=
  match b.source with
  | .secret name =>
    .object [("name", .text b.name), ("secret", .object [("secretName", .text name)])]
  | .volume storageClass =>
    let spec := ofMembers [
      always "accessModes" (.array [.text "ReadWriteOnce"]),
      always "resources" (.object [("requests", .object [("storage", .text "1")])]),
      whenPresent "storageClassName" .text storageClass]
    let claim := Json.object [("apiVersion", .text "v1"), ("kind", .text "PersistentVolumeClaim"),
      ("metadata", .object []), ("spec", spec)]
    .object [("name", .text b.name), ("volumeClaimTemplate", claim)]

end WorkspaceBinding

def RunManifest.toJson (m : RunManifest) : Json :=
  let param := fun (e : String × String) =>
    Json.object [("name", .text e.1), ("value", .text e.2)]
  let spec := ofMembers [
    always "pipelineRef" (.object [("name", .text m.pipeline)]),
    if m.params.entries.isEmpty then none else always "params" (.ofList param m.params.entries),
    if m.workspaces.isEmpty then none
    else always "workspaces" (.ofList WorkspaceBinding.toJson m.workspaces)]
  ofMembers (PipelineRun.kind.members ++ [
    always "metadata" (.object [("generateName", .text m.generateName), ("namespace", .text m.ns)]),
    always "spec" spec])

end ReleaseBuilds
