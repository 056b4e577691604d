import ReleaseBuilds.Kubernetes.Api
import ReleaseBuilds.Pipeline.Run
import ReleaseBuilds.Pipeline.Runner

/-!
# Pipelines and runs in a cluster

Looking up pipelines and runs and creating runs, by requests to the cluster.
-/

namespace ReleaseBuilds.Cluster

open Kubernetes (ApiError Api.get Api.create Api.Talk)

/-- What the failure of a lookup means. -/
def lookupError (name : String) (e : ApiError) : RunnerError :=
  match e.code? with
  | some 404 => .notFound name
  | some 403 => .forbidden name
  | code => .api code

/-- What the failure of a creation means. -/
def creationError (e : ApiError) : RunnerError :=
  match e.code? with
  | some 403 => .createUnauthorized
  | code => .api code

/-- The pipeline exists. -/
def findPipeline (ns name : String) : Api.Talk (Except RunnerError Unit) := do
  let answer ← Api.get Pipeline.kind ns name Pipeline.ofJson?
  return (answer.mapError (lookupError name)).map fun _ => ()

def findRun (ns name : String) : Api.Talk (Except RunnerError RunState) := do
  let answer ← Api.get PipelineRun.kind ns name PipelineRun.ofJson?
  return (answer.mapError (lookupError name)).map PipelineRun.state

/-- The state of a created run, which must have got a name. -/
def createdState (run : PipelineRun) : Except RunnerError RunState :=
  if run.metadata.name.isSome then .ok run.state else .error .missingName

/-- A run as requested. Nothing is sent if a workspace cannot be bound. -/
def createRun (request : RunRequest) : Api.Talk (Except RunnerError RunState) :=
  match request.manifest with
  | .error errors => return .error (.invalidSpec errors)
  | .ok manifest => do
    let answer ← Api.create PipelineRun.kind request.ns manifest.toJson PipelineRun.ofJson?
    return (answer.mapError creationError).bind createdState

end ReleaseBuilds.Cluster
