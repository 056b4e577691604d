import ReleaseBuilds.Kubernetes.Api
import ReleaseBuilds.Repository.Store

/-!
# Repositories in a cluster

Loading repositories and saving their status. A status is applied as a whole by a manager of its
own, so that changes of the spec by others are not touched.
-/

namespace ReleaseBuilds.Cluster

open Kubernetes (Api.get Api.patch Api.Talk)

/-- Who manages the status of repositories. -/
def fieldManager : String := "release-pipeline-controller"

/-- A repository, or nothing if the cluster says that there is none. -/
def load (ns name : String) : Api.Talk (Except StoreError (Option Repository)) := do
  match ← Api.get Repository.kind ns name Repository.ofJson? with
  | .ok repository => return .ok (some repository)
  | .error e => return if e.saysNotFound then .ok none else .error (.api e.code?)

/-- The body by which a status is applied. -/
def statusBody (repository : Repository) : Json :=
  Json.ofMembers (Repository.kind.members ++
    [Json.always "status" (.ofOption Repository.Status.toJson repository.status)])

/-- The status of a repository. Only in a namespace can it be saved. -/
def saveStatus (repository : Repository) : Api.Talk (Except StoreError Unit) :=
  let name := repository.metadata.callName
  match repository.metadata.ns with
  | none => return .error (.missingNamespace name)
  | some ns => do
    let answer ← Api.patch Repository.kind ns name
      ("/status?&force=true&fieldManager=" ++ fieldManager) "application/apply-patch+yaml"
      (statusBody repository) Repository.ofJson?
    return (answer.mapError fun e => StoreError.api e.code?).map fun _ => ()

end ReleaseBuilds.Cluster
