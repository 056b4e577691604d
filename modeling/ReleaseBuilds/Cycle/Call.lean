import ReleaseBuilds.Dialogue
import ReleaseBuilds.Cycle.Notice
import ReleaseBuilds.Github.Query
import ReleaseBuilds.Github.Error
import ReleaseBuilds.Kubernetes.Reference
import ReleaseBuilds.Pipeline.Run
import ReleaseBuilds.Pipeline.Runner
import ReleaseBuilds.Repository.Store

/-!
# The questions of a cycle

All that a cycle asks of the cluster and of GitHub, and what it can be answered. Saving a status and
publishing a notice are questions too; the latter has no answer that matters.
-/

namespace ReleaseBuilds.Cycle

open Kubernetes (Reference)

inductive Call where
  | load (ns name : String)
  | findPipeline (ns name : String)
  | findRun (ns name : String)
  | fetchReleases (query : ReleaseQuery) (cancelled : Bool)
  | fetchAssets (query : ArtifactQuery) (cancelled : Bool)
  | fetchPackages (query : ArtifactQuery) (cancelled : Bool)
  | createRun (request : RunRequest)
  | publish (target : Reference) (notice : Notice)
  | saveStatus (repository : Repository)

/-- What a question can be answered. -/
abbrev Call.Answer : Call → Type
  | .load .. => Except StoreError (Option Repository)
  | .findPipeline .. => Except RunnerError Unit
  | .findRun .. => Except RunnerError RunState
  | .fetchReleases .. => Except GithubError (List Release)
  | .fetchAssets .. => Except GithubError (List Asset)
  | .fetchPackages .. => Except GithubError (List Package)
  | .createRun .. => Except RunnerError RunState
  | .publish .. => Unit
  | .saveStatus .. => Except StoreError Unit

/-- A dialogue with the cluster and with GitHub. -/
abbrev Talk := Dialogue Call Call.Answer

def ask (call : Call) : Talk call.Answer := .question call

def load (ns name : String) : Talk (Except StoreError (Option Repository)) :=
  ask (.load ns name)

def findPipeline (ns name : String) : Talk (Except RunnerError Unit) :=
  ask (.findPipeline ns name)

def findRun (ns name : String) : Talk (Except RunnerError RunState) := ask (.findRun ns name)

def fetchReleases (query : ReleaseQuery) (cancelled : Bool) :
    Talk (Except GithubError (List Release)) :=
  ask (.fetchReleases query cancelled)

def fetchAssets (query : ArtifactQuery) (cancelled : Bool) :
    Talk (Except GithubError (List Asset)) :=
  ask (.fetchAssets query cancelled)

def fetchPackages (query : ArtifactQuery) (cancelled : Bool) :
    Talk (Except GithubError (List Package)) :=
  ask (.fetchPackages query cancelled)

def createRun (request : RunRequest) : Talk (Except RunnerError RunState) :=
  ask (.createRun request)

def publish (target : Reference) (notice : Notice) : Talk Unit := ask (.publish target notice)

def saveStatus (repository : Repository) : Talk (Except StoreError Unit) :=
  ask (.saveStatus repository)

/-- Several notices, one after the other. -/
def publishAll (target : Reference) : List Notice → Talk Unit
  | [] => .done ()
  | notice :: rest => do
    publish target notice
    publishAll target rest

/-- The repository that a cycle is about. -/
structure Subject where
  ns : String
  spec : Repository.Spec
  /-- How notices refer to it. -/
  reference : Reference
  /-- The start of the check before this one. -/
  since : Option Instant := none

end ReleaseBuilds.Cycle
