import ReleaseBuilds.Pipeline.Request

/-!
# Failures of the cluster around runs

Why a pipeline or a run was not found, or a run was not created.
-/

namespace ReleaseBuilds

inductive RunnerError where
  | notFound (name : String)
  | forbidden (name : String)
  | createUnauthorized
  | invalidSpec (errors : ErrorList WorkspaceError)
  /-- The cluster created a run and gave it no name. -/
  | missingName
  /-- Any other failure; there is a code if the cluster gave an answer. -/
  | api (code : Option Nat)
deriving DecidableEq, Repr

namespace RunnerError

def isNotFound : RunnerError → Bool
  | .notFound _ => true
  | _ => false

def isForbidden : RunnerError → Bool
  | .forbidden _ => true
  | _ => false

/-- The text of an error; an unexpected answer of the cluster speaks for itself. -/
def message? : RunnerError → Option String
  | .notFound name => some ("tekton resource '" ++ name ++ "' not found")
  | .forbidden name => some ("forbidden to get tekton resource '" ++ name ++ "'")
  | .createUnauthorized => some "unauthorized to create tekton pipelinerun resource"
  | .invalidSpec errors =>
    some ("can not build PipelineRun from repository spec: " ++ errors.text WorkspaceError.message)
  | .missingName => some "created PipelineRun has no name"
  | .api _ => none

end RunnerError

end ReleaseBuilds
