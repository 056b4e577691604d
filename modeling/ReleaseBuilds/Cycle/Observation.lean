import ReleaseBuilds.Version.Filter
import ReleaseBuilds.Repository.Status

/-!
# Observations of a cycle

What a cycle finds out about a repository, and the condition that states it. A cycle that is carried
through makes one observation that is its verdict; two others can accompany it.
-/

namespace ReleaseBuilds

/-- Why the pipelines of a repository cannot be used. -/
inductive PipelineProblem where
  | notFound
  | forbidden
  | unknown
deriving DecidableEq, Repr

def PipelineProblem.text : PipelineProblem → String
  | .notFound => "PipelineNotFound"
  | .forbidden => "Forbidden"
  | .unknown => "Unknown"

inductive Observation where
  | pipelinesUnavailable (problem : PipelineProblem)
  | releasesNotFetched (quotaExceeded : Bool)
  | filterInvalid (error : FilterError)
  | artifactsNotFetched
  | noRunsNeeded
  | runsCreated (withErrors : Bool)
  | runsPending (inFlight : Nat)
  | runsNotCreated
deriving DecidableEq, Repr

namespace Observation

/-- The kind of the condition that states the observation. -/
def kind : Observation → String
  | .pipelinesUnavailable _ => "TektonPipelineUnavailable"
  | .releasesNotFetched _ => "FetchReleaseInformationFailed"
  | .filterInvalid _ => "VersionFilterInvalid"
  | .artifactsNotFetched => "FetchReleaseArtifactsFailed"
  | .noRunsNeeded => "NoRunsNeeded"
  | .runsCreated _ => "PipelineRunsCreated"
  | .runsPending _ => "PipelineRunsPending"
  | .runsNotCreated => "PipelineRunsCreationFailed"

/-- Whether the condition is stated as true: so are those that report no failure. -/
def holds : Observation → Bool
  | .noRunsNeeded | .runsCreated _ | .runsPending _ => true
  | _ => false

def reason : Observation → String
  | .pipelinesUnavailable problem => problem.text
  | .releasesNotFetched quotaExceeded => if quotaExceeded then "RateLimitExceeded" else "Unknown"
  | .filterInvalid _ => "InvalidFilter"
  | .artifactsNotFetched => "ApiErrors"
  | .noRunsNeeded => "NoMissingReleases"
  | .runsCreated _ => "MissingReleasesFound"
  | .runsPending _ => "RunsInFlight"
  | .runsNotCreated => "Unknown"

def message : Observation → String
  | .pipelinesUnavailable _ => "Requested Tekton Pipeline not available"
  | .releasesNotFetched _ => "Fetching release information from GitHub failed"
  | .filterInvalid error => error.message
  | .artifactsNotFetched => "Fetching release artifacts from GitHub failed"
  | .noRunsNeeded => "No PipelineRun needs to be scheduled"
  | .runsCreated withErrors =>
    if withErrors then "Created PipelineRuns, produced error(s)" else "Created PipelineRuns"
  | .runsPending inFlight => toString inFlight ++ " PipelineRun(s) still in flight"
  | .runsNotCreated => "No PipelineRun(s) could be created"

/-- Every release is accounted for: none lacks an artifact, or runs were created for
those that do. -/
def isReady : Observation → Bool
  | .noRunsNeeded | .runsCreated _ => true
  | _ => false

/-- The condition that states the observation, made at the given instant. -/
def condition (o : Observation) (now : Instant) : Repository.Condition :=
  .observed now o.kind o.holds o.reason o.message

end Observation

end ReleaseBuilds
