import ReleaseBuilds.Version.Filter

/-!
# Notices to the owner

What a cycle tells the owner of a repository while it works, each with the reason and the note under
which it is published.
-/

namespace ReleaseBuilds

/-- How serious a notice is. -/
inductive Severity where
  | normal
  | warning
deriving DecidableEq, Repr

def Severity.text : Severity → String
  | .normal => "Normal"
  | .warning => "Warning"

inductive Notice where
  /-- The quota did not suffice to fetch the releases. -/
  | releasesQuota
  /-- The releases could not be fetched for another reason. -/
  | releasesFailed
  | filterInvalid (error : FilterError)
  /-- Of the releases fetched, some were left out. -/
  | releasesFiltered (fetched leftOut : Nat)
  /-- Packages may not be looked up. -/
  | packagesUnauthorized
  /-- The quota did not suffice to look up all artifacts. -/
  | artifactsQuota
  /-- Some artifacts could not be looked up for another reason. -/
  | artifactsFailed
  /-- A run was created: its name, how many there were for its release and kind, and the release. -/
  | runScheduled (name : String) (count : Nat) (tag : String)
deriving DecidableEq, Repr

namespace Notice

def severity : Notice → Severity
  | .releasesFiltered .. | .runScheduled .. => .normal
  | _ => .warning

def reason : Notice → String
  | .releasesQuota | .artifactsQuota => "RateLimitExceeded"
  | .releasesFailed => "FetchingReleasesFailed"
  | .filterInvalid _ => "InvalidVersionFilter"
  | .releasesFiltered .. => "ReleasesFiltered"
  | .packagesUnauthorized => "UnauthorizedRequests"
  | .artifactsFailed => "FetchArtifactsError"
  | .runScheduled .. => "PipelineRunScheduled"

def note : Notice → String
  | .releasesQuota | .releasesFailed => "Could not fetch missing releases"
  | .filterInvalid error => "Version filter is invalid: " ++ error.message
  | .releasesFiltered fetched leftOut =>
    "Got " ++ toString fetched ++ " releases, " ++ toString leftOut ++
      " releases do not match the release filter"
  | .packagesUnauthorized => "Could not fetch data from GitHub Packages API"
  | .artifactsQuota => "Could not fetch artifacts from GitHub API"
  | .artifactsFailed => "Received non-fatal errors while fetching artifact data"
  | .runScheduled name count tag =>
    "Scheduled PipelineRun " ++ name ++ " (#" ++ toString count ++ ") for tag " ++ tag

end Notice

end ReleaseBuilds
