import ReleaseBuilds.Metrics.Exposition
import ReleaseBuilds.Time.Delay

/-!
# Metrics of the controller

What the controller counts and measures about itself. Numbers about a repository carry its owner and
its name, numbers about runs also the tag of the release.
-/

namespace ReleaseBuilds

structure Metrics where
  reconciliations : Nat := 0
  reconciliationErrors : Nat := 0
  /-- How long the cycles took, in seconds. -/
  durations : Metrics.Histogram := .ofBounds [0.1, 0.5, 1.0, 2.0, 5.0, 10.0, 30.0]
  /-- The delay chosen last, in seconds. -/
  requeueAfter : Metrics.SeriesSet Float := {}
  /-- When releases were last looked up, in seconds since the epoch. -/
  lastCheck : Metrics.SeriesSet Float := {}
  /-- Releases found by the last lookup. -/
  unseenReleases : Metrics.SeriesSet Nat := {}
  /-- Of these, the ones that passed the filter. -/
  filteredReleases : Metrics.SeriesSet Nat := {}
  requests : Metrics.SeriesSet Nat := {}
  /-- Failed requests, by what was asked for. -/
  requestErrors : Metrics.SeriesSet Nat := {}
  runsCreated : Metrics.SeriesSet Nat := {}
  runCreationErrors : Metrics.SeriesSet Nat := {}

namespace Metrics

/-- The largest number of releases that is told apart. -/
def largestCount : Nat := UInt64.size / 2 - 1

def countReconciliation (m : Metrics) : Metrics :=
  { m with reconciliations := m.reconciliations + 1 }

def countReconciliationError (m : Metrics) : Metrics :=
  { m with reconciliationErrors := m.reconciliationErrors + 1 }

def observeDuration (m : Metrics) (seconds : Float) : Metrics :=
  { m with durations := m.durations.observe seconds }

def setRequeueAfter (m : Metrics) (owner repo : String) (delay : Delay) : Metrics :=
  { m with requeueAfter := m.requeueAfter.set [owner, repo] delay.toFloat }

def setLastCheck (m : Metrics) (owner repo : String) (seconds : Float) : Metrics :=
  { m with lastCheck := m.lastCheck.set [owner, repo] seconds }

def setUnseenReleases (m : Metrics) (owner repo : String) (count : Nat) : Metrics :=
  { m with unseenReleases := m.unseenReleases.set [owner, repo] (min count largestCount) }

def setFilteredReleases (m : Metrics) (owner repo : String) (count : Nat) : Metrics :=
  { m with filteredReleases := m.filteredReleases.set [owner, repo] (min count largestCount) }

def countRequest (m : Metrics) (owner repo : String) : Metrics :=
  { m with requests := m.requests.update [owner, repo] oneMore }

def countRequestError (m : Metrics) (owner repo endpoint : String) : Metrics :=
  { m with requestErrors := m.requestErrors.update [owner, repo, endpoint] oneMore }

def countRunCreated (m : Metrics) (owner repo tag : String) : Metrics :=
  { m with runsCreated := m.runsCreated.update [owner, repo, tag] oneMore }

def countRunCreationError (m : Metrics) (owner repo tag : String) : Metrics :=
  { m with runCreationErrors := m.runCreationErrors.update [owner, repo, tag] oneMore }

/-- All families, in the order of their names. -/
def families (m : Metrics) : List Family :=
  let whole := fun (n : Nat) => n.toUInt64.toFloat
  let repository := ["owner", "repo"]
  let release := ["owner", "repo", "ref"]
  [.ofSeries "release_pipeline_github_filtered_releases_available_total"
      "The total amount of releases after filtering" .gauge repository whole m.filteredReleases,
    .ofSeries "release_pipeline_github_last_check_timestamp_seconds"
      "Timestamp of the last release check" .gauge repository id m.lastCheck,
    .ofSeries "release_pipeline_github_request_errors_total"
      "The total amount of failed GitHub requests" .counter ["owner", "repo", "endpoint"] whole
      m.requestErrors,
    .ofSeries "release_pipeline_github_requests_total"
      "The total amount of GitHub requests" .counter repository whole m.requests,
    .ofSeries "release_pipeline_github_unseen_releases_total"
      "The total amount of unseen releases for a repository" .gauge repository whole
      m.unseenReleases,
    .ofHistogram "release_pipeline_reconciliation_duration_seconds"
      "Duration of reconciliation in seconds" m.durations,
    .ofNumber "release_pipeline_reconciliation_errors_total"
      "Total number of reconciliation errors" .counter (whole m.reconciliationErrors),
    .ofNumber "release_pipeline_reconciliations_total"
      "Total number of reconciliations" .counter (whole m.reconciliations),
    .ofSeries "release_pipeline_requeue_after_seconds"
      "Seconds after which a repository gets requeued" .gauge repository id m.requeueAfter,
    .ofSeries "release_pipeline_tekton_pipelineruns_created_total"
      "The total amount of pipeline runs created" .counter release whole m.runsCreated,
    .ofSeries "release_pipeline_tekton_pipelineruns_creation_errors_total"
      "The total amount of errors while trying to create pipeline runs" .counter release whole
      m.runCreationErrors]

/-- All published numbers. -/
def samples (m : Metrics) : List Sample := m.families.flatMap Family.samples

/-- All that is published, each line ended. -/
def exposition (m : Metrics) : String :=
  String.join ((m.families.flatMap Family.lines).map fun line => line ++ "\n")

end Metrics

end ReleaseBuilds
