import ReleaseBuilds.Main
import ReleaseBuilds.Cycle.Basic
import ReleaseBuilds.Github.Client
import ReleaseBuilds.Cluster.Events
import ReleaseBuilds.Cluster.Repositories
import ReleaseBuilds.Cluster.Runs
import ReleaseBuilds.Server
import ReleaseBuilds.Repository.Definition
import ReleaseBuilds.Yaml.Block
import ReleaseBuilds.Proofs.Need
import ReleaseBuilds.Proofs.InFlight
import ReleaseBuilds.Proofs.History
import ReleaseBuilds.Proofs.Spacing
import ReleaseBuilds.Proofs.Quota
import ReleaseBuilds.Proofs.Lookups
import ReleaseBuilds.Proofs.Opening
import ReleaseBuilds.Proofs.Memorized
import ReleaseBuilds.Proofs.Tally
import ReleaseBuilds.Proofs.Verdict
import ReleaseBuilds.Proofs.Readiness
import ReleaseBuilds.Proofs.Outcomes
import ReleaseBuilds.Proofs.Repeats
import ReleaseBuilds.Proofs.Arrival
import ReleaseBuilds.Proofs.Bookkeeping
import ReleaseBuilds.Proofs.Sessions
import ReleaseBuilds.Proofs.Admission
import ReleaseBuilds.Proofs.Landing
import ReleaseBuilds.Proofs.Persistence
import ReleaseBuilds.Proofs.Rounding
import ReleaseBuilds.Proofs.Decision
import ReleaseBuilds.Proofs.Isolation
import ReleaseBuilds.Proofs.Attempts
import ReleaseBuilds.Proofs.Cleanup
import ReleaseBuilds.Proofs.Flagging
import ReleaseBuilds.Proofs.Backoff
import ReleaseBuilds.Proofs.Pagination
import ReleaseBuilds.Proofs.Failures
import ReleaseBuilds.Proofs.Spelling
import ReleaseBuilds.Proofs.Tags
import ReleaseBuilds.Proofs.Workspaces
import ReleaseBuilds.Proofs.RootCause
import ReleaseBuilds.Proofs.Flags
import ReleaseBuilds.Proofs.Hours
import ReleaseBuilds.Proofs.Edits
