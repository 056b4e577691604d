import ReleaseBuilds.Cycle.Call
import ReleaseBuilds.Cycle.Setting

/-!
# Cleaning up the records of runs

At the start of a cycle the records of runs that no longer exist or were created long ago are
dropped. All records are looked up first; then those found stale are dropped at once.
-/

namespace ReleaseBuilds

namespace Repository

/-- The record of a run together with what it was for. -/
structure RecordedRun where
  tag : String
  type : ArtifactType
  record : RunRecord
deriving DecidableEq, Repr

namespace Status

/-- All records of runs, by tag and by kind. -/
def recordedRuns (s : Status) : List RecordedRun :=
  s.releases.entries.flatMap fun e =>
    (e.2.runs.getD {}).toList.map fun r => { tag := e.1, type := r.1, record := r.2 }

/-- The status without the given records. -/
def dropRuns (s : Status) (runs : List RecordedRun) : Status :=
  runs.foldl (fun s r => s.removeRun r.tag r.type) s

end Status

end Repository

namespace Cycle

/-- Records of runs that are older than this many days are dropped. -/
def expiryDays : Nat := 14

/-- A run is expired if it is known to have been created more than `expiryDays` days
before `now`. -/
def isExpired (now : Instant) (run : RunState) : Bool :=
  run.createdAt.any fun created =>
    (now.shift? (-Instant.daysInNanos expiryDays)).any fun expiry => created.before expiry

/-- What the cluster answers about the run of a stale record. -/
def isStale (now : Instant) : Except RunnerError RunState → Bool
  | .ok run => isExpired now run
  | .error e => e.isNotFound

/-- The records that are stale. -/
def staleRuns (now : Instant) (ns : String) :
    List Repository.RecordedRun → Talk (List Repository.RecordedRun)
  | [] => .done []
  | r :: rest => do
    let answer ← findRun ns r.record.name
    let stale ← staleRuns now ns rest
    return if isStale now answer then r :: stale else stale

/-- The status without its stale records. -/
def cleanup (m : Moment) (subject : Subject) (s : Repository.Status) : Talk Repository.Status := do
  let stale ← staleRuns m.now subject.ns s.recordedRuns
  return s.dropRuns stale

end Cycle

end ReleaseBuilds
