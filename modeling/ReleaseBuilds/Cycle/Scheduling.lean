import ReleaseBuilds.Cycle.Call
import ReleaseBuilds.Cycle.Setting

/-!
# Scheduling runs

A run is created for a release and a kind of artifact that it lacks, unless the previous run for
them is still in flight: started less than an hour ago and not completed, or not started and
recorded less than an hour ago. A failure for one pair does not stop the others.
-/

namespace ReleaseBuilds.Cycle

/-- For how many minutes a run counts as in flight. -/
def inFlightMinutes : Nat := 60

/-- Less time than `inFlightMinutes` has gone by since `t`. -/
def isRecent (now t : Instant) : Bool := t.nanosBetween now < Instant.minutesInNanos inFlightMinutes

/-- The run of a record may still produce its artifact. -/
def isInFlight (now : Instant) (record : Repository.RunRecord) (run : RunState) : Bool :=
  run.startTime.any (isRecent now) && !run.hasCompleted ||
    !run.hasStarted && isRecent now record.timestamp

/-- What happened to a release and a kind of artifact that it lacks. -/
inductive RunOutcome where
  | created
  | inFlight
  /-- No pipeline is named for the kind. -/
  | notConfigured
deriving DecidableEq, Repr

/-- Whether the previous run is in flight; a run that cannot be looked up is not. -/
def previousInFlight (now : Instant) (ns : String) : Option Repository.RunRecord → Talk Bool
  | none => return false
  | some record => do
    match ← findRun ns record.name with
    | .ok run => return isInFlight now record run
    | .error _ => return false

/-- A new run is recorded and told. -/
def recordCreated (now : Instant) (subject : Subject) (s : Repository.Status) (tag : String)
    (t : ArtifactType) (run : RunState) : Talk Repository.Status := do
  let s := s.recordRun tag t run.name (run.createdAt.getD now)
  let count := (s.run? tag t).elim 1 fun record => record.runsCreated.toNat
  publish subject.reference (.runScheduled run.name count tag)
  return s

/-- A run for one release and one kind, if one is needed. -/
def schedule (m : Moment) (subject : Subject) (s : Repository.Status) (tag : String)
    (t : ArtifactType) : Talk (Except RunnerError RunOutcome × Repository.Status) :=
  match RunRequest.build? subject.spec subject.ns tag t with
  | none => return (.ok .notConfigured, s)
  | some request => do
    if ← previousInFlight m.now subject.ns (s.run? tag t) then return (.ok .inFlight, s)
    match ← createRun request with
    | .error e => return (.error e, s)
    | .ok run => return (.ok .created, ← recordCreated m.now subject s tag t run)

/-- The pairs of releases and kinds that runs may be needed for, in the order of their turns. -/
def pairs (tags : List String) : List (String × ArtifactType) :=
  tags.flatMap fun tag => ArtifactType.all.map fun t => (tag, t)

/-- Every pair that lacks its artifact takes its turn; the outcomes in order. -/
def scheduleAll (m : Moment) (subject : Subject) :
    List (String × ArtifactType) → Repository.Status →
      Talk (List (Except RunnerError RunOutcome) × Repository.Status)
  | [], s => return ([], s)
  | (tag, t) :: rest, s => do
    if (s.release tag).isMissing t then
      let (outcome, s) ← schedule m subject s tag t
      let (outcomes, s) ← scheduleAll m subject rest s
      return (outcome :: outcomes, s)
    else scheduleAll m subject rest s

/-- The outcomes of scheduling taken together. -/
structure RunSummary where
  created : Nat
  inFlight : Nat
  errors : ErrorList RunnerError
deriving DecidableEq, Repr

def RunSummary.of (outcomes : List (Except RunnerError RunOutcome)) : RunSummary :=
  let values := ErrorList.values outcomes
  { created := values.count .created
    inFlight := values.count .inFlight
    errors := .ofOutcomes outcomes }

/-- The highest count of runs that any record of the given releases shows. -/
def mostAttempts (s : Repository.Status) (tags : List String) : Nat :=
  let counts := tags.flatMap fun tag =>
    ((s.release tag).runs.getD {}).values.map fun record => record.runsCreated.toNat
  counts.foldl Nat.max 0

end ReleaseBuilds.Cycle
