import ReleaseBuilds.Cycle.Artifacts
import ReleaseBuilds.Cycle.Cleanup
import ReleaseBuilds.Cycle.Discovery
import ReleaseBuilds.Cycle.Scheduling

/-!
# A cycle

One visit to a repository. The cycle checks that its pipelines exist, cleans up the records of
runs, discovers releases, looks up their artifacts, schedules runs for what is lacking, saves the
status and says when the repository comes up again. Whatever fails on the way ends the cycle with
an observation and a delay; only a repository that cannot be loaded is an error.
-/

namespace ReleaseBuilds.Cycle

/-- The errors of the pipelines that cannot be used. -/
def pipelineErrors (subject : Subject) : Talk (List RunnerError) := do
  let answers ← Dialogue.forList (findPipeline subject.ns) subject.spec.pipelines.values
  return (ErrorList.ofOutcomes answers).toList

/-- The problem that errors of pipelines add up to: a pipeline that is missing is named before one
that may not be seen. -/
def pipelineProblem (errors : List RunnerError) : PipelineProblem :=
  if errors.any RunnerError.isNotFound then .notFound
  else if errors.any RunnerError.isForbidden then .forbidden
  else .unknown

/-- The observation about releases that lack artifacts, given what scheduling came to. -/
def verdictOf (summary : RunSummary) : Observation :=
  if 0 < summary.created then .runsCreated (!summary.errors.isEmpty)
  else if summary.errors.isEmpty then .runsPending summary.inFlight
  else .runsNotCreated

/-- The delay that goes with a verdict. A delay that a quota asks for replaces the regular one;
after failed creations the longer of the two counts. -/
def verdictDelay (c : Controller) (m : Moment) (quotaDelay : Option Delay) (attempts : Nat) :
    Observation → Delay
  | .runsNotCreated => (quotaDelay.getD .zero).maxOrFallback (c.creationDelay m attempts)
  | _ => quotaDelay.getD (c.regularDelay m)

/-- The verdict becomes a condition and decides whether the repository is ready. -/
def conclude (m : Moment) (s : Repository.Status) (verdict : Observation) : Repository.Status :=
  { s.setCondition (verdict.condition m.now) with ready := verdict.isReady }

/-- The stages from looking up artifacts to scheduling runs for the releases that are kept. -/
def build (c : Controller) (m : Moment) (subject : Subject) (s : Repository.Status)
    (releases : List Release) : Talk (Delay × Repository.Status) := do
  let outcomes ← lookUpAll m subject.spec releases
  let errors := (ErrorList.ofOutcomes outcomes).toList
  let s ← reportLookups m subject s errors
  let findings := ErrorList.values outcomes
  let s := s.takeUp subject.spec findings
  let quotaDelay := lookupDelay c m errors
  match Repository.lackingTags subject.spec findings with
  | [] => return (verdictDelay c m quotaDelay 0 .noRunsNeeded, conclude m s .noRunsNeeded)
  | tags => do
    let (outcomes, s) ← scheduleAll m subject (pairs tags) s
    let verdict := verdictOf (.of outcomes)
    return (verdictDelay c m quotaDelay (mostAttempts s tags) verdict, conclude m s verdict)

/-- All stages on a status that was made ready for the cycle. -/
def run (c : Controller) (m : Moment) (subject : Subject) (s : Repository.Status) :
    Talk (Delay × Repository.Status) := do
  match ← pipelineErrors subject with
  | [] =>
    let s ← cleanup m subject s
    match ← discover c m subject s with
    | (.error delay, s) => return (delay, s)
    | (.ok releases, s) =>
      let (releases, s) ← narrow m subject s releases
      build c m subject s releases
  | errors =>
    let observation := Observation.pipelinesUnavailable (pipelineProblem errors)
    return (c.pipelinesDelay m, s.setCondition (observation.condition m.now))

/-- A status at the start of a cycle: nothing has been observed yet. -/
def begin (now : Instant) (s : Repository.Status) : Repository.Status :=
  { s with ready := false, conditions := [], lastCheck := some now }

/-- Why a cycle could not begin. -/
inductive LoadError where
  | notLoaded (ns name : String) (cause : StoreError)
  | noNamespace (name : String)
deriving DecidableEq, Repr

/-- The text of an error, unless its cause speaks for itself. -/
def LoadError.message? : LoadError → Option String
  | .notLoaded ns name cause =>
    cause.message?.map fun text =>
      "failed to load repository " ++ ns ++ "/" ++ name ++ ": " ++ text
  | .noNamespace name => some ("repository '" ++ name ++ "' has no namespace")

/-- One cycle for the repository with the given name. The answer is the delay after which it comes
up again, or nothing if it no longer exists. A status that cannot be saved is lost. -/
def reconcile (c : Controller) (m : Moment) (ns name : String) :
    Talk (Except LoadError (Option Delay)) := do
  match ← load ns name with
  | .error cause => return .error (.notLoaded ns name cause)
  | .ok none => return .ok none
  | .ok (some repository) =>
    let s := repository.status.getD {}
    let subject : Subject :=
      { ns
        spec := repository.spec
        reference := .of Repository.kind repository.metadata
        since := s.lastCheck }
    let (delay, s) ← run c m subject (begin m.now s)
    let _ ← saveStatus { repository with status := some s }
    return .ok (some (delay.max Controller.leastDelay))

/-- What a controller does with a repository after a cycle. -/
inductive Action where
  /-- The repository comes up again after a delay. -/
  | requeue (delay : Delay)
  /-- The repository comes up again when it changes. -/
  | awaitChange
deriving DecidableEq, Repr

def Action.ofDelay : Option Delay → Action
  | some delay => .requeue delay
  | none => .awaitChange

/-- One cycle for a repository that came up. -/
def visit (c : Controller) (m : Moment) (repository : Repository) :
    Talk (Except LoadError Action) := do
  match repository.metadata.ns with
  | none => return .error (.noNamespace repository.metadata.callName)
  | some ns =>
    let result ← reconcile c m ns repository.metadata.callName
    return result.map Action.ofDelay

end ReleaseBuilds.Cycle
