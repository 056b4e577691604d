import ReleaseBuilds.Cycle.Call
import ReleaseBuilds.Cycle.Observation
import ReleaseBuilds.Cycle.Setting

/-!
# Discovering releases

Which releases a cycle looks at: those that GitHub names, without the tags that are memorized as
complete, narrowed down by the filter and the deny list of the repository. A failure to fetch them
ends the cycle with a delay.
-/

namespace ReleaseBuilds.Cycle

/-- The tags of which the artifacts are known to be complete, if the repository memorizes them. -/
def memorizedTags (spec : Repository.Spec) (s : Repository.Status) : List String :=
  if spec.memorizeReleases then s.satisfiedTags spec.pipelines else []

/-- The releases to look at. -/
def releaseQuery (subject : Subject) (s : Repository.Status) : ReleaseQuery :=
  { owner := subject.spec.owner
    repo := subject.spec.repo
    since := subject.since
    ignored := memorizedTags subject.spec s }

/-- What is observed, told and done when the releases could not be fetched. -/
def releasesFailure (c : Controller) (m : Moment) (e : GithubError) :
    Observation × Notice × Delay :=
  match e.quota? with
  | some quota =>
    (.releasesNotFetched true, .releasesQuota, c.quotaDelay m quota Controller.releasesMinutes)
  | none => (.releasesNotFetched false, .releasesFailed, c.regularDelay m)

/-- The releases fetched, or the delay after which they are fetched again. -/
def discover (c : Controller) (m : Moment) (subject : Subject) (s : Repository.Status) :
    Talk (Except Delay (List Release) × Repository.Status) := do
  match ← fetchReleases (releaseQuery subject s) m.cancelled with
  | .ok releases => return (.ok releases, s)
  | .error e =>
    let (observation, notice, delay) := releasesFailure c m e
    publish subject.reference notice
    return (.error delay, s.setCondition (observation.condition m.now))

/-- The filter of a repository. One that cannot be built is replaced by one that keeps nothing. -/
def builtFilter (spec : Repository.Spec) : Option Filter × Option FilterError :=
  match spec.filter.map Filter.ofSpec with
  | none => (none, none)
  | some (.ok f) => (some f, none)
  | some (.error e) => (some .nothing, some e)

/-- The releases that pass the filter and the deny list. -/
def keptReleases (spec : Repository.Spec) (releases : List Release) : List Release :=
  (Filter.apply (builtFilter spec).1 spec.omitted Release.tag releases).1

/-- What is told about the filter and its effect. -/
def filterNotices (spec : Repository.Spec) (releases : List Release) : List Notice :=
  let kept := (keptReleases spec releases).length
  (builtFilter spec).2.toList.map .filterInvalid ++
    if kept == releases.length then []
    else [.releasesFiltered releases.length (releases.length - kept)]

/-- The releases that are kept, with an observation if the filter is invalid. -/
def narrow (m : Moment) (subject : Subject) (s : Repository.Status) (releases : List Release) :
    Talk (List Release × Repository.Status) := do
  publishAll subject.reference (filterNotices subject.spec releases)
  let s := (builtFilter subject.spec).2.elim s fun e =>
    s.setCondition ((Observation.filterInvalid e).condition m.now)
  return (keptReleases subject.spec releases, s)

end ReleaseBuilds.Cycle
