import ReleaseBuilds.Cycle.Call
import ReleaseBuilds.Cycle.Observation
import ReleaseBuilds.Cycle.Setting
import ReleaseBuilds.TaskGroup

/-!
# Looking up artifacts

The two kinds of artifacts of a release are looked up side by side in a group that stops at the
first failure. Either lookup may be the first to end, and each stands in the dialogue where it ends,
with the token as it is then: so one that fails cancels the other, whichever it is. A release with a
failed lookup is dropped and its error reported. Only kinds that are looked after are looked up.
-/

namespace ReleaseBuilds.Cycle

/-- The lookup of one kind of artifact as a member of a group. A kind that is not looked after is
found to have no artifact without any question. -/
def lookUpKind {α : Type} (spec : Repository.Spec) (t : ArtifactType)
    (fetch : Bool → Talk (Except GithubError (List α))) (group : TaskGroup GithubError) :
    Talk (List α × TaskGroup GithubError) :=
  if spec.isConfigured t then do
    let answer ← fetch group.isCancelled
    let (found, group) := group.finishMember answer
    return (found.getD [], group)
  else return ([], group)

/-- The lookups of both kinds, of which that of the kind `first` ends first. -/
def sideBySide {α β : Type} (first : ArtifactType)
    (assets : TaskGroup GithubError → Talk (α × TaskGroup GithubError))
    (packages : TaskGroup GithubError → Talk (β × TaskGroup GithubError))
    (group : TaskGroup GithubError) : Talk (α × β × TaskGroup GithubError) :=
  match first with
  | .assets => do
    let (ofAssets, group) ← assets group
    let (ofPackages, group) ← packages group
    return (ofAssets, ofPackages, group)
  | .container => do
    let (ofPackages, group) ← packages group
    let (ofAssets, group) ← assets group
    return (ofAssets, ofPackages, group)

/-- The artifacts of one release, of which the lookup of the kind `first` ends first. -/
def lookUp (m : Moment) (spec : Repository.Spec) (first : ArtifactType) (release : Release) :
    Talk Lookup := do
  let query : ArtifactQuery := { owner := spec.owner, repo := spec.repo, release }
  let (assets, packages, group) ← sideBySide first (lookUpKind spec .assets (fetchAssets query))
    (lookUpKind spec .container (fetchPackages query)) (.start m.cancelled)
  return group.finish.map fun () => { release, assets, packages }

/-- The outcomes for all releases, in the order in which they arrive. -/
def lookUpAll (m : Moment) (spec : Repository.Spec) (releases : List Release) :
    Talk (List Lookup) := do
  let outcomes ← Dialogue.forList (fun (release, place) => lookUp m spec (m.arrival.first place)
    release) releases.zipIdx
  return m.arrival.order outcomes

def isUnauthorized : GithubError → Bool
  | .unauthorized => true
  | _ => false

/-- What is told about lookups that failed. -/
def lookupNotices (errors : List GithubError) : List Notice :=
  (if errors.any isUnauthorized then [.packagesUnauthorized] else []) ++
    (if errors.any fun e => e.quota?.isSome then [.artifactsQuota] else []) ++
    if errors.any fun e => !isUnauthorized e && e.quota?.isNone then [.artifactsFailed] else []

/-- The delay that the first exhausted quota asks for. -/
def lookupDelay (c : Controller) (m : Moment) (errors : List GithubError) : Option Delay :=
  (errors.findSome? GithubError.quota?).map fun quota =>
    c.quotaDelay m quota Controller.artifactsMinutes

/-- Failed lookups are observed and told. -/
def reportLookups (m : Moment) (subject : Subject) (s : Repository.Status)
    (errors : List GithubError) : Talk Repository.Status :=
  if errors.isEmpty then return s
  else do
    publishAll subject.reference (lookupNotices errors)
    return s.setCondition (Observation.artifactsNotFetched.condition m.now)

end ReleaseBuilds.Cycle
