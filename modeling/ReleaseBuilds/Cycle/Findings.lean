import ReleaseBuilds.Github.Release
import ReleaseBuilds.Github.Error

/-!
# Findings about releases

A release together with the artifacts that were found for it, and how the status of a repository
takes the findings up: each kind of artifact that is looked after is flagged as lacking or not.
-/

namespace ReleaseBuilds

/-- What was found for a release. -/
structure Finding where
  release : Release
  assets : List Asset := []
  packages : List Package := []
deriving DecidableEq, Repr

namespace Finding

def tag (f : Finding) : String := f.release.tag

/-- An artifact of the kind was found. -/
def has (f : Finding) : ArtifactType → Bool
  | .assets => !f.assets.isEmpty
  | .container => !f.packages.isEmpty

/-- The flags of the kinds that are looked after. -/
def flags (f : Finding) (spec : Repository.Spec) : PerArtifact Bool :=
  .ofFn fun t => if spec.isConfigured t then some (!f.has t) else none

/-- Some kind that is looked after was not found. -/
def lacks (f : Finding) (spec : Repository.Spec) : Bool :=
  ArtifactType.all.any fun t => spec.isConfigured t && !f.has t

end Finding

namespace Repository

/-- The status with the flags of all findings; of several findings with one tag the last counts. -/
def Status.takeUp (s : Status) (spec : Spec) (findings : List Finding) : Status :=
  findings.foldl (fun s f => s.updateRelease f.tag fun r => { r with missing := f.flags spec }) s

/-- The tags of the findings that lack something, in order. -/
def lackingTags (spec : Spec) (findings : List Finding) : List String :=
  (findings.filter fun f => f.lacks spec).map Finding.tag

end Repository

end ReleaseBuilds
