import ReleaseBuilds.Repository.Artifact
import ReleaseBuilds.Data.TextMap
import ReleaseBuilds.Version.Filter

/-!
# What a repository asks for

The part of a repository that its owner writes: where the source lies, which pipeline builds which
kind of artifact, and which releases are left out.
-/

namespace ReleaseBuilds.Repository

structure Spec where
  owner : String
  repo : String
  /-- The pipeline for each kind of artifact. A kind without one is not looked after. -/
  pipelines : PerArtifact String := {}
  /-- Releases that once had all their artifacts are not looked at again. -/
  memorizeReleases : Bool := true
  filter : Option FilterSpec := none
  /-- Tags that are never built. -/
  omitted : List String := []
  /-- The settings of each workspace of a run. -/
  workspaces : TextMap (TextMap String) := .empty
  cloneUsingSsh : Bool := false
  /-- The stem for the names of runs, if the usual one is not wanted. -/
  runName : Option String := none
deriving DecidableEq

namespace Spec

/-- The kind of artifact is looked after. -/
def isConfigured (spec : Spec) (t : ArtifactType) : Bool := spec.pipelines.contains t

/-- The address from which the pipelines clone the source. -/
def cloneUrl (spec : Spec) : String :=
  if spec.cloneUsingSsh then "git@github.com:" ++ spec.owner ++ "/" ++ spec.repo ++ ".git"
  else "https://github.com/" ++ spec.owner ++ "/" ++ spec.repo ++ ".git"

end Spec

end ReleaseBuilds.Repository
