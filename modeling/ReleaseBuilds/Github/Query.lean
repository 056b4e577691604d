import ReleaseBuilds.Github.Release

/-!
# Questions to GitHub

What is asked about the releases of a repository and about the artifacts of one release.
-/

namespace ReleaseBuilds

structure ReleaseQuery where
  owner : String
  repo : String
  /-- The start of the check before this one. -/
  since : Option Instant := none
  /-- Tags that are left out of the answer, in ascending order. -/
  ignored : List String := []
deriving DecidableEq, Repr

structure ArtifactQuery where
  owner : String
  repo : String
  release : Release
deriving DecidableEq, Repr

end ReleaseBuilds
