import ReleaseBuilds.Repository.Artifact
import ReleaseBuilds.Data.TextMap
import ReleaseBuilds.Time.Rfc3339

/-!
# What is known about a repository

The status of a repository remembers, for every release seen, which artifacts it lacks and which
runs were created for them, and carries the conditions of the last cycle. Edits are said
pointwise: each changes the entry it names and nothing else.
-/

namespace ReleaseBuilds.Repository

/-- How often a run was created, counted up to the largest number of 32 bits. -/
structure RunCount where
  toNat : Nat
  toNat_lt : toNat < UInt32.size
deriving DecidableEq, Repr

namespace RunCount

def zero : RunCount := ⟨0, by decide⟩

/-- One more, unless the largest count is reached. -/
def next (n : RunCount) : RunCount :=
  if h : n.toNat + 1 < UInt32.size then ⟨n.toNat + 1, h⟩ else n

theorem toNat_next (n : RunCount) : n.next.toNat = min (n.toNat + 1) (UInt32.size - 1) := by
  have := n.toNat_lt
  unfold next
  split
  · show n.toNat + 1 = min (n.toNat + 1) (UInt32.size - 1)
    omega
  · show n.toNat = min (n.toNat + 1) (UInt32.size - 1)
    omega

end RunCount

/-- The latest run for a release and a kind of artifact. -/
structure RunRecord where
  name : String
  /-- When the run was created. -/
  timestamp : Instant
  /-- How many runs were created for the pair, this one included. -/
  runsCreated : RunCount
deriving DecidableEq, Repr

/-- What is known about one release. -/
structure ReleaseStatus where
  /-- Whether an artifact is lacking, for each kind that was looked up. -/
  missing : PerArtifact Bool := {}
  /-- The latest runs; absent rather than empty. -/
  runs : Option (PerArtifact RunRecord) := none
deriving DecidableEq, Repr

namespace ReleaseStatus

/-- Every configured kind was looked up and found. -/
def isSatisfied (r : ReleaseStatus) (configured : PerArtifact String) : Bool :=
  ArtifactType.all.all fun t => !configured.contains t || r.missing.get? t == some false

/-- The kind was looked up and not found. -/
def isMissing (r : ReleaseStatus) (t : ArtifactType) : Bool := (r.missing.get? t).getD false

def run? (r : ReleaseStatus) (t : ArtifactType) : Option RunRecord := r.runs.bind (·.get? t)

/-- A run was created: it replaces the record of the kind and adds one to its count. -/
def recordRun (r : ReleaseStatus) (t : ArtifactType) (name : String) (timestamp : Instant) :
    ReleaseStatus :=
  let count := ((r.run? t).map (·.runsCreated)).getD .zero
  { r with runs := some ((r.runs.getD {}).insert t { name, timestamp, runsCreated := count.next }) }

/-- The runs without that of a kind; absent once none is left. -/
def removeRun (r : ReleaseStatus) (t : ArtifactType) : ReleaseStatus :=
  { r with
    runs := r.runs.bind fun runs => if (runs.erase t).isEmpty then none else some (runs.erase t) }

def setMissing (r : ReleaseStatus) (t : ArtifactType) (isMissing : Bool) : ReleaseStatus :=
  { r with missing := r.missing.insert t isMissing }

end ReleaseStatus

/-- One observation about a repository, as it is shown to its owner. -/
structure Condition where
  kind : String
  status : String
  lastTransition : Option String := none
  reason : Option String := none
  message : Option String := none
deriving DecidableEq, Repr

namespace Condition

/-- An observation that was made just now. -/
def observed (now : Instant) (kind : String) (holds : Bool) (reason message : String) : Condition :=
  { kind
    status := if holds then "True" else "False"
    lastTransition := some now.toOffsetText
    reason := some reason
    message := some message }

def isTrue (c : Condition) : Bool := c.status == "True"

end Condition

structure Status where
  /-- The last cycle accounted for every release. -/
  ready : Bool := false
  lastCheck : Option Instant := none
  conditions : List Condition := []
  /-- What is known about each release, by tag. -/
  releases : TextMap ReleaseStatus := .empty
deriving DecidableEq

namespace Status

instance : Inhabited Status := ⟨{}⟩

/-- The first condition of the same kind replaced, or a new one at the end. -/
def upsert (c : Condition) : List Condition → List Condition
  | [] => [c]
  | d :: rest => if d.kind == c.kind then c :: rest else d :: upsert c rest

def setCondition (s : Status) (c : Condition) : Status :=
  { s with conditions := upsert c s.conditions }

def condition? (s : Status) (kind : String) : Option Condition :=
  s.conditions.find? fun c => c.kind == kind

/-- The tags of releases that lack none of the configured kinds. -/
def satisfiedTags (s : Status) (configured : PerArtifact String) : List String :=
  (s.releases.filter fun _ r => r.isSatisfied configured).keys

/-- What is known about a release; nothing yet if it is new. -/
def release (s : Status) (tag : String) : ReleaseStatus := (s.releases.get? tag).getD {}

/-- The entry of a release changed, and made if there was none. -/
def updateRelease (s : Status) (tag : String) (f : ReleaseStatus → ReleaseStatus) : Status :=
  { s with releases := s.releases.insert tag (f (s.release tag)) }

/-- The record of the latest run for a release and a kind. -/
def run? (s : Status) (tag : String) (t : ArtifactType) : Option RunRecord := (s.release tag).run? t

def recordRun (s : Status) (tag : String) (t : ArtifactType) (name : String)
    (timestamp : Instant) : Status :=
  s.updateRelease tag fun r => r.recordRun t name timestamp

/-- The record of a run dropped. A release that is not known stays unknown. -/
def removeRun (s : Status) (tag : String) (t : ArtifactType) : Status :=
  if s.releases.contains tag then s.updateRelease tag fun r => r.removeRun t else s

end Status

end ReleaseBuilds.Repository
