/-!
# Kinds of artifacts

A release is expected to carry files and a container image. What is known per kind, such as the
name of a pipeline or the record of a run, is held in a finite map over the two kinds.
-/

namespace ReleaseBuilds

inductive ArtifactType where
  /-- Files attached to the release. -/
  | assets
  /-- The image in the container registry. -/
  | container
deriving DecidableEq, Repr

namespace ArtifactType

/-- Both kinds, in the order in which they are handled. -/
def all : List ArtifactType := [.assets, .container]

def text : ArtifactType → String
  | .assets => "assets"
  | .container => "container"

def ofText? : String → Option ArtifactType
  | "assets" => some .assets
  | "container" => some .container
  | _ => none

end ArtifactType

/-- At most one value for each kind of artifact. -/
structure PerArtifact (α : Type) where
  assets : Option α := none
  container : Option α := none
deriving DecidableEq, Repr

namespace PerArtifact

variable {α β : Type}

def empty : PerArtifact α := {}

instance : Inhabited (PerArtifact α) := ⟨empty⟩

def get? (m : PerArtifact α) : ArtifactType → Option α
  | .assets => m.assets
  | .container => m.container

def contains (m : PerArtifact α) (t : ArtifactType) : Bool := (m.get? t).isSome

/-- The map with the value for one kind replaced or removed. -/
def set (m : PerArtifact α) (t : ArtifactType) (value : Option α) : PerArtifact α :=
  match t with
  | .assets => { m with assets := value }
  | .container => { m with container := value }

def insert (m : PerArtifact α) (t : ArtifactType) (value : α) : PerArtifact α :=
  m.set t (some value)

def erase (m : PerArtifact α) (t : ArtifactType) : PerArtifact α := m.set t none

def isEmpty (m : PerArtifact α) : Bool := m.assets.isNone && m.container.isNone

/-- The entries in the order of the kinds. -/
def toList (m : PerArtifact α) : List (ArtifactType × α) :=
  ArtifactType.all.filterMap fun t => (m.get? t).map fun value => (t, value)

def values (m : PerArtifact α) : List α := m.toList.map Prod.snd

/-- The map with a value for each kind for which `f` gives one. -/
def ofFn (f : ArtifactType → Option α) : PerArtifact α := ⟨f .assets, f .container⟩

theorem get?_set (m : PerArtifact α) (t u : ArtifactType) (value : Option α) :
    (m.set t value).get? u = if u = t then value else m.get? u := by
  cases t <;> cases u <;> rfl

@[simp] theorem get?_ofFn (f : ArtifactType → Option α) (t : ArtifactType) :
    (ofFn f).get? t = f t := by
  cases t <;> rfl

@[simp] theorem get?_empty (t : ArtifactType) : (empty : PerArtifact α).get? t = none := by
  cases t <;> rfl

/-- Maps with the same values are equal. -/
theorem ext_get? {m n : PerArtifact α} (h : ∀ t, m.get? t = n.get? t) : m = n := by
  cases m
  cases n
  simp only [mk.injEq]
  exact ⟨h .assets, h .container⟩

end PerArtifact

end ReleaseBuilds
