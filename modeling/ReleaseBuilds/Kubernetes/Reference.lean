import ReleaseBuilds.Kubernetes.Metadata

/-!
# References to resources

A reference names the resource that an event is about. All of its members may be missing.
-/

namespace ReleaseBuilds.Kubernetes

structure Reference where
  apiVersion : Option String := none
  fieldPath : Option String := none
  kind : Option String := none
  name : Option String := none
  ns : Option String := none
  resourceVersion : Option String := none
  uid : Option String := none
deriving DecidableEq, Repr

namespace Reference

/-- The reference to a resource of a kind with the given metadata. -/
def of (k : Kind) (m : Metadata) : Reference :=
  { apiVersion := some k.apiVersion, kind := some k.kind, name := m.name, ns := m.ns, uid := m.uid }

/-- The form of a reference that is only carried along. -/
def shape : Shape := .object (
  ["apiVersion", "fieldPath", "kind", "name", "namespace", "resourceVersion", "uid"].map
    fun member => (member, .optional, .text))

def ofJson? (j : Json) : Option Reference := do
  let values ← Shape.valuesOf? false [] j
  let member := fun name => Metadata.last? Json.asText? (values name)
  return {
    apiVersion := ← member "apiVersion"
    fieldPath := ← member "fieldPath"
    kind := ← member "kind"
    name := ← member "name"
    ns := ← member "namespace"
    resourceVersion := ← member "resourceVersion"
    uid := ← member "uid" }

def toJson (r : Reference) : Json :=
  Json.ofMembers [
    Json.whenPresent "apiVersion" .text r.apiVersion,
    Json.whenPresent "fieldPath" .text r.fieldPath,
    Json.whenPresent "kind" .text r.kind,
    Json.whenPresent "name" .text r.name,
    Json.whenPresent "namespace" .text r.ns,
    Json.whenPresent "resourceVersion" .text r.resourceVersion,
    Json.whenPresent "uid" .text r.uid]

end Reference

end ReleaseBuilds.Kubernetes
