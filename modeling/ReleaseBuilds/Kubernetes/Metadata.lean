import ReleaseBuilds.Kubernetes.Shape

/-!
# Metadata of resources

What every resource in a cluster carries: names, the instant of its creation, and members that are
kept but not looked at. Every member may be missing or `null`.
-/

namespace ReleaseBuilds.Kubernetes

structure Metadata where
  name : Option String := none
  generateName : Option String := none
  ns : Option String := none
  uid : Option String := none
  creationTime : Option Instant := none
  /-- The members that are only carried along, in normal form. -/
  others : List (String × Json) := []
deriving BEq, Repr

namespace Metadata

/-- The reference to a resource on which another one depends. -/
def ownerShape : Shape := .object [
  ("apiVersion", .orEmpty, .text),
  ("blockOwnerDeletion", .optional, .bool),
  ("controller", .optional, .bool),
  ("kind", .orEmpty, .text),
  ("name", .orEmpty, .text),
  ("uid", .orEmpty, .text)]

/-- The account of who manages which fields. -/
def managerShape : Shape := .object [
  ("apiVersion", .optional, .text),
  ("fieldsType", .optional, .text),
  ("fieldsV1", .optional, .anything),
  ("manager", .optional, .text),
  ("operation", .optional, .text),
  ("subresource", .optional, .text),
  ("time", .optional, .time)]

/-- The members that are only carried along. -/
def carried : List (String × Presence × Shape) := [
  ("annotations", .optional, .map .text),
  ("deletionGracePeriodSeconds", .optional, .int64),
  ("deletionTimestamp", .optional, .time),
  ("finalizers", .optional, .list .text),
  ("generation", .optional, .int64),
  ("labels", .optional, .map .text),
  ("managedFields", .optional, .list managerShape),
  ("ownerReferences", .optional, .list ownerShape),
  ("resourceVersion", .optional, .text),
  ("selfLink", .optional, .text)]

/-- Metadata of a resource that is itself only carried along. -/
def shape : Shape := .object (carried ++ [
  ("name", .optional, .text),
  ("generateName", .optional, .text),
  ("namespace", .optional, .text),
  ("uid", .optional, .text),
  ("creationTimestamp", .optional, .time)])

/-- An instant, of which only the whole second is kept. -/
def readTime? (j : Json) : Option Instant :=
  (j.asText?.bind Instant.ofText?).map Instant.wholeSecond

/-- The last of the values given for a member; each of them must be readable or `null`. -/
def last? {α : Type} (read : Json → Option α) (values : List Json) : Option (Option α) :=
  (Json.readAll? (Json.asOption? read) values).map fun vs => vs.getLast?.join

/-- Metadata from the object that stands directly inside a resource. -/
def ofJson? (j : Json) : Option Metadata := do
  let values ← Shape.valuesOf? false [] j
  let others ← Shape.normaliseFields? carried 2 values
  return {
    name := ← last? Json.asText? (values "name")
    generateName := ← last? Json.asText? (values "generateName")
    ns := ← last? Json.asText? (values "namespace")
    uid := ← last? Json.asText? (values "uid")
    creationTime := ← last? readTime? (values "creationTimestamp")
    others }

def toJson (m : Metadata) : Json :=
  let named := [
    Json.whenPresent "name" .text m.name,
    Json.whenPresent "generateName" .text m.generateName,
    Json.whenPresent "namespace" .text m.ns,
    Json.whenPresent "uid" .text m.uid,
    Json.whenPresent "creationTimestamp" (fun t => .text t.toSecondsText) m.creationTime]
  .object (named.filterMap id ++ m.others)

/-- The name by which a resource is called: its own, else the stem of a generated one. -/
def callName (m : Metadata) : String := (m.name <|> m.generateName).getD ""

/-- The instant of creation, if its year has at most four digits and is not negative. -/
def created? (m : Metadata) : Option Instant :=
  m.creationTime.filter fun t => 0 ≤ t.date.year && t.date.year ≤ 9999

end Metadata

/-- A kind of resource: its group and version, its name, and the name of its collections. -/
structure Kind where
  apiVersion : String
  kind : String
  plural : String
deriving DecidableEq, Repr

/-- The members in front of those that make up a resource of a kind. -/
def Kind.members (k : Kind) : List (Option (String × Json)) :=
  [Json.always "apiVersion" (.text k.apiVersion), Json.always "kind" (.text k.kind)]

end ReleaseBuilds.Kubernetes
