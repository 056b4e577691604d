import ReleaseBuilds.Cycle.Notice
import ReleaseBuilds.Kubernetes.Api
import ReleaseBuilds.Kubernetes.Reference
import ReleaseBuilds.Time.Rfc3339

/-!
# Events in a cluster

Notices are published as events. An event that repeats an earlier one is not written anew: the
earlier one is turned into a series that counts. A failure to publish is dropped, and a series
only grows by what was published.
-/

namespace ReleaseBuilds.Cluster

open Kubernetes (Kind Reference Shape Metadata Api.create Api.patch Api.Talk)

/-- Who reports events. -/
def reporter : String := "repository-controller"

def action : String := "Reconcile"

/-- What is told about a resource, under a reason. -/
structure Message where
  severity : Severity
  reason : String
  note : String
deriving DecidableEq, Repr

def Message.ofNotice (n : Notice) : Message := ⟨n.severity, n.reason, n.note⟩

/-- When an event happened, and a mark that tells it from other events about the same resource. -/
structure Stamp where
  mark : String
  time : Instant
deriving DecidableEq, Repr

/-- An event as it was written first, with its later repetitions. -/
structure Event where
  target : Reference
  message : Message
  first : Stamp
  /-- How often it was published and when last, once it was repeated. -/
  series : Option (Nat × Instant) := none
deriving DecidableEq, Repr

namespace Event

def kind : Kind := ⟨"events.k8s.io/v1", "Event", "events"⟩

/-- The same observation about the same resource; the note does not count. -/
def isAbout (e : Event) (target : Reference) (m : Message) : Bool :=
  e.message.severity == m.severity && e.message.reason == m.reason && e.target == target

/-- One more publication. -/
def again (e : Event) (now : Instant) : Event :=
  { e with series := some (e.series.elim 2 fun s => s.1 + 1, now) }

def name (e : Event) : String := e.target.name.getD reporter ++ "." ++ e.first.mark

/-- The namespace in which an event is kept. -/
def ns (e : Event) : String := e.target.ns.getD "default"

def toJson (e : Event) : Json :=
  let series := fun (s : Nat × Instant) =>
    Json.object [("count", .ofNat s.1), ("lastObservedTime", .text s.2.toMicrosText)]
  Json.ofMembers (kind.members ++ [
    Json.always "action" (.text action),
    Json.always "eventTime" (.text e.first.time.toMicrosText),
    Json.always "metadata"
      (Metadata.toJson { name := some e.name, ns := e.target.ns }),
    Json.always "note" (.text e.message.note),
    Json.always "reason" (.text e.message.reason),
    Json.always "regarding" e.target.toJson,
    Json.always "reportingController" (.text reporter),
    Json.always "reportingInstance" (.text reporter),
    Json.whenPresent "series" series e.series,
    Json.always "type" (.text e.message.severity.text)])

/-- The form of an event in an answer. -/
def shape : Shape := .object [
  ("action", .optional, .text),
  ("apiVersion", .constant kind.apiVersion, .text),
  ("deprecatedCount", .optional, .int32),
  ("deprecatedFirstTimestamp", .optional, .time),
  ("deprecatedLastTimestamp", .optional, .time),
  ("deprecatedSource", .optional, .object [
    ("component", .optional, .text),
    ("host", .optional, .text)]),
  ("eventTime", .optional, .time),
  ("kind", .constant kind.kind, .text),
  ("metadata", .orElse (.object []), Metadata.shape),
  ("note", .optional, .text),
  ("reason", .optional, .text),
  ("regarding", .optional, Reference.shape),
  ("related", .optional, Reference.shape),
  ("reportingController", .optional, .text),
  ("reportingInstance", .optional, .text),
  ("series", .optional, .object [
    ("count", .orElse (.ofNat 0), .int32),
    ("lastObservedTime", .required, .time)]),
  ("type", .optional, .text)]

end Event

/-- The events that were published. -/
structure Recorder where
  published : List Event := []
deriving DecidableEq, Repr

namespace Recorder

/-- The event by which a message is published: the repetition of an earlier one, or a new one. -/
def next (r : Recorder) (target : Reference) (m : Message) (stamp : Stamp) : Event :=
  match r.published.find? fun e => e.isAbout target m with
  | some e => e.again stamp.time
  | none => { target, message := m, first := stamp }

/-- An event takes the place of the one that it repeats. -/
def record (r : Recorder) (e : Event) : Recorder :=
  { published := e :: r.published.filter fun old => !old.isAbout e.target e.message }

/-- A message about a resource is published. -/
def publish (r : Recorder) (target : Reference) (m : Message) (stamp : Stamp) :
    Api.Talk Recorder := do
  let e := r.next target m stamp
  let read := Event.shape.normalise? 0
  let answer ←
    if e.series.isSome then
      Api.patch Event.kind e.ns e.name "?" "application/merge-patch+json" e.toJson read
    else Api.create Event.kind e.ns e.toJson read
  match answer with
  | .ok _ => return r.record e
  | .error _ => return r

end Recorder

end ReleaseBuilds.Cluster
