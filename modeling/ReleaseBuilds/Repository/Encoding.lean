import ReleaseBuilds.Repository.Spec
import ReleaseBuilds.Repository.Status
import ReleaseBuilds.Kubernetes.Metadata

/-!
# Repositories as resources

A repository with its metadata, and the written form of its spec and its status. Reading accepts
what writing produces: every value that can be written is read back as it was.
-/

namespace ReleaseBuilds

open Json (record? always whenPresent ofMembers)

/-- An instant from its text. -/
def Instant.ofJson? (j : Json) : Option Instant := j.asText?.bind Instant.ofText?

def Instant.toJson (t : Instant) : Json := .text t.toText

namespace PerArtifact

variable {α : Type}

/-- An object whose members are named for kinds of artifacts; the last of equal ones counts. -/
def ofJson? (read : Json → Option α) : Json → Option (PerArtifact α)
  | .object members => do
    let entries ← Json.readEntries? read members
    let typed ← entries.mapM fun e => (ArtifactType.ofText? e.1).map fun t => (t, e.2)
    return typed.foldl (fun m e => m.insert e.1 e.2) {}
  | _ => none

def toJson (encode : α → Json) (m : PerArtifact α) : Json :=
  .object (m.toList.map fun e => (e.1.text, encode e.2))

end PerArtifact

namespace FilterSpec

def ofJson? (j : Json) : Option FilterSpec := do
  let fields ← j.record? ["impl", "arg"]
  return {
    kind := ← (fields "impl").required Json.asText?
    argument := ← (fields "arg").orElse "" Json.asText? }

def toJson (f : FilterSpec) : Json := .object [("impl", .text f.kind), ("arg", .text f.argument)]

end FilterSpec

namespace Repository

namespace Spec

def ofJson? (j : Json) : Option Spec := do
  let fields ← j.record? ["owner", "repo", "pipelineNames", "memorizeReleases", "versionFilter",
    "omitVersions", "workspaces", "cloneUsingSsh", "pipelineRunName"]
  return {
    owner := ← (fields "owner").required Json.asText?
    repo := ← (fields "repo").required Json.asText?
    pipelines := ← (fields "pipelineNames").orElse {} (PerArtifact.ofJson? Json.asText?)
    memorizeReleases := ← (fields "memorizeReleases").orElse true Json.asBool?
    filter := ← (fields "versionFilter").optional FilterSpec.ofJson?
    omitted := ← (fields "omitVersions").orElse [] (Json.asList? Json.asText?)
    workspaces := ← (fields "workspaces").orElse .empty (Json.asMap? (Json.asMap? Json.asText?))
    cloneUsingSsh := ← (fields "cloneUsingSsh").orElse false Json.asBool?
    runName := ← (fields "pipelineRunName").optional Json.asText? }

def toJson (spec : Spec) : Json :=
  ofMembers [
    always "owner" (.text spec.owner),
    always "repo" (.text spec.repo),
    always "pipelineNames" (spec.pipelines.toJson .text),
    always "memorizeReleases" (.bool spec.memorizeReleases),
    whenPresent "versionFilter" FilterSpec.toJson spec.filter,
    if spec.omitted.isEmpty then none else always "omitVersions" (Json.ofList .text spec.omitted),
    always "workspaces" (Json.ofMap (Json.ofMap .text) spec.workspaces),
    always "cloneUsingSsh" (.bool spec.cloneUsingSsh),
    whenPresent "pipelineRunName" .text spec.runName]

end Spec

namespace RunRecord

def ofJson? (j : Json) : Option RunRecord := do
  let fields ← j.record? ["name", "timestamp", "runsCreated"]
  let count ← (fields "runsCreated").orElse 0 (Json.asNat? UInt32.size)
  if h : count < UInt32.size then
    return {
      name := ← (fields "name").required Json.asText?
      timestamp := ← (fields "timestamp").required Instant.ofJson?
      runsCreated := ⟨count, h⟩ }
  else none

def toJson (r : RunRecord) : Json :=
  .object [("name", .text r.name), ("timestamp", r.timestamp.toJson),
    ("runsCreated", .ofNat r.runsCreated.toNat)]

end RunRecord

namespace ReleaseStatus

def ofJson? (j : Json) : Option ReleaseStatus := do
  let fields ← j.record? ["missingArtifacts", "pipelineRuns"]
  return {
    missing := ← (fields "missingArtifacts").orElse {} (PerArtifact.ofJson? Json.asBool?)
    runs := ← (fields "pipelineRuns").optional (PerArtifact.ofJson? RunRecord.ofJson?) }

def toJson (r : ReleaseStatus) : Json :=
  ofMembers [
    always "missingArtifacts" (r.missing.toJson .bool),
    whenPresent "pipelineRuns" (PerArtifact.toJson RunRecord.toJson) r.runs]

end ReleaseStatus

namespace Condition

def ofJson? (j : Json) : Option Condition := do
  let fields ← j.record? ["type", "status", "lastTransitionTime", "reason", "message"]
  return {
    kind := ← (fields "type").required Json.asText?
    status := ← (fields "status").required Json.asText?
    lastTransition := ← (fields "lastTransitionTime").optional Json.asText?
    reason := ← (fields "reason").optional Json.asText?
    message := ← (fields "message").optional Json.asText? }

def toJson (c : Condition) : Json :=
  .object [("type", .text c.kind), ("status", .text c.status),
    ("lastTransitionTime", .ofOption .text c.lastTransition),
    ("reason", .ofOption .text c.reason), ("message", .ofOption .text c.message)]

end Condition

namespace Status

def ofJson? (j : Json) : Option Status := do
  let fields ← j.record? ["ready", "lastCheck", "conditions", "releases"]
  return {
    ready := ← (fields "ready").orElse false Json.asBool?
    lastCheck := ← (fields "lastCheck").optional Instant.ofJson?
    conditions := ← (fields "conditions").orElse [] (Json.asList? Condition.ofJson?)
    releases := ← (fields "releases").orElse .empty (Json.asMap? ReleaseStatus.ofJson?) }

def toJson (s : Status) : Json :=
  ofMembers [
    always "ready" (.bool s.ready),
    whenPresent "lastCheck" Instant.toJson s.lastCheck,
    always "conditions" (Json.ofList Condition.toJson s.conditions),
    always "releases" (Json.ofMap ReleaseStatus.toJson s.releases)]

end Status

/-- The kind of resource that describes a repository. -/
def kind : Kubernetes.Kind :=
  ⟨"release-builds.microscaler.io/v1alpha1", "Repository", "repositories"⟩

end Repository

/-- A repository as the cluster holds it. -/
structure Repository where
  metadata : Kubernetes.Metadata
  spec : Repository.Spec
  status : Option Repository.Status := none

namespace Repository

def ofJson? (j : Json) : Option Repository := do
  let fields ← j.record? ["metadata", "spec", "status"]
  return {
    metadata := ← (fields "metadata").required Kubernetes.Metadata.ofJson?
    spec := ← (fields "spec").required Spec.ofJson?
    status := ← (fields "status").optionalMember Status.ofJson? }

def toJson (r : Repository) : Json :=
  ofMembers (kind.members ++ [
    always "metadata" r.metadata.toJson,
    always "spec" r.spec.toJson,
    whenPresent "status" Status.toJson r.status])

end Repository

end ReleaseBuilds
