import ReleaseBuilds.Kubernetes.Definition
import ReleaseBuilds.Repository.Encoding

/-!
# The definition of repositories

The kind of resource that describes a repository, as it is made known to a cluster. The schema
names the fields that are read, and gives the defaults that count for missing ones.
-/

namespace ReleaseBuilds.Repository

open Kubernetes (Column Definition Schema)

/-- A text of several lines. -/
def paragraph (lines : List String) : String := "\n".intercalate lines

/-- What the owner of a repository is told about its spec. -/
def specText : String := paragraph [
  "Repository Custom Resource Definition",
  "",
  "Declares a GitHub repository whose releases should be turned into build",
  "artifacts by Tekton pipelines.",
  "",
  "# Example",
  "",
  "```yaml",
  "apiVersion: release-builds.microscaler.io/v1alpha1",
  "kind: Repository",
  "metadata:",
  "  name: my-service",
  "  namespace: builds",
  "spec:",
  "  owner: microscaler",
  "  repo: my-service",
  "  pipelineNames:",
  "    assets: build-release-assets",
  "    container: build-container-image",
  "  versionFilter:",
  "    impl: semver",
  "    arg: \">= 1.0.0\"",
  "  workspaces:",
  "    source:",
  "      type: volume",
  "      storageClassName: standard",
  "    ssh-creds:",
  "      type: secret",
  "      secretName: github-deploy-key",
  "  cloneUsingSsh: true",
  "```"]

def filterSchema : Schema :=
  .record ["impl"] [
    ("impl", Schema.text.describe "Filter implementation, currently only `semver`"),
    ("arg", (Schema.text.orElse (.text "")).describe
      "Implementation specific argument, a version requirement for `semver`")]

def specSchema : Schema :=
  .describe specText (.record ["owner", "repo"] [
    ("owner", Schema.text.describe "GitHub user or organisation owning the repository"),
    ("repo", Schema.text.describe "Repository name"),
    ("pipelineNames", ((Schema.map .text).orElse (.object [])).describe (paragraph [
      "Tekton pipeline to run for each artifact type",
      "Artifact types without an entry are not tracked"])),
    ("memorizeReleases", (Schema.bool.orElse (.bool true)).describe (paragraph [
      "Skip releases whose artifacts are all present on subsequent checks",
      "Default: true"])),
    ("versionFilter", filterSchema.orNull.describe "Optional release tag filter"),
    ("omitVersions", (Schema.list .text).describe
      "Release tags that are never built, applied after the version filter"),
    ("workspaces", ((Schema.map (.map .text)).orElse (.object [])).describe (paragraph [
      "Workspace bindings passed to every PipelineRun",
      "Keyed by workspace name, each value carries a `type` (`secret` or `volume`)",
      "and the type specific settings (`secretName`, `storageClassName`)"])),
    ("cloneUsingSsh", (Schema.bool.orElse (.bool false)).describe
      "Pass an SSH clone URL instead of HTTPS to the pipelines"),
    ("pipelineRunName", Schema.text.orNull.describe
      "Overrides the generated PipelineRun name prefix")])

def runSchema : Schema :=
  .describe "Record of the most recent PipelineRun created for a (release, artifact type) pair"
    (.record ["name", "timestamp"] [
      ("name", Schema.text.describe "Name of the PipelineRun as assigned by the API server"),
      ("timestamp", Schema.instant.describe "Creation timestamp of the PipelineRun"),
      ("runsCreated", (Schema.count.orElse (.ofNat 0)).describe
        "Number of PipelineRuns created for this pair so far")])

def releaseSchema : Schema :=
  .describe "Artifact and run bookkeeping for a single release" (.record [] [
    ("missingArtifacts", ((Schema.map .bool).orElse (.object [])).describe
      "Whether each configured artifact type is still missing"),
    ("pipelineRuns", (Schema.map runSchema).orNull.describe (paragraph [
      "Most recent PipelineRun per artifact type",
      "Absent when no runs are tracked, never an empty map"]))])

def conditionSchema : Schema :=
  .describe "Condition represents a condition of a resource" (.record ["type", "status"] [
    ("type", Schema.text.describe "Type of condition"),
    ("status", Schema.text.describe "Status of the condition (True, False, Unknown)"),
    ("lastTransitionTime", Schema.text.orNull.describe "Last transition time"),
    ("reason", Schema.text.orNull.describe "Reason for the condition"),
    ("message", Schema.text.orNull.describe "Message describing the condition")])

def statusSchema : Schema :=
  .describe (paragraph [
    "Status of the Repository resource",
    "",
    "Owned by the reconciler. Conditions are rebuilt on every cycle so they",
    "only carry the latest verdict per type."])
    (.record [] [
      ("ready", (Schema.bool.orElse (.bool false)).describe
        "True when the last cycle ended with every release accounted for"),
      ("lastCheck", Schema.instant.orNull.describe "Start of the last release check"),
      ("conditions", ((Schema.list conditionSchema).orElse (.array [])).describe
        "Conditions represent the latest available observations"),
      ("releases", ((Schema.map releaseSchema).orElse (.object [])).describe
        "Known releases keyed by tag")])

def schema : Schema :=
  (Schema.record ["spec"] [("spec", specSchema), ("status", statusSchema.orNull)])
    |>.entitle "Repository"
    |>.describe "Auto-generated derived type for RepositorySpec via `CustomResource`"

/-- The definition to install in a cluster before any repository can be described there. -/
def definition : Definition :=
  { kind
    singular := "repository"
    shortNames := ["repo"]
    columns := [⟨"Owner", "string", ".spec.owner"⟩, ⟨"Repo", "string", ".spec.repo"⟩,
      ⟨"Ready", "boolean", ".status.ready"⟩]
    schema }

end ReleaseBuilds.Repository
