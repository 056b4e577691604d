import ReleaseBuilds.Repository.Spec
import ReleaseBuilds.Text.Blank
import ReleaseBuilds.ErrorList

/-!
# Requests for runs

What is submitted to build one kind of artifact of one release. A request takes the settings of
the workspaces as they stand in the spec; the manifest made from it binds each workspace to a
secret or to a volume claim, or names every workspace for which that is not possible.
-/

namespace ReleaseBuilds

/-- Everything needed to create one run. -/
structure RunRequest where
  ns : String
  /-- The stem of the run's name. -/
  runName : String
  pipeline : String
  params : TextMap String
  workspaces : TextMap (TextMap String)
deriving DecidableEq

namespace RunRequest

/-- How many characters of the owner and of the repository the usual name of a run takes over. -/
def nameSlice : Nat := 5

/-- The usual stem: beginnings of the owner and the repository, and the tag. -/
def usualName (owner repo tag : String) : String :=
  let start := fun (s : String) => String.ofList (s.toList.take nameSlice)
  "build-" ++ start owner ++ "-" ++ start repo ++ "-" ++ tag

/-- The parameters of a run: where to clone from, what to check out and whose it is. -/
def paramsOf (spec : Repository.Spec) (tag : String) : TextMap String :=
  .ofList [("clone-url", spec.cloneUrl), ("revision", tag), ("owner", spec.owner),
    ("repository", spec.repo)]

/-- The request for a kind of artifact of a release; none if no pipeline is named for the kind. -/
def build? (spec : Repository.Spec) (ns tag : String) (t : ArtifactType) : Option RunRequest :=
  ((spec.pipelines.get? t).filter fun name => name != "").map fun pipeline =>
    { ns
      runName := (spec.runName.filter fun name => name != "").getD
        (usualName spec.owner spec.repo tag)
      pipeline
      params := paramsOf spec tag
      workspaces := spec.workspaces }

end RunRequest

/-! ## Workspaces -/

/-- Why the settings of a workspace cannot be used. -/
inductive WorkspaceError where
  | missingSecretName (workspace : String)
  | unknownType (workspace value : String)
deriving DecidableEq, Repr

def WorkspaceError.message : WorkspaceError → String
  | .missingSecretName workspace =>
    "workspace '" ++ workspace ++ "': type secret is missing 'secretName'"
  | .unknownType workspace value =>
    "workspace '" ++ workspace ++ "': unknown type '" ++ value ++ "'"

/-- What a workspace is filled from. -/
inductive WorkspaceSource where
  | secret (name : String)
  | volume (storageClass : Option String)
deriving DecidableEq, Repr

structure WorkspaceBinding where
  name : String
  source : WorkspaceSource
deriving DecidableEq, Repr

namespace WorkspaceBinding

/-- The value of a setting, empty if it is not set. -/
def setting (settings : TextMap String) (key : String) : String := (settings.get? key).getD ""

/-- The binding of a workspace with the given settings. -/
def of (workspace : String) (settings : TextMap String) :
    Except WorkspaceError WorkspaceBinding :=
  let type := setting settings "type"
  if type == "secret" then
    let name := Text.trim (setting settings "secretName")
    if name == "" then .error (.missingSecretName workspace)
    else .ok ⟨workspace, .secret name⟩
  else if type == "volume" then
    let storageClass := setting settings "storageClassName"
    .ok ⟨workspace, .volume (if storageClass == "" then none else some storageClass)⟩
  else .error (.unknownType workspace type)

/-- The bindings of all workspaces in the order of their names, or the errors of all that fail. -/
def ofAll (workspaces : TextMap (TextMap String)) :
    Except (ErrorList WorkspaceError) (List WorkspaceBinding) :=
  let outcomes := workspaces.entries.map fun e => of e.1 e.2
  (ErrorList.ofOutcomes outcomes).orElse (ErrorList.values outcomes)

end WorkspaceBinding

/-- A run as it is submitted. -/
structure RunManifest where
  ns : String
  generateName : String
  pipeline : String
  params : TextMap String
  workspaces : List WorkspaceBinding
deriving DecidableEq

/-- The run that a request asks for. -/
def RunRequest.manifest (r : RunRequest) : Except (ErrorList WorkspaceError) RunManifest :=
  (WorkspaceBinding.ofAll r.workspaces).map fun workspaces =>
    { ns := r.ns, generateName := r.runName ++ "-", pipeline := r.pipeline, params := r.params
      workspaces }

end ReleaseBuilds
