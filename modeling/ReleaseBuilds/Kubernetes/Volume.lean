import ReleaseBuilds.Kubernetes.Metadata

/-!
# Volumes

The shapes of a volume filled from a secret and of a claim on a persistent volume, as workspaces
of a run can hold them.
-/

namespace ReleaseBuilds.Kubernetes.Volume

/-- A volume filled from the entries of a secret. -/
def secret : Shape := .object [
  ("defaultMode", .optional, .int32),
  ("items", .optional, .list (.object [
    ("key", .orEmpty, .text),
    ("mode", .optional, .int32),
    ("path", .orEmpty, .text)])),
  ("optional", .optional, .bool),
  ("secretName", .optional, .text)]

/-- Amounts of resources by name; an amount is kept as it is written. -/
def amounts : Shape := .map .text

def selector : Shape := .object [
  ("matchExpressions", .optional, .list (.object [
    ("key", .orEmpty, .text),
    ("operator", .orEmpty, .text),
    ("values", .optional, .list .text)])),
  ("matchLabels", .optional, .map .text)]

def claimSpec : Shape := .object [
  ("accessModes", .optional, .list .text),
  ("dataSource", .optional, .object [
    ("apiGroup", .optional, .text),
    ("kind", .orEmpty, .text),
    ("name", .orEmpty, .text)]),
  ("dataSourceRef", .optional, .object [
    ("apiGroup", .optional, .text),
    ("kind", .orEmpty, .text),
    ("name", .orEmpty, .text),
    ("namespace", .optional, .text)]),
  ("resources", .optional, .object [
    ("limits", .optional, amounts),
    ("requests", .optional, amounts)]),
  ("selector", .optional, selector),
  ("storageClassName", .optional, .text),
  ("volumeAttributesClassName", .optional, .text),
  ("volumeMode", .optional, .text),
  ("volumeName", .optional, .text)]

def claimCondition : Shape := .object [
  ("lastProbeTime", .optional, .time),
  ("lastTransitionTime", .optional, .time),
  ("message", .optional, .text),
  ("reason", .optional, .text),
  ("status", .orEmpty, .text),
  ("type", .orEmpty, .text)]

def claimStatus : Shape := .object [
  ("accessModes", .optional, .list .text),
  ("allocatedResourceStatuses", .optional, .map .text),
  ("allocatedResources", .optional, amounts),
  ("capacity", .optional, amounts),
  ("conditions", .optional, .list claimCondition),
  ("currentVolumeAttributesClassName", .optional, .text),
  ("modifyVolumeStatus", .optional, .object [
    ("status", .orEmpty, .text),
    ("targetVolumeAttributesClassName", .optional, .text)]),
  ("phase", .optional, .text)]

/-- A claim on a persistent volume; its own metadata are written even when there are none. -/
def claim : Shape := .object [
  ("apiVersion", .constant "v1", .text),
  ("kind", .constant "PersistentVolumeClaim", .text),
  ("metadata", .orElse (.object []), Metadata.shape),
  ("spec", .optional, claimSpec),
  ("status", .optional, claimStatus)]

end ReleaseBuilds.Kubernetes.Volume
