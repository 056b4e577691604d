import ReleaseBuilds.Kubernetes.Metadata
import ReleaseBuilds.Kubernetes.Schema

/-!
# Definitions of kinds of resources

What a cluster must be told before it can hold resources of a kind: how the kind is called, what
is shown when its resources are listed, and the schema of a resource.
-/

namespace ReleaseBuilds.Kubernetes

/-- The part of the version before the slash. -/
def Kind.group (k : Kind) : String :=
  String.ofList (k.apiVersion.toList.takeWhile fun c => c != '/')

/-- The part of the version after the slash. -/
def Kind.version (k : Kind) : String :=
  String.ofList ((k.apiVersion.toList.dropWhile fun c => c != '/').drop 1)

/-- A column in lists of resources. -/
structure Column where
  name : String
  valueType : String
  path : String
deriving DecidableEq, Repr

def Column.toJson (c : Column) : Json :=
  .object [("jsonPath", .text c.path), ("name", .text c.name), ("type", .text c.valueType)]

/-- A kind whose resources lie in namespaces and have a status of their own. -/
structure Definition where
  kind : Kind
  singular : String
  shortNames : List String := []
  columns : List Column := []
  schema : Schema

namespace Definition

def names (d : Definition) : Json :=
  .object [("categories", .array []), ("kind", .text d.kind.kind), ("plural", .text d.kind.plural),
    ("shortNames", .ofList .text d.shortNames), ("singular", .text d.singular)]

/-- The only version of the kind, which is both served and stored. -/
def onlyVersion (d : Definition) : Json :=
  .object [("additionalPrinterColumns", .ofList Column.toJson d.columns),
    ("name", .text d.kind.version),
    ("schema", .object [("openAPIV3Schema", d.schema.toJson)]),
    ("served", .bool true), ("storage", .bool true),
    ("subresources", .object [("status", .object [])])]

def toJson (d : Definition) : Json :=
  .object [("apiVersion", .text "apiextensions.k8s.io/v1"),
    ("kind", .text "CustomResourceDefinition"),
    ("metadata", .object [("name", .text (d.kind.plural ++ "." ++ d.kind.group))]),
    ("spec", .object [("group", .text d.kind.group), ("names", d.names),
      ("scope", .text "Namespaced"), ("versions", .array [d.onlyVersion])])]

end Definition

end ReleaseBuilds.Kubernetes
