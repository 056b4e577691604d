import ReleaseBuilds.Repository.Encoding

/-!
# Releases and their artifacts

What GitHub tells about the releases of a repository, the files attached to a release and the
versions of a container package, with the written form of each.
-/

namespace ReleaseBuilds

open Json (record?)

/-- A natural number of 64 bits. -/
def Json.asUInt64? (j : Json) : Option UInt64 := (j.asNat? UInt64.size).map UInt64.ofNat

def Json.ofUInt64 (n : UInt64) : Json := .ofNat n.toNat

/-- A release of a repository. -/
structure Release where
  id : UInt64
  tag : String
  hasAssets : Option Bool := none
deriving DecidableEq, Repr

/-- A file attached to a release. -/
structure Asset where
  id : UInt64
  name : String
  url : String := ""
  label : Option String := none
  contentType : Option String := none
  state : Option String := none
  size : UInt64 := 0
  downloadCount : UInt64 := 0
  createdAt : Option Instant := none
  updatedAt : Option Instant := none
  downloadUrl : Option String := none
deriving DecidableEq, Repr

/-- A version of a container package. Its tags stand in `tag` or in `imageTags`; the latter are
absent on two levels, because the metadata may be missing or may not be those of a container. -/
structure Package where
  name : String := ""
  tag : Option String := none
  createdAt : Option String := none
  updatedAt : Option String := none
  digest : Option String := none
  repository : Option String := none
  imageTags : Option (Option (List String)) := none
deriving DecidableEq, Repr

/-- The version is published under a tag. -/
def Package.hasTag (p : Package) (tag : String) : Bool :=
  p.tag == some tag || (p.imageTags.join.getD []).contains tag

/-! ## Written forms -/

namespace Release

def ofJson? (j : Json) : Option Release := do
  let fields ← j.record? ["id", "tag_name", "has_assets"]
  return {
    id := ← (fields "id").required Json.asUInt64?
    tag := ← (fields "tag_name").required Json.asText?
    hasAssets := ← (fields "has_assets").optional Json.asBool? }

def toJson (r : Release) : Json :=
  .object [("id", .ofUInt64 r.id), ("tag_name", .text r.tag),
    ("has_assets", .ofOption .bool r.hasAssets)]

end Release

namespace Asset

def ofJson? (j : Json) : Option Asset := do
  let fields ← j.record? ["id", "name", "url", "label", "content_type", "state", "size",
    "download_count", "created_at", "updated_at", "browser_download_url"]
  return {
    id := ← (fields "id").required Json.asUInt64?
    name := ← (fields "name").required Json.asText?
    url := ← (fields "url").orElse "" Json.asText?
    label := ← (fields "label").optional Json.asText?
    contentType := ← (fields "content_type").optional Json.asText?
    state := ← (fields "state").optional Json.asText?
    size := ← (fields "size").orElse 0 Json.asUInt64?
    downloadCount := ← (fields "download_count").orElse 0 Json.asUInt64?
    createdAt := ← (fields "created_at").optional Instant.ofJson?
    updatedAt := ← (fields "updated_at").optional Instant.ofJson?
    downloadUrl := ← (fields "browser_download_url").optional Json.asText? }

def toJson (a : Asset) : Json :=
  .object [("id", .ofUInt64 a.id), ("name", .text a.name), ("url", .text a.url),
    ("label", .ofOption .text a.label), ("content_type", .ofOption .text a.contentType),
    ("state", .ofOption .text a.state), ("size", .ofUInt64 a.size),
    ("download_count", .ofUInt64 a.downloadCount),
    ("created_at", .ofOption Instant.toJson a.createdAt),
    ("updated_at", .ofOption Instant.toJson a.updatedAt),
    ("browser_download_url", .ofOption .text a.downloadUrl)]

end Asset

namespace Package

/-- The tags of an image, from the metadata of a container. -/
def imageTagsOfJson? (j : Json) : Option (List String) := do
  let fields ← j.record? ["tags"]
  (fields "tags").orElse [] (Json.asList? Json.asText?)

/-- The tags of an image, from the metadata of a package, which may be about something else. -/
def metadataOfJson? (j : Json) : Option (Option (List String)) := do
  let fields ← j.record? ["container"]
  (fields "container").optional imageTagsOfJson?

def ofJson? (j : Json) : Option Package := do
  let fields ← j.record? ["name", "tag", "created_at", "updated_at", "digest", "repository",
    "metadata"]
  return {
    name := ← (fields "name").orElse "" Json.asText?
    tag := ← (fields "tag").optional Json.asText?
    createdAt := ← (fields "created_at").optional Json.asText?
    updatedAt := ← (fields "updated_at").optional Json.asText?
    digest := ← (fields "digest").optional Json.asText?
    repository := ← (fields "repository").optional Json.asText?
    imageTags := ← (fields "metadata").optional metadataOfJson? }

def imageTagsToJson (tags : List String) : Json := .object [("tags", .ofList .text tags)]

def metadataToJson (tags : Option (List String)) : Json :=
  .object [("container", .ofOption imageTagsToJson tags)]

def toJson (p : Package) : Json :=
  .object [("name", .text p.name), ("tag", .ofOption .text p.tag),
    ("created_at", .ofOption .text p.createdAt), ("updated_at", .ofOption .text p.updatedAt),
    ("digest", .ofOption .text p.digest), ("repository", .ofOption .text p.repository),
    ("metadata", .ofOption metadataToJson p.imageTags)]

end Package

end ReleaseBuilds
