import ReleaseBuilds.Github.Release
import ReleaseBuilds.Pipeline.Run
import ReleaseBuilds.Proofs.Codecs
import ReleaseBuilds.Proofs.Timestamps

/-!
# Documents that are read back

Every status and spec of a repository, every status of a run and everything GitHub tells about
releases is read back from the text of its document as it was written.
-/

namespace ReleaseBuilds

open Json (Faithful)

theorem Instant.faithful : Faithful Instant.toJson Instant.ofJson? where
  read_encode t := by simp [toJson, ofJson?, t.ofText?_toText]
  exact t := .text _
  ne_null t := by simp [toJson]

theorem FilterSpec.faithful : Faithful FilterSpec.toJson FilterSpec.ofJson? where
  read_encode f := by
    simp [ofJson?, toJson, Json.record?_of_sublist, List.lookup_cons]
  exact f := .object _ (by simp)
  ne_null f := by simp [toJson]

namespace Repository

theorem Spec.faithful : Faithful Spec.toJson Spec.ofJson? where
  read_encode spec := by
    have hpipelines := Json.faithful_text.perArtifact.read_encode spec.pipelines
    have hfilter := FilterSpec.faithful.optional_of_map spec.filter
    have homitted := Json.faithful_text.orElse_unlessEmpty "omitVersions" spec.omitted
    have hworkspaces := Json.faithful_text.map.map.read_encode spec.workspaces
    have hname := Json.faithful_text.optional_of_map spec.runName
    rw [ofJson?, toJson,
      Json.record?_ofMembers (by simp [Json.always, Json.whenPresent]) (by decide)]
    simp [-List.isEmpty_iff, List.lookup_cons, hpipelines, hfilter, homitted, hworkspaces, hname]
  exact spec := Json.exact_ofMembers (by
    simp [-List.isEmpty_iff, Json.exactMember_always, Json.faithful_text.perArtifact.exact,
      FilterSpec.faithful.exactMember_whenPresent, Json.faithful_text.exactMember_unlessEmpty,
      Json.faithful_text.map.map.exact, Json.faithful_text.exactMember_whenPresent])
  ne_null spec := by simp [toJson, Json.ofMembers]

theorem RunRecord.faithful : Faithful RunRecord.toJson RunRecord.ofJson? where
  read_encode r := by
    have hcount := Json.asNat?_ofNat r.runsCreated.toNat_lt
    have htime := Instant.faithful.read_encode r.timestamp
    simp [ofJson?, toJson, Json.record?_of_sublist, List.lookup_cons, htime, hcount,
      r.runsCreated.toNat_lt]
  exact r := .object _ (by simp [Instant.faithful.exact, Json.exact_ofNat])
  ne_null r := by simp [toJson]

theorem ReleaseStatus.faithful : Faithful ReleaseStatus.toJson ReleaseStatus.ofJson? where
  read_encode r := by
    have hmissing := Json.faithful_bool.perArtifact.read_encode r.missing
    have hruns := RunRecord.faithful.perArtifact.optional_of_map r.runs
    rw [ofJson?, toJson,
      Json.record?_ofMembers (by simp [Json.always, Json.whenPresent]) (by decide)]
    simp [List.lookup_cons, hmissing, hruns]
  exact r := Json.exact_ofMembers (by
    simp [Json.exactMember_always, Json.faithful_bool.perArtifact.exact,
      RunRecord.faithful.perArtifact.exactMember_whenPresent])
  ne_null r := by simp [toJson, Json.ofMembers]

theorem Condition.faithful : Faithful Condition.toJson Condition.ofJson? where
  read_encode c := by
    simp [ofJson?, toJson, Json.record?_of_sublist, List.lookup_cons,
      Json.faithful_text.asOption?_ofOption]
  exact c := .object _ (by simp [Json.exact_ofOption])
  ne_null c := by simp [toJson]

theorem Status.faithful : Faithful Status.toJson Status.ofJson? where
  read_encode s := by
    have hcheck := Instant.faithful.optional_of_map s.lastCheck
    have hconditions := Condition.faithful.list.read_encode s.conditions
    have hreleases := ReleaseStatus.faithful.map.read_encode s.releases
    rw [ofJson?, toJson,
      Json.record?_ofMembers (by simp [Json.always, Json.whenPresent]) (by decide)]
    simp [List.lookup_cons, hcheck, hconditions, hreleases]
  exact s := Json.exact_ofMembers (by
    simp [Json.exactMember_always, Instant.faithful.exactMember_whenPresent,
      Condition.faithful.list.exact, ReleaseStatus.faithful.map.exact])
  ne_null s := by simp [toJson, Json.ofMembers]

end Repository

/-! ## What GitHub tells -/

theorem Json.faithful_uint64 : Faithful Json.ofUInt64 Json.asUInt64? where
  read_encode n := by simp [asUInt64?, ofUInt64, asNat?_ofNat n.toNat_lt]
  exact n := exact_ofNat n.toNat
  ne_null n := ofNat_ne_null n.toNat

theorem Release.faithful : Faithful Release.toJson Release.ofJson? where
  read_encode r := by
    simp [ofJson?, toJson, Json.record?_of_sublist, List.lookup_cons,
      Json.faithful_uint64.read_encode, Json.faithful_bool.asOption?_ofOption]
  exact r := .object _ (by simp [Json.faithful_uint64.exact, Json.exact_ofOption])
  ne_null r := by simp [toJson]

theorem Asset.faithful : Faithful Asset.toJson Asset.ofJson? where
  read_encode a := by
    simp [ofJson?, toJson, Json.record?_of_sublist, List.lookup_cons,
      Json.faithful_uint64.read_encode, Json.faithful_text.asOption?_ofOption,
      Instant.faithful.asOption?_ofOption]
  exact a := .object _ (by
    simp [Json.faithful_uint64.exact, Json.exact_ofOption, Instant.faithful.exact])
  ne_null a := by simp [toJson]

namespace Package

theorem faithful_imageTags : Faithful imageTagsToJson imageTagsOfJson? where
  read_encode tags := by
    simp [imageTagsToJson, imageTagsOfJson?, Json.record?_of_sublist,
      Json.faithful_text.list.read_encode]
  exact tags := .object _ (by simp [Json.faithful_text.list.exact])
  ne_null tags := by simp [imageTagsToJson]

theorem faithful_metadata : Faithful metadataToJson metadataOfJson? where
  read_encode tags := by
    simp [metadataToJson, metadataOfJson?, Json.record?_of_sublist,
      faithful_imageTags.asOption?_ofOption]
  exact tags := .object _ (by simp [Json.exact_ofOption, faithful_imageTags.exact])
  ne_null tags := by simp [metadataToJson]

theorem faithful : Faithful Package.toJson Package.ofJson? where
  read_encode p := by
    simp [ofJson?, toJson, Json.record?_of_sublist, List.lookup_cons,
      Json.faithful_text.asOption?_ofOption, faithful_metadata.asOption?_ofOption]
  exact p := .object _ (by simp [Json.exact_ofOption, faithful_metadata.exact])
  ne_null p := by simp [toJson]

end Package

/-! ## What the cluster tells about runs -/

theorem RunCondition.faithful : Faithful RunCondition.toJson RunCondition.ofJson? where
  read_encode c := by
    simp [ofJson?, toJson, Json.record?_of_sublist, List.lookup_cons,
      Json.faithful_text.asOption?_ofOption]
  exact c := .object _ (by simp [Json.exact_ofOption])
  ne_null c := by simp [toJson]

theorem RunStatus.faithful : Faithful RunStatus.toJson RunStatus.ofJson? where
  read_encode s := by
    simp [ofJson?, toJson, Json.record?_of_sublist, List.lookup_cons,
      Instant.faithful.asOption?_ofOption, RunCondition.faithful.list.read_encode]
  exact s := .object _ (by
    simp [Json.exact_ofOption, Instant.faithful.exact, RunCondition.faithful.list.exact])
  ne_null s := by simp [toJson]

end ReleaseBuilds
