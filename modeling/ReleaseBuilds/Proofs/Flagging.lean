import ReleaseBuilds.Proofs.EditOrder
import ReleaseBuilds.Proofs.Need

/-!
# Flags and what is memorized as complete

Findings are taken up one by one. Each overwrites the flags of its release, kind by kind, and its
tag is handed on if an artifact is flagged as lacking right afterwards. The fetch of the next cycle
goes by another reading of the same flags: a release is left out if all of them say that nothing is
lacking. The two readings agree as long as no later finding about the release overwrites its flags.
-/

namespace ReleaseBuilds

namespace Finding

variable {spec : Repository.Spec} {f : Finding}

theorem contains_flags (t : ArtifactType) : (f.flags spec).contains t = spec.isConfigured t := by
  rw [PerArtifact.contains, flags, PerArtifact.get?_ofFn]
  cases spec.isConfigured t <;> rfl

end Finding

namespace Repository

variable {spec : Spec} {f : Finding}

namespace ReleaseStatus

variable {r : ReleaseStatus}

/-- The flag of one kind after a finding, set for a kind that is looked after and otherwise
removed. -/
def flagKind (spec : Spec) (f : Finding) (r : ReleaseStatus) (t : ArtifactType) : ReleaseStatus :=
  if spec.isConfigured t then r.setMissing t (!f.has t)
  else { r with missing := r.missing.erase t }

/-- Whatever was flagged before, flagging kind by kind leaves the flags of the finding. -/
theorem foldl_flagKind :
    ArtifactType.all.foldl (flagKind spec f) r = { r with missing := f.flags spec } := by
  obtain ⟨⟨_, _⟩, _⟩ := r
  cases hassets : spec.isConfigured .assets <;> cases hcontainer : spec.isConfigured .container <;>
    simp [ArtifactType.all, flagKind, setMissing, PerArtifact.insert, PerArtifact.erase,
      PerArtifact.set, PerArtifact.ofFn, Finding.flags, hassets, hcontainer]

/-- With the flags of a finding, a release is flagged exactly if the finding lacks something. -/
theorem any_isMissing_of_flags (hflags : r.missing = f.flags spec) :
    ArtifactType.all.any r.isMissing = f.lacks spec := by
  rw [Finding.lacks]
  exact congrArg ArtifactType.all.any (funext (Cycle.isMissing_of_flags hflags))

/-- With the flags of a finding, a release counts as complete exactly if the finding lacks
nothing. -/
theorem isSatisfied_of_flags (hflags : r.missing = f.flags spec) :
    r.isSatisfied spec.pipelines = !f.lacks spec := by
  rw [isSatisfied, Finding.lacks, List.not_any_eq_all_not]
  refine congrArg ArtifactType.all.all (funext fun t => ?_)
  rw [hflags, Finding.flags, PerArtifact.get?_ofFn, Spec.isConfigured]
  cases spec.pipelines.contains t <;> cases f.has t <;> rfl

end ReleaseStatus

namespace Status

/-- The flags of each finding in turn, and the tags after whose finding an artifact is flagged. -/
def flagEach (spec : Spec) (s : Status) : List Finding → Status × List String
  | [] => (s, [])
  | f :: rest =>
    let flagged := s.updateRelease f.tag fun r =>
      ArtifactType.all.foldl (ReleaseStatus.flagKind spec f) r
    let (last, tags) := flagEach spec flagged rest
    (last, if ArtifactType.all.any (flagged.release f.tag).isMissing then f.tag :: tags else tags)

/-- The flags are taken up and the tags handed on as if the two were computed apart. -/
theorem flagEach_eq (s : Status) (findings : List Finding) :
    s.flagEach spec findings = (s.takeUp spec findings, lackingTags spec findings) := by
  induction findings generalizing s with
  | nil => rfl
  | cons f rest ih =>
      have hflags : ((s.updateRelease f.tag fun r => { r with missing := f.flags spec }).release
          f.tag).missing = f.flags spec := by
        rw [release_updateRelease, if_pos rfl]
      simp only [flagEach, ReleaseStatus.foldl_flagKind, ih,
        ReleaseStatus.any_isMissing_of_flags hflags, lackingTags, List.filter_cons]
      cases f.lacks spec <;> rfl

/-- Findings that were taken up change nothing when they are taken up again. -/
theorem takeUp_takeUp (s : Status) (spec : Spec) (findings : List Finding) :
    (s.takeUp spec findings).takeUp spec findings = s.takeUp spec findings := by
  have hreleases : ((s.takeUp spec findings).takeUp spec findings).releases =
      (s.takeUp spec findings).releases := by
    apply TextMap.ext_get?
    intro tag
    by_cases hfound : ∃ f ∈ findings, f.tag = tag
    · obtain ⟨f, hf, rfl⟩ := hfound
      obtain ⟨before, last, after, rfl, htag, hafter⟩ := exists_last hf
      rw [← htag, get?_takeUp_of_last _ _ hafter, get?_takeUp_of_last s _ hafter, runs_takeUp]
    · apply get?_takeUp
      exact fun f hf htag => hfound ⟨f, hf, htag⟩
  exact (sameNotes_takeUp ..).eq_of_releases_eq hreleases

/-- What taking up findings comes to, and the tags that are handed on. -/
structure TakenUp (spec : Spec) (findings : List Finding) (s flagged : Status)
    (tags : List String) : Prop where
  known : ∀ f ∈ findings, flagged.releases.contains f.tag = true
  /-- Exactly the kinds that are looked after are flagged, whatever was flagged before. -/
  kinds : ∀ f ∈ findings, ∀ t,
    (flagged.release f.tag).missing.contains t = spec.isConfigured t
  /-- Of several findings about a release the last counts. -/
  last : ∀ before f after, findings = before ++ f :: after → (∀ g ∈ after, g.tag ≠ f.tag) →
    ∀ t, spec.isConfigured t = true → (flagged.release f.tag).missing.get? t = some (!f.has t)
  runs : ∀ tag, (flagged.release tag).runs = (s.release tag).runs
  others : ∀ tag, (∀ f ∈ findings, f.tag ≠ tag) →
    flagged.releases.get? tag = s.releases.get? tag
  notes : SameNotes s flagged
  /-- A finding is listed for what it lacks itself, even if a later one overwrites its flags. -/
  listed : tags = (findings.filter fun f =>
    ArtifactType.all.any fun t => spec.isConfigured t && !f.has t).map Finding.tag
  /-- Where no other finding overwrites the flags, both readings of them agree. -/
  once : ∀ before f after, findings = before ++ f :: after →
    (∀ g ∈ before ++ after, g.tag ≠ f.tag) →
      (f.tag ∈ tags ↔ (flagged.release f.tag).isSatisfied spec.pipelines = false)

theorem takenUp (spec : Spec) (findings : List Finding) (s : Status) :
    TakenUp spec findings s (s.takeUp spec findings) (lackingTags spec findings) where
  known := by
    intro f hf
    have hany : findings.any (fun g => g.tag == f.tag) = true :=
      List.any_eq_true.mpr ⟨f, hf, beq_self_eq_true _⟩
    rw [contains_takeUp, hany, Bool.true_or]
  kinds := by
    intro f hf t
    obtain ⟨before, last, after, rfl, htag, hafter⟩ := exists_last hf
    rw [← htag, release_takeUp_of_last s _ hafter]
    exact Finding.contains_flags t
  last := by
    rintro before f after rfl hafter t ht
    rw [release_takeUp_of_last s _ hafter, Finding.flags, PerArtifact.get?_ofFn, if_pos ht]
  runs := fun tag => runs_takeUp s tag spec findings
  others := fun tag => get?_takeUp s tag spec
  notes := sameNotes_takeUp s spec findings
  listed := rfl
  once := by
    rintro before f after rfl hother
    rw [List.forall_mem_append] at hother
    have hlisted : f.tag ∈ lackingTags spec (before ++ f :: after) ↔ f.lacks spec = true := by
      rw [lackingTags, List.mem_map]
      constructor
      · rintro ⟨g, hg, htag⟩
        obtain ⟨hmem, hlacks⟩ := List.mem_filter.mp hg
        rcases List.mem_append.mp hmem with hbefore | hrest
        · exact absurd htag (hother.1 g hbefore)
        · rcases List.mem_cons.mp hrest with rfl | hafter
          · exact hlacks
          · exact absurd htag (hother.2 g hafter)
      · exact fun hlacks => ⟨f, List.mem_filter.mpr ⟨by simp, hlacks⟩, rfl⟩
    rw [hlisted, release_takeUp_of_last s _ hother.2, ReleaseStatus.isSatisfied_of_flags rfl,
      Bool.not_eq_false']

/-- The flags and the tags that are handed on agree with what counts as complete, and the same
findings taken up once more change no flag and hand on the same tags. -/
theorem flags_agree_with_satisfaction (spec : Spec) (s : Status) (findings : List Finding) :
    s.flagEach spec findings = (s.takeUp spec findings, lackingTags spec findings) ∧
      TakenUp spec findings s (s.takeUp spec findings) (lackingTags spec findings) ∧
      (s.takeUp spec findings).flagEach spec findings =
        (s.takeUp spec findings, lackingTags spec findings) := by
  refine ⟨flagEach_eq s findings, takenUp spec findings s, ?_⟩
  rw [flagEach_eq, takeUp_takeUp]

/-- A release is handed on for the first finding about it although the second one completes it. -/
example :
    let spec := (Repository.single none).spec
    let complete := { Finding.single with assets := [{ id := 1, name := "app.tar.gz" }] }
    let findings := [Finding.single, complete]
    lackingTags spec findings = ["v1"] ∧
      ((({} : Status).takeUp spec findings).release "v1").isSatisfied spec.pipelines = true := by
  decide +kernel

end Status

end Repository

end ReleaseBuilds
