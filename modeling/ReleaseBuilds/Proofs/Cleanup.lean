import Mathlib.Data.List.Nodup
import ReleaseBuilds.Proofs.Round

/-!
# The cleanup is a filter

The cleanup looks up the run of every record, and only then drops the records found stale, one after
the other. Said for each record by itself: it is kept as it is unless the answer about its own run
speaks against it. What is kept would be kept again.
-/

namespace ReleaseBuilds

namespace PerArtifact

variable {α : Type}

theorem isEmpty_iff {m : PerArtifact α} : m.isEmpty = true ↔ ∀ t, m.get? t = none := by
  refine ⟨get?_eq_none_of_isEmpty, fun h => ?_⟩
  rw [isEmpty, Bool.and_eq_true, Option.isNone_iff_eq_none, Option.isNone_iff_eq_none]
  exact ⟨h .assets, h .container⟩

theorem nodup_toList (m : PerArtifact α) : m.toList.Nodup := by
  obtain ⟨assets, container⟩ := m
  cases assets <;> cases container <;> simp [toList, ArtifactType.all, get?]

end PerArtifact

namespace Repository

namespace ReleaseStatus

variable {r : ReleaseStatus} {t : ArtifactType}

theorem run?_of_runs_eq_none (h : r.runs = none) (t : ArtifactType) : r.run? t = none := by
  rw [run?, h, Option.bind_none]

/-- After a record is removed, the runs are absent rather than empty. -/
theorem runs_removeRun_eq_none_iff :
    (r.removeRun t).runs = none ↔ r.runs = none ∨ ∀ u, (r.removeRun t).run? u = none := by
  constructor
  · exact fun h => .inr (run?_of_runs_eq_none h)
  · rintro (hnone | hempty)
    · rw [removeRun, hnone, Option.bind_none]
    · cases hruns : r.runs with
      | none => rw [removeRun, hruns, Option.bind_none]
      | some runs =>
          have hremoved : (r.removeRun t).runs =
              if (runs.erase t).isEmpty then none else some (runs.erase t) := by
            rw [removeRun, hruns, Option.bind_some]
          rw [hremoved]
          apply if_pos
          by_contra hleft
          rw [if_neg hleft] at hremoved
          apply hleft
          apply PerArtifact.isEmpty_iff.mpr
          intro u
          have hget := hempty u
          rwa [run?, hremoved, Option.bind_some] at hget

end ReleaseStatus

namespace Status

variable (s : Status) (tag : String)

theorem runs_removeRun_eq_none_iff (other : String) (t : ArtifactType) :
    ((s.removeRun other t).release tag).runs = none ↔
      (s.release tag).runs = none ∨ other = tag ∧ ∀ u, (s.removeRun other t).run? tag u = none := by
  by_cases htag : other = tag
  · subst htag
    rw [removeRun]
    split
    next =>
      simp only [run?, release_updateRelease, if_pos]
      rw [ReleaseStatus.runs_removeRun_eq_none_iff]
      simp
    next hunknown =>
      have hnone : s.releases.get? other = none := by
        simpa [TextMap.contains] using hunknown
      simp [release, hnone]
  · rw [removeRun]
    split
    next =>
      rw [release_updateRelease, if_neg (Ne.symm htag)]
      simp [htag]
    next => simp [htag]

/-- After records are dropped, the runs of a release are absent if they were before, or if one of
the records was about the release and none is left. -/
theorem runs_dropRuns_eq_none_iff (runs : List RecordedRun) :
    ((s.dropRuns runs).release tag).runs = none ↔
      (s.release tag).runs = none ∨
        (∃ r ∈ runs, r.tag = tag) ∧ ∀ t, (s.dropRuns runs).run? tag t = none := by
  induction runs generalizing s with
  | nil => simp [dropRuns]
  | cons first rest ih =>
      change (((s.removeRun first.tag first.type).dropRuns rest).release tag).runs = none ↔
        _ ∨ _ ∧ ∀ t, ((s.removeRun first.tag first.type).dropRuns rest).run? tag t = none
      rw [ih, runs_removeRun_eq_none_iff, List.exists_mem_cons_iff]
      generalize s.removeRun first.tag first.type = middle
      have hgone {t : ArtifactType} (hnone : middle.run? tag t = none) :
          (middle.dropRuns rest).run? tag t = none := by
        rw [run?_dropRuns, hnone, ite_self]
      constructor
      · rintro ((hnone | ⟨htag, hempty⟩) | ⟨hrest, hempty⟩)
        · exact .inl hnone
        · exact .inr ⟨.inl htag, fun t => hgone (hempty t)⟩
        · exact .inr ⟨.inr hrest, hempty⟩
      · rintro (hnone | ⟨htag | hrest, hempty⟩)
        · exact .inl (.inl hnone)
        · -- a later record of the release is the one after which none is left
          by_cases hrest : ∃ r ∈ rest, r.tag = tag
          · exact .inr ⟨hrest, hempty⟩
          · refine .inl (.inr ⟨htag, fun t => ?_⟩)
            have hkept : ¬∃ r ∈ rest, r.tag = tag ∧ r.type = t := by
              rintro ⟨r, hr, htag, -⟩
              exact hrest ⟨r, hr, htag⟩
            rw [← hempty t, run?_dropRuns, if_neg hkept]
        · exact .inr ⟨hrest, hempty⟩

/-- No record is listed twice. -/
theorem nodup_recordedRuns : s.recordedRuns.Nodup := by
  rw [recordedRuns, List.nodup_flatMap]
  constructor
  · rintro entry -
    apply (PerArtifact.nodup_toList _).map
    rintro ⟨t, record⟩ ⟨u, record'⟩ heq
    cases heq
    rfl
  · apply s.releases.sorted.imp
    intro first second hlt r hfirst hsecond
    obtain ⟨_, -, rfl⟩ := List.mem_map.mp hfirst
    obtain ⟨_, -, heq⟩ := List.mem_map.mp hsecond
    have htag : second.1 = first.1 := congrArg RecordedRun.tag heq
    exact String.lt_irrefl _ (htag ▸ hlt)

/-- One status is left of another when records are taken out of it. -/
structure Filtered (s : Status) (out : RecordedRun → Prop) (cleaned : Status) : Prop where
  run? : ∀ tag t record, cleaned.run? tag t = some record ↔
    s.run? tag t = some record ∧ ¬out ⟨tag, t, record⟩
  /-- The runs of a release are absent once its last record was taken out. -/
  absent : ∀ tag, (cleaned.release tag).runs = none ↔
    (s.release tag).runs = none ∨
      (∃ t record, s.run? tag t = some record ∧ out ⟨tag, t, record⟩) ∧
        ∀ t, cleaned.run? tag t = none
  missing : ∀ tag, (cleaned.release tag).missing = (s.release tag).missing
  known : ∀ tag, cleaned.releases.contains tag = s.releases.contains tag
  notes : SameNotes s cleaned

theorem exists_stale_iff {tag : String} {t : ArtifactType} (stale : RecordedRun → Bool) :
    (∃ r ∈ s.recordedRuns.filter stale, r.tag = tag ∧ r.type = t) ↔
      ∃ record, s.run? tag t = some record ∧ stale ⟨tag, t, record⟩ = true := by
  simp only [List.mem_filter, mem_recordedRuns_iff]
  constructor
  · rintro ⟨⟨_, _, record⟩, ⟨hrecord, hstale⟩, rfl, rfl⟩
    exact ⟨record, hrecord, hstale⟩
  · rintro ⟨record, hrecord, hstale⟩
    exact ⟨⟨tag, t, record⟩, ⟨hrecord, hstale⟩, rfl, rfl⟩

/-- Dropping the records that are stale, one after the other, takes out each that is. -/
theorem filtered_dropRuns (stale : RecordedRun → Bool) :
    s.Filtered (fun r => stale r = true) (s.dropRuns (s.recordedRuns.filter stale)) where
  run? := by
    intro tag t record
    rw [run?_dropRuns, ite_eq_iff, exists_stale_iff]
    constructor
    · rintro (⟨-, hnone⟩ | ⟨hkept, hrecord⟩)
      · cases hnone
      · exact ⟨hrecord, fun hstale => hkept ⟨record, hrecord, hstale⟩⟩
    · rintro ⟨hrecord, hfresh⟩
      refine .inr ⟨?_, hrecord⟩
      rintro ⟨other, hother, hstale⟩
      obtain rfl := Option.some.inj (hrecord.symm.trans hother)
      exact hfresh hstale
  absent := by
    intro tag
    rw [runs_dropRuns_eq_none_iff]
    have habout : (∃ r ∈ s.recordedRuns.filter stale, r.tag = tag) ↔
        ∃ t record, s.run? tag t = some record ∧ stale ⟨tag, t, record⟩ = true := by
      simp only [← exists_stale_iff]
      constructor
      · rintro ⟨r, hr, htag⟩
        exact ⟨r.type, r, hr, htag, rfl⟩
      · rintro ⟨_, r, hr, htag, -⟩
        exact ⟨r, hr, htag⟩
    rw [habout]
  missing := fun tag => missing_dropRuns ..
  known := fun tag => contains_dropRuns ..
  notes := sameNotes_dropRuns ..

end Status

end Repository

/-- Answers to distinct questions come from one function. -/
theorem exists_function_of_nodup {α β : Type} [Nonempty β] {answers : List (α × β)}
    (hnodup : (answers.map Prod.fst).Nodup) :
    ∃ f : α → β, ∀ answer ∈ answers, f answer.1 = answer.2 := by
  have hunique (a : α) : ∃ b, ∀ answer ∈ answers, answer.1 = a → b = answer.2 := by
    by_cases hgiven : ∃ answer ∈ answers, answer.1 = a
    · obtain ⟨given, hgiven, rfl⟩ := hgiven
      refine ⟨given.2, fun answer hanswer heq => ?_⟩
      rw [List.inj_on_of_nodup_map hnodup hanswer hgiven heq]
    · exact ⟨Classical.arbitrary β, fun answer hanswer heq => absurd ⟨answer, hanswer, heq⟩ hgiven⟩
  choose f hf using hunique
  exact ⟨f, fun answer hanswer => hf answer.1 answer hanswer rfl⟩

namespace Cycle

open Dialogue

open Repository (RecordedRun RunRecord Status)

/-- What is answered about a run speaks against its record: the run is gone, or it is known to have
been created before a given time. -/
inductive Outdated (expiry : Instant) : Except RunnerError RunState → Prop
  | gone (name : String) : Outdated expiry (.error (.notFound name))
  | expired (run : RunState) (created : Instant) (hcreated : run.createdAt = some created)
      (hbefore : created.before expiry = true) : Outdated expiry (.ok run)

theorem isStale_iff {now expiry : Instant}
    (hexpiry : now.shift? (-Instant.daysInNanos expiryDays) = some expiry)
    {answer : Except RunnerError RunState} :
    isStale now answer = true ↔ Outdated expiry answer := by
  constructor
  · intro hstale
    cases answer with
    | error error =>
        cases error with
        | notFound name => exact .gone name
        | _ => cases hstale
    | ok run =>
        rw [isStale, isExpired, hexpiry] at hstale
        cases hcreated : run.createdAt with
        | none => rw [hcreated] at hstale; cases hstale
        | some created =>
            rw [hcreated] at hstale
            exact .expired run created hcreated hstale
  · intro houtdated
    cases houtdated with
    | gone => rfl
    | expired run created hcreated hbefore =>
        rw [isStale, isExpired, hexpiry, hcreated]
        exact hbefore

/-- The lookups of runs and what is answered about each. -/
def runLookups (ns : String) (answers : RecordedRun → Except RunnerError RunState)
    (runs : List RecordedRun) : List Exchanged :=
  runs.map fun r => lookedUp ns r.record.name (answers r)

section

variable {m : Moment} {subject : Subject} {s cleaned : Status}
  {answers : RecordedRun → Except RunnerError RunState}

theorem ends_cleanup_runLookups_iff :
    Ends (cleanup m subject s) (runLookups subject.ns answers s.recordedRuns) cleaned ↔
      cleaned = s.dropRuns (s.recordedRuns.filter fun r => isStale m.now (answers r)) := by
  rw [ends_cleanup_iff]
  constructor
  · rintro ⟨given, hruns, hexchanges, rfl⟩
    rw [← hruns, runLookups, List.map_map] at hexchanges
    have hfilter : given.filter (fun answer => isStale m.now answer.2) =
        given.filter ((fun r => isStale m.now (answers r)) ∘ Prod.fst) := by
      apply List.filter_congr
      intro answer hanswer
      obtain ⟨-, heq⟩ := Exchange.mk.inj (List.map_inj_left.mp hexchanges answer hanswer)
      rw [Function.comp_apply, eq_of_heq heq]
    rw [hfilter, ← hruns, List.filter_map]
  · rintro rfl
    refine ⟨s.recordedRuns.map fun r => (r, answers r), ?_, ?_, ?_⟩
    · rw [List.map_map]
      exact List.map_id _
    · rw [List.map_map]
      rfl
    · rw [List.filter_map, List.map_map]
      exact congrArg s.dropRuns (List.map_id _).symm

/-- Whoever answers, the cleanup looks up the run of every record once. -/
theorem exists_answers_of_ends_cleanup {exchanges : List Exchanged}
    (hends : Ends (cleanup m subject s) exchanges cleaned) :
    ∃ answers, exchanges = runLookups subject.ns answers s.recordedRuns := by
  obtain ⟨given, hruns, rfl, -⟩ := ends_cleanup_iff.mp hends
  have : Nonempty (Except RunnerError RunState) := ⟨.error .missingName⟩
  obtain ⟨answers, hanswers⟩ := exists_function_of_nodup (hruns ▸ s.nodup_recordedRuns)
  refine ⟨answers, ?_⟩
  rw [← hruns, runLookups, List.map_map]
  apply List.map_congr_left
  intro answer hanswer
  rw [Function.comp_apply, hanswers answer hanswer]

end

/-- The cleanup takes out exactly the records whose runs are gone or expired, and what it leaves is
left again when the same is answered at the same time. -/
theorem cleanup_filters (m : Moment) (subject : Subject) (s : Status) {expiry : Instant}
    (hexpiry : m.now.shift? (-Instant.daysInNanos expiryDays) = some expiry) :
    (∀ exchanges result, Ends (cleanup m subject s) exchanges result →
      ∃ answers, exchanges = runLookups subject.ns answers s.recordedRuns) ∧
    ∀ answers : RecordedRun → Except RunnerError RunState, ∃ cleaned,
      (∀ result, Ends (cleanup m subject s)
        (runLookups subject.ns answers s.recordedRuns) result ↔ result = cleaned) ∧
      s.Filtered (fun r => Outdated expiry (answers r)) cleaned ∧
      ∀ again, Ends (cleanup m subject cleaned)
        (runLookups subject.ns answers cleaned.recordedRuns) again ↔ again = cleaned := by
  refine ⟨fun _ _ => exists_answers_of_ends_cleanup, fun answers => ?_⟩
  have hfiltered := s.filtered_dropRuns fun r => isStale m.now (answers r)
  simp only [isStale_iff hexpiry] at hfiltered
  refine ⟨_, fun _ => ends_cleanup_runLookups_iff, hfiltered, fun again => ?_⟩
  -- no record that was left is stale
  have hfresh : ∀ r ∈ (s.dropRuns (s.recordedRuns.filter fun r =>
      isStale m.now (answers r))).recordedRuns, ¬isStale m.now (answers r) = true := by
    intro r hr
    rw [isStale_iff hexpiry]
    exact ((hfiltered.run? ..).mp (Status.mem_recordedRuns_iff _ |>.mp hr)).2
  rw [ends_cleanup_runLookups_iff, List.filter_eq_nil_iff.mpr hfresh]
  rfl

/-- A fortnight before noon. -/
def fortnightAgo : Instant :=
  { noon with second := 1716033600, inRange := by decide, leap := by decide }

/-- A second before that. -/
def expiredAgo : Instant :=
  { noon with second := 1716033599, inRange := by decide, leap := by decide }

/-- Two records of one release and the only one of another. -/
def threeRecorded : Status :=
  ((({} : Status).recordRun "v1" .assets "build-1" fortnightAgo).recordRun
    "v1" .container "image-1" expiredAgo).recordRun "v2" .assets "build-2" noon

/-- The run for the files of `v1` is a fortnight old and that for its image a second older. The run
for `v2` is gone. -/
def threeAnswers (r : RecordedRun) : Except RunnerError RunState :=
  if r.tag = "v2" then .error (.notFound r.record.name)
  else .ok { createdAt := some r.record.timestamp }

/-- Of three records the one of a run that is exactly a fortnight old is left. -/
theorem cleanup_filters_threeRecorded :
    noon.shift? (-Instant.daysInNanos expiryDays) = some fortnightAgo ∧ ∃ cleaned,
      Ends (cleanup (.plain noon) (singleSubject none) threeRecorded)
        (runLookups "ci" threeAnswers threeRecorded.recordedRuns) cleaned ∧
      cleaned.recordedRuns = [⟨"v1", .assets, "build-1", fortnightAgo, ⟨1, by decide⟩⟩] ∧
      (cleaned.release "v2").runs = none := by
  have hexpiry : noon.shift? (-Instant.daysInNanos expiryDays) = some fortnightAgo := by
    decide +kernel
  obtain ⟨cleaned, hends, hfiltered, -⟩ :=
    (cleanup_filters (.plain noon) (singleSubject none) threeRecorded hexpiry).2 threeAnswers
  have hcleaned := (hends _).mp (ends_cleanup_runLookups_iff.mpr rfl)
  refine ⟨hexpiry, cleaned, (hends cleaned).mpr rfl, ?_, ?_⟩
  · rw [← hcleaned]
    decide +kernel
  · refine (hfiltered.absent "v2").mpr (.inr ⟨⟨.assets, _, rfl, .gone _⟩, fun t => ?_⟩)
    rw [← hcleaned]
    cases t <;> decide +kernel

end Cycle

end ReleaseBuilds
