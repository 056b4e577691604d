import ReleaseBuilds.Cycle.Cleanup

/-!
# What edits do to a status

Every edit of a status is read pointwise: what it does to the flags and to the record of one release
and kind. Flags and records are edited apart, so an edit of the one leaves the other as it was.
-/

namespace ReleaseBuilds

namespace TextMap

variable {α : Type}

theorem lookup_eq_some_iff {entries : List (String × α)} {key : String} {value : α}
    (hsorted : entries.Pairwise (fun e f => e.1 < f.1)) :
    entries.lookup key = some value ↔ (key, value) ∈ entries := by
  induction entries with
  | nil => simp
  | cons head rest ih =>
      obtain ⟨k, v⟩ := head
      obtain ⟨hhead, hrest⟩ := List.pairwise_cons.mp hsorted
      rw [lookup_cons_eq]
      split
      next heq =>
        subst key
        constructor
        · intro h
          cases h
          exact List.mem_cons_self
        · intro h
          rcases List.mem_cons.mp h with h | h
          · cases h
            rfl
          · exact absurd (hhead _ h) (String.lt_irrefl k)
      next hne =>
        rw [ih hrest]
        constructor
        · exact List.mem_cons_of_mem _
        · intro h
          rcases List.mem_cons.mp h with h | h
          · cases h
            exact absurd rfl hne
          · exact h

/-- A map holds exactly the entries that it lists. -/
theorem get?_eq_some_iff {m : TextMap α} {key : String} {value : α} :
    m.get? key = some value ↔ (key, value) ∈ m.entries :=
  lookup_eq_some_iff m.sorted

theorem contains_insert (m : TextMap α) (key other : String) (value : α) :
    (m.insert key value).contains other = (other == key || m.contains other) := by
  rw [contains, contains, get?_insert]
  split
  next heq => simp [heq]
  next hne => simp [hne]

end TextMap

namespace PerArtifact

variable {α : Type}

theorem mem_toList_iff {m : PerArtifact α} {t : ArtifactType} {value : α} :
    (t, value) ∈ m.toList ↔ m.get? t = some value := by
  rw [toList, List.mem_filterMap]
  constructor
  · rintro ⟨u, -, hu⟩
    obtain ⟨found, hfound, heq⟩ := Option.map_eq_some_iff.mp hu
    cases heq
    exact hfound
  · intro h
    refine ⟨t, ?_, by simp [h]⟩
    cases t <;> simp [ArtifactType.all]

theorem get?_eq_none_of_isEmpty {m : PerArtifact α} (h : m.isEmpty = true) (t : ArtifactType) :
    m.get? t = none := by
  rw [isEmpty, Bool.and_eq_true, Option.isNone_iff_eq_none, Option.isNone_iff_eq_none] at h
  cases t
  · exact h.1
  · exact h.2

end PerArtifact

namespace Repository

/-- The count of a run that is created when the record of the run before it is as given. -/
def countAfter (previous : Option RunRecord) : RunCount :=
  ((previous.map RunRecord.runsCreated).getD .zero).next

namespace ReleaseStatus

variable (r : ReleaseStatus) (t u : ArtifactType)

theorem run?_recordRun (name : String) (timestamp : Instant) :
    (r.recordRun t name timestamp).run? u =
      if u = t then some ⟨name, timestamp, countAfter (r.run? t)⟩ else r.run? u := by
  change (PerArtifact.set (r.runs.getD {}) t
    (some ⟨name, timestamp, countAfter (r.run? t)⟩)).get? u = _
  rw [PerArtifact.get?_set]
  cases hruns : r.runs with
  | none => cases u <;> simp [run?, hruns, PerArtifact.get?]
  | some runs => simp [run?, hruns]

theorem run?_removeRun : (r.removeRun t).run? u = if u = t then none else r.run? u := by
  cases hruns : r.runs with
  | none => simp [removeRun, run?, hruns]
  | some runs =>
      have herase : (runs.erase t).get? u = if u = t then none else runs.get? u :=
        PerArtifact.get?_set runs t u none
      simp only [removeRun, run?, hruns, Option.bind_some]
      split
      next hempty =>
        rw [← herase, PerArtifact.get?_eq_none_of_isEmpty hempty]
        rfl
      next => exact herase

end ReleaseStatus

namespace Status

variable (s : Status) (tag other : String) (t u : ArtifactType)

theorem release_updateRelease (f : ReleaseStatus → ReleaseStatus) :
    (s.updateRelease tag f).release other =
      if other = tag then f (s.release tag) else s.release other := by
  rw [release, updateRelease, TextMap.get?_insert]
  split <;> rfl

/-- The records are part of what is known about releases. -/
theorem run?_congr {s s' : Status} (h : s'.releases = s.releases) (tag : String)
    (t : ArtifactType) : s'.run? tag t = s.run? tag t := by
  rw [run?, run?, release, release, h]

/-! ## Known releases -/

theorem contains_updateRelease (f : ReleaseStatus → ReleaseStatus) :
    (s.updateRelease tag f).releases.contains other =
      (other == tag || s.releases.contains other) :=
  TextMap.contains_insert ..

theorem contains_removeRun :
    (s.removeRun tag t).releases.contains other = s.releases.contains other := by
  rw [removeRun]
  split
  next hknown =>
    rw [contains_updateRelease]
    by_cases htag : other = tag
    · simp [htag, hknown]
    · simp [htag]
  next => rfl

/-- A release whose record is dropped stays known. -/
theorem contains_dropRuns (runs : List RecordedRun) :
    (s.dropRuns runs).releases.contains tag = s.releases.contains tag := by
  induction runs generalizing s with
  | nil => rfl
  | cons first rest ih =>
      change ((s.removeRun first.tag first.type).dropRuns rest).releases.contains tag = _
      rw [ih, contains_removeRun]

/-- A release is known after its flags are taken up, and those known before stay known. -/
theorem contains_takeUp (spec : Spec) (findings : List Finding) :
    (s.takeUp spec findings).releases.contains tag =
      (findings.any (fun f => f.tag == tag) || s.releases.contains tag) := by
  induction findings generalizing s with
  | nil => rfl
  | cons first rest ih =>
      refine (ih _).trans ?_
      rw [contains_updateRelease, List.any_cons, BEq.comm (a := tag)]
      cases first.tag == tag <;> simp

/-! ## Records -/

theorem run?_recordRun (name : String) (timestamp : Instant) :
    (s.recordRun tag t name timestamp).run? other u =
      if other = tag ∧ u = t then
        some ⟨name, timestamp, countAfter (s.run? tag t)⟩
      else s.run? other u := by
  rw [run?, recordRun, release_updateRelease]
  by_cases htag : other = tag
  · subst htag
    simp only [if_pos, true_and, ReleaseStatus.run?_recordRun]
    rfl
  · simp [htag, run?]

theorem missing_recordRun (name : String) (timestamp : Instant) :
    ((s.recordRun tag t name timestamp).release other).missing = (s.release other).missing := by
  rw [recordRun, release_updateRelease]
  split
  next heq => rw [heq]; rfl
  next => rfl

theorem run?_removeRun :
    (s.removeRun tag t).run? other u =
      if other = tag ∧ u = t then none else s.run? other u := by
  rw [removeRun]
  split
  next =>
    rw [run?, release_updateRelease]
    by_cases htag : other = tag
    · subst htag
      simp only [if_pos, true_and, ReleaseStatus.run?_removeRun]
      rfl
    · simp [htag, run?]
  next hunknown =>
    split
    next heq =>
      obtain ⟨rfl, rfl⟩ := heq
      have hnone : s.releases.get? other = none := by
        simpa [TextMap.contains] using hunknown
      simp [run?, release, hnone, ReleaseStatus.run?]
    next => rfl

theorem missing_removeRun :
    ((s.removeRun tag t).release other).missing = (s.release other).missing := by
  rw [removeRun]
  split
  next =>
    rw [release_updateRelease]
    split
    next heq => rw [heq]; rfl
    next => rfl
  next => rfl

/-- A record is listed exactly if it is what is known about its release and kind. -/
theorem mem_recordedRuns_iff {r : RecordedRun} :
    r ∈ s.recordedRuns ↔ s.run? r.tag r.type = some r.record := by
  rw [recordedRuns, List.mem_flatMap]
  constructor
  · rintro ⟨⟨key, known⟩, hentry, hr⟩
    obtain ⟨⟨type, record⟩, hrun, rfl⟩ := List.mem_map.mp hr
    have hget := PerArtifact.mem_toList_iff.mp hrun
    rw [run?, release, TextMap.get?_eq_some_iff.mpr hentry, Option.getD_some, ReleaseStatus.run?]
    cases hruns : known.runs with
    | none => rw [hruns] at hget; cases type <;> exact absurd hget (by simp [PerArtifact.get?])
    | some runs => rw [hruns] at hget; exact hget
  · intro hr
    rw [run?, release] at hr
    cases hknown : s.releases.get? r.tag with
    | none => rw [hknown] at hr; simp [ReleaseStatus.run?] at hr
    | some known =>
        rw [hknown, Option.getD_some, ReleaseStatus.run?] at hr
        obtain ⟨runs, hruns, hget⟩ := Option.bind_eq_some_iff.mp hr
        refine ⟨(r.tag, known), TextMap.get?_eq_some_iff.mp hknown, ?_⟩
        rw [hruns, Option.getD_some]
        exact List.mem_map.mpr ⟨(r.type, r.record), PerArtifact.mem_toList_iff.mpr hget, rfl⟩

theorem run?_dropRuns (runs : List RecordedRun) :
    (s.dropRuns runs).run? tag t =
      if ∃ r ∈ runs, r.tag = tag ∧ r.type = t then none else s.run? tag t := by
  induction runs generalizing s with
  | nil => simp [dropRuns]
  | cons first rest ih =>
      change ((s.removeRun first.tag first.type).dropRuns rest).run? tag t = _
      rw [ih, run?_removeRun]
      by_cases hfirst : tag = first.tag ∧ t = first.type
      · obtain ⟨rfl, rfl⟩ := hfirst
        simp
      · have hne : ¬(first.tag = tag ∧ first.type = t) := fun h => hfirst ⟨h.1.symm, h.2.symm⟩
        simp [hfirst, hne]

theorem missing_dropRuns (runs : List RecordedRun) :
    ((s.dropRuns runs).release tag).missing = (s.release tag).missing := by
  induction runs generalizing s with
  | nil => rfl
  | cons first rest ih =>
      change (((s.removeRun first.tag first.type).dropRuns rest).release tag).missing = _
      rw [ih, missing_removeRun]

/-! ## Flags -/

/-- Findings say nothing about runs. -/
theorem runs_takeUp (spec : Spec) (findings : List Finding) :
    ((s.takeUp spec findings).release tag).runs = (s.release tag).runs := by
  induction findings generalizing s with
  | nil => rfl
  | cons first rest ih =>
      refine (ih _).trans ?_
      rw [release_updateRelease]
      split
      next heq => rw [heq]
      next => rfl

theorem run?_takeUp (spec : Spec) (findings : List Finding) :
    (s.takeUp spec findings).run? tag t = s.run? tag t := by
  rw [run?, run?, ReleaseStatus.run?, ReleaseStatus.run?, runs_takeUp]

/-- What findings change depends on nothing but what is known about releases. -/
theorem releases_takeUp_congr {s s' : Status} (spec : Spec) (findings : List Finding)
    (h : s'.releases = s.releases) :
    (s'.takeUp spec findings).releases = (s.takeUp spec findings).releases := by
  induction findings generalizing s s' with
  | nil => exact h
  | cons first rest ih =>
      refine ih ?_
      simp only [updateRelease, release, h]

/-- The flags of a release are those of the last finding about it. -/
theorem missing_takeUp (spec : Spec) (findings : List Finding) :
    ((s.takeUp spec findings).release tag).missing =
      ((findings.reverse.find? fun f => f.tag == tag).map (·.flags spec)).getD
        (s.release tag).missing := by
  induction findings generalizing s with
  | nil => rfl
  | cons first rest ih =>
      -- a later finding about the release hides the first one
      refine (ih _).trans ?_
      rw [release_updateRelease, List.reverse_cons, List.find?_append]
      cases rest.reverse.find? fun f => f.tag == tag with
      | some last => rfl
      | none =>
          by_cases heq : tag = first.tag
          · simp [heq]
          · have hne : (first.tag == tag) = false := by simpa using Ne.symm heq
            simp [heq, hne]

/-- What is memorized as complete is known and lacks none of the configured kinds. -/
theorem mem_satisfiedTags_iff {configured : PerArtifact String} :
    tag ∈ s.satisfiedTags configured ↔
      ∃ r, s.releases.get? tag = some r ∧ r.isSatisfied configured := by
  rw [satisfiedTags, TextMap.keys, List.mem_map]
  constructor
  · rintro ⟨⟨key, r⟩, hentry, rfl⟩
    obtain ⟨hmem, hsatisfied⟩ := List.mem_filter.mp hentry
    exact ⟨r, TextMap.get?_eq_some_iff.mpr hmem, hsatisfied⟩
  · rintro ⟨r, hget, hsatisfied⟩
    exact ⟨(tag, r), List.mem_filter.mpr ⟨TextMap.get?_eq_some_iff.mp hget, hsatisfied⟩, rfl⟩

/-- A known release is satisfied by its flags alone. -/
theorem mem_satisfiedTags_iff_contains {configured : PerArtifact String} :
    tag ∈ s.satisfiedTags configured ↔
      s.releases.contains tag = true ∧ (s.release tag).isSatisfied configured = true := by
  rw [mem_satisfiedTags_iff, TextMap.contains, release]
  cases s.releases.get? tag with
  | none => simp
  | some r => simp

/-! ## Releases that are left alone -/

/-- A release has the same flags in two statuses, and is known in both or in neither. -/
structure SameFlags (tag : String) (s s' : Status) : Prop where
  contains : s'.releases.contains tag = s.releases.contains tag
  missing : (s'.release tag).missing = (s.release tag).missing

namespace SameFlags

variable {s tag} {middle last : Status}

theorem of_releases_eq (h : last.releases = s.releases) : SameFlags tag s last := by
  constructor
  · rw [h]
  · rw [release, release, h]

theorem trans (hfirst : SameFlags tag s middle) (hsecond : SameFlags tag middle last) :
    SameFlags tag s last where
  contains := hsecond.contains.trans hfirst.contains
  missing := hsecond.missing.trans hfirst.missing

/-- Whether a release is memorized as complete depends on its flags alone. -/
theorem mem_satisfiedTags_iff (h : SameFlags tag s last) {configured : PerArtifact String} :
    tag ∈ last.satisfiedTags configured ↔ tag ∈ s.satisfiedTags configured := by
  rw [mem_satisfiedTags_iff_contains, mem_satisfiedTags_iff_contains, h.contains,
    ReleaseStatus.isSatisfied, ReleaseStatus.isSatisfied, h.missing]

end SameFlags

/-- Dropping records leaves all releases alone otherwise. -/
theorem sameFlags_dropRuns (runs : List RecordedRun) : SameFlags tag s (s.dropRuns runs) :=
  ⟨contains_dropRuns .., missing_dropRuns ..⟩

/-- Findings leave a release alone that none of them is about. -/
theorem sameFlags_takeUp (spec : Spec) {findings : List Finding}
    (hfindings : ∀ finding ∈ findings, finding.tag ≠ tag) :
    SameFlags tag s (s.takeUp spec findings) := by
  constructor
  · have hany : findings.any (fun f => f.tag == tag) = false :=
      List.any_eq_false.mpr fun f hf => by simpa using hfindings f hf
    rw [contains_takeUp, hany, Bool.false_or]
  · have hfind : findings.reverse.find? (fun f => f.tag == tag) = none :=
      List.find?_eq_none.mpr fun f hf => by simpa using hfindings f (List.mem_reverse.mp hf)
    rw [missing_takeUp, hfind]
    rfl

/-- A run that is recorded leaves all other releases alone. -/
theorem sameFlags_recordRun {name : String} {timestamp : Instant} (hne : other ≠ tag) :
    SameFlags other s (s.recordRun tag t name timestamp) := by
  constructor
  · rw [recordRun, contains_updateRelease]
    simp [hne]
  · exact missing_recordRun ..

/-! ## Entries that are left alone -/

theorem get?_updateRelease (f : ReleaseStatus → ReleaseStatus) :
    (s.updateRelease tag f).releases.get? other =
      if other = tag then some (f (s.release tag)) else s.releases.get? other :=
  TextMap.get?_insert ..

/-- Findings leave the entry of a release alone that none of them is about. -/
theorem get?_takeUp (spec : Spec) {findings : List Finding}
    (hfindings : ∀ finding ∈ findings, finding.tag ≠ tag) :
    (s.takeUp spec findings).releases.get? tag = s.releases.get? tag := by
  induction findings generalizing s with
  | nil => rfl
  | cons first rest ih =>
      refine (ih _ fun f hf => hfindings f (List.mem_cons_of_mem _ hf)).trans ?_
      rw [get?_updateRelease, if_neg (Ne.symm (hfindings first List.mem_cons_self))]

/-- Among the findings about a release there is a last one. -/
theorem exists_last {findings : List Finding} {f : Finding} (hf : f ∈ findings) :
    ∃ before last after, findings = before ++ last :: after ∧ last.tag = f.tag ∧
      ∀ g ∈ after, g.tag ≠ last.tag := by
  induction findings generalizing f with
  | nil => cases hf
  | cons first rest ih =>
      by_cases hlater : ∃ g ∈ rest, g.tag = f.tag
      · obtain ⟨g, hg, htag⟩ := hlater
        obtain ⟨before, last, after, rfl, hlast, hafter⟩ := ih hg
        exact ⟨first :: before, last, after, rfl, hlast.trans htag, hafter⟩
      · rcases List.mem_cons.mp hf with rfl | hrest
        · exact ⟨[], f, rest, rfl, rfl, fun g hg htag => hlater ⟨g, hg, htag⟩⟩
        · exact absurd ⟨f, hrest, rfl⟩ hlater

/-- The entry of a release after all findings: its runs, with the flags of the last finding. -/
theorem get?_takeUp_of_last (spec : Spec) {before after : List Finding} {f : Finding}
    (hafter : ∀ g ∈ after, g.tag ≠ f.tag) :
    (s.takeUp spec (before ++ f :: after)).releases.get? f.tag =
      some ⟨f.flags spec, (s.release f.tag).runs⟩ := by
  rw [takeUp, List.foldl_append, List.foldl_cons]
  refine (get?_takeUp _ f.tag spec hafter).trans ?_
  rw [get?_updateRelease, if_pos rfl, ← s.runs_takeUp f.tag spec before]
  rfl

theorem release_takeUp_of_last (spec : Spec) {before after : List Finding} {f : Finding}
    (hafter : ∀ g ∈ after, g.tag ≠ f.tag) :
    (s.takeUp spec (before ++ f :: after)).release f.tag =
      ⟨f.flags spec, (s.release f.tag).runs⟩ := by
  rw [release, s.get?_takeUp_of_last spec hafter, Option.getD_some]

/-- Dropping records changes nothing but what is known about releases. -/
theorem releases_dropRuns_congr {s s' : Status} (runs : List RecordedRun)
    (h : s'.releases = s.releases) : (s'.dropRuns runs).releases = (s.dropRuns runs).releases := by
  induction runs generalizing s s' with
  | nil => exact h
  | cons first rest ih =>
      refine ih ?_
      simp only [removeRun, h]
      split
      next => simp only [updateRelease, release, h]
      next => exact h

/-! ## What stands beside the releases -/

/-- Two statuses differ at most in what is known about releases. -/
structure SameNotes (s s' : Status) : Prop where
  ready : s'.ready = s.ready
  lastCheck : s'.lastCheck = s.lastCheck
  conditions : s'.conditions = s.conditions

namespace SameNotes

variable {s} {middle last : Status}

theorem refl (s : Status) : SameNotes s s := ⟨rfl, rfl, rfl⟩

theorem trans (hfirst : SameNotes s middle) (hsecond : SameNotes middle last) :
    SameNotes s last where
  ready := hsecond.ready.trans hfirst.ready
  lastCheck := hsecond.lastCheck.trans hfirst.lastCheck
  conditions := hsecond.conditions.trans hfirst.conditions

theorem eq_of_releases_eq (h : SameNotes s last) (hreleases : last.releases = s.releases) :
    last = s := by
  cases s
  cases last
  rw [Status.mk.injEq]
  exact ⟨h.ready, h.lastCheck, h.conditions, hreleases⟩

end SameNotes

theorem sameNotes_removeRun : SameNotes s (s.removeRun tag t) := by
  rw [removeRun]
  split
  next => exact ⟨rfl, rfl, rfl⟩
  next => exact .refl s

theorem sameNotes_dropRuns (runs : List RecordedRun) : SameNotes s (s.dropRuns runs) := by
  induction runs generalizing s with
  | nil => exact .refl s
  | cons first rest ih => exact (s.sameNotes_removeRun first.tag first.type).trans (ih _)

theorem sameNotes_takeUp (spec : Spec) (findings : List Finding) :
    SameNotes s (s.takeUp spec findings) := by
  induction findings generalizing s with
  | nil => exact .refl s
  | cons first rest ih =>
      have hfirst : SameNotes s (s.updateRelease first.tag fun r =>
          { r with missing := first.flags spec }) := ⟨rfl, rfl, rfl⟩
      exact hfirst.trans (ih _)

/-- A condition of a kind that is not listed yet is added at the end. -/
theorem upsert_of_not_mem {c : Condition} {conditions : List Condition}
    (hnew : c.kind ∉ conditions.map Condition.kind) : upsert c conditions = conditions ++ [c] := by
  induction conditions with
  | nil => rfl
  | cons first rest ih =>
      rw [List.map_cons, List.mem_cons, not_or] at hnew
      have hne : (first.kind == c.kind) = false := by simpa using Ne.symm hnew.1
      rw [upsert, hne, ih hnew.2]
      rfl

end Status

end Repository

end ReleaseBuilds
