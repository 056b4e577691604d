import ReleaseBuilds.Proofs.Arrival
import ReleaseBuilds.Proofs.Need

/-!
# Whether a run is requested

Scheduling decides about one release and one kind at a time. One run is requested if a pipeline is
named for the kind, unless the cluster shows the recorded run in flight; otherwise none is. Only a
run that the cluster creates leaves a trace in the status, and nowhere but in the record of the
pair.
-/

namespace ReleaseBuilds

namespace Repository

/-- How many runs a record counts, and none where there is no record. -/
def attemptsOf (record : Option RunRecord) : Nat := record.elim 0 fun record =>
  record.runsCreated.toNat

theorem toNat_countAfter (previous : Option RunRecord) :
    (countAfter previous).toNat = min (attemptsOf previous + 1) (UInt32.size - 1) := by
  rw [countAfter, RunCount.toNat_next]
  cases previous with
  | none => rfl
  | some record => rfl

namespace Status

/-- Two statuses differ at most in the record of one release and one kind. -/
structure SameButRecord (tag : String) (t : ArtifactType) (s s' : Status) : Prop where
  notes : SameNotes s s'
  others : ∀ other, other ≠ tag → s'.releases.get? other = s.releases.get? other
  missing : (s'.release tag).missing = (s.release tag).missing
  runs : ∀ u, u ≠ t → s'.run? tag u = s.run? tag u

theorem sameButRecord_recordRun (s : Status) (tag : String) (t : ArtifactType) (name : String)
    (timestamp : Instant) : SameButRecord tag t s (s.recordRun tag t name timestamp) where
  notes := ⟨rfl, rfl, rfl⟩
  others other hne := (s.get?_updateRelease tag other _).trans (if_neg hne)
  missing := s.missing_recordRun ..
  runs _ hne := (s.run?_recordRun ..).trans (if_neg fun h => hne h.2)

end Status

end Repository

namespace Cycle

open Dialogue

/-! ## Runs in flight -/

/-- The run of a record started less than an hour ago and has not completed, or it has not started
and was recorded less than an hour ago. -/
def InFlight (now : Instant) (record : Repository.RunRecord) (run : RunState) : Prop :=
  (∃ started, run.startTime = some started ∧
      started.nanosBetween now < Instant.minutesInNanos 60 ∧ run.completionTime = none) ∨
    run.startTime = none ∧ record.timestamp.nanosBetween now < Instant.minutesInNanos 60

theorem isInFlight_iff {now : Instant} {record : Repository.RunRecord} {run : RunState} :
    isInFlight now record run = true ↔ InFlight now record run := by
  have hrecent (t : Instant) :
      isRecent now t = true ↔ t.nanosBetween now < Instant.minutesInNanos 60 := decide_eq_true_iff
  simp only [isInFlight, InFlight, RunState.hasCompleted, RunState.hasStarted]
  cases run.startTime with
  | none => simp [hrecent]
  | some started => simp [hrecent]

/-! ## The turn of one pair -/

section Pair

variable {m : Moment} {subject : Subject} {s s' : Repository.Status} {tag : String}
  {t : ArtifactType} {exchanges looked : List Exchanged} {outcome : Except RunnerError RunOutcome}
  {answers : (call : Call) → call.Answer}

/-- The runs that are requested, each with what comes of it. -/
def submissions (exchanges : List Exchanged) : List (RunRequest × Except RunnerError RunState) :=
  exchanges.filterMap submission?

/-- A pipeline is named for the kind, and the cluster does not show the recorded run of the pair in
flight. -/
def NeedsRun (m : Moment) (subject : Subject) (s : Repository.Status) (tag : String)
    (t : ArtifactType) (answers : (call : Call) → call.Answer) : Prop :=
  (∃ pipeline, subject.spec.pipelines.get? t = some pipeline ∧ pipeline ≠ "") ∧
    ¬∃ record run, s.run? tag t = some record ∧
      answers (.findRun subject.ns record.name) = .ok run ∧ InFlight m.now record run

theorem exists_build?_iff {spec : Repository.Spec} {ns : String} :
    (∃ request, RunRequest.build? spec ns tag t = some request) ↔
      ∃ pipeline, spec.pipelines.get? t = some pipeline ∧ pipeline ≠ "" := by
  constructor
  · rintro ⟨request, hbuild⟩
    exact ⟨request.pipeline, (build?_eq_some hbuild).1, (build?_eq_some hbuild).2.1⟩
  · rintro ⟨pipeline, hget, hname⟩
    simp [RunRequest.build?, hget, Option.filter, hname]

theorem Settled.submissions_eq {now : Instant} {ns : String}
    {record : Option Repository.RunRecord} (hsettled : Settled now ns record looked) :
    submissions looked = [] :=
  hsettled.filterMap_eq_nil fun _ _ => rfl

/-- What is answered about the recorded run of a settled pair does not show it in flight. -/
theorem Settled.not_inFlight {now : Instant} {ns : String} {record : Option Repository.RunRecord}
    (hsettled : Settled now ns record looked)
    (hanswers : ∀ x ∈ looked, x.answer = answers x.call) :
    ¬∃ r run, record = some r ∧ answers (.findRun ns r.name) = .ok run ∧ InFlight now r run := by
  rintro ⟨r, run, rfl, hanswer, hflight⟩
  cases hsettled with
  | failed _ error =>
      have herror : Except.error error = answers (.findRun ns r.name) :=
        hanswers _ List.mem_cons_self
      cases herror.trans hanswer
  | ended _ found hover =>
      have hfound : Except.ok found = answers (.findRun ns r.name) :=
        hanswers _ List.mem_cons_self
      obtain rfl := Except.ok.inj (hfound.trans hanswer)
      rw [isInFlight_iff.mpr hflight] at hover
      cases hover

/-- In the turn of a pair one run is requested if one is needed, and none otherwise. A run that is
created is recorded; otherwise the status stays as it was. -/
theorem Attempt.decided (hattempt : Attempt m subject s tag t exchanges outcome s')
    (hanswers : ∀ x ∈ exchanges, x.answer = answers x.call) :
    (¬NeedsRun m subject s tag t answers ∧ submissions exchanges = [] ∧ outcome ≠ .ok .created ∧
        s' = s) ∨
      NeedsRun m subject s tag t answers ∧
        ∃ request, RunRequest.build? subject.spec subject.ns tag t = some request ∧
          submissions exchanges = [(request, answers (.createRun request))] ∧
            match answers (.createRun request) with
            | .error _ => outcome ≠ .ok .created ∧ s' = s
            | .ok run => outcome = .ok .created ∧
                s' = s.recordRun tag t run.name (run.createdAt.getD m.now) := by
  -- a settled pair with a pipeline needs a run
  have hneeds {looked others : List Exchanged} {request : RunRequest}
      (hbuild : RunRequest.build? subject.spec subject.ns tag t = some request)
      (hsettled : Settled m.now subject.ns (s.run? tag t) looked)
      (hexchanges : exchanges = looked ++ others) : NeedsRun m subject s tag t answers := by
    subst hexchanges
    exact ⟨exists_build?_iff.mp ⟨request, hbuild⟩,
      hsettled.not_inFlight fun x hx => hanswers x (List.mem_append_left _ hx)⟩
  cases hattempt with
  | notConfigured hbuild =>
      refine .inl ⟨fun hneeded => ?_, rfl, by simp, rfl⟩
      obtain ⟨request, hsome⟩ := exists_build?_iff.mpr hneeded.1
      cases hbuild.symm.trans hsome
  | @inFlight _ record run _ hrecord hflight =>
      refine .inl ⟨fun hneeded => hneeded.2 ⟨record, run, hrecord, ?_, ?_⟩, rfl, by simp, rfl⟩
      · exact (hanswers _ List.mem_cons_self).symm
      · exact isInFlight_iff.mp hflight
  | failed hbuild hsettled error =>
      have hanswer := hanswers _ (List.mem_append_right _ List.mem_cons_self)
      refine .inr ⟨hneeds hbuild hsettled rfl, _, hbuild, ?_⟩
      rw [submissions, List.filterMap_append, ← submissions, hsettled.submissions_eq, ← hanswer]
      exact ⟨rfl, by simp, rfl⟩
  | created hbuild hsettled run =>
      have hanswer := hanswers _ (List.mem_append_right _ List.mem_cons_self)
      refine .inr ⟨hneeds hbuild hsettled rfl, _, hbuild, ?_⟩
      rw [submissions, List.filterMap_append, ← submissions, hsettled.submissions_eq, ← hanswer]
      exact ⟨rfl, rfl, rfl⟩

end Pair

/-- Whatever is known and answered, one run is requested for a release and a kind exactly if one is
needed, and otherwise none, and it is requested as the spec says. If the cluster creates it, its
name, its time and the next count become the record of the pair, and nothing else changes. In all
other cases nothing changes. -/
theorem schedule_requests_iff (m : Moment) (subject : Subject) (s : Repository.Status)
    (tag : String) (t : ArtifactType) (answers : (call : Call) → call.Answer) :
    ∃ exchanges outcome s',
      (schedule m subject s tag t).answered answers = (exchanges, outcome, s') ∧
      ((submissions exchanges).length = 1 ↔ NeedsRun m subject s tag t answers) ∧
      (submissions exchanges = [] ↔ ¬NeedsRun m subject s tag t answers) ∧
      (∀ submission ∈ submissions exchanges,
        RunRequest.build? subject.spec subject.ns tag t = some submission.1 ∧
          submission.2 = answers (.createRun submission.1)) ∧
      (∀ request run, (request, .ok run) ∈ submissions exchanges →
        outcome = .ok .created ∧ Repository.Status.SameButRecord tag t s s' ∧
          ∃ count, s'.run? tag t = some ⟨run.name, run.createdAt.getD m.now, count⟩ ∧
            count.toNat = min (Repository.attemptsOf (s.run? tag t) + 1) (UInt32.size - 1)) ∧
      ((∀ request run, (request, .ok run) ∉ submissions exchanges) →
        outcome ≠ .ok .created ∧ s' = s) := by
  obtain ⟨exchanges, ⟨outcome, s'⟩, htalk, hends, hanswers⟩ :=
    (schedule m subject s tag t).exists_answered answers
  have hattempt := ends_schedule_iff.mp hends
  refine ⟨exchanges, outcome, s', htalk, ?_⟩
  rcases hattempt.decided hanswers with
    ⟨hneedless, hnone, houtcome, rfl⟩ | ⟨hneeded, request, hbuild, hone, heffect⟩
  · simp [hnone, hneedless, houtcome]
  · rw [hone]
    refine ⟨iff_of_true rfl hneeded, iff_of_false (by simp) (not_not.mpr hneeded), ?_, ?_, ?_⟩
    · exact List.forall_mem_singleton.mpr ⟨hbuild, rfl⟩
    · intro _ run hmem
      obtain ⟨rfl, hanswer⟩ := Prod.mk.inj (List.mem_singleton.mp hmem)
      rw [← hanswer] at heffect
      obtain ⟨houtcome, rfl⟩ := heffect
      refine ⟨houtcome, s.sameButRecord_recordRun .., _, ?_, Repository.toNat_countAfter _⟩
      exact (s.run?_recordRun ..).trans (if_pos ⟨rfl, rfl⟩)
    · intro hnone
      cases hanswer : answers (.createRun request) with
      | error error =>
          rw [hanswer] at heffect
          exact heffect
      | ok run => exact absurd (hanswer ▸ List.mem_cons_self) (hnone request run)

end Cycle

end ReleaseBuilds
