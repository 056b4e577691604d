import ReleaseBuilds.Proofs.Readiness

/-!
# What becomes of what is lacking

Every release and kind that is flagged as lacking takes a turn, and the summary of the turns counts
each of them once, as a run that was created, a run in flight or an error. There is one exception: a
pipeline can be configured without a name. Its kind is looked after, so releases are flagged for it,
but there is nothing to request, and its turns pass in silence.
-/

namespace ReleaseBuilds.Cycle

open Dialogue

/-! ## Turns -/

section Turns

variable {m : Moment} {subject : Subject} {errors : List RunnerError}

/-- What a turn can come to so that its pair is not passed over: a run is created, the recorded run
is in flight, or it is reported why no run was created. -/
inductive Turn.Answers (turn : Turn m subject) (errors : List RunnerError) : Prop
  | created {request : RunRequest} {run : RunState}
      (hmem : (⟨.createRun request, .ok run⟩ : Exchanged) ∈ turn.exchanges)
  | inFlight {record : Repository.RunRecord} {run : RunState}
      (hrecord : turn.before.run? turn.tag turn.type = some record)
      (hmem : lookedUp subject.ns record.name (.ok run) ∈ turn.exchanges)
      (hflight : isInFlight m.now record run = true)
  | reported {request : RunRequest} {e : RunnerError}
      (hmem : (⟨.createRun request, .error e⟩ : Exchanged) ∈ turn.exchanges) (he : e ∈ errors)

/-- A kind that is looked after cannot be requested only if its pipeline has no name. -/
theorem build?_eq_none_iff {spec : Repository.Spec} {ns tag : String} {t : ArtifactType}
    (hconfigured : spec.isConfigured t = true) :
    RunRequest.build? spec ns tag t = none ↔ spec.pipelines.get? t = some "" := by
  obtain ⟨pipeline, hpipeline⟩ := Option.isSome_iff_exists.mp hconfigured
  simp [RunRequest.build?, hpipeline, Option.filter]

theorem Turn.outcome_eq_notConfigured_iff (turn : Turn m subject) :
    turn.outcome = .ok .notConfigured ↔
      RunRequest.build? subject.spec subject.ns turn.tag turn.type = none := by
  obtain ⟨tag, t, before, exchanges, outcome, after, hlacking, hattempt⟩ := turn
  cases hattempt with
  | notConfigured hbuild => simp [hbuild]
  | inFlight hbuild => simp [hbuild]
  | failed hbuild => simp [hbuild]
  | created hbuild => simp [hbuild]

/-- If all errors are reported, only turns without anything to request are left without answer. -/
theorem Turn.answers_iff (turn : Turn m subject)
    (herrors : ∀ e, turn.outcome = .error e → e ∈ errors) :
    turn.Answers errors ↔ turn.outcome ≠ .ok .notConfigured := by
  obtain ⟨tag, t, before, exchanges, outcome, after, hlacking, hattempt⟩ := turn
  cases hattempt with
  | notConfigured =>
      refine iff_of_false ?_ fun h => h rfl
      rintro (hmem | ⟨-, hmem, -⟩ | hmem) <;> exact absurd hmem List.not_mem_nil
  | inFlight _ hrecord hflight =>
      refine iff_of_true ?_ (by simp)
      exact .inFlight hrecord List.mem_cons_self hflight
  | failed _ _ error =>
      refine iff_of_true ?_ (by simp)
      exact .reported (List.mem_append_right _ List.mem_cons_self) (herrors error rfl)
  | created =>
      refine iff_of_true ?_ (by simp)
      exact .created (List.mem_append_right _ List.mem_cons_self)

/-- A summary counts each outcome once, except for those that pass in silence. -/
theorem RunSummary.counts (outcomes : List (Except RunnerError RunOutcome)) :
    (RunSummary.of outcomes).created + (RunSummary.of outcomes).inFlight +
        (RunSummary.of outcomes).errors.size =
      outcomes.countP (· ≠ .ok .notConfigured) := by
  induction outcomes with
  | nil => rfl
  | cons outcome rest ih =>
      rw [List.countP_cons, ← ih]
      rcases outcome with _ | _ | _ | _ <;>
        simp [RunSummary.of, ErrorList.values, ErrorList.ofOutcomes, ErrorList.size] <;> omega

end Turns

/-! ## Rounds -/

namespace Round

variable {ns name : String} (round : Round ns name)

/-- The outcomes of all turns taken together. -/
def summary : RunSummary := .of (round.turns.map Turn.outcome)

/-- All artifacts of a release with the tag were looked up, and what was found flags the kind as
lacking. -/
def Flags (tag : String) (t : ArtifactType) : Prop :=
  ∃ finding ∈ round.account.findings, finding.tag = tag ∧
    ((round.repository.known.takeUp round.repository.spec round.account.findings).release
      tag).isMissing t = true

/-- The pipeline for the kind is configured without a name. -/
def Unnamed (t : ArtifactType) : Prop := round.repository.spec.pipelines.get? t = some ""

instance (t : ArtifactType) : Decidable (round.Unnamed t) :=
  inferInstanceAs (Decidable (_ = some ""))

variable {round}

/-- What passes in silence has a pipeline without a name. -/
theorem outcome_eq_notConfigured_iff {turn : Turn round.moment round.subject}
    (hturn : turn ∈ round.turns) :
    turn.outcome = .ok .notConfigured ↔ round.Unnamed turn.type := by
  obtain ⟨_, -, -, hconfigured, -⟩ := round.course.exists_finding_of_turn hturn
  rw [turn.outcome_eq_notConfigured_iff]
  exact build?_eq_none_iff hconfigured

theorem mem_errors_summary {turn : Turn round.moment round.subject} (hturn : turn ∈ round.turns)
    {e : RunnerError} (he : turn.outcome = .error e) : e ∈ round.summary.errors.toList :=
  ErrorList.mem_ofOutcomes_iff.mpr (he ▸ List.mem_map_of_mem hturn)

/-- A condition of the kind of a verdict is stated exactly if the round was concluded with a verdict
of this kind. -/
theorem exists_condition_iff {o : Observation} (ho : o.isVerdict = true) :
    (∃ condition ∈ round.status.conditions, condition.kind = o.kind) ↔
      round.account.conclusion.kind = o.kind := by
  rw [round.status_observes.1]
  constructor
  · rintro ⟨_, hmem, heq⟩
    obtain ⟨stated, hstated, rfl⟩ := List.mem_map.mp hmem
    rcases List.mem_append.mp hstated with hremark | hverdict
    · exact absurd heq (Observation.kind_ne_of_isVerdict ho (isVerdict_of_mem_remarks hremark))
    · exact List.mem_singleton.mp hverdict ▸ heq
  · intro heq
    exact ⟨_, List.mem_map_of_mem (List.mem_append_right _ List.mem_cons_self), heq⟩

theorem exists_pending_iff :
    (∃ condition ∈ round.status.conditions, condition.kind = "PipelineRunsPending") ↔
      ∃ inFlight, round.account.conclusion = .runsPending inFlight := by
  refine (exists_condition_iff (o := .runsPending 0) rfl).trans ?_
  cases round.account.conclusion <;> simp [Observation.kind]

variable (round)

/-- Every pair that is flagged as lacking takes a turn, and unless its pipeline has no name the turn
comes to a run that is created or in flight, or to an error that is reported. The summary counts
just these turns. So runs are stated to be pending without any in flight only if releases lack
artifacts and none of the pairs that took turns has a pipeline with a name. -/
theorem answers_iff_named :
    (∀ tag t, round.Flags tag t →
      (∃ turn ∈ round.turns, turn.pair = (tag, t)) ∧
        ∀ turn ∈ round.turns, turn.pair = (tag, t) →
          (turn.Answers round.summary.errors.toList ↔ ¬round.Unnamed t)) ∧
      round.summary.created + round.summary.inFlight + round.summary.errors.size =
        round.turns.countP (fun turn => ¬round.Unnamed turn.type) ∧
      (((∃ condition ∈ round.status.conditions, condition.kind = "PipelineRunsPending") ∧
          round.summary.inFlight = 0) ↔
        round.Lacks ∧ ∀ turn ∈ round.turns, round.Unnamed turn.type) := by
  refine ⟨?_, ?_, ?_⟩
  · rintro _ t ⟨finding, hfinding, rfl, hmissing⟩
    refine ⟨round.course.exists_turn_of_isMissing hfinding hmissing, fun turn hturn hpair => ?_⟩
    obtain ⟨-, rfl⟩ := Prod.mk.inj hpair
    rw [turn.answers_iff fun e he => mem_errors_summary hturn he, Ne,
      outcome_eq_notConfigured_iff hturn]
  · rw [summary, RunSummary.counts, List.countP_map]
    apply List.countP_congr
    intro turn hturn
    simpa using not_congr (outcome_eq_notConfigured_iff hturn)
  · rw [exists_pending_iff, round.coherent.runsPending_iff, round.creates_iff,
      round.failsToCreate_iff]
    have hinFlight : round.summary.inFlight = 0 ↔
        ∀ turn ∈ round.turns, turn.outcome ≠ .ok .inFlight := by
      rw [summary, RunSummary.of, List.count_eq_zero, ErrorList.mem_values_iff, List.mem_map]
      simp only [not_exists, not_and, ne_eq]
    rw [hinFlight]
    constructor
    · rintro ⟨⟨hlacks, hcreates, hfails⟩, hnone⟩
      refine ⟨hlacks, fun turn hturn => ?_⟩
      rw [← outcome_eq_notConfigured_iff hturn]
      -- no other outcome is left
      cases houtcome : turn.outcome with
      | error e => exact absurd ⟨turn, hturn, e, houtcome⟩ hfails
      | ok outcome =>
          cases outcome with
          | created => exact absurd ⟨turn, hturn, houtcome⟩ hcreates
          | inFlight => exact absurd houtcome (hnone turn hturn)
          | notConfigured => rfl
    · rintro ⟨hlacks, hunnamed⟩
      have hsilent (turn : Turn round.moment round.subject) (hturn : turn ∈ round.turns) :
          turn.outcome = .ok .notConfigured :=
        (outcome_eq_notConfigured_iff hturn).mpr (hunnamed turn hturn)
      refine ⟨⟨hlacks, ?_, ?_⟩, fun turn hturn => by simp [hsilent turn hturn]⟩
      · rintro ⟨turn, hturn, hcreated⟩
        cases (hsilent turn hturn).symm.trans hcreated
      · rintro ⟨turn, hturn, e, hfailed⟩
        cases (hsilent turn hturn).symm.trans hfailed

end Round

/-! ## A round that passes a release over -/

/-- A repository of which the pipeline for the assets has no name. -/
def unnamedRepository : Repository :=
  { Repository.single none with
    spec := { (Repository.single none).spec with pipelines := { assets := some "" } } }

abbrev unnamedSubject : Subject := .ofRepository "ci" unnamedRepository

theorem ends_lookUpAll_unnamed :
    Ends (lookUpAll (.plain noon) unnamedSubject.spec
        (keptReleases unnamedSubject.spec [Finding.single.release]))
      [⟨.fetchAssets ⟨"owner", "repo", Finding.single.release⟩ false, .ok []⟩] [.ok .single] := by
  have hlookup : Ends (lookUp (.plain noon) unnamedSubject.spec .assets Finding.single.release)
      [⟨.fetchAssets ⟨"owner", "repo", Finding.single.release⟩ false, .ok []⟩] (.ok .single) := by
    apply Ends.ask
    exact .done _
  apply ends_lookUpAll_iff.mpr
  refine ⟨[((Finding.single.release, 0), [_], .ok .single)], rfl, ?_, rfl, rfl⟩
  exact List.forall_mem_singleton.mpr hlookup

/-- The turn of the only release, in which nothing can be requested. -/
def unnamedTurn : Turn (.plain noon) unnamedSubject where
  tag := "v1"
  type := .assets
  before := flagged (.plain noon) unnamedSubject.spec (begin noon {}) [.ok .single]
  exchanges := []
  outcome := .ok .notConfigured
  after := flagged (.plain noon) unnamedSubject.spec (begin noon {}) [.ok .single]
  lacking := by decide +kernel
  attempt := .notConfigured rfl

theorem turns_unnamed :
    Turns (.plain noon) unnamedSubject (pairs ["v1"]) unnamedTurn.before [unnamedTurn]
      unnamedTurn.after := by
  refine .take unnamedTurn (.pass ?_ (.nil _))
  decide +kernel

/-- A round in which the cluster knows the pipeline without a name, and the only release has no
assets. -/
def unnamedRound : Round "ci" "app" where
  controller := {}
  moment := .plain noon
  repository := unnamedRepository
  account := .built [Finding.single.release] [.ok .single] [unnamedTurn]
  opening := _
  delay := _
  status := _
  saved := .ok ()
  course := .built (ends_pipelineErrors_iff.mpr ⟨[("", .ok ())], rfl, rfl, rfl⟩) (.done _)
    ends_lookUpAll_unnamed turns_unnamed

/-- The assets are flagged as lacking, no turn answers for them, and runs are stated to be pending
although none is in flight. -/
theorem not_answers_unnamedRound :
    unnamedRound.Flags "v1" .assets ∧
      (¬∃ turn ∈ unnamedRound.turns, turn.pair = ("v1", .assets) ∧
        turn.Answers unnamedRound.summary.errors.toList) ∧
      (∃ condition ∈ unnamedRound.status.conditions, condition.kind = "PipelineRunsPending" ∧
        condition.message = some "0 PipelineRun(s) still in flight") ∧
      unnamedRound.summary.inFlight = 0 := by
  refine ⟨⟨.single, List.mem_cons_self, rfl, by decide +kernel⟩, ?_, ?_, rfl⟩
  · rintro ⟨turn, hturn, -, hanswers⟩
    obtain rfl : turn = unnamedTurn := List.mem_singleton.mp hturn
    have hsilent := (unnamedTurn.answers_iff fun _ he => by cases he).mp hanswers
    exact hsilent rfl
  · exact ⟨(Observation.runsPending 0).condition noon, List.mem_cons_self, rfl, rfl⟩

end ReleaseBuilds.Cycle
