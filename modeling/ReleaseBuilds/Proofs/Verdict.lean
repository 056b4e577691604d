import ReleaseBuilds.Proofs.Opening

/-!
# The verdict of a round

Every round of a loaded repository saves one status. It states one verdict about the round, and
beside the verdict at most that the filter is invalid and that lookups failed. Which verdict it is
depends on the answers that were given in the round; what earlier rounds stated has no part in it.
-/

namespace ReleaseBuilds

namespace Observation

/-- The observation says how a cycle ended. The others can accompany it. -/
def isVerdict : Observation → Bool
  | .filterInvalid _ | .artifactsNotFetched => false
  | _ => true

/-- The cycle ended before any artifact was looked up. -/
def endsEarly : Observation → Bool
  | .pipelinesUnavailable _ | .releasesNotFetched _ => true
  | _ => false

/-- The conditions of verdicts are of other kinds than those that accompany them. -/
theorem kind_ne_of_isVerdict {verdict o : Observation} (hverdict : verdict.isVerdict = true)
    (ho : o.isVerdict = false) : o.kind ≠ verdict.kind := by
  -- going through the verdicts first spares the cases of the other observation for each of them
  have hkinds : verdict.kind ≠ "VersionFilterInvalid" ∧
      verdict.kind ≠ "FetchReleaseArtifactsFailed" := by
    cases verdict with
    | filterInvalid => cases hverdict
    | artifactsNotFetched => cases hverdict
    | _ => exact ⟨by simp [kind], by simp [kind]⟩
  cases o with
  | filterInvalid => exact hkinds.1.symm
  | artifactsNotFetched => exact hkinds.2.symm
  | _ => cases ho

end Observation

/-- One more observation is stated after those before it, if it is of another kind. -/
theorem Repository.Status.conditions_setCondition {s : Repository.Status}
    {observations : List Observation} {o : Observation} {now : Instant}
    (hconditions : s.conditions = observations.map (·.condition now))
    (hnew : o.kind ∉ observations.map Observation.kind) :
    (s.setCondition (o.condition now)).conditions =
      (observations ++ [o]).map (·.condition now) := by
  have hkinds : s.conditions.map Condition.kind = observations.map Observation.kind := by
    rw [hconditions, List.map_map]
    rfl
  rw [setCondition, upsert_of_not_mem (hkinds ▸ hnew), hconditions, List.map_append]
  rfl

/-- A repository of which the last status stated something else. -/
def Repository.withNotes (repository : Repository) (ready : Bool)
    (conditions : List Repository.Condition) : Repository :=
  { repository with status := some { repository.known with ready, conditions } }

namespace Cycle

open Dialogue

/-! ## What is observed -/

section Stages

variable {c : Controller} {m : Moment} {subject : Subject} {s s' : Repository.Status}
  {delay : Delay} {account : Account m subject} {opening : List Exchanged}

/-- What is observed about the filter. -/
def filterRemarks (spec : Repository.Spec) : List Observation :=
  (builtFilter spec).2.toList.map .filterInvalid

/-- What is observed about lookups that failed. -/
def lookupRemarks (errors : List GithubError) : List Observation :=
  if errors.isEmpty then [] else [.artifactsNotFetched]

theorem mem_filterRemarks_iff {spec : Repository.Spec} {o : Observation} :
    o ∈ filterRemarks spec ↔ ∃ filterSpec e, spec.filter = some filterSpec ∧
      Filter.ofSpec filterSpec = .error e ∧ o = .filterInvalid e := by
  unfold filterRemarks builtFilter
  cases spec.filter with
  | none => simp
  | some filterSpec => cases hspec : Filter.ofSpec filterSpec <;> simp [hspec]

theorem mem_lookupRemarks_iff {errors : List GithubError} {o : Observation} :
    o ∈ lookupRemarks errors ↔ errors ≠ [] ∧ o = .artifactsNotFetched := by
  cases errors <;> simp [lookupRemarks]

namespace Account

/-- How the cycle ended. -/
def conclusion : Account m subject → Observation
  | .pipelinesUnavailable errors => .pipelinesUnavailable (pipelineProblem errors)
  | .releasesNotFetched error => .releasesNotFetched error.quota?.isSome
  | .built _ lookups turns => verdict (lackingOf subject.spec lookups) turns

/-- What is observed beside that. -/
def remarks : Account m subject → List Observation
  | .built _ lookups _ => filterRemarks subject.spec ++ lookupRemarks (failuresOf lookups)
  | _ => []

end Account

/-- The cleanup changes nothing but what is known about releases. -/
theorem sameNotes_of_ends_cleanup {cleaned : Repository.Status} {exchanges : List Exchanged}
    (hends : Ends (cleanup m subject s) exchanges cleaned) :
    Repository.Status.SameNotes s cleaned := by
  obtain ⟨_, -, -, rfl⟩ := ends_cleanup_iff.mp hends
  exact s.sameNotes_dropRuns _

theorem Attempt.sameNotes {tag : String} {t : ArtifactType} {exchanges : List Exchanged}
    {outcome : Except RunnerError RunOutcome}
    (hattempt : Attempt m subject s tag t exchanges outcome s') :
    Repository.Status.SameNotes s s' := by
  cases hattempt with
  | notConfigured => exact .refl s
  | inFlight => exact .refl s
  | failed => exact .refl s
  | created => exact ⟨rfl, rfl, rfl⟩

theorem Turns.sameNotes {pairs : List (String × ArtifactType)} {turns : List (Turn m subject)}
    (hturns : Turns m subject pairs s turns s') : Repository.Status.SameNotes s s' :=
  (hturns.invariant (P := Repository.Status.SameNotes s) (.refl s)
    fun turn _ hbefore => hbefore.trans turn.attempt.sameNotes).1

/-- Whatever the turns come to is a verdict. -/
theorem isVerdict_verdict (lacking : List String) (turns : List (Turn m subject)) :
    (verdict lacking turns).isVerdict = true ∧ (verdict lacking turns).endsEarly = false := by
  unfold verdict verdictOf
  split_ifs <;> exact ⟨rfl, rfl⟩

theorem isVerdict_conclusion (account : Account m subject) :
    account.conclusion.isVerdict = true := by
  cases account with
  | pipelinesUnavailable => rfl
  | releasesNotFetched => rfl
  | built => exact (isVerdict_verdict _ _).1

/-- What is observed when the releases could not be fetched. -/
theorem observation_releasesFailure (c : Controller) (m : Moment) (error : GithubError) :
    (releasesFailure c m error).1 = .releasesNotFetched error.quota?.isSome := by
  unfold releasesFailure
  cases error.quota? <;> rfl

/-- The conditions when scheduling begins are the remarks of this cycle. -/
theorem conditions_flagged {cleaned : Repository.Status} (hnone : cleaned.conditions = [])
    (lookups : List Lookup) :
    (flagged m subject.spec cleaned lookups).conditions =
      (filterRemarks subject.spec ++ lookupRemarks (failuresOf lookups)).map
        (·.condition m.now) := by
  have hnarrowed : (narrowed m subject.spec cleaned).conditions =
      (filterRemarks subject.spec).map (·.condition m.now) := by
    unfold narrowed filterRemarks
    -- the filter is the first to be remarked on, when no condition is stated yet
    cases (builtFilter subject.spec).2 with
    | none => exact hnone
    | some e =>
        have hbefore : cleaned.conditions = [].map fun o : Observation => o.condition m.now := hnone
        exact Repository.Status.conditions_setCondition hbefore List.not_mem_nil
  have hreported : (reported m (narrowed m subject.spec cleaned) (failuresOf lookups)).conditions =
      (filterRemarks subject.spec ++ lookupRemarks (failuresOf lookups)).map
        (·.condition m.now) := by
    unfold reported lookupRemarks
    split
    next => rw [List.append_nil, hnarrowed]
    next =>
      apply Repository.Status.conditions_setCondition hnarrowed
      unfold filterRemarks
      cases (builtFilter subject.spec).2 <;> simp [Observation.kind]
  rw [flagged, (Repository.Status.sameNotes_takeUp _ _ _).conditions, hreported]

theorem lastCheck_flagged (m : Moment) (spec : Repository.Spec) (cleaned : Repository.Status)
    (lookups : List Lookup) : (flagged m spec cleaned lookups).lastCheck = cleaned.lastCheck := by
  have hnarrowed : (narrowed m spec cleaned).lastCheck = cleaned.lastCheck := by
    unfold narrowed
    cases (builtFilter spec).2 <;> rfl
  rw [flagged, (Repository.Status.sameNotes_takeUp _ _ _).lastCheck, reported]
  split
  next => exact hnarrowed
  next => exact hnarrowed

/-- What accompanies the verdict is no other verdict. -/
theorem isVerdict_of_mem_remarks {o : Observation} (ho : o ∈ account.remarks) :
    o.isVerdict = false := by
  cases account with
  | pipelinesUnavailable => exact absurd ho List.not_mem_nil
  | releasesNotFetched => exact absurd ho List.not_mem_nil
  | built releases lookups turns =>
      rcases List.mem_append.mp ho with hfilter | hlookups
      · obtain ⟨_, _, -, -, rfl⟩ := mem_filterRemarks_iff.mp hfilter
        rfl
      · obtain ⟨-, rfl⟩ := mem_lookupRemarks_iff.mp hlookups
        rfl

theorem kind_conclusion_notMem (account : Account m subject) :
    account.conclusion.kind ∉ account.remarks.map Observation.kind := by
  intro hmem
  obtain ⟨o, ho, heq⟩ := List.mem_map.mp hmem
  exact Observation.kind_ne_of_isVerdict (isVerdict_conclusion account)
    (isVerdict_of_mem_remarks ho) heq

/-- No kind of condition is stated twice. -/
theorem nodup_kinds (account : Account m subject) :
    ((account.remarks ++ [account.conclusion]).map Observation.kind).Nodup := by
  have hremarks : (account.remarks.map Observation.kind).Nodup := by
    cases account with
    | pipelinesUnavailable => exact List.nodup_nil
    | releasesNotFetched => exact List.nodup_nil
    | built releases lookups turns =>
        rw [Account.remarks, filterRemarks, lookupRemarks]
        cases (builtFilter subject.spec).2 <;> split_ifs <;> simp [Observation.kind]
  rw [List.map_append, List.nodup_append]
  refine ⟨hremarks, List.pairwise_singleton .., ?_⟩
  intro kind hkind last hlast heq
  rw [heq, List.mem_singleton.mp hlast] at hkind
  exact kind_conclusion_notMem account hkind

/-- A cycle states what it observes, in the order in which it does. -/
theorem Course.observes (hcourse : Course c m subject s account opening delay s')
    (hnone : s.conditions = []) (hready : s.ready = false) :
    s'.conditions = (account.remarks ++ [account.conclusion]).map (·.condition m.now) ∧
      s'.ready = account.conclusion.isReady ∧ s'.lastCheck = s.lastCheck := by
  cases hcourse with
  | pipelinesUnavailable =>
      refine ⟨?_, hready, rfl⟩
      rw [Repository.Status.setCondition, hnone]
      rfl
  | releasesNotFetched _ hcleaning error =>
      have hnotes := sameNotes_of_ends_cleanup hcleaning
      refine ⟨?_, hnotes.ready.trans hready, hnotes.lastCheck⟩
      rw [notFetched, observation_releasesFailure, Repository.Status.setCondition,
        hnotes.conditions, hnone]
      rfl
  | built _ hcleaning _ hturns =>
      have hcleaned := sameNotes_of_ends_cleanup hcleaning
      refine ⟨?_, rfl, ?_⟩
      · apply Repository.Status.conditions_setCondition _ (kind_conclusion_notMem (.built _ _ _))
        rw [hturns.sameNotes.conditions]
        exact conditions_flagged (hcleaned.conditions.trans hnone) _
      · calc
          _ = (flagged m subject.spec _ _).lastCheck := hturns.sameNotes.lastCheck
          _ = _ := lastCheck_flagged ..
          _ = s.lastCheck := hcleaned.lastCheck

end Stages

/-! ## What comes of requests -/

section Turns

variable {m : Moment} {subject : Subject} {s s' : Repository.Status} {tag : String}
  {t : ArtifactType} {exchanges : List Exchanged} {outcome : Except RunnerError RunOutcome}

/-- A turn in which a run is requested comes to what the cluster answered. -/
theorem Attempt.outcome_of_mem (hattempt : Attempt m subject s tag t exchanges outcome s')
    {request : RunRequest} {answer : Except RunnerError RunState}
    (hmem : (⟨.createRun request, answer⟩ : Exchanged) ∈ exchanges) :
    outcome = answer.map fun _ => .created := by
  have hlooked {looked rest : List Exchanged} {now : Instant} {record : Option Repository.RunRecord}
      (hsettled : Settled now subject.ns record looked)
      (hmem : (⟨.createRun request, answer⟩ : Exchanged) ∈ looked ++ rest) :
      (⟨.createRun request, answer⟩ : Exchanged) ∈ rest := by
    rcases List.mem_append.mp hmem with hmem | hmem
    · obtain ⟨_, _, -, heq⟩ := hsettled.call_eq hmem
      cases heq
    · exact hmem
  cases hattempt with
  | notConfigured => exact absurd hmem List.not_mem_nil
  | inFlight => cases List.mem_singleton.mp hmem
  | failed _ hsettled error =>
      cases List.mem_singleton.mp (hlooked hsettled hmem)
      rfl
  | created _ hsettled run =>
      rcases List.mem_cons.mp (hlooked hsettled hmem) with heq | hmem
      · cases heq
        rfl
      · cases List.mem_singleton.mp hmem

/-- A turn only comes to a created run if the cluster answered so. -/
theorem Attempt.exists_created (hattempt : Attempt m subject s tag t exchanges outcome s')
    (houtcome : outcome = .ok .created) :
    ∃ request run, (⟨.createRun request, .ok run⟩ : Exchanged) ∈ exchanges := by
  cases hattempt with
  | notConfigured => cases houtcome
  | inFlight => cases houtcome
  | failed => cases houtcome
  | created _ _ run => exact ⟨_, run, List.mem_append_right _ List.mem_cons_self⟩

/-- A turn only fails with what the cluster answered. -/
theorem Attempt.exists_failed (hattempt : Attempt m subject s tag t exchanges outcome s')
    {e : RunnerError} (houtcome : outcome = .error e) :
    ∃ request, (⟨.createRun request, .error e⟩ : Exchanged) ∈ exchanges := by
  cases hattempt with
  | notConfigured => cases houtcome
  | inFlight => cases houtcome
  | failed _ _ error =>
      cases houtcome
      exact ⟨_, List.mem_append_right _ List.mem_cons_self⟩
  | created => cases houtcome

/-- The verdict about what is lacking goes by the turns: nothing lacks, a run was created, none was
and some request failed, or none was requested. -/
theorem verdict_cases (lacking : List String) (turns : List (Turn m subject)) :
    (lacking = [] ∧ verdict lacking turns = .noRunsNeeded) ∨
      (lacking ≠ [] ∧ (∃ turn ∈ turns, turn.outcome = .ok .created) ∧
        ∃ withErrors, verdict lacking turns = .runsCreated withErrors) ∨
      (lacking ≠ [] ∧ (∀ turn ∈ turns, turn.outcome ≠ .ok .created) ∧
        (∃ turn ∈ turns, ∃ e, turn.outcome = .error e) ∧ verdict lacking turns = .runsNotCreated) ∨
      (lacking ≠ [] ∧ (∀ turn ∈ turns, turn.outcome ≠ .ok .created) ∧
        (∀ turn ∈ turns, ∀ e, turn.outcome ≠ .error e) ∧
          ∃ inFlight, verdict lacking turns = .runsPending inFlight) := by
  have hcreated : 0 < (RunSummary.of (turns.map Turn.outcome)).created ↔
      ∃ turn ∈ turns, turn.outcome = .ok .created := by
    rw [RunSummary.of, List.count_pos_iff, ErrorList.mem_values_iff, List.mem_map]
  have herrors : (RunSummary.of (turns.map Turn.outcome)).errors.isEmpty = false ↔
      ∃ turn ∈ turns, ∃ e, turn.outcome = .error e := by
    rw [RunSummary.of, ErrorList.isEmpty, List.isEmpty_eq_false_iff_exists_mem]
    simp only [ErrorList.mem_ofOutcomes_iff, List.mem_map]
    constructor
    · rintro ⟨e, turn, hturn, he⟩
      exact ⟨turn, hturn, e, he⟩
    · rintro ⟨turn, hturn, e, he⟩
      exact ⟨e, turn, hturn, he⟩
  unfold verdict verdictOf
  -- the three questions that decide on the verdict, in the order in which they are asked
  by_cases hlacking : lacking = []
  · exact .inl ⟨hlacking, by rw [hlacking]; rfl⟩
  · rw [if_neg (by simpa using hlacking)]
    by_cases hsome : ∃ turn ∈ turns, turn.outcome = .ok .created
    · rw [if_pos (hcreated.mpr hsome)]
      exact .inr (.inl ⟨hlacking, hsome, _, rfl⟩)
    · rw [if_neg fun h => hsome (hcreated.mp h)]
      have hnone : ∀ turn ∈ turns, turn.outcome ≠ .ok .created := by
        intro turn hturn heq
        exact hsome ⟨turn, hturn, heq⟩
      by_cases hfailed : ∃ turn ∈ turns, ∃ e, turn.outcome = .error e
      · rw [if_neg (by rw [herrors.mpr hfailed]; exact Bool.false_ne_true)]
        exact .inr (.inr (.inl ⟨hlacking, hnone, hfailed, rfl⟩))
      · have hempty : (RunSummary.of (turns.map Turn.outcome)).errors.isEmpty = true := by
          rw [← Bool.not_eq_false, herrors]
          exact hfailed
        rw [if_pos hempty]
        refine .inr (.inr (.inr ⟨hlacking, hnone, ?_, _, rfl⟩))
        intro turn hturn e he
        exact hfailed ⟨turn, hturn, e, he⟩

end Turns

/-! ## Rounds -/

/-- The repository of which the status is saved in an exchange. -/
def savedStatus? : Exchanged → Option Repository
  | ⟨.saveStatus repository, _⟩ => some repository
  | _ => none

namespace Round

variable {ns name : String} (round : Round ns name)

/-- The releases are fetched in the round. -/
def Fetches : Prop :=
  ∃ query cancelled releases,
    (⟨.fetchReleases query cancelled, .ok releases⟩ : Exchanged) ∈ round.exchanges

/-- A release of which all artifacts were looked up lacks one that is looked after. -/
def Lacks : Prop := ∃ finding ∈ round.account.findings, finding.lacks round.repository.spec = true

/-- A run is created in the round. -/
def Creates : Prop :=
  ∃ request run, (⟨.createRun request, .ok run⟩ : Exchanged) ∈ round.exchanges

/-- A run that is requested in the round is not created. -/
def FailsToCreate : Prop :=
  ∃ request e, (⟨.createRun request, .error e⟩ : Exchanged) ∈ round.exchanges

theorem fetches_iff :
    round.Fetches ↔ ∃ releases lookups turns, round.account = .built releases lookups turns := by
  constructor
  · rintro ⟨query, cancelled, releases, hmem⟩
    obtain ⟨-, -, -, -, hanswer⟩ := round.fetched_of_mem hmem
    cases haccount : round.account with
    | pipelinesUnavailable => simp [haccount, Account.fetched?] at hanswer
    | releasesNotFetched => simp [haccount, Account.fetched?] at hanswer
    | built releases lookups turns => exact ⟨releases, lookups, turns, rfl⟩
  · rintro ⟨releases, lookups, turns, haccount⟩
    have hanswer : round.account.fetched? = some (.ok releases) := by
      rw [haccount]
      rfl
    obtain ⟨_, _, -, hmem⟩ := round.course.exists_fetched hanswer
    exact ⟨_, _, _, round.mem_exchanges_of_mem_opening hmem⟩

theorem creates_iff : round.Creates ↔ ∃ turn ∈ round.turns, turn.outcome = .ok .created := by
  constructor
  · rintro ⟨request, run, hmem⟩
    obtain ⟨turn, hturn, hasked⟩ := round.exists_turn_of_request hmem
    exact ⟨turn, hturn, turn.attempt.outcome_of_mem hasked⟩
  · rintro ⟨turn, hturn, houtcome⟩
    obtain ⟨request, run, hasked⟩ := turn.attempt.exists_created houtcome
    exact ⟨request, run, round.mem_exchanges_of_mem_turn hturn hasked⟩

theorem failsToCreate_iff :
    round.FailsToCreate ↔ ∃ turn ∈ round.turns, ∃ e, turn.outcome = .error e := by
  constructor
  · rintro ⟨request, e, hmem⟩
    obtain ⟨turn, hturn, hasked⟩ := round.exists_turn_of_request hmem
    exact ⟨turn, hturn, e, turn.attempt.outcome_of_mem hasked⟩
  · rintro ⟨turn, hturn, e, houtcome⟩
    obtain ⟨request, hasked⟩ := turn.attempt.exists_failed houtcome
    exact ⟨request, e, round.mem_exchanges_of_mem_turn hturn hasked⟩

/-- The ways in which a round can end, each with its verdict. -/
theorem conclusion_cases :
    (¬round.Fetches ∧ ¬round.Lacks ∧
        ((∃ problem, round.account.conclusion = .pipelinesUnavailable problem) ∨
          ∃ quota, round.account.conclusion = .releasesNotFetched quota)) ∨
      (round.Fetches ∧ ¬round.Lacks ∧ round.account.conclusion = .noRunsNeeded) ∨
      (round.Fetches ∧ round.Lacks ∧ round.Creates ∧
        ∃ withErrors, round.account.conclusion = .runsCreated withErrors) ∨
      (round.Fetches ∧ round.Lacks ∧ ¬round.Creates ∧ round.FailsToCreate ∧
        round.account.conclusion = .runsNotCreated) ∨
      (round.Fetches ∧ round.Lacks ∧ ¬round.Creates ∧ ¬round.FailsToCreate ∧
        ∃ inFlight, round.account.conclusion = .runsPending inFlight) := by
  rw [creates_iff, failsToCreate_iff, fetches_iff]
  unfold Lacks turns
  cases haccount : round.account with
  | pipelinesUnavailable errors =>
      refine .inl ⟨?_, ?_, .inl ⟨_, rfl⟩⟩
      · rintro ⟨_, _, _, heq⟩
        cases heq
      · rintro ⟨_, hfinding, -⟩
        exact absurd hfinding List.not_mem_nil
  | releasesNotFetched error =>
      refine .inl ⟨?_, ?_, .inr ⟨_, rfl⟩⟩
      · rintro ⟨_, _, _, heq⟩
        cases heq
      · rintro ⟨_, hfinding, -⟩
        exact absurd hfinding List.not_mem_nil
  | built releases lookups turns =>
      have hlacks : lackingOf round.repository.spec lookups ≠ [] ↔
          ∃ finding ∈ ErrorList.values lookups, finding.lacks round.repository.spec = true := by
        simp [lackingOf, Repository.lackingTags]
      refine .inr ?_
      rcases verdict_cases (lackingOf round.repository.spec lookups) turns with
        ⟨hnone, heq⟩ | ⟨hsome, hcreated, heq⟩ | ⟨hsome, hcreated, hfailed, heq⟩ |
        ⟨hsome, hcreated, hfailed, heq⟩
      · refine .inl ⟨⟨_, _, _, rfl⟩, ?_, heq⟩
        exact fun h => hlacks.mpr h hnone
      · exact .inr (.inl ⟨⟨_, _, _, rfl⟩, hlacks.mp hsome, hcreated, heq⟩)
      · refine .inr (.inr (.inl ⟨⟨_, _, _, rfl⟩, hlacks.mp hsome, ?_, hfailed, heq⟩))
        rintro ⟨turn, hturn, houtcome⟩
        exact hcreated turn hturn houtcome
      · refine .inr (.inr (.inr ⟨⟨_, _, _, rfl⟩, hlacks.mp hsome, ?_, ?_, heq⟩))
        · rintro ⟨turn, hturn, houtcome⟩
          exact hcreated turn hturn houtcome
        · rintro ⟨turn, hturn, e, houtcome⟩
          exact hfailed turn hturn e houtcome

/-- The saved status states one verdict about the round and the remarks that go with it, and
nothing else. -/
structure Coherent (verdict : Observation) (remarks : List Observation) : Prop where
  saved_once : round.exchanges.filterMap savedStatus? =
    [{ round.repository with status := some round.status }]
  /-- A round has one reading of the clock, that of its start. Every condition bears it too, where a
  clock that is read once more for each condition gives later times. -/
  lastCheck : round.status.lastCheck = some round.now
  conditions : round.status.conditions = (remarks ++ [verdict]).map (·.condition round.now)
  kinds_nodup : (round.status.conditions.map Repository.Condition.kind).Nodup
  isVerdict : verdict.isVerdict = true
  /-- Remarks are about the filter or about lookups that failed. -/
  not_isVerdict : ∀ o ∈ remarks, o.isVerdict = false
  ready_iff : round.status.ready = true ↔
    verdict = .noRunsNeeded ∨ ∃ withErrors, verdict = .runsCreated withErrors
  alone : ¬round.Fetches → remarks = []
  filterInvalid_iff : round.Fetches → ∀ e, .filterInvalid e ∈ remarks ↔
    ∃ filterSpec, round.repository.spec.filter = some filterSpec ∧
      Filter.ofSpec filterSpec = .error e
  artifactsNotFetched_iff : round.Fetches → (.artifactsNotFetched ∈ remarks ↔
    ∃ lookup ∈ artifactLookups round.exchanges, ∃ e, lookup.found = .error e)
  endsEarly_iff : verdict.endsEarly = true ↔ ¬round.Fetches
  noRunsNeeded_iff : verdict = .noRunsNeeded ↔ round.Fetches ∧ ¬round.Lacks
  runsCreated_iff : (∃ withErrors, verdict = .runsCreated withErrors) ↔
    round.Lacks ∧ round.Creates
  runsNotCreated_iff : verdict = .runsNotCreated ↔
    round.Lacks ∧ ¬round.Creates ∧ round.FailsToCreate
  runsPending_iff : (∃ inFlight, verdict = .runsPending inFlight) ↔
    round.Lacks ∧ ¬round.Creates ∧ ¬round.FailsToCreate

/-- A round saves one status, at its end. -/
theorem savedStatuses : round.exchanges.filterMap savedStatus? =
    [{ round.repository with status := some round.status }] := by
  have hopening : round.opening.filterMap savedStatus? = [] := by
    apply List.filterMap_eq_nil_iff.mpr
    intro x hx
    have hwrites := (round.course.opens hx).writes_eq_false
    obtain ⟨call, answer⟩ := x
    cases call with
    | saveStatus => cases hwrites
    | _ => rfl
  have hturns : (round.turns.flatMap Turn.exchanges).filterMap savedStatus? = [] := by
    apply List.filterMap_eq_nil_iff.mpr
    intro x hx
    obtain ⟨turn, -, hx⟩ := List.mem_flatMap.mp hx
    cases turn.attempt.asks hx with
    | run => rfl
    | request => rfl
    | notice => rfl
  rw [exchanges, List.filterMap_append, List.filterMap_append, List.filterMap_cons, hopening,
    hturns]
  rfl

theorem status_observes :
    round.status.conditions = (round.account.remarks ++ [round.account.conclusion]).map
        (·.condition round.now) ∧
      round.status.ready = round.account.conclusion.isReady ∧
        round.status.lastCheck = some round.now :=
  round.course.observes rfl rfl

/-- What is remarked in a round that fetches the releases. -/
theorem mem_remarks_iff (hfetches : round.Fetches) {o : Observation} :
    o ∈ round.account.remarks ↔
      (∃ filterSpec e, round.repository.spec.filter = some filterSpec ∧
        Filter.ofSpec filterSpec = .error e ∧ o = .filterInvalid e) ∨
      (∃ lookup ∈ artifactLookups round.exchanges, ∃ e, lookup.found = .error e) ∧
        o = .artifactsNotFetched := by
  obtain ⟨releases, lookups, turns, haccount⟩ := round.fetches_iff.mp hfetches
  obtain ⟨looking, hlooking, hlookups⟩ := round.exists_lookUpAll
  simp only [hlookups]
  rw [← failures_ne_nil_iff hlooking, haccount, Account.remarks, List.mem_append,
    mem_filterRemarks_iff, mem_lookupRemarks_iff]
  rfl

theorem remarks_eq_nil (hfetches : ¬round.Fetches) : round.account.remarks = [] := by
  cases haccount : round.account with
  | pipelinesUnavailable => rfl
  | releasesNotFetched => rfl
  | built releases lookups turns =>
      exact absurd (round.fetches_iff.mpr ⟨releases, lookups, turns, haccount⟩) hfetches

/-- Whatever is answered in a round, what it saves is coherent. -/
theorem coherent : round.Coherent round.account.conclusion round.account.remarks := by
  obtain ⟨hconditions, hready, hlastCheck⟩ := round.status_observes
  constructor
  · exact round.savedStatuses
  · exact hlastCheck
  · exact hconditions
  · rw [hconditions, List.map_map]
    exact nodup_kinds round.account
  · exact isVerdict_conclusion round.account
  · intro o ho
    exact isVerdict_of_mem_remarks ho
  · rw [hready]
    cases round.account.conclusion <;> simp [Observation.isReady]
  · exact round.remarks_eq_nil
  · intro hfetches e
    rw [round.mem_remarks_iff hfetches]
    simp
  · intro hfetches
    rw [round.mem_remarks_iff hfetches]
    simp
  -- what is left says which verdict it is
  all_goals
    rcases round.conclusion_cases with ⟨hfetches, hlacks, ⟨_, heq⟩ | ⟨_, heq⟩⟩ |
      ⟨hfetches, hlacks, heq⟩ | ⟨hfetches, hlacks, hcreates, _, heq⟩ |
      ⟨hfetches, hlacks, hcreates, hfails, heq⟩ | ⟨hfetches, hlacks, hcreates, hfails, _, heq⟩ <;>
      simp [*, Observation.endsEarly]

end Round

/-! ## What earlier rounds stated -/

/-- The same round after rounds that stated something else. -/
def Round.withNotes {ns name : String} (round : Round ns name) (ready : Bool)
    (conditions : List Repository.Condition) : Round ns name :=
  { round with
    repository := round.repository.withNotes ready conditions
    account := round.account
    course := round.course }

/-- Every cycle of a loaded repository saves one status, which states one verdict about the cycle.
Had the loaded status stated anything else, the same answers to the same questions would have come
to the same. -/
theorem reconcile_coherent {c : Controller} {m : Moment} {ns name : String}
    {repository : Repository} {rest : List Exchanged}
    {result : Except LoadError (Option Delay)}
    (hends : Ends (reconcile c m ns name) (⟨.load ns name, .ok (some repository)⟩ :: rest) result) :
    (∃ round : Round ns name, round.moment = m ∧ round.repository = repository ∧
      round.exchanges = ⟨.load ns name, .ok (some repository)⟩ :: rest ∧
        result = .ok (some round.requeueAfter) ∧
          ∃ verdict remarks, round.Coherent verdict remarks) ∧
      ∀ ready conditions, Ends (reconcile c m ns name)
        (⟨.load ns name, .ok (some (repository.withNotes ready conditions))⟩ :: rest) result := by
  obtain ⟨round, rfl, rfl, rfl, hexchanges, rfl⟩ := exists_round_of_loaded hends
  obtain ⟨-, hrest⟩ := List.cons.inj hexchanges
  constructor
  · exact ⟨round, rfl, rfl, hexchanges, rfl, _, _, round.coherent⟩
  · intro ready conditions
    apply ends_reconcile_iff.mpr
    -- the same course serves: `begin` clears what was stated before anything is asked
    refine ⟨round.withNotes ready conditions, rfl, rfl, ?_, rfl⟩
    rw [← hrest]
    rfl

/-- A cycle in which a run is created ends in the same way whether the cycle before it stated that
nothing was needed or stated nothing at all. -/
theorem coherent_single :
    ∃ rest result,
      Ends (reconcile {} (.plain .epoch) "ci" "app")
          (⟨.load "ci" "app", .ok (some (.single none))⟩ :: rest) result ∧
        (∃ (round : Round "ci" "app") (verdict : Observation) (remarks : List Observation),
          round.Coherent verdict remarks) ∧
        Ends (reconcile {} (.plain .epoch) "ci" "app")
          (⟨.load "ci" "app", .ok (some ((Repository.single none).withNotes true
            [Observation.noRunsNeeded.condition .epoch]))⟩ :: rest) result := by
  let round := Round.single .epoch none (begin .epoch {}) (.done _)
    (.created rfl .unrecorded { name := "build-1" })
  have hends := ends_reconcile_iff.mpr ⟨round, rfl, rfl, rfl, rfl⟩
  obtain ⟨⟨saved, -, -, -, -, verdict, remarks, hcoherent⟩, hothers⟩ := reconcile_coherent hends
  exact ⟨_, _, hends, ⟨saved, verdict, remarks, hcoherent⟩, hothers true _⟩

end Cycle

end ReleaseBuilds
