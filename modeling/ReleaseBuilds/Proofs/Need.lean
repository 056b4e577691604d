import ReleaseBuilds.Proofs.Opening

/-!
# Runs are requested where they are needed

Whatever a cycle is answered, a request for a run is preceded, in the same cycle, by everything that
makes the run needed. Flags and records that were stored earlier cannot replace any of it.
-/

namespace ReleaseBuilds.Cycle

open Dialogue

/-! ## What a request says -/

/-- A request names the pipeline of its kind, which is not empty, and its tag as the revision. -/
theorem build?_eq_some {spec : Repository.Spec} {ns tag : String} {t : ArtifactType}
    {request : RunRequest} (hbuild : RunRequest.build? spec ns tag t = some request) :
    spec.pipelines.get? t = some request.pipeline ∧ request.pipeline ≠ "" ∧
      request.params.get? "revision" = some tag := by
  obtain ⟨pipeline, hpipeline, rfl⟩ := Option.map_eq_some_iff.mp hbuild
  obtain ⟨hget, hname⟩ := Option.filter_eq_some_iff.mp hpipeline
  refine ⟨hget, by simpa using hname, ?_⟩
  simp [RunRequest.paramsOf, TextMap.ofList, TextMap.get?_insert]

/-! ## What scheduling goes by -/

/-- A release is kept if it was fetched, the filter admits its tag and the deny list lacks it. -/
theorem mem_keptReleases_iff {spec : Repository.Spec} {releases : List Release}
    {release : Release} :
    release ∈ keptReleases spec releases ↔
      release ∈ releases ∧ release.tag ∉ spec.omitted ∧
        ∀ filterSpec, spec.filter = some filterSpec →
          ∃ f, Filter.ofSpec filterSpec = .ok f ∧ f.admits release.tag = .ok true := by
  have hkeeps : Filter.keeps (builtFilter spec).1 spec.omitted release.tag = true ↔
      release.tag ∉ spec.omitted ∧ ∀ filterSpec, spec.filter = some filterSpec →
        ∃ f, Filter.ofSpec filterSpec = .ok f ∧ f.admits release.tag = .ok true := by
    cases hfilter : spec.filter with
    | none => simp [Filter.keeps, builtFilter, hfilter]
    | some filterSpec =>
        cases hbuilt : Filter.ofSpec filterSpec with
        | error e => simp [Filter.keeps, Filter.admits, builtFilter, hfilter, hbuilt]
        | ok f =>
            cases hadmits : f.admits release.tag <;>
              simp [Filter.keeps, builtFilter, hfilter, hbuilt, hadmits, and_comm]
  rw [keptReleases, Filter.apply, List.mem_filter, hkeeps]

/-- The flags of a release about which something was found are those of one of the findings,
whatever was flagged before. -/
theorem exists_flags_of_finding (spec : Repository.Spec) {findings : List Finding}
    {finding : Finding} (hfinding : finding ∈ findings) :
    ∃ last ∈ findings, last.tag = finding.tag ∧ ∀ s : Repository.Status,
      ((s.takeUp spec findings).release finding.tag).missing = last.flags spec := by
  obtain ⟨before, last, after, rfl, htag, hafter⟩ := Repository.Status.exists_last hfinding
  refine ⟨last, by simp, htag, fun s => ?_⟩
  rw [← htag, s.release_takeUp_of_last spec hafter]

/-- A kind is flagged as lacking if it is looked after and not found. -/
theorem isMissing_of_flags {r : Repository.ReleaseStatus} {finding : Finding}
    {spec : Repository.Spec} (hflags : r.missing = finding.flags spec) (t : ArtifactType) :
    r.isMissing t = (spec.isConfigured t && !finding.has t) := by
  rw [Repository.ReleaseStatus.isMissing, hflags, Finding.flags, PerArtifact.get?_ofFn]
  cases spec.isConfigured t <;> rfl

/-- The cleanup drops records, not flags. -/
theorem sameFlags_of_ends_cleanup {m : Moment} {subject : Subject} {s cleaned : Repository.Status}
    {exchanges : List Exchanged} (hends : Ends (cleanup m subject s) exchanges cleaned)
    (tag : String) : Repository.Status.SameFlags tag s cleaned := by
  obtain ⟨_, -, -, rfl⟩ := ends_cleanup_iff.mp hends
  exact Repository.Status.sameFlags_dropRuns ..

/-- If a repository memorizes its releases, a tag that is left off the memorized ones is not known
to have all its artifacts, as long as there is an artifact to have. -/
theorem isSatisfied_of_not_memorized {spec : Repository.Spec} {s : Repository.Status} {tag : String}
    {t : ArtifactType} (hmemorize : spec.memorizeReleases = true)
    (hconfigured : spec.isConfigured t = true) (htag : tag ∉ memorizedTags spec s) :
    (s.release tag).isSatisfied spec.pipelines = false := by
  rw [memorizedTags, if_pos hmemorize, Repository.Status.mem_satisfiedTags_iff] at htag
  cases hknown : s.releases.get? tag with
  | some r =>
      rw [Repository.Status.release, hknown, Option.getD_some]
      exact Bool.eq_false_iff.mpr fun h => htag ⟨r, hknown, h⟩
  | none =>
      rw [Repository.Status.release, hknown, Option.getD_none]
      rw [Repository.Spec.isConfigured] at hconfigured
      cases t <;> simp [Repository.ReleaseStatus.isSatisfied, ArtifactType.all, hconfigured,
        PerArtifact.get?]

/-! ## What precedes a request -/

/-- What a cycle went through before it requested a run for a release and a kind. -/
structure IsNeeded (ns name : String) (before : List Exchanged) (repository : Repository)
    (finding : Finding) (t : ArtifactType) (request : RunRequest) : Prop where
  /-- The repository was loaded and each of its pipelines was looked up next, and found. -/
  pipelines_found : (⟨.load ns name, .ok (some repository)⟩ : Exchanged) ::
    repository.spec.pipelines.values.map (fun pipeline => checked ns pipeline (.ok ())) <+: before
  /-- The release was fetched. If the fetch leaves out the memorized tags, the stored flags did
  not say that the release has all its artifacts. -/
  release_fetched : ∃ query cancelled releases,
    (⟨.fetchReleases query cancelled, .ok releases⟩ : Exchanged) ∈ before ∧
      finding.release ∈ releases ∧
        (repository.spec.memorizeReleases = true →
          (∀ release ∈ releases, release.tag ∉ query.ignored) →
            (repository.known.release finding.tag).isSatisfied repository.spec.pipelines = false)
  not_omitted : finding.tag ∉ repository.spec.omitted
  admitted : ∀ filterSpec, repository.spec.filter = some filterSpec →
    ∃ f, Filter.ofSpec filterSpec = .ok f ∧ f.admits finding.tag = .ok true
  /-- The lookups of all kinds that are looked after succeeded, with what the finding holds. -/
  artifacts_looked_up : ∀ u, repository.spec.isConfigured u = true →
    ∃ cancelled, found ⟨repository.spec.owner, repository.spec.repo, finding.release⟩ finding
      cancelled u ∈ before
  artifact_lacking : finding.has t = false
  pipeline_configured : repository.spec.pipelines.get? t = some request.pipeline
  pipeline_named : request.pipeline ≠ ""
  revision : request.params.get? "revision" = some finding.tag

/-- What was asked before is still asked before after more was asked. -/
theorem IsNeeded.append_right {ns name : String} {before : List Exchanged} {repository : Repository}
    {finding : Finding} {t : ArtifactType} {request : RunRequest}
    (hneeded : IsNeeded ns name before repository finding t request) (asked : List Exchanged) :
    IsNeeded ns name (before ++ asked) repository finding t request where
  pipelines_found := hneeded.pipelines_found.trans (List.prefix_append _ _)
  release_fetched := by
    obtain ⟨query, cancelled, releases, hfetched, hrelease⟩ := hneeded.release_fetched
    exact ⟨query, cancelled, releases, List.mem_append_left _ hfetched, hrelease⟩
  not_omitted := hneeded.not_omitted
  admitted := hneeded.admitted
  artifacts_looked_up := by
    intro u hu
    obtain ⟨cancelled, hfound⟩ := hneeded.artifacts_looked_up u hu
    exact ⟨cancelled, List.mem_append_left _ hfound⟩
  artifact_lacking := hneeded.artifact_lacking
  pipeline_configured := hneeded.pipeline_configured
  pipeline_named := hneeded.pipeline_named
  revision := hneeded.revision

/-- If the pipelines of a repository give no error, each was looked up and found. -/
theorem checks_of_no_errors {subject : Subject} {checks : List Exchanged}
    (hends : Ends (pipelineErrors subject) checks []) :
    checks = subject.spec.pipelines.values.map fun pipeline =>
      checked subject.ns pipeline (.ok ()) := by
  obtain ⟨answers, hnames, rfl, hnone⟩ := ends_pipelineErrors_iff.mp hends
  rw [← hnames, List.map_map]
  apply List.map_congr_left
  intro answer hanswer
  have hkept := List.filterMap_eq_nil_iff.mp hnone.symm _ (List.mem_map_of_mem hanswer)
  obtain ⟨pipeline, answer⟩ := answer
  cases answer with
  | ok value => rfl
  | error error => cases hkept

/-- A turn is only taken for a release and a kind that a finding of this cycle lacks. -/
theorem Course.exists_finding_of_turn {c : Controller} {m : Moment} {subject : Subject}
    {s s' : Repository.Status} {delay : Delay} {account : Account m subject}
    {opening : List Exchanged} (hcourse : Course c m subject s account opening delay s')
    {turn : Turn m subject} (hturn : turn ∈ account.turns) :
    ∃ finding ∈ account.findings, finding.tag = turn.tag ∧
      subject.spec.isConfigured turn.type = true ∧ finding.has turn.type = false := by
  cases hcourse with
  | pipelinesUnavailable => exact absurd hturn List.not_mem_nil
  | releasesNotFetched => exact absurd hturn List.not_mem_nil
  | built _ _ _ hturns =>
      obtain ⟨finding, hlacks, htag⟩ := List.mem_map.mp (mem_pairs_iff.mp (hturns.pair_mem hturn))
      obtain ⟨last, hlast, hlast_tag, hflags⟩ :=
        exists_flags_of_finding subject.spec (List.mem_of_mem_filter hlacks)
      -- turns keep the flags, so the turn goes by what the lookups of this cycle found
      have hmissing := turn.lacking
      rw [Repository.ReleaseStatus.isMissing, hturns.missing hturn, ← htag] at hmissing
      have hlacking := (isMissing_of_flags (hflags _) turn.type).symm.trans hmissing
      rw [Bool.and_eq_true, Bool.not_eq_true'] at hlacking
      exact ⟨last, hlast, hlast_tag.trans htag, hlacking⟩

/-- What makes a run needed is all asked before the first turn of a cycle. -/
theorem isNeeded_of_turn {ns name : String} (round : Round ns name)
    {turn : Turn round.moment round.subject} (hturn : turn ∈ round.turns) {request : RunRequest}
    (hbuild : RunRequest.build? round.repository.spec ns turn.tag turn.type = some request) :
    ∃ finding, IsNeeded ns name (⟨.load ns name, .ok (some round.repository)⟩ :: round.opening)
      round.repository finding turn.type request := by
  obtain ⟨finding, hfinding, htag_eq, hconfigured, hhas⟩ :=
    round.course.exists_finding_of_turn hturn
  -- the course speaks of the other parts of the round, which must be variables to tell its cases
  obtain ⟨c, m, repository, account, opening, delay, status, saved, hcourse⟩ := round
  dsimp only [Round.turns, Round.subject] at turn hturn hbuild hfinding hconfigured ⊢
  cases hcourse with
  | pipelinesUnavailable => exact absurd hturn List.not_mem_nil
  | releasesNotFetched => exact absurd hturn List.not_mem_nil
  | @built checks cleaning looking cleaned _ releases lookups turns hchecks hcleaning hlooking
      hturns =>
      obtain ⟨hkept, hfound⟩ := found_of_ends_lookUpAll hlooking hfinding
      obtain ⟨hfetched, homitted, hadmitted⟩ := mem_keptReleases_iff.mp hkept
      obtain ⟨hpipeline, hnamed, hrevision⟩ := build?_eq_some hbuild
      obtain rfl := checks_of_no_errors hchecks
      refine ⟨finding, ?_, ?_, homitted, hadmitted, ?_, hhas, hpipeline, hnamed, ?_⟩
      · simp only [List.append_assoc, List.cons_prefix_cons, true_and]
        exact List.prefix_append _ _
      · refine ⟨releaseQuery (Subject.ofRepository ns repository) cleaned, m.cancelled, releases,
          List.mem_cons_of_mem _ ?_, hfetched, ?_⟩
        · exact List.mem_append_right _ List.mem_cons_self
        · intro hmemorize hdropped
          have hunsatisfied := isSatisfied_of_not_memorized hmemorize hconfigured
            (hdropped finding.release hfetched)
          rw [Repository.ReleaseStatus.isSatisfied,
            (sameFlags_of_ends_cleanup hcleaning _).missing] at hunsatisfied
          exact hunsatisfied
      · intro u hu
        obtain ⟨cancelled, hmem⟩ := hfound u hu
        refine ⟨cancelled, List.mem_cons_of_mem _ ?_⟩
        apply List.mem_append_right
        apply List.mem_cons_of_mem
        exact List.mem_append_left _ (List.mem_append_right _ hmem)
      · rw [hrevision, htag_eq]

/-- Whatever a cycle is answered and whatever was stored before, a run is only requested after the
cycle found everything that makes it needed. -/
theorem createRun_isNeeded {c : Controller} {m : Moment} {ns name : String}
    {result : Except LoadError (Option Delay)} {before after : List Exchanged}
    {request : RunRequest} {answer : Except RunnerError RunState}
    (hends : Ends (reconcile c m ns name)
      (before ++ ⟨.createRun request, answer⟩ :: after) result) :
    ∃ repository finding t, IsNeeded ns name before repository finding t request := by
  by_cases hdelay : ∃ delay, result = .ok (some delay)
  · obtain ⟨delay, rfl⟩ := hdelay
    obtain ⟨round, rfl, rfl, hexchanges, -⟩ := ends_reconcile_iff.mp hends
    rw [Round.exchanges, List.append_assoc] at hexchanges
    have hfresh : (⟨.createRun request, answer⟩ : Exchanged) ∉
        ⟨.load ns name, .ok (some round.repository)⟩ :: round.opening := by
      intro hmem
      rcases List.mem_cons.mp hmem with hmem | hmem
      · cases hmem
      · cases (round.course.opens hmem).writes_eq_false
    obtain ⟨asked, rfl, hrest⟩ := split_after_prefix hexchanges hfresh
    have hmem : (⟨.createRun request, answer⟩ : Exchanged) ∈
        round.turns.flatMap Turn.exchanges ++
          [⟨.saveStatus { round.repository with status := some round.status }, round.saved⟩] :=
      hrest ▸ List.mem_append_right _ List.mem_cons_self
    rcases List.mem_append.mp hmem with hmem | hmem
    · obtain ⟨turn, hturn, hasked⟩ := List.mem_flatMap.mp hmem
      obtain ⟨finding, hneeded⟩ := isNeeded_of_turn round hturn (turn.attempt.build?_of_mem hasked)
      refine ⟨round.repository, finding, turn.type, ?_⟩
      exact hneeded.append_right asked
    · simp at hmem
  · -- without a delay the cycle asks for the repository and for nothing else
    obtain ⟨_, hload⟩ := exchanges_of_no_delay hends fun delay heq => hdelay ⟨delay, heq⟩
    cases before with
    | nil => cases hload
    | cons _ rest =>
        have hnil := (List.cons.inj hload).2
        exact absurd hnil (List.append_ne_nil_of_right_ne_nil rest (List.cons_ne_nil _ _))

/-- The first run of a release without assets is needed. -/
theorem createRun_single_isNeeded :
    ∃ after result, Ends (reconcile {} (.plain .epoch) "ci" "app")
        (⟨.load "ci" "app", .ok (some (.single none))⟩ ::
            singleOpening .epoch none [] (begin .epoch {}) ++
          ⟨.createRun .single, .ok { name := "build-1" }⟩ :: after) result ∧
      ∃ repository finding t, IsNeeded "ci" "app"
        (⟨.load "ci" "app", .ok (some (.single none))⟩ ::
          singleOpening .epoch none [] (begin .epoch {}))
        repository finding t .single := by
  let round := Round.single .epoch none (begin .epoch {}) (.done _)
    (.created rfl .unrecorded { name := "build-1" })
  have hends := ends_reconcile_iff.mpr ⟨round, rfl, rfl, rfl, rfl⟩
  exact ⟨_, _, hends, createRun_isNeeded hends⟩

end ReleaseBuilds.Cycle
