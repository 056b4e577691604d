import ReleaseBuilds.Cycle.Basic
import ReleaseBuilds.Proofs.Dialogue

/-!
# What each stage of a cycle asks

One equation for each stage: its exchanges, whatever is answered, and what it comes to. The turns
of the pairs that lack an artifact are kept as data of their own, because a request for a run does
not say for which kind of artifact it is made.
-/

namespace ReleaseBuilds.Cycle

open Dialogue

open Kubernetes (Reference)

/-- A question of a cycle and the answer that was given to it. -/
abbrev Exchanged := Exchange Call Call.Answer

/-- A notice as it is published. -/
def told (target : Reference) (notice : Notice) : Exchanged := ⟨.publish target notice, ()⟩

/-- A lookup of a pipeline and its answer. -/
def checked (ns name : String) (answer : Except RunnerError Unit) : Exchanged :=
  ⟨.findPipeline ns name, answer⟩

/-- A lookup of a run and its answer. -/
def lookedUp (ns name : String) (answer : Except RunnerError RunState) : Exchanged :=
  ⟨.findRun ns name, answer⟩

theorem ends_findPipeline_iff {ns name : String} {answer : Except RunnerError Unit}
    {exchanges : List Exchanged} :
    Ends (findPipeline ns name) exchanges answer ↔ exchanges = [checked ns name answer] :=
  ends_question_iff

theorem ends_findRun_iff {ns name : String} {answer : Except RunnerError RunState}
    {exchanges : List Exchanged} :
    Ends (findRun ns name) exchanges answer ↔ exchanges = [lookedUp ns name answer] :=
  ends_question_iff

theorem ends_fetchAssets_iff {query : ArtifactQuery} {cancelled : Bool}
    {answer : Except GithubError (List Asset)} {exchanges : List Exchanged} :
    Ends (fetchAssets query cancelled) exchanges answer ↔
      exchanges = [⟨.fetchAssets query cancelled, answer⟩] :=
  ends_question_iff

theorem ends_fetchPackages_iff {query : ArtifactQuery} {cancelled : Bool}
    {answer : Except GithubError (List Package)} {exchanges : List Exchanged} :
    Ends (fetchPackages query cancelled) exchanges answer ↔
      exchanges = [⟨.fetchPackages query cancelled, answer⟩] :=
  ends_question_iff

theorem ends_publish_iff {target : Reference} {notice : Notice} {value : Unit}
    {exchanges : List Exchanged} :
    Ends (publish target notice) exchanges value ↔ exchanges = [told target notice] :=
  ends_question_iff

theorem ends_publishAll_iff {target : Reference} {notices : List Notice}
    {exchanges : List Exchanged} :
    Ends (publishAll target notices) exchanges () ↔ exchanges = notices.map (told target) := by
  induction notices generalizing exchanges with
  | nil => simp [publishAll]
  | cons notice rest ih =>
      simp only [publishAll, monad_bind, ends_bind_iff, ends_publish_iff, ih]
      constructor
      · rintro ⟨first, second, _, rfl, rfl, rfl⟩
        rfl
      · rintro rfl
        exact ⟨_, _, (), rfl, rfl, rfl⟩

/-! ## Pipelines -/

theorem ends_pipelineErrors_iff {subject : Subject} {errors : List RunnerError}
    {exchanges : List Exchanged} :
    Ends (pipelineErrors subject) exchanges errors ↔
      ∃ checks : List (String × Except RunnerError Unit),
        checks.map Prod.fst = subject.spec.pipelines.values ∧
          exchanges = checks.map (fun check => checked subject.ns check.1 check.2) ∧
          errors = (ErrorList.ofOutcomes (checks.map Prod.snd)).toList := by
  simp only [pipelineErrors, monad_bind, monad_pure, ends_bind_iff, ends_done_iff]
  constructor
  · rintro ⟨_, _, answers, rfl, hfirst, rfl, rfl⟩
    obtain ⟨checks, hnames, rfl, rfl⟩ :=
      (ends_forList_exchange_iff (checked subject.ns) fun _ _ _ => ends_findPipeline_iff).mp hfirst
    exact ⟨checks, hnames, by simp, rfl⟩
  · rintro ⟨checks, hnames, rfl, rfl⟩
    have hfirst :=
      (ends_forList_exchange_iff (checked subject.ns) fun _ _ _ => ends_findPipeline_iff).mpr
        ⟨checks, hnames, rfl, rfl⟩
    exact ⟨_, [], _, by simp, hfirst, rfl, rfl⟩

/-! ## Cleanup -/

theorem ends_staleRuns_iff {now : Instant} {ns : String} {runs stale : List Repository.RecordedRun}
    {exchanges : List Exchanged} :
    Ends (staleRuns now ns runs) exchanges stale ↔
      ∃ answers : List (Repository.RecordedRun × Except RunnerError RunState),
        answers.map Prod.fst = runs ∧
          exchanges = answers.map (fun answer => lookedUp ns answer.1.record.name answer.2) ∧
          stale = (answers.filter fun answer => isStale now answer.2).map Prod.fst := by
  induction runs generalizing exchanges stale with
  | nil =>
      rw [staleRuns, ends_done_iff]
      constructor
      · rintro ⟨rfl, rfl⟩
        exact ⟨[], rfl, rfl, rfl⟩
      · rintro ⟨answers, hruns, rfl, rfl⟩
        obtain rfl := List.map_eq_nil_iff.mp hruns
        exact ⟨rfl, rfl⟩
  | cons run rest ih =>
      simp only [staleRuns, monad_bind, monad_pure, findRun, ask, ends_bind_iff, ends_question_iff,
        ends_done_iff]
      constructor
      · rintro ⟨_, _, answer, rfl, rfl, second, _, others, rfl, hsecond, rfl, rfl⟩
        obtain ⟨answers, rfl, rfl, rfl⟩ := ih.mp hsecond
        refine ⟨(run, answer) :: answers, rfl, by simp [lookedUp], ?_⟩
        cases hstale : isStale now answer <;> simp [hstale]
      · rintro ⟨answers, hruns, rfl, rfl⟩
        obtain ⟨⟨_, answer⟩, answers, rfl, rfl, rfl⟩ := List.map_eq_cons_iff.mp hruns
        refine ⟨_, _, answer, rfl, rfl, _, [], _, (List.append_nil _).symm,
          ih.mpr ⟨answers, rfl, rfl, rfl⟩, rfl, ?_⟩
        cases hstale : isStale now answer <;> simp [hstale]

/-- The cleanup looks up every record once and drops those found stale. -/
theorem ends_cleanup_iff {m : Moment} {subject : Subject} {s cleaned : Repository.Status}
    {exchanges : List Exchanged} :
    Ends (cleanup m subject s) exchanges cleaned ↔
      ∃ answers : List (Repository.RecordedRun × Except RunnerError RunState),
        answers.map Prod.fst = s.recordedRuns ∧
          exchanges =
            answers.map (fun answer => lookedUp subject.ns answer.1.record.name answer.2) ∧
          cleaned =
            s.dropRuns ((answers.filter fun answer => isStale m.now answer.2).map Prod.fst) := by
  simp only [cleanup, monad_bind, monad_pure, ends_bind_iff, ends_done_iff, ends_staleRuns_iff]
  constructor
  · rintro ⟨_, _, _, rfl, ⟨answers, hruns, rfl, rfl⟩, rfl, rfl⟩
    exact ⟨answers, hruns, by simp, rfl⟩
  · rintro ⟨answers, hruns, rfl, rfl⟩
    exact ⟨_, [], _, by simp, ⟨answers, hruns, rfl, rfl⟩, rfl, rfl⟩

/-! ## Releases -/

/-- The releases as they are fetched in a cycle. -/
def fetched (m : Moment) (subject : Subject) (s : Repository.Status)
    (answer : Except GithubError (List Release)) : Exchanged :=
  ⟨.fetchReleases (releaseQuery subject s) m.cancelled, answer⟩

/-- The status after the releases could not be fetched. -/
def notFetched (c : Controller) (m : Moment) (s : Repository.Status) (error : GithubError) :
    Repository.Status :=
  s.setCondition ((releasesFailure c m error).1.condition m.now)

theorem ends_discover_iff {c : Controller} {m : Moment} {subject : Subject}
    {s s' : Repository.Status} {result : Except Delay (List Release)} {exchanges : List Exchanged} :
    Ends (discover c m subject s) exchanges (result, s') ↔
      (∃ releases, exchanges = [fetched m subject s (.ok releases)] ∧
        result = .ok releases ∧ s' = s) ∨
        ∃ error, exchanges = [fetched m subject s (.error error),
            told subject.reference (releasesFailure c m error).2.1] ∧
          result = .error (releasesFailure c m error).2.2 ∧ s' = notFetched c m s error := by
  simp only [discover, monad_bind, monad_pure, fetchReleases, ask, ends_bind_iff,
    ends_question_iff]
  constructor
  · rintro ⟨_, second, answer, rfl, rfl, hsecond⟩
    cases answer with
    | ok releases =>
        rw [ends_done_iff] at hsecond
        obtain ⟨rfl, hvalue⟩ := hsecond
        cases hvalue
        exact .inl ⟨releases, rfl, rfl, rfl⟩
    | error error =>
        simp only [ends_bind_iff, ends_publish_iff, ends_done_iff] at hsecond
        obtain ⟨_, _, _, rfl, rfl, rfl, hvalue⟩ := hsecond
        cases hvalue
        exact .inr ⟨error, rfl, rfl, rfl⟩
  · rintro (⟨releases, rfl, rfl, rfl⟩ | ⟨error, rfl, rfl, rfl⟩)
    · exact ⟨_, [], .ok releases, rfl, rfl, by simp⟩
    · refine ⟨_, [told subject.reference (releasesFailure c m error).2.1], .error error, rfl, rfl,
        ?_⟩
      simp only [ends_bind_iff, ends_publish_iff, ends_done_iff]
      exact ⟨_, [], (), rfl, rfl, rfl, rfl⟩

/-- The status after the releases are narrowed down: an invalid filter is observed. -/
def narrowed (m : Moment) (spec : Repository.Spec) (s : Repository.Status) : Repository.Status :=
  (builtFilter spec).2.elim s fun e =>
    s.setCondition ((Observation.filterInvalid e).condition m.now)

theorem ends_narrow_iff {m : Moment} {subject : Subject} {s s' : Repository.Status}
    {releases kept : List Release} {exchanges : List Exchanged} :
    Ends (narrow m subject s releases) exchanges (kept, s') ↔
      exchanges = (filterNotices subject.spec releases).map (told subject.reference) ∧
        kept = keptReleases subject.spec releases ∧ s' = narrowed m subject.spec s := by
  simp only [narrow, monad_bind, monad_pure, ends_bind_iff, ends_done_iff, Prod.mk.injEq]
  constructor
  · rintro ⟨_, _, _, rfl, hfirst, rfl, rfl, rfl⟩
    exact ⟨by simpa using ends_publishAll_iff.mp hfirst, rfl, rfl⟩
  · rintro ⟨rfl, rfl, rfl⟩
    exact ⟨_, [], (), by simp, ends_publishAll_iff.mpr rfl, rfl, rfl, rfl⟩

/-! ## Artifacts -/

/-- The lookup of one kind of artifact that finds what a finding holds. -/
def found (query : ArtifactQuery) (finding : Finding) (cancelled : Bool) : ArtifactType → Exchanged
  | .assets => ⟨.fetchAssets query cancelled, .ok finding.assets⟩
  | .container => ⟨.fetchPackages query cancelled, .ok finding.packages⟩

/-- The lookup of a kind either is left out or asks one question, of which the group takes note. -/
theorem ends_lookUpKind_iff {α : Type} {spec : Repository.Spec} {t : ArtifactType}
    {fetch : Bool → Talk (Except GithubError (List α))} {group group' : TaskGroup GithubError}
    {items : List α} {exchanges : List Exchanged} :
    Ends (lookUpKind spec t fetch group) exchanges (items, group') ↔
      if spec.isConfigured t then
        ∃ answer, Ends (fetch group.isCancelled) exchanges answer ∧
          items = (group.finishMember answer).1.getD [] ∧ group' = (group.finishMember answer).2
      else exchanges = [] ∧ items = [] ∧ group' = group := by
  rw [lookUpKind]
  split
  next =>
    simp only [monad_bind, monad_pure, ends_bind_iff, ends_done_iff, Prod.mk.injEq]
    constructor
    · rintro ⟨first, _, answer, rfl, hfirst, rfl, rfl, rfl⟩
      exact ⟨answer, by simpa using hfirst, rfl, rfl⟩
    · rintro ⟨answer, hfirst, rfl, rfl⟩
      exact ⟨_, [], answer, by simp, hfirst, rfl, rfl, rfl⟩
  next => simp

/-- If a group ends well after the lookup of a kind, it would have done so before, and the kind has
answered if it is looked after. -/
theorem answer_of_ends_lookUpKind {α : Type} {spec : Repository.Spec} {t : ArtifactType}
    {fetch : Bool → Talk (Except GithubError (List α))} {group group' : TaskGroup GithubError}
    {items : List α} {exchanges : List Exchanged}
    (hends : Ends (lookUpKind spec t fetch group) exchanges (items, group'))
    (hok : group'.finish = .ok ()) :
    group.finish = .ok () ∧
      (spec.isConfigured t → Ends (fetch group.isCancelled) exchanges (.ok items)) := by
  rw [ends_lookUpKind_iff] at hends
  split at hends
  next =>
    obtain ⟨answer, hanswer, rfl, rfl⟩ := hends
    cases answer with
    | ok items => exact ⟨hok, fun _ => hanswer⟩
    | error e => cases hok
  next hconfigured =>
    obtain ⟨-, -, rfl⟩ := hends
    exact ⟨hok, fun ht => absurd ht hconfigured⟩

section SideBySide

variable {α β : Type} {assets : TaskGroup GithubError → Talk (α × TaskGroup GithubError)}
  {packages : TaskGroup GithubError → Talk (β × TaskGroup GithubError)}
  {group group' : TaskGroup GithubError} {ofAssets : α} {ofPackages : β}
  {exchanges : List Exchanged}

theorem ends_sideBySide_assets_iff :
    Ends (sideBySide .assets assets packages group) exchanges (ofAssets, ofPackages, group') ↔
      ∃ earlier later middle, exchanges = earlier ++ later ∧
        Ends (assets group) earlier (ofAssets, middle) ∧
          Ends (packages middle) later (ofPackages, group') := by
  simp only [sideBySide, monad_bind, monad_pure, ends_bind_iff, ends_done_iff, Prod.exists,
    Prod.mk.injEq]
  constructor
  · rintro ⟨earlier, _, _, middle, rfl, hassets, later, _, _, _, rfl, hpackages, rfl, rfl, rfl, rfl⟩
    exact ⟨earlier, later, middle, by simp, hassets, hpackages⟩
  · rintro ⟨earlier, later, middle, rfl, hassets, hpackages⟩
    exact ⟨earlier, later, _, middle, rfl, hassets, later, [], _, _, by simp, hpackages, rfl, rfl,
      rfl, rfl⟩

theorem ends_sideBySide_container_iff :
    Ends (sideBySide .container assets packages group) exchanges (ofAssets, ofPackages, group') ↔
      ∃ earlier later middle, exchanges = earlier ++ later ∧
        Ends (packages group) earlier (ofPackages, middle) ∧
          Ends (assets middle) later (ofAssets, group') := by
  simp only [sideBySide, monad_bind, monad_pure, ends_bind_iff, ends_done_iff, Prod.exists,
    Prod.mk.injEq]
  constructor
  · rintro ⟨earlier, _, _, middle, rfl, hpackages, later, _, _, _, rfl, hassets, rfl, rfl, rfl, rfl⟩
    exact ⟨earlier, later, middle, by simp, hpackages, hassets⟩
  · rintro ⟨earlier, later, middle, rfl, hpackages, hassets⟩
    exact ⟨earlier, later, _, middle, rfl, hpackages, later, [], _, _, by simp, hassets, rfl, rfl,
      rfl, rfl⟩

end SideBySide

/-- What is found for a release is what its group ends with. -/
theorem ends_lookUp_iff {m : Moment} {spec : Repository.Spec} {first : ArtifactType}
    {release : Release} {outcome : Lookup} {exchanges : List Exchanged} :
    Ends (lookUp m spec first release) exchanges outcome ↔
      ∃ assets packages group,
        Ends (sideBySide first
          (lookUpKind spec .assets (fetchAssets ⟨spec.owner, spec.repo, release⟩))
          (lookUpKind spec .container (fetchPackages ⟨spec.owner, spec.repo, release⟩))
          (.start m.cancelled)) exchanges (assets, packages, group) ∧
        outcome = group.finish.map fun () => ⟨release, assets, packages⟩ := by
  simp only [lookUp, monad_bind, monad_pure, ends_bind_iff, ends_done_iff, Prod.exists]
  constructor
  · rintro ⟨_, _, assets, packages, group, rfl, hends, rfl, rfl⟩
    exact ⟨assets, packages, group, by simpa using hends, rfl⟩
  · rintro ⟨assets, packages, group, hends, rfl⟩
    exact ⟨_, [], assets, packages, group, by simp, hends, rfl, rfl⟩

/-- If the group of a release ends well, the lookups of all configured kinds answered what was
found. -/
theorem found_of_ends_sideBySide {spec : Repository.Spec} {first : ArtifactType}
    {release : Release} {assets : List Asset} {packages : List Package}
    {group group' : TaskGroup GithubError} {exchanges : List Exchanged}
    (hends : Ends (sideBySide first
      (lookUpKind spec .assets (fetchAssets ⟨spec.owner, spec.repo, release⟩))
      (lookUpKind spec .container (fetchPackages ⟨spec.owner, spec.repo, release⟩)) group)
      exchanges (assets, packages, group'))
    (hok : group'.finish = .ok ()) (t : ArtifactType) (ht : spec.isConfigured t) :
    ∃ cancelled, found ⟨spec.owner, spec.repo, release⟩ ⟨release, assets, packages⟩ cancelled t ∈
      exchanges := by
  cases first with
  | assets =>
      obtain ⟨earlier, later, middle, rfl, hassets, hpackages⟩ :=
        ends_sideBySide_assets_iff.mp hends
      obtain ⟨hmiddle, hpackages⟩ := answer_of_ends_lookUpKind hpackages hok
      obtain ⟨-, hassets⟩ := answer_of_ends_lookUpKind hassets hmiddle
      cases t with
      | assets =>
          obtain rfl := ends_fetchAssets_iff.mp (hassets ht)
          exact ⟨_, List.mem_append_left _ List.mem_cons_self⟩
      | container =>
          obtain rfl := ends_fetchPackages_iff.mp (hpackages ht)
          exact ⟨_, List.mem_append_right _ List.mem_cons_self⟩
  | container =>
      obtain ⟨earlier, later, middle, rfl, hpackages, hassets⟩ :=
        ends_sideBySide_container_iff.mp hends
      obtain ⟨hmiddle, hassets⟩ := answer_of_ends_lookUpKind hassets hok
      obtain ⟨-, hpackages⟩ := answer_of_ends_lookUpKind hpackages hmiddle
      cases t with
      | assets =>
          obtain rfl := ends_fetchAssets_iff.mp (hassets ht)
          exact ⟨_, List.mem_append_right _ List.mem_cons_self⟩
      | container =>
          obtain rfl := ends_fetchPackages_iff.mp (hpackages ht)
          exact ⟨_, List.mem_append_left _ List.mem_cons_self⟩

/-- A release is only found with what the lookups of all configured kinds answered. -/
theorem found_of_ends_lookUp {m : Moment} {spec : Repository.Spec} {first : ArtifactType}
    {release : Release} {finding : Finding} {exchanges : List Exchanged}
    (hends : Ends (lookUp m spec first release) exchanges (.ok finding)) :
    finding.release = release ∧ ∀ t, spec.isConfigured t →
      ∃ cancelled, found ⟨spec.owner, spec.repo, release⟩ finding cancelled t ∈ exchanges := by
  obtain ⟨assets, packages, group, hside, hfinding⟩ := ends_lookUp_iff.mp hends
  cases hfinish : group.finish with
  | error e =>
      rw [hfinish] at hfinding
      cases hfinding
  | ok =>
      rw [hfinish] at hfinding
      cases hfinding
      exact ⟨rfl, found_of_ends_sideBySide hside hfinish⟩

/-- The lookups of all releases, of which only the outcomes are handed on in the order in which they
arrive. The place of a release decides which of its lookups ends first. -/
theorem ends_lookUpAll_iff {m : Moment} {spec : Repository.Spec} {releases : List Release}
    {outcomes : List Lookup} {exchanges : List Exchanged} :
    Ends (lookUpAll m spec releases) exchanges outcomes ↔
      ∃ talks : List ((Release × Nat) × List Exchanged × Lookup),
        talks.map Prod.fst = releases.zipIdx ∧
          (∀ talk ∈ talks,
            Ends (lookUp m spec (m.arrival.first talk.1.2) talk.1.1) talk.2.1 talk.2.2) ∧
          exchanges = talks.flatMap (fun talk => talk.2.1) ∧
          outcomes = m.arrival.order (talks.map fun talk => talk.2.2) := by
  simp only [lookUpAll, monad_bind, monad_pure, ends_bind_iff, ends_done_iff, ends_forList_iff]
  constructor
  · rintro ⟨_, _, _, rfl, ⟨talks, hreleases, htalks, rfl, rfl⟩, rfl, rfl⟩
    exact ⟨talks, hreleases, htalks, List.append_nil _, rfl⟩
  · rintro ⟨talks, hreleases, htalks, rfl, rfl⟩
    exact ⟨_, [], _, (List.append_nil _).symm, ⟨talks, hreleases, htalks, rfl, rfl⟩, rfl, rfl⟩

/-- Each release is looked up once, one or the other of its lookups being the first to end. -/
theorem exists_talks_of_ends_lookUpAll {m : Moment} {spec : Repository.Spec}
    {releases : List Release} {outcomes : List Lookup} {exchanges : List Exchanged}
    (hends : Ends (lookUpAll m spec releases) exchanges outcomes) :
    ∃ talks : List (Release × List Exchanged × Lookup),
      talks.map Prod.fst = releases ∧
        (∀ talk ∈ talks, ∃ first, Ends (lookUp m spec first talk.1) talk.2.1 talk.2.2) ∧
        exchanges = talks.flatMap (fun talk => talk.2.1) ∧
        outcomes = m.arrival.order (talks.map fun talk => talk.2.2) := by
  obtain ⟨talks, hreleases, htalks, rfl, rfl⟩ := ends_lookUpAll_iff.mp hends
  refine ⟨talks.map fun talk => (talk.1.1, talk.2), ?_, ?_, by simp [List.flatMap_map],
    by simp [Function.comp_def]⟩
  · calc
      (talks.map fun talk => (talk.1.1, talk.2)).map Prod.fst =
          (talks.map Prod.fst).map Prod.fst := by simp
      _ = releases := by rw [hreleases, List.zipIdx_map_fst]
  · intro talk htalk
    obtain ⟨placed, hplaced, rfl⟩ := List.mem_map.mp htalk
    exact ⟨_, htalks placed hplaced⟩

/-- Every finding belongs to a release that was looked up. -/
theorem found_of_ends_lookUpAll {m : Moment} {spec : Repository.Spec} {releases : List Release}
    {outcomes : List Lookup} {exchanges : List Exchanged}
    (hends : Ends (lookUpAll m spec releases) exchanges outcomes) {finding : Finding}
    (hfinding : finding ∈ ErrorList.values outcomes) :
    finding.release ∈ releases ∧ ∀ t, spec.isConfigured t → ∃ cancelled,
      found ⟨spec.owner, spec.repo, finding.release⟩ finding cancelled t ∈ exchanges := by
  obtain ⟨talks, rfl, htalks, rfl, rfl⟩ := exists_talks_of_ends_lookUpAll hends
  obtain ⟨outcome, houtcome, hvalue⟩ := List.mem_filterMap.mp hfinding
  obtain ⟨talk, htalk, rfl⟩ := List.mem_map.mp ((m.arrival.perm _).mem_iff.mp houtcome)
  obtain ⟨first, hlookup⟩ := htalks talk htalk
  obtain ⟨release, asked, outcome⟩ := talk
  cases outcome with
  | error e => cases hvalue
  | ok value =>
      cases hvalue
      obtain ⟨rfl, hkinds⟩ := found_of_ends_lookUp hlookup
      refine ⟨List.mem_map.mpr ⟨_, htalk, rfl⟩, fun t ht => ?_⟩
      obtain ⟨cancelled, hmem⟩ := hkinds t ht
      exact ⟨cancelled, List.mem_flatMap.mpr ⟨_, htalk, hmem⟩⟩

/-- The status after failed lookups are reported. -/
def reported (m : Moment) (s : Repository.Status) (errors : List GithubError) : Repository.Status :=
  if errors.isEmpty then s else s.setCondition (Observation.artifactsNotFetched.condition m.now)

theorem ends_reportLookups_iff {m : Moment} {subject : Subject} {s s' : Repository.Status}
    {errors : List GithubError} {exchanges : List Exchanged} :
    Ends (reportLookups m subject s errors) exchanges s' ↔
      exchanges = (lookupNotices errors).map (told subject.reference) ∧
        s' = reported m s errors := by
  rw [reportLookups, reported]
  split
  next hempty =>
    obtain rfl := List.isEmpty_iff.mp hempty
    simp [lookupNotices]
  next =>
    simp only [monad_bind, monad_pure, ends_bind_iff, ends_done_iff]
    constructor
    · rintro ⟨_, _, _, rfl, hfirst, rfl, rfl⟩
      exact ⟨by simpa using ends_publishAll_iff.mp hfirst, rfl⟩
    · rintro ⟨rfl, rfl⟩
      exact ⟨_, [], (), by simp, ends_publishAll_iff.mpr rfl, rfl, rfl⟩

end ReleaseBuilds.Cycle
