import ReleaseBuilds.Proofs.Need
import ReleaseBuilds.Proofs.Records
import ReleaseBuilds.Proofs.Verdict

/-!
# Readiness

A repository is ready after a round if no release lacks an artifact or some run was created. That
does not account for every release: the artifacts of some may not have been looked up, and runs may
be lacking for others. What else it takes is said here exactly.
-/

namespace ReleaseBuilds.Cycle

open Dialogue

section Turns

variable {m : Moment} {subject : Subject} {s s' : Repository.Status} {tag : String}
  {t : ArtifactType} {pairs : List (String × ArtifactType)} {turns : List (Turn m subject)}

/-- A pair that the findings flag as lacking takes a turn. -/
theorem Course.exists_turn_of_isMissing {c : Controller} {delay : Delay}
    {account : Account m subject} {opening : List Exchanged}
    (hcourse : Course c m subject s account opening delay s') {finding : Finding}
    (hfinding : finding ∈ account.findings) {known : Repository.Status}
    (hmissing : ((known.takeUp subject.spec account.findings).release finding.tag).isMissing t =
      true) : ∃ turn ∈ account.turns, turn.pair = (finding.tag, t) := by
  cases hcourse with
  | pipelinesUnavailable => exact absurd hfinding List.not_mem_nil
  | releasesNotFetched => exact absurd hfinding List.not_mem_nil
  | built _ _ _ hturns =>
      -- of several findings about a tag, the last one leaves the flags
      obtain ⟨last, hlast, htag, hflags⟩ := exists_flags_of_finding subject.spec hfinding
      have hlacks := (isMissing_of_flags (hflags known) t).symm.trans hmissing
      have hlacking : last.lacks subject.spec = true :=
        List.any_eq_true.mpr ⟨t, by cases t <;> simp [ArtifactType.all], hlacks⟩
      have hpair : (finding.tag, t) ∈ pairs (lackingOf subject.spec _) :=
        mem_pairs_iff.mpr (List.mem_map.mpr ⟨last, List.mem_filter.mpr ⟨hlast, hlacking⟩, htag⟩)
      exact hturns.exists_turn hpair ((isMissing_of_flags (hflags _) t).trans hlacks)

/-- A kind that is looked after was found by the last finding about a release, or its pair takes
a turn. -/
theorem Course.has_or_exists_turn {c : Controller} {delay : Delay} {account : Account m subject}
    {opening : List Exchanged} (hcourse : Course c m subject s account opening delay s')
    {finding : Finding} (hfinding : finding ∈ account.findings)
    (hconfigured : subject.spec.isConfigured t = true) :
    (∃ last ∈ account.findings, last.tag = finding.tag ∧ last.has t = true) ∨
      ∃ turn ∈ account.turns, turn.pair = (finding.tag, t) := by
  obtain ⟨last, hlast, htag, hflags⟩ := exists_flags_of_finding subject.spec hfinding
  by_cases hhas : last.has t = true
  · exact .inl ⟨last, hlast, htag, hhas⟩
  · have hmissing := isMissing_of_flags (hflags {}) t
    rw [hconfigured, Bool.eq_false_iff.mpr hhas] at hmissing
    exact .inr (hcourse.exists_turn_of_isMissing hfinding hmissing)

end Turns

namespace Round

variable {ns name : String} (round : Round ns name)

/-- A release that is fetched in the round and that the filter and the deny list leave in. -/
def Keeps (release : Release) : Prop :=
  ∃ query cancelled releases,
    (⟨.fetchReleases query cancelled, .ok releases⟩ : Exchanged) ∈ round.exchanges ∧
      release ∈ keptReleases round.repository.spec releases

/-- An artifact is found for a release with the tag. -/
def Finds (tag : String) (t : ArtifactType) : Prop :=
  ∃ lookup ∈ artifactLookups round.exchanges,
    lookup.release.tag = tag ∧ lookup.type = t ∧ lookup.found = .ok true

/-- A run is created in the round, or is in flight. -/
def Provides (tag : String) (t : ArtifactType) : Prop :=
  ∃ turn ∈ round.turns, turn.pair = (tag, t) ∧
    (turn.outcome = .ok .created ∨ turn.outcome = .ok .inFlight)

/-- The lookups for a release succeed, and each kind that is looked after is found or built. -/
structure AccountsFor (release : Release) : Prop where
  looked_up : ∀ lookup ∈ artifactLookups round.exchanges, lookup.release = release →
    ∃ found, lookup.found = .ok found
  provided : ∀ t, round.repository.spec.isConfigured t = true →
    round.Finds release.tag t ∨ round.Provides release.tag t

variable {round}

theorem keeps_iff {release : Release} :
    round.Keeps release ↔ release ∈ round.account.kept := by
  rw [Account.mem_kept_iff]
  constructor
  · rintro ⟨query, cancelled, releases, hmem, hkept⟩
    obtain ⟨-, -, -, -, hanswer⟩ := round.fetched_of_mem hmem
    exact ⟨releases, hanswer, hkept⟩
  · rintro ⟨releases, hanswer, hkept⟩
    obtain ⟨_, _, -, hmem⟩ := round.course.exists_fetched hanswer
    exact ⟨_, _, releases, round.mem_exchanges_of_mem_opening hmem, hkept⟩

/-- What is found for a release is what the lookups for it answered. -/
theorem finds_of_finding {finding : Finding} (hfinding : finding ∈ round.account.findings)
    {t : ArtifactType} (hconfigured : round.repository.spec.isConfigured t = true)
    (hhas : finding.has t = true) : round.Finds finding.tag t := by
  obtain ⟨looking, hlooking, hlookups⟩ := round.exists_lookUpAll
  have hmem := (lookups_of_finding hlooking hfinding).2 t hconfigured
  exact ⟨_, (hlookups _).mpr hmem, rfl, rfl, by rw [hhas]⟩

/-- If no lookup fails, something is known about every release that is kept. -/
theorem exists_finding_of_kept {release : Release} (hkept : release ∈ round.account.kept)
    (hsucceed : ∀ lookup ∈ artifactLookups round.exchanges, ∃ found, lookup.found = .ok found) :
    ∃ finding ∈ round.account.findings, finding.release = release := by
  obtain ⟨looking, hlooking, hlookups⟩ := round.exists_lookUpAll
  rcases finding_or_failure hlooking hkept with hfinding | ⟨lookup, hlookup, e, he⟩
  · exact hfinding
  · obtain ⟨found, hfound⟩ := hsucceed lookup ((hlookups lookup).mpr hlookup)
    cases he.symm.trans hfound

/-- When a repository is ready, and when it is ready with every release accounted for. Failed
lookups and turns that come to no run do not keep it from being ready. -/
theorem ready_and_accountsFor_iff (round : Round ns name) :
    (round.status.ready = true ↔ round.Fetches ∧ (¬round.Lacks ∨ round.Creates)) ∧
      ((round.status.ready = true ∧ ∀ release, round.Keeps release → round.AccountsFor release) ↔
        (round.Fetches ∧ (¬round.Lacks ∨ round.Creates)) ∧
          (∀ lookup ∈ artifactLookups round.exchanges, ∃ found, lookup.found = .ok found) ∧
            ∀ turn ∈ round.turns,
              round.Finds turn.tag turn.type ∨ round.Provides turn.tag turn.type) := by
  have hready : round.status.ready = true ↔ round.Fetches ∧ (¬round.Lacks ∨ round.Creates) := by
    rw [round.coherent.ready_iff]
    rcases round.conclusion_cases with ⟨hfetches, -, ⟨_, heq⟩ | ⟨_, heq⟩⟩ |
      ⟨hfetches, hlacks, heq⟩ | ⟨hfetches, -, hcreates, _, heq⟩ |
      ⟨-, hlacks, hcreates, -, heq⟩ | ⟨-, hlacks, hcreates, -, _, heq⟩ <;>
      simp [*]
  refine ⟨hready, ?_⟩
  rw [hready]
  -- whether it is ready is said alike on both sides; the rest is about single releases
  apply and_congr_right
  intro _
  constructor
  · intro haccounts
    constructor
    · intro lookup hlookup
      have hkept := keeps_iff.mpr (round.kept_of_mem_artifactLookups hlookup)
      exact (haccounts _ hkept).looked_up lookup hlookup rfl
    · intro turn hturn
      obtain ⟨finding, hfinding, htag, hconfigured, -⟩ :=
        round.course.exists_finding_of_turn hturn
      have hkept := keeps_iff.mpr (round.course.kept_of_finding hfinding)
      have hprovided := (haccounts _ hkept).provided turn.type hconfigured
      exact htag ▸ hprovided
  · rintro ⟨hsucceed, hturns⟩ release hkeeps
    refine ⟨fun lookup hlookup _ => hsucceed lookup hlookup, fun t hconfigured => ?_⟩
    obtain ⟨finding, hfinding, rfl⟩ := exists_finding_of_kept (keeps_iff.mp hkeeps) hsucceed
    -- a kind that the finding lacks may have been found for another release with its tag
    rcases round.course.has_or_exists_turn hfinding hconfigured with
      ⟨last, hlast, htag, hhas⟩ | ⟨turn, hturn, hpair⟩
    · have hfinds := finds_of_finding hlast hconfigured hhas
      rw [htag] at hfinds
      exact .inl hfinds
    · obtain ⟨htag, htype⟩ := Prod.mk.inj hpair
      have hprovided := hturns turn hturn
      rw [htag, htype] at hprovided
      exact hprovided

end Round

/-! ## A round that is ready too soon -/

/-- The answer of GitHub when its server is out of order. -/
def badGateway : GithubError := .status 502 "https://api.github.com/repos/owner/repo/releases/1"

/-- The lookup of the assets of `v1`, to which there is no proper answer. -/
def unansweredLookup : Exchanged :=
  ⟨.fetchAssets ⟨"owner", "repo", Finding.single.release⟩ false, .error badGateway⟩

theorem ends_lookUpAll_unanswered :
    Ends (lookUpAll (.plain noon) (singleSubject none).spec
        (keptReleases (singleSubject none).spec [Finding.single.release]))
      [unansweredLookup] [.error badGateway] := by
  have hlookup : Ends (lookUp (.plain noon) (singleSubject none).spec .assets
      Finding.single.release) [unansweredLookup] (.error badGateway) := by
    apply Ends.ask
    exact .done _
  apply ends_lookUpAll_iff.mpr
  refine ⟨[((Finding.single.release, 0), [unansweredLookup], .error badGateway)], rfl, ?_, rfl, rfl⟩
  exact List.forall_mem_singleton.mpr hlookup

/-- A round in which the artifacts of the only release cannot be looked up. -/
def unansweredRound : Round "ci" "app" where
  controller := {}
  moment := .plain noon
  repository := .single none
  account := .built [Finding.single.release] [.error badGateway] []
  opening := _
  delay := _
  status := _
  saved := .ok ()
  course := .built (ends_pipelineErrors_iff.mpr ⟨[("build", .ok ())], rfl, rfl, rfl⟩) (.done _)
    ends_lookUpAll_unanswered (.nil _)

/-- The repository is ready although its only release is not accounted for. -/
theorem not_accountsFor_unansweredRound :
    unansweredRound.status.ready = true ∧
      ∃ release, unansweredRound.Keeps release ∧ ¬unansweredRound.AccountsFor release := by
  refine ⟨rfl, Finding.single.release, Round.keeps_iff.mpr List.mem_cons_self, ?_⟩
  intro haccounts
  have hlookup : ⟨Finding.single.release, .assets, .error badGateway⟩ ∈
      artifactLookups unansweredRound.exchanges :=
    List.mem_cons_self
  obtain ⟨found, hfound⟩ := haccounts.looked_up _ hlookup rfl
  cases hfound

end ReleaseBuilds.Cycle
