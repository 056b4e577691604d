import ReleaseBuilds.Proofs.History
import ReleaseBuilds.Proofs.Need

/-!
# Memorized releases

A release that once had all its artifacts is not looked at again, as long as the same pipelines are
named, releases are memorized and GitHub leaves out what it is told to ignore. Only what a round
finds about a release can change its flags; so a release that is left out keeps them, and is left
out by the next round too.
-/

namespace ReleaseBuilds.Cycle

open Dialogue

section Stages

variable {c : Controller} {m : Moment} {subject : Subject} {s s' : Repository.Status}
  {delay : Delay} {account : Account m subject} {opening : List Exchanged} {tag : String}

/-- The turn of a release leaves all others alone. -/
theorem Attempt.sameFlags {t : ArtifactType} {exchanges : List Exchanged}
    {outcome : Except RunnerError RunOutcome} {other : String}
    (hattempt : Attempt m subject s tag t exchanges outcome s') (hne : other ≠ tag) :
    Repository.Status.SameFlags other s s' := by
  cases hattempt with
  | notConfigured => exact .of_releases_eq rfl
  | inFlight => exact .of_releases_eq rfl
  | failed => exact .of_releases_eq rfl
  | created => exact s.sameFlags_recordRun tag other t hne

/-- A cycle leaves a release alone about which it finds nothing. -/
theorem Course.sameFlags (hcourse : Course c m subject s account opening delay s')
    (hfindings : ∀ finding ∈ account.findings, finding.tag ≠ tag) :
    Repository.Status.SameFlags tag s s' := by
  -- turns are taken for findings only, so none is taken for the release
  have hturn (turn : Turn m subject) (hturn : turn ∈ account.turns) : tag ≠ turn.tag := by
    obtain ⟨finding, hfinding, heq, -, -⟩ := hcourse.exists_finding_of_turn hturn
    exact heq ▸ (hfindings finding hfinding).symm
  cases hcourse with
  | pipelinesUnavailable => exact .of_releases_eq rfl
  | releasesNotFetched _ hcleaning error =>
      exact (sameFlags_of_ends_cleanup hcleaning tag).trans (.of_releases_eq rfl)
  | @built _ _ _ cleaned last releases lookups turns _ hcleaning hlooking hturns =>
      have hflagged : Repository.Status.SameFlags tag cleaned
          (flagged m subject.spec cleaned lookups) :=
        (Repository.Status.SameFlags.of_releases_eq (releases_reported_narrowed ..)).trans
          (Repository.Status.sameFlags_takeUp _ _ _ hfindings)
      have hscheduled := (hturns.invariant (P := Repository.Status.SameFlags tag cleaned) hflagged
        fun turn hmem hbefore => hbefore.trans (turn.attempt.sameFlags (hturn turn hmem))).1
      exact ((sameFlags_of_ends_cleanup hcleaning tag).trans hscheduled).trans (.of_releases_eq rfl)

end Stages

/-! ## One round -/

section Round

variable {ns name : String}

/-- A round of a repository that memorizes its releases and names the given pipelines, with a GitHub
that leaves out the tags it is told to ignore. -/
structure Round.Memorizes (round : Round ns name) (pipelines : PerArtifact String) : Prop where
  pipelines_eq : round.repository.spec.pipelines = pipelines
  memorizeReleases : round.repository.spec.memorizeReleases = true
  leaves_out : ∀ query cancelled releases,
    (⟨.fetchReleases query cancelled, .ok releases⟩ : Exchanged) ∈ round.exchanges →
      ∀ release ∈ releases, release.tag ∉ query.ignored

/-- A round takes no notice of a tag: it has the releases fetched without it, asks for none of its
artifacts and for no run, and leaves its flags as they are. -/
structure Round.Spares (round : Round ns name) (tag : String) : Prop where
  ignored : ∀ query cancelled answer,
    (⟨.fetchReleases query cancelled, answer⟩ : Exchanged) ∈ round.exchanges → tag ∈ query.ignored
  not_looked_up : ∀ lookup ∈ artifactLookups round.exchanges, lookup.release.tag ≠ tag
  no_turn : ∀ turn ∈ round.turns, turn.tag ≠ tag
  not_requested : ∀ request answer,
    (⟨.createRun request, answer⟩ : Exchanged) ∈ round.exchanges →
      request.params.get? "revision" ≠ some tag
  flags_kept : (round.status.release tag).missing = (round.repository.known.release tag).missing

variable {round : Round ns name} {pipelines : PerArtifact String} {tag : String}

/-- The tags to ignore are those that are satisfied in the loaded status. -/
theorem Round.mem_ignored_iff (hmemorize : round.repository.spec.memorizeReleases = true)
    {query : ReleaseQuery} {cancelled : Bool} {answer : Except GithubError (List Release)}
    (hmem : (⟨.fetchReleases query cancelled, answer⟩ : Exchanged) ∈ round.exchanges) :
    tag ∈ query.ignored ↔
      tag ∈ round.repository.known.satisfiedTags round.repository.spec.pipelines := by
  obtain ⟨cleaning, cleaned, hcleaning, rfl, -⟩ := round.fetched_of_mem hmem
  have hignored : (releaseQuery round.subject cleaned).ignored =
      cleaned.satisfiedTags round.repository.spec.pipelines :=
    if_pos hmemorize
  rw [hignored, (sameFlags_of_ends_cleanup hcleaning tag).mem_satisfiedTags_iff]
  exact Iff.rfl

/-- A satisfied tag is not among the releases that are kept. -/
theorem Round.Memorizes.tag_ne_of_kept (hmemorizes : round.Memorizes pipelines)
    (htag : tag ∈ round.repository.known.satisfiedTags pipelines) {release : Release}
    (hkept : release ∈ round.account.kept) : release.tag ≠ tag := by
  obtain ⟨rfl, hmemorize, hleaves_out⟩ := hmemorizes
  obtain ⟨releases, hanswer, hpasses⟩ := Account.mem_kept_iff.mp hkept
  obtain ⟨_, _, -, hfetched⟩ := round.course.exists_fetched hanswer
  have hmem := round.mem_exchanges_of_mem_opening hfetched
  -- the release would have been fetched although its tag was told to be ignored
  have hleft_out := hleaves_out _ _ _ hmem release (mem_keptReleases_iff.mp hpasses).1
  intro heq
  exact hleft_out ((Round.mem_ignored_iff hmemorize hmem).mpr (heq ▸ htag))

/-- A satisfied tag is spared by the round and stays satisfied. -/
theorem Round.Memorizes.spares (hmemorizes : round.Memorizes pipelines)
    (htag : tag ∈ round.repository.known.satisfiedTags pipelines) :
    round.Spares tag ∧ tag ∈ round.status.satisfiedTags pipelines := by
  have hfindings (finding : Finding) (hfinding : finding ∈ round.account.findings) :
      finding.tag ≠ tag :=
    hmemorizes.tag_ne_of_kept htag (round.course.kept_of_finding hfinding)
  have hturns (turn : Turn round.moment round.subject) (hturn : turn ∈ round.turns) :
      turn.tag ≠ tag := by
    obtain ⟨finding, hfinding, heq, -, -⟩ := round.course.exists_finding_of_turn hturn
    exact heq ▸ hfindings finding hfinding
  have hbegin : Repository.Status.SameFlags tag round.repository.known
      (begin round.now round.repository.known) :=
    .of_releases_eq rfl
  have hsame := hbegin.trans (round.course.sameFlags hfindings)
  refine ⟨⟨?_, ?_, hturns, ?_, hsame.missing⟩, hsame.mem_satisfiedTags_iff.mpr htag⟩
  · intro query cancelled answer hmem
    apply (Round.mem_ignored_iff hmemorizes.memorizeReleases hmem).mpr
    rw [hmemorizes.pipelines_eq]
    exact htag
  · intro lookup hlookup
    exact hmemorizes.tag_ne_of_kept htag (round.kept_of_mem_artifactLookups hlookup)
  · intro request answer hmem hrevision
    obtain ⟨turn, hturn, hasked⟩ := round.exists_turn_of_request hmem
    obtain ⟨-, -, hparam⟩ := build?_eq_some (turn.attempt.build?_of_mem hasked)
    exact hturns turn hturn (Option.some.inj (hparam.symm.trans hrevision))

end Round

/-! ## Histories -/

section Rounds

variable {ns name : String} {pipelines : PerArtifact String} {s s' : Repository.Status}
  {rounds : List (Round ns name)}

/-- A tag that is satisfied once is spared by all later rounds, and its flags stay what they
were. -/
theorem Rounds.spares_of_satisfied (hrounds : Rounds ns name s rounds s')
    (hmemorizes : ∀ round ∈ rounds, round.Memorizes pipelines) {tag : String}
    (htag : tag ∈ s.satisfiedTags pipelines) :
    ∀ round ∈ rounds, round.Spares tag ∧ tag ∈ round.status.satisfiedTags pipelines ∧
      (round.status.release tag).missing = (s.release tag).missing := by
  -- what a round hands on to the next one is that the tag is satisfied
  induction hrounds with
  | nil => simp
  | cons first _ ih =>
      obtain ⟨hspares, hsatisfied⟩ := (hmemorizes first List.mem_cons_self).spares htag
      intro round hround
      rcases List.mem_cons.mp hround with rfl | hround
      · exact ⟨hspares, hsatisfied, hspares.flags_kept⟩
      · have hlater := fun round hmem => hmemorizes round (List.mem_cons_of_mem _ hmem)
        obtain ⟨hspares', hsatisfied', hflags⟩ := ih hlater hsatisfied round hround
        exact ⟨hspares', hsatisfied', hflags.trans hspares.flags_kept⟩

/-- Releases are memorized for good, and only those. Whatever status a history goes on from, a tag
that it shows to be satisfied is told to be ignored, not looked up, not built, and satisfied with
the same flags in every round from then on; and no round tells to ignore a tag that the status it
loaded does not show to be satisfied. -/
theorem Rounds.memorizes_satisfied (hrounds : Rounds ns name s rounds s')
    (hmemorizes : ∀ round ∈ rounds, round.Memorizes pipelines) :
    (∀ tag ∈ s.satisfiedTags pipelines, ∀ round ∈ rounds,
      round.Spares tag ∧ tag ∈ round.status.satisfiedTags pipelines ∧
        (round.status.release tag).missing = (s.release tag).missing) ∧
      ∀ round ∈ rounds, ∀ query cancelled answer,
        (⟨.fetchReleases query cancelled, answer⟩ : Exchanged) ∈ round.exchanges →
          ∀ tag, tag ∈ query.ignored → tag ∈ round.repository.known.satisfiedTags pipelines := by
  constructor
  · intro tag htag
    exact hrounds.spares_of_satisfied hmemorizes htag
  · intro round hround query cancelled answer hmem tag hignored
    rw [← (hmemorizes round hround).pipelines_eq]
    exact (Round.mem_ignored_iff (hmemorizes round hround).memorizeReleases hmem).mp hignored

end Rounds

/-! ## A history with a memorized release -/

/-- A status that shows the release `v0` to have its assets. -/
def memorizedStatus : Repository.Status :=
  ({} : Repository.Status).updateRelease "v0" fun r => r.setMissing .assets false

/-- A round in which a run is created for `v1`, and `v0` is memorized. -/
def memorizedRound : Round "ci" "app" :=
  .single noon (some memorizedStatus) (begin noon memorizedStatus) (.done _)
    (.created rfl .unrecorded { name := "build-1" })

theorem memorizes_memorizedRound : memorizedRound.Memorizes { assets := some "build" } where
  pipelines_eq := rfl
  memorizeReleases := rfl
  leaves_out := by
    intro query cancelled releases hmem release hrelease hignored
    -- the only release that is fetched is `v1`, and only `v0` is satisfied
    obtain ⟨-, -, -, -, hanswer⟩ := memorizedRound.fetched_of_mem hmem
    cases hanswer
    obtain rfl := List.mem_singleton.mp hrelease
    have hsatisfied := (Round.mem_ignored_iff rfl hmem).mp hignored
    exact absurd hsatisfied (by decide)

/-- The memorized release is spared while a run is created for another one. -/
theorem memorizedRound_spares :
    memorizedRound.Spares "v0" ∧ ∃ turn ∈ memorizedRound.turns, turn.pair = ("v1", .assets) := by
  have hrounds : Rounds "ci" "app" memorizedStatus [memorizedRound] memorizedRound.status :=
    Rounds.cons memorizedRound (.nil _)
  have hmemorizes : ∀ round ∈ [memorizedRound], round.Memorizes { assets := some "build" } :=
    List.forall_mem_singleton.mpr memorizes_memorizedRound
  have hsatisfied : "v0" ∈ memorizedStatus.satisfiedTags { assets := some "build" } := by decide
  have hspares := (hrounds.memorizes_satisfied hmemorizes).1 "v0" hsatisfied
  exact ⟨(hspares _ List.mem_cons_self).1, _, List.mem_cons_self, rfl⟩

end ReleaseBuilds.Cycle
