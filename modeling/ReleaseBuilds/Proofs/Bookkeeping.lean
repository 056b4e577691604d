import ReleaseBuilds.Proofs.Memorized
import ReleaseBuilds.Proofs.Tally

/-!
# What a round does to the releases it knows

A release stays known once it is known, and only one of which all lookups succeeded becomes known.
A round that finds nothing about a release, for whatever reason, leaves all that is known about it
as it was, but for the records of runs that its cleanup drops.
-/

namespace ReleaseBuilds.Cycle

open Dialogue

/-! ## Releases that are looked up -/

/-- A release that is looked up, the kind of which the lookup ends first, and what is answered for
each kind. -/
structure Inquiry where
  release : Release
  first : ArtifactType
  answers : ArtifactType → Except GithubError Bool

namespace Inquiry

variable {spec : Repository.Spec}

/-- One lookup for each kind that is looked after. -/
def lookups (spec : Repository.Spec) (inquiry : Inquiry) : List ArtifactLookup :=
  ((endingOrder inquiry.first).filter spec.isConfigured).map
    fun t => ⟨inquiry.release, t, inquiry.answers t⟩

/-- None of the lookups fails. If no kind is looked after, there is nothing that could fail. -/
def Succeeds (spec : Repository.Spec) (inquiry : Inquiry) : Prop :=
  ∀ lookup ∈ inquiry.lookups spec, ∃ found, lookup.found = .ok found

theorem length_lookups (spec : Repository.Spec) (first second : Inquiry) :
    (first.lookups spec).length = (second.lookups spec).length := by
  rw [lookups, lookups, List.length_map, List.length_map]
  exact ((endingOrder_perm first.first second.first).filter _).length_eq

theorem succeeds_iff {inquiry : Inquiry} :
    inquiry.Succeeds spec ↔
      ∀ t, spec.isConfigured t = true → ∃ found, inquiry.answers t = .ok found := by
  simp only [Succeeds, lookups, List.forall_mem_map, List.mem_filter]
  constructor
  · intro h t ht
    exact h t ⟨mem_endingOrder inquiry.first t, ht⟩
  · intro h t ht
    exact h t ht.2

/-- Lookups of given releases, one release after the other, tell what was answered for each. -/
theorem map_lookups_eq {first second : List Inquiry}
    (hreleases : first.map release = second.map release)
    (hlookups : first.flatMap (lookups spec) = second.flatMap (lookups spec)) :
    first.map (fun inquiry => (inquiry.release, inquiry.lookups spec)) =
      second.map (fun inquiry => (inquiry.release, inquiry.lookups spec)) := by
  induction first generalizing second with
  | nil =>
      cases second with
      | nil => rfl
      | cons => simp at hreleases
  | cons inquiry rest ih =>
      cases second with
      | nil => simp at hreleases
      | cons other others =>
          simp only [List.map_cons, List.cons.injEq] at hreleases
          simp only [List.flatMap_cons] at hlookups
          -- every release is looked up as often, so the lists of lookups split at the same place
          obtain ⟨hhead, hrest⟩ := List.append_inj hlookups (length_lookups spec _ _)
          rw [List.map_cons, List.map_cons, ih hreleases.2 hrest, hreleases.1, hhead]

/-- Which releases are looked up with success can be told from the releases and the lookups. -/
theorem exists_succeeds_congr {first second : List Inquiry}
    (hreleases : first.map release = second.map release)
    (hlookups : first.flatMap (lookups spec) = second.flatMap (lookups spec)) {tag : String}
    (hfirst : ∃ inquiry ∈ first, inquiry.release.tag = tag ∧ inquiry.Succeeds spec) :
    ∃ inquiry ∈ second, inquiry.release.tag = tag ∧ inquiry.Succeeds spec := by
  obtain ⟨inquiry, hinquiry, htag, hsucceeds⟩ := hfirst
  have hmem : (inquiry.release, inquiry.lookups spec) ∈
      second.map fun inquiry => (inquiry.release, inquiry.lookups spec) := by
    rw [← map_lookups_eq hreleases hlookups]
    exact List.mem_map_of_mem hinquiry
  obtain ⟨other, hother, heq⟩ := List.mem_map.mp hmem
  obtain ⟨hrelease, hsame⟩ := Prod.mk.inj heq
  refine ⟨other, hother, ?_, ?_⟩
  · rw [hrelease, htag]
  · unfold Succeeds at hsucceeds ⊢
    rw [hsame]
    exact hsucceeds

end Inquiry

section Stages

variable {c : Controller} {m : Moment} {subject : Subject} {s s' : Repository.Status}
  {delay : Delay} {account : Account m subject} {opening : List Exchanged} {tag : String}

/-- The lookups of the given releases, and which of them found something. -/
theorem exists_inquiries {spec : Repository.Spec} {talks : List (Release × List Exchanged × Lookup)}
    (htalks : ∀ talk ∈ talks, ∃ first, Ends (lookUp m spec first talk.1) talk.2.1 talk.2.2) :
    ∃ inquiries : List Inquiry, inquiries.map Inquiry.release = talks.map Prod.fst ∧
      artifactLookups (talks.flatMap fun talk => talk.2.1) =
        inquiries.flatMap (Inquiry.lookups spec) ∧
      ∀ tag, (∃ finding, .ok finding ∈ talks.map (fun talk => talk.2.2) ∧ finding.tag = tag) ↔
        ∃ inquiry ∈ inquiries, inquiry.release.tag = tag ∧ inquiry.Succeeds spec := by
  induction talks with
  | nil => exact ⟨[], rfl, rfl, by simp⟩
  | cons talk rest ih =>
      obtain ⟨inquiries, hreleases, hlookups, hfound⟩ :=
        ih fun talk htalk => htalks talk (List.mem_cons_of_mem _ htalk)
      obtain ⟨first, hends⟩ := htalks talk List.mem_cons_self
      obtain ⟨answers, hasked, hfinding, hfailed⟩ := lookups_of_ends_lookUp hends
      refine ⟨⟨talk.1, first, answers⟩ :: inquiries, by simp [hreleases], ?_, fun tag => ?_⟩
      · rw [List.flatMap_cons, List.flatMap_cons, artifactLookups, List.filterMap_append,
          ← artifactLookups, ← artifactLookups, hlookups, hasked.artifactLookups_eq]
        rfl
      · -- the first release is found with its tag exactly if none of its answers is an error
        have hfirst : (∃ finding, talk.2.2 = .ok finding ∧ finding.tag = tag) ↔
            talk.1.tag = tag ∧ (⟨talk.1, first, answers⟩ : Inquiry).Succeeds spec := by
          rw [Inquiry.succeeds_iff]
          constructor
          · rintro ⟨finding, hok, rfl⟩
            obtain ⟨hrelease, hanswers⟩ := hfinding finding hok
            exact ⟨by rw [Finding.tag, hrelease], fun t ht => ⟨_, hanswers t ht⟩⟩
          · rintro ⟨htag, hsucceeds⟩
            cases houtcome : talk.2.2 with
            | ok finding =>
                refine ⟨finding, rfl, ?_⟩
                rw [Finding.tag, (hfinding finding houtcome).1, htag]
            | error e =>
                obtain ⟨t, hconfigured, herror⟩ := hfailed e houtcome
                obtain ⟨found, hok⟩ := hsucceeds t hconfigured
                cases herror.symm.trans hok
        simp only [List.map_cons, List.mem_cons, or_and_right, exists_or, exists_eq_left]
        rw [hfound tag, ← hfirst]
        simp only [eq_comm]

/-- The lookups of a cycle tell which of the releases that it keeps were looked up with success, and
these are the releases about which it found something. -/
theorem Course.exists_inquiries (hcourse : Course c m subject s account opening delay s') :
    ∃ inquiries : List Inquiry, inquiries.map Inquiry.release = account.kept ∧
      artifactLookups opening = inquiries.flatMap (Inquiry.lookups subject.spec) ∧
      ∀ tag, (∃ finding ∈ account.findings, finding.tag = tag) ↔
        ∃ inquiry ∈ inquiries, inquiry.release.tag = tag ∧ inquiry.Succeeds subject.spec := by
  obtain ⟨looking, hlooking, hlookups⟩ := hcourse.exists_lookUpAll
  obtain ⟨talks, hreleases, htalks, rfl, houtcomes⟩ := exists_talks_of_ends_lookUpAll hlooking
  obtain ⟨inquiries, hinquiries, hasked, hfound⟩ := Cycle.exists_inquiries htalks
  refine ⟨inquiries, hinquiries.trans hreleases, hlookups.trans hasked, fun tag => ?_⟩
  rw [← hfound tag]
  -- the order in which lookups end changes nothing about what was found
  have hmem (finding : Finding) : finding ∈ account.findings ↔
      .ok finding ∈ talks.map fun talk => talk.2.2 := by
    rw [Account.findings, ErrorList.mem_values_iff, houtcomes]
    exact (m.arrival.perm _).mem_iff
  simp only [hmem]

/-! ## Releases that are known -/

/-- A release takes its turn because it is known to lack something. -/
theorem Turn.contains_before (turn : Turn m subject) :
    turn.before.releases.contains turn.tag = true := by
  have hlacking := turn.lacking
  rw [TextMap.contains]
  rw [Repository.Status.release] at hlacking
  cases hknown : turn.before.releases.get? turn.tag with
  | some r => rfl
  | none =>
      rw [hknown] at hlacking
      cases htype : turn.type <;> rw [htype] at hlacking <;> cases hlacking

/-- The turn of a known release makes no release known, and none unknown. -/
theorem Attempt.contains {t : ArtifactType} {exchanges : List Exchanged}
    {outcome : Except RunnerError RunOutcome}
    (hattempt : Attempt m subject s tag t exchanges outcome s')
    (hknown : s.releases.contains tag = true) (other : String) :
    s'.releases.contains other = s.releases.contains other := by
  cases hattempt with
  | notConfigured => rfl
  | inFlight => rfl
  | failed => rfl
  | created =>
      refine (s.contains_updateRelease tag other _).trans ?_
      by_cases htag : other = tag
      · simp [htag, hknown]
      · simp [htag]

/-- The turn of a release leaves the entries of all others alone. -/
theorem Attempt.get?_of_ne {t : ArtifactType} {exchanges : List Exchanged}
    {outcome : Except RunnerError RunOutcome} {other : String}
    (hattempt : Attempt m subject s tag t exchanges outcome s') (hne : other ≠ tag) :
    s'.releases.get? other = s.releases.get? other := by
  cases hattempt with
  | notConfigured => rfl
  | inFlight => rfl
  | failed => rfl
  | created => exact (s.get?_updateRelease tag other _).trans (if_neg hne)

/-- After a cycle the releases are known that were known before, and those about which it found
something. -/
theorem Course.contains_iff (hcourse : Course c m subject s account opening delay s') :
    s'.releases.contains tag = true ↔
      s.releases.contains tag = true ∨ ∃ finding ∈ account.findings, finding.tag = tag := by
  obtain ⟨pairs, first, last, hturns, hfirst, hlast⟩ := hcourse.exists_releases
  have hscheduled := hturns.invariant
    (P := fun now => now.releases.contains tag = first.releases.contains tag) rfl ?_
  · rw [hlast, hscheduled.1, hfirst, Repository.Status.contains_takeUp,
      Repository.Status.contains_dropRuns, Bool.or_eq_true, List.any_eq_true, or_comm]
    simp only [beq_iff_eq]
  · intro turn _ hbefore
    rw [turn.attempt.contains turn.contains_before, hbefore]

/-- A cycle that finds nothing about a release changes its entry only by the cleanup. -/
theorem Course.get?_of_no_finding (hcourse : Course c m subject s account opening delay s')
    (hfindings : ∀ finding ∈ account.findings, finding.tag ≠ tag) :
    s'.releases.get? tag = (s.dropRuns (staleRecords m.now
      (s.recordedRuns.zip (opening.filterMap runAnswer?)))).releases.get? tag := by
  obtain ⟨pairs, first, last, hturns, hfirst, hlast⟩ := hcourse.exists_releases
  have hscheduled := hturns.invariant
    (P := fun now => now.releases.get? tag = first.releases.get? tag) rfl ?_
  · rw [hlast, hscheduled.1, hfirst, Repository.Status.get?_takeUp _ _ _ hfindings]
  · intro turn hturn hbefore
    obtain ⟨finding, hfinding, htag, -, -⟩ := hcourse.exists_finding_of_turn hturn
    rw [turn.attempt.get?_of_ne (htag ▸ (hfindings finding hfinding).symm), hbefore]

/-- A cycle of which the releases are not fetched changes what is known only by the cleanup. -/
theorem Course.releases_of_fetch_error (hcourse : Course c m subject s account opening delay s')
    {error : GithubError} (hanswer : account.fetched? = some (.error error)) :
    s'.releases = (s.dropRuns (staleRecords m.now
      (s.recordedRuns.zip (opening.filterMap runAnswer?)))).releases := by
  obtain ⟨_, first, last, hturns, hfirst, hlast⟩ := hcourse.exists_releases
  cases account with
  | pipelinesUnavailable => cases hanswer
  | built => cases hanswer
  | releasesNotFetched =>
      have hno_turns := hturns.invariant (P := fun now => now = first) rfl fun turn hturn =>
        absurd hturn List.not_mem_nil
      rw [hlast, hno_turns.1, hfirst]
      rfl

/-- A cycle of which a pipeline is not found leaves all releases as they were. -/
theorem Course.releases_of_checked_error
    (hcourse : Course c m subject s account opening delay s') {pipeline : String}
    {error : RunnerError} (hchecked : checked subject.ns pipeline (.error error) ∈ opening) :
    s'.releases = s.releases := by
  -- once all pipelines are found, nothing else checks one
  have hchecks_ok {checks : List Exchanged} (hchecks : Ends (pipelineErrors subject) checks []) :
      checked subject.ns pipeline (.error error) ∉ checks := by
    intro hmem
    rw [checks_of_no_errors hchecks] at hmem
    obtain ⟨_, -, heq⟩ := List.mem_map.mp hmem
    cases heq
  have hcleaning_none {cleaning : List Exchanged} {cleaned : Repository.Status}
      (hcleaning : Ends (cleanup m subject s) cleaning cleaned) :
      checked subject.ns pipeline (.error error) ∉ cleaning := by
    intro hmem
    obtain ⟨_, -, rfl, -⟩ := ends_cleanup_iff.mp hcleaning
    obtain ⟨_, -, heq⟩ := List.mem_map.mp hmem
    cases heq
  cases hcourse with
  | pipelinesUnavailable => rfl
  | releasesNotFetched hchecks hcleaning _ =>
      simp only [List.mem_append, List.mem_cons, List.not_mem_nil, or_false] at hchecked
      rcases hchecked with (hmem | hmem) | heq | heq
      · exact absurd hmem (hchecks_ok hchecks)
      · exact absurd hmem (hcleaning_none hcleaning)
      · cases heq
      · cases heq
  | built hchecks hcleaning hlooking _ =>
      simp only [List.mem_append, List.mem_cons] at hchecked
      rcases hchecked with (hmem | hmem) | heq | (hmem | hmem) | hmem
      · exact absurd hmem (hchecks_ok hchecks)
      · exact absurd hmem (hcleaning_none hcleaning)
      · cases heq
      · obtain ⟨_, -, heq⟩ := List.mem_map.mp hmem
        cases heq
      · obtain ⟨_, hlookup, -⟩ := lookup_of_mem_lookUpAll hlooking hmem
        cases hlookup
      · obtain ⟨_, -, heq⟩ := List.mem_map.mp hmem
        cases heq

end Stages

/-! ## Rounds -/

namespace Round

variable {ns name : String} (round : Round ns name) {tag : String}

/-- The records that the cleanup of a round drops. Runs are looked up in the order in which they are
recorded. -/
def staleRecords : List Repository.RecordedRun :=
  Cycle.staleRecords round.now
    (round.repository.known.recordedRuns.zip (round.opening.filterMap runAnswer?))

/-- What was known before the round, without the records that its cleanup drops. -/
def cleaned : Repository.Status := round.repository.known.dropRuns round.staleRecords

/-- All lookups of a release with the tag succeeded in the round. Every release that the round keeps
is looked up, and its lookups are told from the exchanges by their order. -/
def Succeeds (tag : String) : Prop :=
  ∃ inquiries : List Inquiry, inquiries.map Inquiry.release = round.account.kept ∧
    artifactLookups round.exchanges =
      inquiries.flatMap (Inquiry.lookups round.repository.spec) ∧
    ∃ inquiry ∈ inquiries, inquiry.release.tag = tag ∧ inquiry.Succeeds round.repository.spec

/-- A round succeeds with the releases about which it finds something. -/
theorem succeeds_iff :
    round.Succeeds tag ↔ ∃ finding ∈ round.account.findings, finding.tag = tag := by
  obtain ⟨inquiries, hreleases, hlookups, hfound⟩ := round.course.exists_inquiries
  rw [hfound tag]
  constructor
  · rintro ⟨others, hothers, hasked, hsucceeds⟩
    have hsame := hasked.symm.trans (round.artifactLookups_exchanges.trans hlookups)
    exact Inquiry.exists_succeeds_congr (hothers.trans hreleases.symm) hsame hsucceeds
  · intro hsucceeds
    exact ⟨inquiries, hreleases, round.artifactLookups_exchanges.trans hlookups, hsucceeds⟩

/-- A round leaves what is known about a release as it was, but for the records of runs that its
cleanup drops, and requests no run for it. -/
structure LeavesAlone (tag : String) : Prop where
  entry : round.status.releases.get? tag = round.cleaned.releases.get? tag
  missing : (round.status.release tag).missing = (round.repository.known.release tag).missing
  runs : ∀ t, round.status.run? tag t =
    if ∃ r ∈ round.staleRecords, r.tag = tag ∧ r.type = t then none
    else round.repository.known.run? tag t
  not_requested : ∀ request answer,
    (⟨.createRun request, answer⟩ : Exchanged) ∈ round.exchanges →
      request.params.get? "revision" ≠ some tag

/-- A round keeps the books about the releases that it knows, whatever it is answered. -/
structure KeepsBooks : Prop where
  /-- No release is forgotten, and those become known that were looked up with success. -/
  known : ∀ tag, round.status.releases.contains tag = true ↔
    round.repository.known.releases.contains tag = true ∨ round.Succeeds tag
  spared : ∀ tag, ¬round.Succeeds tag → round.LeavesAlone tag
  /-- Only records are dropped of which the run was found gone or expired. -/
  stale : ∀ r ∈ round.staleRecords, round.repository.known.run? r.tag r.type = some r.record ∧
    ∃ answer, lookedUp ns r.record.name answer ∈ round.exchanges ∧ isStale round.now answer = true
  /-- If a pipeline is not found, nothing changes. -/
  at_pipelines : (∃ pipeline error, checked ns pipeline (.error error) ∈ round.exchanges) →
    round.status.releases = round.repository.known.releases
  /-- If the releases are not fetched, only the cleanup changes anything. -/
  at_fetch : (∃ query cancelled error,
      (⟨.fetchReleases query cancelled, .error error⟩ : Exchanged) ∈ round.exchanges) →
    round.status.releases = round.cleaned.releases

variable {round}

/-- The records that the cleanup drops were found stale by lookups of the round. -/
theorem isStale_of_mem_staleRecords {r : Repository.RecordedRun} (hr : r ∈ round.staleRecords) :
    round.repository.known.run? r.tag r.type = some r.record ∧
      ∃ answer, lookedUp ns r.record.name answer ∈ round.exchanges ∧
        isStale round.now answer = true := by
  obtain ⟨⟨_, answer⟩, hanswer, rfl⟩ := List.mem_map.mp hr
  obtain ⟨hmem, hstale⟩ := List.mem_filter.mp hanswer
  have hrecorded := (List.of_mem_zip hmem).1
  refine ⟨(Repository.Status.mem_recordedRuns_iff _).mp hrecorded, answer, ?_, hstale⟩
  exact round.mem_exchanges_of_mem_opening (round.course.lookedUp_of_mem hmem)

theorem leavesAlone_of_not_succeeds (hfails : ¬round.Succeeds tag) : round.LeavesAlone tag := by
  have hfindings (finding : Finding) (hfinding : finding ∈ round.account.findings) :
      finding.tag ≠ tag := by
    intro htag
    exact hfails (round.succeeds_iff.mpr ⟨finding, hfinding, htag⟩)
  have hentry : round.status.releases.get? tag = round.cleaned.releases.get? tag := by
    rw [round.course.get?_of_no_finding hfindings]
    exact congrArg (TextMap.get? · tag) (Repository.Status.releases_dropRuns_congr _ rfl)
  have hrelease : round.status.release tag = round.cleaned.release tag := by
    rw [Repository.Status.release, Repository.Status.release, hentry]
  refine ⟨hentry, ?_, fun t => ?_, ?_⟩
  · rw [hrelease, cleaned, Repository.Status.missing_dropRuns]
  · rw [Repository.Status.run?, hrelease]
    exact Repository.Status.run?_dropRuns ..
  · intro request answer hmem hrevision
    obtain ⟨turn, hturn, hasked⟩ := round.exists_turn_of_request hmem
    obtain ⟨-, -, hparam⟩ := build?_eq_some (turn.attempt.build?_of_mem hasked)
    obtain ⟨finding, hfinding, htag, -, -⟩ := round.course.exists_finding_of_turn hturn
    exact hfindings finding hfinding (htag.trans (Option.some.inj (hparam.symm.trans hrevision)))

/-- Pipelines are checked before the first turn. -/
theorem mem_opening_of_checked {pipeline : String} {answer : Except RunnerError Unit}
    (hmem : checked ns pipeline answer ∈ round.exchanges) :
    checked ns pipeline answer ∈ round.opening := by
  generalize hx : checked ns pipeline answer = x at hmem ⊢
  rcases round.mem_exchanges_iff.mp hmem with rfl | hopening | ⟨turn, -, hturn⟩ | rfl
  · cases hx
  · exact hopening
  · cases turn.attempt.asks hturn with
    | run => cases hx
    | request => cases hx
    | notice => cases hx
  · cases hx

/-- Failures leave the books alone, at every stage of a round and for every release. -/
theorem keepsBooks (round : Round ns name) : round.KeepsBooks := by
  constructor
  · intro tag
    rw [round.succeeds_iff]
    exact round.course.contains_iff
  · intro tag hfails
    exact leavesAlone_of_not_succeeds hfails
  · intro r hr
    exact isStale_of_mem_staleRecords hr
  · rintro ⟨pipeline, error, hmem⟩
    exact round.course.releases_of_checked_error (mem_opening_of_checked hmem)
  · rintro ⟨query, cancelled, error, hmem⟩
    obtain ⟨_, _, -, -, hanswer⟩ := round.fetched_of_mem hmem
    rw [round.course.releases_of_fetch_error hanswer]
    exact Repository.Status.releases_dropRuns_congr _ rfl

end Round

/-- Every cycle of a loaded repository keeps the books about its releases, wherever it fails. -/
theorem reconcile_keepsBooks {c : Controller} {m : Moment} {ns name : String}
    {repository : Repository} {rest : List Exchanged}
    {result : Except LoadError (Option Delay)}
    (hends : Ends (reconcile c m ns name) (⟨.load ns name, .ok (some repository)⟩ :: rest) result) :
    ∃ round : Round ns name, round.controller = c ∧ round.moment = m ∧
      round.repository = repository ∧
        round.exchanges = ⟨.load ns name, .ok (some repository)⟩ :: rest ∧
          result = .ok (some round.requeueAfter) ∧ round.KeepsBooks := by
  obtain ⟨round, hcontroller, hmoment, hrepository, hexchanges, hresult⟩ :=
    exists_round_of_loaded hends
  exact ⟨round, hcontroller, hmoment, hrepository, hexchanges, hresult, round.keepsBooks⟩

theorem ends_cleanup_memorized :
    Ends (cleanup (.plain noon) (singleSubject (some memorizedStatus)) (begin noon memorizedStatus))
      [] (begin noon memorizedStatus) :=
  .done _

/-- A round in which the releases cannot be fetched. -/
def unfetchedRound : Round "ci" "app" where
  controller := {}
  moment := .plain noon
  repository := .single (some memorizedStatus)
  account := .releasesNotFetched .unauthorized
  opening := _
  delay := _
  status := _
  saved := .ok ()
  course := .releasesNotFetched (ends_pipelineErrors_iff.mpr ⟨[("build", .ok ())], rfl, rfl, rfl⟩)
    ends_cleanup_memorized .unauthorized

/-- A release that is known stays known when the releases cannot be fetched, and nothing but the
cleanup changes what is known about it. -/
theorem keepsBooks_unfetchedRound :
    ∃ rest result,
      Ends (reconcile {} (.plain noon) "ci" "app")
          (⟨.load "ci" "app", .ok (some (.single (some memorizedStatus)))⟩ :: rest) result ∧
        ∃ round : Round "ci" "app",
          round.exchanges =
              ⟨.load "ci" "app", .ok (some (.single (some memorizedStatus)))⟩ :: rest ∧
            round.status.releases = round.cleaned.releases ∧
              round.status.releases.contains "v0" = true := by
  have hends := ends_reconcile_iff.mpr ⟨unfetchedRound, rfl, rfl, rfl, rfl⟩
  obtain ⟨round, -, -, hrepository, hexchanges, -, hkeeps⟩ := reconcile_keepsBooks hends
  have hfetched : fetched (.plain noon) (singleSubject (some memorizedStatus))
      (begin noon memorizedStatus) (.error .unauthorized) ∈ round.exchanges := by
    rw [hexchanges]
    exact List.mem_cons_of_mem _ (List.mem_cons_of_mem _ List.mem_cons_self)
  refine ⟨_, _, hends, round, hexchanges, hkeeps.at_fetch ⟨_, _, _, hfetched⟩,
    (hkeeps.known "v0").mpr (.inl ?_)⟩
  rw [hrepository]
  decide

end ReleaseBuilds.Cycle
