import ReleaseBuilds.Proofs.Lookups
import ReleaseBuilds.Proofs.Round

/-!
# The exchanges of a round

What a cycle can ask, and when. Before the first turn it checks its pipelines, looks up recorded
runs, fetches the releases, gives notice of what failed and looks up artifacts of the releases that
are kept. In a turn it looks up the recorded run, requests another one and gives notice of it.
-/

namespace ReleaseBuilds.Cycle

open Dialogue

section Opening

variable {c : Controller} {m : Moment} {subject : Subject} {s s' : Repository.Status}
  {delay : Delay} {account : Account m subject} {opening : List Exchanged} {x : Exchanged}

namespace Account

/-- What the fetch of the releases is answered, if the cycle gets that far. -/
def fetched? : Account m subject → Option (Except GithubError (List Release))
  | .pipelinesUnavailable _ => none
  | .releasesNotFetched error => some (.error error)
  | .built releases _ _ => some (.ok releases)

/-- The releases of which the artifacts are looked up. -/
def kept : Account m subject → List Release
  | .built releases _ _ => keptReleases subject.spec releases
  | _ => []

/-- What the lookups for these releases came to, in the order in which they ended. -/
def lookups : Account m subject → List Lookup
  | .built _ lookups _ => lookups
  | _ => []

/-- What was found for the releases of which no lookup failed. -/
def findings (account : Account m subject) : List Finding := ErrorList.values account.lookups

/-- What is kept was fetched and passes the filter and the deny list. -/
theorem mem_kept_iff {release : Release} :
    release ∈ account.kept ↔ ∃ releases, account.fetched? = some (.ok releases) ∧
      release ∈ keptReleases subject.spec releases := by
  cases account with
  | pipelinesUnavailable => simp [kept, fetched?]
  | releasesNotFetched => simp [kept, fetched?]
  | built releases lookups turns => simp [kept, fetched?]

end Account

/-- What can be asked before the first turn of a cycle, from a status made ready for it. -/
inductive Opens (m : Moment) (subject : Subject) (s : Repository.Status)
    (account : Account m subject) : Exchanged → Prop
  | pipeline (name : String) (answer : Except RunnerError Unit) :
      Opens m subject s account (checked subject.ns name answer)
  | run (name : String) (answer : Except RunnerError RunState) :
      Opens m subject s account (lookedUp subject.ns name answer)
  | releases {cleaning : List Exchanged} {cleaned : Repository.Status}
      {answer : Except GithubError (List Release)}
      (hcleaning : Ends (cleanup m subject s) cleaning cleaned)
      (hanswer : account.fetched? = some answer) :
      Opens m subject s account (fetched m subject cleaned answer)
  | notice {notice : Notice} (hnotice : ∀ run count tag, notice ≠ .runScheduled run count tag) :
      Opens m subject s account (told subject.reference notice)
  | artifact {x : Exchanged} {lookup : ArtifactLookup} (hlookup : artifactLookup? x = some lookup)
      (hkept : lookup.release ∈ account.kept) :
      Opens m subject s account x

theorem opens_of_pipelineErrors {errors : List RunnerError} {checks : List Exchanged}
    (hends : Ends (pipelineErrors subject) checks errors) (hx : x ∈ checks) :
    Opens m subject s account x := by
  obtain ⟨answers, -, rfl, -⟩ := ends_pipelineErrors_iff.mp hends
  obtain ⟨answer, -, rfl⟩ := List.mem_map.mp hx
  exact .pipeline answer.1 answer.2

theorem opens_of_cleanup {cleaning : List Exchanged} {cleaned : Repository.Status}
    (hends : Ends (cleanup m subject s) cleaning cleaned) (hx : x ∈ cleaning) :
    Opens m subject s account x := by
  obtain ⟨answers, -, rfl, -⟩ := ends_cleanup_iff.mp hends
  obtain ⟨answer, -, rfl⟩ := List.mem_map.mp hx
  exact .run answer.1.record.name answer.2

/-- Notices about the filter do not announce a run. -/
theorem ne_runScheduled_of_mem_filterNotices {spec : Repository.Spec} {releases : List Release}
    {notice : Notice} (hnotice : notice ∈ filterNotices spec releases) (run : String) (count : Nat)
    (tag : String) : notice ≠ .runScheduled run count tag := by
  rintro rfl
  dsimp only [filterNotices] at hnotice
  split at hnotice <;> simp at hnotice

/-- Notices about failed lookups do not announce a run. -/
theorem ne_runScheduled_of_mem_lookupNotices {errors : List GithubError} {notice : Notice}
    (hnotice : notice ∈ lookupNotices errors) (run : String) (count : Nat) (tag : String) :
    notice ≠ .runScheduled run count tag := by
  rintro rfl
  unfold lookupNotices at hnotice
  split_ifs at hnotice <;> simp at hnotice

/-- Everything that is asked before the first turn is of one of these kinds. -/
theorem Course.opens (hcourse : Course c m subject s account opening delay s')
    (hx : x ∈ opening) : Opens m subject s account x := by
  cases hcourse with
  | pipelinesUnavailable hchecks _ => exact opens_of_pipelineErrors hchecks hx
  | releasesNotFetched hchecks hcleaning error =>
      -- after the checks and the cleanup only the fetch and the notice that it failed are left
      simp only [List.mem_append, List.mem_cons, List.not_mem_nil, or_false] at hx
      rcases hx with (hx | hx) | rfl | rfl
      · exact opens_of_pipelineErrors hchecks hx
      · exact opens_of_cleanup hcleaning hx
      · exact .releases hcleaning rfl
      · apply Opens.notice
        intro run count tag
        unfold releasesFailure
        split <;> exact Notice.noConfusion
  | built hchecks hcleaning hlooking _ =>
      simp only [List.mem_append, List.mem_cons] at hx
      rcases hx with (hx | hx) | rfl | (hx | hx) | hx
      · exact opens_of_pipelineErrors hchecks hx
      · exact opens_of_cleanup hcleaning hx
      · exact .releases hcleaning rfl
      · obtain ⟨notice, hnotice, rfl⟩ := List.mem_map.mp hx
        exact .notice (ne_runScheduled_of_mem_filterNotices hnotice)
      · obtain ⟨lookup, hlookup, hkept⟩ := lookup_of_mem_lookUpAll hlooking hx
        exact .artifact hlookup hkept
      · obtain ⟨notice, hnotice, rfl⟩ := List.mem_map.mp hx
        exact .notice (ne_runScheduled_of_mem_lookupNotices hnotice)

/-! What is read off the exchanges before the first turn skips the stages that it is not about. -/

section FilterMap

variable {β : Type} {f : Exchanged → Option β} {exchanges : List Exchanged}

theorem filterMap_pipelineErrors {errors : List RunnerError}
    (hends : Ends (pipelineErrors subject) exchanges errors)
    (hf : ∀ name answer, f (checked subject.ns name answer) = none) :
    exchanges.filterMap f = [] := by
  obtain ⟨checks, -, rfl, -⟩ := ends_pipelineErrors_iff.mp hends
  rw [List.filterMap_map]
  exact List.filterMap_eq_nil_iff.mpr fun check _ => hf check.1 check.2

theorem filterMap_cleanup {cleaned : Repository.Status}
    (hends : Ends (cleanup m subject s) exchanges cleaned)
    (hf : ∀ name answer, f (lookedUp subject.ns name answer) = none) :
    exchanges.filterMap f = [] := by
  obtain ⟨answers, -, rfl, -⟩ := ends_cleanup_iff.mp hends
  rw [List.filterMap_map]
  exact List.filterMap_eq_nil_iff.mpr fun answer _ => hf answer.1.record.name answer.2

theorem filterMap_told (hf : ∀ notice, f (told subject.reference notice) = none)
    (notices : List Notice) : (notices.map (told subject.reference)).filterMap f = [] := by
  rw [List.filterMap_map]
  exact List.filterMap_eq_nil_iff.mpr fun notice _ => hf notice

end FilterMap

theorem ends_lookUpAll_nil (m : Moment) (spec : Repository.Spec) :
    Ends (lookUpAll m spec []) [] [] := by
  apply ends_lookUpAll_iff.mpr
  refine ⟨[], rfl, by simp, rfl, ?_⟩
  exact (List.perm_nil.mp (m.arrival.perm [])).symm

/-- No artifact is looked up before the records are cleaned up. -/
theorem artifactLookups_after_cleanup {errors : List RunnerError}
    {checks cleaning : List Exchanged} {cleaned : Repository.Status}
    (hchecks : Ends (pipelineErrors subject) checks errors)
    (hcleaning : Ends (cleanup m subject s) cleaning cleaned) (rest : List Exchanged) :
    artifactLookups (checks ++ cleaning ++ rest) = artifactLookups rest := by
  rw [artifactLookups, List.filterMap_append, List.filterMap_append,
    filterMap_pipelineErrors hchecks fun _ _ => rfl, filterMap_cleanup hcleaning fun _ _ => rfl]
  rfl

/-- The artifacts that a cycle looks up are those of the releases that it keeps. -/
theorem Course.exists_lookUpAll (hcourse : Course c m subject s account opening delay s') :
    ∃ looking, Ends (lookUpAll m subject.spec account.kept) looking account.lookups ∧
      artifactLookups opening = artifactLookups looking := by
  cases hcourse with
  | pipelinesUnavailable hchecks =>
      refine ⟨[], ends_lookUpAll_nil m subject.spec, ?_⟩
      exact filterMap_pipelineErrors hchecks fun _ _ => rfl
  | releasesNotFetched hchecks hcleaning error =>
      refine ⟨[], ends_lookUpAll_nil m subject.spec, ?_⟩
      rw [artifactLookups_after_cleanup hchecks hcleaning]
      rfl
  | built hchecks hcleaning hlooking _ =>
      refine ⟨_, hlooking, ?_⟩
      -- notices stand on both sides of the lookups
      have htold (notices : List Notice) :
          (notices.map (told subject.reference)).filterMap artifactLookup? = [] :=
        filterMap_told (fun _ => rfl) notices
      rw [artifactLookups_after_cleanup hchecks hcleaning, artifactLookups, List.filterMap_cons,
        List.filterMap_append, List.filterMap_append, htold, htold, List.append_nil]
      rfl

/-- Something is only found about releases that are kept. -/
theorem Course.kept_of_finding (hcourse : Course c m subject s account opening delay s')
    {finding : Finding} (hfinding : finding ∈ account.findings) :
    finding.release ∈ account.kept := by
  obtain ⟨looking, hlooking, -⟩ := hcourse.exists_lookUpAll
  exact (lookups_of_finding hlooking hfinding).1

/-- Of each release that is kept there is at most one finding. -/
theorem Course.findings_subperm (hcourse : Course c m subject s account opening delay s') :
    (account.findings.map Finding.release).Subperm account.kept := by
  obtain ⟨_, hlooking, -⟩ := hcourse.exists_lookUpAll
  exact Cycle.findings_subperm hlooking

/-- The releases are fetched once the records are cleaned up, as far as a cycle gets there. -/
theorem Course.exists_fetched (hcourse : Course c m subject s account opening delay s')
    {answer : Except GithubError (List Release)} (hanswer : account.fetched? = some answer) :
    ∃ cleaning cleaned, Ends (cleanup m subject s) cleaning cleaned ∧
      fetched m subject cleaned answer ∈ opening := by
  cases hcourse with
  | pipelinesUnavailable => cases hanswer
  | releasesNotFetched _ hcleaning error =>
      cases hanswer
      exact ⟨_, _, hcleaning, List.mem_append_right _ List.mem_cons_self⟩
  | built _ hcleaning _ _ =>
      cases hanswer
      exact ⟨_, _, hcleaning, List.mem_append_right _ List.mem_cons_self⟩

/-- The call creates a run or saves a status. -/
def Call.writes : Call → Bool
  | .createRun _ | .saveStatus _ => true
  | _ => false

/-- Before the first turn no run is requested and no status saved. -/
theorem Opens.writes_eq_false (hopens : Opens m subject s account x) : x.call.writes = false := by
  cases hopens with
  | pipeline => rfl
  | run => rfl
  | releases => rfl
  | notice => rfl
  | artifact hlookup =>
      rcases eq_of_artifactLookup? hlookup with ⟨_, _, _, rfl⟩ | ⟨_, _, _, rfl⟩
      · rfl
      · rfl

end Opening

/-! ## Whole rounds -/

namespace Round

variable {ns name : String} (round : Round ns name)

theorem mem_exchanges_iff {x : Exchanged} :
    x ∈ round.exchanges ↔ x = ⟨.load ns name, .ok (some round.repository)⟩ ∨
      x ∈ round.opening ∨ (∃ turn ∈ round.turns, x ∈ turn.exchanges) ∨
        x = ⟨.saveStatus { round.repository with status := some round.status }, round.saved⟩ := by
  simp only [exchanges, List.cons_append, List.append_assoc, List.mem_cons, List.mem_append,
    List.mem_flatMap, List.not_mem_nil, or_false]

theorem mem_exchanges_of_mem_opening {x : Exchanged} (hx : x ∈ round.opening) :
    x ∈ round.exchanges :=
  round.mem_exchanges_iff.mpr (.inr (.inl hx))

theorem mem_exchanges_of_mem_turn {turn : Turn round.moment round.subject}
    (hturn : turn ∈ round.turns) {x : Exchanged} (hx : x ∈ turn.exchanges) :
    x ∈ round.exchanges :=
  round.mem_exchanges_iff.mpr (.inr (.inr (.inl ⟨turn, hturn, hx⟩)))

/-- What the releases are fetched with, in a round that fetches them. -/
theorem fetched_of_mem {query : ReleaseQuery} {cancelled : Bool}
    {answer : Except GithubError (List Release)}
    (hmem : (⟨.fetchReleases query cancelled, answer⟩ : Exchanged) ∈ round.exchanges) :
    ∃ cleaning cleaned,
      Ends (cleanup round.moment round.subject (begin round.now round.repository.known)) cleaning
          cleaned ∧
        query = releaseQuery round.subject cleaned ∧ round.account.fetched? = some answer := by
  -- the exchange becomes a variable, to be compared with each kind of exchange that there is
  generalize hx : (⟨.fetchReleases query cancelled, answer⟩ : Exchanged) = x at hmem
  rcases round.mem_exchanges_iff.mp hmem with rfl | hopening | ⟨turn, -, hturn⟩ | rfl
  · cases hx
  · cases round.course.opens hopening with
    | pipeline => cases hx
    | run => cases hx
    | releases hcleaning hanswer =>
        cases hx
        exact ⟨_, _, hcleaning, rfl, hanswer⟩
    | notice => cases hx
    | artifact hlookup =>
        subst hx
        cases hlookup
  · cases turn.attempt.asks hturn with
    | run => cases hx
    | request => cases hx
    | notice => cases hx
  · cases hx

/-- A run is only requested in a turn. -/
theorem exists_turn_of_request {request : RunRequest} {answer : Except RunnerError RunState}
    (hmem : (⟨.createRun request, answer⟩ : Exchanged) ∈ round.exchanges) :
    ∃ turn ∈ round.turns, (⟨.createRun request, answer⟩ : Exchanged) ∈ turn.exchanges := by
  rcases round.mem_exchanges_iff.mp hmem with hload | hopening | hturn | hsave
  · cases hload
  · cases (round.course.opens hopening).writes_eq_false
  · exact hturn
  · cases hsave

/-- Artifacts are only looked up before the first turn. -/
theorem artifactLookups_exchanges :
    artifactLookups round.exchanges = artifactLookups round.opening := by
  have hturns : (round.turns.flatMap Turn.exchanges).filterMap artifactLookup? = [] := by
    apply List.filterMap_eq_nil_iff.mpr
    intro x hx
    obtain ⟨turn, -, hx⟩ := List.mem_flatMap.mp hx
    cases turn.attempt.asks hx with
    | run => rfl
    | request => rfl
    | notice => rfl
  rw [artifactLookups, exchanges, List.filterMap_append, List.filterMap_append, hturns,
    List.append_nil]
  exact List.append_nil _

/-- The lookups of a round are those for the releases that it keeps. -/
theorem exists_lookUpAll :
    ∃ looking, Ends (lookUpAll round.moment round.repository.spec round.account.kept) looking
        round.account.lookups ∧
      ∀ lookup, lookup ∈ artifactLookups round.exchanges ↔ lookup ∈ artifactLookups looking := by
  obtain ⟨looking, hlooking, hlookups⟩ := round.course.exists_lookUpAll
  refine ⟨looking, hlooking, fun lookup => ?_⟩
  rw [artifactLookups_exchanges, hlookups]

/-- Artifacts are only looked up for releases that are kept. -/
theorem kept_of_mem_artifactLookups {lookup : ArtifactLookup}
    (hmem : lookup ∈ artifactLookups round.exchanges) : lookup.release ∈ round.account.kept := by
  rw [artifactLookups_exchanges] at hmem
  obtain ⟨x, hx, hlookup⟩ := mem_artifactLookups_iff.mp hmem
  cases round.course.opens hx with
  | pipeline => cases hlookup
  | run => cases hlookup
  | releases => cases hlookup
  | notice => cases hlookup
  | artifact hfound hkept =>
      obtain rfl := Option.some.inj (hlookup.symm.trans hfound)
      exact hkept

end Round

end ReleaseBuilds.Cycle
