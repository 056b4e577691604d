import ReleaseBuilds.Proofs.Turns

/-!
# Rounds

An account of one whole cycle: what it came to know, the exchanges stage by stage, the turns that
were taken, and the status and the delay with which it ended. Rounds are exactly the ways in which
a cycle of a loaded repository ends, so a statement about all rounds is one about all cycles,
whatever they are answered.
-/

namespace ReleaseBuilds

/-- What is known about a repository when a cycle begins. -/
def Repository.known (repository : Repository) : Repository.Status := repository.status.getD {}

namespace Cycle

open Dialogue

/-- The subject of a cycle for a repository. -/
def Subject.ofRepository (ns : String) (repository : Repository) : Subject :=
  { ns
    spec := repository.spec
    reference := .of Repository.kind repository.metadata
    since := repository.known.lastCheck }

section Stages

variable {m : Moment} {subject : Subject}

/-- The errors of lookups, in the order in which the lookups ended. -/
def failuresOf (lookups : List Lookup) : List GithubError := (ErrorList.ofOutcomes lookups).toList

/-- The releases that lack something, by what their lookups found. -/
def lackingOf (spec : Repository.Spec) (lookups : List Lookup) : List String :=
  Repository.lackingTags spec (ErrorList.values lookups)

/-- The status when scheduling begins, from the one after the cleanup. -/
def flagged (m : Moment) (spec : Repository.Spec) (cleaned : Repository.Status)
    (lookups : List Lookup) : Repository.Status :=
  (reported m (narrowed m spec cleaned) (failuresOf lookups)).takeUp spec (ErrorList.values lookups)

/-- The verdict about the releases that lack something, given the turns taken for them. -/
def verdict (lacking : List String) (turns : List (Turn m subject)) : Observation :=
  if lacking.isEmpty then .noRunsNeeded else verdictOf (.of (turns.map Turn.outcome))

/-- What a cycle comes to know, as far as it gets. -/
inductive Account (m : Moment) (subject : Subject) where
  | pipelinesUnavailable (errors : List RunnerError)
  | releasesNotFetched (error : GithubError)
  | built (releases : List Release) (lookups : List Lookup) (turns : List (Turn m subject))

namespace Account

def turns : Account m subject → List (Turn m subject)
  | .built _ _ turns => turns
  | _ => []

/-- The failures of GitHub that the cycle reports, in their order. -/
def failures : Account m subject → List GithubError
  | .pipelinesUnavailable _ => []
  | .releasesNotFetched error => [error]
  | .built _ lookups _ => failuresOf lookups

end Account

/-- How the stages of a cycle go on a status that was made ready for it: what it comes to know,
what is asked before the first turn, and the delay and the status with which it ends. -/
inductive Course (c : Controller) (m : Moment) (subject : Subject) (s : Repository.Status) :
    Account m subject → List Exchanged → Delay → Repository.Status → Prop
  | pipelinesUnavailable {checks : List Exchanged} {errors : List RunnerError}
      (hchecks : Ends (pipelineErrors subject) checks errors) (herrors : errors ≠ []) :
      Course c m subject s (.pipelinesUnavailable errors) checks (c.pipelinesDelay m)
        (s.setCondition
          ((Observation.pipelinesUnavailable (pipelineProblem errors)).condition m.now))
  | releasesNotFetched {checks cleaning : List Exchanged} {cleaned : Repository.Status}
      (hchecks : Ends (pipelineErrors subject) checks [])
      (hcleaning : Ends (cleanup m subject s) cleaning cleaned) (error : GithubError) :
      Course c m subject s (.releasesNotFetched error)
        (checks ++ cleaning ++ [fetched m subject cleaned (.error error),
          told subject.reference (releasesFailure c m error).2.1])
        (releasesFailure c m error).2.2 (notFetched c m cleaned error)
  | built {checks cleaning looking : List Exchanged} {cleaned s' : Repository.Status}
      {releases : List Release} {lookups : List Lookup} {turns : List (Turn m subject)}
      (hchecks : Ends (pipelineErrors subject) checks [])
      (hcleaning : Ends (cleanup m subject s) cleaning cleaned)
      (hlooking : Ends (lookUpAll m subject.spec (keptReleases subject.spec releases)) looking
        lookups)
      (hturns : Turns m subject (pairs (lackingOf subject.spec lookups))
        (flagged m subject.spec cleaned lookups) turns s') :
      Course c m subject s (.built releases lookups turns)
        (checks ++ cleaning ++ fetched m subject cleaned (.ok releases) ::
          ((filterNotices subject.spec releases).map (told subject.reference) ++ looking ++
            (lookupNotices (failuresOf lookups)).map (told subject.reference)))
        (verdictDelay c m (lookupDelay c m (failuresOf lookups))
          (mostAttempts s' (lackingOf subject.spec lookups))
          (verdict (lackingOf subject.spec lookups) turns))
        (conclude m s' (verdict (lackingOf subject.spec lookups) turns))

theorem ends_build_iff {c : Controller} {s s' : Repository.Status} {releases : List Release}
    {delay : Delay} {exchanges : List Exchanged} :
    Ends (build c m subject s releases) exchanges (delay, s') ↔
      ∃ (looking : List Exchanged) (lookups : List Lookup) (turns : List (Turn m subject))
        (scheduled : Repository.Status),
        Ends (lookUpAll m subject.spec releases) looking lookups ∧
          Turns m subject (pairs (lackingOf subject.spec lookups))
            ((reported m s (failuresOf lookups)).takeUp subject.spec (ErrorList.values lookups))
            turns scheduled ∧
          exchanges = looking ++
            (lookupNotices (failuresOf lookups)).map (told subject.reference) ++
            turns.flatMap Turn.exchanges ∧
          delay = verdictDelay c m (lookupDelay c m (failuresOf lookups))
            (mostAttempts scheduled (lackingOf subject.spec lookups))
            (verdict (lackingOf subject.spec lookups) turns) ∧
          s' = conclude m scheduled (verdict (lackingOf subject.spec lookups) turns) := by
  simp only [build, monad_bind, monad_pure, ends_bind_iff, ends_reportLookups_iff]
  constructor
  · rintro ⟨looking, _, lookups, rfl, hlooking, _, rest, _, rfl, ⟨rfl, rfl⟩, hrest⟩
    cases hlacking : lackingOf subject.spec lookups with
    | nil =>
        have htags : Repository.lackingTags subject.spec (ErrorList.values lookups) = [] := hlacking
        simp only [htags, ends_done_iff, Prod.mk.injEq] at hrest
        obtain ⟨rfl, rfl, rfl⟩ := hrest
        refine ⟨looking, lookups, [],
          (reported m s (failuresOf lookups)).takeUp subject.spec (ErrorList.values lookups),
          hlooking, ?_, by simp [failuresOf], ?_, ?_⟩
        · rw [hlacking]
          exact .nil _
        · simp [hlacking, verdict, mostAttempts, failuresOf]
        · simp [hlacking, verdict, failuresOf]
    | cons first others =>
        have htags : Repository.lackingTags subject.spec (ErrorList.values lookups) =
          first :: others := hlacking
        simp only [htags, ends_bind_iff, ends_done_iff, Prod.exists, Prod.mk.injEq,
          ends_scheduleAll_iff] at hrest
        obtain ⟨_, _, _, scheduled, rfl, ⟨turns, hturns, rfl, rfl⟩, rfl, rfl, rfl⟩ := hrest
        exact ⟨looking, lookups, turns, scheduled, hlooking, hlacking ▸ hturns,
          by simp [failuresOf], by simp [hlacking, verdict, failuresOf],
          by simp [hlacking, verdict]⟩
  · rintro ⟨looking, lookups, turns, scheduled, hlooking, hturns, rfl, rfl, rfl⟩
    refine ⟨looking, _, lookups, List.append_assoc _ _ _, hlooking, _, _, _, rfl, ⟨rfl, rfl⟩, ?_⟩
    cases hlacking : lackingOf subject.spec lookups with
    | nil =>
        have htags : Repository.lackingTags subject.spec (ErrorList.values lookups) = [] := hlacking
        rw [hlacking] at hturns
        cases hturns
        simp [htags, verdict, mostAttempts, failuresOf]
    | cons first others =>
        have htags : Repository.lackingTags subject.spec (ErrorList.values lookups) =
          first :: others := hlacking
        simp only [htags, ends_bind_iff, ends_done_iff, Prod.exists, Prod.mk.injEq,
          ends_scheduleAll_iff]
        exact ⟨_, [], _, scheduled, (List.append_nil _).symm, ⟨turns, hlacking ▸ hturns, rfl, rfl⟩,
          rfl, rfl, rfl⟩

/-- The courses of a cycle are the ways in which its stages end. -/
theorem ends_run_iff {c : Controller} {s s' : Repository.Status} {delay : Delay}
    {exchanges : List Exchanged} :
    Ends (run c m subject s) exchanges (delay, s') ↔
      ∃ (account : Account m subject) (opening : List Exchanged),
        Course c m subject s account opening delay s' ∧
          exchanges = opening ++ account.turns.flatMap Turn.exchanges := by
  simp only [run, monad_bind, monad_pure, ends_bind_iff]
  constructor
  · rintro ⟨checks, rest, errors, rfl, hchecks, hrest⟩
    cases errors with
    | cons first others =>
        obtain ⟨rfl, hvalue⟩ := ends_done_iff.mp hrest
        cases hvalue
        exact ⟨_, checks, .pipelinesUnavailable hchecks (List.cons_ne_nil _ _),
          by simp [Account.turns]⟩
    | nil =>
        simp only [ends_bind_iff, Prod.exists, ends_discover_iff] at hrest
        obtain ⟨cleaning, _, cleaned, rfl, hcleaning, _, building, result, _, rfl, hresult,
          hbuilding⟩ := hrest
        rcases hresult with ⟨releases, rfl, rfl, rfl⟩ | ⟨error, rfl, rfl, rfl⟩
        · simp only [ends_bind_iff, Prod.exists, ends_narrow_iff, ends_build_iff] at hbuilding
          obtain ⟨_, _, _, _, rfl, ⟨rfl, rfl, rfl⟩, looking, lookups, turns, scheduled, hlooking,
            hturns, rfl, rfl, rfl⟩ := hbuilding
          exact ⟨_, _, .built hchecks hcleaning hlooking hturns, by simp [Account.turns]⟩
        · obtain ⟨rfl, hvalue⟩ := ends_done_iff.mp hbuilding
          cases hvalue
          exact ⟨_, _, .releasesNotFetched hchecks hcleaning error, by simp [Account.turns]⟩
  · rintro ⟨account, opening, hcourse, rfl⟩
    cases hcourse with
    | pipelinesUnavailable hchecks herrors =>
        refine ⟨_, [], _, by simp [Account.turns], hchecks, ?_⟩
        split
        next => exact absurd rfl herrors
        next => exact .done _
    | releasesNotFetched hchecks hcleaning error =>
        refine ⟨_, _, [], by simp [Account.turns, List.append_assoc]; rfl, hchecks, ?_⟩
        simp only [ends_bind_iff, Prod.exists, ends_discover_iff]
        exact ⟨_, _, _, rfl, hcleaning, _, [], _, _, (List.append_nil _).symm,
          .inr ⟨error, rfl, rfl, rfl⟩, .done _⟩
    | built hchecks hcleaning hlooking hturns =>
        refine ⟨_, _, [], by simp [Account.turns, List.append_assoc]; rfl, hchecks, ?_⟩
        simp only [ends_bind_iff, Prod.exists, ends_discover_iff]
        refine ⟨_, _, _, rfl, hcleaning, [_], _, _, _, rfl, .inl ⟨_, rfl, rfl, rfl⟩, ?_⟩
        simp only [ends_bind_iff, Prod.exists, ends_narrow_iff, ends_build_iff]
        exact ⟨_, _, _, _, rfl, ⟨rfl, rfl, rfl⟩, _, _, _, _, hlooking, hturns,
          (List.append_assoc _ _ _).symm, rfl, rfl⟩

end Stages

/-- An item of two lists one after the other lies in the first or in the second. -/
theorem split_append {α : Type} {first second before after : List α} {x : α}
    (hsplit : first ++ second = before ++ x :: after) :
    (∃ between, first = before ++ x :: between ∧ after = between ++ second) ∨
      ∃ between, before = first ++ between ∧ second = between ++ x :: after := by
  rcases List.append_eq_append_iff.mp hsplit with
    ⟨between, hbefore, hsecond⟩ | ⟨between, hfirst, hsecond⟩
  · exact .inr ⟨between, hbefore, hsecond⟩
  · cases between with
    | nil => exact .inr ⟨[], by simp [hfirst], by simpa using hsecond.symm⟩
    | cons y others =>
        obtain ⟨rfl, rfl⟩ := List.cons.inj hsecond
        exact .inl ⟨others, hfirst, rfl⟩

/-- What is not in the first of two lists comes after all of it. -/
theorem split_after_prefix {α : Type} {first second before after : List α} {x : α}
    (hsplit : first ++ second = before ++ x :: after) (hx : x ∉ first) :
    ∃ between, before = first ++ between ∧ second = between ++ x :: after := by
  rcases split_append hsplit with ⟨between, rfl, -⟩ | hsecond
  · exact absurd (List.mem_append_right _ List.mem_cons_self) hx
  · exact hsecond

/-- One cycle of the repository with a name that was loaded, from its load to the saving
of its status. -/
structure Round (ns name : String) where
  controller : Controller
  moment : Moment
  repository : Repository
  account : Account moment (Subject.ofRepository ns repository)
  /-- What is asked after the load and before the first turn. -/
  opening : List Exchanged
  delay : Delay
  status : Repository.Status
  /-- What the store says about the saved status. -/
  saved : Except StoreError Unit
  course : Course controller moment (Subject.ofRepository ns repository)
    (begin moment.now repository.known) account opening delay status

namespace Round

variable {ns name : String} (round : Round ns name)

/-- The reading of the clock with which the cycle works. -/
def now : Instant := round.moment.now

def subject : Subject := Subject.ofRepository ns round.repository

def turns : List (Turn round.moment round.subject) := round.account.turns

/-- All exchanges of the cycle in their order. -/
def exchanges : List Exchanged :=
  ⟨.load ns name, .ok (some round.repository)⟩ :: round.opening ++
    round.turns.flatMap Turn.exchanges ++
      [⟨.saveStatus { round.repository with status := some round.status }, round.saved⟩]

/-- The delay after which the repository comes up again. -/
def requeueAfter : Delay := round.delay.max Controller.leastDelay

end Round

/-- A cycle that gives a delay is a round. -/
theorem ends_reconcile_iff {c : Controller} {m : Moment} {ns name : String} {delay : Delay}
    {exchanges : List Exchanged} :
    Ends (reconcile c m ns name) exchanges (.ok (some delay)) ↔
      ∃ round : Round ns name, round.controller = c ∧ round.moment = m ∧
        round.exchanges = exchanges ∧ round.requeueAfter = delay := by
  simp only [reconcile, monad_bind, monad_pure, load, saveStatus, ask, ends_bind_iff,
    ends_question_iff]
  constructor
  · rintro ⟨_, rest, answer, rfl, rfl, hrest⟩
    rcases answer with cause | (_ | repository)
    · cases (ends_done_iff.mp hrest).2
    · cases (ends_done_iff.mp hrest).2
    · simp only [ends_bind_iff, Prod.exists, ends_question_iff, ends_done_iff] at hrest
      obtain ⟨_, _, before, status, rfl, hrun, _, _, saved, rfl, rfl, rfl, hvalue⟩ := hrest
      cases hvalue
      obtain ⟨account, opening, hcourse, rfl⟩ := ends_run_iff.mp hrun
      refine ⟨⟨c, m, repository, account, opening, before, status, saved, hcourse⟩, rfl, rfl, ?_,
        rfl⟩
      simp only [Round.exchanges, List.append_assoc, List.append_nil, List.cons_append,
        List.nil_append]
      rfl
  · rintro ⟨round, rfl, rfl, rfl, rfl⟩
    have hrun := ends_run_iff.mpr ⟨round.account, round.opening, round.course, rfl⟩
    refine ⟨[⟨.load ns name, .ok (some round.repository)⟩], round.opening ++ round.turns.flatMap
      Turn.exchanges ++ [⟨.saveStatus { round.repository with status := some round.status },
        round.saved⟩], .ok (some round.repository), rfl, rfl, ?_⟩
    simp only [ends_bind_iff, Prod.exists, ends_question_iff, ends_done_iff]
    exact ⟨_, _, round.delay, round.status, rfl, hrun, _, [], round.saved,
      (List.append_nil _).symm, rfl, rfl, rfl⟩

/-- A cycle that gives no delay only asked for its repository. -/
theorem exchanges_of_no_delay {c : Controller} {m : Moment} {ns name : String}
    {result : Except LoadError (Option Delay)} {exchanges : List Exchanged}
    (hends : Ends (reconcile c m ns name) exchanges result)
    (hresult : ∀ delay, result ≠ .ok (some delay)) :
    ∃ answer, exchanges = [⟨.load ns name, answer⟩] := by
  simp only [reconcile, monad_bind, monad_pure, load, saveStatus, ask, ends_bind_iff,
    ends_question_iff] at hends
  obtain ⟨_, rest, answer, rfl, rfl, hrest⟩ := hends
  rcases answer with cause | (_ | repository)
  · exact ⟨_, by rw [(ends_done_iff.mp hrest).1]; rfl⟩
  · exact ⟨_, by rw [(ends_done_iff.mp hrest).1]; rfl⟩
  · simp only [ends_bind_iff, ends_done_iff] at hrest
    obtain ⟨_, _, _, _, _, _, _, _, _, _, _, rfl⟩ := hrest
    exact absurd rfl (hresult _)

/-- A cycle of a repository that was loaded is a round of it. -/
theorem exists_round_of_loaded {c : Controller} {m : Moment} {ns name : String}
    {repository : Repository} {rest : List Exchanged}
    {result : Except LoadError (Option Delay)}
    (hends : Ends (reconcile c m ns name) (⟨.load ns name, .ok (some repository)⟩ :: rest) result) :
    ∃ round : Round ns name, round.controller = c ∧ round.moment = m ∧
      round.repository = repository ∧
        round.exchanges = ⟨.load ns name, .ok (some repository)⟩ :: rest ∧
          result = .ok (some round.requeueAfter) := by
  have hdelay : ∃ delay, result = .ok (some delay) := by
    simp only [reconcile, monad_bind, monad_pure, load, saveStatus, ask, ends_bind_iff,
      ends_question_iff] at hends
    obtain ⟨_, _, answer, hsplit, rfl, hrest⟩ := hends
    cases (List.cons.inj hsplit).1
    simp only [ends_bind_iff, ends_done_iff] at hrest
    obtain ⟨_, _, _, _, _, _, _, _, _, _, _, rfl⟩ := hrest
    exact ⟨_, rfl⟩
  obtain ⟨delay, rfl⟩ := hdelay
  obtain ⟨round, hcontroller, hmoment, hexchanges, rfl⟩ := ends_reconcile_iff.mp hends
  refine ⟨round, hcontroller, hmoment, ?_, hexchanges, rfl⟩
  cases (List.cons.inj hexchanges).1
  rfl

/-! ## Small rounds -/

end Cycle

/-- A repository of which the assets of releases are built by one pipeline. -/
def Repository.single (known : Option Repository.Status) : Repository :=
  { metadata := { name := some "app", ns := some "ci" }
    spec := { owner := "owner", repo := "repo", pipelines := { assets := some "build" } }
    status := known }

/-- What is requested for the assets of the release `v1` of such a repository. -/
def RunRequest.single : RunRequest :=
  { ns := "ci"
    runName := "build-owner-repo-v1"
    pipeline := "build"
    params := paramsOf (Repository.single none).spec "v1"
    workspaces := .empty }

/-- A release without assets. -/
def Finding.single : Finding := { release := { id := 1, tag := "v1" } }

/-- A moment that adds nothing to the delays for exhausted quotas. -/
def Moment.plain (now : Instant) : Moment := { now, draws := ⟨0.5, fun _ => 0⟩ }

namespace Cycle

open Dialogue

section Single

variable {now : Instant} {known : Option Repository.Status}

/-- The subject of a cycle for a repository with one pipeline. -/
abbrev singleSubject (known : Option Repository.Status) : Subject :=
  .ofRepository "ci" (.single known)

/-- The status when the run for the only release is scheduled, from the one after the cleanup. -/
def singleFlagged (now : Instant) (cleaned : Repository.Status) : Repository.Status :=
  flagged (.plain now) (Repository.single none).spec cleaned [.ok .single]

theorem missing_singleFlagged (cleaned : Repository.Status) :
    ((singleFlagged now cleaned).release "v1").missing = { assets := some true } := by
  rw [singleFlagged, flagged, Repository.Status.missing_takeUp]
  rfl

/-- Noon on 1 June 2024. -/
def noon : Instant :=
  { Instant.epoch with second := 1717243200, inRange := by decide, leap := by decide }

/-- Half an hour later. -/
def halfPastTwelve : Instant :=
  { noon with second := 1717245000, inRange := by decide, leap := by decide }

/-- A record of a first run. -/
def firstRecord (timestamp : Instant) : Repository.RunRecord :=
  ⟨"build-1", timestamp, ⟨1, by decide⟩⟩

/-- What is asked before the first turn of a cycle that finds one release without assets. -/
def singleOpening (now : Instant) (known : Option Repository.Status) (cleaning : List Exchanged)
    (cleaned : Repository.Status) : List Exchanged :=
  [checked "ci" "build" (.ok ())] ++ cleaning ++
    [fetched (.plain now) (singleSubject known) cleaned (.ok [Finding.single.release]),
      ⟨.fetchAssets ⟨"owner", "repo", Finding.single.release⟩ false, .ok []⟩]

theorem ends_lookUp_single :
    Ends (lookUp (.plain now) (singleSubject known).spec .assets Finding.single.release)
      [⟨.fetchAssets ⟨"owner", "repo", Finding.single.release⟩ false, .ok []⟩] (.ok .single) := by
  apply Ends.ask
  exact .done _

theorem ends_lookUpAll_single :
    Ends (lookUpAll (.plain now) (singleSubject known).spec
        (keptReleases (singleSubject known).spec [Finding.single.release]))
      [⟨.fetchAssets ⟨"owner", "repo", Finding.single.release⟩ false, .ok []⟩] [.ok .single] := by
  refine ends_bind_iff.mpr ⟨_, [], [.ok .single], (List.append_nil _).symm,
    ends_forList_iff.mpr ⟨[(_, _, _)], rfl, ?_, (List.append_nil _).symm, rfl⟩, .done _⟩
  exact List.forall_mem_singleton.mpr ends_lookUp_single

/-- A round that finds one release without assets, given its cleanup and its only turn. -/
def Round.single (now : Instant) (known : Option Repository.Status) (cleaned : Repository.Status)
    {cleaning exchanges : List Exchanged} {after : Repository.Status}
    {outcome : Except RunnerError RunOutcome}
    (hcleaning : Ends (cleanup (.plain now) (singleSubject known)
      (begin now (Repository.single known).known)) cleaning cleaned)
    (hattempt : Attempt (.plain now) (singleSubject known) (singleFlagged now cleaned) "v1" .assets
      exchanges outcome after) :
    Round "ci" "app" :=
  let turn : Turn (.plain now) (singleSubject known) :=
    { tag := "v1"
      type := .assets
      before := singleFlagged now cleaned
      exchanges, outcome, after
      lacking := by rw [Repository.ReleaseStatus.isMissing, missing_singleFlagged]; rfl
      attempt := hattempt }
  have hturns : Turns (.plain now) (singleSubject known) (pairs ["v1"])
      (singleFlagged now cleaned) [turn] after := by
    refine .take turn (.pass ?_ (.nil _))
    rw [Repository.ReleaseStatus.isMissing, hattempt.missing, missing_singleFlagged]
    rfl
  { controller := {}
    moment := .plain now
    repository := .single known
    account := .built [Finding.single.release] [.ok .single] [turn]
    opening := singleOpening now known cleaning cleaned
    delay := verdictDelay {} (.plain now) none (mostAttempts after ["v1"]) (verdict ["v1"] [turn])
    status := conclude (.plain now) after (verdict ["v1"] [turn])
    saved := .ok ()
    course := .built (ends_pipelineErrors_iff.mpr ⟨[("build", .ok ())], rfl, rfl, rfl⟩) hcleaning
      ends_lookUpAll_single hturns }

end Single

end Cycle

end ReleaseBuilds
