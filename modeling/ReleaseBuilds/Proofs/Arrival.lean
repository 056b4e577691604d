import ReleaseBuilds.Proofs.EditOrder
import ReleaseBuilds.Proofs.Tally
import ReleaseBuilds.Proofs.Verdict

/-!
# The order in which lookups end

Artifacts are looked up side by side, so what is found arrives in any order, and everything after it
is done in the order of arrival: flags are taken up, pairs take their turns, outcomes are counted. As
long as no tag is found twice none of this depends on the order. Turns of different pairs do not get
in each other's way, so in another order each pair takes the same turn at another time.
-/

namespace ReleaseBuilds.Cycle

open Dialogue

open Repository (Recording)

/-! ## Answers that do not depend on when they are asked for -/

/-- The question is about pipelines and runs. -/
def Call.isForRunner : Call → Bool
  | .findPipeline .. | .findRun .. | .createRun .. => true
  | _ => false

/-- Questions about pipelines and runs are answered by what is asked alone. -/
def AnsweredBy (answers : (call : Call) → call.Answer) (exchanges : List Exchanged) : Prop :=
  ∀ x ∈ exchanges, x.call.isForRunner = true → x.answer = answers x.call

namespace AnsweredBy

variable {answers : (call : Call) → call.Answer} {first second exchanges : List Exchanged}

theorem mono (hanswered : AnsweredBy answers exchanges) (hsubset : first ⊆ exchanges) :
    AnsweredBy answers first :=
  fun x hx => hanswered x (hsubset hx)

theorem of_flatMap {α : Type} {items : List α} {f : α → List Exchanged}
    (hanswered : AnsweredBy answers (items.flatMap f)) {item : α} (hitem : item ∈ items) :
    AnsweredBy answers (f item) :=
  hanswered.mono fun _ hx => List.mem_flatMap.mpr ⟨item, hitem, hx⟩

/-- A dialogue that asks about nothing but pipelines and runs, and otherwise only gives notice, ends
in one way. -/
theorem unique {α : Type} {d : Talk α} {a b : α}
    (hasks : ∀ exchanges value, Ends d exchanges value → ∀ x ∈ exchanges,
      x.call.isForRunner = true ∨ ∃ target notice, x.call = .publish target notice)
    (hfirst : AnsweredBy answers first) (hsecond : AnsweredBy answers second)
    (hends : Ends d first a) (hother : Ends d second b) : first = second ∧ a = b := by
  have hanswers {exchanges : List Exchanged} {value : α} (hends : Ends d exchanges value)
      (hanswered : AnsweredBy answers exchanges) : ∀ x ∈ exchanges, x.answer = answers x.call := by
    intro x hx
    rcases hasks _ _ hends x hx with hrunner | ⟨target, notice, hcall⟩
    · exact hanswered x hx hrunner
    · -- there is only one answer to a notice
      obtain ⟨call, answer⟩ := x
      cases hcall
      rfl
  exact hends.unique hother (hanswers hends hfirst) (hanswers hother hsecond)

end AnsweredBy

section Stages

variable {m m' : Moment} {subject : Subject} {s : Repository.Status}
  {answers : (call : Call) → call.Answer} {first second : List Exchanged}

theorem pipelineErrors_unique {errors others : List RunnerError}
    (hends : Ends (pipelineErrors subject) first errors)
    (hother : Ends (pipelineErrors subject) second others) (hfirst : AnsweredBy answers first)
    (hsecond : AnsweredBy answers second) : errors = others := by
  refine (hfirst.unique ?_ hsecond hends hother).2
  intro exchanges value hends x hx
  obtain ⟨checks, -, rfl, -⟩ := ends_pipelineErrors_iff.mp hends
  obtain ⟨check, -, rfl⟩ := List.mem_map.mp hx
  exact .inl rfl

theorem cleanup_unique {cleaned other : Repository.Status} (hnow : m'.now = m.now)
    (hends : Ends (cleanup m subject s) first cleaned)
    (hother : Ends (cleanup m' subject s) second other) (hfirst : AnsweredBy answers first)
    (hsecond : AnsweredBy answers second) : cleaned = other := by
  have hsame : cleanup m' subject s = cleanup m subject s := by rw [cleanup, hnow, cleanup]
  rw [hsame] at hother
  refine (hfirst.unique ?_ hsecond hends hother).2
  intro exchanges value hends x hx
  obtain ⟨answers, -, rfl, -⟩ := ends_cleanup_iff.mp hends
  obtain ⟨answer, -, rfl⟩ := List.mem_map.mp hx
  exact .inl rfl

end Stages

/-! ## Turns that do not get in each other's way -/

/-- What can be seen of a turn from outside: whose it was, what was asked, what it came to. -/
structure Report where
  pair : String × ArtifactType
  exchanges : List Exchanged
  outcome : Except RunnerError RunOutcome

/-- The runs that are recorded in a turn. -/
def Report.recordings (now : Instant) (report : Report) : List Recording :=
  (report.exchanges.filterMap createdRun?).map fun run =>
    ⟨report.pair, run.name, run.createdAt.getD now⟩

section Turns

variable {m m' : Moment} {subject : Subject} {s s' other other' : Repository.Status}
  {tag : String} {t : ArtifactType} {first second : List Exchanged}
  {answers : (call : Call) → call.Answer} {pairs others : List (String × ArtifactType)}
  {turns : List (Turn m subject)} {turns' : List (Turn m' subject)}

def Turn.report (turn : Turn m subject) : Report := ⟨turn.pair, turn.exchanges, turn.outcome⟩

/-- How a turn goes depends on nothing in the status but the record of its own pair. -/
theorem Attempt.of_run?_eq {outcome : Except RunnerError RunOutcome}
    (hattempt : Attempt m' subject other tag t second outcome other') (hnow : m'.now = m.now)
    (hrecord : other.run? tag t = s.run? tag t) :
    ∃ after, Attempt m subject s tag t second outcome after := by
  cases hattempt with
  | notConfigured hbuild => exact ⟨_, .notConfigured hbuild⟩
  | inFlight hbuild hsome hflight =>
      exact ⟨_, .inFlight hbuild (hrecord ▸ hsome) (hnow ▸ hflight)⟩
  | failed hbuild hsettled error =>
      exact ⟨_, .failed hbuild (hnow ▸ hrecord ▸ hsettled) error⟩
  | created hbuild hsettled run =>
      rw [hrecord, hnow] at hsettled
      rw [hrecord]
      exact ⟨_, .created hbuild hsettled run⟩

/-- With the same record and the same answers a turn goes the same way. -/
theorem Attempt.unique {outcome outcome' : Except RunnerError RunOutcome}
    (hattempt : Attempt m subject s tag t first outcome s')
    (hother : Attempt m' subject other tag t second outcome' other') (hnow : m'.now = m.now)
    (hrecord : other.run? tag t = s.run? tag t) (hfirst : AnsweredBy answers first)
    (hsecond : AnsweredBy answers second) : first = second ∧ outcome = outcome' := by
  obtain ⟨after, hother⟩ := hother.of_run?_eq hnow hrecord
  have hresult := hfirst.unique ?_ hsecond (ends_schedule_iff.mpr hattempt)
    (ends_schedule_iff.mpr hother)
  · exact ⟨hresult.1, (Prod.mk.inj hresult.2).1⟩
  · intro exchanges value hends x hx
    cases (ends_schedule_iff.mp hends).asks hx with
    | run => exact .inl rfl
    | request => exact .inl rfl
    | notice => exact .inr ⟨_, _, rfl⟩

/-- If no pair is listed twice, every turn finds the record as it was before all turns. -/
theorem Turns.run?_before (hturns : Turns m subject pairs s turns s') (hnodup : pairs.Nodup)
    {turn : Turn m subject} (hturn : turn ∈ turns) :
    turn.before.run? turn.tag turn.type = s.run? turn.tag turn.type := by
  induction hturns with
  | nil => exact absurd hturn List.not_mem_nil
  | pass _ _ ih => exact ih (List.nodup_cons.mp hnodup).2 hturn
  | take first hrest ih =>
      obtain ⟨hnotMem, hnodup_rest⟩ := List.nodup_cons.mp hnodup
      rcases List.mem_cons.mp hturn with rfl | hturn
      · rfl
      · rw [ih hnodup_rest hturn]
        apply first.attempt.run?_of_ne
        exact fun heq => hnotMem (heq ▸ hrest.pair_mem hturn)

/-- The turn of a pair is among those that are taken in another order. -/
theorem Turns.report_mem (hturns : Turns m subject pairs s turns s')
    (hothers : Turns m' subject others s turns' other) (hpairs : pairs.Perm others)
    (hnodup : pairs.Nodup) (hnow : m'.now = m.now)
    (hanswered : AnsweredBy answers (turns.flatMap Turn.exchanges))
    (hothers_answered : AnsweredBy answers (turns'.flatMap Turn.exchanges))
    {turn : Turn m subject} (hturn : turn ∈ turns) :
    turn.report ∈ turns'.map Turn.report := by
  have hmissing : (s.release turn.tag).isMissing turn.type = true := by
    rw [Repository.ReleaseStatus.isMissing, ← hturns.missing hturn]
    exact turn.lacking
  obtain ⟨turn', hturn', hpair⟩ :=
    hothers.exists_turn (hpairs.mem_iff.mp (hturns.pair_mem hturn)) hmissing
  obtain ⟨htag, htype⟩ := Prod.mk.inj hpair
  have hrecord : turn'.before.run? turn.tag turn.type = turn.before.run? turn.tag turn.type := by
    rw [hturns.run?_before hnodup hturn, ← htag, ← htype]
    exact hothers.run?_before (hpairs.nodup_iff.mp hnodup) hturn'
  have hattempt := turn'.attempt
  rw [htag, htype] at hattempt
  obtain ⟨hexchanges, houtcome⟩ := turn.attempt.unique hattempt hnow hrecord
    (hanswered.of_flatMap hturn) (hothers_answered.of_flatMap hturn')
  refine List.mem_map.mpr ⟨turn', hturn', ?_⟩
  rw [Turn.report, Turn.report, hpair, ← hexchanges, ← houtcome]
  rfl

/-- In another order of the pairs the same turns are taken. -/
theorem Turns.reports_perm (hturns : Turns m subject pairs s turns s')
    (hothers : Turns m' subject others s turns' other) (hpairs : pairs.Perm others)
    (hnodup : pairs.Nodup) (hnow : m'.now = m.now)
    (hanswered : AnsweredBy answers (turns.flatMap Turn.exchanges))
    (hothers_answered : AnsweredBy answers (turns'.flatMap Turn.exchanges)) :
    (turns.map Turn.report).Perm (turns'.map Turn.report) := by
  -- no pair takes two turns, so it is enough that each turn is taken in both orders
  have hreports {m : Moment} {pairs : List (String × ArtifactType)} {turns : List (Turn m subject)}
      {s s' : Repository.Status} (hturns : Turns m subject pairs s turns s')
      (hnodup : pairs.Nodup) : (turns.map Turn.report).Nodup := by
    apply List.Nodup.of_map Report.pair
    rw [List.map_map]
    exact hnodup.sublist hturns.map_pair_sublist
  have hnodup_others := hpairs.nodup_iff.mp hnodup
  rw [List.perm_ext_iff_of_nodup (hreports hturns hnodup) (hreports hothers hnodup_others)]
  intro report
  constructor
  · intro hmem
    obtain ⟨turn, hturn, rfl⟩ := List.mem_map.mp hmem
    exact hturns.report_mem hothers hpairs hnodup hnow hanswered hothers_answered hturn
  · intro hmem
    obtain ⟨turn, hturn, rfl⟩ := List.mem_map.mp hmem
    exact hothers.report_mem hturns hpairs.symm hnodup_others hnow.symm hothers_answered hanswered
      hturn

/-- After a turn the runs that were created in it are recorded. -/
theorem Turn.after_eq (turn : Turn m subject) :
    turn.after = (turn.report.recordings m.now).foldl Repository.Status.record turn.before := by
  rcases turn.attempt.creates_once with ⟨hcreated, -, hafter⟩ | ⟨run, hcreated, -, hafter⟩
  · rw [Report.recordings, report, hcreated]
    exact hafter
  · rw [Report.recordings, report, hcreated]
    exact hafter

theorem Turns.eq_foldl_record (hturns : Turns m subject pairs s turns s') :
    s' = ((turns.map Turn.report).flatMap (Report.recordings m.now)).foldl
      Repository.Status.record s := by
  induction hturns with
  | nil => rfl
  | pass _ _ ih => exact ih
  | take turn _ ih =>
      rw [List.map_cons, List.flatMap_cons, List.foldl_append, ← turn.after_eq]
      exact ih

/-- In a turn at most one run is recorded, and only for its own pair. -/
theorem Turn.recordings_sublist (turn : Turn m subject) (now : Instant) :
    ((turn.report.recordings now).map Recording.pair).Sublist [turn.pair] := by
  rcases turn.attempt.creates_once with ⟨hcreated, -, -⟩ | ⟨run, hcreated, -, -⟩
  · rw [Report.recordings, report, hcreated]
    exact List.nil_sublist _
  · rw [Report.recordings, report, hcreated]
    exact .refl _

theorem recordings_sublist (turns : List (Turn m subject)) (now : Instant) :
    (((turns.map Turn.report).flatMap (Report.recordings now)).map Recording.pair).Sublist
      (turns.map Turn.pair) := by
  induction turns with
  | nil => exact .slnil
  | cons turn rest ih =>
      rw [List.map_cons, List.flatMap_cons, List.map_append]
      exact (turn.recordings_sublist now).append ih

/-- In another order the turns come to the same status. -/
theorem Turns.status_unique (hturns : Turns m subject pairs s turns s')
    (hothers : Turns m' subject others s turns' other) (hnodup : pairs.Nodup)
    (hnow : m'.now = m.now) (hreports : (turns.map Turn.report).Perm (turns'.map Turn.report)) :
    s' = other := by
  rw [hturns.eq_foldl_record, hothers.eq_foldl_record, hnow]
  apply Repository.Status.foldl_record_perm
  · exact (hnodup.sublist hturns.map_pair_sublist).sublist (recordings_sublist turns m.now)
  · exact hreports.flatMap_right _

/-- The verdict counts outcomes, in whatever order they come. -/
theorem verdictOf_perm {outcomes others : List (Except RunnerError RunOutcome)}
    (hperm : outcomes.Perm others) : verdictOf (.of outcomes) = verdictOf (.of others) := by
  have hvalues : (ErrorList.values outcomes).Perm (ErrorList.values others) := hperm.filterMap _
  have hcreated : (RunSummary.of outcomes).created = (RunSummary.of others).created :=
    hvalues.count_eq _
  have hinFlight : (RunSummary.of outcomes).inFlight = (RunSummary.of others).inFlight :=
    hvalues.count_eq _
  have herrors : (RunSummary.of outcomes).errors.isEmpty = (RunSummary.of others).errors.isEmpty :=
    (hperm.filterMap _).isEmpty_eq
  rw [verdictOf, hcreated, hinFlight, herrors, verdictOf]

theorem verdict_perm {lacking lacking' : List String} (hlacking : lacking.Perm lacking')
    (hreports : (turns.map Turn.report).Perm (turns'.map Turn.report)) :
    verdict lacking turns = verdict lacking' turns' := by
  have houtcomes : (turns.map Turn.outcome).Perm (turns'.map Turn.outcome) := by
    have hmap := hreports.map Report.outcome
    rwa [List.map_map, List.map_map] at hmap
  rw [verdict, verdictOf_perm houtcomes, hlacking.isEmpty_eq, verdict]

end Turns

/-! ## Courses -/

section Courses

variable {c c' : Controller} {m m' : Moment} {subject : Subject} {s s' other : Repository.Status}
  {delay delay' : Delay} {account : Account m subject} {account' : Account m' subject}
  {opening opening' : List Exchanged} {answers : (call : Call) → call.Answer}

/-- If no tag is kept twice, no two findings are about one tag. -/
theorem Course.nodup_findings (hcourse : Course c m subject s account opening delay s')
    (hnodup : (account.kept.map Release.tag).Nodup) :
    (account.findings.map Finding.tag).Nodup := by
  obtain ⟨found, hperm, hsublist⟩ := hcourse.findings_subperm
  have htags : (found.map Release.tag).Perm (account.findings.map Finding.tag) := by
    have hmap := hperm.map Release.tag
    rwa [List.map_map] at hmap
  exact htags.nodup_iff.mp (hnodup.sublist (hsublist.map Release.tag))

theorem nodup_pairs {tags : List String} (hnodup : tags.Nodup) : (pairs tags).Nodup := by
  rw [List.nodup_iff_count_le_one]
  rintro ⟨tag, t⟩
  rw [count_pairs]
  exact List.nodup_iff_count_le_one.mp hnodup tag

/-- Findings in another order leave the same status when scheduling begins. -/
theorem flagged_perm (hnow : m'.now = m.now) (spec : Repository.Spec) (cleaned : Repository.Status)
    {lookups lookups' : List Lookup}
    (hnodup : ((ErrorList.values lookups).map Finding.tag).Nodup)
    (hfindings : (ErrorList.values lookups).Perm (ErrorList.values lookups'))
    (hfailures : (failuresOf lookups).Perm (failuresOf lookups')) :
    flagged m' spec cleaned lookups' = flagged m spec cleaned lookups := by
  have hnarrowed : narrowed m' spec cleaned = narrowed m spec cleaned := by
    rw [narrowed, narrowed, hnow]
  rw [flagged, flagged, reported, reported, hnarrowed, hnow, hfailures.isEmpty_eq,
    Repository.Status.takeUp_perm _ spec hnodup hfindings]

/-- From the same findings in another order scheduling takes the same turns and comes to the same
status and verdict. -/
theorem scheduling_unique {cleaned : Repository.Status} {lookups lookups' : List Lookup}
    {turns : List (Turn m subject)} {turns' : List (Turn m' subject)}
    (hscheduling : Turns m subject (pairs (lackingOf subject.spec lookups))
      (flagged m subject.spec cleaned lookups) turns s')
    (hother : Turns m' subject (pairs (lackingOf subject.spec lookups'))
      (flagged m' subject.spec cleaned lookups') turns' other) (hnow : m'.now = m.now)
    (hturns : AnsweredBy answers (turns.flatMap Turn.exchanges))
    (hturns' : AnsweredBy answers (turns'.flatMap Turn.exchanges))
    (hfindings : (ErrorList.values lookups).Perm (ErrorList.values lookups'))
    (hfailures : (failuresOf lookups).Perm (failuresOf lookups'))
    (hdistinct : ((ErrorList.values lookups).map Finding.tag).Nodup) :
    conclude m' other (verdict (lackingOf subject.spec lookups') turns') =
        conclude m s' (verdict (lackingOf subject.spec lookups) turns) ∧
      (turns.map Turn.report).Perm (turns'.map Turn.report) := by
  have hlacking : (lackingOf subject.spec lookups).Perm (lackingOf subject.spec lookups') :=
    (hfindings.filter _).map _
  have hpairs : (pairs (lackingOf subject.spec lookups)).Nodup :=
    nodup_pairs (hdistinct.sublist (List.filter_sublist.map Finding.tag))
  rw [flagged_perm hnow subject.spec cleaned hdistinct hfindings hfailures] at hother
  have hreports := hscheduling.reports_perm hother (hlacking.flatMap_right _) hpairs hnow hturns
    hturns'
  refine ⟨?_, hreports⟩
  rw [← hscheduling.status_unique hother hpairs hnow hreports, verdict_perm hlacking hreports,
    conclude, hnow, conclude]

/-- What a cycle saves and whose turns it takes does not depend on the order in which its lookups
end. -/
theorem Course.unique (hcourse : Course c m subject s account opening delay s')
    (hother : Course c' m' subject s account' opening' delay' other) (hnow : m'.now = m.now)
    (hopening : AnsweredBy answers opening) (hopening' : AnsweredBy answers opening')
    (hturns : AnsweredBy answers (account.turns.flatMap Turn.exchanges))
    (hturns' : AnsweredBy answers (account'.turns.flatMap Turn.exchanges))
    (hfetched : account'.fetched? = account.fetched?)
    (hfindings : account.findings.Perm account'.findings)
    (hfailures : (failuresOf account.lookups).Perm (failuresOf account'.lookups))
    (hnodup : (account.kept.map Release.tag).Nodup) :
    other = s' ∧ (account.turns.map Turn.report).Perm (account'.turns.map Turn.report) := by
  have hdistinct := hcourse.nodup_findings hnodup
  -- both cycles get equally far, because the releases are fetched in both or in neither
  cases hcourse with
  | pipelinesUnavailable hchecks herrors =>
      cases hother with
      | pipelinesUnavailable hchecks' herrors' =>
          obtain rfl := pipelineErrors_unique hchecks hchecks' hopening hopening'
          exact ⟨by rw [hnow], .refl _⟩
      | releasesNotFetched => cases hfetched
      | built => cases hfetched
  | releasesNotFetched hchecks hcleaning error =>
      cases hother with
      | pipelinesUnavailable => cases hfetched
      | releasesNotFetched hchecks' hcleaning' error' =>
          cases hfetched
          obtain rfl := cleanup_unique hnow hcleaning hcleaning' (hopening.mono (by simp))
            (hopening'.mono (by simp))
          refine ⟨?_, .refl _⟩
          rw [notFetched, observation_releasesFailure, hnow, notFetched,
            observation_releasesFailure]
      | built => cases hfetched
  | built hchecks hcleaning _ hscheduling =>
      cases hother with
      | pipelinesUnavailable => cases hfetched
      | releasesNotFetched => cases hfetched
      | built hchecks' hcleaning' _ hscheduling' =>
          obtain rfl := cleanup_unique hnow hcleaning hcleaning' (hopening.mono (by simp))
            (hopening'.mono (by simp))
          exact scheduling_unique hscheduling hscheduling' hnow hturns hturns' hfindings hfailures
            hdistinct

end Courses

/-! ## Rounds -/

/-- The run that is requested in an exchange, and what comes of it. -/
def submission? : Exchanged → Option (RunRequest × Except RunnerError RunState)
  | ⟨.createRun request, answer⟩ => some (request, answer)
  | _ => none

namespace Round

variable {ns name : String}

/-- The first of two rounds is told the same as the second, except for the order in which it comes
to know what lookups found, and of which lookups failed. In both the cluster answers questions about
pipelines and runs by what is asked alone. -/
structure Reorders (other round : Round ns name) (answers : (call : Call) → call.Answer) :
    Prop where
  repository_eq : other.repository = round.repository
  now_eq : other.now = round.now
  answered : AnsweredBy answers round.exchanges
  other_answered : AnsweredBy answers other.exchanges
  fetched_eq : other.account.fetched? = round.account.fetched?
  findings_perm : round.account.findings.Perm other.account.findings
  failures_perm : (failuresOf round.account.lookups).Perm (failuresOf other.account.lookups)

theorem opening_subset (round : Round ns name) : round.opening ⊆ round.exchanges :=
  fun _ hx => round.mem_exchanges_of_mem_opening hx

theorem turns_subset (round : Round ns name) :
    round.turns.flatMap Turn.exchanges ⊆ round.exchanges := by
  intro x hx
  obtain ⟨turn, hturn, hx⟩ := List.mem_flatMap.mp hx
  exact round.mem_exchanges_of_mem_turn hturn hx

/-- Runs are requested in turns and nowhere else. -/
theorem submissions_eq (round : Round ns name) : round.exchanges.filterMap submission? =
    (round.turns.map Turn.report).flatMap fun report => report.exchanges.filterMap submission? := by
  have hopening : round.opening.filterMap submission? = [] := by
    apply List.filterMap_eq_nil_iff.mpr
    intro x hx
    have hwrites := (round.course.opens hx).writes_eq_false
    obtain ⟨call, answer⟩ := x
    cases call with
    | createRun => cases hwrites
    | _ => rfl
  rw [exchanges, List.filterMap_append, List.filterMap_append, List.filterMap_cons, hopening,
    List.filterMap_flatMap, List.flatMap_map]
  exact List.append_nil _

/-- The order in which lookups end does not matter. If no two releases with one tag are kept, what a
round saves is the same in every order, and so are the runs that it requests, but for their
order. Both rounds have one reading of the clock, and the same one: where the clock goes on while
runs are requested one after the other, the times that are recorded for them follow the order. -/
theorem status_eq_of_reorders {round other : Round ns name}
    {answers : (call : Call) → call.Answer} (hreorders : other.Reorders round answers)
    (hnodup : (round.account.kept.map Release.tag).Nodup) :
    other.status = round.status ∧
      (round.exchanges.filterMap submission?).Perm (other.exchanges.filterMap submission?) := by
  have hcourses : other.status = round.status ∧
      (round.turns.map Turn.report).Perm (other.turns.map Turn.report) := by
    have hopening := hreorders.answered.mono round.opening_subset
    have hopening' := hreorders.other_answered.mono other.opening_subset
    have hturns := hreorders.answered.mono round.turns_subset
    have hturns' := hreorders.other_answered.mono other.turns_subset
    obtain ⟨hrepository, hnow, -, -, hfetched, hfindings, hfailures⟩ := hreorders
    -- the course of the other round is about its own repository and reading, which are the same
    obtain ⟨c', m', repository', account', opening', delay', status', saved', hother⟩ := other
    obtain rfl : repository' = round.repository := hrepository
    have hcourse := round.course
    have hreading : m'.now = round.moment.now := hnow
    rw [hreading] at hother
    exact hcourse.unique hother hreading hopening hopening' hturns hturns' hfetched hfindings
      hfailures hnodup
  refine ⟨hcourses.1, ?_⟩
  rw [submissions_eq, submissions_eq]
  exact hcourses.2.flatMap_right _

end Round

/-! ## Two releases -/

/-- A second release without assets. -/
def secondFinding : Finding := { release := { id := 2, tag := "v2" } }

/-- A cluster that knows every pipeline and no run, and names each run as is requested. -/
def obligingAnswers : (call : Call) → call.Answer
  | .load .. => .ok none
  | .findPipeline .. => .ok ()
  | .findRun _ name => .error (.notFound name)
  | .fetchReleases .. => .ok []
  | .fetchAssets .. => .ok []
  | .fetchPackages .. => .ok []
  | .createRun request => .ok { name := request.runName }
  | .publish .. => ()
  | .saveStatus .. => .ok ()

section TwoReleases

variable (reversed : Bool)

/-- A moment at which lookups end in the order in which they began, or in the reverse of it. -/
def arrivingMoment : Moment :=
  { Moment.plain noon with
    arrival := if reversed then { order := List.reverse, perm := List.reverse_perm } else .inOrder }

/-- What comes to be known about the two releases, in the order in which it does. -/
def arrivingFindings : Finding × Finding :=
  if reversed then (secondFinding, .single) else (.single, secondFinding)

def arrivingLookups : List Lookup :=
  [.ok (arrivingFindings reversed).1, .ok (arrivingFindings reversed).2]

theorem ends_lookUpAll_arriving :
    Ends (lookUpAll (arrivingMoment reversed) (singleSubject none).spec (keptReleases
        (singleSubject none).spec [Finding.single.release, secondFinding.release]))
      [⟨.fetchAssets ⟨"owner", "repo", Finding.single.release⟩ false, .ok []⟩,
        ⟨.fetchAssets ⟨"owner", "repo", secondFinding.release⟩ false, .ok []⟩]
      (arrivingLookups reversed) := by
  have hlookup (release : Release) :
      Ends (lookUp (arrivingMoment reversed) (singleSubject none).spec .assets release)
        [⟨.fetchAssets ⟨"owner", "repo", release⟩ false, .ok []⟩] (.ok { release }) := by
    apply Ends.ask
    exact .done _
  apply ends_lookUpAll_iff.mpr
  refine ⟨[((Finding.single.release, 0), [_], .ok .single), ((secondFinding.release, 1), [_],
    .ok secondFinding)], rfl, ?_, rfl, ?_⟩
  · have hfirst : (arrivingMoment reversed).arrival.first = fun _ => .assets := by
      cases reversed <;> rfl
    rw [hfirst]
    exact List.forall_mem_cons.mpr ⟨hlookup _, List.forall_mem_singleton.mpr (hlookup _)⟩
  · cases reversed <;> rfl

/-- The request for the assets of the release of a finding. -/
def requestFor (finding : Finding) : RunRequest :=
  { RunRequest.single with
    runName := "build-owner-repo-" ++ finding.tag
    params := RunRequest.paramsOf (Repository.single none).spec finding.tag }

/-- A turn in which the run for a finding is created. -/
def obligedTurn (finding : Finding) (s : Repository.Status)
    (hlacking : (s.release finding.tag).isMissing .assets = true)
    (hrecord : s.run? finding.tag .assets = none) :
    Turn (arrivingMoment reversed) (singleSubject none) where
  tag := finding.tag
  type := .assets
  before := s
  exchanges := [⟨.createRun (requestFor finding), .ok { name := (requestFor finding).runName }⟩,
    told (singleSubject none).reference
      (.runScheduled (requestFor finding).runName 1 finding.tag)]
  outcome := .ok .created
  after := s.recordRun finding.tag .assets (requestFor finding).runName noon
  lacking := hlacking
  attempt := by
    have hsettled : Settled noon "ci" (s.run? finding.tag .assets) [] := hrecord ▸ .unrecorded
    have hattempt : Attempt (arrivingMoment reversed) (singleSubject none) s finding.tag .assets
        _ _ _ := .created rfl hsettled { name := (requestFor finding).runName }
    rw [hrecord] at hattempt
    exact hattempt

def firstArriving : Turn (arrivingMoment reversed) (singleSubject none) :=
  obligedTurn reversed (arrivingFindings reversed).1
    (flagged (arrivingMoment reversed) (singleSubject none).spec (begin noon {})
      (arrivingLookups reversed))
    (by cases reversed <;> decide +kernel) (by cases reversed <;> decide +kernel)

def secondArriving : Turn (arrivingMoment reversed) (singleSubject none) :=
  obligedTurn reversed (arrivingFindings reversed).2 (firstArriving reversed).after
    (by cases reversed <;> decide +kernel) (by cases reversed <;> decide +kernel)

theorem turns_arriving :
    Turns (arrivingMoment reversed) (singleSubject none)
      (pairs (lackingOf (singleSubject none).spec (arrivingLookups reversed)))
      (firstArriving reversed).before [firstArriving reversed, secondArriving reversed]
      (secondArriving reversed).after := by
  have hlacking : lackingOf (singleSubject none).spec (arrivingLookups reversed) =
      [(firstArriving reversed).tag, (secondArriving reversed).tag] := by
    cases reversed <;> rfl
  rw [hlacking]
  refine .take (firstArriving reversed) (.pass ?_ (.take (secondArriving reversed)
    (.pass ?_ (.nil _))))
  · cases reversed <;> decide +kernel
  · cases reversed <;> decide +kernel

/-- A round in which runs for two releases are created, in the order in which their lookups end. -/
def arrivingRound : Round "ci" "app" where
  controller := {}
  moment := arrivingMoment reversed
  repository := .single none
  account := .built [Finding.single.release, secondFinding.release] (arrivingLookups reversed)
    [firstArriving reversed, secondArriving reversed]
  opening := _
  delay := _
  status := _
  saved := .ok ()
  course := .built (ends_pipelineErrors_iff.mpr ⟨[("build", .ok ())], rfl, rfl, rfl⟩) (.done _)
    (ends_lookUpAll_arriving reversed) (turns_arriving reversed)

theorem answeredBy_arrivingRound :
    AnsweredBy obligingAnswers (arrivingRound reversed).exchanges := by
  intro x hx hrunner
  change x ∈ [_, _, _, _, _, _, _, _, _, _] at hx
  simp only [List.mem_cons, List.not_mem_nil, or_false] at hx
  rcases hx with rfl | rfl | rfl | rfl | rfl | rfl | rfl | rfl | rfl | rfl
  all_goals first | rfl | cases hrunner

end TwoReleases

/-- Whether the lookups for two releases end in order or in reverse, the same is saved, and the same
two runs are requested. -/
theorem status_eq_arrivingRound :
    (arrivingRound true).Reorders (arrivingRound false) obligingAnswers ∧
      ((arrivingRound false).account.kept.map Release.tag).Nodup ∧
        (arrivingRound true).status = (arrivingRound false).status ∧
          ((arrivingRound false).exchanges.filterMap submission?).Perm
            ((arrivingRound true).exchanges.filterMap submission?) := by
  have hreorders : (arrivingRound true).Reorders (arrivingRound false) obligingAnswers :=
    { repository_eq := rfl
      now_eq := rfl
      answered := answeredBy_arrivingRound false
      other_answered := answeredBy_arrivingRound true
      fetched_eq := rfl
      findings_perm := List.Perm.swap ..
      failures_perm := .refl _ }
  have hnodup : ((arrivingRound false).account.kept.map Release.tag).Nodup := by decide +kernel
  exact ⟨hreorders, hnodup, Round.status_eq_of_reorders hreorders hnodup⟩

end ReleaseBuilds.Cycle
