import ReleaseBuilds.Proofs.History
import ReleaseBuilds.Proofs.Opening

/-!
# Records count creations

The record of a release and a kind is determined by the runs that were created for them since the
cleanup last dropped the record: it names the last of these runs and says how many they are. Each
creation is told once, with the count at that time.
-/

namespace ReleaseBuilds

namespace Repository.RunCount

/-- A count that stops at the largest one. -/
def capped (n : Nat) : RunCount := ⟨min n (UInt32.size - 1), by simp only [UInt32.size]; omega⟩

theorem eq_of_toNat_eq {n k : RunCount} (h : n.toNat = k.toNat) : n = k := by
  cases n
  cases k
  cases h
  rfl

theorem next_capped (n : Nat) : (capped n).next = capped (n + 1) := by
  apply eq_of_toNat_eq
  rw [toNat_next, capped, capped]
  dsimp only
  omega

end Repository.RunCount

namespace Cycle

open Dialogue

open Repository (RunCount RunRecord)

/-! ## Creations -/

/-- A run that was created, and the reading of the clock at that time. -/
structure Creation where
  run : RunState
  now : Instant

/-- The time of creation, by the cluster if it tells one, and by the clock otherwise. -/
def Creation.timestamp (creation : Creation) : Instant := creation.run.createdAt.getD creation.now

/-- The record of a release and a kind for which the given runs were created, in this order. -/
def recordOf? (creations : List Creation) : Option RunRecord :=
  creations.getLast?.map fun last =>
    { name := last.run.name, timestamp := last.timestamp, runsCreated := .capped creations.length }

theorem countAfter_recordOf? (creations : List Creation) :
    Repository.countAfter (recordOf? creations) = .capped (creations.length + 1) := by
  rw [← RunCount.next_capped, Repository.countAfter, recordOf?]
  cases hlast : creations.getLast? with
  | none =>
      rw [List.getLast?_eq_none_iff.mp hlast]
      rfl
  | some last => rfl

/-- One more creation replaces the record and adds to its count. -/
theorem recordOf?_append_singleton (creations : List Creation) (creation : Creation) :
    recordOf? (creations ++ [creation]) = some ⟨creation.run.name, creation.timestamp,
      Repository.countAfter (recordOf? creations)⟩ := by
  rw [countAfter_recordOf?, recordOf?, List.getLast?_concat, List.length_append]
  rfl

/-- The notices about runs that are created for a release, each with the count that it brings, when
a number of runs was created before. -/
def announced (tag : String) : Nat → List Creation → List Notice
  | _, [] => []
  | n, creation :: rest =>
    .runScheduled creation.run.name (RunCount.capped (n + 1)).toNat tag ::
      announced tag (n + 1) rest

theorem announced_append (tag : String) (n : Nat) (first second : List Creation) :
    announced tag n (first ++ second) =
      announced tag n first ++ announced tag (n + first.length) second := by
  induction first generalizing n with
  | nil => rfl
  | cons creation rest ih =>
      rw [List.cons_append, announced, announced, ih, List.length_cons, List.cons_append,
        Nat.add_right_comm, Nat.add_assoc]

/-! ## What a log says about a pair -/

/-- The run that is created in an exchange. -/
def createdRun? : Exchanged → Option RunState
  | ⟨.createRun _, .ok run⟩ => some run
  | _ => none

/-- The notice that is given in an exchange. -/
def notice? : Exchanged → Option Notice
  | ⟨.publish _ notice, _⟩ => some notice
  | _ => none

/-- The runs created in the turns of a pair. -/
def creations (pair : String × ArtifactType) (log : List Entry) : List Creation :=
  (log.filter fun entry => entry.pair? = some pair).filterMap fun entry =>
    (createdRun? entry.exchange).map fun run => ⟨run, entry.now⟩

/-- The notices given in the turns of a pair. -/
def notices (pair : String × ArtifactType) (log : List Entry) : List Notice :=
  (log.filter fun entry => entry.pair? = some pair).filterMap fun entry => notice? entry.exchange

section Log

variable {pair : String × ArtifactType} {first second log : List Entry}

theorem creations_append :
    creations pair (first ++ second) = creations pair first ++ creations pair second := by
  rw [creations, List.filter_append, List.filterMap_append]
  rfl

theorem notices_append :
    notices pair (first ++ second) = notices pair first ++ notices pair second := by
  rw [notices, List.filter_append, List.filterMap_append]
  rfl

/-- Outside the turns of a pair nothing is created and told for it. -/
theorem creations_eq_nil (hpair : ∀ entry ∈ log, entry.pair? ≠ some pair) :
    creations pair log = [] ∧ notices pair log = [] := by
  have hfilter : (log.filter fun entry => entry.pair? = some pair) = [] :=
    List.filter_eq_nil_iff.mpr fun entry hentry => by simpa using hpair entry hentry
  rw [creations, notices, hfilter]
  exact ⟨rfl, rfl⟩

end Log

/-- On the way from one status to another the record of a pair goes on counting the creations, and
each of them is told. -/
structure Tallied (pair : String × ArtifactType) (s : Repository.Status) (log : List Entry)
    (s' : Repository.Status) : Prop where
  record : ∀ earlier, s.run? pair.1 pair.2 = recordOf? earlier →
    s'.run? pair.1 pair.2 = recordOf? (earlier ++ creations pair log)
  told : ∀ earlier, s.run? pair.1 pair.2 = recordOf? earlier →
    notices pair log = announced pair.1 earlier.length (creations pair log)

namespace Tallied

variable {pair : String × ArtifactType} {s middle s' : Repository.Status}
  {first second log : List Entry}

/-- Where nothing is created or told, only the record matters. -/
theorem of_quiet (hquiet : creations pair log = [] ∧ notices pair log = [])
    (hrecord : s'.run? pair.1 pair.2 = s.run? pair.1 pair.2) : Tallied pair s log s' where
  record earlier hearlier := by rw [hquiet.1, List.append_nil, hrecord, hearlier]
  told earlier _ := by rw [hquiet.1, hquiet.2, announced]

theorem append (hfirst : Tallied pair s first middle) (hsecond : Tallied pair middle second s') :
    Tallied pair s (first ++ second) s' where
  record earlier hearlier := by
    have hmiddle := hfirst.record earlier hearlier
    rw [creations_append, ← List.append_assoc]
    exact hsecond.record _ hmiddle
  told earlier hearlier := by
    have hmiddle := hfirst.record earlier hearlier
    rw [notices_append, creations_append, announced_append, hfirst.told earlier hearlier,
      hsecond.told _ hmiddle, List.length_append]

end Tallied

/-! ## Turns -/

section Turns

variable {m : Moment} {subject : Subject} {s s' : Repository.Status}

/-- In a turn nothing is created and the status stays as it was, or one run is created, told with
its count and recorded. -/
theorem Attempt.creates_once {tag : String} {t : ArtifactType} {exchanges : List Exchanged}
    {outcome : Except RunnerError RunOutcome}
    (hattempt : Attempt m subject s tag t exchanges outcome s') :
    (exchanges.filterMap createdRun? = [] ∧ exchanges.filterMap notice? = [] ∧ s' = s) ∨
      ∃ run, exchanges.filterMap createdRun? = [run] ∧
        exchanges.filterMap notice? =
            [.runScheduled run.name (Repository.countAfter (s.run? tag t)).toNat tag] ∧
          s' = s.recordRun tag t run.name (run.createdAt.getD m.now) := by
  -- looking at the last run neither creates nor tells anything
  have hlooked {looked : List Exchanged}
      (hsettled : Settled m.now subject.ns (s.run? tag t) looked) :
      looked.filterMap createdRun? = [] ∧ looked.filterMap notice? = [] :=
    ⟨hsettled.filterMap_eq_nil fun _ _ => rfl, hsettled.filterMap_eq_nil fun _ _ => rfl⟩
  cases hattempt with
  | notConfigured => exact .inl ⟨rfl, rfl, rfl⟩
  | inFlight => exact .inl ⟨rfl, rfl, rfl⟩
  | failed _ hsettled error =>
      obtain ⟨hcreated, htold⟩ := hlooked hsettled
      rw [List.filterMap_append, List.filterMap_append, hcreated, htold]
      exact .inl ⟨rfl, rfl, rfl⟩
  | created _ hsettled run =>
      obtain ⟨hcreated, htold⟩ := hlooked hsettled
      rw [List.filterMap_append, List.filterMap_append, hcreated, htold]
      exact .inr ⟨run, rfl, rfl, rfl⟩

/-- The log of a turn, read for its own pair, is read off its exchanges. -/
theorem Turn.creations_log (turn : Turn m subject) :
    creations turn.pair turn.log =
        (turn.exchanges.filterMap createdRun?).map (fun run => ⟨run, m.now⟩) ∧
      notices turn.pair turn.log = turn.exchanges.filterMap notice? := by
  have hfilter : (turn.log.filter fun entry => entry.pair? = some turn.pair) = turn.log := by
    apply List.filter_eq_self.mpr
    intro entry hentry
    obtain ⟨_, -, rfl⟩ := List.mem_map.mp hentry
    exact decide_eq_true rfl
  constructor
  · rw [creations, hfilter, Turn.log, List.filterMap_map, List.map_filterMap]
    rfl
  · rw [notices, hfilter, Turn.log, List.filterMap_map]
    rfl

/-- A turn counts the run that it creates for its own pair, and leaves all others alone. -/
theorem Turn.tallied (turn : Turn m subject) (pair : String × ArtifactType) :
    Tallied pair turn.before turn.log turn.after := by
  by_cases hpair : turn.pair = pair
  · subst hpair
    obtain ⟨hcreations, hnotices⟩ := turn.creations_log
    rcases turn.attempt.creates_once with
      ⟨hcreated, htold, hafter⟩ | ⟨run, hcreated, htold, hafter⟩
    · rw [hcreated] at hcreations
      rw [htold] at hnotices
      exact .of_quiet ⟨hcreations, hnotices⟩ (by rw [hafter])
    · rw [hcreated] at hcreations
      rw [htold] at hnotices
      constructor
      · intro earlier hearlier
        rw [hcreations, hafter, List.map_cons, List.map_nil, recordOf?_append_singleton,
          ← hearlier]
        exact (Repository.Status.run?_recordRun ..).trans (if_pos ⟨rfl, rfl⟩)
      · intro earlier hearlier
        -- the notice speaks of the tag and the kind, which are the two parts of the pair
        change turn.before.run? turn.tag turn.type = recordOf? earlier at hearlier
        rw [hcreations, hnotices, hearlier, countAfter_recordOf?]
        rfl
  · apply Tallied.of_quiet
    · apply creations_eq_nil
      intro entry hentry hsome
      obtain ⟨_, -, rfl⟩ := List.mem_map.mp hentry
      exact hpair (Option.some.inj hsome)
    · exact turn.attempt.run?_of_ne hpair

theorem Turns.tallied {pairs : List (String × ArtifactType)} {turns : List (Turn m subject)}
    (hturns : Turns m subject pairs s turns s') (pair : String × ArtifactType) :
    Tallied pair s (turns.flatMap Turn.log) s' := by
  induction hturns with
  | nil => exact .of_quiet ⟨rfl, rfl⟩ rfl
  | pass _ _ ih => exact ih
  | take first _ ih => exact (first.tallied pair).append ih

end Turns

/-! ## Records that are dropped -/

/-- What is answered to the lookup of a run. -/
def runAnswer? : Exchanged → Option (Except RunnerError RunState)
  | ⟨.findRun _ _, answer⟩ => some answer
  | _ => none

section Opening

variable {c : Controller} {m : Moment} {subject : Subject} {s s' : Repository.Status}
  {delay : Delay} {account : Account m subject} {opening exchanges : List Exchanged}

theorem runAnswers_lookUpAll {releases : List Release} {lookups : List Lookup}
    (hends : Ends (lookUpAll m subject.spec releases) exchanges lookups) :
    exchanges.filterMap runAnswer? = [] := by
  apply List.filterMap_eq_nil_iff.mpr
  intro x hx
  obtain ⟨lookup, hlookup, -⟩ := lookup_of_mem_lookUpAll hends hx
  rcases eq_of_artifactLookup? hlookup with ⟨_, _, _, rfl⟩ | ⟨_, _, _, rfl⟩
  · rfl
  · rfl

/-- The record of a pair is dropped, given what is answered about each recorded run. -/
def isDropped (now : Instant)
    (answers : List (Repository.RecordedRun × Except RunnerError RunState))
    (pair : String × ArtifactType) : Bool :=
  answers.any fun answer => (answer.1.tag, answer.1.type) == pair && isStale now answer.2

/-- The records that are dropped, given what is answered about each recorded run. -/
def staleRecords (now : Instant)
    (answers : List (Repository.RecordedRun × Except RunnerError RunState)) :
    List Repository.RecordedRun :=
  (answers.filter fun answer => isStale now answer.2).map Prod.fst

theorem run?_dropRuns_staleRecords (s : Repository.Status) (now : Instant)
    (answers : List (Repository.RecordedRun × Except RunnerError RunState))
    (pair : String × ArtifactType) :
    (s.dropRuns (staleRecords now answers)).run? pair.1 pair.2 =
      if isDropped now answers pair then none else s.run? pair.1 pair.2 := by
  have hdropped : (∃ run ∈ staleRecords now answers, run.tag = pair.1 ∧ run.type = pair.2) ↔
      isDropped now answers pair = true := by
    unfold isDropped staleRecords
    simp only [List.mem_map, List.mem_filter, List.any_eq_true, Bool.and_eq_true, beq_iff_eq,
      Prod.ext_iff]
    constructor
    · rintro ⟨_, ⟨answer, ⟨hanswer, hstale⟩, rfl⟩, hpair⟩
      exact ⟨answer, hanswer, hpair, hstale⟩
    · rintro ⟨answer, hanswer, hpair, hstale⟩
      exact ⟨answer.1, ⟨answer, ⟨hanswer, hstale⟩, rfl⟩, hpair⟩
  rw [Repository.Status.run?_dropRuns]
  simp only [hdropped]

/-- The cleanup looks up each recorded run, drops the records of which the runs are found stale, and
does nothing else. The answers can be told from the exchanges, because nothing else looks up runs
before the first turn. -/
theorem eq_of_cleanup {errors : List RunnerError} {checks cleaning rest : List Exchanged}
    {cleaned : Repository.Status} (hchecks : Ends (pipelineErrors subject) checks errors)
    (hcleaning : Ends (cleanup m subject s) cleaning cleaned)
    (hrest : rest.filterMap runAnswer? = [])
    {answers : List (Repository.RecordedRun × Except RunnerError RunState)}
    (hanswers : answers =
      s.recordedRuns.zip ((checks ++ cleaning ++ rest).filterMap runAnswer?)) :
    (∀ answer ∈ answers, lookedUp subject.ns answer.1.record.name answer.2 ∈ cleaning) ∧
      cleaned = s.dropRuns (staleRecords m.now answers) := by
  obtain ⟨looked, hruns, rfl, rfl⟩ := ends_cleanup_iff.mp hcleaning
  have hlooked : (looked.map fun answer => lookedUp subject.ns answer.1.record.name
      answer.2).filterMap runAnswer? = looked.map Prod.snd := by
    rw [List.filterMap_map]
    exact congrFun (List.filterMap_eq_map (f := Prod.snd)) looked
  have hchecks_none := filterMap_pipelineErrors (f := runAnswer?) hchecks fun _ _ => rfl
  rw [List.filterMap_append, List.filterMap_append, hchecks_none, hlooked, hrest,
    List.nil_append, List.append_nil, ← List.zip_of_prod hruns rfl] at hanswers
  subst hanswers
  exact ⟨fun answer hanswer => List.mem_map_of_mem hanswer, rfl⟩

/-- No run is looked up from the fetch of the releases to the first turn. -/
theorem runAnswers_after_fetch (spec : Repository.Spec) (cleaned : Repository.Status)
    (releases : List Release) {kept : List Release} {lookups : List Lookup}
    {looking : List Exchanged} (hlooking : Ends (lookUpAll m subject.spec kept) looking lookups) :
    (fetched m subject cleaned (.ok releases) ::
      ((filterNotices spec releases).map (told subject.reference) ++ looking ++
        (lookupNotices (failuresOf lookups)).map (told subject.reference))).filterMap
          runAnswer? = [] := by
  rw [List.filterMap_cons, List.filterMap_append, List.filterMap_append,
    filterMap_told fun _ => rfl, runAnswers_lookUpAll hlooking, filterMap_told fun _ => rfl]
  rfl

theorem runAnswers_after_failure (c : Controller) (m : Moment) (subject : Subject)
    (cleaned : Repository.Status) (error : GithubError) :
    [fetched m subject cleaned (.error error),
      told subject.reference (releasesFailure c m error).2.1].filterMap runAnswer? = [] := rfl

/-- Every answer about a recorded run was given to a lookup of the run. -/
theorem Course.lookedUp_of_mem (hcourse : Course c m subject s account opening delay s')
    {answer : Repository.RecordedRun × Except RunnerError RunState}
    (hmem : answer ∈ s.recordedRuns.zip (opening.filterMap runAnswer?)) :
    lookedUp subject.ns answer.1.record.name answer.2 ∈ opening := by
  cases hcourse with
  | pipelinesUnavailable hchecks =>
      rw [filterMap_pipelineErrors hchecks fun _ _ => rfl, List.zip_nil_right] at hmem
      exact absurd hmem List.not_mem_nil
  | @releasesNotFetched _ _ cleaned hchecks hcleaning error =>
      have hquiet := runAnswers_after_failure c m subject cleaned error
      have hlooked := (eq_of_cleanup hchecks hcleaning hquiet rfl).1 answer hmem
      exact List.mem_append_left _ (List.mem_append_right _ hlooked)
  | @built _ _ _ cleaned _ releases _ _ hchecks hcleaning hlooking _ =>
      have hquiet := runAnswers_after_fetch subject.spec cleaned releases hlooking
      have hlooked := (eq_of_cleanup hchecks hcleaning hquiet rfl).1 answer hmem
      exact List.mem_append_left _ (List.mem_append_right _ hlooked)

/-- What is known about releases changes in three steps: the cleanup drops records, what was found
is taken up, and the turns are taken. -/
theorem Course.exists_releases (hcourse : Course c m subject s account opening delay s') :
    ∃ pairs first last, Turns m subject pairs first account.turns last ∧
      first.releases = ((s.dropRuns (staleRecords m.now
        (s.recordedRuns.zip (opening.filterMap runAnswer?)))).takeUp subject.spec
          account.findings).releases ∧
      s'.releases = last.releases := by
  cases hcourse with
  | pipelinesUnavailable hchecks =>
      refine ⟨[], s, s, .nil _, ?_, rfl⟩
      rw [filterMap_pipelineErrors hchecks fun _ _ => rfl, List.zip_nil_right]
      rfl
  | @releasesNotFetched _ _ cleaned hchecks hcleaning error =>
      refine ⟨[], cleaned, cleaned, .nil _, ?_, rfl⟩
      have hquiet := runAnswers_after_failure c m subject cleaned error
      rw [← (eq_of_cleanup hchecks hcleaning hquiet rfl).2]
      rfl
  | @built _ _ _ cleaned _ releases _ _ hchecks hcleaning hlooking hturns =>
      have hquiet := runAnswers_after_fetch subject.spec cleaned releases hlooking
      refine ⟨_, _, _, hturns, ?_, rfl⟩
      rw [← (eq_of_cleanup hchecks hcleaning hquiet rfl).2]
      exact Repository.Status.releases_takeUp_congr _ _ (releases_reported_narrowed ..)

/-- The records when the first turn is taken are those before the round without the dropped ones,
and only turns change them afterwards. -/
theorem Course.exists_turns (hcourse : Course c m subject s account opening delay s') :
    ∃ pairs first last, Turns m subject pairs first account.turns last ∧
      (∀ pair : String × ArtifactType, first.run? pair.1 pair.2 =
        if isDropped m.now (s.recordedRuns.zip (opening.filterMap runAnswer?)) pair then none
        else s.run? pair.1 pair.2) ∧
      ∀ tag t, s'.run? tag t = last.run? tag t := by
  obtain ⟨pairs, first, last, hturns, hfirst, hlast⟩ := hcourse.exists_releases
  refine ⟨pairs, first, last, hturns, fun pair => ?_, fun tag t => ?_⟩
  · rw [Repository.Status.run?_congr hfirst, Repository.Status.run?_takeUp,
      run?_dropRuns_staleRecords]
  · exact Repository.Status.run?_congr hlast tag t

end Opening

/-! ## Rounds -/

section Round

variable {ns name : String} (round : Round ns name) (pair : String × ArtifactType)

/-- The cleanup of a round drops the record of a pair: the answer to the lookup of its run is found
stale. Runs are looked up in the order in which they are recorded. -/
def Round.drops : Bool :=
  isDropped round.now
    (round.repository.known.recordedRuns.zip (round.opening.filterMap runAnswer?)) pair

/-- The creations that count when the turns of a round begin, out of those that counted before. -/
def Round.carriedOver (earlier : List Creation) : List Creation :=
  if round.drops pair then [] else earlier

/-- The creations that count after a round. -/
def Round.tally (earlier : List Creation) : List Creation :=
  round.carriedOver pair earlier ++ creations pair round.log

theorem Round.quiet_openingLog :
    creations pair round.openingLog = [] ∧ notices pair round.openingLog = [] := by
  apply creations_eq_nil
  intro entry hentry hsome
  cases (round.pair?_of_mem_openingLog hentry).symm.trans hsome

theorem Round.quiet_closingLog :
    creations pair round.closingLog = [] ∧ notices pair round.closingLog = [] := by
  apply creations_eq_nil
  intro entry hentry hsome
  cases (round.pair?_of_mem_closingLog hentry).symm.trans hsome

/-- After a round the record of a pair is that of the creations that count, and the creations of
the round were told. -/
theorem Round.run?_status {earlier : List Creation}
    (hearlier : round.repository.known.run? pair.1 pair.2 = recordOf? earlier) :
    round.status.run? pair.1 pair.2 = recordOf? (round.tally pair earlier) ∧
      notices pair round.log =
        announced pair.1 (round.carriedOver pair earlier).length (creations pair round.log) := by
  obtain ⟨pairs, first, last, hturns, hfirst, hlast⟩ := round.course.exists_turns
  -- the cleanup decides which creations count, the turns add to them, and nothing else matters
  have hcarried : first.run? pair.1 pair.2 = recordOf? (round.carriedOver pair earlier) := by
    have hdropped : first.run? pair.1 pair.2 =
        if round.drops pair then none else round.repository.known.run? pair.1 pair.2 :=
      hfirst pair
    rw [hdropped, Round.carriedOver]
    split
    next => rfl
    next => exact hearlier
  have hturns_log := hturns.tallied pair
  have hclosing : Tallied pair last round.closingLog round.status :=
    .of_quiet (round.quiet_closingLog pair) (hlast pair.1 pair.2)
  have hrest := hturns_log.append hclosing
  have hopening := round.quiet_openingLog pair
  have hcreations : creations pair round.log =
      creations pair (round.turns.flatMap Turn.log ++ round.closingLog) := by
    rw [Round.log, creations_append, hopening.1, List.nil_append]
  have hnotices : notices pair round.log =
      notices pair (round.turns.flatMap Turn.log ++ round.closingLog) := by
    rw [Round.log, notices_append, hopening.2, List.nil_append]
  rw [Round.tally, hcreations, hnotices]
  exact ⟨hrest.record _ hcarried, hrest.told _ hcarried⟩

end Round

/-! ## Histories -/

section Rounds

variable {ns name : String} {s s' : Repository.Status} {rounds : List (Round ns name)}

/-- The creations for a pair that count after some rounds, out of those that counted before. -/
def tallyFrom (pair : String × ArtifactType) (earlier : List Creation)
    (rounds : List (Round ns name)) : List Creation :=
  rounds.foldl (fun earlier round => round.tally pair earlier) earlier

/-- The creations for a pair since the start of the rounds, or since its record was last dropped. -/
def tally (pair : String × ArtifactType) (rounds : List (Round ns name)) : List Creation :=
  tallyFrom pair [] rounds

/-- The record that a round loads is that of the creations that counted after the rounds before. -/
theorem Rounds.run?_known {before after : List (Round ns name)} {round : Round ns name}
    (hrounds : Rounds ns name s (before ++ round :: after) s') {pair : String × ArtifactType}
    {earlier : List Creation} (hearlier : s.run? pair.1 pair.2 = recordOf? earlier) :
    round.repository.known.run? pair.1 pair.2 = recordOf? (tallyFrom pair earlier before) := by
  -- the induction is on the history, so that its rounds must be a variable; what counts changes
  -- with every round that is passed
  generalize hall : before ++ round :: after = rounds at hrounds
  induction hrounds generalizing before earlier with
  | nil => simp at hall
  | cons first _ ih =>
      cases before with
      | nil =>
          obtain ⟨rfl, -⟩ := List.cons.inj hall
          exact hearlier
      | cons _ others =>
          obtain ⟨rfl, hothers⟩ := List.cons.inj hall
          have hnext := ih (Round.run?_status _ pair hearlier).1 hothers
          exact hnext

/-- What a round does to the records, given the creations that count before it for each pair. -/
structure Round.Counts (round : Round ns name)
    (earlier : String × ArtifactType → List Creation) : Prop where
  /-- The record is that of the creations that count after the round. -/
  record : ∀ pair, round.status.run? pair.1 pair.2 = recordOf? (round.tally pair (earlier pair))
  /-- Each creation is told once, with the count that it brings. -/
  told : ∀ pair, notices pair round.log =
    announced pair.1 (round.carriedOver pair (earlier pair)).length (creations pair round.log)
  /-- Outside the turns no creation is told. -/
  told_in_turns : ∀ entry ∈ round.log, entry.pair? = none → ∀ run count tag,
    notice? entry.exchange ≠ some (.runScheduled run count tag)
  /-- A turn in which nothing is created leaves the status as it was. -/
  unchanged : ∀ turn ∈ round.turns, turn.exchanges.filterMap createdRun? = [] →
    turn.after = turn.before

/-- Only turns tell that a run was created. -/
theorem Round.ne_runScheduled (round : Round ns name) {entry : Entry} (hentry : entry ∈ round.log)
    (hpair : entry.pair? = none) (run : String) (count : Nat) (tag : String) :
    notice? entry.exchange ≠ some (.runScheduled run count tag) := by
  intro hnotice
  rcases List.mem_append.mp hentry with hopening | hentry
  · obtain ⟨x, hx, rfl⟩ := List.mem_map.mp hopening
    rcases List.mem_cons.mp hx with rfl | hx
    · cases hnotice
    · -- the cycle opens with notices, but with none about a run
      cases round.course.opens hx with
      | pipeline => cases hnotice
      | run => cases hnotice
      | releases => cases hnotice
      | notice hne => exact hne run count tag (Option.some.inj hnotice)
      | artifact hlookup =>
          rcases eq_of_artifactLookup? hlookup with ⟨_, _, _, rfl⟩ | ⟨_, _, _, rfl⟩
          · cases hnotice
          · cases hnotice
  · rcases List.mem_append.mp hentry with hturn | hclosing
    · obtain ⟨turn, -, hturn⟩ := List.mem_flatMap.mp hturn
      obtain ⟨_, -, rfl⟩ := List.mem_map.mp hturn
      cases hpair
    · obtain rfl := List.mem_singleton.mp hclosing
      cases hnotice

/-- Records count creations. In a history that begins without records, every round leaves the record
of each release and kind that the runs created for them make up, since the beginning or since the
cleanup last dropped the record, and tells each creation once, with its count. -/
theorem Rounds.counts_creations (hrounds : Rounds ns name s rounds s')
    (hstart : ∀ tag t, s.run? tag t = none) {before after : List (Round ns name)}
    {round : Round ns name} (hsplit : rounds = before ++ round :: after) :
    round.Counts fun pair => tally pair before := by
  subst hsplit
  have hearlier (pair : String × ArtifactType) :
      round.repository.known.run? pair.1 pair.2 = recordOf? (tally pair before) :=
    hrounds.run?_known (hstart pair.1 pair.2)
  constructor
  · intro pair
    exact (round.run?_status pair (hearlier pair)).1
  · intro pair
    exact (round.run?_status pair (hearlier pair)).2
  · intro entry hentry hpair
    exact round.ne_runScheduled hentry hpair
  · intro turn _ hcreated
    rcases turn.attempt.creates_once with ⟨-, -, hafter⟩ | ⟨run, hsome, -, -⟩
    · exact hafter
    · cases hcreated.symm.trans hsome

end Rounds

/-- After the second of two runs the record names it and counts both. -/
theorem counts_repeatingRound :
    ∃ (round : Round "ci" "app") (s' : Repository.Status),
      Rounds "ci" "app" {} ([creatingRound noon] ++ round :: []) s' ∧
        round.Counts (fun pair => tally pair [creatingRound noon]) ∧
          round.status.run? "v1" .assets = some ⟨"build-2", halfPastTwelve, .capped 2⟩ := by
  have hyoung : isExpired halfPastTwelve completedRun = false := by decide +kernel
  have hover : isInFlight halfPastTwelve (firstRecord noon) completedRun = false := by
    decide +kernel
  have hrounds := rounds_repeating hyoung hover
  have hcounts : (repeatingRound hyoung hover).Counts fun pair => tally pair [creatingRound noon] :=
    hrounds.counts_creations (fun _ _ => rfl) rfl
  exact ⟨_, _, hrounds, hcounts, hcounts.record ("v1", .assets)⟩

end Cycle

end ReleaseBuilds
