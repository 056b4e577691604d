import ReleaseBuilds.Proofs.History

/-!
# Spacing of runs

Over a whole history, the record of a run lasts until the next run is created for its release and
kind, unless a lookup finds it stale. So whoever requests another run within the hour has looked
the first one up and was told that it is over.
-/

namespace ReleaseBuilds.Cycle

open Dialogue

/-- What a lookup answers about the run of a record does not show it in flight. -/
def isOver (now : Instant) (record : Repository.RunRecord) : Except RunnerError RunState → Bool
  | .ok run => !isInFlight now record run
  | .error _ => true

/-- What happens to the record of a pair on the way from one status to another: as long as no other
run is created it is kept, or the run was found stale; and another run is only requested after a
lookup found the run stale or over. -/
structure Spaced (ns : String) (pair : String × ArtifactType) (record : Repository.RunRecord)
    (s : Repository.Status) (log : List Entry) (s' : Repository.Status) : Prop where
  kept_or_stale : s.run? pair.1 pair.2 = some record →
    (∀ entry ∈ log, ∀ run, ¬entry.Creates pair run) →
      s'.run? pair.1 pair.2 = some record ∨ ∃ entry ∈ log, ∃ answer,
        entry.exchange = lookedUp ns record.name answer ∧ isStale entry.now answer = true
  stale_or_over : s.run? pair.1 pair.2 = some record → ∀ before request after,
    log = before ++ request :: after → request.Requests pair →
      (∀ entry ∈ before, ∀ run, ¬entry.Creates pair run) →
        ∃ entry ∈ before, ∃ answer, entry.exchange = lookedUp ns record.name answer ∧
          (isStale entry.now answer = true ∨ isOver request.now record answer = true)

namespace Spaced

variable {ns : String} {pair : String × ArtifactType} {record : Repository.RunRecord}
  {s middle s' : Repository.Status} {first second log : List Entry}

/-- Where nothing is requested, only the record matters. -/
theorem of_not_requests (hrequests : ∀ entry ∈ log, ¬entry.Requests pair)
    (hkept : s.run? pair.1 pair.2 = some record → s'.run? pair.1 pair.2 = some record ∨
      ∃ entry ∈ log, ∃ answer, entry.exchange = lookedUp ns record.name answer ∧
        isStale entry.now answer = true) :
    Spaced ns pair record s log s' where
  kept_or_stale hrecord _ := hkept hrecord
  stale_or_over := by
    rintro - before request after rfl hrequest -
    exact absurd hrequest (hrequests request (List.mem_append_right _ List.mem_cons_self))

theorem append (hfirst : Spaced ns pair record s first middle)
    (hsecond : Spaced ns pair record middle second s') :
    Spaced ns pair record s (first ++ second) s' where
  kept_or_stale hrecord hcreates := by
    have hcreates_first := fun entry hentry => hcreates entry (List.mem_append_left _ hentry)
    have hcreates_second := fun entry hentry => hcreates entry (List.mem_append_right _ hentry)
    rcases hfirst.kept_or_stale hrecord hcreates_first with hmiddle | ⟨entry, hentry, hstale⟩
    · rcases hsecond.kept_or_stale hmiddle hcreates_second with hend | ⟨entry, hentry, hstale⟩
      · exact .inl hend
      · exact .inr ⟨entry, List.mem_append_right _ hentry, hstale⟩
    · exact .inr ⟨entry, List.mem_append_left _ hentry, hstale⟩
  stale_or_over hrecord before request after hlog hrequest hcreates := by
    rcases split_append hlog with ⟨between, hfirst_eq, -⟩ | ⟨between, rfl, hrest⟩
    · exact hfirst.stale_or_over hrecord _ _ _ hfirst_eq hrequest hcreates
    · have hcreates_first := fun entry hentry => hcreates entry (List.mem_append_left _ hentry)
      have hcreates_second := fun entry hentry => hcreates entry (List.mem_append_right _ hentry)
      rcases hfirst.kept_or_stale hrecord hcreates_first with
        hmiddle | ⟨entry, hentry, answer, hlookup, hstale⟩
      · obtain ⟨entry, hentry, hover⟩ :=
          hsecond.stale_or_over hmiddle _ _ _ hrest hrequest hcreates_second
        exact ⟨entry, List.mem_append_right _ hentry, hover⟩
      · exact ⟨entry, List.mem_append_left _ hentry, answer, hlookup, .inl hstale⟩

end Spaced

section Turns

variable {m : Moment} {subject : Subject} {record : Repository.RunRecord}

/-- A recorded run that does not keep others from being requested was looked up, and is over. -/
theorem Settled.isOver_of_record {now : Instant} {ns : String} {looked : List Exchanged}
    (hsettled : Settled now ns (some record) looked) :
    ∃ answer, looked = [lookedUp ns record.name answer] ∧ isOver now record answer = true := by
  cases hsettled with
  | failed _ error => exact ⟨.error error, rfl, rfl⟩
  | ended _ run hover => exact ⟨.ok run, rfl, by simp [isOver, hover]⟩

/-- In a turn nothing is requested, or one run is, after the recorded one was settled. -/
theorem Attempt.requests_once {s s' : Repository.Status} {tag : String} {t : ArtifactType}
    {exchanges : List Exchanged} {outcome : Except RunnerError RunOutcome}
    (hattempt : Attempt m subject s tag t exchanges outcome s') :
    ((∀ x ∈ exchanges, ∀ request, x.call ≠ .createRun request) ∧ s' = s) ∨
      ∃ looked request answer rest, exchanges = looked ++ ⟨.createRun request, answer⟩ :: rest ∧
        Settled m.now subject.ns (s.run? tag t) looked ∧
          (∀ x ∈ rest, ∀ request, x.call ≠ .createRun request) ∧
            match answer with
            | .error _ => s' = s
            | .ok run => s' = s.recordRun tag t run.name (run.createdAt.getD m.now) := by
  cases hattempt with
  | notConfigured => exact .inl ⟨by simp, rfl⟩
  | inFlight => exact .inl ⟨by simp [lookedUp], rfl⟩
  | failed _ hsettled error => exact .inr ⟨_, _, .error error, [], rfl, hsettled, by simp, rfl⟩
  | created _ hsettled run =>
      exact .inr ⟨_, _, .ok run, _, rfl, hsettled, by simp [told], rfl⟩

/-- A request in the log of a turn is one of its exchanges. -/
theorem Turn.mem_of_requests {turn : Turn m subject} {entry : Entry} {pair : String × ArtifactType}
    {exchanges : List Exchanged} (hmem : entry ∈ exchanges.map fun x => ⟨m.now, some turn.pair, x⟩)
    (hrequest : entry.Requests pair) :
    turn.pair = pair ∧ ∃ x ∈ exchanges, ∃ request, x.call = .createRun request := by
  obtain ⟨x, hx, rfl⟩ := List.mem_map.mp hmem
  obtain ⟨hpair, request, answer, rfl⟩ := hrequest
  exact ⟨Option.some.inj hpair, _, hx, request, rfl⟩

theorem Turn.spaced (turn : Turn m subject) (pair : String × ArtifactType) :
    Spaced subject.ns pair record turn.before turn.log turn.after := by
  by_cases hpair : turn.pair = pair
  · -- the turn of the pair itself: whatever it requests comes after the lookup of the record
    subst hpair
    rcases turn.attempt.requests_once with
      ⟨hquiet, hafter⟩ | ⟨looked, request, answer, rest, hexchanges, hsettled, hrest, hafter⟩
    · apply Spaced.of_not_requests
      · intro entry hentry hrequest
        obtain ⟨-, x, hx, other, hcall⟩ := Turn.mem_of_requests hentry hrequest
        exact hquiet x hx other hcall
      · intro hrecord
        exact .inl (hafter ▸ hrecord)
    · constructor
      · intro hrecord hcreates
        cases answer with
        | error => exact .inl (hafter ▸ hrecord)
        | ok run =>
            refine absurd ⟨rfl, request, rfl⟩ (hcreates ⟨m.now, some turn.pair, _⟩ ?_ run)
            exact List.mem_map_of_mem (hexchanges ▸ List.mem_append_right _ List.mem_cons_self)
      · intro hrecord before other after hlog hrequest _
        change turn.before.run? turn.tag turn.type = some record at hrecord
        rw [hrecord] at hsettled
        obtain ⟨found, rfl, hover⟩ := hsettled.isOver_of_record
        have hnow : other.now = m.now := by
          have hmem : other ∈ turn.log := hlog ▸ List.mem_append_right _ List.mem_cons_self
          obtain ⟨_, -, rfl⟩ := List.mem_map.mp hmem
          rfl
        rw [Turn.log, hexchanges, List.map_append] at hlog
        -- the lookup requests nothing, so it stands before the request
        have hlooked : other ∉ [lookedUp subject.ns record.name found].map
            fun x => (⟨m.now, some turn.pair, x⟩ : Entry) := by
          intro hmem
          obtain ⟨-, x, hx, _, hcall⟩ := Turn.mem_of_requests hmem hrequest
          rw [List.mem_singleton.mp hx] at hcall
          cases hcall
        obtain ⟨between, rfl, -⟩ := split_after_prefix hlog hlooked
        exact ⟨_, List.mem_append_left _ List.mem_cons_self, found, rfl, .inr (hnow ▸ hover)⟩
  · apply Spaced.of_not_requests
    · intro entry hentry hrequest
      exact hpair (Turn.mem_of_requests hentry hrequest).1
    · intro hrecord
      exact .inl (by rw [turn.attempt.run?_of_ne hpair]; exact hrecord)

theorem Turns.spaced {pairs : List (String × ArtifactType)} {s s' : Repository.Status}
    {turns : List (Turn m subject)} (hturns : Turns m subject pairs s turns s')
    (pair : String × ArtifactType) :
    Spaced subject.ns pair record s (turns.flatMap Turn.log) s' := by
  induction hturns with
  | nil => exact .of_not_requests (by simp) .inl
  | pass _ _ ih => exact ih
  | take first _ ih => exact (first.spaced pair).append ih

/-- After a run is created in a turn, it is the recorded one, and the turn asks for no other. -/
theorem Turn.recorded_of_creates {turn : Turn m subject} {before after : List Entry}
    {created : Entry} {pair : String × ArtifactType} {run : RunState}
    (hlog : turn.log = before ++ created :: after) (hcreates : created.Creates pair run) :
    ∃ count,
      turn.after.run? pair.1 pair.2 = some ⟨run.name, run.createdAt.getD created.now, count⟩ ∧
      ∀ entry ∈ after, ¬entry.Requests pair := by
  have hmem : created ∈ turn.log := hlog ▸ List.mem_append_right _ List.mem_cons_self
  obtain ⟨rfl, x, hx, other, hcall⟩ := Turn.mem_of_requests hmem hcreates.requests
  rcases turn.attempt.requests_once with
    ⟨hquiet, -⟩ | ⟨looked, request, answer, rest, hexchanges, hsettled, hrest, hafter⟩
  · exact absurd hcall (hquiet x hx other)
  · rw [Turn.log, hexchanges, List.map_append, List.map_cons] at hlog
    have hlooked : created ∉ looked.map fun x => (⟨m.now, some turn.pair, x⟩ : Entry) := by
      intro hmem
      obtain ⟨-, x, hx, _, hcall⟩ := Turn.mem_of_requests hmem hcreates.requests
      obtain ⟨_, _, -, rfl⟩ := hsettled.call_eq hx
      cases hcall
    obtain ⟨between, -, hsplit⟩ := split_after_prefix hlog hlooked
    have hlast {entry : Entry}
        (hentry : entry ∈ rest.map fun x => (⟨m.now, some turn.pair, x⟩ : Entry)) :
        ¬entry.Requests turn.pair := by
      intro hrequest
      obtain ⟨-, x, hx, _, hcall⟩ := Turn.mem_of_requests hentry hrequest
      exact hrest x hx _ hcall
    cases between with
    | nil =>
        obtain ⟨rfl, rfl⟩ := List.cons.inj hsplit
        obtain ⟨-, _, heq⟩ := hcreates
        cases heq
        have hrecord := turn.before.run?_recordRun turn.tag turn.tag turn.type turn.type run.name
          (run.createdAt.getD m.now)
        rw [if_pos ⟨rfl, rfl⟩, ← hafter] at hrecord
        exact ⟨_, hrecord, fun entry => hlast⟩
    | cons _ others =>
        rw [List.cons_append, List.cons.injEq] at hsplit
        have hmem_rest : created ∈ others ++ created :: after :=
          List.mem_append_right _ List.mem_cons_self
        rw [← hsplit.2] at hmem_rest
        exact absurd hcreates.requests (hlast hmem_rest)

end Turns

/-! ## Rounds and histories -/

section Rounds

variable {ns name : String} {record : Repository.RunRecord}

theorem Entry.not_requests {entry : Entry} (hpair : entry.pair? = none)
    (pair : String × ArtifactType) : ¬entry.Requests pair := by
  rintro ⟨hsome, -⟩
  rw [hpair] at hsome
  cases hsome

theorem Round.spaced_opening {round : Round ns name} {first last : Repository.Status}
    (hrecords : round.Records first last) (pair : String × ArtifactType) :
    Spaced ns pair record round.repository.known round.openingLog first := by
  apply Spaced.of_not_requests
  · exact fun entry hentry => entry.not_requests (round.pair?_of_mem_openingLog hentry) pair
  · intro hrecord
    rcases hrecords.kept_or_stale pair.1 pair.2 with
      hkept | ⟨-, other, answer, hother, hstale, hmem⟩
    · exact .inl (hkept.trans hrecord)
    · obtain rfl : record = other := Option.some.inj (hrecord.symm.trans hother)
      refine .inr ⟨⟨round.now, none, lookedUp ns record.name answer⟩, ?_, answer, rfl, hstale⟩
      exact List.mem_map.mpr ⟨_, List.mem_cons_of_mem _ hmem, rfl⟩

theorem Round.spaced_closing {round : Round ns name} {first last : Repository.Status}
    (hrecords : round.Records first last) (pair : String × ArtifactType) :
    Spaced ns pair record last round.closingLog round.status := by
  apply Spaced.of_not_requests
  · exact fun entry hentry => entry.not_requests (round.pair?_of_mem_closingLog hentry) pair
  · exact fun hrecord => .inl ((hrecords.saved pair.1 pair.2).trans hrecord)

theorem Round.spaced (round : Round ns name) (pair : String × ArtifactType) :
    Spaced ns pair record round.repository.known round.log round.status := by
  obtain ⟨first, last, hrecords⟩ := round.exists_records
  obtain ⟨_, hturns⟩ := hrecords.turns
  exact (round.spaced_opening hrecords pair).append
    ((hturns.spaced pair).append (round.spaced_closing hrecords pair))

theorem Rounds.spaced {s s' : Repository.Status} {rounds : List (Round ns name)}
    (hrounds : Rounds ns name s rounds s') (pair : String × ArtifactType) :
    Spaced ns pair record s (rounds.flatMap Round.log) s' := by
  induction hrounds with
  | nil => exact .of_not_requests (by simp) .inl
  | cons round _ ih => exact (round.spaced pair).append ih

/-- From the creation of a run on, a history goes by the record of that run. -/
theorem Rounds.spaced_of_creates {s s' : Repository.Status} {rounds : List (Round ns name)}
    (hrounds : Rounds ns name s rounds s') {before after : List Entry} {created : Entry}
    (hlog : rounds.flatMap Round.log = before ++ created :: after)
    {pair : String × ArtifactType} {run : RunState} (hcreates : created.Creates pair run) :
    ∃ middle record, middle.run? pair.1 pair.2 = some record ∧ record.name = run.name ∧
      record.timestamp = run.createdAt.getD created.now ∧
        Spaced ns pair record middle after s' := by
  obtain ⟨_, round, later, pre, post, rfl, hround, rfl⟩ := exists_split_of_flatMap hlog
  obtain ⟨first, last, hrecords⟩ := round.exists_records
  obtain ⟨_, hturns⟩ := hrecords.turns
  obtain ⟨between, -, hrest⟩ := split_after_prefix hround fun hmem =>
    created.not_requests (round.pair?_of_mem_openingLog hmem) pair hcreates.requests
  rcases split_append hrest with ⟨inTurns, hturns_log, rfl⟩ | ⟨_, -, hclosing⟩
  · obtain ⟨_, turn, others, _, inTurn, hsplit, hturn, rfl⟩ := exists_split_of_flatMap hturns_log
    rw [hsplit] at hturns
    obtain ⟨_, hothers⟩ := hturns.after
    obtain ⟨count, hrecord, hquiet⟩ := Turn.recorded_of_creates hturn hcreates
    refine ⟨turn.after, _, hrecord, rfl, rfl, ?_⟩
    -- what follows are the rest of this turn, the other turns, the end of the round, later rounds
    have hrest_of_turn : Spaced ns pair ⟨run.name, run.createdAt.getD created.now, count⟩ turn.after
        inTurn turn.after :=
      .of_not_requests hquiet .inl
    exact ((hrest_of_turn.append (hothers.spaced pair)).append
      (round.spaced_closing hrecords pair)).append (hrounds.after.spaced pair)
  · have hmem : created ∈ round.closingLog :=
      hclosing ▸ List.mem_append_right _ List.mem_cons_self
    exact absurd hcreates.requests
      (created.not_requests (round.pair?_of_mem_closingLog hmem) pair)

/-- If another run is requested for a release and a kind less than an hour after the run before it
was recorded, some lookup in between failed or showed that run completed; provided that lookups
report no time before that of the record. Leap seconds are excluded, because the time from a
reading of the clock to a later one can grow from one reading to the next while they last. -/
theorem Rounds.lookup_between_creations {s s' : Repository.Status} {rounds : List (Round ns name)}
    (hrounds : Rounds ns name s rounds s') (hclock : ClockAdvances rounds)
    {before between after : List Entry} {first second : Entry}
    (hlog : rounds.flatMap Round.log = before ++ first :: (between ++ second :: after))
    {pair : String × ArtifactType} {run : RunState} {timestamp : Instant}
    (hfirst : first.Creates pair run) (htimestamp : timestamp = run.createdAt.getD first.now)
    (hsecond : second.Requests pair) (hnext : ∀ entry ∈ between, ∀ other, ¬entry.Creates pair other)
    (hsoon : timestamp.nanosBetween second.now < Instant.minutesInNanos 60)
    (hreports : ∀ entry ∈ between, ∀ found, entry.exchange = lookedUp ns run.name (.ok found) →
      (∀ created, found.createdAt = some created → timestamp ≤ created) ∧
        ∀ start, found.startTime = some start → timestamp ≤ start)
    (hleap : timestamp.inLeapSecond = false ∧ second.now.inLeapSecond = false ∧
      ∀ entry ∈ between, ∀ found, entry.exchange = lookedUp ns run.name (.ok found) →
        ∀ start, found.startTime = some start → start.inLeapSecond = false) :
    ∃ entry ∈ between, ∃ answer, entry.exchange = lookedUp ns run.name answer ∧
      ∀ found, answer = .ok found → found.hasCompleted = true := by
  obtain ⟨middle, record, hrecord, hname, hrecorded, hspaced⟩ :=
    hrounds.spaced_of_creates hlog hfirst
  obtain ⟨entry, hentry, answer, hlookup, hover⟩ :=
    hspaced.stale_or_over hrecord _ _ _ rfl hsecond hnext
  rw [hname] at hlookup
  rw [← htimestamp] at hrecorded
  have hrecent : isRecent second.now timestamp = true := decide_eq_true hsoon
  refine ⟨entry, hentry, answer, hlookup, ?_⟩
  rintro found rfl
  obtain ⟨hcreated, hstart⟩ := hreports entry hentry found hlookup
  rcases hover with hstale | hover
  · -- a run that is found expired was created long before the first reading
    have hle : entry.now ≤ second.now := by
      have hsorted := hclock.pairwise_log
      rw [hlog, List.pairwise_append, List.pairwise_cons, List.pairwise_append] at hsorted
      exact hsorted.2.1.2.2.2 entry hentry second List.mem_cons_self
    have hyoung := not_isExpired_of_isRecent hrecent hle hcreated
    cases hstale.symm.trans hyoung
  · cases hcompleted : found.hasCompleted with
    | true => rfl
    | false =>
        -- within the hour a run that has not completed is in flight, and the lookup says it is over
        subst hrecorded
        have hflight := isInFlight_of_isRecent hrecent hcompleted hleap.2.1 hleap.1
          fun start hfound =>
            ⟨hstart start hfound, hleap.2.2 entry hentry found hlookup start hfound⟩
        simp [isOver, hflight] at hover

end Rounds

/-! ## Histories of two runs -/

section Repeating

variable {created now : Instant} {run : RunState} (hyoung : isExpired now run = false)
  (hover : isInFlight now (firstRecord created) run = false)

/-- What is logged between the creation of the first run and the request for the second one. -/
def betweenRuns : List Entry :=
  ⟨created, some ("v1", .assets), told (singleSubject none).reference
      (.runScheduled "build-1" (Repository.countAfter none).toNat "v1")⟩ ::
    (creatingRound created).closingLog ++ (repeatingRound hyoung hover).openingLog ++
      [⟨now, some ("v1", .assets), lookedUp "ci" "build-1" (.ok run)⟩]

theorem exists_log_repeating :
    ∃ request after,
      [creatingRound created, repeatingRound hyoung hover].flatMap Round.log =
        (creatingRound created).openingLog ++
          ⟨created, some ("v1", .assets), ⟨.createRun .single, .ok { name := "build-1" }⟩⟩ ::
            (betweenRuns hyoung hover ++
              ⟨now, some ("v1", .assets), ⟨.createRun request, .ok { name := "build-2" }⟩⟩ ::
                after) :=
  ⟨_, _, rfl⟩

theorem answer_of_mem_betweenRuns {entry : Entry} (hentry : entry ∈ betweenRuns hyoung hover)
    {name : String} {answer : Except RunnerError RunState}
    (hlookup : entry.exchange = lookedUp "ci" name answer) : answer = .ok run := by
  change entry ∈ [_, _, _, _, _, _, _, _] at hentry
  simp only [List.mem_cons, List.not_mem_nil, or_false] at hentry
  rcases hentry with rfl | rfl | rfl | rfl | rfl | rfl | rfl | rfl
  all_goals cases hlookup
  all_goals rfl

theorem not_creates_of_mem_betweenRuns {entry : Entry} (hentry : entry ∈ betweenRuns hyoung hover)
    (pair : String × ArtifactType) (other : RunState) : ¬entry.Creates pair other := by
  rintro ⟨-, request, hrequest⟩
  change entry ∈ [_, _, _, _, _, _, _, _] at hentry
  simp only [List.mem_cons, List.not_mem_nil, or_false] at hentry
  rcases hentry with rfl | rfl | rfl | rfl | rfl | rfl | rfl | rfl
  all_goals cases hrequest

end Repeating

/-- After half an hour another run is requested, because the first one completed. -/
theorem lookup_of_completedRun :
    ∃ (rounds : List (Round "ci" "app")) (before between after : List Entry) (first second : Entry),
      rounds.flatMap Round.log = before ++ first :: (between ++ second :: after) ∧
        first.Creates ("v1", .assets) { name := "build-1" } ∧ second.Requests ("v1", .assets) ∧
          noon.nanosBetween second.now < Instant.minutesInNanos 60 ∧
            ∃ entry ∈ between, ∃ answer, entry.exchange = lookedUp "ci" "build-1" answer ∧
              ∀ found, answer = .ok found → found.hasCompleted = true := by
  have hyoung : isExpired halfPastTwelve completedRun = false := by decide +kernel
  have hover : isInFlight halfPastTwelve (firstRecord noon) completedRun = false := by
    decide +kernel
  have hsoon : noon.nanosBetween halfPastTwelve < Instant.minutesInNanos 60 := by decide +kernel
  have hnoon : noon.inLeapSecond = false := by decide
  have hlater : halfPastTwelve.inLeapSecond = false := by decide
  have hclock : ClockAdvances [creatingRound noon, repeatingRound hyoung hover] :=
    List.pairwise_pair.mpr (by decide +kernel : halfPastTwelve.before noon = false)
  obtain ⟨request, after, hlog⟩ := exists_log_repeating hyoung hover
  refine ⟨_, _, _, _, _, _, hlog, ⟨rfl, _, rfl⟩, ⟨rfl, _, _, rfl⟩, hsoon, ?_⟩
  apply (rounds_repeating hyoung hover).lookup_between_creations hclock hlog ⟨rfl, _, rfl⟩ rfl
    ⟨rfl, _, _, rfl⟩ (fun entry hentry => not_creates_of_mem_betweenRuns hyoung hover hentry _)
    hsoon
  · intro entry hentry found hlookup
    cases answer_of_mem_betweenRuns hyoung hover hentry hlookup
    refine ⟨(fun created hcreated => by cases hcreated), fun start hstart => ?_⟩
    obtain rfl : noon = start := Option.some.inj hstart
    exact Instant.le_refl noon
  · refine ⟨hnoon, hlater, fun entry hentry found hlookup start hstart => ?_⟩
    cases answer_of_mem_betweenRuns hyoung hover hentry hlookup
    obtain rfl : noon = start := Option.some.inj hstart
    exact hnoon

/-- A tenth of a second into the leap second at the end of 2016. -/
def leapSecond : Instant := ⟨1483228799, 1100000000, by decide, by decide, by decide⟩

/-- Midnight after it. -/
def newYear : Instant :=
  { Instant.epoch with second := 1483228800, inRange := by decide, leap := by decide }

/-- One hour after midnight. -/
def newYearOne : Instant :=
  { newYear with second := 1483232400, inRange := by decide, leap := by decide }

/-- A run that started at midnight. -/
def midnightRun : RunState := { name := "build-1", startTime := some newYear }

/-- From the leap second to one o'clock the clock counts less than an hour, but from midnight to one
o'clock an hour: another run is requested while the first one has not completed. -/
theorem no_lookup_after_leapSecond :
    ∃ (rounds : List (Round "ci" "app")) (s' : Repository.Status)
      (before between after : List Entry) (first second : Entry),
      Rounds "ci" "app" {} rounds s' ∧ ClockAdvances rounds ∧
        rounds.flatMap Round.log = before ++ first :: (between ++ second :: after) ∧
          first.Creates ("v1", .assets) { name := "build-1" } ∧ first.now = leapSecond ∧
            second.Creates ("v1", .assets) { name := "build-2" } ∧
              (∀ entry ∈ between, ∀ other, ¬entry.Creates ("v1", .assets) other) ∧
                leapSecond.nanosBetween second.now < Instant.minutesInNanos 60 ∧
                  (∀ entry ∈ between, ∀ found,
                    entry.exchange = lookedUp "ci" "build-1" (.ok found) →
                      (∀ created, found.createdAt = some created → leapSecond ≤ created) ∧
                        ∀ start, found.startTime = some start → leapSecond ≤ start) ∧
                    ¬∃ entry ∈ between, ∃ answer,
                      entry.exchange = lookedUp "ci" "build-1" answer ∧
                        ∀ found, answer = .ok found → found.hasCompleted = true := by
  have hyoung : isExpired newYearOne midnightRun = false := by decide +kernel
  have hover : isInFlight newYearOne (firstRecord leapSecond) midnightRun = false := by
    decide +kernel
  have hsoon : leapSecond.nanosBetween newYearOne < Instant.minutesInNanos 60 := by decide +kernel
  have hstart : leapSecond ≤ newYear := (by decide +kernel : newYear.before leapSecond = false)
  obtain ⟨request, after, hlog⟩ := exists_log_repeating hyoung hover
  refine ⟨_, _, _, _, _, _, _, rounds_repeating hyoung hover, ?_, hlog, ⟨rfl, _, rfl⟩, rfl,
    ⟨rfl, _, rfl⟩, fun entry hentry => not_creates_of_mem_betweenRuns hyoung hover hentry _,
    hsoon, ?_, ?_⟩
  · exact List.pairwise_pair.mpr (by decide +kernel : newYearOne.before leapSecond = false)
  · intro entry hentry found hlookup
    cases answer_of_mem_betweenRuns hyoung hover hentry hlookup
    refine ⟨(fun created hcreated => by cases hcreated), fun start hfound => ?_⟩
    obtain rfl : newYear = start := Option.some.inj hfound
    exact hstart
  · rintro ⟨entry, hentry, answer, hlookup, hcompleted⟩
    obtain rfl := answer_of_mem_betweenRuns hyoung hover hentry hlookup
    exact absurd (hcompleted midnightRun rfl) (by decide)

end ReleaseBuilds.Cycle
