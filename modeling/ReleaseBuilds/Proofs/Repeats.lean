import ReleaseBuilds.Proofs.Spacing
import ReleaseBuilds.Proofs.Tally
import ReleaseBuilds.Proofs.Verdict

/-!
# Several runs in one round

A release and a kind take as many turns as the tag is listed. Nothing drops repeated tags, so what
keeps a pair from being given several runs in one round is what keeps it from that in different
rounds: the turn looks up the run that was created last, and requests no other while that is in
flight.
-/

namespace ReleaseBuilds.Cycle

open Dialogue

section Turns

variable {m : Moment} {subject : Subject} {s s' : Repository.Status}
  {pair : String × ArtifactType} {turns : List (Turn m subject)}

/-- It is the turn of the pair, and a run is created in it. -/
def Turn.creates (pair : String × ArtifactType) (turn : Turn m subject) : Bool :=
  turn.pair = pair && turn.outcome = .ok .created

theorem Turn.creates_iff {turn : Turn m subject} :
    turn.creates pair = true ↔ turn.pair = pair ∧ turn.outcome = .ok .created := by
  simp [Turn.creates]

/-- In each of two turns of a pair a run is created. The later turn looks up the run of the earlier
one first, and is not shown that run in flight. -/
structure Turn.Repeats (first second : Turn m subject) : Prop where
  pair_eq : second.pair = first.pair
  created_again : ∃ request run, (⟨.createRun request, .ok run⟩ : Exchanged) ∈ second.exchanges
  found_over : ∃ request run count answer,
    (⟨.createRun request, .ok run⟩ : Exchanged) ∈ first.exchanges ∧
      lookedUp subject.ns run.name answer ∈ second.exchanges ∧
        isOver m.now ⟨run.name, run.createdAt.getD m.now, count⟩ answer = true

/-! ## Creations and turns -/

/-- In a turn at most one run is created, and only for its own pair. -/
theorem Turn.length_creations (turn : Turn m subject) :
    (creations pair turn.log).length = if turn.creates pair then 1 else 0 := by
  by_cases hpair : turn.pair = pair
  · subst hpair
    rw [turn.creations_log.1, List.length_map]
    rcases turn.attempt.creates_once with ⟨hcreated, -, -⟩ | ⟨run, hcreated, -, -⟩
    · rw [hcreated, if_neg]
      · rfl
      · intro hcreates
        obtain ⟨request, run, hmem⟩ := turn.attempt.exists_created (creates_iff.mp hcreates).2
        have hnone := List.filterMap_eq_nil_iff.mp hcreated _ hmem
        cases hnone
    · rw [hcreated, if_pos]
      · rfl
      · have hmem : run ∈ turn.exchanges.filterMap createdRun? := hcreated ▸ List.mem_cons_self
        obtain ⟨⟨call, answer⟩, hx, hrun⟩ := List.mem_filterMap.mp hmem
        cases call with
        | createRun request =>
            cases answer with
            | error => cases hrun
            | ok => exact creates_iff.mpr ⟨rfl, turn.attempt.outcome_of_mem hx⟩
        | _ => cases hrun
  · rw [if_neg fun hcreates => hpair (creates_iff.mp hcreates).1, (creations_eq_nil _).1]
    · rfl
    · intro entry hentry hsome
      obtain ⟨_, -, rfl⟩ := List.mem_map.mp hentry
      exact hpair (Option.some.inj hsome)

theorem length_creations_turns (turns : List (Turn m subject)) :
    (creations pair (turns.flatMap Turn.log)).length = (turns.filter (·.creates pair)).length := by
  induction turns with
  | nil => rfl
  | cons turn rest ih =>
      rw [List.flatMap_cons, creations_append, List.length_append, turn.length_creations, ih,
        List.filter_cons]
      split
      next => exact Nat.add_comm ..
      next => exact Nat.zero_add _

/-! ## From one creation to the next -/

/-- Unless a run is created for the pair, its record stays as it is. -/
theorem Turn.run?_of_not_creates {turn : Turn m subject} (hcreates : ¬turn.creates pair = true) :
    turn.after.run? pair.1 pair.2 = turn.before.run? pair.1 pair.2 := by
  by_cases hpair : turn.pair = pair
  · obtain ⟨tag, t, before, exchanges, outcome, after, hlacking, hattempt⟩ := turn
    rw [Turn.creates_iff] at hcreates
    cases hattempt with
    | notConfigured => rfl
    | inFlight => rfl
    | failed => rfl
    | created => exact absurd ⟨hpair, rfl⟩ hcreates
  · exact turn.attempt.run?_of_ne hpair

/-- The first of the turns that create a run for a pair finds the record as it was before all
turns. -/
theorem Turns.run?_of_creates {pairs : List (String × ArtifactType)}
    (hturns : Turns m subject pairs s turns s') {turn : Turn m subject}
    {rest : List (Turn m subject)} (hcreators : turns.filter (·.creates pair) = turn :: rest) :
    turn.before.run? pair.1 pair.2 = s.run? pair.1 pair.2 := by
  induction hturns with
  | nil => cases hcreators
  | pass _ _ ih => exact ih hcreators
  | take first _ ih =>
      by_cases hfirst : first.creates pair = true
      · rw [List.filter_cons_of_pos hfirst] at hcreators
        rw [(List.cons.inj hcreators).1]
      · rw [List.filter_cons_of_neg hfirst] at hcreators
        rw [ih hcreators, Turn.run?_of_not_creates hfirst]

/-- A run that is created is the recorded one afterwards. -/
theorem Turn.exists_record_of_creates {turn : Turn m subject} (hcreates : turn.creates pair = true) :
    ∃ request run count, (⟨.createRun request, .ok run⟩ : Exchanged) ∈ turn.exchanges ∧
      turn.after.run? pair.1 pair.2 = some ⟨run.name, run.createdAt.getD m.now, count⟩ := by
  obtain ⟨rfl, houtcome⟩ := Turn.creates_iff.mp hcreates
  obtain ⟨tag, t, before, exchanges, outcome, after, hlacking, hattempt⟩ := turn
  cases hattempt with
  | notConfigured => cases houtcome
  | inFlight => cases houtcome
  | failed => cases houtcome
  | created _ _ run =>
      have hrecord := (before.run?_recordRun tag tag t t run.name (run.createdAt.getD m.now)).trans
        (if_pos ⟨rfl, rfl⟩)
      exact ⟨_, run, _, List.mem_append_right _ List.mem_cons_self, hrecord⟩

/-- Where a run is recorded another one is only created if the recorded one is found to be over. -/
theorem Turn.isOver_of_creates {turn : Turn m subject} (hcreates : turn.creates pair = true)
    {record : Repository.RunRecord} (hrecord : turn.before.run? pair.1 pair.2 = some record) :
    ∃ answer, lookedUp subject.ns record.name answer ∈ turn.exchanges ∧
      isOver m.now record answer = true := by
  obtain ⟨rfl, houtcome⟩ := Turn.creates_iff.mp hcreates
  obtain ⟨tag, t, before, exchanges, outcome, after, hlacking, hattempt⟩ := turn
  cases hattempt with
  | notConfigured => cases houtcome
  | inFlight => cases houtcome
  | failed => cases houtcome
  | created _ hsettled run =>
      change before.run? tag t = some record at hrecord
      rw [hrecord] at hsettled
      obtain ⟨answer, rfl, hover⟩ := hsettled.isOver_of_record
      exact ⟨answer, List.mem_append_left _ List.mem_cons_self, hover⟩

/-- Of two turns that create runs for a pair one after the other, the later repeats the earlier. -/
theorem Turns.repeats {pairs : List (String × ArtifactType)}
    (hturns : Turns m subject pairs s turns s') {first second : Turn m subject}
    {rest : List (Turn m subject)}
    (hcreators : turns.filter (·.creates pair) = first :: second :: rest) :
    first.Repeats second := by
  induction hturns with
  | nil => cases hcreators
  | pass _ _ ih => exact ih hcreators
  | take turn hrest ih =>
      by_cases hturn : turn.creates pair = true
      · rw [List.filter_cons_of_pos hturn] at hcreators
        obtain ⟨rfl, hothers⟩ := List.cons.inj hcreators
        have hsecond : second.creates pair = true :=
          (List.mem_filter.mp (hothers ▸ List.mem_cons_self)).2
        obtain ⟨hpair, houtcome⟩ := Turn.creates_iff.mp hsecond
        -- until the second turn the record is the one that the first left
        obtain ⟨request, run, count, hmem, hrecord⟩ := Turn.exists_record_of_creates hturn
        have hbefore := (hrest.run?_of_creates hothers).trans hrecord
        obtain ⟨answer, hlookup, hover⟩ := Turn.isOver_of_creates hsecond hbefore
        exact
          { pair_eq := hpair.trans (Turn.creates_iff.mp hturn).1.symm
            created_again := second.attempt.exists_created houtcome
            found_over := ⟨request, run, count, answer, hmem, hlookup, hover⟩ }
      · rw [List.filter_cons_of_neg hturn] at hcreators
        exact ih hcreators

end Turns

/-! ## Rounds -/

namespace Round

variable {ns name : String} (round : Round ns name)

theorem length_creations (pair : String × ArtifactType) :
    (creations pair round.log).length = (round.turns.filter (·.creates pair)).length := by
  rw [log, creations_append, creations_append, (round.quiet_openingLog pair).1,
    (round.quiet_closingLog pair).1, List.nil_append, List.append_nil, length_creations_turns]

/-- No pair takes more turns than there are releases with its tag. -/
theorem count_turns_le (pair : String × ArtifactType) :
    (round.turns.map Turn.pair).count pair ≤
      round.account.kept.countP fun release => release.tag = pair.1 := by
  have hfindings := round.course.findings_subperm.countP_le fun release => release.tag = pair.1
  rw [List.countP_map] at hfindings
  refine Nat.le_trans ?_ hfindings
  obtain ⟨c, m, repository, account, opening, delay, status, saved, hcourse⟩ := round
  cases hcourse with
  | pipelinesUnavailable => exact Nat.zero_le _
  | releasesNotFetched => exact Nat.zero_le _
  | @built _ _ _ _ _ _ lookups _ _ _ _ hturns =>
      -- a pair takes its turns because of findings that lack something
      calc
        _ ≤ (pairs (lackingOf repository.spec lookups)).count pair :=
          hturns.map_pair_sublist.count_le pair
        _ = (lackingOf repository.spec lookups).count pair.1 := count_pairs _
        _ = ((ErrorList.values lookups).filter fun f => f.lacks repository.spec).countP
            (·.tag == pair.1) := List.countP_map ..
        _ ≤ (ErrorList.values lookups).countP (·.tag == pair.1) := List.filter_sublist.countP_le

/-- A pair is given at most as many runs in a round as there are releases with its tag, and more
than one exactly if one of its turns repeats another. -/
theorem creates_again_iff (pair : String × ArtifactType) :
    (creations pair round.log).length ≤
        (round.account.kept.countP fun release => release.tag = pair.1) ∧
      (1 < (creations pair round.log).length ↔
        ∃ first second, [first, second].Sublist round.turns ∧ first.pair = pair ∧
          first.Repeats second) := by
  rw [length_creations]
  refine ⟨Nat.le_trans ?_ (round.count_turns_le pair), ?_⟩
  · rw [← List.countP_eq_length_filter, List.count_eq_countP, List.countP_map]
    apply List.countP_mono_left
    intro turn _ hcreates
    exact beq_iff_eq.mpr (Turn.creates_iff.mp hcreates).1
  · obtain ⟨first, last, hrecords⟩ := round.exists_records
    obtain ⟨_, hturns⟩ := hrecords.turns
    constructor
    · intro hmany
      match hcreators : round.turns.filter (·.creates pair) with
      | [] => simp [hcreators] at hmany
      | [_] => simp [hcreators] at hmany
      | first :: second :: rest =>
          have hfirst : first ∈ round.turns.filter (·.creates pair) :=
            hcreators ▸ List.mem_cons_self
          refine ⟨first, second, ?_, (Turn.creates_iff.mp (List.mem_filter.mp hfirst).2).1,
            hturns.repeats hcreators⟩
          have hprefix : [first, second].Sublist (round.turns.filter (·.creates pair)) := by
            rw [hcreators]
            exact (List.nil_sublist rest).cons_cons second |>.cons_cons first
          exact hprefix.trans List.filter_sublist
    · rintro ⟨first, second, hsublist, rfl, hrepeats⟩
      obtain ⟨request, run, -, -, hmem, -, -⟩ := hrepeats.found_over
      obtain ⟨_, _, hmem_second⟩ := hrepeats.created_again
      have hfirst : first.creates first.pair = true :=
        Turn.creates_iff.mpr ⟨rfl, first.attempt.outcome_of_mem hmem⟩
      have hsecond : second.creates first.pair = true :=
        Turn.creates_iff.mpr ⟨hrepeats.pair_eq, second.attempt.outcome_of_mem hmem_second⟩
      have hcreators := (hsublist.filter (·.creates first.pair)).length_le
      rw [List.filter_cons_of_pos hfirst, List.filter_cons_of_pos hsecond] at hcreators
      exact hcreators

end Round

/-! ## A round with a repeated release -/

/-- Two hours before noon. -/
def tenOClock : Instant :=
  { noon with second := 1717236000, inRange := by decide, leap := by decide }

/-- A run that the cluster dates back by two hours, and that has not started. -/
def datedBackRun : RunState := { name := "build-1", createdAt := some tenOClock }

theorem ends_lookUpAll_repeated :
    Ends (lookUpAll (.plain noon) (singleSubject none).spec
        (keptReleases (singleSubject none).spec [Finding.single.release, Finding.single.release]))
      [⟨.fetchAssets ⟨"owner", "repo", Finding.single.release⟩ false, .ok []⟩,
        ⟨.fetchAssets ⟨"owner", "repo", Finding.single.release⟩ false, .ok []⟩]
      [.ok .single, .ok .single] := by
  apply ends_lookUpAll_iff.mpr
  refine ⟨[((Finding.single.release, 0), [_], .ok .single),
    ((Finding.single.release, 1), [_], .ok .single)], rfl, ?_, rfl, rfl⟩
  exact List.forall_mem_cons.mpr ⟨ends_lookUp_single,
    List.forall_mem_singleton.mpr ends_lookUp_single⟩

/-- The status when the run for the repeated release is scheduled. -/
def repeatedFlagged : Repository.Status :=
  flagged (.plain noon) (singleSubject none).spec (begin noon {}) [.ok .single, .ok .single]

/-- The first turn of the repeated release, in which there is no record yet. -/
def firstRepeatedTurn : Turn (.plain noon) (singleSubject none) where
  tag := "v1"
  type := .assets
  before := repeatedFlagged
  exchanges := _
  outcome := _
  after := _
  lacking := by decide +kernel
  attempt := .created rfl .unrecorded datedBackRun

/-- The second one. The run was recorded with the time of its creation, so it no longer counts as
pending. -/
def secondRepeatedTurn : Turn (.plain noon) (singleSubject none) where
  tag := "v1"
  type := .assets
  before := firstRepeatedTurn.after
  exchanges := _
  outcome := _
  after := _
  lacking := by decide +kernel
  attempt := .created rfl (.ended (firstRecord tenOClock) datedBackRun (by decide +kernel))
    { name := "build-2", createdAt := some tenOClock }

theorem turns_repeated :
    Turns (.plain noon) (singleSubject none) (pairs ["v1", "v1"]) repeatedFlagged
      [firstRepeatedTurn, secondRepeatedTurn] secondRepeatedTurn.after := by
  refine .take firstRepeatedTurn (.pass ?_ (.take secondRepeatedTurn (.pass ?_ (.nil _))))
  · decide +kernel
  · decide +kernel

/-- A round in which one release is fetched twice. -/
def repeatedRound : Round "ci" "app" where
  controller := {}
  moment := .plain noon
  repository := .single none
  account := .built [Finding.single.release, Finding.single.release] [.ok .single, .ok .single]
    [firstRepeatedTurn, secondRepeatedTurn]
  opening := _
  delay := _
  status := _
  saved := .ok ()
  course := .built (ends_pipelineErrors_iff.mpr ⟨[("build", .ok ())], rfl, rfl, rfl⟩) (.done _)
    ends_lookUpAll_repeated turns_repeated

/-- Two runs are created for the release. -/
theorem length_creations_repeatedRound :
    (creations ("v1", .assets) repeatedRound.log).length = 2 :=
  rfl

end ReleaseBuilds.Cycle
