import ReleaseBuilds.Proofs.Arrival

/-!
# Turns by themselves

Scheduling hands one status from pair to pair, and every turn on the way can fail. Neither shows in
what becomes of a pair. Each pair that lacks its artifact takes a turn that goes as it would go by
itself, on the status before all turns, and the summary counts how these turns go.
-/

namespace ReleaseBuilds.Cycle

open Dialogue

section Turns

variable {m : Moment} {subject : Subject} {s s' other other' : Repository.Status} {tag : String}
  {t : ArtifactType} {exchanges : List Exchanged} {outcome outcome' : Except RunnerError RunOutcome}
  {pairs : List (String × ArtifactType)} {turns : List (Turn m subject)}

/-- The record of a pair that takes no turn stays as it was. -/
theorem Turns.run?_of_notMem (hturns : Turns m subject pairs s turns s')
    (hpair : (tag, t) ∉ turns.map Turn.pair) : s'.run? tag t = s.run? tag t := by
  have hkept := hturns.invariant (P := fun now => now.run? tag t = s.run? tag t) rfl ?_
  · exact hkept.1
  · intro turn hturn hbefore
    rw [turn.attempt.run?_of_ne, hbefore]
    exact fun heq => hpair (List.mem_map.mpr ⟨turn, hturn, heq⟩)

/-- If no pair is listed twice, the record that a pair has after its turn is not touched again. -/
theorem Turns.run?_after (hturns : Turns m subject pairs s turns s') (hnodup : pairs.Nodup)
    {turn : Turn m subject} (hturn : turn ∈ turns) :
    s'.run? turn.tag turn.type = turn.after.run? turn.tag turn.type := by
  induction hturns with
  | nil => exact absurd hturn List.not_mem_nil
  | pass _ _ ih => exact ih (List.nodup_cons.mp hnodup).2 hturn
  | take first hrest ih =>
      obtain ⟨hnotMem, hnodup_rest⟩ := List.nodup_cons.mp hnodup
      rcases List.mem_cons.mp hturn with rfl | hturn
      · -- the turns after the first one are of other pairs
        apply hrest.run?_of_notMem
        exact fun hmem => hnotMem (hrest.map_pair_sublist.subset hmem)
      · exact ih hnodup_rest hturn

theorem Attempt.run?_congr (hattempt : Attempt m subject s tag t exchanges outcome s')
    (hother : Attempt m subject other tag t exchanges outcome' other')
    (hrecord : other.run? tag t = s.run? tag t) : other'.run? tag t = s'.run? tag t := by
  rcases hattempt.creates_once with ⟨hcreated, -, rfl⟩ | ⟨run, hcreated, -, rfl⟩
  · rcases hother.creates_once with ⟨-, -, rfl⟩ | ⟨_, hcreated', -, -⟩
    · exact hrecord
    · cases hcreated.symm.trans hcreated'
  · rcases hother.creates_once with ⟨hcreated', -, -⟩ | ⟨_, hcreated', -, rfl⟩
    · cases hcreated.symm.trans hcreated'
    · cases hcreated.symm.trans hcreated'
      rw [Repository.Status.run?_recordRun, Repository.Status.run?_recordRun, hrecord]

/-- On another status with the same record of its pair a turn goes the same way and comes to the
same record. -/
theorem Turn.alone (turn : Turn m subject)
    (hrecord : turn.before.run? turn.tag turn.type = s.run? turn.tag turn.type) :
    ∃ after, Ends (schedule m subject s turn.tag turn.type) turn.exchanges (turn.outcome, after) ∧
      after.run? turn.tag turn.type = turn.after.run? turn.tag turn.type := by
  obtain ⟨after, hattempt⟩ := turn.attempt.of_run?_eq rfl hrecord
  exact ⟨after, ends_schedule_iff.mpr hattempt, turn.attempt.run?_congr hattempt hrecord.symm⟩

end Turns

def Report.error? (report : Report) : Option RunnerError :=
  match report.outcome with
  | .ok _ => none
  | .error error => some error

/-- Scheduling goes as if every pair were alone with the status before all turns. -/
structure Isolated (m : Moment) (subject : Subject) (tags : List String) (s : Repository.Status)
    (exchanges : List Exchanged) (outcomes : List (Except RunnerError RunOutcome))
    (s' : Repository.Status) (reports : List Report) : Prop where
  /-- Every pair that is flagged takes its turn, in the order of the tags and of the kinds. -/
  pairs_eq : reports.map Report.pair = lackingPairs s (pairs tags)
  /-- No pair takes two turns. -/
  once : (reports.map Report.pair).Nodup
  /-- Nothing else is asked. -/
  exchanges_eq : exchanges = reports.flatMap Report.exchanges
  /-- By itself a pair asks the same, and after the same answers comes to the same outcome and the
  same record. -/
  alone : ∀ report ∈ reports, ∃ after,
    Ends (schedule m subject s report.pair.1 report.pair.2) report.exchanges
        (report.outcome, after) ∧
      s'.run? report.pair.1 report.pair.2 = after.run? report.pair.1 report.pair.2
  /-- Other records stay as they are. -/
  others : ∀ tag t, (tag, t) ∉ reports.map Report.pair → s'.run? tag t = s.run? tag t
  created_eq : (RunSummary.of outcomes).created =
    reports.countP fun report => report.outcome = .ok .created
  inFlight_eq : (RunSummary.of outcomes).inFlight =
    reports.countP fun report => report.outcome = .ok .inFlight
  errors_eq : (RunSummary.of outcomes).errors.toList = reports.filterMap Report.error?

/-- The values that are counted are those of the outcomes. -/
theorem count_values (outcomes : List (Except RunnerError RunOutcome)) (value : RunOutcome) :
    (ErrorList.values outcomes).count value = outcomes.countP fun outcome => outcome = .ok value := by
  induction outcomes with
  | nil => rfl
  | cons outcome rest ih =>
      rw [List.countP_cons, ← ih]
      cases outcome with
      | error => simp [ErrorList.values]
      | ok first => simp [ErrorList.values, List.count_cons]

/-- The turns of distinct pairs go as they would go alone. -/
theorem Turns.isolated {m : Moment} {subject : Subject} {tags : List String}
    {s s' : Repository.Status} {turns : List (Turn m subject)}
    (hturns : Turns m subject (pairs tags) s turns s') (hnodup : tags.Nodup) :
    Isolated m subject tags s (turns.flatMap Turn.exchanges) (turns.map Turn.outcome) s'
      (turns.map Turn.report) := by
  have hdistinct := nodup_pairs hnodup
  have hpairs : (turns.map Turn.report).map Report.pair = turns.map Turn.pair := List.map_map
  have hcount (value : RunOutcome) : (ErrorList.values (turns.map Turn.outcome)).count value =
      (turns.map Turn.report).countP fun report => report.outcome = .ok value := by
    rw [count_values, List.countP_map, List.countP_map]
    rfl
  constructor
  case pairs_eq => rw [hpairs, hturns.map_pair_eq]
  case once =>
    rw [hpairs]
    exact hdistinct.sublist hturns.map_pair_sublist
  case exchanges_eq =>
    rw [List.flatMap_map]
    rfl
  case alone =>
    intro report hmem
    obtain ⟨turn, hturn, rfl⟩ := List.mem_map.mp hmem
    obtain ⟨after, hends, hrecord⟩ := turn.alone (hturns.run?_before hdistinct hturn)
    exact ⟨after, hends, (hturns.run?_after hdistinct hturn).trans hrecord.symm⟩
  case others =>
    intro tag t hpair
    exact hturns.run?_of_notMem (hpairs ▸ hpair)
  case created_eq => exact hcount .created
  case inFlight_eq => exact hcount .inFlight
  case errors_eq =>
    rw [RunSummary.of, ErrorList.ofOutcomes, List.filterMap_map, List.filterMap_map]
    apply List.filterMap_congr
    intro turn _
    rw [Function.comp, Function.comp, Report.error?, Turn.report]
    cases turn.outcome <;> rfl

/-- With any world, which may change from answer to answer, scheduling ends, and the pairs of
distinct tags do not get in each other's way. -/
theorem scheduleAll_isolated {σ : Type} (m : Moment) (subject : Subject) {tags : List String}
    (hnodup : tags.Nodup) (s : Repository.Status) (world : World Call Call.Answer σ) (start : σ) :
    ∃ outcomes s' exchanges last reports,
      (scheduleAll m subject (pairs tags) s).hold world start = ((outcomes, s'), exchanges, last) ∧
        Isolated m subject tags s exchanges outcomes s' reports := by
  have hends := ends_hold world (scheduleAll m subject (pairs tags) s) start
  obtain ⟨turns, hturns, hexchanges, houtcomes⟩ := ends_scheduleAll_iff.mp hends
  refine ⟨_, _, _, _, turns.map Turn.report, rfl, ?_⟩
  rw [hexchanges, houtcomes]
  exact hturns.isolated hnodup

/-- A cluster that refuses the first run that is requested and creates all others. -/
def refusingOnce : World Call Call.Answer Bool
  | false, .createRun _ => (.error .createUnauthorized, true)
  | refused, call => (obligingAnswers call, refused)

/-- The run for the first release is refused, and still that for the second is created. -/
theorem scheduleAll_isolated_refusingOnce :
    ["v1", "v2"].Nodup ∧ ∃ outcomes s' exchanges last reports,
      (scheduleAll (.plain noon) (singleSubject none) (pairs ["v1", "v2"])
          (firstArriving false).before).hold refusingOnce false =
        ((outcomes, s'), exchanges, last) ∧
      Isolated (.plain noon) (singleSubject none) ["v1", "v2"] (firstArriving false).before
        exchanges outcomes s' reports ∧
      (RunSummary.of outcomes).created = 1 ∧ (RunSummary.of outcomes).errors.size = 1 := by
  have hnodup : ["v1", "v2"].Nodup := by decide
  obtain ⟨outcomes, s', exchanges, last, reports, hheld, hisolated⟩ :=
    scheduleAll_isolated (.plain noon) (singleSubject none) hnodup (firstArriving false).before
      refusingOnce false
  refine ⟨hnodup, outcomes, s', exchanges, last, reports, hheld, hisolated, ?_⟩
  have houtcomes : outcomes = [.error .createUnauthorized, .ok .created] := by
    refine (congrArg (fun held => held.1.1) hheld).symm.trans ?_
    decide +kernel
  rw [houtcomes]
  decide

end ReleaseBuilds.Cycle
