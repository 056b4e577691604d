import ReleaseBuilds.Proofs.Opening
import ReleaseBuilds.Proofs.Records

/-!
# Runs in flight

A round with a runner that answers every lookup of a name the same way. As long as there is a
record of a run that is in flight, no other run is requested for its release and kind. The cleanup
goes by the age of the run alone, so it drops the record of a run that was created long ago and
started just now; then another run is requested.
-/

namespace ReleaseBuilds.Cycle

open Dialogue

section Turns

variable {m : Moment} {subject : Subject} {s s' : Repository.Status} {tag : String}
  {t : ArtifactType} {exchanges : List Exchanged} {outcome : Except RunnerError RunOutcome}
  {record : Repository.RunRecord} {run : RunState}

/-- The turn of a pair with a run in flight requests nothing and leaves the status as it was. -/
theorem Attempt.eq_of_isInFlight (hattempt : Attempt m subject s tag t exchanges outcome s')
    (hrecord : s.run? tag t = some record)
    (hlook : ∀ answer, lookedUp subject.ns record.name answer ∈ exchanges → answer = .ok run)
    (hflight : isInFlight m.now record run = true) :
    s' = s ∧ ∀ request answer, (⟨.createRun request, answer⟩ : Exchanged) ∉ exchanges := by
  have hunsettled {looked others : List Exchanged}
      (hsettled : Settled m.now subject.ns (s.run? tag t) looked)
      (hexchanges : exchanges = looked ++ others) : False := by
    rw [hrecord] at hsettled
    subst hexchanges
    cases hsettled with
    | failed _ error => cases hlook _ List.mem_cons_self
    | ended _ answered hover =>
        obtain rfl : answered = run := Except.ok.inj (hlook _ List.mem_cons_self)
        rw [hflight] at hover
        cases hover
  cases hattempt with
  | notConfigured => exact ⟨rfl, by simp⟩
  | inFlight => exact ⟨rfl, by simp [lookedUp]⟩
  | failed _ hsettled => exact absurd rfl (hunsettled hsettled)
  | created _ hsettled => exact absurd rfl (hunsettled hsettled)

/-- The record of a run in flight lasts through all turns. -/
theorem Turns.run?_of_isInFlight {pairs : List (String × ArtifactType)}
    {turns : List (Turn m subject)} (hturns : Turns m subject pairs s turns s')
    (hrecord : s.run? tag t = some record)
    (hlook : ∀ turn ∈ turns, ∀ answer,
      lookedUp subject.ns record.name answer ∈ turn.exchanges → answer = .ok run)
    (hflight : isInFlight m.now record run = true) :
    ∀ turn ∈ turns, turn.before.run? tag t = some record := by
  refine (hturns.invariant (P := fun s => s.run? tag t = some record) hrecord ?_).2
  intro turn hturn hbefore
  by_cases hpair : turn.pair = (tag, t)
  · obtain ⟨rfl, rfl⟩ := Prod.mk.inj hpair
    rw [(turn.attempt.eq_of_isInFlight hbefore (hlook turn hturn) hflight).1]
    exact hbefore
  · rw [turn.attempt.run?_of_ne hpair]
    exact hbefore

/-- The turn of a pair without a record requests a run if a pipeline is named for its kind. -/
theorem Attempt.requests_of_no_record (hattempt : Attempt m subject s tag t exchanges outcome s')
    (hrecord : s.run? tag t = none)
    (hbuild : (RunRequest.build? subject.spec subject.ns tag t).isSome = true) :
    ∃ request answer, (⟨.createRun request, answer⟩ : Exchanged) ∈ exchanges := by
  cases hattempt with
  | notConfigured hnone => simp [hnone] at hbuild
  | inFlight _ hsome => simp [hrecord] at hsome
  | failed => exact ⟨_, _, List.mem_append_right _ List.mem_cons_self⟩
  | created => exact ⟨_, _, List.mem_append_right _ List.mem_cons_self⟩

end Turns

section Round

variable {ns name : String} (round : Round ns name)

/-- A pair with a run in flight is given another one in a round exactly if the run counts as expired
by its age, and the pair takes a turn and has a pipeline. -/
theorem Round.requests_iff_isExpired {look : String → Except RunnerError RunState}
    (hlook : ∀ run answer, lookedUp ns run answer ∈ round.exchanges → answer = look run)
    {tag : String} {t : ArtifactType} {record : Repository.RunRecord} {run : RunState}
    (hrecord : round.repository.known.run? tag t = some record)
    (hrun : look record.name = .ok run) (hflight : isInFlight round.now record run = true) :
    (∃ turn ∈ round.turns, turn.pair = (tag, t) ∧ turn.Requests) ↔
      isExpired round.now run = true ∧ (∃ turn ∈ round.turns, turn.pair = (tag, t)) ∧
        (RunRequest.build? round.repository.spec ns tag t).isSome = true := by
  obtain ⟨first, last, hrecords⟩ := round.exists_records
  obtain ⟨pairs, hturns⟩ := hrecords.turns
  have hanswer {answer : Except RunnerError RunState}
      (hmem : lookedUp ns record.name answer ∈ round.exchanges) : answer = .ok run :=
    (hlook _ _ hmem).trans hrun
  constructor
  · rintro ⟨turn, hturn, hpair, request, answer, hrequest⟩
    have hbuild := turn.attempt.build?_of_mem hrequest
    obtain ⟨rfl, rfl⟩ := Prod.mk.inj hpair
    refine ⟨?_, ⟨turn, hturn, rfl⟩, Option.isSome_of_eq_some hbuild⟩
    rcases hrecords.kept_or_stale turn.tag turn.type with
      hkept | ⟨-, other, stale, hother, hstale, hmem⟩
    · -- the record lasts through all turns, so this one cannot request a run
      have hbefore := hturns.run?_of_isInFlight (hkept.trans hrecord)
        (fun _ hother _ hmem => hanswer (round.mem_exchanges_of_mem_turn hother hmem)) hflight
      have hunchanged := turn.attempt.eq_of_isInFlight (hbefore turn hturn)
        (fun _ hmem => hanswer (round.mem_exchanges_of_mem_turn hturn hmem)) hflight
      exact absurd hrequest (hunchanged.2 request answer)
    · obtain rfl : record = other := Option.some.inj (hrecord.symm.trans hother)
      rw [hanswer (round.mem_exchanges_of_mem_opening hmem)] at hstale
      exact hstale
  · rintro ⟨hexpired, hexists, hbuild⟩
    have hsome : round.turns ≠ [] := by
      obtain ⟨turn, hturn, -⟩ := hexists
      exact List.ne_nil_of_mem hturn
    obtain ⟨answer, hmem, hdropped⟩ := hrecords.stale_dropped hsome tag t record hrecord
    rw [hanswer (round.mem_exchanges_of_mem_opening hmem)] at hdropped
    obtain ⟨turn, hturn, hpair, hbefore⟩ := hturns.exists_first hexists
    obtain ⟨rfl, rfl⟩ := Prod.mk.inj hpair
    have hnone := hbefore.trans (hdropped hexpired)
    exact ⟨turn, hturn, rfl, turn.attempt.requests_of_no_record hnone hbuild⟩

end Round

/-! ## Two rounds -/

/-- The noon fifteen days before. -/
def earlierNoon : Instant :=
  { Instant.epoch with second := 1715947200, inRange := by decide, leap := by decide }

/-- A status that holds nothing but the record of a first run for the assets of the release `v1`. -/
def recordedOnce (timestamp : Instant) : Repository.Status :=
  ({} : Repository.Status).recordRun "v1" .assets "build-1" timestamp

/-- A run that was created at noon and has not started. -/
def pendingRun : RunState := { name := "build-1", createdAt := some noon }

theorem ends_cleanup_pendingRun :
    Ends (cleanup (.plain halfPastTwelve) (singleSubject (some (recordedOnce noon)))
        (begin halfPastTwelve (recordedOnce noon)))
      [lookedUp "ci" "build-1" (.ok pendingRun)] (begin halfPastTwelve (recordedOnce noon)) :=
  ends_cleanup_iff.mpr ⟨[(⟨"v1", .assets, firstRecord noon⟩, .ok pendingRun)], rfl, rfl, rfl⟩

/-- A round in which the only run is pending. -/
def pendingRound : Round "ci" "app" :=
  .single halfPastTwelve (some (recordedOnce noon)) _ ends_cleanup_pendingRun
    (.inFlight rfl (rfl : _ = some (firstRecord noon))
      (by decide +kernel : isInFlight halfPastTwelve (firstRecord noon) pendingRun = true))

/-- A pending run is not given another one. -/
theorem not_requests_pendingRun :
    (∀ run answer, lookedUp "ci" run answer ∈ pendingRound.exchanges → answer = .ok pendingRun) ∧
      pendingRound.repository.known.run? "v1" .assets = some (firstRecord noon) ∧
        isInFlight pendingRound.now (firstRecord noon) pendingRun = true ∧
          ¬∃ turn ∈ pendingRound.turns, turn.pair = ("v1", .assets) ∧ turn.Requests := by
  have hlook (run : String) (answer : Except RunnerError RunState)
      (hmem : lookedUp "ci" run answer ∈ pendingRound.exchanges) : answer = .ok pendingRun := by
    change lookedUp "ci" run answer ∈ [_, _, _, _, _, _, _] at hmem
    simp only [lookedUp, checked, fetched, List.mem_cons, Exchange.mk.injEq, reduceCtorEq,
      false_and, Call.findRun.injEq, heq_eq_eq, List.not_mem_nil, or_false, false_or] at hmem
    exact hmem.elim And.right And.right
  have hflight : isInFlight pendingRound.now (firstRecord noon) pendingRun = true := by
    decide +kernel
  have hyoung : isExpired pendingRound.now pendingRun = false := by decide +kernel
  refine ⟨hlook, rfl, hflight, fun hrequests => ?_⟩
  have hexpired := (pendingRound.requests_iff_isExpired hlook rfl rfl hflight).mp hrequests
  rw [hyoung] at hexpired
  cases hexpired.1

/-- A run that was created a fortnight before it started, at noon. -/
def lateRun : RunState :=
  { name := "build-1", createdAt := some earlierNoon, startTime := some noon }

theorem ends_cleanup_lateRun :
    Ends (cleanup (.plain halfPastTwelve) (singleSubject (some (recordedOnce earlierNoon)))
        (begin halfPastTwelve (recordedOnce earlierNoon)))
      [lookedUp "ci" "build-1" (.ok lateRun)]
      ((begin halfPastTwelve (recordedOnce earlierNoon)).dropRuns
        [⟨"v1", .assets, firstRecord earlierNoon⟩]) :=
  ends_cleanup_iff.mpr ⟨[(⟨"v1", .assets, firstRecord earlierNoon⟩, .ok lateRun)], rfl, rfl, rfl⟩

/-- A round in which the only run started half an hour ago. -/
def lateRound : Round "ci" "app" :=
  .single halfPastTwelve (some (recordedOnce earlierNoon)) _ ends_cleanup_lateRun
    (.created rfl .unrecorded { name := "build-2" })

/-- A run that started half an hour ago is given another one if it was created long before. -/
theorem requests_lateRun :
    (∀ run answer, lookedUp "ci" run answer ∈ lateRound.exchanges → answer = .ok lateRun) ∧
      lateRound.repository.known.run? "v1" .assets = some (firstRecord earlierNoon) ∧
        isInFlight lateRound.now (firstRecord earlierNoon) lateRun = true ∧
          ∃ turn ∈ lateRound.turns, turn.pair = ("v1", .assets) ∧ turn.Requests := by
  refine ⟨fun run answer hmem => ?_, rfl, by decide +kernel, ?_⟩
  · change lookedUp "ci" run answer ∈ [_, _, _, _, _, _, _, _] at hmem
    simp only [lookedUp, checked, fetched, told, List.mem_cons, Exchange.mk.injEq, reduceCtorEq,
      false_and, Call.findRun.injEq, heq_eq_eq, List.not_mem_nil, or_false, false_or] at hmem
    exact hmem.2
  · exact ⟨_, List.mem_cons_self, rfl, _, _, List.mem_cons_self⟩

end ReleaseBuilds.Cycle
