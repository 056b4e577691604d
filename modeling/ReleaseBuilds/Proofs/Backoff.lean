import Mathlib.Order.Monotone.Defs
import Mathlib.Order.Nat
import ReleaseBuilds.Proofs.Landing
import ReleaseBuilds.Proofs.Outcomes
import ReleaseBuilds.Proofs.Rounding

/-!
# Backoff after failed creations

When none of the runs that a round requested could be created, the repository rests the longer the
more runs were created before: two minutes, doubled for each of them, but five minutes at least. All
that is done to this delay on the way, by the policy, by the rounding to minutes and by the choice
between two delays, saturates at the longest delay in whole seconds and never goes below it.
-/

namespace ReleaseBuilds

/-- The backoff in seconds, computed in exact integers and cut off at the longest delay. -/
def backoffSeconds (attempts : Nat) : Nat := min maxSeconds (max 300 (120 * Nat.pow 2 attempts))

theorem backoffSeconds_mono : Monotone backoffSeconds := by
  intro fewer more hle
  have hpow : Nat.pow 2 fewer ≤ Nat.pow 2 more := Nat.pow_le_pow_right (by decide) hle
  simp only [backoffSeconds]
  omega

theorem backoffSeconds_le (attempts : Nat) : backoffSeconds attempts ≤ maxSeconds :=
  Nat.min_le_left ..

/-- From 64 attempts on the backoff is the longest delay. -/
theorem backoffSeconds_eq_maxSeconds {attempts : Nat} (h : 64 ≤ attempts) :
    backoffSeconds attempts = maxSeconds := by
  have hpow : Nat.pow 2 64 ≤ Nat.pow 2 attempts := Nat.pow_le_pow_right (by decide) h
  have hsize : Nat.pow 2 64 = UInt64.size := rfl
  rw [hsize] at hpow
  simp only [backoffSeconds, maxSeconds, UInt64.size] at hpow ⊢
  omega

namespace Delay

theorem nanos_ofSeconds (n : Nat) : (ofSeconds n).nanos = min n maxSeconds * nanosPerSecond := rfl

theorem ofSeconds_eq_longest {n : Nat} (h : maxSeconds ≤ n) :
    ofSeconds n = ofSeconds maxSeconds := by
  apply ext_nanos
  rw [nanos_ofSeconds, nanos_ofSeconds, Nat.min_eq_right h, Nat.min_self]

end Delay

namespace Jitter

/-- The doubling is only carried out as long as the result fits, which makes no difference. -/
theorem backoff_eq (attempts : Nat) :
    backoff attempts Controller.leastBackoff = .ofSeconds (backoffSeconds attempts) := by
  have hminutes : Controller.leastBackoff * 60 = 300 := rfl
  apply Delay.ext_nanos
  rw [backoff, hminutes, Delay.nanos_ofSeconds, Delay.nanos_ofSeconds]
  congr 1
  split
  next =>
    have hbase : backoffBase = 120 := rfl
    rw [backoffSeconds, hbase]
    change min (max _ 300) _ = _
    omega
  next hmany =>
    rw [backoffSeconds_eq_maxSeconds (Nat.le_of_not_lt hmany)]
    change min (max maxSeconds 300) maxSeconds = _
    omega

variable {draws : Draws} {d : Delay} {n bound : Nat}

/-- Rounding to minutes keeps every whole number of seconds. -/
theorem ofSeconds_le_addMinutes (h : .ofSeconds n ≤ d) :
    .ofSeconds n ≤ addMinutes draws d bound := by
  rw [Delay.le_def, Delay.nanos_ofSeconds] at h ⊢
  rw [nanos_addMinutes, minutes]
  generalize draws.below _ = added
  simp only [Delay.seconds, maxSeconds, UInt64.size, nanosPerSecond] at h ⊢
  omega

/-- Whole seconds are rounded up to whole minutes before minutes are added. -/
theorem addMinutes_ofSeconds (h : n ≤ maxSeconds) :
    addMinutes draws (.ofSeconds n) bound =
      .ofSeconds (((n + 59) / 60 + addedMinutes draws bound) * 60) := by
  have hseconds : (Delay.ofSeconds n).seconds = n := by
    rw [Delay.seconds, Delay.nanos_ofSeconds, Nat.min_eq_left h]
    exact Nat.mul_div_cancel _ (by decide)
  apply Delay.ext_nanos
  rw [nanos_addMinutes, minutes_eq, hseconds, Delay.nanos_ofSeconds]

end Jitter

namespace Controller

variable {c : Controller} {m : Moment}

/-- The creation delay is no shorter than the backoff unless a window meets a leap second. -/
theorem backoff_le_creationDelay (hleap : c.policy = .plain ∨ m.now.inLeapSecond = false)
    (attempts : Nat) : .ofSeconds (backoffSeconds attempts) ≤ c.creationDelay m attempts := by
  rw [creationDelay, Jitter.backoff_eq]
  apply Jitter.ofSeconds_le_addMinutes
  rcases hleap with hplain | hnow
  · rw [hplain]
    exact Nat.le_refl _
  · exact c.policy.le_requeue hnow

theorem creationDelay_of_plain (hplain : c.policy = .plain) (attempts : Nat) :
    c.creationDelay m attempts =
      .ofSeconds (((backoffSeconds attempts + 59) / 60 +
        Jitter.addedMinutes m.draws creationMinutes) * 60) := by
  rw [creationDelay, Jitter.backoff_eq, hplain]
  exact Jitter.addMinutes_ofSeconds (backoffSeconds_le attempts)

end Controller

namespace Cycle

open Dialogue

/-- A cycle in which no run could be created decides between the delay for the first exhausted quota
and the creation delay. -/
theorem Course.delay_eq {c : Controller} {m : Moment} {subject : Subject}
    {s s' : Repository.Status} {account : Account m subject} {opening : List Exchanged}
    {delay : Delay} (hcourse : Course c m subject s account opening delay s')
    (hfailed : account.conclusion = .runsNotCreated) :
    delay = ((lookupDelay c m account.failures).getD .zero).maxOrFallback
      (c.creationDelay m (mostAttempts s' (lackingOf subject.spec account.lookups))) := by
  cases hcourse with
  | pipelinesUnavailable => cases hfailed
  | releasesNotFetched => cases hfailed
  | @built _ _ _ _ _ _ lookups turns =>
      change verdict (lackingOf subject.spec lookups) turns = .runsNotCreated at hfailed
      rw [hfailed]
      rfl

namespace Round

variable {ns name : String} (round : Round ns name)

/-- The delay for the first quota of which a lookup says that it is exhausted. -/
def forQuota : Option Delay :=
  lookupDelay round.controller round.moment round.account.failures

/-- The delay that the policy and the draws make of the backoff. -/
def creationDelay : Delay := round.controller.creationDelay round.moment round.attempts

variable {round}

theorem forQuota_eq_none (hquotas : round.quotas = []) : round.forQuota = none := by
  rw [forQuota, lookupDelay, Option.map_eq_none_iff, ← List.head?_filterMap]
  exact List.head?_eq_none_iff.mpr hquotas

/-- After failed creations the longer of two delays counts. One of them is never zero, so no third
delay stands in for them, and it is so long that the choice need not be raised. -/
theorem requeueAfter_of_runsNotCreated (hfailed : round.account.conclusion = .runsNotCreated) :
    round.requeueAfter = (round.forQuota.getD .zero).max round.creationDelay := by
  have hleast : Controller.leastDelay ≤ round.creationDelay :=
    Controller.leastDelay_le_creationDelay round.attempts
  have hchoice : round.delay = (round.forQuota.getD .zero).max round.creationDelay :=
    (round.course.delay_eq hfailed).trans (Controller.maxOrFallback_creationDelay ..)
  apply Delay.ext_nanos
  rw [requeueAfter, hchoice, Delay.nanos_max, Delay.nanos_max]
  apply Nat.max_eq_left
  exact Nat.le_trans hleast (Nat.le_max_right ..)

/-- If no run could be created, the repository rests for the backoff at least, unless a window meets
a leap second. Without a window and an exhausted quota it rests for the backoff in whole minutes and
fewer than 120 minutes more. It always rests for the longer of the two delays between which it is
chosen, and never for the fallback. -/
theorem backsOff
    (hfailed : ∃ condition ∈ round.status.conditions,
      condition.kind = "PipelineRunsCreationFailed") :
    (round.controller.policy = .plain ∨ round.now.inLeapSecond = false →
        .ofSeconds (backoffSeconds round.attempts) ≤ round.requeueAfter) ∧
      (round.controller.policy = .plain → round.quotas = [] → ∃ added < 120,
        round.requeueAfter =
          .ofSeconds (((backoffSeconds round.attempts + 59) / 60 + added) * 60)) ∧
      Monotone backoffSeconds ∧
      round.requeueAfter = (round.forQuota.getD .zero).max round.creationDelay := by
  have hconclusion : round.account.conclusion = .runsNotCreated := by
    have hkind := (exists_condition_iff (o := .runsNotCreated) rfl).mp hfailed
    cases hconclusion : round.account.conclusion with
    | runsNotCreated => rfl
    | _ => rw [hconclusion] at hkind; simp [Observation.kind] at hkind
  have hrests := requeueAfter_of_runsNotCreated hconclusion
  refine ⟨fun hleap => ?_, fun hplain hquotas => ?_, backoffSeconds_mono, hrests⟩
  · have hbackoff := Controller.backoff_le_creationDelay hleap round.attempts
    rw [hrests, Delay.le_def, Delay.nanos_max]
    exact Nat.le_trans hbackoff (Nat.le_max_right ..)
  · have hadded := Jitter.addedMinutes_lt round.moment.draws Controller.creationMinutes
    refine ⟨_, hadded, ?_⟩
    rw [hrests, forQuota_eq_none hquotas, ← Controller.creationDelay_of_plain hplain]
    apply Delay.ext_nanos
    rw [Delay.nanos_max]
    exact Nat.zero_max _

end Round

/-! ## A round after very many runs -/

/-- A record of as many runs as can be counted. -/
def wornImage : Repository.RunRecord := ⟨"image-1", noon, ⟨UInt32.size - 1, by decide⟩⟩

/-- A release without assets for which so many images were built. -/
def wornStatus : Repository.Status :=
  { releases := TextMap.empty.insert "v1"
      { missing := { assets := some true }, runs := some { container := some wornImage } } }

theorem ends_cleanup_worn :
    Ends (cleanup (.plain halfPastTwelve) (singleSubject (some wornStatus))
        (begin halfPastTwelve (Repository.single (some wornStatus)).known))
      [lookedUp "ci" "image-1" (.ok { name := "image-1" })] (begin halfPastTwelve wornStatus) := by
  refine ends_cleanup_iff.mpr ⟨[(⟨"v1", .container, wornImage⟩, .ok { name := "image-1" })],
    rfl, rfl, ?_⟩
  decide +kernel

/-- A round in which the run for the assets of this release is refused. -/
def wornRound : Round "ci" "app" :=
  .single halfPastTwelve (some wornStatus) _ ends_cleanup_worn
    (.failed rfl .unrecorded .createUnauthorized)

/-- After so many runs the repository rests for the longest delay in whole seconds. -/
theorem backsOff_wornRound :
    (∃ condition ∈ wornRound.status.conditions,
        condition.kind = "PipelineRunsCreationFailed") ∧
      wornRound.attempts = UInt32.size - 1 ∧ wornRound.requeueAfter = .ofSeconds maxSeconds := by
  have hfailed : ∃ condition ∈ wornRound.status.conditions,
      condition.kind = "PipelineRunsCreationFailed" :=
    (Round.exists_condition_iff (o := .runsNotCreated) rfl).mpr rfl
  have hattempts : wornRound.attempts = UInt32.size - 1 := by decide +kernel
  obtain ⟨-, hrests, -⟩ := wornRound.backsOff hfailed
  obtain ⟨added, -, hrests⟩ := hrests rfl rfl
  refine ⟨hfailed, hattempts, ?_⟩
  have hbackoff : backoffSeconds wornRound.attempts = maxSeconds :=
    backoffSeconds_eq_maxSeconds (by rw [hattempts]; decide)
  rw [hbackoff] at hrests
  refine hrests.trans (Delay.ofSeconds_eq_longest ?_)
  omega

end Cycle

end ReleaseBuilds
