import ReleaseBuilds.Proofs.Requeue
import ReleaseBuilds.Proofs.Round

/-!
# Waiting for a quota

How long a repository rests after GitHub said that a quota is exhausted. Only the first quota that
is reported counts, and of the time until it starts anew only the whole seconds; so a later reset,
or a part of a second, can be cut short.
-/

namespace ReleaseBuilds

namespace Controller

variable {c : Controller} {m : Moment}

theorem seconds_untilReset_le (quota : RateLimit) (now : Instant) :
    (quota.untilReset now).seconds ≤ 16544868105602 := by
  rw [RateLimit.untilReset]
  cases h : now.delayUntil? quota.reset with
  | none => exact Nat.zero_le _
  | some d => exact Instant.seconds_of_delayUntil? h

/-- The delay for a quota, in minutes; it is far from the longest one. -/
theorem nanos_quotaDelay (quota : RateLimit) {bound : Nat} (hpos : 0 < bound) (hle : bound ≤ 60) :
    (c.quotaDelay m quota bound).nanos =
      Jitter.minutes m.draws (c.policy.requeue m.now (quota.untilReset m.now)) bound * 60 *
        nanosPerSecond := by
  have hdraw : m.draws.below bound < bound := Nat.mod_lt _ hpos
  have hreset := seconds_untilReset_le quota m.now
  have hpolicy : (c.policy.requeue m.now (quota.untilReset m.now)).seconds ≤ _ :=
    c.policy.requeue_seconds_le
  have hbound : (if bound == 0 then Jitter.defaultMinutes else bound) = bound := by
    simp [Nat.pos_iff_ne_zero.mp hpos]
  rw [quotaDelay, Jitter.nanos_addMinutes, Jitter.minutes, hbound]
  rw [Nat.max_eq_right hreset] at hpolicy
  have hshort : ((c.policy.requeue m.now (quota.untilReset m.now)).seconds + 59) / 60 +
      m.draws.below bound ≤ 16544868105602 + 60 := by omega
  rw [Nat.min_eq_left]
  simp only [maxSeconds, UInt64.size]
  omega

/-- After no run could be created the delay is at least the one that every repository rests. -/
theorem leastDelay_le_creationDelay (attempts : Nat) :
    leastDelay ≤ c.creationDelay m attempts := by
  have hbackoff : 300 ≤ (Jitter.backoff attempts leastBackoff).seconds := by
    change 300 ≤ min (max _ (5 * 60)) maxSeconds * 1000000000 / 1000000000
    simp only [maxSeconds, UInt64.size]
    omega
  have hpolicy : (Jitter.backoff attempts leastBackoff).seconds ≤
      (c.policy.requeue m.now (Jitter.backoff attempts leastBackoff)).seconds + 3 :=
    c.policy.seconds_le_requeue
  have hleast : leastDelay.nanos = 60 * nanosPerSecond := rfl
  rw [Delay.le_def, hleast, creationDelay, Jitter.nanos_addMinutes, Jitter.minutes]
  simp only [nanosPerSecond, maxSeconds, UInt64.size]
  omega

theorem creationDelay_pos (attempts : Nat) : 0 < (c.creationDelay m attempts).nanos :=
  Nat.lt_of_lt_of_le (by decide) (Delay.le_def.mp (leastDelay_le_creationDelay attempts))

/-- Next to the creation delay the fallback is never chosen. -/
theorem maxOrFallback_creationDelay (d : Delay) (attempts : Nat) :
    d.maxOrFallback (c.creationDelay m attempts) = d.max (c.creationDelay m attempts) := by
  have hpos := creationDelay_pos (c := c) (m := m) attempts
  rw [Delay.maxOrFallback, if_neg (by simp; omega)]

end Controller

namespace Cycle

open Dialogue

section Account

variable {m : Moment} {subject : Subject}

/-- The quotas of which the failures of a cycle say that they are exhausted. -/
def Account.quotas (account : Account m subject) : List RateLimit :=
  account.failures.filterMap GithubError.quota?

/-- Up to how many minutes are added to the time until a quota starts anew. -/
def Account.quotaMinutes : Account m subject → Nat
  | .built .. => Controller.artifactsMinutes
  | _ => Controller.releasesMinutes

theorem Account.quotaMinutes_bounds (account : Account m subject) :
    0 < account.quotaMinutes ∧ account.quotaMinutes ≤ 60 := by
  cases account <;>
    simp [quotaMinutes, Controller.artifactsMinutes, Controller.releasesMinutes]

/-- Only a cycle in which no run could be created prolongs the delay for a quota. -/
theorem nanos_verdictDelay {c : Controller} (quotaDelay : Delay) (attempts : Nat)
    (observation : Observation) :
    (verdictDelay c m (some quotaDelay) attempts observation).nanos =
      max quotaDelay.nanos
        (if observation = .runsNotCreated then c.creationDelay m attempts else .zero).nanos := by
  by_cases hnone : observation = .runsNotCreated
  · subst hnone
    rw [if_pos rfl, verdictDelay, Option.getD_some, Controller.maxOrFallback_creationDelay,
      Delay.nanos_max]
  · rw [if_neg hnone]
    cases observation <;> first | exact absurd rfl hnone | exact (Nat.max_zero _).symm

end Account

namespace Round

variable {ns name : String} (round : Round ns name)

def quotas : List RateLimit := round.account.quotas

/-- The time until a quota starts anew, as the policy adjusts it. -/
def adjustedReset (quota : RateLimit) : Delay :=
  round.controller.policy.requeue round.now (quota.untilReset round.now)

/-- For how many minutes a round waits for a quota. -/
def quotaMinutes (quota : RateLimit) : Nat :=
  Jitter.minutes round.moment.draws (round.adjustedReset quota) round.account.quotaMinutes

/-- The backoff after no run could be created, and none if it did not come to that. -/
def backoff : Delay :=
  match round.account with
  | .built _ lookups turns =>
    let lacking := lackingOf round.repository.spec lookups
    if verdict lacking turns = .runsNotCreated then
      round.controller.creationDelay round.moment (mostAttempts round.status lacking)
    else .zero
  | _ => .zero

theorem nanos_quotaDelay_account (quota : RateLimit) :
    (round.controller.quotaDelay round.moment quota round.account.quotaMinutes).nanos =
      round.quotaMinutes quota * 60 * nanosPerSecond := by
  obtain ⟨hpos, hle⟩ := round.account.quotaMinutes_bounds
  exact Controller.nanos_quotaDelay quota hpos hle

/-- With exhausted quotas a round waits for the first of them, and for the backoff, whichever way
it ends. -/
theorem nanos_requeueAfter {first : RateLimit} (hfirst : round.quotas.head? = some first) :
    round.requeueAfter.nanos =
      max (max (round.quotaMinutes first * 60 * nanosPerSecond) round.backoff.nanos)
        Controller.leastDelay.nanos := by
  rw [← nanos_quotaDelay_account, requeueAfter, Delay.nanos_max]
  congr 1
  -- each course ends with a delay of its own
  obtain ⟨c, m, repository, account, opening, delay, status, saved, hcourse⟩ := round
  cases hcourse with
  | pipelinesUnavailable => cases hfirst
  | releasesNotFetched _ _ error =>
      cases hquota : error.quota? with
      | none => simp [quotas, Account.quotas, Account.failures, hquota] at hfirst
      | some quota =>
          simp only [quotas, Account.quotas, Account.failures, List.filterMap_cons, hquota,
            List.head?_cons, Option.some.injEq] at hfirst
          subst hfirst
          simp [releasesFailure, hquota, backoff, Account.quotaMinutes, Delay.zero]
  | @built _ _ _ _ s' releases lookups turns =>
      rw [quotas, Account.quotas, List.head?_filterMap] at hfirst
      have hdelay : lookupDelay c m (failuresOf lookups) =
          some (c.quotaDelay m first Controller.artifactsMinutes) := by
        rw [lookupDelay]
        exact congrArg _ hfirst
      simp only [hdelay, nanos_verdictDelay]
      rfl

/-- The first quota is waited for, except that the part of a second beyond whole minutes is cut
off if no minute is added. -/
theorem untilReset_first_le_requeueAfter {first : RateLimit}
    (hfirst : round.quotas.head? = some first) (hnow : round.now.inLeapSecond = false)
    (hwhole : (round.adjustedReset first).subsecond = 0 ∨
      (round.adjustedReset first).seconds % 60 ≠ 0 ∨
        0 < round.moment.draws.below round.account.quotaMinutes) :
    first.untilReset round.now ≤ round.requeueAfter := by
  have hadjusted : first.untilReset round.now ≤ round.adjustedReset first :=
    round.controller.policy.le_requeue hnow
  have hbound : (if round.account.quotaMinutes == 0 then Jitter.defaultMinutes
      else round.account.quotaMinutes) = round.account.quotaMinutes := by
    have hpos := round.account.quotaMinutes_bounds.1
    simp [Nat.pos_iff_ne_zero.mp hpos]
  have hminutes : (round.adjustedReset first).nanos ≤
      round.quotaMinutes first * 60 * nanosPerSecond :=
    Jitter.le_minutes_iff.mpr (by rw [hbound]; exact hwhole)
  have hrequeue := round.nanos_requeueAfter hfirst
  rw [Delay.le_def] at hadjusted ⊢
  omega

/-- The first quota is never cut short by a second or more. -/
theorem untilReset_first_lt_requeueAfter {first : RateLimit}
    (hfirst : round.quotas.head? = some first) (hnow : round.now.inLeapSecond = false) :
    (first.untilReset round.now).nanos < round.requeueAfter.nanos + nanosPerSecond := by
  have hadjusted : first.untilReset round.now ≤ round.adjustedReset first :=
    round.controller.policy.le_requeue hnow
  have hrequeue := round.nanos_requeueAfter hfirst
  rw [Delay.le_def] at hadjusted
  simp only [quotaMinutes, Jitter.minutes, Delay.seconds, nanosPerSecond] at hrequeue ⊢
  omega

/-- A round waits for all quotas that are reported exactly if none of them starts anew later than
in a minute, after the minutes that it waits for the first of them, and after its backoff. -/
theorem respects_quotas_iff :
    (∀ quota ∈ round.quotas, quota.untilReset round.now ≤ round.requeueAfter) ↔
      ∀ first, round.quotas.head? = some first → ∀ quota ∈ round.quotas,
        (quota.untilReset round.now).nanos ≤ 60 * nanosPerSecond ∨
          (quota.untilReset round.now).nanos ≤ round.quotaMinutes first * 60 * nanosPerSecond ∨
            quota.untilReset round.now ≤ round.backoff := by
  have hiff (first : RateLimit) (hfirst : round.quotas.head? = some first) (quota : RateLimit) :
      quota.untilReset round.now ≤ round.requeueAfter ↔
        (quota.untilReset round.now).nanos ≤ 60 * nanosPerSecond ∨
          (quota.untilReset round.now).nanos ≤ round.quotaMinutes first * 60 * nanosPerSecond ∨
            quota.untilReset round.now ≤ round.backoff := by
    have hleast : Controller.leastDelay.nanos = 60 * nanosPerSecond := rfl
    rw [Delay.le_def, Delay.le_def, round.nanos_requeueAfter hfirst, hleast]
    omega
  constructor
  · intro hrespects first hfirst quota hquota
    exact (hiff first hfirst quota).mp (hrespects quota hquota)
  · intro hcovered quota hquota
    cases hfirst : round.quotas.head? with
    | none =>
        rw [List.head?_eq_none_iff.mp hfirst] at hquota
        exact absurd hquota List.not_mem_nil
    | some first => exact (hiff first hfirst quota).mpr (hcovered first hfirst quota hquota)

end Round

/-- Half a second past noon. -/
def pastNoon : Instant :=
  { noon with nano := 500000000, nano_lt := by decide, leap := by decide }

/-- A quota that starts anew a minute and a second after noon. -/
def exhausted : RateLimit :=
  { limit := 60
    remaining := 0
    reset := { noon with second := 1717243261, inRange := by decide, leap := by decide } }

/-- A round in which the quota does not suffice to fetch the releases. -/
def limitedRound : Round "ci" "app" :=
  let error : GithubError := .rateLimited exhausted
  have hcleaning : Ends (cleanup (.plain pastNoon) (singleSubject none)
      (begin pastNoon (Repository.single none).known)) [] (begin pastNoon {}) := .done _
  { controller := {}
    moment := .plain pastNoon
    repository := .single none
    account := .releasesNotFetched error
    opening := [checked "ci" "build" (.ok ()),
      fetched (.plain pastNoon) (singleSubject none) (begin pastNoon {}) (.error error),
      told (singleSubject none).reference .releasesQuota]
    delay := Controller.quotaDelay {} (.plain pastNoon) exhausted Controller.releasesMinutes
    status := notFetched {} (.plain pastNoon) (begin pastNoon {}) error
    saved := .ok ()
    course := .releasesNotFetched
      (ends_pipelineErrors_iff.mpr ⟨[("build", .ok ())], rfl, rfl, rfl⟩) hcleaning error }

/-- A minute and half a second before the quota starts anew, the repository rests for a minute. -/
theorem not_respects_quotas_limitedRound :
    limitedRound.now.inLeapSecond = false ∧
      ¬∀ quota ∈ limitedRound.quotas,
        quota.untilReset limitedRound.now ≤ limitedRound.requeueAfter := by
  refine ⟨rfl, fun hrespects => ?_⟩
  have hquota : exhausted ∈ limitedRound.quotas := List.mem_cons_self
  have hshort : ¬exhausted.untilReset limitedRound.now ≤ limitedRound.requeueAfter := by
    decide +kernel
  exact hshort (hrespects exhausted hquota)

end Cycle

end ReleaseBuilds
