import ReleaseBuilds.Proofs.Admission
import ReleaseBuilds.Proofs.Opening
import ReleaseBuilds.Proofs.Quota

/-!
# Where delays end

A window of hours moves every delay that it can follow into its hours. But a round spreads a delay,
or rounds it to minutes, after the window has moved it, and no round rests for less than a minute;
so a repository comes up within the window exactly if what is added to its delay, or taken off,
does not lead across an edge of the window.
-/

namespace ReleaseBuilds

/-- Nanoseconds in an hour. -/
def hourNanos : Nat := 3600 * nanosPerSecond

/-- Nanoseconds in a day. -/
def dayNanos : Nat := 24 * hourNanos

namespace Instant

variable {now t : Instant} {d : Delay}

/-- The time of the day, in nanoseconds since midnight, when a delay ends. -/
def timeAfter (now : Instant) (d : Delay) : Int :=
  (now.second * nanosPerSecond + now.nano + d.nanos) % dayNanos

/-- The hour of the day in which a delay ends. -/
def hourAfter (now : Instant) (d : Delay) : Nat := (now.timeAfter d / hourNanos).toNat

theorem timeAfter_bounds (now : Instant) (d : Delay) :
    0 ≤ now.timeAfter d ∧ now.timeAfter d < dayNanos := by
  simp only [timeAfter, dayNanos, hourNanos, nanosPerSecond]
  omega

/-- A delay ends in the hour that the clock shows when it was moved by the delay. -/
theorem hourAfter_of_shift? (hnow : now.inLeapSecond = false) (h : now.shift? d.nanos = some t) :
    now.hourAfter d = t.hour := by
  obtain ⟨hnano, hmoved⟩ := shift?_of_not_inLeapSecond hnow h
  simp only [hourAfter, timeAfter, hour, secondOfDay, dayNanos, hourNanos, nanosPerSecond] at *
  omega

end Instant

namespace Window

open Instant

variable {w : Window} {now : Instant} {d : Delay}

/-- A delay ends at this time of the day within the window. -/
theorem contains_hourAfter_iff :
    w.contains (now.hourAfter d) = true ↔
      w.opens * hourNanos ≤ now.timeAfter d ∧ now.timeAfter d < w.closes * hourNanos := by
  have hbounds := now.timeAfter_bounds d
  rw [contains, Bool.and_eq_true, decide_eq_true_iff, decide_eq_true_iff, hourAfter]
  simp only [dayNanos, hourNanos, nanosPerSecond] at *
  omega

/-- Every delay that a window can follow is moved into its hours. -/
theorem contains_requeue (hnow : now.inLeapSecond = false) (hfollows : w.Follows now d) :
    w.contains (now.hourAfter (w.requeue now d)) = true := by
  obtain ⟨target, htarget, hcontains⟩ := hfollows.admits_requeue hnow
  rw [hourAfter_of_shift? hnow htarget]
  exact hcontains

end Window

/-! ## From a proposal to a delay -/

/-- How a delay comes about: it is proposed, adjusted by the policy, and then spread. -/
structure Pacing where
  proposed : Delay
  spread : Delay → Delay

namespace Pacing

variable (c : Controller) (m : Moment)

/-- The regular delay. -/
def regular : Pacing := ⟨c.interval, fun d => Jitter.spreadShare m.draws d c.percent⟩

/-- The delay after the pipelines could not be found. -/
def pipelines : Pacing := ⟨c.interval, fun d => Jitter.addShare m.draws d c.percent⟩

/-- The delay for an exhausted quota. -/
def quota (quota : RateLimit) (minutes : Nat) : Pacing :=
  ⟨quota.untilReset m.now, fun d => Jitter.addMinutes m.draws d minutes⟩

/-- The delay after no run could be created. -/
def creation (attempts : Nat) : Pacing :=
  ⟨Jitter.backoff attempts Controller.leastBackoff,
    fun d => Jitter.addMinutes m.draws d Controller.creationMinutes⟩

/-- The proposal as the policy adjusts it. -/
def adjusted (p : Pacing) : Delay := c.policy.requeue m.now p.proposed

def delay (p : Pacing) : Delay := p.spread (p.adjusted c m)

/-- The one that leads to the longer delay. -/
def longer (p q : Pacing) : Pacing := if p.delay c m ≤ q.delay c m then q else p

theorem delay_longer (p q : Pacing) :
    (p.longer c m q).delay c m = (p.delay c m).max (q.delay c m) := by
  unfold longer Delay.max
  split <;> rfl

/-- The adjusted delay is rounded up to minutes, and fewer minutes than the bound are added. -/
def AddsMinutes (bound : Nat) (p : Pacing) : Prop :=
  p.spread = fun d => Jitter.addMinutes m.draws d bound

end Pacing

namespace Cycle

open Dialogue

section Account

variable {m : Moment} {subject : Subject}

/-- How the delay of a verdict comes about. After failed creations the longer of two delays
counts. -/
def verdictPacing (c : Controller) (m : Moment) (forQuota : Option Pacing) (attempts : Nat)
    (verdict : Observation) : Pacing :=
  if verdict = .runsNotCreated then
    forQuota.elim (.creation m attempts) (Pacing.longer c m · (.creation m attempts))
  else forQuota.getD (.regular c m)

theorem delay_verdictPacing (c : Controller) (m : Moment) (forQuota : Option Pacing)
    (attempts : Nat) (verdict : Observation) :
    (verdictPacing c m forQuota attempts verdict).delay c m =
      verdictDelay c m (forQuota.map (Pacing.delay c m)) attempts verdict := by
  by_cases hnone : verdict = .runsNotCreated
  · subst hnone
    rw [verdictPacing, if_pos rfl, verdictDelay, Controller.maxOrFallback_creationDelay]
    cases forQuota with
    | none =>
        rw [Option.map_none, Option.getD_none, Delay.max, if_pos (Delay.le_def.mpr (Nat.zero_le _))]
        rfl
    | some p => exact p.delay_longer c m _
  · rw [verdictPacing, if_neg hnone]
    have hdelay (quotaDelay : Option Delay) :
        verdictDelay c m quotaDelay attempts verdict = quotaDelay.getD (c.regularDelay m) := by
      cases verdict <;> first | exact absurd rfl hnone | rfl
    rw [hdelay]
    cases forQuota <;> rfl

/-- How the delay comes about with which a cycle ends, given how often runs were created for what is
lacking. -/
def Account.pacing (c : Controller) (attempts : Nat) : Account m subject → Pacing
  | .pipelinesUnavailable _ => .pipelines c m
  | .releasesNotFetched error =>
    (error.quota?.map (Pacing.quota m · Controller.releasesMinutes)).getD (.regular c m)
  | .built _ lookups turns =>
    verdictPacing c m (((failuresOf lookups).findSome? GithubError.quota?).map
        (Pacing.quota m · Controller.artifactsMinutes))
      attempts (verdict (lackingOf subject.spec lookups) turns)

/-- Shares of the delay are added or taken off on the regular paths; all others add minutes. -/
theorem Account.pacing_cases (c : Controller) (attempts : Nat) (account : Account m subject) :
    account.pacing c attempts = .pipelines c m ∨ account.pacing c attempts = .regular c m ∨
      ∃ bound, 1 < bound ∧ bound ≤ Controller.creationMinutes ∧
        (account.pacing c attempts).AddsMinutes m bound := by
  have hquota (quota : RateLimit) (minutes : Nat)
      (hminutes : 1 < minutes ∧ minutes ≤ Controller.creationMinutes) :
      ∃ bound, 1 < bound ∧ bound ≤ Controller.creationMinutes ∧
        (Pacing.quota m quota minutes).AddsMinutes m bound :=
    ⟨minutes, hminutes.1, hminutes.2, rfl⟩
  have hcreation : ∃ bound, 1 < bound ∧ bound ≤ Controller.creationMinutes ∧
      (Pacing.creation m attempts).AddsMinutes m bound :=
    ⟨Controller.creationMinutes, by decide, Nat.le_refl _, rfl⟩
  cases account with
  | pipelinesUnavailable => exact .inl rfl
  | releasesNotFetched error =>
      rw [pacing]
      cases error.quota? with
      | none => exact .inr (.inl rfl)
      | some quota =>
          rw [Option.map_some, Option.getD_some]
          exact .inr (.inr (hquota quota Controller.releasesMinutes (by decide)))
  | built _ lookups _ =>
      rw [pacing, verdictPacing]
      cases (failuresOf lookups).findSome? GithubError.quota? with
      | none =>
          rw [Option.map_none]
          split
          · exact .inr (.inr hcreation)
          · exact .inr (.inl rfl)
      | some quota =>
          have hartifacts := hquota quota Controller.artifactsMinutes (by decide)
          rw [Option.map_some, Option.elim_some, Option.getD_some, Pacing.longer]
          right
          right
          split
          · split
            · exact hcreation
            · exact hartifacts
          · exact hartifacts

end Account

namespace Round

variable {ns name : String} (round : Round ns name)

/-- How often runs were created for the releases that lack something, at the end of the round. -/
def attempts : Nat :=
  mostAttempts round.status (lackingOf round.repository.spec round.account.lookups)

def pacing : Pacing := round.account.pacing round.controller round.attempts

/-- The delay as the policy hands it on. -/
def adjusted : Delay := round.pacing.adjusted round.controller round.moment

/-- A round rests for the delay that its pacing comes to, but for a minute at least. -/
theorem requeueAfter_eq :
    round.requeueAfter = (round.pacing.spread round.adjusted).max Controller.leastDelay := by
  have hdelay : round.delay = round.pacing.delay round.controller round.moment := by
    obtain ⟨c, m, repository, account, opening, delay, status, saved, hcourse⟩ := round
    cases hcourse with
    | pipelinesUnavailable => rfl
    | releasesNotFetched _ _ error =>
        simp only [pacing, Account.pacing, releasesFailure]
        cases error.quota? <;> rfl
    | built =>
        simp only [pacing, Account.pacing, delay_verdictPacing, lookupDelay, Option.map_map]
        rfl
  rw [requeueAfter, hdelay]
  rfl

/-- By how much a round rests longer than the policy says, up to whole days. -/
def drift : Int := ((round.requeueAfter.nanos : Int) - round.adjusted.nanos) % dayNanos

/-- If the policy lets a repository come up within the window, it does so exactly if what is added
to the delay does not take it past the closing hour, or takes it to the next opening. -/
theorem contains_iff_drift {w : Window}
    (hcontains : w.contains (round.now.hourAfter round.adjusted) = true) :
    w.contains (round.now.hourAfter round.requeueAfter) = true ↔
      round.now.timeAfter round.adjusted + round.drift < w.closes * hourNanos ∨
        dayNanos + w.opens * hourNanos ≤ round.now.timeAfter round.adjusted + round.drift := by
  -- both delays start at the same reading, so their ends differ by the drift, modulo a day
  have htime : round.now.timeAfter round.requeueAfter =
      (round.now.timeAfter round.adjusted + round.drift) % dayNanos := by
    simp only [Instant.timeAfter, drift, dayNanos, hourNanos, nanosPerSecond]
    omega
  have hcloses := w.closes_le
  have hbefore := w.contains_hourAfter_iff.mp hcontains
  have hdrift : 0 ≤ round.drift ∧ round.drift < dayNanos := by
    simp only [drift, dayNanos, hourNanos, nanosPerSecond]
    omega
  rw [Window.contains_hourAfter_iff, htime]
  simp only [dayNanos, hourNanos, nanosPerSecond] at *
  omega

/-- There is room for the minutes below a bound, and for the second that the rounding may take off:
the delay of the policy ends that far from the edges of the window. -/
structure HasRoom (w : Window) (bound : Nat) : Prop where
  opened : w.opens * hourNanos + nanosPerSecond ≤ round.now.timeAfter round.adjusted
  closes : round.now.timeAfter round.adjusted + bound * 60 * nanosPerSecond ≤
    w.closes * hourNanos

/-- A round that adds minutes comes up within the window if there is room for them. -/
theorem contains_of_hasRoom {w : Window} {bound : Nat} (hbound : 1 < bound)
    (hadds : round.pacing.AddsMinutes round.moment bound) (hroom : round.HasRoom w bound) :
    w.contains (round.now.hourAfter round.requeueAfter) = true := by
  obtain ⟨hopened, hcloses⟩ := hroom
  obtain ⟨hleast, hmost⟩ :=
    Jitter.addMinutes_bounds round.moment.draws round.adjusted (Nat.lt_of_succ_lt hbound)
  have hrests : round.requeueAfter.nanos =
      max (Jitter.addMinutes round.moment.draws round.adjusted bound).nanos
        (60 * nanosPerSecond) := by
    rw [round.requeueAfter_eq, hadds, Delay.nanos_max]
    rfl
  have hwindow := w.closes_le
  have hbounds := round.now.timeAfter_bounds round.adjusted
  -- the minutes do not reach the next day, so the time of day grows by as much as the delay
  have htime : round.now.timeAfter round.requeueAfter =
      round.now.timeAfter round.adjusted + (round.requeueAfter.nanos - round.adjusted.nanos) := by
    simp only [Instant.timeAfter, dayNanos, hourNanos, nanosPerSecond] at *
    omega
  rw [Window.contains_hourAfter_iff, htime]
  simp only [hourNanos, nanosPerSecond] at *
  omega

/-- The policy moves every delay that its window can follow into the window. The repository comes up
within the window exactly if it does so before the window closes, for all that is added to the delay
afterwards, or else not before the window opens again. Where only minutes are added, it does so if
there is room for them. -/
theorem lands_iff {w : Window} (hpolicy : round.controller.policy = .onHours w)
    (hnow : round.now.inLeapSecond = false)
    (hfollows : w.Follows round.now round.pacing.proposed) :
    w.contains (round.now.hourAfter round.adjusted) = true ∧
      round.requeueAfter = (round.pacing.spread round.adjusted).max Controller.leastDelay ∧
      (w.contains (round.now.hourAfter round.requeueAfter) = true ↔
        round.now.timeAfter round.adjusted + round.drift < w.closes * hourNanos ∨
          dayNanos + w.opens * hourNanos ≤ round.now.timeAfter round.adjusted + round.drift) ∧
      (round.pacing = .pipelines round.controller round.moment ∨
        round.pacing = .regular round.controller round.moment ∨
        ∃ bound ≤ Controller.creationMinutes, round.pacing.AddsMinutes round.moment bound ∧
          (round.HasRoom w bound →
            w.contains (round.now.hourAfter round.requeueAfter) = true)) := by
  have hadjusted : round.adjusted = w.requeue round.now round.pacing.proposed := by
    rw [adjusted, Pacing.adjusted, hpolicy]
    rfl
  have hcontains : w.contains (round.now.hourAfter round.adjusted) = true := by
    rw [hadjusted]
    exact w.contains_requeue hnow hfollows
  refine ⟨hcontains, round.requeueAfter_eq, ?_, ?_⟩
  · exact round.contains_iff_drift hcontains
  · exact (round.account.pacing_cases round.controller round.attempts).imp_right fun hcases =>
      hcases.imp_right fun ⟨bound, hleast, hmost, hadds⟩ =>
        ⟨bound, hmost, hadds, round.contains_of_hasRoom hleast hadds⟩

end Round

/-! ## A round that leaves the window -/

def morning : Window := ⟨9, 13, by decide, by decide⟩

/-- A quota that starts anew half a minute before one o'clock. -/
def closingQuota : RateLimit :=
  { limit := 60
    remaining := 0
    reset := { noon with second := 1717246770, inRange := by decide, leap := by decide } }

/-- A round at noon in which the quota does not suffice to fetch the releases. -/
def closingRound : Round "ci" "app" :=
  let c : Controller := { policy := .onHours morning }
  let error : GithubError := .rateLimited closingQuota
  have hcleaning : Ends (cleanup (.plain noon) (singleSubject none)
      (begin noon (Repository.single none).known)) [] (begin noon {}) := .done _
  { controller := c
    moment := .plain noon
    repository := .single none
    account := .releasesNotFetched error
    opening := [checked "ci" "build" (.ok ()),
      fetched (.plain noon) (singleSubject none) (begin noon {}) (.error error),
      told (singleSubject none).reference .releasesQuota]
    delay := c.quotaDelay (.plain noon) closingQuota Controller.releasesMinutes
    status := notFetched c (.plain noon) (begin noon {}) error
    saved := .ok ()
    course := .releasesNotFetched
      (ends_pipelineErrors_iff.mpr ⟨[("build", .ok ())], rfl, rfl, rfl⟩) hcleaning error }

theorem follows_closingRound : morning.Follows closingRound.now closingRound.pacing.proposed where
  nanos_le := by decide +kernel
  exists_target := by
    refine ⟨closingQuota.reset, by decide +kernel, fun houtside => ?_⟩
    have hinside : morning.contains closingQuota.reset.hour = true := by decide +kernel
    cases hinside.symm.trans houtside

/-- The quota starts anew within the window, and the minutes to which the wait is rounded up take a
whole hour: the drift of half a minute is too much. -/
theorem lands_iff_closingRound :
    closingRound.drift = 30 * nanosPerSecond ∧
      morning.contains (closingRound.now.hourAfter closingRound.adjusted) = true := by
  have hlands := closingRound.lands_iff rfl rfl follows_closingRound
  exact ⟨by decide +kernel, hlands.1⟩

/-- At one o'clock, when the window closes, the repository comes up. -/
theorem not_lands_closingRound :
    closingRound.controller.policy = .onHours morning ∧ closingRound.now.inLeapSecond = false ∧
      morning.Follows closingRound.now closingRound.pacing.proposed ∧
        ¬morning.contains (closingRound.now.hourAfter closingRound.requeueAfter) = true := by
  refine ⟨rfl, rfl, follows_closingRound, ?_⟩
  decide +kernel

end Cycle

end ReleaseBuilds
