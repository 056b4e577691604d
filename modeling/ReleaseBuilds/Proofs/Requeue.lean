import ReleaseBuilds.Cycle.Setting
import ReleaseBuilds.Proofs.Instants

/-!
# Delays before the next cycle

What the adjustment of a policy and the rounding to whole minutes do to a delay. A policy never
shortens a delay, leap seconds apart. The rounding goes by the whole seconds of a delay: what lies
beyond them is cut off first, and only made up for by the minute or the draw that is added.
-/

namespace ReleaseBuilds

namespace Instant

variable {t moved now : Instant} {nanos : Nat}

theorem tdiv_nanosPerSecond (nanos : Nat) :
    (nanos : Int).tdiv nanosPerSecond = (nanos / nanosPerSecond : Nat) := rfl

theorem tmod_nanosPerSecond (nanos : Nat) :
    (nanos : Int).tmod nanosPerSecond = (nanos % nanosPerSecond : Nat) := rfl

/-- Away from leap seconds a reading is moved by exactly the given time. -/
theorem shift?_of_not_inLeapSecond (hleap : t.inLeapSecond = false)
    (h : t.shift? nanos = some moved) :
    moved.nano < nanosPerSecond ∧ moved.second * nanosPerSecond + moved.nano =
      t.second * nanosPerSecond + t.nano + nanos := by
  have hbelow := of_decide_eq_false hleap
  simp only [shift?, hleap, tdiv_nanosPerSecond, tmod_nanosPerSecond, Bool.false_and,
    Bool.false_eq_true, ↓reduceIte] at h
  obtain ⟨hsecond, hnano⟩ := of?_eq_some h
  rw [hsecond, hnano]
  simp only [nanosPerSecond] at hbelow ⊢
  omega

/-- A reading that is moved forward gets at least as far as the whole seconds say. -/
theorem second_le_of_shift? (h : t.shift? nanos = some moved) :
    t.second + (nanos / nanosPerSecond : Nat) ≤ moved.second := by
  simp only [shift?, tdiv_nanosPerSecond, tmod_nanosPerSecond] at h
  split at h
  next hstays =>
    have hzero : ((nanos / nanosPerSecond : Nat) : Int) = 0 := by
      simp only [Bool.and_eq_true, beq_iff_eq] at hstays
      exact hstays.1.2
    rw [(of?_eq_some h).1, hzero]
    omega
  next =>
    rw [(of?_eq_some h).1]
    cases hleap : t.inLeapSecond with
    | false =>
        simp only [Bool.false_and, Bool.false_eq_true, ↓reduceIte, nanosPerSecond]
        omega
    | true =>
        have hnano := of_decide_eq_true hleap
        simp only [Bool.true_and, ↓reduceIte, nanosPerSecond] at hnano ⊢
        split <;> omega

theorem nanos_of_delayUntil? {d : Delay} (h : now.delayUntil? t = some d) :
    (d.nanos : Int) = now.nanosBetween t := by
  simp only [delayUntil?, Delay.ofNanos?] at h
  split at h
  · cases h
  · split at h
    · cases h
      simp only
      omega
    · cases h

/-- No time between two readings is longer than the years that a clock can show. -/
theorem seconds_of_delayUntil? {d : Delay} (h : now.delayUntil? t = some d) :
    d.seconds ≤ 16544868105602 := by
  have hnanos := nanos_of_delayUntil? h
  have hbounds := (nanosBetween_bounds now t).2
  have hnow := now.inRange
  have ht := t.inRange
  have hnano := t.nano_lt
  simp only [Delay.seconds, first, last, nanosPerSecond] at *
  omega

end Instant

namespace Window

open Instant

variable {w : Window} {now target opening : Instant} {d : Delay}

/-- The next opening comes after the reading from which it is found, on the full hour. -/
theorem second_lt_nextOpening (h : w.nextOpening? target = some opening) :
    target.second < opening.second ∧ opening.nano = 0 := by
  obtain ⟨hsecond, hnano⟩ := of?_eq_some h
  refine ⟨?_, hnano⟩
  rw [hsecond]
  by_cases hearly : target.hour < w.opens
  · rw [if_pos hearly]
    simp only [hour, secondOfDay, dayNumber] at hearly ⊢
    omega
  · rw [if_neg hearly, dayNumber]
    omega

/-- The next opening is in the hour in which the window opens. -/
theorem hour_nextOpening (h : w.nextOpening? target = some opening) : opening.hour = w.opens := by
  have hsecond := (of?_eq_some h).1
  have hopens := w.opens_lt_closes
  have hcloses := w.closes_le
  simp only [hour, secondOfDay]
  omega

/-- A window keeps a delay or moves it to the next opening after its end. -/
theorem requeue_cases (w : Window) (now : Instant) (d : Delay) :
    w.requeue now d = d ∨ ∃ target opening, now.shift? d.nanos = some target ∧
      w.contains target.hour = false ∧ w.nextOpening? target = some opening ∧
        now.delayUntil? opening = some (w.requeue now d) := by
  rw [requeue]
  split
  · exact .inl rfl
  · split
    next => exact .inl rfl
    next target htarget =>
      split
      · exact .inl rfl
      next houtside =>
        cases hopening : (w.nextOpening? target).bind now.delayUntil? with
        | none => exact .inl rfl
        | some moved =>
            obtain ⟨opening, hnext, hmoved⟩ := Option.bind_eq_some_iff.mp hopening
            exact .inr ⟨target, opening, htarget, Bool.eq_false_iff.mpr houtside, hnext, hmoved⟩

/-- A window never shortens a delay, unless the clock reads a leap second. -/
theorem le_requeue (hnow : now.inLeapSecond = false) : d ≤ w.requeue now d := by
  rcases w.requeue_cases now d with hkept | ⟨target, opening, htarget, -, hnext, hmoved⟩
  · rw [hkept]
    exact Nat.le_refl _
  · obtain ⟨hbelow, htarget⟩ := shift?_of_not_inLeapSecond hnow htarget
    obtain ⟨hlater, hnano⟩ := second_lt_nextOpening hnext
    have hnanos := nanos_of_delayUntil? hmoved
    -- the opening is on the full hour, so no leap second lies on either side of the difference
    rw [nanosBetween_of_not_inLeapSecond hnow (inLeapSecond_of_nano_eq_zero hnano), hnano] at hnanos
    rw [Delay.le_def]
    simp only [nanosPerSecond] at *
    omega

/-- Whatever the clock reads, a window takes less than three seconds off a delay. -/
theorem seconds_le_requeue : d.seconds ≤ (w.requeue now d).seconds + 3 := by
  rcases w.requeue_cases now d with hkept | ⟨target, opening, htarget, -, hnext, hmoved⟩
  · rw [hkept]
    exact Nat.le_add_right _ _
  · have hforward := second_le_of_shift? htarget
    obtain ⟨hlater, hnano⟩ := second_lt_nextOpening hnext
    have hnanos := nanos_of_delayUntil? hmoved
    have hbounds := (nanosBetween_bounds now opening).1
    have hnow := now.nano_lt
    simp only [Delay.seconds, nanosPerSecond] at *
    omega

/-- A window that moves a delay keeps it within the years that a clock can show. -/
theorem requeue_seconds_le : (w.requeue now d).seconds ≤ max d.seconds 16544868105602 := by
  rcases w.requeue_cases now d with hkept | ⟨_, _, _, _, _, hmoved⟩
  · rw [hkept]
    exact Nat.le_max_left ..
  · exact Nat.le_trans (seconds_of_delayUntil? hmoved) (Nat.le_max_right ..)

end Window

namespace Policy

variable {policy : Policy} {now : Instant} {d : Delay}

theorem le_requeue (hnow : now.inLeapSecond = false) : d ≤ policy.requeue now d := by
  cases policy with
  | plain => exact Nat.le_refl _
  | onHours w => exact w.le_requeue hnow

theorem seconds_le_requeue : d.seconds ≤ (policy.requeue now d).seconds + 3 := by
  cases policy with
  | plain => exact Nat.le_add_right _ _
  | onHours w => exact w.seconds_le_requeue

theorem requeue_seconds_le :
    (policy.requeue now d).seconds ≤ max d.seconds 16544868105602 := by
  cases policy with
  | plain => exact Nat.le_max_left ..
  | onHours w => exact w.requeue_seconds_le

end Policy

namespace Jitter

/-- The whole minutes that a delay is rounded up to, from its whole seconds, and those that are
added. -/
def minutes (draws : Draws) (d : Delay) (bound : Nat) : Nat :=
  (d.seconds + 59) / 60 + draws.below (if bound == 0 then defaultMinutes else bound)

theorem nanos_addMinutes (draws : Draws) (d : Delay) (bound : Nat) :
    (addMinutes draws d bound).nanos =
      min (minutes draws d bound * 60) maxSeconds * nanosPerSecond := by
  change min (min (minutes draws d bound) maxSeconds * 60) maxSeconds * 1000000000 = _
  simp only [nanosPerSecond, maxSeconds, UInt64.size]
  omega

/-- Rounding up to minutes shortens a delay exactly if nothing is added to its whole seconds and
there is something beyond them. -/
theorem le_minutes_iff {draws : Draws} {d : Delay} {bound : Nat} :
    d.nanos ≤ minutes draws d bound * 60 * nanosPerSecond ↔
      d.subsecond = 0 ∨ d.seconds % 60 ≠ 0 ∨
        0 < draws.below (if bound == 0 then defaultMinutes else bound) := by
  simp only [minutes, Delay.subsecond, Delay.seconds, nanosPerSecond]
  generalize draws.below _ = added
  omega

/-- Rounding to minutes takes less than a second off a delay, and what is added to it stays below
the bound. -/
theorem addMinutes_bounds (draws : Draws) (d : Delay) {bound : Nat} (hbound : 0 < bound) :
    d.nanos < (addMinutes draws d bound).nanos + nanosPerSecond ∧
      (addMinutes draws d bound).nanos < d.nanos + bound * 60 * nanosPerSecond := by
  have hadded : draws.below bound < bound := Nat.mod_lt _ hbound
  have hlongest := d.lt_limit
  have hnonzero : (bound == 0) = false := by simp; omega
  rw [nanos_addMinutes, minutes, hnonzero]
  simp only [Bool.false_eq_true, if_false, Delay.seconds, nanosPerSecond, maxSeconds,
    UInt64.size] at *
  generalize draws.below bound = added at *
  omega

end Jitter

end ReleaseBuilds
