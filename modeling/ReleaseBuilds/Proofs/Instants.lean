import ReleaseBuilds.Cycle.Cleanup
import ReleaseBuilds.Cycle.Scheduling

/-!
# Comparing instants

Readings of the clock are in order of their seconds and nanoseconds. Away from leap seconds the time
between two of them is what their parts say; otherwise it is off by at most a second.
-/

namespace ReleaseBuilds

namespace Instant

variable {earlier middle later : Instant}

instance : LE Instant := ⟨fun earlier later => later.before earlier = false⟩

instance (earlier later : Instant) : Decidable (earlier ≤ later) :=
  inferInstanceAs (Decidable (later.before earlier = false))

theorem le_iff : earlier ≤ later ↔
    earlier.second < later.second ∨ earlier.second = later.second ∧ earlier.nano ≤ later.nano := by
  change later.before earlier = false ↔ _
  simp only [before, Bool.or_eq_false_iff, decide_eq_false_iff_not, Bool.and_eq_false_iff,
    beq_eq_false_iff_ne, ne_eq]
  omega

theorem le_refl (t : Instant) : t ≤ t := le_iff.mpr (.inr ⟨rfl, Nat.le_refl _⟩)

theorem le_trans (hfirst : earlier ≤ middle) (hsecond : middle ≤ later) : earlier ≤ later := by
  rw [le_iff] at hfirst hsecond ⊢
  omega

theorem second_le_of_le (h : earlier ≤ later) : earlier.second ≤ later.second := by
  rw [le_iff] at h
  omega

theorem of?_eq_some {second : Int} {nano : Nat} {t : Instant} (h : of? second nano = some t) :
    t.second = second ∧ t.nano = nano := by
  rw [of?] at h
  split at h
  next =>
    cases h
    exact ⟨rfl, rfl⟩
  next => cases h

/-- A full second is no part of a leap second. -/
theorem inLeapSecond_of_nano_eq_zero {t : Instant} (h : t.nano = 0) : t.inLeapSecond = false := by
  simp [inLeapSecond, h, nanosPerSecond]

/-! ## Time between two readings -/

theorem nanosBetween_of_not_inLeapSecond (hearlier : earlier.inLeapSecond = false)
    (hlater : later.inLeapSecond = false) :
    earlier.nanosBetween later =
      (later.second - earlier.second) * nanosPerSecond + (later.nano - earlier.nano) := by
  simp [nanosBetween, hearlier, hlater]

/-- A leap second changes the time between two readings by at most a second. -/
theorem nanosBetween_bounds (earlier later : Instant) :
    (later.second - earlier.second - 1) * nanosPerSecond + (later.nano - earlier.nano) ≤
        earlier.nanosBetween later ∧
      earlier.nanosBetween later ≤
        (later.second - earlier.second + 1) * nanosPerSecond + (later.nano - earlier.nano) := by
  simp only [nanosBetween, nanosPerSecond]
  split
  · omega
  · split <;> omega

/-- Of two readings the later one has less time to a third, if no leap second interferes. -/
theorem nanosBetween_anti (hearlier : earlier.inLeapSecond = false)
    (hmiddle : middle.inLeapSecond = false) (hlater : later.inLeapSecond = false)
    (hle : earlier ≤ middle) : middle.nanosBetween later ≤ earlier.nanosBetween later := by
  rw [nanosBetween_of_not_inLeapSecond hearlier hlater,
    nanosBetween_of_not_inLeapSecond hmiddle hlater]
  have hnano := of_decide_eq_false hearlier
  have hnano' := of_decide_eq_false hmiddle
  simp only [nanosPerSecond] at hnano hnano' ⊢
  rcases le_iff.mp hle with hsecond | ⟨hsecond, hle⟩ <;> omega

/-! ## Moving a reading -/

/-- A move by whole seconds leads no further than these, and one second more out of
a leap second. -/
theorem second_shift?_le {t moved : Instant} {seconds : Int}
    (h : t.shift? (seconds * nanosPerSecond) = some moved) :
    moved.second ≤ t.second + 1 + seconds := by
  have hdiv : (seconds * nanosPerSecond).tdiv nanosPerSecond = seconds :=
    Int.mul_tdiv_cancel _ (by decide)
  have hmod : (seconds * nanosPerSecond).tmod nanosPerSecond = 0 := Int.mul_tmod_left ..
  have hnano := t.nano_lt
  simp only [shift?, hdiv, hmod] at h
  split at h
  next hstays =>
    obtain rfl : seconds = 0 := by simp at hstays; omega
    rw [(of?_eq_some h).1]
    omega
  next =>
    rw [(of?_eq_some h).1]
    cases hleap : t.inLeapSecond with
    | false =>
        have hbelow := of_decide_eq_false hleap
        simp only [nanosPerSecond, Bool.false_and, Bool.false_eq_true, ↓reduceIte] at hbelow ⊢
        omega
    | true =>
        simp only [nanosPerSecond, Bool.true_and, ↓reduceIte] at hnano ⊢
        split <;> omega

end Instant

namespace Cycle

open Instant

/-- A run that counts as expired was created almost `expiryDays` days before. -/
theorem created_of_isExpired {now : Instant} {run : RunState} (h : isExpired now run = true) :
    ∃ created, run.createdAt = some created ∧
      created.second ≤ now.second + 1 - expiryDays * 86400 := by
  obtain ⟨created, hcreated, hbefore⟩ := (Option.any_eq_true _ _).mp h
  obtain ⟨expiry, hexpiry, hbefore⟩ := (Option.any_eq_true _ _).mp hbefore
  refine ⟨created, hcreated, ?_⟩
  have hmoved : expiry.second ≤ now.second + 1 + -(expiryDays * 86400 : Int) := by
    apply second_shift?_le
    rw [Int.neg_mul]
    exact hexpiry
  simp only [before, Bool.or_eq_true, decide_eq_true_eq, Bool.and_eq_true, beq_iff_eq] at hbefore
  omega

/-- Less than an hour after a reading, no run is expired that was created at the reading
or later. -/
theorem not_isExpired_of_isRecent {now later timestamp : Instant} {run : RunState}
    (hrecent : isRecent later timestamp = true) (hnow : now ≤ later)
    (hcreated : ∀ created, run.createdAt = some created → timestamp ≤ created) :
    isExpired now run = false := by
  rw [Bool.eq_false_iff]
  intro hexpired
  obtain ⟨created, hrun, hold⟩ := created_of_isExpired hexpired
  have hsecond := second_le_of_le (hcreated created hrun)
  have hlater := second_le_of_le hnow
  have hbounds := (nanosBetween_bounds timestamp later).1
  have hnano := timestamp.nano_lt
  have hhour := of_decide_eq_true hrecent
  -- an hour and the seconds that leap seconds may cost are far less than `expiryDays` days
  simp only [minutesInNanos, inFlightMinutes, expiryDays, nanosPerSecond] at *
  omega

/-- A run without a sign of its end is in flight less than an hour after its record was made, if
it did not start before; leap seconds apart. -/
theorem isInFlight_of_isRecent {now : Instant} {record : Repository.RunRecord} {run : RunState}
    (hrecent : isRecent now record.timestamp = true) (hcompleted : run.hasCompleted = false)
    (hnow : now.inLeapSecond = false) (htimestamp : record.timestamp.inLeapSecond = false)
    (hstart : ∀ start, run.startTime = some start →
      record.timestamp ≤ start ∧ start.inLeapSecond = false) :
    isInFlight now record run = true := by
  cases hstarted : run.startTime with
  | none => simp [isInFlight, RunState.hasStarted, hstarted, hrecent]
  | some start =>
      obtain ⟨hle, hleap⟩ := hstart start hstarted
      have hless := nanosBetween_anti htimestamp hleap hnow hle
      have hstart_recent : isRecent now start = true :=
        decide_eq_true (Int.lt_of_le_of_lt hless (of_decide_eq_true hrecent))
      simp [isInFlight, hstarted, hstart_recent, hcompleted]

end Cycle

end ReleaseBuilds
