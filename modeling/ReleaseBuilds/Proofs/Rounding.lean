import ReleaseBuilds.Proofs.Requeue

/-!
# Rounding up to whole minutes

Minutes that are added to a delay come on top of the whole minutes that the delay is rounded up to.
The least number of minutes that covers a delay counts all of its nanoseconds. The rounding goes by
the whole seconds alone, so it misses a minute of which nothing but a part of the first second has
begun. In all other cases it gives the least cover, and where the sum is longer than a delay can be,
the longest one in whole seconds.
-/

namespace ReleaseBuilds

namespace Delay

variable (d : Delay)

theorem ext_nanos {d e : Delay} (h : d.nanos = e.nanos) : d = e := by
  cases d
  cases e
  cases h
  rfl

/-- The whole minutes that cover a delay. -/
def minutesUp : Nat := (d.nanos + (60 * nanosPerSecond - 1)) / (60 * nanosPerSecond)

/-- The delay lasts some whole minutes and a part of a second. -/
def IsPastMinute : Prop := d.seconds % 60 = 0 ∧ 0 < d.subsecond

instance : Decidable d.IsPastMinute := inferInstanceAs (Decidable (_ ∧ _))

/-- The whole seconds tell the minutes that cover a delay, unless only a part of a second lies
beyond whole minutes. -/
theorem minutesUp_eq : d.minutesUp = (d.seconds + 59) / 60 + if d.IsPastMinute then 1 else 0 := by
  by_cases hpast : d.IsPastMinute
  · rw [if_pos hpast]
    simp only [IsPastMinute, minutesUp, seconds, subsecond, nanosPerSecond] at hpast ⊢
    omega
  · rw [if_neg hpast]
    simp only [IsPastMinute, minutesUp, seconds, subsecond, nanosPerSecond] at hpast ⊢
    omega

end Delay

namespace Jitter

variable (draws : Draws) (d : Delay) (bound : Nat)

/-- The bound on the minutes that are added, which is never zero. -/
def effectiveBound : Nat := if bound == 0 then defaultMinutes else bound

/-- The minutes that are added. -/
def addedMinutes : Nat := draws.below (effectiveBound bound)

theorem addedMinutes_lt : addedMinutes draws bound < effectiveBound bound := by
  apply Nat.mod_lt
  rw [effectiveBound]
  split
  next => decide
  next hbound => simpa [Nat.pos_iff_ne_zero] using hbound

/-- The added minutes on top of those that cover the delay, cut off at the longest delay. -/
def coveringMinutes : Delay := .ofSeconds ((d.minutesUp + addedMinutes draws bound) * 60)

theorem minutes_eq : minutes draws d bound = (d.seconds + 59) / 60 + addedMinutes draws bound := rfl

theorem nanos_coveringMinutes :
    (coveringMinutes draws d bound).nanos =
      min ((d.minutesUp + addedMinutes draws bound) * 60) maxSeconds * nanosPerSecond := rfl

/-- The rounded delay is the one that the covering minutes make, unless the delay is just past a
minute and the missing minute would still fit. -/
theorem addMinutes_eq_iff :
    addMinutes draws d bound = coveringMinutes draws d bound ↔
      ¬d.IsPastMinute ∨ maxSeconds ≤ minutes draws d bound * 60 := by
  have heq : addMinutes draws d bound = coveringMinutes draws d bound ↔
      (addMinutes draws d bound).nanos = (coveringMinutes draws d bound).nanos :=
    ⟨fun h => by rw [h], Delay.ext_nanos⟩
  rw [heq, nanos_addMinutes, nanos_coveringMinutes, minutes_eq, Delay.minutesUp_eq]
  generalize addedMinutes draws bound = added
  by_cases hpast : d.IsPastMinute
  · simp only [hpast, if_true, not_true, false_or, maxSeconds, UInt64.size, nanosPerSecond]
    omega
  · simp [hpast]

/-- The rounded delay falls short of the delay in two cases: if the delay is just past a minute and
nothing is added, and if no whole number of seconds lasts as long. -/
theorem le_addMinutes_iff :
    d ≤ addMinutes draws d bound ↔
      ¬(d.IsPastMinute ∧ addedMinutes draws bound = 0) ∧ d ≤ .ofSeconds maxSeconds := by
  have hlongest : (Delay.ofSeconds maxSeconds).nanos = maxSeconds * nanosPerSecond := rfl
  rw [Delay.le_def, Delay.le_def, nanos_addMinutes, hlongest, minutes_eq]
  generalize addedMinutes draws bound = added
  have hlimit := d.lt_limit
  simp only [Delay.IsPastMinute, Delay.seconds, Delay.subsecond, maxSeconds, UInt64.size,
    nanosPerSecond] at *
  omega

theorem addMinutes_effectiveBound :
    addMinutes draws d (effectiveBound bound) = addMinutes draws d bound := by
  have hpos : 0 < effectiveBound bound := Nat.zero_lt_of_lt (addedMinutes_lt draws bound)
  have hbound : (if effectiveBound bound == 0 then defaultMinutes else effectiveBound bound) =
      effectiveBound bound := by
    simp [Nat.pos_iff_ne_zero.mp hpos]
  rw [addMinutes, hbound]
  rfl

/-- Fewer minutes are added than the bound says. Together with those that cover the delay they make
the rounded delay, cut off at the longest one, unless the delay is just past a minute. What is
rounded so is shorter than the delay only if it is just past a minute and nothing is added, or too
long for whole seconds. It is never shorter by a second, nor longer by as many minutes as the bound
says. -/
theorem addMinutes_roundsUp_iff :
    addedMinutes draws bound < effectiveBound bound ∧
      (addMinutes draws d bound = coveringMinutes draws d bound ↔
        ¬d.IsPastMinute ∨ maxSeconds ≤ minutes draws d bound * 60) ∧
      (d ≤ addMinutes draws d bound ↔
        ¬(d.IsPastMinute ∧ addedMinutes draws bound = 0) ∧ d ≤ .ofSeconds maxSeconds) ∧
      d.nanos < (addMinutes draws d bound).nanos + nanosPerSecond ∧
      (addMinutes draws d bound).nanos < d.nanos + effectiveBound bound * 60 * nanosPerSecond := by
  have hadded := addedMinutes_lt draws bound
  have hbounds := addMinutes_bounds draws d (Nat.zero_lt_of_lt hadded)
  rw [addMinutes_effectiveBound] at hbounds
  exact ⟨hadded, addMinutes_eq_iff draws d bound, le_addMinutes_iff draws d bound, hbounds⟩

/-- Half a second past a minute. -/
def pastMinute : Delay := ⟨60500000000, by decide⟩

/-- The draws that add nothing. -/
def leastDraws : Draws := ⟨0.0, fun _ => 0⟩

/-- Half a second past a minute is rounded down to a minute, where two minutes cover it. -/
theorem not_le_addMinutes_pastMinute :
    addMinutes leastDraws pastMinute 5 = .ofSeconds 60 ∧
      coveringMinutes leastDraws pastMinute 5 = .ofSeconds 120 ∧
        ¬pastMinute ≤ addMinutes leastDraws pastMinute 5 := by
  decide +kernel

end Jitter

end ReleaseBuilds
