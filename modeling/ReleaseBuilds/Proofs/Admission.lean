import Mathlib.Order.Bounds.Defs
import Mathlib.Tactic.SplitIfs
import ReleaseBuilds.Proofs.Requeue

/-!
# The least admissible delay

A window admits a delay if the clock, moved by it, shows an hour of the window. Away from leap
seconds the window hands on the least such delay from the proposed one on. All delays that are
proposed between two openings lead to the later opening, and everything else is read off that.
-/

namespace ReleaseBuilds

namespace Instant

variable {now t : Instant} {nanos : Nat} {d : Delay}

/-- Away from leap seconds a reading is moved to every reading that lies the given time ahead. -/
theorem shift?_eq_some_iff (hnow : now.inLeapSecond = false) :
    now.shift? nanos = some t ↔ t.nano < nanosPerSecond ∧
      t.second * nanosPerSecond + t.nano = now.second * nanosPerSecond + now.nano + nanos := by
  constructor
  · exact shift?_of_not_inLeapSecond hnow
  · rintro ⟨hnano, htotal⟩
    have hbelow := of_decide_eq_false hnow
    have hrange := t.inRange
    have hsecond : now.second + (nanos / nanosPerSecond : Nat) +
        ((now.nano : Int) + (nanos % nanosPerSecond : Nat)) / nanosPerSecond = t.second := by
      simp only [nanosPerSecond] at *
      omega
    have hrest : (((now.nano : Int) + (nanos % nanosPerSecond : Nat)) % nanosPerSecond).toNat =
        t.nano := by
      simp only [nanosPerSecond] at *
      omega
    simp only [shift?, hnow, tdiv_nanosPerSecond, tmod_nanosPerSecond, Bool.false_and,
      Bool.false_eq_true, ↓reduceIte, hsecond, hrest]
    rw [of?, dif_pos]
    exact ⟨hrange, t.nano_lt, t.leap⟩

/-- A reading that can be moved can be moved by less. -/
theorem exists_shift?_of_le (hnow : now.inLeapSecond = false) {less : Nat} (hle : less ≤ nanos)
    (h : now.shift? nanos = some t) : ∃ earlier, now.shift? less = some earlier := by
  obtain ⟨hbelow, htotal⟩ := (shift?_eq_some_iff hnow).mp h
  have hnow_range := now.inRange
  have ht_range := t.inRange
  let total := now.second * nanosPerSecond + now.nano + less
  refine ⟨⟨total / nanosPerSecond, (total % nanosPerSecond).toNat, ?_, ?_, ?_⟩,
    (shift?_eq_some_iff hnow).mpr ⟨?_, ?_⟩⟩
  all_goals
    simp only [total, nanosPerSecond] at *
    omega

/-- No reading is moved further than the clock can show. -/
theorem nanos_le_of_shift? (hnow : now.inLeapSecond = false) (h : now.shift? nanos = some t) :
    nanos ≤ Window.longestMove := by
  obtain ⟨hbelow, htotal⟩ := (shift?_eq_some_iff hnow).mp h
  have hnow_range := now.inRange
  have ht_range := t.inRange
  simp only [first, last, nanosPerSecond, Window.longestMove, UInt64.size] at *
  omega

/-- The time until a reading leads to it. -/
theorem shift?_of_delayUntil? (hnow : now.inLeapSecond = false) (ht : t.inLeapSecond = false)
    (h : now.delayUntil? t = some d) : now.shift? d.nanos = some t := by
  have hnanos := nanos_of_delayUntil? h
  rw [nanosBetween_of_not_inLeapSecond hnow ht] at hnanos
  refine (shift?_eq_some_iff hnow).mpr ⟨Nat.lt_of_not_le (of_decide_eq_false ht), ?_⟩
  rw [hnanos, Int.sub_mul]
  omega

end Instant

namespace Window

open Instant

variable {w : Window} {now : Instant} {d e : Delay}

/-- The window admits a delay if the delay ends in one of its hours. -/
def Admits (w : Window) (now : Instant) (d : Delay) : Prop :=
  ∃ target, now.shift? d.nanos = some target ∧ w.contains target.hour = true

theorem Admits.requeue_eq (h : w.Admits now d) : w.requeue now d = d := by
  obtain ⟨target, htarget, hcontains⟩ := h
  rw [requeue]
  split
  · rfl
  · simp only [htarget, hcontains, if_true]

/-- Up to the next opening the window stays closed, and the next opening stays the same. -/
theorem nextOpening?_of_lt {target opening t : Instant}
    (houtside : w.contains target.hour = false) (hnext : w.nextOpening? target = some opening)
    (hle : target.second ≤ t.second) (hlt : t.second < opening.second) :
    w.contains t.hour = false ∧ w.nextOpening? t = some opening := by
  have hopening := (of?_eq_some hnext).1
  have hopens := w.opens_lt_closes
  have hcloses := w.closes_le
  have hclosed : ¬(w.opens ≤ target.hour ∧ target.hour < w.closes) := by
    simpa [contains] using houtside
  -- midnight may lie between the two readings, but both wait for the opening of one day
  have hday : (if t.hour < w.opens then t.dayNumber else t.dayNumber + 1) =
      if target.hour < w.opens then target.dayNumber else target.dayNumber + 1 := by
    simp only [hour, secondOfDay, dayNumber] at *
    split_ifs at * <;> omega
  constructor
  · rw [contains, Bool.and_eq_false_iff, decide_eq_false_iff_not, decide_eq_false_iff_not]
    simp only [hour, secondOfDay, dayNumber] at *
    split_ifs at * <;> omega
  · rw [nextOpening?, hday]
    exact hnext

/-- The next opening comes no later than the opening on the day after. -/
theorem exists_nextOpening {target : Instant}
    (hopening : (Instant.atHour? (target.dayNumber + 1) w.opens).isSome = true) :
    ∃ opening, w.nextOpening? target = some opening := by
  obtain ⟨following, hfollowing⟩ := Option.isSome_iff_exists.mp hopening
  rw [nextOpening?]
  split
  next hearly =>
    have hrange := following.inRange
    have htarget := target.inRange
    rw [(of?_eq_some hfollowing).1] at hrange
    rw [atHour?, of?, dif_pos]
    · exact ⟨_, rfl⟩
    · simp only [hour, secondOfDay, dayNumber, nanosPerSecond] at *
      omega
  next => exact ⟨following, hfollowing⟩

/-- No opening comes so late after the clock reading that no delay leads there. -/
theorem exists_delayUntil? (hnow : now.inLeapSecond = false) {target opening : Instant}
    (htarget : now.shift? d.nanos = some target) (hnext : w.nextOpening? target = some opening) :
    ∃ moved, now.delayUntil? opening = some moved := by
  obtain ⟨hlater, hnano⟩ := second_lt_nextOpening hnext
  obtain ⟨hbelow, hforward⟩ := shift?_of_not_inLeapSecond hnow htarget
  have hnow_range := now.inRange
  have hopening_range := opening.inRange
  have hnanos := nanosBetween_of_not_inLeapSecond hnow (inLeapSecond_of_nano_eq_zero hnano)
  rw [hnano] at hnanos
  have hbetween : 0 ≤ now.nanosBetween opening ∧
      now.nanosBetween opening < UInt64.size * 1000000000 := by
    simp only [nanosPerSecond, first, last, UInt64.size] at *
    omega
  refine ⟨⟨(now.nanosBetween opening).toNat, by omega⟩, ?_⟩
  rw [delayUntil?, if_neg (by omega), Delay.ofNanos?, dif_pos]

/-- A delay that ends while the window is closed is moved to the next opening. -/
theorem requeue_eq_of_delayUntil? (hnow : now.inLeapSecond = false) {target opening : Instant}
    {moved : Delay} (htarget : now.shift? d.nanos = some target)
    (houtside : w.contains target.hour = false) (hnext : w.nextOpening? target = some opening)
    (hmoved : now.delayUntil? opening = some moved) : w.requeue now d = moved := by
  rw [requeue, if_neg (Nat.not_lt.mpr (nanos_le_of_shift? hnow htarget))]
  simp [htarget, houtside, hnext, hmoved]

theorem admits_of_delayUntil? (hnow : now.inLeapSecond = false) {target opening : Instant}
    {moved : Delay} (hnext : w.nextOpening? target = some opening)
    (hmoved : now.delayUntil? opening = some moved) : w.Admits now moved := by
  have hleap := inLeapSecond_of_nano_eq_zero (second_lt_nextOpening hnext).2
  refine ⟨opening, shift?_of_delayUntil? hnow hleap hmoved, ?_⟩
  rw [hour_nextOpening hnext]
  have hopens := w.opens_lt_closes
  simp [contains, hopens]

/-- The window can follow a delay: no reading of the clock that it needs is out of the calendar. -/
structure Follows (w : Window) (now : Instant) (d : Delay) : Prop where
  nanos_le : d.nanos ≤ longestMove
  exists_target : ∃ target, now.shift? d.nanos = some target ∧
    (w.contains target.hour = false → ∃ opening, w.nextOpening? target = some opening)

/-- Every delay that a window can follow becomes an admissible one. -/
theorem Follows.admits_requeue (hfollows : w.Follows now d) (hnow : now.inLeapSecond = false) :
    w.Admits now (w.requeue now d) := by
  obtain ⟨target, htarget, hopening⟩ := hfollows.exists_target
  cases hcontains : w.contains target.hour with
  | true =>
      have hadmits : w.Admits now d := ⟨target, htarget, hcontains⟩
      rw [hadmits.requeue_eq]
      exact hadmits
  | false =>
      obtain ⟨opening, hnext⟩ := hopening hcontains
      obtain ⟨moved, hmoved⟩ := exists_delayUntil? hnow htarget hnext
      rw [requeue_eq_of_delayUntil? hnow htarget hcontains hnext hmoved]
      exact admits_of_delayUntil? hnow hnext hmoved

/-- Delays between a proposed one and the one that it becomes all become the same. -/
theorem requeue_eq_of_lt (hnow : now.inLeapSecond = false) (hle : d ≤ e)
    (hlt : e.nanos < (w.requeue now d).nanos) : w.requeue now e = w.requeue now d := by
  rcases w.requeue_cases now d with hkept | ⟨target, opening, htarget, houtside, hnext, hmoved⟩
  · rw [hkept] at hlt
    exact absurd hlt (Nat.not_lt.mpr hle)
  · obtain ⟨-, hnano⟩ := second_lt_nextOpening hnext
    have hopening := shift?_of_delayUntil? hnow (inLeapSecond_of_nano_eq_zero hnano) hmoved
    obtain ⟨t, ht⟩ := exists_shift?_of_le hnow (Nat.le_of_lt hlt) hopening
    have hlater : target.second ≤ t.second ∧ t.second < opening.second := by
      have htarget_total := (shift?_eq_some_iff hnow).mp htarget
      have ht_total := (shift?_eq_some_iff hnow).mp ht
      have hopening_total := (shift?_eq_some_iff hnow).mp hopening
      rw [Delay.le_def] at hle
      simp only [nanosPerSecond] at *
      omega
    -- the longer delay ends between the end of the shorter and the opening that this is moved to
    obtain ⟨hclosed, hsame⟩ := nextOpening?_of_lt houtside hnext hlater.1 hlater.2
    exact requeue_eq_of_delayUntil? hnow ht hclosed hsame hmoved

/-- From a proposed delay up to the one that it becomes, none is admissible. -/
theorem requeue_le_of_admits (hnow : now.inLeapSecond = false) (hle : d ≤ e)
    (hadmits : w.Admits now e) : w.requeue now d ≤ e := by
  apply Nat.le_of_not_lt
  intro hlt
  have heq := requeue_eq_of_lt hnow hle hlt
  rw [hadmits.requeue_eq] at heq
  exact Nat.lt_irrefl _ (heq ▸ hlt)

/-- Away from leap seconds a window hands on the least admissible delay from the proposed one on, if
the end of the proposed delay and the opening on the day after are readings that a clock can show.
Whatever is proposed, it does so without shortening a delay, it keeps what it hands on, and longer
proposals do not become shorter delays. A delay with an end that no clock shows is kept. -/
theorem requeue_isLeast (w : Window) {now : Instant} (hnow : now.inLeapSecond = false) :
    (∀ d target, now.shift? d.nanos = some target →
      (Instant.atHour? (target.dayNumber + 1) w.opens).isSome = true →
        IsLeast {r | d ≤ r ∧ w.Admits now r} (w.requeue now d)) ∧
      (∀ d, d ≤ w.requeue now d) ∧
      (∀ d, w.requeue now (w.requeue now d) = w.requeue now d) ∧
      (∀ d e, d ≤ e → w.requeue now d ≤ w.requeue now e) ∧
      ∀ d : Delay, longestMove < d.nanos ∨ now.shift? d.nanos = none → w.requeue now d = d := by
  refine ⟨?_, fun d => w.le_requeue hnow, ?_, ?_, ?_⟩
  · intro d target htarget hopening
    have hfollows : w.Follows now d :=
      ⟨nanos_le_of_shift? hnow htarget, target, htarget, fun _ => exists_nextOpening hopening⟩
    refine ⟨⟨w.le_requeue hnow, hfollows.admits_requeue hnow⟩, ?_⟩
    rintro r ⟨hle, hadmits⟩
    exact requeue_le_of_admits hnow hle hadmits
  · intro d
    rcases w.requeue_cases now d with hkept | ⟨_, _, _, _, hnext, hmoved⟩
    · rw [hkept, hkept]
    · exact (admits_of_delayUntil? hnow hnext hmoved).requeue_eq
  · intro d e hle
    by_cases hlt : e.nanos < (w.requeue now d).nanos
    · rw [requeue_eq_of_lt hnow hle hlt]
      exact Nat.le_refl _
    · exact Nat.le_trans (Nat.le_of_not_lt hlt) (w.le_requeue hnow)
  · rintro d (hlong | hout)
    · rw [requeue, if_pos hlong]
    · rw [requeue]
      split
      · rfl
      · simp only [hout]

def daytime : Window := ⟨10, 22, by decide, by decide⟩

/-- Eleven at night on 1 January 1970. -/
def lateEvening : Instant :=
  { epoch with second := 82800, inRange := by decide, leap := by decide }

/-- A wait from midnight until eleven at night becomes one until ten in the morning after. -/
theorem requeue_isLeast_daytime :
    epoch.inLeapSecond = false ∧ epoch.shift? (Delay.ofSeconds 82800).nanos = some lateEvening ∧
      (atHour? (lateEvening.dayNumber + 1) daytime.opens).isSome = true ∧
        IsLeast {r | .ofSeconds 82800 ≤ r ∧ daytime.Admits epoch r} (.ofSeconds 122400) := by
  have htarget : epoch.shift? (Delay.ofSeconds 82800).nanos = some lateEvening := by
    decide +kernel
  have hopening : (atHour? (lateEvening.dayNumber + 1) daytime.opens).isSome = true := by
    decide +kernel
  have hmoved : daytime.requeue epoch (.ofSeconds 82800) = .ofSeconds 122400 := by decide +kernel
  refine ⟨rfl, htarget, hopening, ?_⟩
  rw [← hmoved]
  exact (daytime.requeue_isLeast rfl).1 _ _ htarget hopening

end Window

end ReleaseBuilds
