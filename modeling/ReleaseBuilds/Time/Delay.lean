import ReleaseBuilds.Decimal.Binary64

/-!
# Delays

A delay is a length of time in whole nanoseconds, shorter than 2^64 seconds. Everything that makes a
delay saturates at that limit: a delay never wraps around to a short one.
-/

namespace ReleaseBuilds

/-- Nanoseconds in a second. -/
def nanosPerSecond : Nat := 1000000000

/-- The largest whole number of seconds that a delay can last. -/
def maxSeconds : Nat := UInt64.size - 1

/-- A length of time, to the nanosecond. -/
structure Delay where
  nanos : Nat
  lt_limit : nanos < UInt64.size * 1000000000 := by decide
deriving DecidableEq, Repr

namespace Delay

def zero : Delay := ⟨0, by decide⟩

instance : Inhabited Delay := ⟨zero⟩

/-- The given number of nanoseconds, if a delay can last so long. -/
def ofNanos? (n : Nat) : Option Delay :=
  if h : n < UInt64.size * 1000000000 then some ⟨n, h⟩ else none

/-- Whole seconds, cut off at the longest delay. -/
def ofSeconds (n : Nat) : Delay :=
  ⟨min n maxSeconds * 1000000000, by
    have hseconds : min n maxSeconds < UInt64.size :=
      Nat.lt_of_le_of_lt (Nat.min_le_right ..) (by decide)
    exact Nat.mul_lt_mul_of_pos_right hseconds (by decide)⟩

/-- Whole seconds and a part of a second. -/
def ofParts? (seconds nanos : Nat) : Option Delay := ofNanos? (seconds * nanosPerSecond + nanos)

/-- The longest delay. -/
def longest : Delay := ⟨UInt64.size * 1000000000 - 1, by decide⟩

/-- Whole seconds, the rest dropped. -/
def seconds (d : Delay) : Nat := d.nanos / nanosPerSecond

/-- Nanoseconds beyond the whole seconds. -/
def subsecond (d : Delay) : Nat := d.nanos % nanosPerSecond

instance : LE Delay := ⟨fun d e => d.nanos ≤ e.nanos⟩

instance (d e : Delay) : Decidable (d ≤ e) := inferInstanceAs (Decidable (d.nanos ≤ e.nanos))

/-- The later of two delays. -/
def max (d e : Delay) : Delay := if d ≤ e then e else d

/-- Seconds as a double: the whole seconds and the remaining nanoseconds are converted on their own
and added. -/
def toFloat (d : Delay) : Float :=
  d.seconds.toUInt64.toFloat + d.subsecond.toUInt64.toFloat / 1000000000.0

/-- Nanoseconds in a number of seconds, rounded to the nearest with halves to even; `none` for
infinity, for "not a number", for a negative number and from 2^64 seconds on. -/
def ofFloat? (x : Float) : Option Delay :=
  match Decimal.Reading.ofBits x.toBits with
  | .finite negative m =>
    if negative && m.mantissa != 0 then none
    else
      let (num, den) := m.quotient nanosPerSecond
      ofNanos? (Decimal.roundHalfEven num den)
  | _ => none

/-- How a delay reads in diagnostics: the largest fitting unit among seconds, milliseconds,
microseconds and nanoseconds, with the fraction that remains. -/
def text (d : Delay) : String :=
  let fraction := fun (rest places : Nat) =>
    let shown := Nat.toDigits 10 rest
    let padded := List.replicate (places - shown.length) '0' ++ shown
    let kept := (padded.reverse.dropWhile (· == '0')).reverse
    if kept.isEmpty then "" else String.ofList ('.' :: kept)
  if 0 < d.seconds then toString d.seconds ++ fraction d.subsecond 9 ++ "s"
  else if 1000000 ≤ d.nanos then
    toString (d.nanos / 1000000) ++ fraction (d.nanos % 1000000) 6 ++ "ms"
  else if 1000 ≤ d.nanos then toString (d.nanos / 1000) ++ fraction (d.nanos % 1000) 3 ++ "µs"
  else toString d.nanos ++ "ns"

theorem le_def {d e : Delay} : d ≤ e ↔ d.nanos ≤ e.nanos := Iff.rfl

@[simp] theorem nanos_max (d e : Delay) : (d.max e).nanos = Nat.max d.nanos e.nanos := by
  unfold max
  split
  · next h => exact (Nat.max_eq_right h).symm
  · next h => exact (Nat.max_eq_left (Nat.le_of_not_le h)).symm

end Delay

end ReleaseBuilds
