import ReleaseBuilds.Time.Calendar
import ReleaseBuilds.Time.Delay

/-!
# Instants

A reading of the UTC clock to the nanosecond, in the years from -262143 to 262142. The last second
of a minute may run on for a leap second: the clock then shows more than 10^9 nanoseconds within
that second. Differences and shifts count a leap second only while one of the readings lies in it.
-/

namespace ReleaseBuilds

/-- The first and the last second of the years that a clock reading can have. -/
def Instant.first : Int := -8334601228800

def Instant.last : Int := 8210266876799

/-- Seconds since 1 January 1970 and nanoseconds within the second, which reach beyond 10^9 only in
the leap second that follows the last second of a minute. -/
structure Instant where
  second : Int
  nano : Nat
  inRange : Instant.first ≤ second ∧ second ≤ Instant.last
  nano_lt : nano < 2 * nanosPerSecond
  leap : nanosPerSecond ≤ nano → second % 60 = 59
deriving DecidableEq, Repr

namespace Instant

/-- The reading with the given parts, if there is one. -/
def of? (second : Int) (nano : Nat) : Option Instant :=
  if h : (Instant.first ≤ second ∧ second ≤ Instant.last) ∧ nano < 2 * nanosPerSecond ∧
      (nanosPerSecond ≤ nano → second % 60 = 59) then
    some ⟨second, nano, h.1, h.2.1, h.2.2⟩
  else none

/-- 1 January 1970, midnight. -/
def epoch : Instant := ⟨0, 0, by decide, by decide, by decide⟩

instance : Inhabited Instant := ⟨epoch⟩

/-- Days since 1 January 1970. -/
def dayNumber (t : Instant) : Int := t.second / 86400

/-- Seconds since midnight. -/
def secondOfDay (t : Instant) : Int := t.second % 86400

def date (t : Instant) : Date := Date.ofDays t.dayNumber

/-- The hour of the day, from 0 to 23. -/
def hour (t : Instant) : Nat := (t.secondOfDay / 3600).toNat

/-- The reading lies in a leap second. -/
def inLeapSecond (t : Instant) : Bool := decide (nanosPerSecond ≤ t.nano)

/-- A given whole hour of the day with the given number. -/
def atHour? (day : Int) (hour : Nat) : Option Instant := of? (day * 86400 + hour * 3600) 0

/-- Nanoseconds from `earlier` to `later`, negative if they are in the other order. A leap second
that lies between two times of one day and in which one of them lies is counted. -/
def nanosBetween (earlier later : Instant) : Int :=
  let seconds := later.second - earlier.second
  let counted :=
    if earlier.secondOfDay < later.secondOfDay && earlier.inLeapSecond then seconds + 1
    else if later.secondOfDay < earlier.secondOfDay && later.inLeapSecond then seconds - 1
    else seconds
  counted * nanosPerSecond + (later.nano - earlier.nano)

/-- The time left from `now` until `t`, and none once `t` has passed. -/
def delayUntil? (now t : Instant) : Option Delay :=
  let n := now.nanosBetween t
  if n < 0 then none else Delay.ofNanos? n.toNat

/-- A reading moved by a number of nanoseconds. A move that stays within a leap second keeps the
reading there; any other counts the leap second as the start of the next second. -/
def shift? (t : Instant) (nanos : Int) : Option Instant :=
  let seconds := nanos.tdiv nanosPerSecond
  let rest := nanos.tmod nanosPerSecond
  let staysInLeap :=
    t.inLeapSecond && seconds == 0 && !(0 < rest && 2 * nanosPerSecond ≤ t.nano + rest)
  if staysInLeap then of? t.second (t.nano + rest).toNat
  else
    let leavesForward := 0 < seconds || 0 < rest
    let nano : Int := if t.inLeapSecond then t.nano - nanosPerSecond else t.nano
    let second := if t.inLeapSecond && !leavesForward then t.second + 1 else t.second
    let total := nano + rest
    of? (second + seconds + total / nanosPerSecond) (total % nanosPerSecond).toNat

/-- Days in nanoseconds. -/
def daysInNanos (n : Nat) : Int := n * 86400 * nanosPerSecond

/-- Minutes in nanoseconds. -/
def minutesInNanos (n : Nat) : Int := n * 60 * nanosPerSecond

/-- `earlier` comes before `later` on the clock. -/
def before (earlier later : Instant) : Bool :=
  earlier.second < later.second || (earlier.second == later.second && earlier.nano < later.nano)

end Instant

end ReleaseBuilds
