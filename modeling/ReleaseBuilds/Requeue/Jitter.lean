import ReleaseBuilds.Time.Delay

/-!
# Jitter and backoff

Random additions to a delay, so that many repositories that were created together do not all come
due together, and the exponential backoff after failures. Results are whole seconds. Chance enters
only through `Draws`; all else is arithmetic on delays, which saturates and never wraps.
-/

namespace ReleaseBuilds

/-- The random values that one decision may use: a share of the unit interval, and for each bound a
number that is taken modulo the bound. -/
structure Draws where
  share : Float
  number : Nat → Nat

/-- A whole number below `bound`. -/
def Draws.below (draws : Draws) (bound : Nat) : Nat := draws.number bound % bound

namespace Jitter

/-- The least delay that exponential backoff starts from, in seconds. -/
def backoffBase : Nat := 120

/-- The bound in minutes that stands in for a bound of zero. -/
def defaultMinutes : Nat := 5

/-- A percentage that can be used as a share: finite and not negative. -/
def isShare (percent : Float) : Bool := percent.isFinite && decide (0.0 ≤ percent)

/-- A delay changed by a percentage of itself, down to whole seconds. Nothing is left of a delay
that would become negative, and one that would become too long lasts as long as a delay can. -/
def changeBy (d : Delay) (percent : Float) : Delay :=
  let seconds := d.toFloat
  let total := seconds + seconds * percent / 100.0
  if 0.0 < total then
    match Delay.ofFloat? total with
    | some changed => .ofSeconds changed.seconds
    | none => .ofSeconds maxSeconds
  else .zero

/-- A delay and up to `percent` percent of it; the delay as it is if `percent` is not a share. -/
def addShare (draws : Draws) (d : Delay) (percent : Float) : Delay :=
  if isShare percent then changeBy d (draws.share * percent) else d

/-- A delay less or more up to `percent` percent of it; the delay as it is if `percent` is not a
share. -/
def spreadShare (draws : Draws) (d : Delay) (percent : Float) : Delay :=
  if isShare percent then changeBy d (draws.share * 2.0 * percent - percent) else d

/-- The whole seconds of a delay rounded up to whole minutes, and fewer than `bound`
minutes more. -/
def addMinutes (draws : Draws) (d : Delay) (bound : Nat) : Delay :=
  let bound := if bound == 0 then defaultMinutes else bound
  let base := (d.seconds + 59) / 60
  .ofSeconds (min (base + draws.below bound) maxSeconds * 60)

/-- Two minutes, doubled for each attempt, but no less than the given number of minutes. -/
def backoff (attempts minMinutes : Nat) : Delay :=
  let grown := if attempts < 64 then backoffBase * Nat.pow 2 attempts else maxSeconds
  .ofSeconds (Nat.max grown (minMinutes * 60))

end Jitter

end ReleaseBuilds
