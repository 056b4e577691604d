import ReleaseBuilds.Time.Instant

/-!
# Requeue policies

A policy adjusts a proposed delay before it is used. The plain policy keeps it. A policy
with a daily window of UTC hours moves a delay that would end outside the window to the
next opening of the window.
-/

namespace ReleaseBuilds

/-- Why two hours do not make a window. -/
inductive WindowError where
  | hourOutOfRange (hour : Nat)
  | empty (opens closes : Nat)
  | incomplete (hour : Nat)
deriving DecidableEq, Repr

def WindowError.message : WindowError → String
  | .hourOutOfRange hour => "only values [0, 23] are allowed, got " ++ toString hour
  | .empty opens closes =>
    "from (" ++ toString opens ++ ") must be < to (" ++ toString closes ++ ")"
  | .incomplete hour =>
    "both bounds of the requeue window must be set, got only " ++ toString hour

/-- The hours of a day from `opens` up to and without `closes`. -/
structure Window where
  opens : Nat
  closes : Nat
  opens_lt_closes : opens < closes
  closes_le : closes ≤ 23
deriving DecidableEq, Repr

namespace Window

/-- The window between two hours. An hour that no clock shows is reported first, the opening hour
before the closing hour. -/
def of (opens closes : Nat) : Except WindowError Window :=
  if 23 < opens then .error (.hourOutOfRange opens)
  else if hc : 23 < closes then .error (.hourOutOfRange closes)
  else if h : opens < closes then .ok ⟨opens, closes, h, Nat.le_of_not_lt hc⟩
  else .error (.empty opens closes)

def contains (w : Window) (hour : Nat) : Bool := w.opens ≤ hour && hour < w.closes

/-- The first opening of the window at or after an instant at which it is closed: on the same day if
its hour is still to come, else on the next day. -/
def nextOpening? (w : Window) (t : Instant) : Option Instant :=
  Instant.atHour? (if t.hour < w.opens then t.dayNumber else t.dayNumber + 1) w.opens

/-- The longest time, in nanoseconds, by which an instant is moved. -/
def longestMove : Nat := (UInt64.size / 2 - 1) * 1000000

/-- The delay itself if it ends inside the window, and otherwise the time until the window opens
next. A delay that leads out of the calendar is kept. -/
def requeue (w : Window) (now : Instant) (d : Delay) : Delay :=
  if longestMove < d.nanos then d
  else
    match now.shift? d.nanos with
    | none => d
    | some target =>
      if w.contains target.hour then d
      else ((w.nextOpening? target).bind now.delayUntil?).getD d

end Window

/-- How a proposed delay is adjusted. -/
inductive Policy where
  | plain
  | onHours (window : Window)
deriving DecidableEq, Repr

/-- The adjusted delay, given the present instant. -/
def Policy.requeue (policy : Policy) (now : Instant) (d : Delay) : Delay :=
  match policy with
  | .plain => d
  | .onHours window => window.requeue now d

/-- The policy that two optional hours select: none, a window, or an error if one is missing. -/
def Policy.ofHours (opens closes : Option Nat) : Except WindowError Policy :=
  match opens, closes with
  | none, none => .ok .plain
  | some opens, some closes => (Window.of opens closes).map .onHours
  | some hour, none => .error (.incomplete hour)
  | none, some hour => .error (.incomplete hour)

end ReleaseBuilds
