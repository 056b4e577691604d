import ReleaseBuilds.Time.Instant
import ReleaseBuilds.Text.Blank

/-!
# Timestamps

Clock readings as RFC 3339 texts. Writing gives one form per reading: the shortest fraction of
three, six or nine digits, the sixtieth second for a leap second, and a sign before years of more
than four digits. Reading is lenient: numbers need no padding, blanks may stand before them, a `t`
or a blank may separate date and time, and any offset from UTC is accepted.
-/

namespace ReleaseBuilds.Time

/-- A number with at least the given count of digits. -/
def padded (width n : Nat) : String :=
  let shown := Nat.toDigits 10 n
  String.ofList (List.replicate (width - shown.length) '0' ++ shown)

/-- Four digits for the years 0 to 9999, otherwise a sign and at least four digits. -/
def yearText (year : Int) : String :=
  if 0 ≤ year ∧ year ≤ 9999 then padded 4 year.toNat
  else (if year < 0 then "-" else "+") ++ padded 4 year.natAbs

def dateText (d : Date) : String :=
  yearText d.year ++ "-" ++ padded 2 d.month ++ "-" ++ padded 2 d.day

/-- Nothing for a whole second, otherwise the fewest digits of three, six and nine. -/
def fractionText (nano : Nat) : String :=
  if nano == 0 then ""
  else if nano % 1000000 == 0 then "." ++ padded 3 (nano / 1000000)
  else if nano % 1000 == 0 then "." ++ padded 6 (nano / 1000)
  else "." ++ padded 9 nano

/-- Hours, minutes and seconds; a leap second is the sixtieth. -/
def clockText (t : Instant) : String :=
  let second := t.secondOfDay.toNat
  padded 2 (second / 3600) ++ ":" ++ padded 2 (second / 60 % 60) ++ ":" ++
    padded 2 (second % 60 + if t.inLeapSecond then 1 else 0)

/-- The fraction of the second that is shown, with a leap second counted on its own. -/
def shownNano (t : Instant) : Nat := t.nano % nanosPerSecond

/-- Date and time without an offset. -/
def localText (t : Instant) : String :=
  dateText t.date ++ "T" ++ clockText t ++ fractionText (shownNano t)

end ReleaseBuilds.Time

namespace ReleaseBuilds.Instant

open ReleaseBuilds.Time ReleaseBuilds.Text

/-- The form of timestamps in documents: `2024-05-01T12:00:00.250Z`. -/
def toText (t : Instant) : String := localText t ++ "Z"

/-- The form with a numeric offset: `2024-05-01T12:00:00+00:00`. -/
def toOffsetText (t : Instant) : String := localText t ++ "+00:00"

/-- The form of whole seconds, any fraction cut off. -/
def toSecondsText (t : Instant) : String := dateText t.date ++ "T" ++ clockText t ++ "Z"

/-- The form of events, in microseconds: `2024-05-01T12:00:00.000000Z`. -/
def toMicrosText (t : Instant) : String :=
  dateText t.date ++ "T" ++ clockText t ++ "." ++ padded 6 (shownNano t / 1000) ++ "Z"

/-- The form in messages: `2024-05-01 12:10:00 UTC`. -/
def toMessageText (t : Instant) : String :=
  dateText t.date ++ " " ++ clockText t ++ fractionText (shownNano t) ++ " UTC"

/-- The reading with its fraction of a second cut off; a leap second stays one. -/
def wholeSecond (t : Instant) : Instant :=
  { t with
    nano := if t.inLeapSecond then nanosPerSecond else 0
    nano_lt := by split <;> decide
    leap := by
      intro h
      split at h
      · next hl => exact t.leap (by simpa [inLeapSecond] using hl)
      · exact absurd h (by decide) }

end ReleaseBuilds.Instant

namespace ReleaseBuilds.Time

open ReleaseBuilds.Text

def digitValue (c : Char) : Nat := c.toNat - '0'.toNat

/-- The longest run of at most `width` digits as a number; at least one digit is needed. -/
def readDigits (width : Nat) (cs : List Char) : Option (Nat × List Char) :=
  let digits := (cs.take width).takeWhile Char.isDigit
  if digits.isEmpty then none
  else some (digits.foldl (fun n c => 10 * n + digitValue c) 0, cs.drop digits.length)

/-- A number of at most two digits after blanks. -/
def readNumber (cs : List Char) : Option (Nat × List Char) := readDigits 2 (skipBlanks cs)

/-- At most four digits, or any number of them after a sign. -/
def readYear (cs : List Char) : Option (Int × List Char) :=
  match skipBlanks cs with
  | '+' :: ds => (readDigits ds.length ds).map fun (n, rest) => ((n : Int), rest)
  | '-' :: ds => (readDigits ds.length ds).map fun (n, rest) => (-(n : Int), rest)
  | ds => (readDigits 4 ds).map fun (n, rest) => ((n : Int), rest)

/-- One given character after blanks. -/
def readMark (mark : Char) (cs : List Char) : Option (List Char) :=
  match skipBlanks cs with
  | c :: rest => if c == mark then some rest else none
  | [] => none

/-- A fraction of a second in nanoseconds, if a point follows. Digits after the ninth
are dropped. -/
def readFraction : List Char → Option (Nat × List Char)
  | '.' :: cs =>
    let digits := cs.takeWhile Char.isDigit
    if digits.isEmpty then none
    else
      let kept := digits.take 9
      let value := kept.foldl (fun n c => 10 * n + digitValue c) 0
      some (value * Nat.pow 10 (9 - kept.length), cs.drop digits.length)
  | cs => some (0, cs)

/-- Two digits, the first of them below `tens`. -/
def readPair (tens : Nat) : List Char → Option (Nat × List Char)
  | a :: b :: rest =>
    if a.isDigit && b.isDigit && digitValue a < tens then
      some (10 * digitValue a + digitValue b, rest)
    else none
  | _ => none

/-- Seconds east of UTC: `Z`, `UTC`, or a sign, two digits of hours, blanks and colons, and two
digits of minutes, together less than a day. -/
def readOffset (cs : List Char) : Option (Int × List Char) :=
  let signed := fun (sign : Int) (ds : List Char) => (do
    let (hours, afterHours) ← readPair 10 ds
    let (minutes, rest) ← readPair 6 (afterHours.dropWhile fun c => c == ':' || isBlank c)
    let seconds := hours * 3600 + minutes * 60
    if seconds < 86400 then some (sign * (seconds : Int), rest)
    else none : Option (Int × List Char))
  match skipBlanks cs with
  | a :: b :: c :: rest =>
    if sameIgnoringCase (String.ofList [a, b, c]) "utc" then some (0, rest)
    else if a == 'Z' || a == 'z' then some (0, b :: c :: rest)
    else if a == '+' then signed 1 (b :: c :: rest)
    else if a == '-' || a == '−' then signed (-1) (b :: c :: rest)
    else none
  | c :: rest => if c == 'Z' || c == 'z' then some (0, rest) else none
  | [] => none

/-- Year, month and day with dashes between them. -/
def readDate (cs : List Char) : Option (Date × List Char) := do
  let (year, cs) ← readYear cs
  let (month, cs) ← readNumber (← readMark '-' cs)
  let (day, cs) ← readNumber (← readMark '-' cs)
  some (⟨year, month, day⟩, cs)

/-- Seconds since midnight, nanoseconds and whether the time lies in a leap second. -/
def readClock (cs : List Char) : Option ((Nat × Nat) × List Char) := do
  let (hour, cs) ← readNumber cs
  let (minute, cs) ← readNumber (← readMark ':' cs)
  let (second, cs) ← readNumber (← readMark ':' cs)
  let (nano, cs) ← readFraction cs
  if 23 < hour || 59 < minute || 60 < second then none
  else if second == 60 then some ((hour * 3600 + minute * 60 + 59, nanosPerSecond + nano), cs)
  else some ((hour * 3600 + minute * 60 + second, nano), cs)

end ReleaseBuilds.Time

namespace ReleaseBuilds.Instant

open ReleaseBuilds.Time ReleaseBuilds.Text

/-- A timestamp in any of the accepted forms. The local date must be one of the calendar and of the
years that a reading can have, and so must the reading in UTC. -/
def ofText? (s : String) : Option Instant := do
  let (date, cs) ← readDate s.toList
  let cs ← match cs with
    | c :: rest => if c == 'T' || c == 't' || c == ' ' then some rest else none
    | [] => none
  let ((second, nano), cs) ← readClock cs
  let (offset, cs) ← readOffset cs
  if !(skipBlanks cs).isEmpty || !decide date.Valid then none
  else
    let localTime ← of? (date.toDays * 86400 + second) nano
    of? (localTime.second - offset) nano

end ReleaseBuilds.Instant
