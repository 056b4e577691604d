import ReleaseBuilds.Version.Basic
import ReleaseBuilds.Text.Blank

/-!
# Reading versions

The strict reader of SemVer 2.0.0 texts and, on top of it, the lenient reader of release tags: a tag
may begin with `v` or `V` and may leave out the minor or the patch number, which then count as zero.
-/

namespace ReleaseBuilds.Version

/-- The value of decimal digits. -/
def digitsValue (cs : List Char) : Nat := cs.foldl (fun n c => 10 * n + (c.toNat - '0'.toNat)) 0

/-- A number below 2^64 without superfluous zeros. -/
def readNumber (part : Part) (cs : List Char) : Except ReadError (Nat × List Char) :=
  match cs.takeWhile Char.isDigit with
  | [] =>
    match cs with
    | [] => .error (.unexpectedEnd part)
    | c :: _ => .error (.unexpectedChar part c)
  | '0' :: _ :: _ => .error (.leadingZero part)
  | digits =>
    if digitsValue digits < UInt64.size then .ok (digitsValue digits, cs.drop digits.length)
    else .error (.tooLarge part)

/-- The dot after a part. -/
def readDot (part : Part) : List Char → Except ReadError (List Char)
  | [] => .error (.unexpectedEnd part)
  | c :: rest => if c == '.' then .ok rest else .error (.unexpectedCharAfter part c)

/-- Letters from `A` to `Z` in either case, digits and the dash. -/
def isSegmentChar (c : Char) : Bool := c.isAlphanum || c == '-'

/-- A word, or a number if the segment is made of digits alone. -/
def Segment.ofChars (cs : List Char) : Segment :=
  if cs.all Char.isDigit then .number (digitsValue cs) else .word (String.ofList cs)

/-- A number with a superfluous zero in front. -/
def hasLeadingZero : List Char → Bool
  | '0' :: c :: rest => (c :: rest).all Char.isDigit
  | _ => false

/-- Segments with dots between them; `done` holds those that are complete, in reverse, and `current`
the characters of the one that is being read, in reverse. -/
def readSegments (part : Part) (done : List (List Char)) (current : List Char) :
    List Char → Except ReadError (List (List Char) × List Char)
  | [] => finish []
  | c :: rest =>
    if isSegmentChar c then readSegments part done (c :: current) rest
    else if c == '.' then
      if current.isEmpty then .error (.emptySegment part)
      else if part == .preRelease && hasLeadingZero current.reverse then .error (.leadingZero part)
      else readSegments part (current.reverse :: done) [] rest
    else finish (c :: rest)
where
  /-- The last segment ends where no character of a segment and no dot follows. -/
  finish (rest : List Char) : Except ReadError (List (List Char) × List Char) :=
    if current.isEmpty then .error (.emptySegment part)
    else if part == .preRelease && hasLeadingZero current.reverse then .error (.leadingZero part)
    else .ok ((current.reverse :: done).reverse, rest)

/-- A pre-release after a dash; none if no dash follows. -/
def readPreRelease : List Char → Except ReadError (Option PreRelease × List Char)
  | '-' :: cs => do
    let (segments, rest) ← readSegments .preRelease [] [] cs
    return (some (segments.map .ofChars), rest)
  | cs => .ok (none, cs)

/-- Build metadata after a plus sign; none if no plus sign follows. -/
def readBuild : List Char → Except ReadError (Option (List String) × List Char)
  | '+' :: cs => do
    let (segments, rest) ← readSegments .build [] [] cs
    return (some (segments.map String.ofList), rest)
  | cs => .ok (none, cs)

/-- A whole text as a version. -/
def ofChars (cs : List Char) : Except ReadError Version := do
  if cs.isEmpty then throw .empty
  let (major, cs) ← readNumber .major cs
  let cs ← readDot .major cs
  let (minor, cs) ← readNumber .minor cs
  let cs ← readDot .minor cs
  let (patch, cs) ← readNumber .patch cs
  let (pre, cs) ← readPreRelease cs
  let (build, cs) ← readBuild cs
  match cs with
  | [] => return { major, minor, patch, pre := pre.getD [], build := build.getD [] }
  | c :: _ =>
    let last : Part := if build.isSome then .build else if pre.isSome then .preRelease else .patch
    throw (.unexpectedCharAfter last c)

/-- A tag without the blanks around it and without one leading `v` or `V`. -/
def tagBody (tag : String) : List Char :=
  match Text.trimChars tag.toList with
  | 'v' :: rest => rest
  | 'V' :: rest => rest
  | cs => cs

/-- The numbers left out after the given core of a version, written as zeros. -/
def padding (core : List Char) : List Char :=
  match core.count '.' with
  | 0 => ".0.0".toList
  | 1 => ".0".toList
  | _ => []

/-- A release tag as a version. A body that is no version is read once more with zeros for the
numbers that it leaves out before its pre-release or build metadata. -/
def ofTag (tag : String) : Except ReadError Version :=
  let body := tagBody tag
  match ofChars body with
  | .ok version => .ok version
  | .error _ =>
    let startsSuffix := fun c => c == '-' || c == '+'
    let core := body.takeWhile fun c => !startsSuffix c
    ofChars (core ++ padding core ++ body.dropWhile fun c => !startsSuffix c)

end ReleaseBuilds.Version
