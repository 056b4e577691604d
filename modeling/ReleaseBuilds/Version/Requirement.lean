import ReleaseBuilds.Version.Reader

/-!
# Version requirements

A requirement is a list of comparators that must all hold, such as `>= 1.2, < 2`. Comparators may
leave out the minor and the patch number. A pre-release satisfies a requirement only if one of the
comparators names a pre-release of the same three numbers.
-/

namespace ReleaseBuilds.Version

inductive Operator where
  | exact | greater | greaterEq | less | lessEq | tilde | caret | wildcard
deriving DecidableEq, Repr

/-- An operator and a version whose minor and patch numbers may be left out. -/
structure Comparator where
  operator : Operator
  major : Nat
  minor : Option Nat
  patch : Option Nat
  pre : PreRelease
deriving DecidableEq, Repr

/-- Comparators that must all hold. The empty list is the requirement `*`. -/
structure Requirement where
  comparators : List Comparator
deriving DecidableEq, Repr

namespace Comparator

/-- The given numbers and the pre-release are equal. -/
def isEqual (c : Comparator) (v : Version) : Bool :=
  c.major == v.major && c.minor.all (· == v.minor) && c.patch.all (· == v.patch) && v.pre == c.pre

/-- The first number that differs decides by `less`, a number left out never holds, and with equal
numbers the pre-releases decide. -/
def compareBy (less : Nat → Nat → Bool) (preLess : PreRelease → PreRelease → Bool)
    (c : Comparator) (v : Version) : Bool :=
  if v.major != c.major then less c.major v.major
  else
    match c.minor with
    | none => false
    | some minor =>
      if v.minor != minor then less minor v.minor
      else
        match c.patch with
        | none => false
        | some patch =>
          if v.patch != patch then less patch v.patch else preLess c.pre v.pre

def isBelow (c : Comparator) (v : Version) : Bool :=
  compareBy (fun m n => m < n) (fun a b => a.less b) c v

def isAbove (c : Comparator) (v : Version) : Bool :=
  compareBy (fun m n => n < m) (fun a b => b.less a) c v

/-- The same major and, if given, minor number, and from there on at least as high. -/
def isNear (c : Comparator) (v : Version) : Bool :=
  v.major == c.major && c.minor.all (· == v.minor) &&
    match c.patch with
    | some patch => if v.patch != patch then patch < v.patch else v.pre.atLeast c.pre
    | none => v.pre.atLeast c.pre

/-- At least as high without a change of the leftmost number that is not zero. -/
def isCompatible (c : Comparator) (v : Version) : Bool :=
  v.major == c.major &&
    match c.minor, c.patch with
    | none, _ => true
    | some minor, none => if 0 < c.major then minor ≤ v.minor else v.minor == minor
    | some minor, some patch =>
      if 0 < c.major && v.minor != minor then minor < v.minor
      else if v.minor != minor then false
      else if (0 < c.major || 0 < minor) && v.patch != patch then patch < v.patch
      else if v.patch != patch then false
      else v.pre.atLeast c.pre

def holds (c : Comparator) (v : Version) : Bool :=
  match c.operator with
  | .exact | .wildcard => c.isEqual v
  | .greater => c.isBelow v
  | .greaterEq => c.isEqual v || c.isBelow v
  | .less => c.isAbove v
  | .lessEq => c.isEqual v || c.isAbove v
  | .tilde => c.isNear v
  | .caret => c.isCompatible v

/-- The comparator names a pre-release of the version's three numbers. -/
def admitsPreReleaseOf (c : Comparator) (v : Version) : Bool :=
  c.major == v.major && c.minor == some v.minor && c.patch == some v.patch && !c.pre.isEmpty

end Comparator

def Requirement.holds (r : Requirement) (v : Version) : Bool :=
  r.comparators.all (·.holds v) &&
    (v.pre.isEmpty || r.comparators.any (·.admitsPreReleaseOf v))

/-! ## Reading requirements -/

def skipSpaces (cs : List Char) : List Char := cs.dropWhile (· == ' ')

/-- An operator in front of a comparator, if one is written. -/
def readOperator : List Char → Option Operator × List Char
  | '=' :: cs => (some .exact, cs)
  | '>' :: '=' :: cs => (some .greaterEq, cs)
  | '>' :: cs => (some .greater, cs)
  | '<' :: '=' :: cs => (some .lessEq, cs)
  | '<' :: cs => (some .less, cs)
  | '~' :: cs => (some .tilde, cs)
  | '^' :: cs => (some .caret, cs)
  | cs => (none, cs)

def isWildcard (c : Char) : Bool := c == '*' || c == 'x' || c == 'X'

/-- A number that may be left out together with its dot, or be a wildcard. -/
inductive Component where
  | absent
  | wildcard
  | number (n : Nat)
deriving DecidableEq, Repr

def Component.value? : Component → Option Nat
  | .number n => some n
  | _ => none

/-- A minor or a patch number after a dot. No number may follow a wildcard. -/
def readComponent (part : Part) (afterWildcard : Bool) :
    List Char → Except ReadError (Component × List Char)
  | '.' :: cs =>
    match cs with
    | c :: rest =>
      if isWildcard c then .ok (.wildcard, rest)
      else if afterWildcard then .error .afterWildcard
      else (readNumber part cs).map fun (n, rest) => (.number n, rest)
    | [] => if afterWildcard then .error .afterWildcard else .error (.unexpectedEnd part)
  | cs => .ok (.absent, cs)

/-- One comparator, the last of its parts, and what follows after spaces. -/
def readComparator (cs : List Char) : Except ReadError (Comparator × Part × List Char) := do
  let (operator, cs) := readOperator cs
  let (major, cs) ← readNumber .major (skipSpaces cs)
  let (minor, cs) ← readComponent .minor false cs
  let (patch, cs) ← readComponent .patch (minor == .wildcard) cs
  let (pre, cs) ← if patch.value?.isSome then readPreRelease cs else pure (none, cs)
  let (build, cs) ← if patch.value?.isSome then readBuild cs else pure (none, cs)
  let last : Part :=
    if build.isSome then .build
    else if pre.isSome then .preRelease
    else if patch != .absent then .patch
    else if minor != .absent then .minor
    else .major
  let implied : Operator :=
    if minor == .wildcard || patch == .wildcard then .wildcard else .caret
  let comparator : Comparator :=
    { operator := operator.getD implied, major, minor := minor.value?, patch := patch.value?
      pre := pre.getD [] }
  return (comparator, last, skipSpaces cs)

/-- The number of comparators that a requirement may have. -/
def maxComparators : Nat := 32

/-- A wildcard in place of one of several comparators is reported as such. -/
def explain (cs : List Char) (e : ReadError) : ReadError :=
  match cs with
  | c :: rest =>
    if isWildcard c then
      match skipSpaces rest with
      | [] => .wildcardNotAlone c
      | ',' :: _ => .wildcardNotAlone c
      | _ => e
    else e
  | [] => e

/-- Comparators with commas between them, at most `room` of them. -/
def readComparators : Nat → List Char → Except ReadError (List Comparator)
  | 0, _ => .error .tooManyComparators
  | room + 1, cs =>
    match readComparator cs with
    | .error e => .error (explain cs e)
    | .ok (comparator, last, rest) =>
      match rest with
      | [] => .ok [comparator]
      | ',' :: rest => (readComparators room (skipSpaces rest)).map (comparator :: ·)
      | c :: _ => .error (.expectedComma last c)

/-- A requirement: a lone wildcard or a list of comparators. -/
def Requirement.ofChars (cs : List Char) : Except ReadError Requirement :=
  match skipSpaces cs with
  | [] => (readComparators maxComparators []).map .mk
  | c :: rest =>
    if isWildcard c then
      match skipSpaces rest with
      | [] => .ok ⟨[]⟩
      | ',' :: _ => .error (.wildcardNotAlone c)
      | _ => .error .afterWildcard
    else (readComparators maxComparators (c :: rest)).map .mk

end ReleaseBuilds.Version
