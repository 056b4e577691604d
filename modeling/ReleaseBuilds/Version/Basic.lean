import ReleaseBuilds.Text.Quoted

/-!
# Semantic versions

Versions of SemVer 2.0.0 with components below 2^64: their order of precedence, in which build
metadata does not count, and the reasons why a text is no version or no requirement.
-/

namespace ReleaseBuilds

/-- A segment of a pre-release: a number, or a word that is not made of digits alone. -/
inductive Version.Segment where
  | number (n : Nat)
  | word (s : String)
deriving DecidableEq, Repr

/-- The segments of a pre-release. None at all means that the version is a release. -/
abbrev Version.PreRelease := List Version.Segment

structure Version where
  major : Nat
  minor : Nat
  patch : Nat
  pre : Version.PreRelease := []
  build : List String := []
deriving DecidableEq, Repr

namespace Version

/-- Numbers in their order come before words in the order of their characters. -/
def Segment.less : Segment → Segment → Bool
  | .number m, .number n => m < n
  | .number _, .word _ => true
  | .word _, .number _ => false
  | .word s, .word t => s < t

/-- Segments are compared from the left; a list comes after its beginnings. -/
def segmentsLess : List Segment → List Segment → Bool
  | _, [] => false
  | [], _ :: _ => true
  | a :: as, b :: bs => a.less b || (a == b && segmentsLess as bs)

/-- A pre-release comes before its release. -/
def PreRelease.less : PreRelease → PreRelease → Bool
  | [], _ => false
  | _ :: _, [] => true
  | a, b => segmentsLess a b

/-- Not before. -/
def PreRelease.atLeast (a b : PreRelease) : Bool := a == b || b.less a

/-- The parts of a version and of a comparator. -/
inductive Part where
  | major | minor | patch | preRelease | build
deriving DecidableEq, Repr

def Part.text : Part → String
  | .major => "major version number"
  | .minor => "minor version number"
  | .patch => "patch version number"
  | .preRelease => "pre-release identifier"
  | .build => "build metadata"

/-- Why a text cannot be read. -/
inductive ReadError where
  | empty
  | unexpectedEnd (part : Part)
  | unexpectedChar (part : Part) (c : Char)
  | unexpectedCharAfter (part : Part) (c : Char)
  | expectedComma (part : Part) (found : Char)
  | leadingZero (part : Part)
  | tooLarge (part : Part)
  | emptySegment (part : Part)
  | wildcardNotAlone (wildcard : Char)
  | afterWildcard
  | tooManyComparators
deriving DecidableEq, Repr

def ReadError.message : ReadError → String
  | .empty => "empty string, expected a semver version"
  | .unexpectedEnd part => "unexpected end of input while parsing " ++ part.text
  | .unexpectedChar part c =>
    "unexpected character " ++ Text.quotedChar c ++ " while parsing " ++ part.text
  | .unexpectedCharAfter part c =>
    "unexpected character " ++ Text.quotedChar c ++ " after " ++ part.text
  | .expectedComma part found =>
    "expected comma after " ++ part.text ++ ", found " ++ Text.quotedChar found
  | .leadingZero part => "invalid leading zero in " ++ part.text
  | .tooLarge part => "value of " ++ part.text ++ " exceeds u64::MAX"
  | .emptySegment part => "empty identifier segment in " ++ part.text
  | .wildcardNotAlone wildcard =>
    "wildcard req (" ++ wildcard.toString ++
      ") must be the only comparator in the version req"
  | .afterWildcard => "unexpected character after wildcard in version req"
  | .tooManyComparators => "excessive number of version comparators"

end Version

end ReleaseBuilds
