/-!
# Text from units

A text is given as numbers, each the code point of a character or one half of a
surrogate pair. The two halves of a pair stand next to each other, the high one first;
half a pair is no character.
-/

namespace ReleaseBuilds.Text

def isHighSurrogate (n : Nat) : Bool := 0xD800 ≤ n && n ≤ 0xDBFF

def isLowSurrogate (n : Nat) : Bool := 0xDC00 ≤ n && n ≤ 0xDFFF

/-- The character of a surrogate pair. -/
def ofPair (high low : Nat) : Char :=
  Char.ofNat (0x10000 + (high - 0xD800) * 0x400 + (low - 0xDC00))

/-- The text of the given units after the characters `seen`, which stand in reverse; `none` if
half of a pair stands alone. -/
def ofUnits? (seen : List Char) : List Nat → Option String
  | [] => some (String.ofList seen.reverse)
  | n :: rest =>
    if isHighSurrogate n then
      match rest with
      | m :: rest => if isLowSurrogate m then ofUnits? (ofPair n m :: seen) rest else none
      | [] => none
    else if isLowSurrogate n then none
    else ofUnits? (Char.ofNat n :: seen) rest

end ReleaseBuilds.Text
