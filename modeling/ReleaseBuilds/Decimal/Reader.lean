import ReleaseBuilds.Decimal.Binary64

/-!
# Numbers read from text

Whole numbers are an optional plus sign and decimal digits, within a bound. Doubles are decimals
with an optional sign, point and exponent, or the words for infinity and "not a number"; a decimal
is read as the double nearest to it. Blanks are not skipped here.
-/

namespace ReleaseBuilds.Decimal

/-- The value of a list of decimal digits; `none` for an empty list or another character. -/
def digits? (cs : List Char) : Option Nat :=
  if cs.isEmpty || !cs.all Char.isDigit then none
  else some (cs.foldl (fun n c => 10 * n + (c.toNat - '0'.toNat)) 0)

/-- A whole number below `bound`. A plus sign and leading zeros are allowed, a minus sign is not. -/
def nat? (bound : Nat) (s : String) : Option Nat :=
  let read := fun cs => (digits? cs).filter (· < bound)
  match s.toList with
  | '+' :: cs => read cs
  | cs => read cs

/-- A whole number from `-bound` up to and without `bound`. -/
def int? (bound : Nat) (s : String) : Option Int :=
  let below := fun cs => ((digits? cs).filter (· < bound)).map Int.ofNat
  match s.toList with
  | '+' :: cs => below cs
  | '-' :: cs => ((digits? cs).filter (· ≤ bound)).map fun n => -(n : Int)
  | cs => below cs

/-- The exponent of the largest power of two that does not exceed `num / den`. -/
def binaryOrder (num den : Nat) : Int :=
  let order : Int := (num.log2 : Int) - den.log2
  let reached :=
    if 0 ≤ order then den * Nat.pow 2 order.toNat ≤ num
    else den ≤ num * Nat.pow 2 (-order).toNat
  if reached then order else order - 1

/-- The double nearest to `num / den`; a half goes to the even neighbour. The grid of doubles ends
at `2 ^ (-1074)`, and what lies beyond the largest double counts as infinity. -/
def ofQuotient (num den : Nat) : Float :=
  let grid := max (binaryOrder num den - 52) (-1074)
  let mantissa :=
    if 0 ≤ grid then roundHalfEven num (den * Nat.pow 2 grid.toNat)
    else roundHalfEven (num * Nat.pow 2 (-grid).toNat) den
  Float.ofBits (UInt64.ofNat
    (min (mantissa + (grid + 1074).toNat * Nat.pow 2 52) 0x7ff0000000000000))

/-- The double nearest to `digits * 10 ^ exponent`. Far beyond the range of doubles the size of the
decimal alone decides, so that no huge power of ten is formed. -/
def nearest (digits : Nat) (exponent : Int) : Float :=
  let size := exponent + (Nat.toDigits 10 digits).length
  if digits == 0 || size < -330 then 0.0
  else if 310 < size then Float.ofBits 0x7ff0000000000000
  else if 0 ≤ exponent then ofQuotient (digits * Nat.pow 10 exponent.toNat) 1
  else ofQuotient digits (Nat.pow 10 (-exponent).toNat)

/-- The exponent part of a decimal: nothing, or `e` or `E` with an optional sign and digits. -/
def exponent? : List Char → Option Int
  | [] => some 0
  | c :: cs =>
    if c == 'e' || c == 'E' then
      match cs with
      | '+' :: ds => (digits? ds).map Int.ofNat
      | '-' :: ds => (digits? ds).map fun n => -(n : Int)
      | ds => (digits? ds).map Int.ofNat
    else none

/-- An unsigned decimal such as `12`, `12.`, `.5` or `1.5e3`: digits on at least one side of the
point. -/
def unsigned? (cs : List Char) : Option Float :=
  let whole := cs.takeWhile Char.isDigit
  let rest := cs.dropWhile Char.isDigit
  let (places, tail) :=
    match rest with
    | '.' :: ds => (ds.takeWhile Char.isDigit, ds.dropWhile Char.isDigit)
    | ds => ([], ds)
  match digits? (whole ++ places), exponent? tail with
  | some digits, some power => some (nearest digits (power - places.length))
  | _, _ => none

/-- An unsigned decimal, `inf`, `infinity` or `nan`, the words in any case. -/
def magnitude? (cs : List Char) : Option Float :=
  let word := String.ofList (cs.map Char.toLower)
  if word == "inf" || word == "infinity" then some (Float.ofBits 0x7ff0000000000000)
  else if word == "nan" then some (Float.ofBits 0x7ff8000000000000)
  else unsigned? cs

/-- A double with an optional sign. -/
def float? (s : String) : Option Float :=
  match s.toList with
  | '+' :: cs => magnitude? cs
  | '-' :: cs => (magnitude? cs).map fun x => -x
  | cs => magnitude? cs

end ReleaseBuilds.Decimal
