/-!
# Doubles as exact fractions

A finite double is a whole number times a power of two. This module takes doubles apart in that way
and rounds exact quotients to whole numbers, so that texts and durations are chosen in exact
arithmetic and not by further rounding.
-/

namespace ReleaseBuilds.Decimal

/-- The magnitude `mantissa * 2 ^ exponent` of a finite double. -/
structure Magnitude where
  mantissa : Nat
  exponent : Int
deriving DecidableEq, Repr

/-- What the bits of a double stand for. -/
inductive Reading where
  | finite (negative : Bool) (magnitude : Magnitude)
  | infinite (negative : Bool)
  | notANumber
deriving DecidableEq, Repr

/-- Sign, eleven bits of exponent and fifty-two bits of fraction, with the hidden bit restored. -/
def Reading.ofBits (bits : UInt64) : Reading :=
  let n := bits.toNat
  let negative := n / Nat.pow 2 63 == 1
  let power : Nat := n / Nat.pow 2 52 % 2048
  let fraction : Nat := n % Nat.pow 2 52
  if power == 2047 then
    if fraction == 0 then .infinite negative else .notANumber
  else if power == 0 then .finite negative ⟨fraction, -1074⟩
  else .finite negative ⟨Nat.pow 2 52 + fraction, Int.ofNat power - 1075⟩

/-- Numerator and denominator of `m * scale`. -/
def Magnitude.quotient (m : Magnitude) (scale : Nat) : Nat × Nat :=
  if 0 ≤ m.exponent then (m.mantissa * scale * Nat.pow 2 m.exponent.toNat, 1)
  else (m.mantissa * scale, Nat.pow 2 (-m.exponent).toNat)

/-- The whole number nearest to `num / den`; a half goes to the even neighbour. -/
def roundHalfEven (num den : Nat) : Nat :=
  let below := num / den
  let rest := 2 * (num % den)
  if rest < den then below
  else if den < rest then below + 1
  else if below % 2 == 0 then below
  else below + 1

end ReleaseBuilds.Decimal
