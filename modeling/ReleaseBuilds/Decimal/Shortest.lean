import ReleaseBuilds.Decimal.Binary64

/-!
# The shortest decimal that reads back

The digits shown for a double are the fewest that determine it: among the decimals that round to
the double, one with the least number of digits, and of those the nearest. Two formats are built
on these digits, one that always writes the number positionally and one that writes very large and
very small numbers with an exponent.
-/

namespace ReleaseBuilds.Decimal

/-- The decimal `digits * 10 ^ exponent`. -/
structure Digits where
  digits : Nat
  exponent : Int
deriving DecidableEq, Repr

/-- The numbers strictly between two neighbours' midpoints round to the double, and so do the
midpoints themselves when its mantissa is even. Bounds are numerators over a common denominator. -/
structure Neighbourhood where
  low : Nat
  value : Nat
  high : Nat
  den : Nat
  closed : Bool

/-- The gap below a power of two is half the gap above it, except at the bottom of the range. -/
def Neighbourhood.of (m : Magnitude) : Neighbourhood :=
  let narrow := m.mantissa == Nat.pow 2 52 && decide (-1074 < m.exponent)
  let scale := if 0 ≤ m.exponent then Nat.pow 2 m.exponent.toNat else 1
  let den := if 0 ≤ m.exponent then 1 else Nat.pow 2 (-m.exponent).toNat
  { low := (4 * m.mantissa - if narrow then 1 else 2) * scale
    value := 4 * m.mantissa * scale
    high := (4 * m.mantissa + 2) * scale
    den := 4 * den
    closed := m.mantissa % 2 == 0 }

/-- Whether `n * 10 ^ k` rounds to the double. -/
def Neighbourhood.contains (b : Neighbourhood) (n : Nat) (k : Int) : Bool :=
  let left := if 0 ≤ k then n * Nat.pow 10 k.toNat * b.den else n * b.den
  let grow := if 0 ≤ k then 1 else Nat.pow 10 (-k).toNat
  if b.closed then decide (b.low * grow ≤ left ∧ left ≤ b.high * grow)
  else decide (b.low * grow < left ∧ left < b.high * grow)

/-- The whole multiple of `10 ^ k` just below the double, and whether the upper one is nearer. -/
def Neighbourhood.floorAt (b : Neighbourhood) (k : Int) : Nat × Bool :=
  let num := if 0 ≤ k then b.value else b.value * Nat.pow 10 (-k).toNat
  let den := if 0 ≤ k then b.den * Nat.pow 10 k.toNat else b.den
  (num / den, decide (den < 2 * (num % den) ∨ (den = 2 * (num % den) ∧ num / den % 2 = 1)))

/-- On the grid of multiples of `10 ^ k`, the nearest point that rounds to the double. -/
def Neighbourhood.pointAt? (b : Neighbourhood) (k : Int) : Option Nat :=
  let (below, upper) := b.floorAt k
  let first := if upper then below + 1 else below
  let second := if upper then below else below + 1
  if b.contains first k then some first
  else if b.contains second k then some second
  else none

/-- Grids from coarse to fine; the first with a point wins. -/
def Neighbourhood.search (b : Neighbourhood) : Nat → Int → Digits
  | 0, k => ⟨(b.floorAt k).1, k⟩
  | tries + 1, k =>
    match b.pointAt? k with
    | some n => ⟨n, k⟩
    | none => b.search tries (k - 1)

/-- Trailing zeros moved into the exponent. -/
def Digits.strip : Nat → Digits → Digits
  | 0, d => d
  | tries + 1, d =>
    if d.digits != 0 && d.digits % 10 == 0 then strip tries ⟨d.digits / 10, d.exponent + 1⟩ else d

/-- The shortest digits of a positive double. No double needs a grid finer than `10 ^ (-324)` or
coarser than `10 ^ 308`. -/
def Magnitude.shortest (m : Magnitude) : Digits :=
  let b := Neighbourhood.of m
  let width := (Nat.toDigits 10 (b.value / b.den)).length
  let start : Int := if b.value / b.den == 0 then 0 else width
  (b.search 700 start).strip 700

/-- Written without an exponent; `point` asks for a fraction even when it is zero. -/
def Digits.positional (d : Digits) (point : Bool) : String :=
  let shown := Nat.toDigits 10 d.digits
  if 0 ≤ d.exponent then
    String.ofList (shown ++ List.replicate d.exponent.toNat '0') ++ if point then ".0" else ""
  else
    let places := (-d.exponent).toNat
    let padded := List.replicate (places + 1 - shown.length) '0' ++ shown
    let whole := padded.take (padded.length - places)
    String.ofList (whole ++ '.' :: padded.drop (padded.length - places))

/-- Written as one digit, the remaining digits after a point, and an exponent. -/
def Digits.scientific (d : Digits) : String :=
  match Nat.toDigits 10 d.digits with
  | [] => "0"
  | first :: rest =>
    let power := d.exponent + rest.length
    let fraction := if rest.isEmpty then [] else '.' :: rest
    String.ofList (first :: fraction) ++ "e" ++ toString power

/-- A double written positionally: `1`, `0.25`, `-0`, `inf`. -/
def plainText (x : Float) : String :=
  match Reading.ofBits x.toBits with
  | .notANumber => "NaN"
  | .infinite negative => if negative then "-inf" else "inf"
  | .finite negative m =>
    let sign := if negative then "-" else ""
    if m.mantissa == 0 then sign ++ "0" else sign ++ m.shortest.positional false

/-- A double written with at least one place: `1.0`, `0.25`; below `0.0001` and from `10 ^ 16` on it
is written with an exponent: `1e16`, `5e-5`. -/
def pointedText (x : Float) : String :=
  match Reading.ofBits x.toBits with
  | .notANumber => "NaN"
  | .infinite negative => if negative then "-inf" else "inf"
  | .finite negative m =>
    let sign := if negative then "-" else ""
    if m.mantissa == 0 then sign ++ "0.0"
    else
      let d := m.shortest
      let size := d.exponent + (Nat.toDigits 10 d.digits).length
      if -3 ≤ size ∧ size ≤ 16 then sign ++ d.positional true else sign ++ d.scientific

end ReleaseBuilds.Decimal
