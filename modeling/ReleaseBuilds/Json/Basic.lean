import ReleaseBuilds.Decimal.Shortest
import ReleaseBuilds.Decimal.Reader

/-!
# JSON values

Values as a text states them: members stay in the order in which they are written, names may repeat,
and a number is kept exactly. Whether a repeated name or the size of a number matters is decided by
whoever reads the value. A value that is not well formed as text can only be passed over.
-/

namespace ReleaseBuilds

/-- A number without point and exponent is an integer of any size; any other is a decimal. The
last `places` of its digits stand after the point, so that it is `digits * 10 ^ (exponent -
places)`. Negative zero counts as a decimal. -/
inductive Json.Number where
  | integer (n : Int)
  | decimal (negative : Bool) (digits places : Nat) (exponent : Int)
deriving DecidableEq, Repr

inductive Json where
  | null
  | bool (b : Bool)
  | number (n : Json.Number)
  | text (s : String)
  /-- A text with half of a surrogate pair, or an object in which the name of a member
  is such a text. -/
  | illFormed
  | array (items : List Json)
  | object (members : List (String × Json))
deriving Repr, BEq

namespace Json

instance : Inhabited Json := ⟨.null⟩

def ofInt (n : Int) : Json := .number (.integer n)

def ofNat (n : Nat) : Json := ofInt n

/-- `null` for nothing. -/
def ofOption {α : Type} (encode : α → Json) : Option α → Json
  | none => .null
  | some a => encode a

/-- An array of encoded values. -/
def ofList {α : Type} (encode : α → Json) (as : List α) : Json := .array (as.map encode)

/-- The value of the first member with the given name. -/
def get? (name : String) : Json → Option Json
  | .object members => members.lookup name
  | _ => none

/-- The digits before and after the point. There is at least one digit before it. -/
def Number.split (digits places : Nat) : List Char × List Char :=
  let shown := Nat.toDigits 10 digits
  let shown := List.replicate (places + 1 - shown.length) '0' ++ shown
  shown.splitAt (shown.length - places)

/-- A number below 2^64 extended by further digits as long as it stays below, and the digits that
are left over. -/
def Number.extend (n : Nat) : List Char → Nat × List Char
  | [] => (n, [])
  | c :: cs =>
    let next := 10 * n + (c.toNat - '0'.toNat)
    if next < UInt64.size then extend next cs else (n, c :: cs)

/-- The leading digits of a decimal that together stay below 2^64, and the exponent of the last of
them. A digit before the point that is left over still counts in the exponent, and it does not
keep the digits after the point from being taken. -/
def Number.leading (digits places : Nat) (exponent : Int) : Nat × Int :=
  let (whole, fraction) := split digits places
  let (n, above) := extend 0 whole
  let (n, below) := extend n fraction
  (n, exponent + above.length - (fraction.length - below.length : Nat))

/-- A double times a power of ten, itself rounded to a double. Powers below `10 ^ (-308)` are
applied in two steps. -/
def Number.scale (x : Float) (exponent : Int) : Float :=
  let power := fun (n : Int) => Decimal.nearest 1 n
  if 0 ≤ exponent then x * power exponent
  else if -308 ≤ exponent then x / power (-exponent)
  else x / power 308 / power (-exponent - 308)

/-- The double that a number stands for: its leading digits as a double, scaled by a power of ten.
Both steps round, so the result can be a neighbour of the nearest double. -/
def Number.toFloat (n : Number) : Float :=
  let (negative, digits, exponent) :=
    match n with
    | .integer n => (decide (n < 0), leading n.natAbs 0 0)
    | .decimal negative digits places exponent => (negative, leading digits places exponent)
  let size := if digits == 0 then 0.0 else scale digits.toUInt64.toFloat exponent
  if negative then -size else size

/-- A double in its shortest digits; `none` for infinity and "not a number". A whole number of at
most 16 digits has all of them and one place, which is zero. -/
def Number.ofFloat? (x : Float) : Option Number :=
  match Decimal.Reading.ofBits x.toBits with
  | .finite negative m =>
    if m.mantissa == 0 then some (.decimal negative 0 1 0)
    else
      let ⟨digits, exponent⟩ := m.shortest
      let size := exponent + (Nat.toDigits 10 digits).length
      if 0 ≤ exponent && size ≤ 16 then
        some (.decimal negative (digits * Nat.pow 10 (exponent.toNat + 1)) 1 0)
      else some (.decimal negative digits 0 exponent)
  | _ => none

end Json

end ReleaseBuilds
