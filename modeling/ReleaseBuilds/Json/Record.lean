import ReleaseBuilds.Json.Basic
import ReleaseBuilds.Data.TextMap

/-!
# Reading typed values from JSON

Plain values, lists, maps and records. A record is either an object, in which unknown members are
ignored and a known one may stand only once, or an array of its fields in their declared order.
Failure carries no reason: a value has the expected form or it does not.
-/

namespace ReleaseBuilds.Json

def asText? : Json → Option String
  | .text s => some s
  | _ => none

def asBool? : Json → Option Bool
  | .bool b => some b
  | _ => none

/-- An integer, written without point and exponent, from `low` to `high`. -/
def asInt? (low high : Int) : Json → Option Int
  | .number (.integer n) => if low ≤ n ∧ n ≤ high then some n else none
  | _ => none

/-- A natural number below `bound`. -/
def asNat? (bound : Nat) (j : Json) : Option Nat :=
  (asInt? 0 (bound - 1) j).map Int.toNat

/-- `null` as nothing, any other value as `read` reads it. -/
def asOption? {α : Type} (read : Json → Option α) : Json → Option (Option α)
  | .null => some none
  | j => (read j).map some

/-- Every item read in order. -/
def readAll? {α : Type} (read : Json → Option α) : List Json → Option (List α)
  | [] => some []
  | j :: rest =>
    match read j, readAll? read rest with
    | some a, some as => some (a :: as)
    | _, _ => none

def asList? {α : Type} (read : Json → Option α) : Json → Option (List α)
  | .array items => readAll? read items
  | _ => none

/-- Every member's value read in order. -/
def readEntries? {α : Type} (read : Json → Option α) :
    List (String × Json) → Option (List (String × α))
  | [] => some []
  | (name, j) :: rest =>
    match read j, readEntries? read rest with
    | some a, some as => some ((name, a) :: as)
    | _, _ => none

/-- An object as a map; of several members with one name the last counts. -/
def asMap? {α : Type} (read : Json → Option α) : Json → Option (TextMap α)
  | .object members => (readEntries? read members).map TextMap.ofList
  | _ => none

/-- A map as an object, in the order of its keys. -/
def ofMap {α : Type} (encode : α → Json) (m : TextMap α) : Json :=
  .object (m.entries.map fun e => (e.1, encode e.2))

/-- What a record holds for one of its fields. A record that is given as an array may end before the
field. -/
inductive Slot where
  | present (value : Json)
  | absent
  | ended
deriving Repr

/-- The fields of a record by name. -/
abbrev Fields := String → Slot

/-- A record with the given fields, from an object or an array. -/
def record? (names : List String) : Json → Option Fields
  | .object members =>
    if names.all fun name => (members.filter fun m => m.1 == name).length ≤ 1 then
      some fun name =>
        match members.lookup name with
        | some value => .present value
        | none => .absent
    else none
  | .array items =>
    if items.length ≤ names.length then
      some fun name =>
        match (names.zip items).lookup name with
        | some value => .present value
        | none => .ended
    else none
  | _ => none

namespace Slot

variable {α : Type}

/-- A field that must be given. -/
def required (read : Json → Option α) : Slot → Option α
  | .present j => read j
  | _ => none

/-- A field that may be missing and then has a given value. `null` does not count as missing. -/
def orElse (default : α) (read : Json → Option α) : Slot → Option α
  | .present j => read j
  | _ => some default

/-- A field that may be missing or `null`. -/
def optional (read : Json → Option α) : Slot → Option (Option α)
  | .present j => asOption? read j
  | _ => some none

/-- A field that may be missing from an object or be `null`, but not be cut off an array. -/
def optionalMember (read : Json → Option α) : Slot → Option (Option α)
  | .present j => asOption? read j
  | .absent => some none
  | .ended => none

end Slot

/-- A member that is always written. -/
def always (name : String) (value : Json) : Option (String × Json) := some (name, value)

/-- A member that is written only if there is a value for it. -/
def whenPresent {α : Type} (name : String) (encode : α → Json) (value : Option α) :
    Option (String × Json) := value.map fun a => (name, encode a)

/-- An object of the members that are written. -/
def ofMembers (members : List (Option (String × Json))) : Json := .object (members.filterMap id)

end ReleaseBuilds.Json
