import ReleaseBuilds.Json.Plain
import ReleaseBuilds.Time.Rfc3339

/-!
# Shapes of carried values

A resource holds much that is only carried along: it must have the expected form and is
written again in a normal form. A shape states the form; `Shape.normalise?` checks a
value and normalises it.

Records come in two kinds. A strict record is read as in `Json.record?`. A lenient
record is an object in which a member may be repeated, the last one counting, and in
which `null` stands for a missing member.
-/

namespace ReleaseBuilds.Kubernetes

/-- What becomes of a field that is missing, and when a field is written. -/
inductive Presence where
  /-- The field must be there. -/
  | required
  /-- The field may be missing or `null`, and is then not written. -/
  | optional
  /-- A missing field or `null` counts as the given value, and the field is always written. -/
  | orElse (value : Json)
  /-- The field may be missing; it is not written when it is empty. -/
  | unlessEmpty
  /-- If it is there, the field must hold the given text. It is always written. -/
  | constant (fixed : String)

/-- The form of a value. -/
inductive Shape where
  | text
  | bool
  | integer (low high : Int)
  | time
  | anything
  | list (item : Shape)
  | map (value : Shape)
  | record (strict : Bool) (fields : List (String × Presence × Shape))

namespace Shape

/-- The values that a record gives for a name, in order. -/
def valuesOf? (strict : Bool) (names : List String) (j : Json) : Option (String → List Json) :=
  if strict then
    (j.record? names).map fun fields name =>
      match fields name with
      | .present value => [value]
      | _ => []
  else
    match j with
    | .object members => some fun name => (members.filter fun m => m.1 == name).map Prod.snd
    | _ => none

/-- The values of a field, each checked by `read`; the last one decides what is written. -/
def readField? (presence : Presence) (read : Json → Option Json) (values : List Json) :
    Option (Option Json) :=
  match presence with
  | .required => (Json.readAll? read values).bind fun vs => vs.getLast?.map some
  | .optional => (Json.readAll? (Json.asOption? read) values).map fun vs => vs.getLast?.join
  | .orElse value =>
    (Json.readAll? (Json.asOption? read) values).map fun vs => some (vs.getLast?.join.getD value)
  | .unlessEmpty =>
    (Json.readAll? read values).map fun vs =>
      match vs.getLast? with
      | some (.array []) => none
      | last => last
  | .constant fixed =>
    if values.all fun v => v.asText? == some fixed then some (some (.text fixed)) else none

mutual

/-- The normal form of a value that has the shape; `depth` says how deep the value lies. -/
def normalise? : Shape → Nat → Json → Option Json
  | .text, _, j => j.asText?.map .text
  | .bool, _, j => j.asBool?.map .bool
  | .integer low high, _, j => (j.asInt? low high).map .ofInt
  | .time, _, j => (j.asText?.bind Instant.ofText?).map fun t => .text t.toSecondsText
  | .anything, depth, j => j.plain? (Json.maxDepth - depth)
  | .list item, depth, j =>
    (j.asList? (normalise? item (depth + 1))).map .array
  | .map value, depth, j =>
    (j.asMap? (normalise? value (depth + 1))).map (Json.ofMap id)
  | .record strict fields, depth, j =>
    ((valuesOf? strict (fields.map fun f => f.1) j).bind (normaliseFields? fields (depth + 1))).map
      .object

/-- The members that a record with the given fields writes. -/
def normaliseFields? : List (String × Presence × Shape) → Nat → (String → List Json) →
    Option (List (String × Json))
  | [], _, _ => some []
  | (name, presence, shape) :: rest, depth, values =>
    match readField? presence (normalise? shape depth) (values name),
      normaliseFields? rest depth values with
    | some (some j), some members => some ((name, j) :: members)
    | some none, some members => some members
    | _, _ => none

end

/-- A lenient record with the given fields. -/
def object (fields : List (String × Presence × Shape)) : Shape := .record false fields

/-- A signed integer of 32 bits. -/
def int32 : Shape := .integer Int32.minValue.toInt Int32.maxValue.toInt

/-- A signed integer of 64 bits. -/
def int64 : Shape := .integer Int64.minValue.toInt Int64.maxValue.toInt

end Shape

/-- A text that counts as empty when it is missing. -/
def Presence.orEmpty : Presence := .orElse (.text "")

end ReleaseBuilds.Kubernetes
