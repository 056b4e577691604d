import ReleaseBuilds.Json.Reader
import ReleaseBuilds.Json.Record

/-!
# Plain values

Where a value of any form is allowed, it is brought into a plain form: each name stands once in an
object, a text that holds an embedded value gives way to that value, and every number is an
integer of 64 bits or a double. A value that is nested too deeply or ill-formed, or in which a
number is too large for a double, has no plain form.
-/

namespace ReleaseBuilds.Json

/-- Values nested more deeply than this are refused where any value is allowed. -/
def maxDepth : Nat := 127

/-- The name that marks an object as the text of an embedded value. -/
def embeddedName : String := "$serde_json::private::RawValue"

/-- What an object embeds if its first member says that it embeds something. That member must be a
text and stand alone. -/
def embedded? : List (String × Json) → Option (Option String)
  | [] => none
  | (name, j) :: rest =>
    if name == embeddedName then some (if rest.isEmpty then j.asText? else none) else none

mutual

/-- A value of at most the given depth with each name once and with what `embed` gives for the
texts of embedded values. -/
def expandWith? (embed : String → Option Json) (depth : Nat) : Json → Option Json
  | .illFormed => none
  | .array items =>
    match depth with
    | 0 => none
    | depth + 1 => (expandItems? embed depth items).map .array
  | .object members =>
    match depth with
    | 0 => none
    | depth + 1 =>
      match embedded? members with
      | some inner => inner.bind embed
      | none =>
        (expandMembers? embed depth members).map fun ms => .object (TextMap.ofList ms).entries
  | j => some j

def expandItems? (embed : String → Option Json) (depth : Nat) : List Json → Option (List Json)
  | [] => some []
  | j :: rest =>
    match expandWith? embed depth j, expandItems? embed depth rest with
    | some j, some rest => some (j :: rest)
    | _, _ => none

def expandMembers? (embed : String → Option Json) (depth : Nat) :
    List (String × Json) → Option (List (String × Json))
  | [] => some []
  | (name, j) :: rest =>
    match expandWith? embed depth j, expandMembers? embed depth rest with
    | some j, some rest => some ((name, j) :: rest)
    | _, _ => none

end

/-- The value in a text, in which values are embedded less than `fuel` times within each other. -/
def ofEmbedded? : Nat → String → Option Json
  | 0, _ => none
  | fuel + 1, s => (ofText? s).bind (expandWith? (ofEmbedded? fuel) maxDepth)

/-- A value of at most the given depth with each name once and with embedded values in their
place. An embedded text is shorter than the text around it, so its length is enough fuel. -/
def expand? (depth : Nat) (j : Json) : Option Json :=
  expandWith? (fun s => ofEmbedded? (s.length + 1) s) depth j

/-- Integers that fit into 64 bits are kept, all other numbers count as the double they
stand for. -/
def Number.round? (n : Number) : Option Number :=
  match n with
  | .integer i =>
    if Int64.minValue.toInt ≤ i ∧ i < UInt64.size then some n else Number.ofFloat? n.toFloat
  | .decimal .. => Number.ofFloat? n.toFloat

mutual

/-- A value with every number in it rounded. -/
def round? : Json → Option Json
  | .number n => n.round?.map .number
  | .array items => (roundItems? items).map .array
  | .object members => (roundMembers? members).map .object
  | j => some j

def roundItems? : List Json → Option (List Json)
  | [] => some []
  | j :: rest =>
    match round? j, roundItems? rest with
    | some j, some rest => some (j :: rest)
    | _, _ => none

def roundMembers? : List (String × Json) → Option (List (String × Json))
  | [] => some []
  | (name, j) :: rest =>
    match round? j, roundMembers? rest with
    | some j, some rest => some ((name, j) :: rest)
    | _, _ => none

end

/-- The plain form of a value of at most the given depth. -/
def plain? (depth : Nat) (j : Json) : Option Json := (j.expand? depth).bind round?

end ReleaseBuilds.Json
