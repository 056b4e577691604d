import ReleaseBuilds.Json.Record

/-!
# Schemas

What a cluster is told about the values in a resource. A schema says of what type a value is and
which parts it has; notes on it explain the value, give its default, or allow `null`.
-/

namespace ReleaseBuilds.Kubernetes

/-- What is added to the type of a value. -/
inductive Note where
  | title (text : String)
  | description (text : String)
  /-- The value that a missing one counts as. -/
  | default (value : Json)
  /-- `null` is allowed too. -/
  | nullable
deriving Repr

inductive Schema where
  | text
  | instant
  | bool
  /-- A whole number of 32 bits that is not negative. -/
  | count
  | list (item : Schema)
  | map (value : Schema)
  /-- The fields with the names of those that must be there. -/
  | record (required : List String) (fields : List (String × Schema))
  | noted (note : Note) (schema : Schema)
deriving Repr

def Note.member : Note → String × Json
  | .title text => ("title", .text text)
  | .description text => ("description", .text text)
  | .default value => ("default", value)
  | .nullable => ("nullable", .bool true)

namespace Schema

def describe (text : String) (s : Schema) : Schema := .noted (.description text) s

def orElse (value : Json) (s : Schema) : Schema := .noted (.default value) s

def orNull (s : Schema) : Schema := .noted .nullable s

def entitle (text : String) (s : Schema) : Schema := .noted (.title text) s

/-- An object with its members in the order of their names. -/
def ordered (members : List (String × Json)) : Json := Json.ofMap id (TextMap.ofList members)

/-- The member that states a type. -/
def typed (name : String) : String × Json := ("type", .text name)

mutual

def members : Schema → List (String × Json)
  | .text => [typed "string"]
  | .instant => [typed "string", ("format", .text "date-time")]
  | .bool => [typed "boolean"]
  | .count =>
    [typed "integer", ("format", .text "uint32"), ("minimum", .number (.decimal false 0 0 0))]
  | .list item => [typed "array", ("items", ordered (members item))]
  | .map value => [typed "object", ("additionalProperties", ordered (members value))]
  | .record required fields =>
    let whole := [typed "object", ("properties", ordered (fieldMembers fields))]
    if required.isEmpty then whole
    else whole ++ [("required", Json.ofList .text (required.mergeSort fun a b => decide (a ≤ b)))]
  | .noted note schema => note.member :: members schema

def fieldMembers : List (String × Schema) → List (String × Json)
  | [] => []
  | (name, schema) :: rest => (name, ordered (members schema)) :: fieldMembers rest

end

def toJson (s : Schema) : Json := ordered s.members

end Schema

end ReleaseBuilds.Kubernetes
