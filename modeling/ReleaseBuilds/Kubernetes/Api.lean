import ReleaseBuilds.Dialogue
import ReleaseBuilds.Json.Reader
import ReleaseBuilds.Kubernetes.Metadata

/-!
# Requests to the cluster

How resources are asked for: the target of a request, what an answer means, and the dialogue with a
cluster, of which each question is one request. A name that cannot stand in a target fails before
anything is sent.
-/

namespace ReleaseBuilds.Kubernetes

structure ApiRequest where
  method : String
  path : String
  /-- The pieces of the query in ascending order. -/
  query : List String := []
  contentType : Option String := none
  body : Option Json := none

structure ApiResponse where
  status : Nat
  body : String
deriving DecidableEq, Repr

/-- Why a request has no result. -/
inductive ApiError where
  /-- Nothing could be sent, no answer arrived, or the answer is not of the expected form. -/
  | failed
  /-- The cluster refused, with a code and a reason. -/
  | refused (code : Nat) (reason : String)
deriving DecidableEq, Repr

namespace ApiError

def code? : ApiError → Option Nat
  | .failed => none
  | .refused code _ => some code

/-- The cluster says that there is no such resource. -/
def saysNotFound : ApiError → Bool
  | .failed => false
  | .refused _ reason => reason == "NotFound"

end ApiError

/-! ## Targets -/

/-- A character that may stand in the path of a target as it is. -/
def isPathChar (c : Char) : Bool := '!' ≤ c && !"#<>?`".toList.contains c

/-- A character that may stand in the query of a target as it is. -/
def isQueryChar (c : Char) : Bool := '!' ≤ c && !"\"#<>".toList.contains c

/-- The length in bytes up to which a target can be sent. -/
def maxTargetSize : Nat := 65534

/-- The pieces of a query: what stands between the signs that divide them. -/
def queryPieces (cs : List Char) : List String :=
  ((String.ofList cs).splitOn "&").filter fun piece => piece != ""

/-- A request for a target. A question mark divides the path from the query, and nothing is sent of
what follows a number sign. -/
def ApiRequest.of? (method : String) (target : String) (contentType : Option String := none)
    (body : Option Json := none) : Option ApiRequest :=
  let sent := target.toList.takeWhile fun c => c != '#'
  let path := sent.takeWhile fun c => c != '?'
  let query := (sent.drop path.length).drop 1
  if target.utf8ByteSize ≤ maxTargetSize && path.all isPathChar && query.all isQueryChar then
    some { method, path := String.ofList path
           query := (queryPieces query).mergeSort fun a b => decide (a ≤ b)
           contentType, body }
  else none

/-- The target of all resources of a kind in a namespace. -/
def Kind.collection (k : Kind) (ns : String) : String :=
  "/apis/" ++ k.apiVersion ++ "/namespaces/" ++ ns ++ "/" ++ k.plural

/-- The target of one resource, which must have a name. -/
def Kind.object? (k : Kind) (ns name : String) : Option String :=
  if name == "" then none else some (k.collection ns ++ "/" ++ name)

/-! ## Answers -/

/-- What the body of a refusal says: a code and a reason. -/
def refusalOfJson? (j : Json) : Option ApiError := do
  let fields ← j.record? ["status", "message", "reason", "code"]
  let _ ← (fields "status").required Json.asText?
  let _ ← (fields "message").orElse "" Json.asText?
  let reason ← (fields "reason").orElse "" Json.asText?
  let code ← (fields "code").required (Json.asNat? UInt16.size)
  return .refused code reason

/-- What an answer means. A refusal that does not explain itself has the code of its status. -/
def ApiResponse.result {α : Type} (r : ApiResponse) (read : Json → Option α) :
    Except ApiError α :=
  if 400 ≤ r.status && r.status < 600 then
    .error (((Json.ofText? r.body).bind refusalOfJson?).getD
      (.refused r.status "Failed to parse error data"))
  else
    match (Json.ofText? r.body).bind read with
    | some a => .ok a
    | none => .error .failed

/-! ## The dialogue -/

namespace Api

/-- A dialogue with a cluster. A request may get no answer. -/
abbrev Talk := Dialogue ApiRequest fun _ => Option ApiResponse

/-- A request and the meaning of its answer. -/
def ask {α : Type} (request : Option ApiRequest) (read : Json → Option α) :
    Talk (Except ApiError α) :=
  match request with
  | none => return .error .failed
  | some request => do
    match ← Dialogue.question request with
    | none => return .error .failed
    | some response => return response.result read

/-- A resource by its name. -/
def get {α : Type} (k : Kind) (ns name : String) (read : Json → Option α) :
    Talk (Except ApiError α) :=
  ask ((k.object? ns name).bind fun target => ApiRequest.of? "GET" target) read

/-- A new resource. The target ends in a question mark, after which there are no options. -/
def create {α : Type} (k : Kind) (ns : String) (body : Json) (read : Json → Option α) :
    Talk (Except ApiError α) :=
  ask (ApiRequest.of? "POST" (k.collection ns ++ "?") (some "application/json") (some body)) read

/-- A resource changed by what a body says, under a suffix of its target. -/
def patch {α : Type} (k : Kind) (ns name suffix contentType : String) (body : Json)
    (read : Json → Option α) : Talk (Except ApiError α) :=
  ask ((k.object? ns name).bind fun target =>
    ApiRequest.of? "PATCH" (target ++ suffix) (some contentType) (some body)) read

end Api

end ReleaseBuilds.Kubernetes
