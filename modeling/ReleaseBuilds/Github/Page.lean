import ReleaseBuilds.Json.Reader
import ReleaseBuilds.Json.Record
import ReleaseBuilds.Text.Search
import ReleaseBuilds.Github.Error

/-!
# Pages

GitHub answers a question for a list page by page. A page is one request and the answer to it;
what the answer means depends on its status, its headers and its body.
-/

namespace ReleaseBuilds

/-- A request for one page of a list. -/
structure PageRequest where
  url : String
  page : Nat
  token : Option String := none
deriving DecidableEq, Repr

namespace PageRequest

/-- How many items a page holds at most. -/
def pageSize : Nat := 100

def query (r : PageRequest) : String :=
  "per_page=" ++ toString pageSize ++ "&page=" ++ toString r.page

def headers (r : PageRequest) : Headers :=
  [("accept", "application/vnd.github+json"),
    ("user-agent", "release-pipeline-controller/0.1.0")] ++
    r.token.toList.map fun token => ("authorization", "Bearer " ++ token)

end PageRequest

/-- What arrives after the headers of an answer. -/
inductive PageBody where
  | text (s : String)
  /-- Bytes that are no text. -/
  | binary
  /-- The connection broke before the end. -/
  | broken
  /-- The question was cancelled before the end. -/
  | cancelled
deriving DecidableEq, Repr

structure PageResponse where
  status : Nat
  headers : Headers := []
  body : PageBody
deriving DecidableEq, Repr

/-- What becomes of a request. -/
inductive PageReply where
  /-- The request could not be sent or the connection broke. -/
  | failed
  /-- The question was cancelled before the headers of an answer arrived. -/
  | cancelled
  | answered (response : PageResponse)
deriving DecidableEq, Repr

namespace PageResponse

def isSuccess (r : PageResponse) : Bool := 200 ≤ r.status && r.status < 300

/-- The error of an answer that is no success. Only with all headers about an exhausted quota is a
refusal known to be about the quota. -/
def error (r : PageResponse) (url : String) : GithubError :=
  if r.status == 403 || r.status == 429 then
    match (RateLimit.ofHeaders? r.headers).filter RateLimit.isExhausted with
    | some quota => .rateLimited quota
    | none => .status r.status url
  else if r.status == 401 then .unauthorized
  else .status r.status url

/-- The answer announces another page. -/
def hasNext (r : PageResponse) : Bool :=
  (r.headers.get? "link").any fun link => Text.occursIn "rel=\"next\"" link

/-- The items of a page in order. -/
def items {α : Type} (r : PageResponse) (url : String) (read : Json → Option α) :
    Except GithubError (List α) :=
  match r.body with
  | .cancelled => .error .cancelled
  | .broken => .error (.request url)
  | .binary => .error (.decode url)
  | .text s =>
    match (Json.ofText? s).bind (Json.asList? read) with
    | some items => .ok items
    | none => .error (.decode url)

end PageResponse

/-- The items of a page and whether there is another one. -/
def PageReply.outcome {α : Type} (reply : PageReply) (url : String) (read : Json → Option α) :
    Except GithubError (List α × Bool) :=
  match reply with
  | .failed => .error (.request url)
  | .cancelled => .error .cancelled
  | .answered r =>
    if r.isSuccess then (r.items url read).map fun items => (items, r.hasNext)
    else .error (r.error url)

end ReleaseBuilds
