import ReleaseBuilds.Dialogue
import ReleaseBuilds.Github.Page
import ReleaseBuilds.Github.Query
import ReleaseBuilds.Text.Quoted

/-!
# The GitHub client

Questions to GitHub as sequences of requests for pages. The client remembers an exhausted quota
and asks nothing until it starts anew, and it remembers that packages may not be looked up at all.
A list is complete or not given: the first page that fails decides.
-/

namespace ReleaseBuilds

structure Client where
  /-- Where GitHub is found, without a slash at the end. -/
  baseUrl : String
  token : Option String := none
  /-- The exhausted quota that was seen last. -/
  exhausted : Option RateLimit := none
  /-- A question for packages was answered with "unauthorized". -/
  packagesUnauthorized : Bool := false
deriving DecidableEq, Repr

namespace Client

/-- A client that has asked nothing yet. Slashes at the end of the address and an empty token do not
count. -/
def new (baseUrl : String) (token : Option String) : Client :=
  let kept := (baseUrl.toList.reverse.dropWhile fun c => c == '/').reverse
  { baseUrl := String.ofList kept, token := token.filter fun t => t != "" }

/-- The clock, and whether the question at hand was cancelled. -/
structure Situation where
  now : Instant
  cancelled : Bool := false
deriving DecidableEq, Repr

inductive Call where
  | look
  | send (request : PageRequest)
deriving DecidableEq, Repr

abbrev Call.Answer : Call → Type
  | .look => Situation
  | .send _ => PageReply

abbrev Talk := Dialogue Call Call.Answer

def ask (call : Call) : Talk call.Answer := .question call

def look : Talk Situation := ask .look

def send (request : PageRequest) : Talk PageReply := ask (.send request)

/-- The remembered quota, as long as it does not start anew. -/
def pausedBy? (c : Client) (now : Instant) : Option RateLimit :=
  c.exhausted.filter fun quota => now.before quota.reset

/-- An exhausted quota is remembered. -/
def remember {α : Type} (c : Client) : Except GithubError α → Client
  | .error (.rateLimited quota) => { c with exhausted := some quota }
  | _ => c

variable {α : Type}

/-- One page. Nothing is sent while a quota is exhausted or once the question was cancelled. -/
def getPage (c : Client) (read : Json → Option α) (url : String) (page : Nat) (s : Situation) :
    Talk (Except GithubError (List α × Bool) × Client) :=
  match c.pausedBy? s.now with
  | some quota => return (.error (.rateLimited quota), c)
  | none =>
    if s.cancelled then return (.error .cancelled, c)
    else do
      let reply ← send { url, page, token := c.token }
      let outcome := reply.outcome url read
      return (outcome, c.remember outcome)

/-- The number of pages that can be asked for. -/
def maxPages : Nat := UInt32.size - 1

/-- All pages from a given one on, at most `room` of them. -/
def getPages (read : Json → Option α) (url : String) :
    Nat → Nat → Client → Talk (Except GithubError (List α) × Client)
  | 0, _, c => return (.ok [], c)
  | room + 1, page, c => do
    let s ← look
    if s.cancelled then return (.error .cancelled, c)
    match ← c.getPage read url page s with
    | (.error e, c) => return (.error e, c)
    | (.ok (items, false), c) => return (.ok items, c)
    | (.ok (items, true), c) =>
      let (rest, c) ← getPages read url room (page + 1) c
      return (rest.map fun rest => items ++ rest, c)

def releasesUrl (c : Client) (owner repo : String) : String :=
  c.baseUrl ++ "/repos/" ++ owner ++ "/" ++ repo ++ "/releases"

def assetsUrl (c : Client) (q : ArtifactQuery) : String :=
  c.releasesUrl q.owner q.repo ++ "/" ++ toString q.release.id.toNat ++ "/assets"

def packagesUrl (c : Client) (q : ArtifactQuery) : String :=
  c.baseUrl ++ "/users/" ++ q.owner ++ "/packages/container/" ++ q.repo ++ "/versions"

/-- The releases of a repository without those that the query ignores. A repository without any
release is an error; one of which all releases are ignored is not. -/
def getReleases (c : Client) (q : ReleaseQuery) :
    Talk (Except GithubError (List Release) × Client) := do
  match ← getPages Release.ofJson? (c.releasesUrl q.owner q.repo) maxPages 1 c with
  | (.ok [], c) => return (.error (.noReleases q.owner q.repo), c)
  | (.ok releases, c) => return (.ok (releases.filter fun r => !q.ignored.contains r.tag), c)
  | (.error e, c) => return (.error e, c)

/-- Files attached to a release. One page is enough to tell whether there are any. -/
def getAssets (c : Client) (q : ArtifactQuery) :
    Talk (Except GithubError (List Asset) × Client) := do
  let (outcome, c) ← c.getPage Asset.ofJson? (c.assetsUrl q) 1 (← look)
  return (outcome.map Prod.fst, c)

/-- The versions of the container package that are published under the tag of a release. -/
def getPackages (c : Client) (q : ArtifactQuery) :
    Talk (Except GithubError (List Package) × Client) :=
  if c.packagesUnauthorized then return (.error .unauthorized, c)
  else do
    match ← getPages Package.ofJson? (c.packagesUrl q) maxPages 1 c with
    | (.ok packages, c) => return (.ok (packages.filter fun p => p.hasTag q.release.tag), c)
    | (.error .unauthorized, c) =>
      return (.error .unauthorized, { c with packagesUnauthorized := true })
    | (.error e, c) => return (.error e, c)

/-- The client for inspection; the token is not shown. -/
def text (c : Client) : String :=
  "GithubClient \x7b base_url: " ++ Text.quoted c.baseUrl ++ ", authenticated: " ++
    toString c.token.isSome ++ ", packages_unauthorized: " ++ toString c.packagesUnauthorized ++
    ", .. \x7d"

end Client

end ReleaseBuilds
