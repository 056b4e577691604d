import ReleaseBuilds.Metrics.Basic

/-!
# The probe server

The controller answers three paths: its metrics, whether it is alive, and whether it is ready. A
path is compared as it is written, without the host and the query around it. Only reading is
allowed; a request for the head of a page is answered like one for the page, without the body.
-/

namespace ReleaseBuilds.Server

/-- What the server can be asked for. -/
inductive Page where
  | metrics
  /-- Whether the process runs at all. -/
  | liveness
  /-- Whether repositories are being watched. -/
  | readiness
deriving DecidableEq, Repr

def Page.path : Page → String
  | .metrics => "/metrics"
  | .liveness => "/healthz"
  | .readiness => "/readyz"

def Page.all : List Page := [.metrics, .liveness, .readiness]

structure Request where
  method : String
  /-- The path with its query, or all of this after a scheme and a host. -/
  target : String
deriving DecidableEq, Repr

/-- A character of the scheme that may stand in front of a host. -/
def isSchemeChar (c : Char) : Bool := c.isAlphanum || "+-.~".toList.contains c

/-- The part of a target after its scheme and its host, if it begins with them. -/
def afterHost? (target : List Char) : Option (List Char) :=
  match target.dropWhile isSchemeChar with
  | ':' :: '/' :: '/' :: rest =>
    some (rest.dropWhile fun c => c != '/' && c != '?' && c != '#')
  | _ => none

/-- The part of the target after a scheme and a host and before a query or a fragment. -/
def Request.path (r : Request) : String :=
  let target := r.target.toList
  String.ofList (((afterHost? target).getD target).takeWhile fun c => c != '?' && c != '#')

/-- The page that a request names. -/
def Request.page? (r : Request) : Option Page := Page.all.find? fun p => p.path == r.path

structure Response where
  status : Nat
  contentType : Option String := none
  body : String := ""
deriving DecidableEq, Repr

/-- What the server knows when it is asked. -/
structure State where
  isReady : Bool := false
  metrics : Metrics := {}

def State.show (s : State) : Page → Response
  | .metrics =>
    { status := 200
      contentType := some "text/plain; version=0.0.4; charset=utf-8"
      body := s.metrics.exposition }
  | .liveness => { status := 200 }
  | .readiness => { status := if s.isReady then 200 else 503 }

/-- An unknown path is missing for every method; a known one only answers to reading. -/
def State.respond (s : State) (r : Request) : Response :=
  match r.page? with
  | none => { status := 404 }
  | some p =>
    match r.method with
    | "GET" => s.show p
    | "HEAD" => { s.show p with body := "" }
    | _ => { status := 405 }

end ReleaseBuilds.Server
