import ReleaseBuilds.Requeue.Policy
import ReleaseBuilds.Requeue.Jitter
import ReleaseBuilds.Decimal.Reader
import ReleaseBuilds.Decimal.Shortest
import ReleaseBuilds.Text.Blank
import ReleaseBuilds.Text.Quoted

/-!
# Configuration

The settings of a controller and how they are read from the environment. A variable that is not
set, or whose value cannot be used, leaves a setting at its default.
-/

namespace ReleaseBuilds

structure Config where
  /-- The regular delay between two cycles of a repository, in seconds. -/
  intervalSeconds : Nat := 3600
  jitterPercent : Float := 20.0
  /-- The first hour of the window into which cycles are moved. -/
  windowOpens : Option Nat := none
  /-- The hour at which the window ends. -/
  windowCloses : Option Nat := none
  githubToken : Option String := none
  githubUrl : String := "https://api.github.com"
  /-- How long one request to GitHub may take, in seconds. -/
  githubTimeoutSeconds : Nat := 5
  metricsPort : Nat := 8080
  /-- The only namespace that is watched; all are if it is not set. -/
  watchedNamespace : Option String := none
  logFormat : String := "text"

namespace Config

/-- The values of environment variables. -/
abbrev Environment := String → Option String

/-- A number below `bound` that may have blanks around it. -/
def trimmedNat? (bound : Nat) (value : String) : Option Nat := Decimal.nat? bound (Text.trim value)

/-- A percentage that can be used as a share and may have blanks around it. -/
def percent? (value : String) : Option Float :=
  (Decimal.float? (Text.trim value)).filter Jitter.isShare

/-- An hour as a number of 32 bits, without blanks. -/
def hour? (value : String) : Option Nat := Decimal.nat? UInt32.size value

/-- A text that is not empty. -/
def nonEmpty? (value : String) : Option String := if value == "" then none else some value

/-- The settings that an environment makes. -/
def ofEnvironment (env : Environment) : Config :=
  let defaults : Config := {}
  { intervalSeconds :=
      ((env "REQUEUE_INTERVAL_SECS").bind (trimmedNat? UInt64.size)).getD defaults.intervalSeconds
    jitterPercent := ((env "JITTER_PERCENT").bind percent?).getD defaults.jitterPercent
    windowOpens := (env "REQUEUE_ON_HOURS_FROM").bind hour?
    windowCloses := (env "REQUEUE_ON_HOURS_TO").bind hour?
    githubToken := (env "GITHUB_TOKEN").bind nonEmpty?
    githubUrl := ((env "GITHUB_API_URL").bind nonEmpty?).getD defaults.githubUrl
    githubTimeoutSeconds :=
      ((env "GITHUB_TIMEOUT_SECS").bind (trimmedNat? UInt64.size)).getD defaults.githubTimeoutSeconds
    metricsPort := ((env "METRICS_PORT").bind (trimmedNat? UInt16.size)).getD defaults.metricsPort
    watchedNamespace := (env "WATCH_NAMESPACE").bind nonEmpty?
    logFormat := ((env "LOG_FORMAT").bind nonEmpty?).getD defaults.logFormat }

/-- The regular delay between two cycles of a repository. -/
def interval (c : Config) : Delay := .ofSeconds c.intervalSeconds

/-- Log lines are written as JSON. -/
def jsonLogs (c : Config) : Bool := Text.sameIgnoringCase c.logFormat "json"

/-- The policy that the window selects. -/
def policy (c : Config) : Except WindowError Policy := Policy.ofHours c.windowOpens c.windowCloses

/-- How GitHub is reached. -/
structure GithubAccess where
  baseUrl : String
  token : Option String
  timeout : Delay
deriving DecidableEq, Repr

def github (c : Config) : GithubAccess :=
  { baseUrl := c.githubUrl, token := c.githubToken, timeout := .ofSeconds c.githubTimeoutSeconds }

/-! ## Texts for inspection -/

/-- A value that may be missing. -/
def optionText (text : String → String) : Option String → String
  | none => "None"
  | some s => "Some(" ++ text s ++ ")"

/-- A record with its name and its fields. -/
def recordText (name : String) (fields : List (String × String)) : String :=
  name ++ " \x7b " ++ ", ".intercalate (fields.map fun f => f.1 ++ ": " ++ f.2) ++ " \x7d"

/-- All settings; a token is not shown. -/
def text (c : Config) : String :=
  recordText "ControllerConfig" [
    ("requeue_interval_secs", toString c.intervalSeconds),
    ("jitter_percent", Decimal.pointedText c.jitterPercent),
    ("requeue_on_hours_from", optionText id (c.windowOpens.map toString)),
    ("requeue_on_hours_to", optionText id (c.windowCloses.map toString)),
    ("github_token", optionText Text.quoted (c.githubToken.map fun _ => "***")),
    ("github_api_url", Text.quoted c.githubUrl),
    ("github_timeout_secs", toString c.githubTimeoutSeconds),
    ("metrics_port", toString c.metricsPort),
    ("watch_namespace", optionText Text.quoted c.watchedNamespace),
    ("log_format", Text.quoted c.logFormat)]

/-- The access to GitHub; a token is not shown. -/
def GithubAccess.text (a : GithubAccess) : String :=
  recordText "GithubClientConfig" [
    ("base_url", Text.quoted a.baseUrl),
    ("token", optionText Text.quoted (a.token.map fun _ => "<redacted>")),
    ("timeout", a.timeout.text)]

end Config

end ReleaseBuilds
