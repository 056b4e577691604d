import ReleaseBuilds.Config.Basic

/-!
# The command line

Flags that take precedence over the environment. A flag is written `--name value` or
`--name=value`; the namespace also as `-n value`, `-nvalue` or `-n=value`. No flag may
be given twice, and the two hours of the window only together. Reading stops at the
first mistake from the left; a value that stands in an argument of its own is judged
when the next flag, or the end, is reached.
-/

namespace ReleaseBuilds.Config

/-- A setting for which there is a flag. -/
inductive Flag where
  | metricsPort | watchedNamespace | interval | jitterPercent | windowOpens | windowCloses
  | githubUrl | logFormat
deriving DecidableEq, Repr

namespace Flag

def all : List Flag :=
  [.metricsPort, .watchedNamespace, .interval, .jitterPercent, .windowOpens, .windowCloses,
    .githubUrl, .logFormat]

/-- The name of a flag, after two dashes. -/
def name : Flag → String
  | .metricsPort => "metrics-port"
  | .watchedNamespace => "namespace"
  | .interval => "requeue-interval-secs"
  | .jitterPercent => "jitter-percent"
  | .windowOpens => "requeue-on-hours-from"
  | .windowCloses => "requeue-on-hours-to"
  | .githubUrl => "github-api-url"
  | .logFormat => "log-format"

/-- The environment variable for the same setting. -/
def envName : Flag → String
  | .metricsPort => "METRICS_PORT"
  | .watchedNamespace => "WATCH_NAMESPACE"
  | .interval => "REQUEUE_INTERVAL_SECS"
  | .jitterPercent => "JITTER_PERCENT"
  | .windowOpens => "REQUEUE_ON_HOURS_FROM"
  | .windowCloses => "REQUEUE_ON_HOURS_TO"
  | .githubUrl => "GITHUB_API_URL"
  | .logFormat => "LOG_FORMAT"

def ofName? (s : String) : Option Flag := all.find? fun f => f.name == s

end Flag

/-- A whole number of 64 bits that is at least zero and below `bound`. -/
def boundedNat? (bound : Nat) (value : String) : Option Nat :=
  (Decimal.int? (UInt64.size / 2) value).bind fun n => if 0 ≤ n ∧ n < bound then some n.toNat else none

/-- The value of a flag can be used. -/
def Flag.accepts (value : String) : Flag → Bool
  | .metricsPort => (boundedNat? UInt16.size value).isSome
  | .interval => (Decimal.nat? UInt64.size value).isSome
  | .jitterPercent => (percent? value).isSome
  | .windowOpens | .windowCloses => (boundedNat? UInt32.size value).isSome
  | .watchedNamespace | .githubUrl | .logFormat => true

/-- Why reading a command line stopped. Two of the reasons are wishes and not mistakes. -/
inductive CommandLineError where
  | helpWanted
  | versionWanted
  | unknownArgument
  | missingValue
  /-- A flag that takes no value was given one. -/
  | surplusValue
  | invalidValue
  | repeated
  /-- One hour of the window was given without the other. -/
  | missingFlag
deriving DecidableEq, Repr

/-- The flags of a command line with their values, in the order in which they were given. -/
structure CommandLine where
  given : List (Flag × String) := []
deriving DecidableEq, Repr

namespace CommandLine

def value? (l : CommandLine) (f : Flag) : Option String := l.given.lookup f

/-- A flag with its value is taken up. -/
def accept (l : CommandLine) (f : Flag) (value : String) : Except CommandLineError CommandLine :=
  if (l.value? f).isSome then .error .repeated
  else if f.accepts value then .ok { given := l.given ++ [(f, value)] }
  else .error .invalidValue

/-- The state of reading: the flags taken up, and a flag that is not yet taken up because its value,
which may still be missing, stands in an argument of its own. -/
structure Reading where
  line : CommandLine := {}
  pending : Option (Flag × Option String) := none
deriving DecidableEq, Repr

namespace Reading

/-- A pending flag is taken up; it must have got its value. -/
def settle (r : Reading) : Except CommandLineError CommandLine :=
  match r.pending with
  | none => .ok r.line
  | some (_, none) => .error .missingValue
  | some (f, some value) => r.line.accept f value

/-- A flag is read, with its value if that stands in the same argument. -/
def flag (r : Reading) (f : Flag) (value : Option String) : Except CommandLineError Reading := do
  let line ← r.settle
  match value with
  | some value => return { line := ← line.accept f value }
  | none => return { line, pending := some (f, none) }

/-- A wish ends the reading, unless a pending flag shows a mistake. -/
def wish (r : Reading) (e : CommandLineError) : Except CommandLineError Reading := do
  let _ ← r.settle
  throw e

/-- The name and the value of a flag with two dashes in front. -/
def splitAtEquals (cs : List Char) : String × Option String :=
  let name := cs.takeWhile fun c => c != '='
  (String.ofList name, (cs.drop name.length).tail?.map String.ofList)

/-- An argument with two dashes in front. -/
def long (r : Reading) (cs : List Char) : Except CommandLineError Reading :=
  let (name, value) := splitAtEquals cs
  match Flag.ofName? name with
  | some f => r.flag f value
  | none =>
    if name == "help" || name == "version" then
      if value.isSome then .error .surplusValue
      else r.wish (if name == "help" then .helpWanted else .versionWanted)
    else .error .unknownArgument

/-- An argument with one dash in front. -/
def short (r : Reading) : List Char → Except CommandLineError Reading
  | 'n' :: [] => r.flag .watchedNamespace none
  | 'n' :: '=' :: value => r.flag .watchedNamespace (some (String.ofList value))
  | 'n' :: value => r.flag .watchedNamespace (some (String.ofList value))
  | 'h' :: _ => r.wish .helpWanted
  | 'V' :: _ => r.wish .versionWanted
  | _ => .error .unknownArgument

/-- An argument that is no flag must be the value that a pending flag waits for. -/
def plain (r : Reading) (arg : String) : Except CommandLineError Reading :=
  match r.pending with
  | some (f, none) => .ok { r with pending := some (f, some arg) }
  | _ => .error .unknownArgument

def step (r : Reading) (arg : String) : Except CommandLineError Reading :=
  match arg.toList with
  | '-' :: '-' :: cs => r.long cs
  | '-' :: c :: cs => r.short (c :: cs)
  | _ => r.plain arg

/-- All arguments from left to right. After `--` nothing may follow. -/
def steps (r : Reading) : List String → Except CommandLineError Reading
  | [] => .ok r
  | arg :: rest =>
    if arg == "--" then if rest.isEmpty then .ok r else .error .unknownArgument
    else do (← r.step arg).steps rest

end Reading

/-- One hour of the window asks for the other. -/
def isComplete (l : CommandLine) : Bool :=
  (l.value? .windowOpens).isSome == (l.value? .windowCloses).isSome

/-- The flags in the arguments of a program. -/
def ofArguments (args : List String) : Except CommandLineError CommandLine := do
  let line ← (← ({} : Reading).steps args).settle
  if line.isComplete then return line else throw .missingFlag

/-- The settings with those replaced for which there is a flag. -/
def overlay (l : CommandLine) (c : Config) : Config :=
  let nat := fun f bound => (l.value? f).bind (boundedNat? bound)
  { c with
    metricsPort := (nat .metricsPort UInt16.size).getD c.metricsPort
    watchedNamespace := l.value? .watchedNamespace <|> c.watchedNamespace
    intervalSeconds :=
      ((l.value? .interval).bind (Decimal.nat? UInt64.size)).getD c.intervalSeconds
    jitterPercent := ((l.value? .jitterPercent).bind percent?).getD c.jitterPercent
    windowOpens := nat .windowOpens UInt32.size <|> c.windowOpens
    windowCloses := nat .windowCloses UInt32.size <|> c.windowCloses
    githubUrl := (l.value? .githubUrl).getD c.githubUrl
    logFormat := (l.value? .logFormat).getD c.logFormat }

end CommandLine

end ReleaseBuilds.Config
