import ReleaseBuilds.Config.CommandLine

/-!
# What a user is told

The overview of the flags, and the sentences for mistakes on a command line.
-/

namespace ReleaseBuilds.Config

def programName : String := "release-pipeline-controller"

def versionText : String := programName ++ " 0.1.0"

/-- What a setting means. -/
def Flag.help : Flag → String
  | .metricsPort => "Port of the metrics and health server"
  | .watchedNamespace => "Only watch Repositories in this namespace"
  | .interval => "Seconds between two regular checks of a repository"
  | .jitterPercent => "Jitter applied to the regular interval, in percent"
  | .windowOpens => "First UTC hour requeues may land in"
  | .windowCloses => "UTC hour the requeue window closes (exclusive)"
  | .githubUrl => "Base URL of the GitHub REST API"
  | .logFormat => "Log format (json, text)"

/-- What stands for the value of a flag. -/
def Flag.placeholder (f : Flag) : String :=
  "<" ++ String.ofList (f.name.toList.map fun c => if c == '-' then '_' else c.toUpper) ++ ">"

/-- How a flag is written, with its short form if it has one. -/
def Flag.forms (f : Flag) : String :=
  (if f = .watchedNamespace then "  -n, " else "      ") ++ "--" ++ f.name ++ " " ++ f.placeholder

/-- The overview of the flags. -/
def usage : List String :=
  ["Schedules Tekton PipelineRuns for GitHub releases with missing artifacts", "",
    "Usage: " ++ programName ++ " [OPTIONS]", "", "Options:"] ++
  Flag.all.flatMap (fun f => [f.forms, "          " ++ f.help]) ++
  ["  -h, --help", "          Print help", "  -V, --version", "          Print version"]

/-- The sentence for a mistake; the two wishes are none. -/
def CommandLineError.message? : CommandLineError → Option String
  | .helpWanted | .versionWanted => none
  | .unknownArgument => some "unexpected argument found"
  | .missingValue => some "a value is required but none was supplied"
  | .surplusValue => some "unexpected value found; no more were expected"
  | .invalidValue => some "invalid value"
  | .repeated => some "the argument cannot be used multiple times"
  | .missingFlag => some "the following required arguments were not provided"

/-- The variables that are read from the environment. -/
def environmentNames : List String :=
  Flag.all.map Flag.envName ++ ["GITHUB_TOKEN", "GITHUB_TIMEOUT_SECS"]

end ReleaseBuilds.Config
