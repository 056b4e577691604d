import ReleaseBuilds.Config.Usage

/-!
# The program

Reads the settings from the environment and the command line, checks them and shows them. Mistakes
on the command line end the program with the code 2, a window that cannot be used with the code 1.
-/

namespace ReleaseBuilds

/-- The environment of the process, as far as it concerns the settings. -/
def readEnvironment : IO Config.Environment := do
  let values ← Config.environmentNames.mapM fun name => do return (name, ← IO.getEnv name)
  return fun name => (values.lookup name).join

/-- The settings are shown if they can be used. -/
def start (c : Config) : IO UInt32 := do
  match c.policy with
  | .error e =>
    IO.eprintln ("Invalid requeue window: " ++ e.message)
    return 1
  | .ok _ =>
    IO.println c.text
    return 0

/-- What is done after the command line was read. -/
def run (line : Except Config.CommandLineError Config.CommandLine) : IO UInt32 := do
  match line with
  | .ok line => start (line.overlay (Config.ofEnvironment (← readEnvironment)))
  | .error .helpWanted =>
    Config.usage.forM IO.println
    return 0
  | .error .versionWanted =>
    IO.println Config.versionText
    return 0
  | .error e =>
    IO.eprintln ("error: " ++ e.message?.getD "")
    return 2

end ReleaseBuilds

def main (args : List String) : IO UInt32 :=
  ReleaseBuilds.run (ReleaseBuilds.Config.CommandLine.ofArguments args)
