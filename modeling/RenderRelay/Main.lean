import RenderRelay.CommandLine.Outcome

/-! # The program

Reads the environment, runs the command line, prints its lines and exits with its code. -/

namespace RenderRelay

/-- The variables of the environment that the program looks at. -/
def environmentNames : List String :=
  ["COMFY_REMOTE_ENV", "COMFY_REMOTE_VERSION", "COMFY_REMOTE_NAME"] ++ Settings.variableNames

/-- The environment of the process. -/
def readEnvironment : IO Environment :=
  environmentNames.filterMapM fun name => do
    return (← IO.getEnv name).map fun value => (name, value)

/-- What is said about settings that cannot be read. -/
def startErrorText : CommandLine.StartError → String
  | .settings .noJson => "A section of the settings is no JSON"
  | .settings (.issues issues) =>
      Text.join "\n" (issues.map fun issue =>
        String.join [Text.join "." issue.place, ": ", issue.kind.message])
  | .failure (.fault fault) => fault.userMessage
  | .failure _ => "The service could not be started"

end RenderRelay

/-- Runs the command line. -/
def main (words : List String) : IO UInt32 := do
  let env ← RenderRelay.readEnvironment
  match RenderRelay.CommandLine.run env RenderRelay.Features.builtIn words with
  | .ok outcome => do
      for line in outcome.lines do
        IO.println line
      return UInt32.ofNat (outcome.exit.getD 0)
  | .error error => do
      IO.eprintln (RenderRelay.startErrorText error)
      return 1
