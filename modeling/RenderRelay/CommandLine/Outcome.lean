import RenderRelay.CommandLine.Switch
import RenderRelay.Features
import RenderRelay.Settings.Read
import RenderRelay.Url.Base

/-! # Outcomes of the command line

The command line shows the version or the features and exits, or starts the web service.

* A misuse ends with the exit code 2, and a missing web layer with 1.
* The directory of the data can be given on the line instead of in the environment; host and
  port on the line win over those of the settings, unless they are empty or zero. -/

namespace RenderRelay.CommandLine

/-- What a run of the program prints, with which code it exits, and where it serves. -/
structure Outcome where
  lines : List String
  exit : Option Nat
  served : Option (String × Int)
deriving DecidableEq, Repr

/-- Why the service could not be started. -/
inductive StartError where
  | settings (error : Settings.ReadError)
  | failure (failure : Failure)
deriving DecidableEq, Repr

/-- The variable that tells the directory of the data. -/
def dataDirectoryVariable : String := "COMFY_REMOTE_STORAGE__DATA_DIR"

/-- Lines after which the program exits. -/
def Outcome.exits (code : Nat) (lines : List String) : Outcome := ⟨lines, some code, none⟩

/-- The names of a switch. -/
def switchNames (switch : Switch) : String :=
  match switch.letter with
  | some letter => String.join [switch.name, ", -", String.singleton letter]
  | none => switch.name

/-- The lines that explain the switches. -/
def helpLines : List String :=
  ["Comfy Remote - ComfyUI remote proxy", ""] ++
    Switch.all.map fun switch => String.join ["  ", switchNames switch, "  ", switch.description]

/-- The line that shows the version. -/
def versionLine : String := "comfy-remote v" ++ ({} : Settings).version

/-- The lines that show the features. -/
def featureLines (features : Features) : List String :=
  ["Comfy Remote - Feature Check", String.ofList (List.replicate 40 '='), "",
    "Installed features:"] ++
  (features.available.map fun (name, description) =>
    String.join ["  [+] ", name, ": ", description]) ++
  if features.missing.isEmpty then []
  else ["", "Missing features:"] ++
    features.missing.map fun (name, hint) => String.join ["  [ ] ", name, ": ", hint]

/-- The environment with the directory of the data that the line gives. -/
def Options.environment (options : Options) (env : Environment) : Environment :=
  match options.dataDirectory with
  | some directory =>
      if directory.isEmpty then env else env.put dataDirectoryVariable directory
  | none => env

/-- Starts the service. -/
def serve (env : Environment) (options : Options) : Except StartError Outcome :=
  match Settings.ofEnvironment (options.environment env) with
  | .error error => .error (.settings error)
  | .ok settings =>
      let host := (options.host.filter fun s => !s.isEmpty).getD settings.server.host
      let port := (options.port.filter fun n => n ≠ 0).getD settings.server.port
      match Url.checkBase (some settings.backend.url) with
      | .error failure => .error (.failure failure)
      | .ok _ => .ok
          { lines :=
              [String.join ["Starting Comfy Remote on http://", host, ":", Json.intText port],
                "ComfyUI URL: " ++ settings.backend.url,
                "Data directory: " ++ settings.storage.dataDirectory]
            exit := none
            served := some (host, port) }

/-- Runs a command line. -/
def run (env : Environment) (features : Features) (words : List String) :
    Except StartError Outcome :=
  match Options.ofWords words with
  | none => .ok (.exits 2 [])
  | some options =>
      if options.help then .ok (.exits 0 helpLines)
      else if options.version then .ok (.exits 0 [versionLine])
      else if options.check then .ok (.exits 0 (featureLines features))
      else if features.installed "server" then serve env options
      else .ok (.exits 1 ["Error: server feature not installed.",
        "Install with: " ++ Features.installHint "server"])

end RenderRelay.CommandLine
