import RenderRelay.Entries

/-! # Features

Some features of the program are there only if what they need is installed.  A feature is
known by its name; an unknown one counts as missing. -/

namespace RenderRelay

/-- Features by name: is each installed? -/
abbrev Features := Entries Bool

namespace Features

/-- The features as they are built in. -/
def builtIn : Features := [("server", true), ("observability", false)]

/-- What a feature is for. -/
def description (name : String) : String :=
  match name with
  | "server" => "Password-gated web proxy (FastAPI + uvicorn)"
  | "observability" => "OpenTelemetry distributed tracing"
  | _ => ""

/-- How a feature is installed. -/
def installHint (name : String) : String :=
  String.join ["pip install comfy-remote[", name, "]"]

/-- Is a feature installed? -/
def installed (features : Features) (name : String) : Bool := (features.get? name).getD false

/-- The installed features, with what they are for. -/
def available (features : Features) : Entries String :=
  (features.filter fun feature => feature.2).map fun feature =>
    (feature.1, description feature.1)

/-- The features that are not installed, with how to install them. -/
def missing (features : Features) : Entries String :=
  (features.filter fun feature => !feature.2).map fun feature =>
    (feature.1, installHint feature.1)

/-- A feature that is needed and not installed. -/
structure Missing where
  name : String
deriving DecidableEq, Repr

/-- How the missing feature is installed. -/
def Missing.hint (feature : Missing) : String := installHint feature.name

/-- What is said about the missing feature. -/
def Missing.message (feature : Missing) : String :=
  String.join ["Feature '", feature.name, "' is not available. Install with: ", feature.hint]

/-- Insists on a feature. -/
def ensure (features : Features) (name : String) : Except Missing Unit :=
  if features.installed name then .ok () else .error ⟨name⟩

end Features

end RenderRelay
