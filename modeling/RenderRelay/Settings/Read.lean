import RenderRelay.Json.Reader
import RenderRelay.Settings.Environment
import RenderRelay.Settings.Sections

/-! # Settings of the environment

Settings are taken from the variables whose names start with `COMFY_REMOTE_`, in letters of
either case; empty ones do not count.

* `COMFY_REMOTE_POLL__INTERVAL` gives one field of one section; further double underscores
  lead deeper, to where no field is.
* `COMFY_REMOTE_POLL` gives a section as a JSON object; single fields go before it.
* A section for which nothing is given has its defaults. -/

namespace RenderRelay.Settings

open Check Text

/-- The variables that count, under their names in small letters. -/
def lowerNamed (env : Environment) : Environment :=
  (env.filter fun (_, value) => !value.isEmpty).foldl
    (fun acc (name, value) => acc.put (lower name) value) []

/-- What the names of all settings start with. -/
def nameStart : String := "comfy_remote_"

/-- The pieces of a name between double underscores. -/
def pieces : (fuel : Nat) → List Char → List String
  | 0, cs => [String.ofList cs]
  | fuel + 1, cs =>
      match splitOnceChars "__".toList cs with
      | some (piece, rest) => String.ofList piece :: pieces fuel rest
      | none => [String.ofList cs]

/-- The path of keys that a variable leads to inside a section. -/
def pathIn (section_ name : String) : Option (List String) :=
  let start := (nameStart ++ section_ ++ "__").toList
  if start.isPrefixOf name.toList then
    some (pieces name.length (name.toList.drop start.length))
  else none

/-- Writes a text at a path of keys; what is no object on the way takes nothing. -/
def insertAt (value : String) : List String → Fields → Fields
  | [], fields => fields
  | [key], fields => fields.put key (.str value)
  | key :: path, fields =>
      match fields.get? key with
      | none => fields.put key (.obj (insertAt value path []))
      | some (.obj inner) => fields.put key (.obj (insertAt value path inner))
      | some _ => fields

/-- The fields of a section that single variables give. -/
def singleFields (env : Environment) (section_ : String) : Fields :=
  env.foldl (fun fields (name, value) =>
    match pathIn section_ name with
    | some path => insertAt value path fields
    | none => fields) []

/-- The fields of `more` put into `fields`, objects into objects. -/
def mergeDeep : (fields more : List (String × Json)) → Fields
  | fields, [] => fields
  | fields, (key, .obj inner) :: rest =>
      let value := match Entries.get? fields key with
        | some (.obj old) => .obj (mergeDeep old inner)
        | _ => .obj inner
      mergeDeep (Entries.put fields key value) rest
  | fields, (key, value) :: rest => mergeDeep (Entries.put fields key value) rest

/-- The fields under their declared names where they differ only in the case of letters. -/
def declared (names : List String) (fields : Fields) : Fields :=
  fields.foldl (fun acc (key, value) =>
    acc.put ((names.find? fun name => name = lower key).getD key) value) []

/-- What is given for a section: nothing, or a value. -/
def given (env : Environment) (section_ : String) : Except Unit (Option Json) :=
  let single := singleFields env section_
  match env.get? (nameStart ++ section_) with
  | none => .ok (if single.isEmpty then none else some (.obj single))
  | some text =>
      match Json.read text with
      | .ok (.obj fields) => .ok (some (.obj (mergeDeep fields single)))
      | .ok .null => .ok none
      | .ok value => .ok (some value)
      | .error _ => .error ()

/-- A section of the settings. -/
def sectionOf {α : Type} (name model : String) (names : List String) (default : α)
    (ofFields : Fields → Verdict α) (value : Option Json) : Verdict α :=
  match value with
  | none => .valid default
  | some value =>
      Verdict.under name (match value.fields? with
        | some fields => ofFields (declared names fields)
        | none => .invalid [⟨[], .notObject model⟩])

/-- The names of the sections. -/
def sectionNames : List String :=
  ["backend", "poll", "retry", "logging", "http", "storage", "server"]

/-- The names of the variables that give a section or one of its fields, in capital letters. -/
def variableNames : List String :=
  [("backend", BackendSettings.fieldNames), ("poll", PollSettings.fieldNames),
    ("retry", RetrySettings.fieldNames), ("logging", LoggingSettings.fieldNames),
    ("http", HttpSettings.fieldNames), ("storage", StorageSettings.fieldNames),
    ("server", ServerSettings.fieldNames)].flatMap fun (name, fields) =>
      (name :: fields.map fun field => String.join [name, "__", field]).map fun rest =>
        (nameStart ++ rest).toUpper

/-- Why settings could not be taken from the environment: a section is no JSON, or fields
have issues. -/
inductive ReadError where
  | noJson
  | issues (issues : List Issue)
deriving DecidableEq, Repr

/-- The settings of what is given for the sections. -/
def ofSections (env : Environment) (value : String → Option Json) : Verdict Settings :=
  Settings.mk <$>
    sectionOf "backend" "BackendConfig" BackendSettings.fieldNames {} BackendSettings.ofFields
      (value "backend")
    <*> sectionOf "poll" "PollConfig" PollSettings.fieldNames {} PollSettings.ofFields
      (value "poll")
    <*> sectionOf "retry" "RetryConfig" RetrySettings.fieldNames RetryPolicy.standard
      RetrySettings.ofFields (value "retry")
    <*> sectionOf "logging" "LoggingConfig" LoggingSettings.fieldNames {}
      LoggingSettings.ofFields (value "logging")
    <*> sectionOf "http" "HttpConfig" HttpSettings.fieldNames {} HttpSettings.ofFields
      (value "http")
    <*> sectionOf "storage" "StorageConfig" StorageSettings.fieldNames {}
      StorageSettings.ofFields (value "storage")
    <*> sectionOf "server" "ServerConfig" ServerSettings.fieldNames {} ServerSettings.ofFields
      (value "server")
    <*> .valid ((env.get? (nameStart ++ "version")).getD ({} : Settings).version)
    <*> .valid ((env.get? (nameStart ++ "name")).getD ({} : Settings).name)

/-- The settings that an environment gives. -/
def ofEnvironment (env : Environment) : Except ReadError Settings :=
  let env := lowerNamed env
  match sectionNames.mapM fun name => (given env name).map fun value => (name, value) with
  | .error () => .error .noJson
  | .ok values =>
      match ofSections env fun name => (Entries.get? values name).join with
      | .valid settings => .ok settings
      | .invalid issues => .error (.issues issues)

end RenderRelay.Settings
