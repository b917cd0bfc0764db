import RenderRelay.Access.Session
import RenderRelay.Backend.Client
import RenderRelay.Check.Value
import RenderRelay.Path.Join

/-! # Settings

The settings of the program stand in seven sections.  Each section has a default for every
field, and is read from the fields that are given; a field that is not declared is an issue. -/

namespace RenderRelay

open Check

/-- The backend that is used when none is named, and its time limits. -/
structure BackendSettings where
  url : String := "http://127.0.0.1:8188"
  timeouts : Timeouts := Timeouts.standard
deriving DecidableEq

/-- How runs are polled: the pause in seconds and the limit in milliseconds. -/
structure PollSettings where
  interval : Double := Double.ofRatio false 3 2
  maxWaitMillis : Int := 600000
deriving DecidableEq

/-- How log records are written. -/
structure LoggingSettings where
  level : String := "INFO"
  format : String :=
    "%(asctime)s | %(levelname)-8s | %(name)s | %(request_id)s | %(message)s"
  dateFormat : String := "%Y-%m-%d %H:%M:%S"
  file : Option String := none
  jsonOutput : Bool := false
  tracing : Bool := false
  traceService : String := "comfy-remote"
  traceEndpoint : Option String := none
deriving DecidableEq

/-- Connections to backends; times are in seconds. -/
structure HttpSettings where
  maxConnections : Int := 50
  maxKeptConnections : Int := 10
  keepSeconds : Double := Double.ofInt 5
  secondVersion : Bool := false
  connectTimeout : Double := Double.ofInt 5
  readTimeout : Double := Double.ofInt 30
  writeTimeout : Double := Double.ofInt 30
  poolTimeout : Double := Double.ofInt 10
deriving DecidableEq

/-- Where the stores keep their files. -/
structure StorageSettings where
  dataDirectory : String := "data"
  workflowsFile : String := "workflows.json"
  historyFile : String := "history.json"
  outputsDirectory : String := "outputs"
deriving DecidableEq

namespace StorageSettings

/-- The path of the file of workflows. -/
def workflowsPath (storage : StorageSettings) : String :=
  Path.join storage.dataDirectory storage.workflowsFile

/-- The path of the file of run records. -/
def historyPath (storage : StorageSettings) : String :=
  Path.join storage.dataDirectory storage.historyFile

/-- The path of the directory of images. -/
def outputsPath (storage : StorageSettings) : String :=
  Path.join storage.dataDirectory storage.outputsDirectory

end StorageSettings

/-- The web layer. -/
structure ServerSettings where
  host : String := "127.0.0.1"
  port : Int := 3000
  access : AccessConfig :=
    ⟨⟨AccessConfig.defaultPassword⟩, ⟨AccessConfig.defaultSigningSecret⟩⟩
  cookieName : String := "comfyui_remote_session"
  cookieMaxAge : Int := 604800
  secureCookies : Bool := false
deriving DecidableEq

/-- All settings. -/
structure Settings where
  backend : BackendSettings := {}
  poll : PollSettings := {}
  retry : RetryPolicy := RetryPolicy.standard
  logging : LoggingSettings := {}
  http : HttpSettings := {}
  storage : StorageSettings := {}
  server : ServerSettings := {}
  version : String := "0.4.0"
  name : String := "comfy_remote"
deriving DecidableEq

/-! ### Reading sections -/

/-- A path, in its plain form. -/
def Check.path : Reader String
  | .str s => .ok (Path.plain s)
  | _ => .error .notPath

namespace BackendSettings

/-- The names of the fields. -/
def fieldNames : List String :=
  ["url", "timeout_upload", "timeout_submit", "timeout_history", "timeout_view",
    "timeout_probe"]

/-- The section of its fields. -/
def ofFields (fields : Fields) : Verdict BackendSettings :=
  let standard := Timeouts.standard
  (fun url upload submit history view probe =>
      ⟨url, ⟨upload, submit, history, view, probe⟩⟩) <$>
    withDefault fields "url" ({} : BackendSettings).url text
    <*> withDefault fields "timeout_upload" standard.upload number
    <*> withDefault fields "timeout_submit" standard.submit number
    <*> withDefault fields "timeout_history" standard.history number
    <*> withDefault fields "timeout_view" standard.view number
    <*> withDefault fields "timeout_probe" standard.probe number
    <* noOthers fields fieldNames

end BackendSettings

namespace PollSettings

/-- The names of the fields. -/
def fieldNames : List String := ["interval", "max_wait_ms"]

/-- The section of its fields. -/
def ofFields (fields : Fields) : Verdict PollSettings :=
  let standard : PollSettings := {}
  PollSettings.mk <$> withDefault fields "interval" standard.interval number
    <*> withDefault fields "max_wait_ms" standard.maxWaitMillis integer
    <* noOthers fields fieldNames

end PollSettings

namespace RetrySettings

/-- The names of the fields. -/
def fieldNames : List String := ["max_retries", "backoff_base", "backoff_max", "backoff_jitter"]

/-- The retry policy of its fields. -/
def ofFields (fields : Fields) : Verdict RetryPolicy :=
  let standard := RetryPolicy.standard
  RetryPolicy.mk <$> withDefault fields "max_retries" standard.attempts integer
    <*> withDefault fields "backoff_base" standard.base number
    <*> withDefault fields "backoff_max" standard.most number
    <*> withDefault fields "backoff_jitter" standard.jitter boolean
    <* noOthers fields fieldNames

end RetrySettings

namespace LoggingSettings

/-- The names of the fields. -/
def fieldNames : List String :=
  ["level", "format", "date_format", "file", "json_output", "otel_enabled",
    "otel_service_name", "otel_endpoint"]

/-- The section of its fields. -/
def ofFields (fields : Fields) : Verdict LoggingSettings :=
  let standard : LoggingSettings := {}
  LoggingSettings.mk <$> withDefault fields "level" standard.level text
    <*> withDefault fields "format" standard.format text
    <*> withDefault fields "date_format" standard.dateFormat text
    <*> withDefault fields "file" standard.file (optional text)
    <*> withDefault fields "json_output" standard.jsonOutput boolean
    <*> withDefault fields "otel_enabled" standard.tracing boolean
    <*> withDefault fields "otel_service_name" standard.traceService text
    <*> withDefault fields "otel_endpoint" standard.traceEndpoint (optional text)
    <* noOthers fields fieldNames

end LoggingSettings

namespace HttpSettings

/-- The names of the fields. -/
def fieldNames : List String :=
  ["max_connections", "max_keepalive_connections", "keepalive_expiry", "http2",
    "connect_timeout", "read_timeout", "write_timeout", "pool_timeout"]

/-- The section of its fields. -/
def ofFields (fields : Fields) : Verdict HttpSettings :=
  let standard : HttpSettings := {}
  HttpSettings.mk <$> withDefault fields "max_connections" standard.maxConnections integer
    <*> withDefault fields "max_keepalive_connections" standard.maxKeptConnections integer
    <*> withDefault fields "keepalive_expiry" standard.keepSeconds number
    <*> withDefault fields "http2" standard.secondVersion boolean
    <*> withDefault fields "connect_timeout" standard.connectTimeout number
    <*> withDefault fields "read_timeout" standard.readTimeout number
    <*> withDefault fields "write_timeout" standard.writeTimeout number
    <*> withDefault fields "pool_timeout" standard.poolTimeout number
    <* noOthers fields fieldNames

end HttpSettings

namespace StorageSettings

/-- The names of the fields. -/
def fieldNames : List String := ["data_dir", "workflows_file", "history_file", "outputs_dir"]

/-- The section of its fields. -/
def ofFields (fields : Fields) : Verdict StorageSettings :=
  let standard : StorageSettings := {}
  StorageSettings.mk <$> withDefault fields "data_dir" standard.dataDirectory path
    <*> withDefault fields "workflows_file" standard.workflowsFile text
    <*> withDefault fields "history_file" standard.historyFile text
    <*> withDefault fields "outputs_dir" standard.outputsDirectory text
    <* noOthers fields fieldNames

end StorageSettings

namespace ServerSettings

/-- The names of the fields. -/
def fieldNames : List String :=
  ["host", "port", "password", "auth_secret", "cookie_name", "cookie_max_age",
    "secure_cookies"]

/-- The section of its fields. -/
def ofFields (fields : Fields) : Verdict ServerSettings :=
  let standard : ServerSettings := {}
  (fun host port password secret cookie age secure =>
      ⟨host, port, ⟨⟨password⟩, ⟨secret⟩⟩, cookie, age, secure⟩) <$>
    withDefault fields "host" standard.host text
    <*> withDefault fields "port" standard.port integer
    <*> withDefault fields "password" standard.access.password.value text
    <*> withDefault fields "auth_secret" standard.access.signingSecret.value text
    <*> withDefault fields "cookie_name" standard.cookieName text
    <*> withDefault fields "cookie_max_age" standard.cookieMaxAge integer
    <*> withDefault fields "secure_cookies" standard.secureCookies boolean
    <* noOthers fields fieldNames

end ServerSettings

/-! ### Showing settings -/

/-- The settings without secrets. -/
def Settings.toJson (settings : Settings) : Json :=
  .obj [("version", .str settings.version),
    ("backend", .obj [("url", .str settings.backend.url),
      ("timeout_submit", .float settings.backend.timeouts.submit),
      ("timeout_history", .float settings.backend.timeouts.history)]),
    ("poll", .obj [("interval", .float settings.poll.interval),
      ("max_wait_ms", .int settings.poll.maxWaitMillis)]),
    ("retry", .obj [("max_retries", .int settings.retry.attempts),
      ("backoff_base", .float settings.retry.base),
      ("backoff_jitter", .bool settings.retry.jitter)]),
    ("logging", .obj [("level", .str settings.logging.level),
      ("otel_enabled", .bool settings.logging.tracing)]),
    ("http", .obj [("http2", .bool settings.http.secondVersion),
      ("max_connections", .int settings.http.maxConnections),
      ("connect_timeout", .float settings.http.connectTimeout),
      ("read_timeout", .float settings.http.readTimeout)]),
    ("storage", .obj [("data_dir", .str settings.storage.dataDirectory)]),
    ("server", .obj [("host", .str settings.server.host), ("port", .int settings.server.port),
      ("cookie_name", .str settings.server.cookieName)])]

end RenderRelay
