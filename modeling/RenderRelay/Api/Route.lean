import RenderRelay.Text.Search

/-! # Routes

A route is a method and a path.  `Route.access` says who may use it: anyone, whoever shows the
session's cookie, or whoever shows the session's token in a cookie or in the query. -/

namespace RenderRelay.Api

/-- The routes of the web layer. -/
inductive Route where
  | health
  | session
  | login
  | logout
  | listWorkflows
  | importWorkflows
  | renameWorkflow
  | deleteWorkflow
  | run
  | runStatus
  | image
  | testConnection
  | listHistory
  | deleteHistory
  | historyFile
deriving DecidableEq, Repr

/-- Who may use a route. -/
inductive Access where
  | anyone
  | session
  | sessionOrToken
deriving DecidableEq, Repr

namespace Route

/-- All routes. -/
def all : List Route :=
  [.health, .session, .login, .logout, .listWorkflows, .importWorkflows, .renameWorkflow,
    .deleteWorkflow, .run, .runStatus, .image, .testConnection, .listHistory, .deleteHistory,
    .historyFile]

/-- The method of a route. -/
def method : Route → String
  | .health | .session | .listWorkflows | .image | .testConnection | .listHistory
  | .historyFile => "GET"
  | .login | .logout | .importWorkflows | .run | .runStatus => "POST"
  | .renameWorkflow => "PATCH"
  | .deleteWorkflow | .deleteHistory => "DELETE"

/-- The path of a route. -/
def path : Route → String
  | .health => "/api/health"
  | .session => "/api/session"
  | .login => "/api/login"
  | .logout => "/api/logout"
  | .listWorkflows | .importWorkflows | .renameWorkflow | .deleteWorkflow => "/api/workflows"
  | .run => "/api/run"
  | .runStatus => "/api/run/status"
  | .image => "/api/image"
  | .testConnection => "/api/test"
  | .listHistory | .deleteHistory => "/api/history"
  | .historyFile => "/api/history/file"

/-- Who may use a route. -/
def access : Route → Access
  | .health | .session | .login | .logout => .anyone
  | .image | .historyFile => .sessionOrToken
  | _ => .session

/-- The route of a method and a path. -/
def find? (method path : String) : Option Route :=
  all.find? fun route => route.method = method && route.path = path

/-- Is there a route with this path? -/
def knowsPath (path : String) : Bool := all.any fun route => route.path = path

/-- The path with its slash at the end dropped or, if it has none, with one. -/
def slashToggled (path : String) : String :=
  match path.toList.getLast? with
  | some '/' => String.ofList ((path.toList.reverse.dropWhile (· = '/')).reverse)
  | _ => path ++ "/"

end Route

end RenderRelay.Api
