import RenderRelay.Api.History
import RenderRelay.Api.Runs

/-! # Serving requests

`Service.serve` finds the route of a request, asks whether the request may use it, and answers.

* A request that is not let in reaches no handler: nothing is read, written or sent for it.
* A fault is answered by its status and its fields; any other failure is none of the web
  layer's, and is passed on.
* Every response carries the id of its request. -/

namespace RenderRelay.Api.Service

/-- Does what a route is for. -/
def handle (service : Service) (route : Route) (request : ApiRequest) : Act Double ApiResponse :=
  match route with
  | .health => return service.health
  | .session => return service.session request
  | .login => Act.ofExcept (service.login request)
  | .logout => return service.logout
  | .listWorkflows => listWorkflows
  | .importWorkflows => service.importWorkflows request
  | .renameWorkflow => service.renameWorkflow request
  | .deleteWorkflow => service.deleteWorkflow request
  | .run => service.startRun request
  | .runStatus => service.pollRun request
  | .image => service.serveImage request
  | .testConnection => service.testConnection request
  | .listHistory => listHistory request
  | .deleteHistory => service.deleteHistory request
  | .historyFile => historyFile request

/-- Does what a route is for, if the request may use it. -/
def guarded (service : Service) (route : Route) (request : ApiRequest) :
    Act Double ApiResponse :=
  if service.admits route request then service.handle route request
  else throw (.fault notAuthenticated)

/-- The response to a request that has no route. -/
def noRoute (request : ApiRequest) : ApiResponse :=
  let detail (status : Nat) (text : String) : ApiResponse :=
    .json status (.obj [("detail", .str text)])
  if Route.knowsPath request.path then detail 405 "Method Not Allowed"
  else if request.path ≠ "/" && Route.knowsPath (Route.slashToggled request.path) then
    ⟨307, .empty, []⟩
  else detail 404 "Not Found"

/-- The response to a request, without its id. -/
def respond (service : Service) (request : ApiRequest) : Act Double ApiResponse := do
  match Route.find? request.method request.path with
  | none => return noRoute request
  | some route =>
      match ← (service.guarded route request).attempt with
      | .ok response => return response
      | .error (.fault fault) => return .ofFault service.production fault
      | .error failure => throw failure

/-- The id of a request: the one that it brings, or a fresh one. -/
def requestId (service : Service) (request : ApiRequest) : String :=
  (Fault.nonEmpty? (request.headers.get? "x-request-id")).getD service.freshId

/-- The response to a request. -/
def serve (service : Service) (request : ApiRequest) : Act Double ApiResponse := do
  let response ← service.respond request
  return response.withHeader "x-request-id" (service.requestId request)

end RenderRelay.Api.Service
