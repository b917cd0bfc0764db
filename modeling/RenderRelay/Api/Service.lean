import RenderRelay.Api.Message
import RenderRelay.Api.Route
import RenderRelay.Run.Poll
import RenderRelay.Settings.Sections

/-! # The web service

What the web layer goes by, and who it lets in.

* A session is shown by a cookie; the routes that serve images also take its token as a
  parameter of the query, so that a page can embed them.
* `Service.admits` decides on a request by the route alone and what the request shows. -/

namespace RenderRelay.Api

/-- What the web layer goes by: its settings, how runs are done, a fresh id for a request that
has none, and the backend that is used when none is named. -/
structure Service where
  settings : Settings
  runs : RunConfig Double
  freshId : String
  defaultBackend : String

namespace Service

/-- The service of some settings, whose backend must have a URL. -/
def ofSettings (settings : Settings) (runs : RunConfig Double) (freshId : String) :
    Except Failure Service := do
  let backend ← Url.checkBase (some settings.backend.url)
  return ⟨settings, runs, freshId, backend⟩

/-- The secrets of the service. -/
def secrets (service : Service) : AccessConfig := service.settings.server.access

/-- How runs are done; the URLs of their images carry the session's token. -/
def runConfig (service : Service) : RunConfig Double :=
  { service.runs with
    proxyUrl := fun baseUrl image =>
      image.proxyUrl baseUrl (some service.secrets.sessionToken) ImageRef.proxyPath }

/-- Is this a service in production? -/
def production (service : Service) : Bool := service.runs.production

/-- The cookie that the request shows. -/
def cookieOf (service : Service) (request : ApiRequest) : Option String :=
  request.cookies.get? service.settings.server.cookieName

/-- Does the request show the session's cookie? -/
def hasSession (service : Service) (request : ApiRequest) : Bool :=
  service.secrets.acceptsSession (service.cookieOf request)

/-- May the request use the route? -/
def admits (service : Service) (route : Route) (request : ApiRequest) : Bool :=
  match route.access with
  | .anyone => true
  | .session => service.hasSession request
  | .sessionOrToken =>
      service.hasSession request || service.secrets.acceptsSession (request.param "token")

/-- The fault of a request that is not let in. -/
def notAuthenticated : Fault := .plain .authentication "Not authenticated"

/-- The backend that was named, or the default one. -/
def backendUrl (service : Service) (named : Option String) : Except Failure String :=
  Url.checkBase (some ((Fault.nonEmpty? named).getD service.settings.backend.url))

/-! ### Cookies -/

/-- The text of a cookie with its attributes. -/
def cookieText (name value : String) (httpOnly secure : Bool) (maxAge : Int) : String :=
  String.join ([name, "=", value] ++ (if httpOnly then ["; HttpOnly"] else []) ++
    ["; Max-Age=", Json.intText maxAge, "; Path=/; SameSite=lax"] ++
    (if secure then ["; Secure"] else []))

/-- The cookie that opens a session. -/
def openingCookie (service : Service) : String :=
  let server := service.settings.server
  cookieText server.cookieName service.secrets.sessionToken true server.secureCookies
    server.cookieMaxAge

/-- The cookie that ends a session. -/
def closingCookie (service : Service) : String :=
  cookieText service.settings.server.cookieName "\"\"" false false 0

/-- Opens a session for whoever knows the password. -/
def login (service : Service) (request : ApiRequest) : Except Failure ApiResponse :=
  match request.field "password" with
  | none =>
      .error (.fault (.plain .validation "Empty password"
        { userMessage := some "Password is required" }))
  | some password =>
      if service.secrets.acceptsPassword (some password) then
        .ok ((ApiResponse.ok [("authenticated", .bool true)]).withHeader "set-cookie"
          service.openingCookie)
      else
        .error (.fault (.plain .authentication "Invalid password"
          { userMessage := some "Invalid password" }))

/-- Ends the session. -/
def logout (service : Service) : ApiResponse :=
  (ApiResponse.ok [("authenticated", .bool false)]).withHeader "set-cookie" service.closingCookie

/-- The state of the session. -/
def session (service : Service) (request : ApiRequest) : ApiResponse :=
  .ok [("authenticated", .bool (service.hasSession request)),
    ("password_configured", .bool service.secrets.hasOwnPassword)]

/-- The state of the service. -/
def health (service : Service) : ApiResponse :=
  .ok [("status", .str "ok"), ("version", .str service.settings.version)]

end Service

end RenderRelay.Api
