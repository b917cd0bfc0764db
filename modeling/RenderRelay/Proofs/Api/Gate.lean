import RenderRelay.Api.Serve
import RenderRelay.Proofs.Bytes.Utf8

/-! # The session gate

Whoever does not show the session's token learns nothing behind the gate and changes nothing there.

* `AccessConfig.eq_of_acceptsSession`: only the session's token is accepted.
* `Service.admits_eq_false`: a request that shows it nowhere where its route looks is not let in.
* `Service.serve_of_not_admitted`: such a request is answered by one response, which depends on
  neither the stores nor the backend, and the world is as it was.
* `Service.receive` puts the reading of the body before, which the web framework does for itself;
  `Service.receive_of_outsider` is the gate as a whole: one run keeps the world, and two runs in any
  two worlds answer alike. -/

namespace RenderRelay

/-! ### Tokens -/

/-- Only the session's token opens the gate. -/
theorem AccessConfig.eq_of_acceptsSession {config : AccessConfig} {token : Option String}
    (h : config.acceptsSession token = true) : token = some config.sessionToken := by
  unfold acceptsSession at h
  cases token with
  | none => cases h
  | some token =>
      obtain ⟨-, hsame⟩ := Bool.and_eq_true_iff.mp h
      have hvalue : config.sessionToken = token := Bytes.encode_injective (eq_of_beq hsame)
      rw [hvalue]

namespace Api

/-! ### Requests from outside -/

/-- The request is one to this route. -/
structure ApiRequest.IsTo (request : ApiRequest) (route : Route) : Prop where
  method_eq : request.method = route.method
  path_eq : request.path = route.path

/-- The routes that anyone may use. -/
def Route.unguarded : List Route := [.health, .session, .login, .logout]

/-- The routes that also look for the token in the query. -/
def Route.embeddable : List Route := [.image, .historyFile]

theorem Route.find?_of_isTo {request : ApiRequest} {route : Route} (h : request.IsTo route) :
    Route.find? request.method request.path = some route := by
  rw [h.method_eq, h.path_eq]
  cases route <;> rfl

namespace Service

variable {service : Service} {route : Route} {request : ApiRequest}

/-- The request shows the session's token nowhere where the route looks for it. -/
structure Outsider (service : Service) (route : Route) (request : ApiRequest) : Prop where
  cookie_ne : service.cookieOf request ≠ some service.secrets.sessionToken
  token_ne : route ∈ Route.embeddable →
    request.param "token" ≠ some service.secrets.sessionToken

theorem hasSession_eq_false
    (h : service.cookieOf request ≠ some service.secrets.sessionToken) :
    service.hasSession request = false :=
  Bool.eq_false_iff.mpr fun hopen => h (AccessConfig.eq_of_acceptsSession hopen)

/-- A request from outside is not let in. -/
theorem admits_eq_false (hguarded : route ∉ Route.unguarded) (h : service.Outsider route request) :
    service.admits route request = false := by
  have hsession := hasSession_eq_false h.cookie_ne
  have htoken : route ∈ Route.embeddable →
      service.secrets.acceptsSession (request.param "token") = false := fun hroute =>
    Bool.eq_false_iff.mpr fun hopen => h.token_ne hroute (AccessConfig.eq_of_acceptsSession hopen)
  unfold admits
  cases haccess : route.access with
  | anyone =>
      refine absurd ?_ hguarded
      revert haccess
      cases route <;> decide
  | session => exact hsession
  | sessionOrToken =>
      have hroute : route ∈ Route.embeddable := by
        revert haccess
        cases route <;> decide
      dsimp only
      rw [hsession, htoken hroute]
      rfl

/-! ### The refusal -/

/-- The response to a request that is not let in, before it gets its id. -/
def unauthorized (service : Service) : ApiResponse := .ofFault service.production notAuthenticated

/-- The response to a request that is not let in. -/
def refusal (service : Service) (request : ApiRequest) : ApiResponse :=
  service.unauthorized.withHeader "x-request-id" (service.requestId request)

/-- The refusal says that a session is needed. -/
theorem unauthorized_eq (service : Service) : ∃ rest, service.unauthorized =
    .json 401 (.obj (("error", .str "Unauthorized") :: ("code", .str "UNAUTHORIZED") :: rest)) :=
  ⟨_, rfl⟩

/-- A request that is not let in is refused, and nothing happens for it. -/
theorem serve_of_not_admitted (hto : request.IsTo route)
    (h : service.admits route request = false) (world : World Double) :
    service.serve request world = (.ok (service.refusal request), world) := by
  have hguarded : service.guarded route request = throw (.fault notAuthenticated) := by
    unfold guarded
    rw [h]
    rfl
  unfold serve respond
  rw [Route.find?_of_isTo hto]
  dsimp only
  rw [hguarded]
  rfl

/-! ### Bodies -/

/-- How the web framework reads the body of a request to a route: it gives the request with what
the body holds, or the response that rejects it.  What stands before the body stays as it is. -/
structure BodyReader where
  read : Route → ApiRequest → Bytes → Except ApiResponse ApiRequest
  keeps : ∀ {route request body whole}, read route request body = .ok whole →
    whole.method = request.method ∧ whole.path = request.path ∧ whole.query = request.query ∧
      whole.headers = request.headers ∧ whole.cookies = request.cookies

/-- The response to a request whose body is still to be read. -/
def receive (service : Service) (reader : BodyReader) (request : ApiRequest) (body : Bytes) :
    Act Double ApiResponse :=
  match Route.find? request.method request.path with
  | none => service.serve request
  | some route =>
      match reader.read route request body with
      | .ok whole => service.serve whole
      | .error rejection =>
          return rejection.withHeader "x-request-id" (service.requestId request)

/-- The gate goes by the settings, and by what stands before the body. -/
theorem Outsider.of_keeps {other : Service} {whole : ApiRequest}
    (h : service.Outsider route request) (hsettings : other.settings = service.settings)
    (hquery : whole.query = request.query) (hcookies : whole.cookies = request.cookies) :
    other.Outsider route whole where
  cookie_ne := by
    unfold cookieOf secrets
    rw [hsettings, hcookies]
    exact h.cookie_ne
  token_ne hroute := by
    unfold ApiRequest.param secrets
    rw [hsettings, hquery]
    exact h.token_ne hroute

/-- A route that does not look at the query has the same outsiders whatever the query says. -/
theorem Outsider.of_query (h : service.Outsider route request) (hroute : route ∉ Route.embeddable)
    (query : Url.Form) : service.Outsider route { request with query := query } :=
  ⟨h.cookie_ne, fun hembeddable => absurd hembeddable hroute⟩

/-- To a request from outside there is one response, up to the id of the request: the refusal, or
the rejection of its body.  It is the same for all services with these settings in all worlds, and
all worlds stay as they were.  On a route that does not take the token in the query, no query lets
the request in. -/
theorem receive_of_outsider (reader : BodyReader) (hto : request.IsTo route)
    (hguarded : route ∉ Route.unguarded) (houtside : service.Outsider route request)
    (body : Bytes) :
    (∃ response : ApiResponse,
      ((∃ rest, response = .json 401
          (.obj (("error", .str "Unauthorized") :: ("code", .str "UNAUTHORIZED") :: rest))) ∨
        reader.read route request body = .error response) ∧
      ∀ (other : Service) (world : World Double), other.settings = service.settings →
        other.production = service.production →
          other.receive reader request body world =
            (.ok (response.withHeader "x-request-id" (other.requestId request)), world)) ∧
    (route ∉ Route.embeddable →
      ∀ query, service.admits route { request with query := query } = false) := by
  refine ⟨?_, fun hroute query => admits_eq_false hguarded (houtside.of_query hroute query)⟩
  unfold receive
  rw [Route.find?_of_isTo hto]
  dsimp only
  cases hread : reader.read route request body with
  | error rejection => exact ⟨rejection, Or.inr rfl, fun other world _ _ => rfl⟩
  | ok whole =>
      obtain ⟨hmethod, hpath, hquery, hheaders, hcookies⟩ := reader.keeps hread
      refine ⟨service.unauthorized, Or.inl service.unauthorized_eq, ?_⟩
      intro other world hsettings hproduction
      have hwhole : whole.IsTo route := ⟨hmethod.trans hto.method_eq, hpath.trans hto.path_eq⟩
      have hshut : other.admits route whole = false :=
        admits_eq_false hguarded (houtside.of_keeps hsettings hquery hcookies)
      have hid : other.requestId whole = other.requestId request := by
        unfold requestId
        rw [hheaders]
      have hrefusal : other.unauthorized = service.unauthorized := by
        unfold unauthorized
        rw [hproduction]
      dsimp only
      rw [serve_of_not_admitted hwhole hshut, refusal, hid, hrefusal]

/-! ### A sample -/

/-- Reads a body as JSON, if there is one, and answers 422 where it is none. -/
def jsonReader : BodyReader where
  read _ request body :=
    if body.isEmpty then .ok request
    else match (Bytes.decode? body).map Json.read with
      | some (.ok value) => .ok { request with body := value }
      | _ => .error (.json 422 .null)
  keeps := by
    intro route request body whole h
    split at h
    · cases h
      exact ⟨rfl, rfl, rfl, rfl, rfl⟩
    · split at h
      · cases h
        exact ⟨rfl, rfl, rfl, rfl, rfl⟩
      · cases h

/-- A service with the settings that hold unless others are given, which reaches no backend. -/
def sampleService : Service where
  settings := {}
  runs :=
    { backend := fun _ _ => .failure ⟨.connect, "ConnectError", ""⟩
      timeouts := .standard
      patience := ⟨.standard, fun _ => .zero false⟩
      production := false
      proxyUrl := fun _ _ => ImageRef.proxyPath
      clientId := "client"
      drawnSeed := 0
      newId := fun _ => "id"
      pollInterval := .ofRatio false 3 2
      maxWait := .ofInt 600000 }
  freshId := "request"
  defaultBackend := "http://127.0.0.1:8188"

/-- A request for the records that shows the session's token in its query, and no cookie. -/
def tokenInQuery : ApiRequest :=
  ⟨"GET", "/api/history", [("token", sampleService.secrets.sessionToken)], [], [], .null, [], []⟩

/-- The token in the query does not open the records. -/
theorem receive_of_outsider_tokenInQuery :
    tokenInQuery.IsTo .listHistory ∧ .listHistory ∉ Route.unguarded ∧
      sampleService.Outsider .listHistory tokenInQuery ∧
      .listHistory ∉ Route.embeddable ∧
      sampleService.admits .listHistory tokenInQuery = false ∧
      ∃ response : ApiResponse, ∀ world : World Double,
        sampleService.receive jsonReader tokenInQuery [] world =
          (.ok (response.withHeader "x-request-id" "request"), world) := by
  have hto : tokenInQuery.IsTo .listHistory := ⟨rfl, rfl⟩
  have hguarded : .listHistory ∉ Route.unguarded := by decide
  have hplain : .listHistory ∉ Route.embeddable := by decide
  have houtside : sampleService.Outsider .listHistory tokenInQuery :=
    ⟨nofun, fun hroute => absurd hroute hplain⟩
  obtain ⟨⟨response, -, halike⟩, hquery⟩ :=
    receive_of_outsider jsonReader hto hguarded houtside []
  exact ⟨hto, hguarded, houtside, hplain, hquery hplain tokenInQuery.query, response,
    fun world => halike sampleService world rfl rfl⟩

end Service

end Api

end RenderRelay
