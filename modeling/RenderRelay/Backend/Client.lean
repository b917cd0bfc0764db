import RenderRelay.Backend.Body
import RenderRelay.Image.Extract
import RenderRelay.Job.Basic
import RenderRelay.Path.MediaType
import RenderRelay.Retry
import RenderRelay.Url.Address

/-! # Talking to a backend

What a run asks of its backend.

* `upload` sends an input image and answers the name under which a node finds it.
* `submit` sends a job, once, and answers its id; a job that no body can carry is not sent.
* `fetchStatus` looks for an image of a job, first in the job's own history, then in the
  whole one.  Failures on the way count as no data.
* `download` fetches an image; failures on the way there are retried.
* `checkConnection` tries three endpoints and takes the first that succeeds. -/

namespace RenderRelay

open Text

/-- How long each kind of request may take, in seconds. -/
structure Timeouts where
  upload : Double
  submit : Double
  history : Double
  view : Double
  probe : Double
deriving DecidableEq, Repr

/-- The limits that hold unless others are set. -/
def Timeouts.standard : Timeouts :=
  ⟨Double.ofInt 60, Double.ofInt 30, Double.ofInt 15, Double.ofInt 60, Double.ofInt 5⟩

/-- A client of one backend; its URL has no slash at the end. -/
structure Client where
  baseUrl : String
  timeouts : Timeouts
  patience : RetryPolicy
  share : Nat → Double
  production : Bool

/-- An exchange with the backend that answers a value or fails. -/
abbrev Exchange (α : Type) := ExceptT Failure (StateM Traffic) α

namespace Client

/-- The text of a time limit. -/
def limitText (limit : Double) : String := limit.text Json.messageNumbers

/-- The fault of a failure on the way to an endpoint. -/
def transportFault (client : Client) (endpoint : String) (limit : Double)
    (failure : TransportFailure) : Fault :=
  let message := match failure.class_ with
    | .timeout => String.join
        ["Request to ", client.baseUrl, endpoint, " timed out after ", limitText limit, "s"]
    | .connect => String.join ["Failed to connect to ", client.baseUrl, ": ", failure.text]
    | .other => String.join
        ["Transport error talking to ", client.baseUrl, endpoint, ": ", failure.text]
  .backendConnection message (some client.baseUrl)
    { cause := some ⟨failure.kind, failure.text⟩ }

/-- The request to an endpoint; a query that is given takes the place of that of the URL.  The
client's URL and the endpoint behind it are taken to make a URL that can be requested: one with
a host, and without control characters. -/
def request (client : Client) (method : Method) (endpoint : String) (query : Url.Form)
    (body : RequestBody) : Request :=
  let (path, own) := Url.address client.baseUrl endpoint
  ⟨method, path, if query.isEmpty then own else query, body⟩

/-- Sends a request to an endpoint. -/
def call (client : Client) (backend : Backend) (method : Method) (endpoint : String)
    (limit : Double) (query : Url.Form) (body : RequestBody) (traffic : Traffic) :
    Except Fault Response × Traffic :=
  match traffic.send backend (client.request method endpoint query body) with
  | (.response response, traffic) => (.ok response, traffic)
  | (.failure failure, traffic) =>
      (.error (client.transportFault endpoint limit failure), traffic)

/-- Sends a request to an endpoint; a fault ends the exchange. -/
def exchange (client : Client) (backend : Backend) (method : Method) (endpoint : String)
    (limit : Double) (query : Url.Form) (body : RequestBody) : Exchange Response :=
  fun traffic =>
    let (answer, traffic) := client.call backend method endpoint limit query body traffic
    (answer.mapError Failure.fault, traffic)

/-! ### Uploading -/

/-- The media type of bytes of which nothing is known. -/
def unknownMedia : String := "application/octet-stream"

/-- How many characters of a body a message shows. -/
def shownBody : Nat := 200

/-- A value that is set, or another one. -/
def orElse (value other : Json) : Json := if value.isTruthy then value else other

/-- A folder without slashes at its ends. -/
def bareFolder (folder : String) : String :=
  String.ofList (trimBy (· = '/') folder.toList)

/-- The name under which a node finds an uploaded image: `folder/name`, or the name alone. -/
def nameInFolder (folder : Json) (name : String) : String :=
  match folder with
  | .str folder =>
      if (bareFolder folder).isEmpty then name else bareFolder folder ++ "/" ++ name
  | _ => name

/-- The name that the backend's answer gives to an uploaded image. -/
def uploadedName (filename : String) (response : Response) : Except Failure String := do
  let fault (message : String) (userMessage : Option String) : Failure :=
    .fault (.upload message (some response.status) (some response.text)
      { userMessage := userMessage })
  if !response.isSuccess then
    throw (fault ("Backend responded with " ++ Json.intText response.status ++
      " on /upload/image") none)
  let data ← response.json
  if data.fields?.isNone then
    throw (fault "Unexpected response from /upload/image"
      (some ("Unexpected response from ComfyUI upload: " ++ take response.text shownBody)))
  match orElse (data.get "name") (orElse (data.get "filename") (.str filename)) with
  | .str name =>
      if name.isEmpty then throw (fault "Upload response carried no file name" none)
      else return nameInFolder (data.get "subfolder") name
  | _ => throw (fault "Upload response carried no file name" none)

/-- The media type of an input image: the one given, or the one that its name tells. -/
def uploadMedia (filename : String) (contentType : Option String) : String :=
  match Fault.nonEmpty? contentType with
  | some contentType => contentType
  | none => (Path.mediaType? filename).getD unknownMedia

/-- Sends an input image and answers the name under which a node finds it. -/
def upload (client : Client) (backend : Backend) (filename : String) (content : Bytes)
    (contentType : Option String) : Exchange String := do
  let part : FilePart := ⟨"image", filename, uploadMedia filename contentType, content⟩
  let response ← client.exchange backend .post "/upload/image" client.timeouts.upload []
    (.file part)
  ExceptT.mk (Pure.pure (uploadedName filename response))

/-! ### Submitting -/

/-- The job id in the backend's answer. -/
def submittedId (response : Response) : Except Failure String := do
  let fault (message : String) (userMessage : Option String) : Failure :=
    .fault (.submit message (some response.status) (some response.text)
      { userMessage := userMessage })
  if !response.isSuccess then
    throw (fault ("Backend responded with " ++ Json.intText response.status ++ " on /prompt")
      none)
  let data ← response.json
  match data.get "prompt_id" with
  | .null | .str "" =>
      throw (fault "Backend did not return a prompt_id"
        (some ("ComfyUI did not return a prompt_id. Response: " ++ take response.text shownBody)))
  | id => return id.display

/-- Sends a job in its submitted form, once, and answers its id. -/
def submit (client : Client) (backend : Backend) (prompt : Json) (clientId : String) :
    Exchange String := do
  let payload : Json := .obj [("client_id", .str clientId), ("prompt", prompt)]
  if payload.isSendable then
    let response ← client.exchange backend .post "/prompt" client.timeouts.submit []
      (.json payload)
    ExceptT.mk (Pure.pure (submittedId response))
  else throw .unreadable

/-! ### Polling -/

/-- What one poll has seen; null where there was no data. -/
structure Snapshot where
  image : Option ImageRef
  history : Json
  fullHistory : Json
deriving DecidableEq, Repr

/-- The JSON that an endpoint answers, null for any failure. -/
def fetchHistory (client : Client) (backend : Backend) (endpoint : String) : Exchange Json :=
  fun traffic =>
    match client.call backend .get endpoint client.timeouts.history [] .none traffic with
    | (.ok response, traffic) =>
        (if response.isSuccess then response.json else .ok .null, traffic)
    | (.error _, traffic) => (.ok .null, traffic)

/-- One poll: the job's own history first, then the whole one. -/
def fetchStatus (client : Client) (backend : Backend) (jobId : String) : Exchange Snapshot := do
  let history ← client.fetchHistory backend ("/history/" ++ jobId)
  match ImageRef.find? history (some jobId) with
  | some image => return ⟨some image, history, .null⟩
  | none =>
      let fullHistory ← client.fetchHistory backend "/history"
      return ⟨ImageRef.find? fullHistory (some jobId), history, fullHistory⟩

/-! ### Fetching images -/

/-- One attempt to fetch an image; any failure on the way is worth another. -/
def viewOnce (client : Client) (backend : Backend) (params : Url.Form) (traffic : Traffic) :
    Attempt Fault Response × Traffic :=
  match client.call backend .get "/view" client.timeouts.view params .none traffic with
  | (.ok response, traffic) => (.value response, traffic)
  | (.error fault, traffic) => (.transient fault, traffic)

/-- The backend's answer to a request for an image; failures on the way are retried. -/
def fetchView (client : Client) (backend : Backend) (params : Url.Form) : Exchange Response :=
  fun traffic =>
    let retried := retry client.patience client.share (client.viewOnce backend params) traffic
    (match retried.outcome with
      | .value response => .ok response
      | .failed fault | .exhausted fault => .error (.fault fault),
      { retried.state with waits := retried.state.waits ++ retried.waits })

/-- The fault of an image that the backend does not give. -/
def viewFault (client : Client) (image : ImageRef) (status : Nat) : Fault :=
  .backendConnection
    (String.join ["Backend responded with ", Json.intText status, " on /view for ",
      image.filename])
    (some client.baseUrl) { details := [("status_code", .int status)] }

/-- The bytes of an image. -/
def download (client : Client) (backend : Backend) (image : ImageRef) : Exchange Bytes := do
  let response ← client.fetchView backend image.viewParams
  if response.isSuccess then return response.body
  else throw (.fault (client.viewFault image response.status))

/-! ### Testing the connection -/

/-- The endpoints that are tried, in order. -/
def probeEndpoints : List String := ["/system_stats", "/queue", "/"]

/-- What came of trying an endpoint. -/
structure Probe where
  endpoint : String
  outcome : Except String Nat

/-- A probe as an object. -/
def Probe.toJson (probe : Probe) : Json :=
  .obj [("endpoint", .str probe.endpoint),
    match probe.outcome with
    | .ok status => ("status", .int status)
    | .error error => ("error", .str error)]

/-- Tries an endpoint. -/
def probe (client : Client) (backend : Backend) (endpoint : String) (traffic : Traffic) :
    Probe × Traffic :=
  match client.call backend .get endpoint client.timeouts.probe [] .none traffic with
  | (.ok response, traffic) => (⟨endpoint, .ok response.status⟩, traffic)
  | (.error fault, traffic) => (⟨endpoint, .error (fault.text client.production)⟩, traffic)

/-- Did the endpoint answer with success? -/
def Probe.isSuccess (probe : Probe) : Bool :=
  match probe.outcome with
  | .ok status => 200 ≤ status && status ≤ 299
  | .error _ => false

/-- Tries endpoints in order, up to the first that succeeds. -/
def probeAll (client : Client) (backend : Backend) : List String → Traffic → List Probe × Traffic
  | [], traffic => ([], traffic)
  | endpoint :: rest, traffic =>
      let (tried, traffic) := client.probe backend endpoint traffic
      if tried.isSuccess then ([tried], traffic)
      else
        let (more, traffic) := probeAll client backend rest traffic
        (tried :: more, traffic)

/-- What testing a backend's URL has shown. -/
structure ConnectionCheck where
  baseUrl : String
  probes : List Probe

namespace ConnectionCheck

/-- The endpoint that succeeded. -/
def success? (check : ConnectionCheck) : Option Probe := check.probes.find? Probe.isSuccess

/-- The last status that any endpoint answered with. -/
def lastStatus (check : ConnectionCheck) : Option Nat :=
  (check.probes.filterMap fun probe => probe.outcome.toOption).getLast?

/-- The error of a probe, if it has one. -/
def errorOf (probe : Probe) : Option String :=
  match probe.outcome with
  | .error error => some error
  | .ok _ => none

/-- Why the test failed: the last error, or else the last status. -/
def error (check : ConnectionCheck) : Option String :=
  match (check.probes.filterMap errorOf).getLast? with
  | some error => some error
  | none => check.lastStatus.map fun status => "Backend responded with " ++ Json.intText status

/-- The result as an object. -/
def toJson (check : ConnectionCheck) : Json :=
  .obj [("ok", .bool check.success?.isSome), ("base_url", .str check.baseUrl),
    ("endpoint", Json.ofText? (check.success?.map Probe.endpoint)),
    ("status", Json.ofInt? (check.lastStatus.map Int.ofNat)),
    ("error", if check.success?.isSome then .null else Json.ofText? check.error),
    ("attempts", .arr (check.probes.map Probe.toJson))]

end ConnectionCheck

/-- Tests the connection to the backend. -/
def checkConnection (client : Client) (backend : Backend) (traffic : Traffic) :
    ConnectionCheck × Traffic :=
  let (probes, traffic) := client.probeAll backend probeEndpoints traffic
  (⟨client.baseUrl, probes⟩, traffic)

end Client

end RenderRelay
