import RenderRelay.Api.Workflows

/-! # Runs over the web

A run can be waited for, or be followed by its ticket: the answer to a submitted run carries
the ticket, and each request with it makes one poll. -/

namespace RenderRelay.Api

open Text

/-- The HTTP status for the state of a run. -/
def runStatusCode : RunStatus Double → Nat
  | .polling .. | .done .. => 200
  | .timedOut .. => 504
  | .failed fault => fault.kind.httpStatus

/-- Is the run to be waited for? -/
def wantsWait (request : ApiRequest) : Except ParamIssue Bool :=
  match request.field "wait" with
  | none => .ok false
  | some text => (Check.booleanOfText text).mapError fun kind =>
      ⟨["body", "wait"], .str text, kind⟩

/-- The input image of a form. -/
def inputImage (request : ApiRequest) : Option InputImage :=
  match request.file "image" with
  | some upload =>
      if upload.filename.isEmpty then none
      else some ⟨upload.filename, upload.content, upload.contentType⟩
  | none => none

namespace Service

/-- The run that a form asks for. -/
def runRequest (service : Service) (request : ApiRequest) : Except Failure RunRequest := do
  let given := (request.field "workflow_id").getD ""
  if (trim given).isEmpty then
    throw (.fault (.invalidParameter "workflow_id" (.str given) none
      { userMessage := some "Select a workflow before running." }))
  let baseUrl ← service.backendUrl (request.field "base_url")
  let seed ← Check.seed (Json.ofText? (request.field "seed"))
  let steps ← Check.steps (Json.ofText? (request.field "steps"))
  return {
    workflowId := .str (trim given)
    baseUrl := some baseUrl
    positivePrompt := Json.ofText? (request.field "positive_prompt")
    negativePrompt := Json.ofText? (request.field "negative_prompt")
    seed := Json.ofInt? seed
    steps := Json.ofInt? steps
    image := inputImage request }

/-- The state of a run as a response. -/
def statusResponse (service : Service) (status : RunStatus Double) :
    Except Failure ApiResponse := do
  let fields ← status.toFields (!service.production)
  return .json (runStatusCode status) (.obj fields)

/-- Submits a run, and waits for it if that is wanted. -/
def startRun (service : Service) (request : ApiRequest) : Act Double ApiResponse := do
  match wantsWait request with
  | .error issue => return .unprocessable issue
  | .ok wait => do
      let run ← Act.ofExcept (service.runRequest request)
      if wait then
        let status ← service.runConfig.run run
        Act.ofExcept (service.statusResponse status)
      else
        let ticket ← service.runConfig.submit run
        return .ok [("state", .str "polling"), ("job_id", .str ticket.jobId),
          ("ticket", ticket.toJson)]

/-- Makes one poll for a ticket. -/
def pollRun (service : Service) (request : ApiRequest) : Act Double ApiResponse := do
  let check ← Act.ofExcept (checkedBody (StatusCheck.ofJson request.body))
  let ticket ← Act.ofExcept (RunTicket.ofFields check.toFields)
  let status ← service.runConfig.check ticket
  Act.ofExcept (service.statusResponse status)

/-- The backend's answer to a request for an image, as a response. -/
def imageResponse (response : Response) : ApiResponse :=
  if response.isSuccess then
    ⟨200, .file (response.contentType.getD Client.unknownMedia) response.body,
      [("cache-control", "no-store")]⟩
  else
    .json response.status (.obj [("error", .str (String.join
      ["ComfyUI responded with ", Json.intText response.status, " on /view"]))])

/-- Serves an image of a backend. -/
def serveImage (service : Service) (request : ApiRequest) : Act Double ApiResponse := do
  match request.param "filename" with
  | none => return .unprocessable ⟨["query", "filename"], .null, .missing⟩
  | some filename => do
      let baseUrl ← Act.ofExcept (service.backendUrl (request.param "base_url"))
      let image : ImageRef := ⟨filename, some ((request.param "subfolder").getD ""),
        some ((request.param "type").getD ImageRef.defaultCategory)⟩
      let response ← Act.exchange
        ((service.runs.client baseUrl).fetchView service.runs.backend image.viewParams)
      return imageResponse response

/-- Tests the connection to a backend. -/
def testConnection (service : Service) (request : ApiRequest) : Act Double ApiResponse := do
  let baseUrl ← Act.ofExcept (service.backendUrl (request.param "base_url"))
  let check ← Act.exchange fun traffic =>
    let (check, traffic) :=
      (service.runs.client baseUrl).checkConnection service.runs.backend traffic
    (.ok check, traffic)
  return .json (if check.success?.isSome then 200 else 502) check.toJson

end Service

end RenderRelay.Api
