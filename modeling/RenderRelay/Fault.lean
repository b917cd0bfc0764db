import RenderRelay.Json.Display

/-! # Faults

Everything that can go wrong in the domain is a `Fault`: its kind, a technical message, a
message for the user, a code, details in the order in which they were noted, and what caused
it.

* `FaultKind` lists the kinds with what each fixes: its name, the kind it refines, the status
  that the web layer answers with, and the default texts.
* One constructor per kind (`Fault.upload`, `Fault.workflowNotFound`, …) notes the details of
  that kind after the details given.
* In production only the user's message, the code and the suggestions are shown. -/

namespace RenderRelay

/-- How severe a fault is. -/
inductive Level where
  | debug
  | info
  | warning
  | error
  | critical
deriving DecidableEq, Repr

/-- The levels, the least severe first. -/
def Level.all : List Level := [.debug, .info, .warning, .error, .critical]

/-- The name of a level. -/
def Level.name : Level → String
  | .debug => "debug"
  | .info => "info"
  | .warning => "warning"
  | .error => "error"
  | .critical => "critical"

/-- The kinds of faults. -/
inductive FaultKind where
  | general
  | backend
  | backendConnection
  | upload
  | submit
  | noResult
  | malformedGraph
  | workflowNotFound
  | historyItemNotFound
  | validation
  | invalidParameter
  | security
  | authentication
  | retryExhausted
deriving DecidableEq, Repr

namespace FaultKind

/-- All kinds. -/
def all : List FaultKind :=
  [.general, .backend, .backendConnection, .upload, .submit, .noResult, .malformedGraph,
    .workflowNotFound, .historyItemNotFound, .validation, .invalidParameter, .security,
    .authentication, .retryExhausted]

/-- The public name of a kind. -/
def name : FaultKind → String
  | .general => "ComfyRemoteError"
  | .backend => "BackendError"
  | .backendConnection => "BackendConnectionError"
  | .upload => "UploadError"
  | .submit => "SubmitError"
  | .noResult => "NoResultFoundError"
  | .malformedGraph => "MalformedGraphError"
  | .workflowNotFound => "WorkflowNotFoundError"
  | .historyItemNotFound => "HistoryItemNotFoundError"
  | .validation => "ValidationError"
  | .invalidParameter => "InvalidParameterError"
  | .security => "SecurityError"
  | .authentication => "AuthenticationError"
  | .retryExhausted => "RetryExhaustedError"

/-- The kind, then the kinds it refines, the nearest first. -/
def lineage : FaultKind → List FaultKind
  | .general => [.general]
  | .backend => [.backend, .general]
  | .backendConnection => [.backendConnection, .backend, .general]
  | .upload => [.upload, .backend, .general]
  | .submit => [.submit, .backend, .general]
  | .noResult => [.noResult, .backend, .general]
  | .malformedGraph => [.malformedGraph, .general]
  | .workflowNotFound => [.workflowNotFound, .general]
  | .historyItemNotFound => [.historyItemNotFound, .general]
  | .validation => [.validation, .general]
  | .invalidParameter => [.invalidParameter, .validation, .general]
  | .security => [.security, .validation, .general]
  | .authentication => [.authentication, .general]
  | .retryExhausted => [.retryExhausted, .general]

/-- The code of a kind when none is given: a fixed one, or the kind's name. -/
def code : FaultKind → String
  | .backendConnection => "BACKEND_CONNECTION_ERROR"
  | .upload => "UPLOAD_ERROR"
  | .submit => "SUBMIT_ERROR"
  | .noResult => "NO_RESULT_FOUND"
  | .malformedGraph => "MALFORMED_GRAPH"
  | .workflowNotFound => "WORKFLOW_NOT_FOUND"
  | .historyItemNotFound => "HISTORY_ITEM_NOT_FOUND"
  | .invalidParameter => "INVALID_PARAMETER"
  | .security => "SECURITY_ERROR"
  | .authentication => "UNAUTHORIZED"
  | .retryExhausted => "RETRY_EXHAUSTED"
  | kind => kind.name

/-- The HTTP status that the web layer answers with. -/
def httpStatus : FaultKind → Nat
  | .general => 500
  | .backend | .backendConnection | .upload | .submit => 502
  | .noResult => 504
  | .malformedGraph | .validation | .invalidParameter | .security => 400
  | .workflowNotFound | .historyItemNotFound => 404
  | .authentication => 401
  | .retryExhausted => 503

/-- The level of a kind when none is given. -/
def level : FaultKind → Level
  | .security | .authentication => .warning
  | _ => .error

/-- The user's message of a kind when none is given. -/
def userMessage : FaultKind → String
  | .general => "An error occurred"
  | .backend => "The render backend reported an error"
  | .backendConnection => "Unable to connect to the render backend"
  | .upload => "Failed to upload the input image"
  | .submit => "The render backend rejected the job"
  | .noResult => "Timed out waiting for the image"
  | .malformedGraph => "The workflow file is not a valid graph"
  | .workflowNotFound => "Workflow not found"
  | .historyItemNotFound => "History item not found"
  | .validation | .invalidParameter => "Invalid input"
  | .security => "Security check failed"
  | .authentication => "Unauthorized"
  | .retryExhausted => "Operation failed after multiple attempts"

/-- The technical message of a kind when none is given; some kinds have none. -/
def message? : FaultKind → Option String
  | .backendConnection => some "Failed to connect to the render backend"
  | .upload => some "Image upload failed"
  | .submit => some "Job submission failed"
  | .noResult => some "No image found in backend history"
  | .malformedGraph => some "Workflow graph must be a JSON object"
  | .security => some "Security validation failed"
  | .authentication => some "Authentication required"
  | .retryExhausted => some "All retry attempts exhausted"
  | _ => none

/-- The suggestions of a kind when none are given. -/
def suggestions : FaultKind → List String
  | .backendConnection =>
      ["Check that ComfyUI is running", "Verify the backend URL", "Check firewall settings"]
  | .submit =>
      ["Check that every model referenced by the workflow is installed",
        "Open the workflow in ComfyUI and run it once to surface node errors"]
  | .noResult =>
      ["Check the ComfyUI queue; the job may still be running",
        "Make sure the workflow ends in a SaveImage or PreviewImage node"]
  | .workflowNotFound => ["Import the workflow again or pick another one"]
  | .retryExhausted => ["Wait a moment and try again", "Check your connection"]
  | _ => []

end FaultKind

/-- What caused a fault: the kind of failure and its text. -/
structure Cause where
  kind : String
  text : String
deriving DecidableEq, Repr

/-- A failure as a user sees it; in production the text is held back. -/
def Cause.forUser (production : Bool) (cause : Cause) : String :=
  if production then s!"Error: {cause.kind}" else s!"{cause.kind}: {cause.text}"

/-- Something that went wrong. -/
structure Fault where
  kind : FaultKind
  message : String
  userMessage : String
  code : String
  details : Fields
  cause : Option Cause
  suggestions : List String
  level : Level
  requestId : Option String
  body : Option String
deriving DecidableEq, Repr

namespace Fault

/-- What may be said about any fault beside its message. -/
structure Extras where
  userMessage : Option String := none
  code : Option String := none
  details : Fields := []
  cause : Option Cause := none
  suggestions : List String := []
  level : Option Level := none
  requestId : Option String := none
deriving DecidableEq, Repr

/-- No extras. -/
def Extras.none : Extras := {}

/-- A text that is there and not empty. -/
def nonEmpty? (s : Option String) : Option String := s.filter fun s => !s.isEmpty

/-- A fault of a kind.  Empty extras give way to the defaults of the kind. -/
def ofKind (kind : FaultKind) (message : String) (extras : Extras) (body : Option String) :
    Fault where
  kind := kind
  message := message
  userMessage := (nonEmpty? extras.userMessage).getD kind.userMessage
  code := (nonEmpty? extras.code).getD kind.code
  details := match nonEmpty? extras.requestId with
    | some id => extras.details.put "request_id" (.str id)
    | none => extras.details
  cause := extras.cause
  suggestions := if extras.suggestions.isEmpty then kind.suggestions else extras.suggestions
  level := extras.level.getD kind.level
  requestId := nonEmpty? extras.requestId
  body := body

/-- Notes a detail, if there is one. -/
def noted (extras : Extras) (key : String) (value : Option Json) : Extras :=
  match value with
  | some value => { extras with details := extras.details.put key value }
  | none => extras

/-- A fault with no details of its own. -/
def plain (kind : FaultKind) (message : String) (extras : Extras := .none) : Fault :=
  ofKind kind message extras none

/-- The backend was not reached. -/
def backendConnection (message : String) (url : Option String) (extras : Extras := .none) :
    Fault :=
  ofKind .backendConnection message
    (noted extras "url" ((nonEmpty? url).map Json.str)) none

/-- The greatest number of characters of a body that a fault keeps. -/
def maxBodyChars : Nat := 2000

/-- The start of a body, with dots for what was cut. -/
def shortenBody (body : String) : String :=
  if body.length ≤ maxBodyChars then body
  else String.ofList (body.toList.take maxBodyChars ++ "...".toList)

/-- A fault that shows a body of the backend: the user reads it after `lead`. -/
def withBody (kind : FaultKind) (lead message : String) (status : Option Int)
    (body : Option String) (extras : Extras) : Fault :=
  let body := shortenBody (body.getD "")
  let extras := noted (noted extras "status_code" (status.map Json.int)) "body" (some (.str body))
  let userMessage := match nonEmpty? extras.userMessage with
    | some text => some text
    | none => if body.isEmpty then none else some (lead ++ body)
  ofKind kind message { extras with userMessage := userMessage } (some body)

/-- The backend did not take the input image. -/
def upload (message : String) (status : Option Int) (body : Option String)
    (extras : Extras := .none) : Fault :=
  withBody .upload "Upload failed: " message status body extras

/-- The backend did not take the job. -/
def submit (message : String) (status : Option Int) (body : Option String)
    (extras : Extras := .none) : Fault :=
  withBody .submit "Backend error: " message status body extras

/-- No image appeared in time; `elapsed` counts whole milliseconds. -/
def noResult (message : String) (jobId : Option String) (elapsed : Option Int)
    (extras : Extras := .none) : Fault :=
  ofKind .noResult message
    (noted (noted extras "job_id" ((nonEmpty? jobId).map Json.str)) "elapsed_ms"
      (elapsed.map Json.int)) none

/-- No workflow has this id. -/
def workflowNotFound (id : Json) (message : Option String := none) (extras : Extras := .none) :
    Fault :=
  ofKind .workflowNotFound ((nonEmpty? message).getD s!"Workflow not found: {id.display}")
    (noted extras "workflow_id" (some id)) none

/-- No record or artifact has this name. -/
def historyItemNotFound (id : Json) (message : Option String := none)
    (extras : Extras := .none) : Fault :=
  ofKind .historyItemNotFound
    ((nonEmpty? message).getD s!"History item not found: {id.display}")
    (noted extras "item_id" (some id)) none

/-- A parameter has a value that it may not have. -/
def invalidParameter (parameter : String) (value : Json) (reason : Option String)
    (extras : Extras := .none) : Fault :=
  let reason := nonEmpty? reason
  let lead := s!"Invalid value for '{parameter}': {value.quoted}"
  let extras := noted (noted (noted extras "parameter" (some (.str parameter)))
    "value" (some (.str value.display))) "reason" (reason.map Json.str)
  let userMessage := (nonEmpty? extras.userMessage).getD (match reason with
    | some reason => s!"Invalid {parameter}: {reason}"
    | none => s!"Invalid {parameter}")
  ofKind .invalidParameter
    (match reason with
      | some reason => s!"{lead} ({reason})"
      | none => lead)
    { extras with userMessage := some userMessage } none

/-- All attempts failed, the last one with `lastError`. -/
def retryExhausted (message : String) (attempts : Option Int) (lastError : Option Cause)
    (extras : Extras := .none) : Fault :=
  ofKind .retryExhausted message
    { noted extras "attempts" ((attempts.filter fun n => n ≠ 0).map Json.int) with
      cause := lastError } none

/-- Notes a detail on a fault. -/
def addContext (fault : Fault) (key : String) (value : Json) : Fault :=
  { fault with details := fault.details.put key value }

/-- The details that messages show: neither the request's id nor a body. -/
def shownDetails (fault : Fault) : Fields :=
  fault.details.filter fun field => field.1 ≠ "request_id" && field.1 ≠ "body"

/-- The full technical message. -/
def developerMessage (fault : Fault) : String :=
  let tag := match fault.requestId with
    | some id => s!"[{fault.code}:{id}]"
    | none => s!"[{fault.code}]"
  let details := match fault.shownDetails with
    | [] => ""
    | shown =>
        let pieces := shown.map fun (field : String × Json) => s!"{field.1}={field.2.display}"
        " (" ++ ", ".intercalate pieces ++ ")"
  let cause := match fault.cause with
    | some cause => s!" [caused by: {cause.kind}: {cause.text}]"
    | none => ""
  s!"{tag} {fault.message}{details}{cause}"

/-- The text of a fault. -/
def text (production : Bool) (fault : Fault) : String :=
  if production then fault.userMessage else fault.developerMessage

/-- The fault as the cause of another. -/
def asCause (production : Bool) (fault : Fault) : Cause := ⟨fault.kind.name, fault.text production⟩

/-- The fault as an object; details, the technical message and the cause are internal. -/
def toFields (showInternal : Bool) (fault : Fault) : Fields :=
  [("error", Json.str fault.userMessage), ("code", .str fault.code),
    ("suggestions", .arr (fault.suggestions.map Json.str))] ++
  (match fault.requestId with
    | some id => [("request_id", .str id)]
    | none => []) ++
  (if showInternal then
    [("details", .obj fault.details), ("developer_message", .str fault.developerMessage)] ++
    (match fault.cause with
      | some cause => [("cause", .str cause.text)]
      | none => [])
  else [])

end Fault

end RenderRelay
