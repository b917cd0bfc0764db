import RenderRelay.Api.Service
import RenderRelay.Bytes.Invalid
import RenderRelay.Check.Body

/-! # Workflows over the web

Listing, importing, renaming and deleting stored workflows.  Graphs are not sent out. -/

namespace RenderRelay.Api

open Text

/-- The fault of a body that has issues; the user reads the first one. -/
def bodyFault (issues : List Check.Issue) : Fault :=
  let first := match issues with
    | [] => "body: invalid value"
    | issue :: _ =>
        String.join [if issue.place.isEmpty then "body" else join "." issue.place, ": ",
          issue.kind.message]
  .plain .validation ("Invalid request body: " ++ first)
    { userMessage := some ("Invalid " ++ first)
      details := [("errors", .arr (issues.map Check.Issue.toJson))] }

/-- The value of a checked body. -/
def checkedBody {α : Type} (verdict : Check.Verdict α) : Except Failure α :=
  match verdict with
  | .valid value => .ok value
  | .invalid issues => .error (.fault (bodyFault issues))

/-- The id of what is to be deleted. -/
def deletedId (request : ApiRequest) : Except Failure String :=
  let given := (request.param "id").getD ""
  let id := trim given
  if id.isEmpty then
    .error (.fault (.invalidParameter "id" (.str given) (some "missing id to delete")))
  else .ok id

/-- Workflows as they are listed. -/
def listing (workflows : List StoredWorkflow) : Json :=
  .arr (workflows.map (StoredWorkflow.toJson false))

/-- The fault of an upload that is no JSON. -/
def unreadableUpload (reason : String) : Failure :=
  let text := "Could not parse JSON: " ++ reason
  .fault (.plain .validation text { userMessage := some text })

/-- The JSON value of an uploaded file. -/
def uploadedJson (content : Bytes) : Except Failure Json :=
  match Bytes.decode content with
  | .error run => .error (unreadableUpload run.message)
  | .ok text =>
      match Json.read text with
      | .ok value => .ok value
      | .error e =>
          if e.cause = .integerTooLong then .error .unreadable
          else .error (unreadableUpload (e.message text))

/-- The fault of an import without a file. -/
def missingUpload : Fault :=
  .plain .validation "Missing upload"
    { userMessage := some "Upload a JSON file under the 'file' field." }

namespace Service

/-- Lists the workflows. -/
def listWorkflows : Act Double ApiResponse := do
  let workflows ← Act.store fun disk => .pure (WorkflowStore.readAll disk) disk
  return .ok [("workflows", listing workflows), ("source", .str "stored")]

/-- Imports the workflows of an uploaded file. -/
def importWorkflows (service : Service) (request : ApiRequest) : Act Double ApiResponse := do
  match request.file "file" with
  | none => throw (.fault missingUpload)
  | some upload => do
      let payload ← Act.ofExcept (uploadedJson upload.content)
      let stamp := TimeScale.stamp (← Act.clock)
      let merged ← Act.store (WorkflowStore.importPayload service.runs.patience stamp payload)
      return .ok [("workflows", listing merged), ("saved", .bool true)]

/-- Gives a workflow another name. -/
def renameWorkflow (service : Service) (request : ApiRequest) : Act Double ApiResponse := do
  let rename ← Act.ofExcept (checkedBody (Rename.ofJson request.body))
  let updated ← Act.store
    (WorkflowStore.rename service.runs.patience rename.id rename.name)
  return .ok [("workflows", listing updated), ("updated", .str rename.id)]

/-- Deletes a workflow. -/
def deleteWorkflow (service : Service) (request : ApiRequest) : Act Double ApiResponse := do
  let id ← Act.ofExcept (deletedId request)
  let remaining ← Act.store (WorkflowStore.delete service.runs.patience id)
  return .ok [("workflows", listing remaining), ("deleted", .str id)]

end Service

end RenderRelay.Api
