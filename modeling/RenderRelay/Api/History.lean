import RenderRelay.Api.Workflows
import RenderRelay.Path.MediaType

/-! # Run records over the web

Listing and deleting run records, and serving the images that they name. -/

namespace RenderRelay.Api

/-- Is a file to be saved rather than shown? -/
def wantsDownload (request : ApiRequest) : Bool :=
  match request.param "download" with
  | some value => ["1", "true", "yes"].contains value
  | none => false

namespace Service

/-- Lists the records, or answers the one of an id. -/
def listHistory (request : ApiRequest) : Act Double ApiResponse := do
  match Fault.nonEmpty? (request.param "id") with
  | some id => do
      let record ← Act.store fun disk => .pure (HistoryStore.get disk id) disk
      return .ok [("item", record.toJson)]
  | none => do
      let records ← Act.store fun disk => .pure (HistoryStore.readAll disk) disk
      return .ok [("items", .arr (records.map RunRecord.toJson))]

/-- Deletes the records of an id. -/
def deleteHistory (service : Service) (request : ApiRequest) : Act Double ApiResponse := do
  let id ← Act.ofExcept (deletedId request)
  let record ← Act.store (HistoryStore.delete service.runs.patience id)
  return .ok [("deleted", record.id)]

/-- Serves a stored image. -/
def historyFile (request : ApiRequest) : Act Double ApiResponse := do
  let name := (request.param "name").getD ""
  let (name, content) ← Act.store fun disk => .pure (HistoryStore.artifact disk (some name)) disk
  let mediaType := (Path.mediaType? name).getD Client.unknownMedia
  let response : ApiResponse := ⟨200, .file mediaType content, []⟩
  return if wantsDownload request then
    response.withHeader "content-disposition"
      (String.join ["attachment; filename=\"", name, "\""])
  else response

end Service

end RenderRelay.Api
