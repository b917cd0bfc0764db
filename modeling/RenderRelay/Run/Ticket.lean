import RenderRelay.Store.Record
import RenderRelay.Time.Scale

/-! # Tickets

A ticket holds everything that is needed to go on with a run that the backend has accepted, so
that no state of the run is kept anywhere else.  It can be handed out as an object and be made
again from it; what the last polls have seen is not handed out. -/

namespace RenderRelay

/-- A run that the backend has accepted. -/
structure RunTicket (τ : Type) where
  jobId : String
  baseUrl : String
  startedAt : τ
  clientId : Json
  parameters : RunParameters
  summary : Option Fields
  warnings : List Json
  lastHistory : Json
  lastFullHistory : Json

namespace RunTicket

variable {τ : Type} [TimeScale τ]

/-- The ticket as fields. -/
def toFields (ticket : RunTicket τ) : Fields :=
  [("job_id", .str ticket.jobId), ("client_id", ticket.clientId),
    ("base_url", .str ticket.baseUrl), ("started_at", TimeScale.toJson ticket.startedAt)] ++
    ticket.parameters.toFields ++
    [("summary", Json.ofFields? ticket.summary), ("warnings", .arr ticket.warnings)]

/-- The ticket as an object. -/
def toJson (ticket : RunTicket τ) : Json := .obj ticket.toFields

/-- The value of a field that has to be there. -/
def required (fields : Fields) (name : String) : Except Failure Json :=
  match fields.get? name with
  | some value => .ok value
  | none => .error (.missingField name)

/-- The ticket of fields; job id, URL and start have to be there. -/
def ofFields (fields : Fields) : Except Failure (RunTicket τ) := do
  let jobId ← required fields "job_id"
  let baseUrl ← required fields "base_url"
  let startedAt ← TimeScale.ofJson (← required fields "started_at")
  return {
    jobId := jobId.display
    baseUrl := baseUrl.display
    startedAt := startedAt
    clientId := fields.get "client_id"
    parameters := RunParameters.ofFields fields
    summary := (fields.get "summary").fields?
    warnings := (fields.get "warnings").items
    lastHistory := .null
    lastFullHistory := .null }

omit [TimeScale τ] in
/-- What is recorded of the run. -/
def metadata (ticket : RunTicket τ) : RunMetadata := ⟨.str ticket.jobId, ticket.parameters⟩

omit [TimeScale τ] in
/-- The ticket with what a poll has seen; where it has seen nothing, what was seen before
stays. -/
def seen (ticket : RunTicket τ) (history fullHistory : Json) : RunTicket τ :=
  { ticket with
    lastHistory := if history = .null then ticket.lastHistory else history
    lastFullHistory := if fullHistory = .null then ticket.lastFullHistory else fullHistory }

end RunTicket

end RenderRelay
