import RenderRelay.Image.Basic
import RenderRelay.Run.Ticket

/-! # The state of a run

A run is being polled, or it has ended: with an image, without one in time, or with a fault
before the backend accepted it. -/

namespace RenderRelay

/-- The image of a run: the backend's name for it, two URLs at which it is served, and its
record unless it could not be stored. -/
structure RunResult where
  image : ImageRef
  viewUrl : String
  proxyUrl : String
  record : Option RunRecord
deriving DecidableEq, Repr

/-- The state of a run; the elapsed time counts from its start. -/
inductive RunStatus (τ : Type) where
  | polling (ticket : RunTicket τ) (elapsed : τ)
  | done (ticket : RunTicket τ) (elapsed : τ) (result : RunResult)
  | timedOut (ticket : RunTicket τ) (elapsed : τ) (fault : Fault)
  | failed (fault : Fault)

namespace RunStatus

variable {τ : Type}

/-- Has the run ended? -/
def isTerminal : RunStatus τ → Bool
  | .polling .. => false
  | _ => true

/-- The name of the state. -/
def name : RunStatus τ → String
  | .polling .. => "polling"
  | .done .. => "done"
  | .timedOut .. => "timed_out"
  | .failed _ => "failed"

/-- The ticket of a run that the backend has accepted. -/
def ticket? : RunStatus τ → Option (RunTicket τ)
  | .polling ticket _ | .done ticket _ _ | .timedOut ticket _ _ => some ticket
  | .failed _ => none

/-- The time since the start of a run that the backend has accepted. -/
def elapsed? : RunStatus τ → Option τ
  | .polling _ elapsed | .done _ elapsed _ | .timedOut _ elapsed _ => some elapsed
  | .failed _ => none

/-- The image as fields. -/
def resultFields (result : RunResult) : Fields :=
  [("image", ImageRef.formJson result.image.viewParams), ("view_url", .str result.viewUrl),
    ("proxy_url", .str result.proxyUrl),
    ("record", match result.record with
      | some record => record.toJson
      | none => .null)]

/-- The fields that only this state has. -/
def ownFields (showInternal : Bool) : RunStatus τ → Fields
  | .polling .. => []
  | .done _ _ result => resultFields result
  | .timedOut ticket _ fault =>
      fault.toFields showInternal ++
        [("history", ticket.lastHistory), ("full_history", ticket.lastFullHistory)]
  | .failed fault => fault.toFields showInternal

variable [TimeScale τ]

/-- The elapsed time in whole milliseconds, null if there is none. -/
def elapsedJson (status : RunStatus τ) : Except Failure Json :=
  match status.elapsed? with
  | some elapsed => (TimeScale.rounded elapsed).map Json.int
  | none => .ok .null

/-- The ticket as fields, if there is one. -/
def ticketFields (status : RunStatus τ) : Fields :=
  match status.ticket? with
  | some ticket => [("ticket", ticket.toJson), ("job_id", .str ticket.jobId)]
  | none => []

/-- The state as fields. -/
def toFields (showInternal : Bool) (status : RunStatus τ) :
    Except Failure Fields := do
  let elapsed ← status.elapsedJson
  return [("state", .str status.name), ("elapsed_ms", elapsed)] ++ status.ticketFields ++
    status.ownFields showInternal

end RunStatus

end RenderRelay
