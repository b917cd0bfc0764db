import RenderRelay.Run.Status
import RenderRelay.Run.Submit

/-! # Following a run

* `check` makes one poll.  A run whose time is up is not polled any more; a run whose image is
  found is done, whether or not the image can be fetched and stored.
* `wait` polls until the run has ended, with a pause after each poll that leaves it open.
* `run` submits and waits; a fault before the backend has accepted the job is a state of the
  run. -/

namespace RenderRelay.RunConfig

variable {τ : Type}

/-- The bytes of an image, none if the backend does not give them. -/
def fetchImage (config : RunConfig τ) (client : Client) (image : ImageRef) :
    Act τ (Option Bytes) := do
  match ← (Act.exchange (client.download config.backend image)).attempt with
  | .ok content => return some content
  | .error (.fault _) => return none
  | .error failure => throw failure

section Recording

variable [TimeScale τ]

/-- Stores the image of a run; a fault of the store leaves the run without a record. -/
def recordImage (config : RunConfig τ) (ticket : RunTicket τ) (image : ImageRef)
    (content : Bytes) : Act τ (Option RunRecord) := do
  let recordId ← Act.drawId config
  let nameId ← Act.drawId config
  let stamp : HistoryStore.Stamp := ⟨recordId, nameId, TimeScale.stamp (← Act.clock)⟩
  match ← (Act.store (HistoryStore.append config.patience stamp content (some image.filename)
      ticket.metadata.toFields)).attempt with
  | .ok record => return some record
  | .error (.fault _) | .error .fileAccess => return none
  | .error failure => throw failure

/-- Ends a run whose image is found. -/
def complete (config : RunConfig τ) (client : Client) (ticket : RunTicket τ)
    (image : ImageRef) (elapsed : τ) : Act τ (RunStatus τ) := do
  let record ← match ← config.fetchImage client image with
    | some content => config.recordImage ticket image content
    | none => pure none
  let _ ← Act.ofExcept (TimeScale.rounded elapsed)
  return .done ticket elapsed
    { image := image
      viewUrl := image.viewUrl ticket.baseUrl
      proxyUrl := config.proxyUrl ticket.baseUrl image
      record := record }

/-- The fault of a run whose time is up. -/
def timeoutFault (ticket : RunTicket τ) (elapsed : Int) : Fault :=
  .noResult "Timed out or no image found in history" (some ticket.jobId) (some elapsed)

/-- Makes one poll, unless the time of the run is up. -/
def check (config : RunConfig τ) (ticket : RunTicket τ) : Act τ (RunStatus τ) := do
  let elapsed := TimeScale.minus (← Act.clock) ticket.startedAt
  if TimeScale.exceeds elapsed config.maxWait then
    let millis ← Act.ofExcept (TimeScale.rounded elapsed)
    return .timedOut ticket elapsed (timeoutFault ticket millis)
  else
    let client := config.client ticket.baseUrl
    let snapshot ← Act.exchange (client.fetchStatus config.backend ticket.jobId)
    let ticket := ticket.seen snapshot.history snapshot.fullHistory
    match snapshot.image with
    | none => return .polling ticket elapsed
    | some image => config.complete client ticket image elapsed

/-- Polls until the run has ended, at most `fuel` more times after this one. -/
def waitFor (config : RunConfig τ) : (fuel : Nat) → RunTicket τ → Act τ (RunStatus τ)
  | 0, ticket => config.check ticket
  | fuel + 1, ticket => do
      match ← config.check ticket with
      | .polling ticket _ => do
          Act.pause config.pollInterval
          waitFor config fuel ticket
      | status => return status

/-- A number of polls after which the time of a run is up. -/
def pollLimit (config : RunConfig τ) (ticket : RunTicket τ) (clock : τ) : Nat :=
  TimeScale.pauses (TimeScale.minus config.maxWait (TimeScale.minus clock ticket.startedAt))
    config.pollInterval

/-- Polls until the run has ended. -/
def wait (config : RunConfig τ) (ticket : RunTicket τ) : Act τ (RunStatus τ) := do
  config.waitFor (config.pollLimit ticket (← Act.clock)) ticket

/-- Submits a run and waits for its end. -/
def run (config : RunConfig τ) (request : RunRequest) : Act τ (RunStatus τ) := do
  match ← (config.submit request).attempt with
  | .ok ticket => config.wait ticket
  | .error (.fault fault) => return .failed fault
  | .error failure => throw failure

end Recording

end RenderRelay.RunConfig
