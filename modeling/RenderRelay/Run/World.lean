import RenderRelay.Backend.Client
import RenderRelay.Store.History
import RenderRelay.Store.Workflows
import RenderRelay.Time.Scale

/-! # What runs act on

Runs read a clock, exchange requests with the backend, pause, and change the data directory.

* `World` holds what they leave behind: the clock, the directory, the requests sent, the
  pauses made and the number of random ids drawn.
* `RunConfig` holds what does not change: how the backend answers, how long things may take,
  and where random values come from.
* A pause between polls moves the clock; a wait between attempts does not. -/

namespace RenderRelay

/-- A pause: between two polls, or between two attempts at the same thing. -/
inductive Pause (τ : Type) where
  | poll (seconds : τ)
  | attempt (seconds : Double)

/-- What runs leave behind. -/
structure World (τ : Type) where
  clock : τ
  disk : Disk
  sent : List Request
  pauses : List (Pause τ)
  drawn : Nat

/-- What runs go by. -/
structure RunConfig (τ : Type) where
  backend : Backend
  timeouts : Timeouts
  patience : Patience
  production : Bool
  proxyUrl : String → ImageRef → String
  clientId : String
  drawnSeed : Int
  newId : Nat → String
  pollInterval : τ
  maxWait : τ

namespace RunConfig

variable {τ : Type}

/-- The client of the backend at a URL. -/
def client (config : RunConfig τ) (baseUrl : String) : Client where
  baseUrl := ImageRef.withoutEndSlashes baseUrl
  timeouts := config.timeouts
  patience := config.patience.policy
  share := config.patience.share
  production := config.production

end RunConfig

/-- A step of a run: it answers a value or fails, and changes the world either way. -/
abbrev Act (τ α : Type) := ExceptT Failure (StateM (World τ)) α

namespace Act

variable {τ α : Type}

/-- A value or a failure. -/
def ofExcept (value : Except Failure α) : Act τ α := fun world => (value, world)

/-- What happens, failure or not. -/
def attempt (act : Act τ α) : Act τ (Except Failure α) := fun world =>
  let (answer, world) := act world
  (.ok answer, world)

/-- The clock. -/
def clock : Act τ τ := fun world => (.ok world.clock, world)

/-- An exchange with the backend. -/
def exchange (exchange : Exchange α) : Act τ α := fun world =>
  let (answer, traffic) := exchange ⟨world.sent, []⟩
  (answer, { world with
    sent := traffic.sent
    pauses := world.pauses ++ traffic.waits.map Pause.attempt })

/-- An operation on the data directory. -/
def store (operation : Disk → Stored α) : Act τ α := fun world =>
  let stored := operation world.disk
  (stored.answer, { world with
    disk := stored.disk
    pauses := world.pauses ++ stored.waits.map Pause.attempt })

/-- A new random id. -/
def drawId (config : RunConfig τ) : Act τ String := fun world =>
  (.ok (config.newId (world.drawn + 1)), { world with drawn := world.drawn + 1 })

/-- A pause between two polls. -/
def pause [TimeScale τ] (seconds : τ) : Act τ Unit := fun world =>
  (.ok (), { world with
    clock := TimeScale.later world.clock seconds
    pauses := world.pauses ++ [.poll seconds] })

end Act

end RenderRelay
