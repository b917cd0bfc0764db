import RenderRelay.Check.Params
import RenderRelay.Graph.Inject
import RenderRelay.Job.Compile
import RenderRelay.Run.Ticket
import RenderRelay.Run.World
import RenderRelay.Url.Base

/-! # Submitting a run

A run request names a stored workflow and a backend, and may give prompts, a seed, a step
count and an input image.

* Everything that can be checked without the backend is checked first.
* An input image is uploaded before the job is compiled, since the graph names it.
* The seed is always written to the graph, drawn if it is not given, and stands in the ticket:
  what is recorded is what the backend runs with. -/

namespace RenderRelay

/-- An input image. -/
structure InputImage where
  filename : String
  content : Bytes
  contentType : Option String
deriving DecidableEq, Repr

/-- What a run is asked to do; values are as they came. -/
structure RunRequest where
  workflowId : Json
  baseUrl : Option String
  positivePrompt : Json
  negativePrompt : Json
  seed : Json
  steps : Json
  image : Option InputImage
deriving DecidableEq, Repr

/-- The parameters of a request that were checked. -/
structure RunRequest.Checked where
  baseUrl : String
  positive : Option String
  negative : Option String
  steps : Option Int
deriving DecidableEq, Repr

namespace RunRequest

/-- Checks URL, prompts and step count. -/
def check (request : RunRequest) : Except Failure Checked := do
  let baseUrl ← Url.checkBase request.baseUrl
  let positive ← Check.prompt "positive_prompt" request.positivePrompt
  let negative ← Check.prompt "negative_prompt" request.negativePrompt
  let steps ← Check.steps request.steps
  return ⟨baseUrl, positive, negative, steps⟩

/-- The stored workflow that the request names. -/
def workflow (request : RunRequest) (disk : Disk) : Except Failure StoredWorkflow :=
  match request.workflowId with
  | .str id => WorkflowStore.get disk id
  | id => do
      let _ ← WorkflowStore.readAll disk
      .error (WorkflowStore.notFound id)

/-- The graph of a workflow, without annotations. -/
def graphOf (workflow : StoredWorkflow) : Except Failure Graph :=
  match Graph.ofJson workflow.raw with
  | .ok graph => .ok graph.normalize
  | .error e => .error e.failure

end RunRequest

namespace RunConfig

variable {τ : Type}

/-- Uploads the input image, if there is one, and writes its name to the graph. -/
def uploadImage (config : RunConfig τ) (client : Client) (image : Option InputImage)
    (graph : Graph) : Act τ (Option String × Graph) :=
  match image with
  | none => return (none, graph)
  | some image => do
      let name ← Act.exchange
        (client.upload config.backend image.filename image.content image.contentType)
      return (some name, (graph.injectImage name).1)

/-- Checks a request, prepares its graph, submits the job and answers a ticket. -/
def submit (config : RunConfig τ) (request : RunRequest) : Act τ (RunTicket τ) := do
  let checked ← Act.ofExcept request.check
  let workflow ← Act.store fun disk => .pure (request.workflow disk) disk
  let graph ← Act.ofExcept (RunRequest.graphOf workflow)
  let client := config.client checked.baseUrl
  let (inputFilename, graph) ← config.uploadImage client request.image graph
  let graph := (graph.injectPrompts checked.positive checked.negative).1
  let seed ← Act.ofExcept (chooseSeedOf config.drawnSeed request.seed)
  let graph := (graph.injectSampler (some seed) checked.steps).1
  let compiled := graph.compile
  let jobId ← Act.exchange
    (client.submit config.backend compiled.job.toJson config.clientId)
  let startedAt ← Act.clock
  return {
    jobId := jobId
    baseUrl := checked.baseUrl
    startedAt := startedAt
    clientId := .str config.clientId
    parameters :=
      { workflowId := .str workflow.id
        workflowName := .str workflow.name
        positivePrompt := Json.ofText? checked.positive
        negativePrompt := Json.ofText? checked.negative
        seed := .int seed
        steps := Json.ofInt? checked.steps
        inputFilename := Json.ofText? inputFilename }
    summary := some (WorkflowSummary.ofGraph graph.toJson).toFields
    warnings := compiled.warnings.map fun warning => .str warning.text
    lastHistory := .null
    lastFullHistory := .null }

end RunConfig

end RenderRelay
