import RenderRelay.Json.Reader
import RenderRelay.Store.Disk
import RenderRelay.Store.Workflow

/-! # The workflow store

All workflows stand in one JSON file, which every operation reads anew and a change writes as
a whole.

* A file that is missing or that is no JSON counts as empty; entries without an id are
  skipped.
* `importPayload` keeps what is there and appends what comes; a new workflow whose id is taken
  gets the first free number behind it.
* `rename` and `delete` want a workflow that is there. -/

namespace RenderRelay.WorkflowStore

open Number

/-- The entries of the store's file. -/
def entriesOf (content : Json) : List Fields :=
  let listed := if content.fields?.isSome then content.get "workflows" else content
  (listed.items.filterMap Json.fields?).filter fun fields => (fields.get "id").isTruthy

/-- The workflows of the text of the store's file. -/
def ofText (text : String) : Except Failure (List StoredWorkflow) :=
  match Json.read text with
  | .ok content => (entriesOf content).mapM StoredWorkflow.ofFields
  | .error e => if e.cause = .integerTooLong then .error .unreadable else .ok []

/-- The text of the store's file. -/
def toText (workflows : List StoredWorkflow) : String :=
  (Json.obj [("workflows", .arr (workflows.map (StoredWorkflow.toJson true)))]).write .indented

/-- All workflows. -/
def readAll (disk : Disk) : Except Failure (List StoredWorkflow) :=
  match disk.workflows with
  | some text => ofText text
  | none => .ok []

/-- The fault of an id that no workflow has. -/
def notFound (id : Json) : Failure := .fault (.workflowNotFound id)

/-- The first workflow with this id. -/
def get (disk : Disk) (id : String) : Except Failure StoredWorkflow := do
  match (← readAll disk).find? fun workflow => workflow.id = id with
  | some workflow => .ok workflow
  | none => .error (notFound (.str id))

/-- The low-level operations of one attempt to write: make the directory, write the text beside
the file, put it in the file's place. -/
def writeOperations : Nat := 3

/-- Writes the store's file. -/
def persist (patience : Patience) (workflows : List StoredWorkflow) (disk : Disk) :
    Stored (List StoredWorkflow) :=
  (disk.write patience "_persist" writeOperations true fun disk =>
    { disk with workflows := some (toText workflows) }).andThen fun _ disk =>
      .pure (.ok workflows) disk

/-- An id with a number behind it. -/
def numbered (id : String) (n : Nat) : String := id ++ "-" ++ String.ofList (natDigits n)

/-- The first of the ids `id-n`, `id-(n+1)`, … that is not taken, or the last one tried. -/
def freeFrom (taken : List String) (id : String) : (fuel n : Nat) → String
  | 0, n => numbered id n
  | fuel + 1, n =>
      if taken.contains (numbered id n) then freeFrom taken id fuel (n + 1) else numbered id n

/-- The id itself if it is free, otherwise the first free number behind it. -/
def freeId (taken : List String) (id : String) : String :=
  if taken.contains id then freeFrom taken id taken.length 1 else id

/-- Workflows by id; of two with one id the later one stands at the place of the first. -/
def byId (workflows : List StoredWorkflow) : Entries StoredWorkflow :=
  workflows.foldl (fun acc workflow => acc.put workflow.id workflow) []

/-- Appends a workflow under a free id. -/
def mergeOne (merged : Entries StoredWorkflow) (workflow : StoredWorkflow) :
    Entries StoredWorkflow :=
  let id := freeId merged.keys workflow.id
  merged ++ [(id, { workflow with id := id })]

/-- What is there, then what comes. -/
def merge (existing incoming : List StoredWorkflow) : List StoredWorkflow :=
  (incoming.foldl mergeOne (byId existing)).map Prod.snd

/-- The fault of an import without workflows. -/
def emptyImport : Fault :=
  .plain .validation "Import payload contained no workflows"
    { userMessage := some ("No workflows found in the uploaded file. Expect an array of " ++
        "workflows or an object with a 'workflows' array.") }

/-- Merges an uploaded value into the store and answers all workflows. -/
def importPayload (patience : Patience) (stamp : Int) (payload : Json) (disk : Disk) :
    Stored (List StoredWorkflow) :=
  let incoming := StoredWorkflow.ofImport stamp payload
  if incoming.isEmpty then .pure (.error (.fault emptyImport)) disk
  else (Stored.pure (readAll disk) disk).andThen fun existing disk =>
    persist patience (merge existing incoming) disk

/-- Gives the first workflow with this id another name. -/
def renameFirst (id name : String) : List StoredWorkflow → List StoredWorkflow
  | [] => []
  | workflow :: rest =>
      if workflow.id = id then { workflow with name := name } :: rest
      else workflow :: renameFirst id name rest

/-- Renames a workflow and answers all workflows. -/
def rename (patience : Patience) (id name : String) (disk : Disk) :
    Stored (List StoredWorkflow) :=
  (Stored.pure (readAll disk) disk).andThen fun workflows disk =>
    if workflows.any fun workflow => workflow.id = id then
      persist patience (renameFirst id name workflows) disk
    else .pure (.error (notFound (.str id))) disk

/-- Deletes a workflow and answers the others. -/
def delete (patience : Patience) (id : String) (disk : Disk) : Stored (List StoredWorkflow) :=
  (Stored.pure (readAll disk) disk).andThen fun workflows disk =>
    let remaining := workflows.filter fun workflow => workflow.id ≠ id
    if remaining.length = workflows.length then .pure (.error (notFound (.str id))) disk
    else persist patience remaining disk

end RenderRelay.WorkflowStore
