import RenderRelay.Failure

/-! # Run records

A run record says where the image of a finished run is stored and what the run was given.
The given values are kept as they came. -/

namespace RenderRelay

/-- What a run was given. -/
structure RunParameters where
  workflowId : Json
  workflowName : Json
  positivePrompt : Json
  negativePrompt : Json
  seed : Json
  steps : Json
  inputFilename : Json
deriving DecidableEq, Repr

namespace RunParameters

/-- The known fields; a missing one is null. -/
def ofFields (fields : Fields) : RunParameters where
  workflowId := fields.get "workflow_id"
  workflowName := fields.get "workflow_name"
  positivePrompt := fields.get "positive_prompt"
  negativePrompt := fields.get "negative_prompt"
  seed := fields.get "seed"
  steps := fields.get "steps"
  inputFilename := fields.get "input_filename"

/-- The parameters as fields. -/
def toFields (parameters : RunParameters) : Fields :=
  [("workflow_id", parameters.workflowId), ("workflow_name", parameters.workflowName),
    ("positive_prompt", parameters.positivePrompt),
    ("negative_prompt", parameters.negativePrompt), ("seed", parameters.seed),
    ("steps", parameters.steps), ("input_filename", parameters.inputFilename)]

theorem ofFields_toFields (parameters : RunParameters) :
    ofFields parameters.toFields = parameters := rfl

end RunParameters

/-- What is recorded of a run: its job and what it was given. -/
structure RunMetadata where
  jobId : Json
  parameters : RunParameters
deriving DecidableEq, Repr

namespace RunMetadata

/-- The known fields; a missing one is null. -/
def ofFields (fields : Fields) : RunMetadata :=
  ⟨fields.get "job_id", RunParameters.ofFields fields⟩

/-- The metadata as fields. -/
def toFields (metadata : RunMetadata) : Fields :=
  ("job_id", metadata.jobId) :: metadata.parameters.toFields

theorem ofFields_toFields (metadata : RunMetadata) : ofFields metadata.toFields = metadata := rfl

end RunMetadata

/-- The record of a finished run. -/
structure RunRecord where
  id : Json
  createdAt : Json
  givenFilename : Json
  storedFilename : Json
  metadata : RunMetadata
deriving DecidableEq, Repr

namespace RunRecord

/-- A record as an object. -/
def toJson (record : RunRecord) : Json :=
  .obj ([("id", record.id), ("created_at", record.createdAt),
    ("original_filename", record.givenFilename), ("stored_filename", record.storedFilename)] ++
    record.metadata.toFields)

/-- The record of stored fields; id and stored name have to be there. -/
def ofFields (fields : Fields) : Except Failure RunRecord :=
  match fields.get? "id", fields.get? "stored_filename" with
  | some id, some stored =>
      .ok ⟨id, (fields.get? "created_at").getD (.str ""),
        (fields.get? "original_filename").getD stored, stored, RunMetadata.ofFields fields⟩
  | _, _ => .error .wrongKind

end RunRecord

end RenderRelay
