import RenderRelay.Check.Value
import RenderRelay.Url.Base

/-! # Request bodies

Two requests carry an object whose fields are checked.

* `StatusCheck` asks for one poll of a run; it has the fields of a ticket, and ignores others.
* `Rename` gives a workflow another name, and takes no other fields. -/

namespace RenderRelay

open Check

/-- A request for one poll of a run. -/
structure StatusCheck where
  jobId : String
  baseUrl : String
  startedAt : Double
  clientId : Option String
  workflowId : Option String
  workflowName : Option String
  positivePrompt : Option String
  negativePrompt : Option String
  seed : Option Int
  steps : Option Int
  inputFilename : Option String
deriving DecidableEq, Repr

namespace StatusCheck

/-- A backend URL, in its normal form. -/
def baseUrlText : Reader String := fun value => do
  let raw ← boundedText none trimmedText value
  match Url.normalizeBase (some raw) with
  | .ok url => .ok url
  | .error e => .error (.refused (e.fault (.str raw)).userMessage)

/-- A text that may be missing. -/
def textField (fields : Fields) (name : String) : Verdict (Option String) :=
  withDefault fields name none (optional trimmedText)

/-- An integer that may be missing. -/
def integerField (fields : Fields) (name : String) : Verdict (Option Int) :=
  withDefault fields name none (optional integer)

/-- The request of the fields of an object. -/
def ofFields (fields : Fields) : Verdict StatusCheck :=
  StatusCheck.mk <$> required fields "job_id" (boundedText none trimmedText)
    <*> required fields "base_url" baseUrlText
    <*> required fields "started_at" nonNegative
    <*> textField fields "client_id"
    <*> textField fields "workflow_id"
    <*> textField fields "workflow_name"
    <*> textField fields "positive_prompt"
    <*> textField fields "negative_prompt"
    <*> integerField fields "seed"
    <*> integerField fields "steps"
    <*> textField fields "input_filename"

/-- The request of a body. -/
def ofJson (body : Json) : Verdict StatusCheck :=
  match body.fields? with
  | some fields => ofFields fields
  | none => .invalid [⟨[], .notObject "StatusCheckRequest"⟩]

/-- The request as fields. -/
def toFields (request : StatusCheck) : Fields :=
  [("job_id", .str request.jobId), ("base_url", .str request.baseUrl),
    ("started_at", .float request.startedAt), ("client_id", Json.ofText? request.clientId),
    ("workflow_id", Json.ofText? request.workflowId),
    ("workflow_name", Json.ofText? request.workflowName),
    ("positive_prompt", Json.ofText? request.positivePrompt),
    ("negative_prompt", Json.ofText? request.negativePrompt),
    ("seed", Json.ofInt? request.seed), ("steps", Json.ofInt? request.steps),
    ("input_filename", Json.ofText? request.inputFilename)]

end StatusCheck

/-- A request to give a workflow another name. -/
structure Rename where
  id : String
  name : String
deriving DecidableEq, Repr

namespace Rename

/-- The greatest number of characters of a name. -/
def maxName : Nat := 200

/-- The request of a body. -/
def ofJson (body : Json) : Verdict Rename :=
  match body.fields? with
  | some fields =>
      Rename.mk <$> required fields "id" (boundedText none trimmedText)
        <*> required fields "name" (boundedText (some maxName) trimmedText)
        <* noOthers fields ["id", "name"]
  | none => .invalid [⟨[], .notObject "RenameWorkflowRequest"⟩]

/-- The request as fields. -/
def toFields (request : Rename) : Fields := [("id", .str request.id), ("name", .str request.name)]

end Rename

end RenderRelay
