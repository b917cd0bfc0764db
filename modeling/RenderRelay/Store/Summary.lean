import RenderRelay.Failure
import RenderRelay.Graph.Basic
import RenderRelay.Json.Printer
import RenderRelay.Number.Read

/-! # Workflow summaries

What a workflow is made of: how many nodes of which kinds it has, and which of its nodes take
prompts, load images and save them.

* `WorkflowSummary.ofGraph` looks at a stored graph; anything without a list of nodes is
  empty.
* `WorkflowSummary.ofFields` reads a stored summary back.  It takes numbers, texts and maps
  for what they can be read as, and fails only where they cannot be. -/

namespace RenderRelay

open Text Number

/-- How a summary names a node. -/
structure NodeBrief where
  id : Json
  kind : String
  title : Option String
deriving DecidableEq, Repr

namespace NodeBrief

/-- The node of raw fields. -/
def ofFields (fields : Fields) : NodeBrief where
  id := fields.get "id"
  kind :=
    if (fields.get "type").isTruthy then (fields.get "type").display
    else if (fields.get "class_type").isTruthy then (fields.get "class_type").display
    else unknownKind
  title := (fields.get "title").text?

/-- The entry of a summary. -/
def toJson (brief : NodeBrief) : Json :=
  .obj [("id", brief.id), ("type", .str brief.kind), ("title", Json.ofText? brief.title)]

/-- Does the node load an image? -/
def loadsImage (brief : NodeBrief) : Bool := isImageKind (lower brief.kind)

/-- Does the node save an image? -/
def savesImage (brief : NodeBrief) : Bool := hasInfix (lower brief.kind) "saveimage"

/-- Does the node take a prompt? -/
def takesPrompt (brief : NodeBrief) : Bool := isPromptKind (lower brief.kind)

/-- Does its title send the node to the negative prompt? -/
def isNegative (brief : NodeBrief) : Bool := isNegativeTitle (lower (brief.title.getD ""))

end NodeBrief

/-- A summary; the lists hold entries as they are stored. -/
structure WorkflowSummary where
  totalNodes : Int
  workflowType : String
  kindCounts : Fields
  loadImageNodes : List Json
  saveImageNodes : List Json
  promptNodes : List Json
  positivePromptNodes : List Json
  negativePromptNodes : List Json
deriving DecidableEq, Repr

namespace WorkflowSummary

/-- Counts one more node of a kind. -/
def countKind (counts : Entries Nat) (kind : String) : Entries Nat :=
  counts.put kind ((counts.get? kind).getD 0 + 1)

/-- The kinds in the order in which they first appear, each with its number of nodes. -/
def countKinds (briefs : List NodeBrief) : Entries Nat :=
  (briefs.map NodeBrief.kind).foldl countKind []

/-- What a workflow makes out of what. -/
def typeOf (briefs : List NodeBrief) : String :=
  if briefs.any NodeBrief.loadsImage then "image-to-image"
  else if briefs.any NodeBrief.takesPrompt then "text-to-image"
  else "unknown"

/-- The raw nodes of a stored graph. -/
def nodesOf (raw : Json) : List Json := (raw.get "nodes").items

/-- The nodes of a stored graph that are objects. -/
def briefsOf (raw : Json) : List NodeBrief :=
  (nodesOf raw).filterMap fun node => node.fields?.map NodeBrief.ofFields

/-- The summary of a stored graph. -/
def ofGraph (raw : Json) : WorkflowSummary :=
  let briefs := briefsOf raw
  let listed (p : NodeBrief → Bool) : List Json := (briefs.filter p).map NodeBrief.toJson
  { totalNodes := (nodesOf raw).length
    workflowType := typeOf briefs
    kindCounts := (countKinds briefs).map fun (kind, count) => (kind, .int count)
    loadImageNodes := listed NodeBrief.loadsImage
    saveImageNodes := listed NodeBrief.savesImage
    promptNodes := listed NodeBrief.takesPrompt
    positivePromptNodes := listed fun brief => brief.takesPrompt && !brief.isNegative
    negativePromptNodes := listed fun brief => brief.takesPrompt && brief.isNegative }

/-- A summary as fields. -/
def toFields (summary : WorkflowSummary) : Fields :=
  [("total_nodes", .int summary.totalNodes), ("workflow_type", .str summary.workflowType),
    ("type_counts", .obj summary.kindCounts), ("load_image_nodes", .arr summary.loadImageNodes),
    ("save_image_nodes", .arr summary.saveImageNodes), ("prompt_nodes", .arr summary.promptNodes),
    ("positive_prompt_nodes", .arr summary.positivePromptNodes),
    ("negative_prompt_nodes", .arr summary.negativePromptNodes)]

/-- A summary as an object. -/
def toJson (summary : WorkflowSummary) : Json := .obj summary.toFields

/-! ### Reading a stored summary -/

/-- The integer that a value can be read as; a fraction is cut off. -/
def readCount : Json → Except Failure Int
  | .int n => .ok n
  | .bool b => .ok (if b then 1 else 0)
  | .float (.infinite _) => .error .outOfRange
  | .float x => match x.truncate? with
      | some n => .ok n
      | none => .error .unreadable
  | .str text => match readInteger text with
      | some n => .ok n
      | none => .error .unreadable
  | _ => .error .wrongKind

/-- The items of a value that can be gone through; what is not set has none. -/
def readItems (value : Json) : Except Failure (List Json) :=
  if !value.isTruthy then .ok []
  else match value with
    | .arr items => .ok items
    | .str text => .ok (text.toList.map fun c => .str (String.singleton c))
    | .obj fields => .ok (fields.map fun (key, _) => .str key)
    | _ => .error .wrongKind

/-- A value as a key: the text that it is written as.  Pairs are taken not to have a key that is no
text beside the text that spells it, as `1` beside `"1"`: these would be two keys. -/
def readKey : Json → Except Failure String
  | .str s => .ok s
  | .arr _ | .obj _ => .error .wrongKind
  | value => .ok (value.write .compact)

/-- Fields of a list of pairs. -/
def readPairs : List Json → Fields → Except Failure Fields
  | [], fields => .ok fields
  | item :: rest, fields => do
      let items ← match item with
        | .null | .bool _ | .int _ | .float _ => .error .wrongKind
        | item => if item.isTruthy then readItems item else .ok []
      match items with
      | [key, value] => do
          let key ← readKey key
          readPairs rest (fields.put key value)
      | _ => .error .unreadable

/-- The fields that a value can be read as; what is not set has none. -/
def readFields (value : Json) : Except Failure Fields :=
  if !value.isTruthy then .ok []
  else match value with
    | .obj fields => .ok fields
    | value => do readPairs (← readItems value) []

/-- The summary of stored fields. -/
def ofFields (fields : Fields) : Except Failure WorkflowSummary := do
  let total ← readCount ((fields.get? "total_nodes").getD (.int 0))
  let workflowType := ((fields.get? "workflow_type").getD (.str "unknown")).display
  let kindCounts ← readFields (fields.get "type_counts")
  let loadImage ← readItems (fields.get "load_image_nodes")
  let saveImage ← readItems (fields.get "save_image_nodes")
  let prompt ← readItems (fields.get "prompt_nodes")
  let positive ← readItems (fields.get "positive_prompt_nodes")
  let negative ← readItems (fields.get "negative_prompt_nodes")
  .ok ⟨total, workflowType, kindCounts, loadImage, saveImage, prompt, positive, negative⟩

end WorkflowSummary

end RenderRelay
