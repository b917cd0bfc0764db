import RenderRelay.Image.Basic
import RenderRelay.Json.Display

/-! # Images in a history

The backend reports what it has done in a history body, of which several shapes are around:
one entry alone, entries by job id, the same below a field `history`, and a list of entries.

* `candidates` lists the entries that may belong to a job, in the order in which they are
  looked at.  With a job id only entries that are known to be of that job count.
* An entry holds groups of outputs under the first of the keys `outputs`, `output` and `data`
  that is an object; a group may list images.
* `find?` answers the first image of the first candidate that has one. -/

namespace RenderRelay.ImageRef

/-- The image of a raw value: an object with a file name that is not empty. -/
def ofJson? (value : Json) : Option ImageRef :=
  match (value.get "filename").text? with
  | some filename =>
      if filename.isEmpty then none
      else some ⟨filename, (value.get "subfolder").text?, (value.get "type").text?⟩
  | none => none

/-- The groups of outputs of an entry. -/
def outputGroups (entry : Json) : Option Fields :=
  ["outputs", "output", "data"].findSome? fun key => (entry.get key).fields?

/-- The first image of a group. -/
def firstInGroup (group : Json) : Option ImageRef := (group.get "images").items.findSome? ofJson?

/-- The first image of an entry. -/
def firstInEntry (entry : Json) : Option ImageRef := do
  let groups ← outputGroups entry
  groups.findSome? fun (_, group) => firstInGroup group

/-- May an entry that stands alone belong to the job? -/
def isOwnEntry (entry : Fields) (jobId : Option String) : Bool :=
  entry.has "outputs" &&
    match jobId with
    | none => true
    | some jobId => entry.get "prompt_id" = .null || (entry.get "prompt_id").display = jobId

/-- The values of the entries below `history`. -/
def nestedEntries (body : Fields) : List Json :=
  (((body.get "history").fields?).getD []).map Prod.snd

/-- The entries of an object that may belong to the job. -/
def candidatesOfFields (body : Fields) (jobId : Option String) : List Json :=
  (if isOwnEntry body jobId then [.obj body] else []) ++
    match jobId with
    | some jobId => [body.get jobId, (body.get "history").get jobId]
    | none => nestedEntries body ++ body.map Prod.snd

/-- The entries of a history body that may belong to the job. -/
def candidates (body : Json) (jobId : Option String) : List Json :=
  match body with
  | .obj fields => candidatesOfFields fields jobId
  | .arr items => if jobId.isNone then items else []
  | _ => []

/-- The first image of the job in a history body. -/
def find? (body : Json) (jobId : Option String) : Option ImageRef :=
  (candidates body jobId).findSome? firstInEntry

end RenderRelay.ImageRef
