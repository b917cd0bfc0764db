import RenderRelay.Store.Summary

/-! # Stored workflows

A stored workflow is a graph under an id and a name, with its summary.

* `StoredWorkflow.toJson` is its stored form, with the graph or without it.
* `StoredWorkflow.ofFields` reads a stored form back; a summary that is there is trusted, a
  missing one is made.
* `StoredWorkflow.ofImport` takes what a person uploads: one workflow, a list of them under
  one of two keys or alone, or graphs by key.  An entry is named by its own fields, by its key
  or by its place; of two entries with one id the first counts. -/

namespace RenderRelay

open Number

/-- A workflow of the store. -/
structure StoredWorkflow where
  id : String
  name : String
  raw : Json
  summary : WorkflowSummary
  path : Option String
deriving DecidableEq, Repr

namespace StoredWorkflow

/-- The stored form of a workflow. -/
def toJson (withGraph : Bool) (workflow : StoredWorkflow) : Json :=
  .obj ([("id", .str workflow.id), ("name", .str workflow.name),
    ("path", Json.ofText? workflow.path), ("summary", workflow.summary.toJson)] ++
    (if withGraph then [("raw", workflow.raw)] else []))

/-- The summary that is stored beside a graph, or that of the graph. -/
def readSummary (stored raw : Json) : Except Failure WorkflowSummary :=
  match stored with
  | .obj fields => WorkflowSummary.ofFields fields
  | _ => .ok (WorkflowSummary.ofGraph raw)

/-- The workflow of a stored form. -/
def ofFields (fields : Fields) : Except Failure StoredWorkflow :=
  match fields.get? "id" with
  | none => .error (.missingField "id")
  | some id => do
      let name := if (fields.get "name").isTruthy then fields.get "name" else id
      let raw := fields.get "raw"
      let summary ← readSummary (fields.get "summary") raw
      .ok ⟨id.display, name.display, raw, summary, (fields.get "path").text?⟩

/-! ### Imports -/

/-- An entry of an import, with its key if it has one. -/
abbrev ImportEntry := Option String × Json

/-- Does the value look like a graph or hold one? -/
def holdsGraph (value : Json) : Bool :=
  match value.fields? with
  | some fields => fields.has "nodes" || fields.has "raw"
  | none => false

/-- Entries without keys. -/
def unkeyed (items : List Json) : List ImportEntry := items.map fun item => (none, item)

/-- The list of workflows under one of the keys for it. -/
def listedUnder (fields : Fields) : Option (List Json) :=
  ["workflows", "items"].findSome? fun key => (fields.get key).items?

/-- The entries of an uploaded value. -/
def entriesOf (payload : Json) : List ImportEntry :=
  match payload.items?, payload.fields? with
  | some items, _ => unkeyed items
  | none, some fields =>
      match listedUnder fields with
      | some items => unkeyed items
      | none =>
          if holdsGraph payload then unkeyed [payload]
          else if !fields.isEmpty && fields.all (fun (_, value) => holdsGraph value) then
            fields.map fun (key, value) => (some key, value)
          else unkeyed [payload]
  | none, none => []

/-- The text of the first value that is set. -/
def firstSet (values : List Json) : Option String :=
  (values.find? Json.isTruthy).map Json.display

/-- The workflow of an entry at a place of the import, at a time in milliseconds. -/
def ofEntry (stamp : Int) (index : Nat) (key : Option String) (fields : Fields) :
    StoredWorkflow :=
  let number := String.ofList (natDigits (index + 1))
  let key := Json.ofText? key
  let raw := (fields.get? "raw").getD (.obj fields)
  { id := (firstSet [fields.get "id", key, fields.get "name", fields.get "title"]).getD
      ("workflow-" ++ number ++ "-" ++ Json.intText stamp)
    name := (firstSet [fields.get "name", fields.get "title", key, fields.get "id"]).getD
      ("Workflow " ++ number)
    raw := raw
    summary := WorkflowSummary.ofGraph raw
    path := (fields.get "path").text? }

/-- The workflows of entries, the first of which stands at place `index`. -/
def ofEntries (stamp : Int) : (index : Nat) → List ImportEntry → List StoredWorkflow
  | _, [] => []
  | index, (key, entry) :: rest =>
      match entry.fields? with
      | some fields => ofEntry stamp index key fields :: ofEntries stamp (index + 1) rest
      | none => ofEntries stamp (index + 1) rest

/-- The workflows whose ids are neither among `seen` nor repeated. -/
def dropRepeated : (seen : List String) → List StoredWorkflow → List StoredWorkflow
  | _, [] => []
  | seen, workflow :: rest =>
      if seen.contains workflow.id then dropRepeated seen rest
      else workflow :: dropRepeated (workflow.id :: seen) rest

/-- The workflows of an uploaded value. -/
def ofImport (stamp : Int) (payload : Json) : List StoredWorkflow :=
  dropRepeated [] (ofEntries stamp 0 (entriesOf payload))

end StoredWorkflow

end RenderRelay
