import RenderRelay.Failure
import RenderRelay.Graph.Basic
import RenderRelay.Number.Read
import RenderRelay.Text.Digit

/-! # The raw form of a graph

Graphs are stored as JSON objects with a list `nodes` and a list `links`.

* `Graph.ofJson` reads leniently: what is not a node or not a link is skipped, and a field of
  the wrong kind counts as absent.  A node without an id is named after its place.
* Only two inputs are refused: a value that is no object, and a slot index whose text is made
  of digits but spells no integer (`GraphError`).
* `Graph.toJson` writes every field that is kept. -/

namespace RenderRelay

open Text Number

/-- Why a value is no graph. -/
inductive GraphError where
  | notObject (kind : String)
  | slotIndex (text : String)
deriving DecidableEq, Repr

/-- The failure that callers see. -/
def GraphError.failure : GraphError → Failure
  | .notObject kind =>
      .fault (.plain .malformedGraph s!"Workflow graph must be a JSON object, got {kind}")
  | .slotIndex _ => .unreadable

/-- The fault of a value given in place of a graph. -/
def Graph.expected (value : Json) : Fault :=
  .plain .malformedGraph s!"Expected a WorkflowGraph, got {value.kindName}"

namespace InputSlot

/-- The slot of a raw input; anything but an object is a slot without a name. -/
def ofJson (raw : Json) : InputSlot :=
  .ofName (raw.get "name").text? (raw.get "link") (raw.get "widget").isTruthy

/-- The raw form of a slot. -/
def toJson (slot : InputSlot) : Json :=
  let name := Json.ofText? slot.name
  .obj ([("name", name), ("link", slot.link)] ++
    (if slot.widget then [("widget", .obj [("name", name)])] else []))

end InputSlot

namespace Widgets

/-- The widget values of a raw node; anything but a list or an object is no values. -/
def ofJson : Json → Widgets
  | .arr values => .listed values
  | .obj fields => .named fields
  | _ => .listed []

end Widgets

namespace Node

/-- The text of a value that names something: a text that is not blank. -/
def namedText? (value : Json) : Option String := value.text?.filter isNamed

/-- The id of a raw node at a place of the list. -/
def idAt (index : Nat) (value : Json) : String :=
  if value = .null ∨ value = .str "" then "node-" ++ String.ofList (natDigits index)
  else value.display

/-- The node of raw fields at a place of the list. -/
def ofFields (index : Nat) (fields : Fields) : Node where
  id := idAt index (fields.get "id")
  kind := (namedText? (fields.get "type")).or (namedText? (fields.get "class_type"))
  title := (fields.get "title").text?
  inputs := (fields.get "inputs").items.map InputSlot.ofJson
  widgets := Widgets.ofJson (fields.get "widgets_values")

/-- The nodes of raw values, the first of which stands at place `index`. -/
def ofItems : (index : Nat) → List Json → List Node
  | _, [] => []
  | index, .obj fields :: rest => ofFields index fields :: ofItems (index + 1) rest
  | index, _ :: rest => ofItems (index + 1) rest

/-- The raw form of a node. -/
def toJson (node : Node) : Json :=
  .obj ([("id", .str node.id), ("type", Json.ofText? node.kind),
    ("inputs", .arr (node.inputs.map InputSlot.toJson)),
    ("widgets_values", node.widgets.toJson)] ++
    (match node.title with
      | some title => [("title", .str title)]
      | none => []))

end Node

namespace Link

/-- Does the text, without blanks around it and signs before it, look like a number? -/
def looksNumeric (text : String) : Bool :=
  let digits := (trim text).toList.dropWhile (· = '-')
  !digits.isEmpty && digits.all isDigit

/-- The slot index that a value stands for; zero unless it is or spells a number. -/
def slotIndex : Json → Except GraphError Int
  | .int n => .ok n
  | .str text =>
      if looksNumeric text then
        match readInteger text with
        | some n => .ok n
        | none => .error (.slotIndex text)
      else .ok 0
  | _ => .ok 0

/-- The link of a raw value; `none` for a list of fewer than five items or without an end. -/
def ofJson : Json → Except GraphError (Option Link)
  | .arr (id :: source :: sourceSlot :: dest :: destSlot :: _) =>
      if source = .null ∨ dest = .null then .ok none
      else do
        let sourceSlot ← slotIndex sourceSlot
        let destSlot ← slotIndex destSlot
        .ok (some ⟨id, source.display, sourceSlot, dest.display, destSlot⟩)
  | _ => .ok none

/-- The links of raw values. -/
def ofItems : List Json → Except GraphError (List Link)
  | [] => .ok []
  | item :: rest => do
      let link ← ofJson item
      let links ← ofItems rest
      .ok (link.toList ++ links)

/-- The raw form of a link. -/
def toJson (link : Link) : Json :=
  .arr [link.id, .str link.sourceId, .int link.sourceSlot, .str link.destId, .int link.destSlot]

end Link

namespace Graph

/-- The graph of the fields of an object. -/
def ofFields (fields : Fields) : Except GraphError Graph := do
  let links ← Link.ofItems (fields.get "links").items
  .ok ⟨Node.ofItems 0 (fields.get "nodes").items, links⟩

/-- The graph of a raw value. -/
def ofJson : Json → Except GraphError Graph
  | .obj fields => ofFields fields
  | value => .error (.notObject value.kindName)

/-- The raw form of a graph. -/
def toJson (graph : Graph) : Json :=
  .obj [("nodes", .arr (graph.nodes.map Node.toJson)),
    ("links", .arr (graph.links.map Link.toJson))]

end Graph

end RenderRelay
