import RenderRelay.Json.Basic
import RenderRelay.Text.Blank
import RenderRelay.Text.Lowercase
import RenderRelay.Text.Search

/-! # Workflow graphs

A workflow graph is what an editor exports: nodes with a kind, declared inputs and the values
of their widgets, and links from an output of one node to an input of another.

* Widget values stand in a list, by position, or in a map, by input name.
* A slot is bound when a link is attached to it.
* Kinds and titles are compared in small letters; `isPromptKind`, `isImageKind` and
  `isNegativeTitle` are the classes that run parameters go by. -/

namespace RenderRelay

open Text

/-- A declared input of a node.  A name is never empty; `link` is null unless bound. -/
structure InputSlot where
  name : Option String
  link : Json
  widget : Bool
  named : name ≠ some ""
deriving DecidableEq, Repr

/-- A slot of a name, unless that is empty. -/
def InputSlot.ofName (name : Option String) (link : Json) (widget : Bool) : InputSlot where
  name := name.filter fun name => !name.isEmpty
  link := link
  widget := widget
  named hempty := by simpa using (Option.filter_eq_some_iff.mp hempty).2

/-- Is a link attached to the slot? -/
def InputSlot.isBound (slot : InputSlot) : Bool := slot.link ≠ .null

/-- The widget values of a node. -/
inductive Widgets where
  | listed (values : List Json)
  | named (fields : Fields)
deriving DecidableEq, Repr

namespace Widgets

/-- Overwrites the first value, or makes it the only one. -/
def setFirst (value : Json) : Widgets → Widgets
  | .listed [] => .listed [value]
  | .listed (_ :: rest) => .listed (value :: rest)
  | .named [] => .listed [value]
  | .named ((name, _) :: rest) => .named ((name, value) :: rest)

/-- The values as a list or an object. -/
def toJson : Widgets → Json
  | .listed values => .arr values
  | .named fields => .obj fields

end Widgets

/-- A node of a graph. -/
structure Node where
  id : String
  kind : Option String
  title : Option String
  inputs : List InputSlot
  widgets : Widgets
deriving DecidableEq, Repr

namespace Node

/-- The kind in small letters, empty if there is none. -/
def kindLower (node : Node) : String := lower (node.kind.getD "")

/-- The title in small letters, empty if there is none. -/
def titleLower (node : Node) : String := lower (node.title.getD "")

/-- Overwrites the first widget value. -/
def setFirstWidget (node : Node) (value : Json) : Node :=
  { node with widgets := node.widgets.setFirst value }

end Node

/-- A link from an output of one node to an input of another. -/
structure Link where
  id : Json
  sourceId : String
  sourceSlot : Int
  destId : String
  destSlot : Int
deriving DecidableEq, Repr

/-- A workflow graph. -/
structure Graph where
  nodes : List Node
  links : List Link
deriving DecidableEq, Repr

namespace Graph

/-- The ids of the nodes, in order. -/
def nodeIds (graph : Graph) : List String := graph.nodes.map Node.id

/-- The first node with this id. -/
def get? (graph : Graph) (id : String) : Option Node := graph.nodes.find? fun node => node.id = id

/-- Changes the first node with this id. -/
def updateFirst (graph : Graph) (id : String) (change : Node → Node) : Graph :=
  let before := graph.nodes.takeWhile fun node => node.id ≠ id
  match graph.nodes.dropWhile fun node => node.id ≠ id with
  | [] => graph
  | node :: after => { graph with nodes := before ++ change node :: after }

end Graph

/-! ### Classes of kinds and titles -/

/-- The kind of a node that has none. -/
def unknownKind : String := "Unknown"

/-- A text that holds something other than blanks. -/
def isNamed (s : String) : Bool := !(trim s).isEmpty

/-- The kind, or the unknown one for a blank kind. -/
def kindOrUnknown (kind : Option String) : String := (kind.filter isNamed).getD unknownKind

/-- Notes carry no computation: kinds that read `note` or `markdownnote` without spaces and
underscores. -/
def isAnnotationKind (kind : Option String) : Bool :=
  match kind with
  | none => false
  | some kind =>
      let key := without (fun c => c = ' ' || c = '_') (lower kind)
      key = "note" || key = "markdownnote"

/-- Does a node of this kind take a prompt?  The kind is in small letters. -/
def isPromptKind (kindLower : String) : Bool :=
  hasInfix kindLower "prompt" || hasInfix kindLower "textencode"

/-- Does a node of this kind load an image?  The kind is in small letters. -/
def isImageKind (kindLower : String) : Bool := hasInfix kindLower "loadimage"

/-- Does the title send the node to the negative prompt?  It is in small letters. -/
def isNegativeTitle (titleLower : String) : Bool := hasInfix titleLower "negative"

end RenderRelay
