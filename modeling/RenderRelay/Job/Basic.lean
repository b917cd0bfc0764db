import RenderRelay.Json.Display

/-! # Jobs

A job is what the backend executes: nodes by id, each with a kind and named inputs.  An input
is a plain value or a reference to an output of another node.

* `JobNode.setNew` writes an input only once: the first writer wins.
* `Job.danglingReferences` lists the references to nodes that are not there.
* `Job.toJson` is the form in which a job is submitted. -/

namespace RenderRelay

/-- What an input of a job node holds. -/
inductive InputValue where
  | scalar (value : Json)
  | reference (nodeId : String) (index : Int)
deriving DecidableEq, Repr

/-- An input as it is submitted; a reference is a pair of id and index. -/
def InputValue.toJson : InputValue → Json
  | .scalar value => value
  | .reference nodeId index => .arr [.str nodeId, .int index]

/-- The named inputs of a job node. -/
abbrev Inputs := Entries InputValue

/-- A reference to an output, and the input that holds it. -/
structure HeldReference where
  input : String
  nodeId : String
  index : Int
deriving DecidableEq, Repr

/-- A node of a job. -/
structure JobNode where
  kind : String
  inputs : Inputs
deriving DecidableEq, Repr

namespace JobNode

/-- Writes an input unless it is there. -/
def setNew (node : JobNode) (name : String) (value : InputValue) : JobNode :=
  { node with inputs := node.inputs.putNew name value }

/-- An input as it is submitted, or a default. -/
def value (node : JobNode) (name : String) (default : Json) : Json :=
  ((node.inputs.get? name).map InputValue.toJson).getD default

/-- The reference of an input, if it holds one. -/
def held? : String × InputValue → Option HeldReference
  | (input, .reference nodeId index) => some ⟨input, nodeId, index⟩
  | (_, .scalar _) => none

/-- The references of a node, in the order of its inputs. -/
def references (node : JobNode) : List HeldReference := node.inputs.filterMap held?

/-- A node as it is submitted. -/
def toJson (node : JobNode) : Json :=
  .obj [("class_type", .str node.kind),
    ("inputs", .obj (node.inputs.map fun (name, value) => (name, value.toJson)))]

end JobNode

/-- A job: its nodes by id. -/
structure Job where
  nodes : Entries JobNode
deriving DecidableEq, Repr

namespace Job

/-- The job without nodes. -/
def empty : Job := ⟨[]⟩

/-- Adds a node without inputs; one that has the id already is replaced where it stands. -/
def add (job : Job) (id kind : String) : Job := ⟨job.nodes.put id ⟨kind, []⟩⟩

/-- The node with this id. -/
def node? (job : Job) (id : String) : Option JobNode := job.nodes.get? id

/-- Is there a node with this id? -/
def contains (job : Job) (id : String) : Bool := job.nodes.has id

/-- Changes the node with this id, if it is there. -/
def update (job : Job) (id : String) (change : JobNode → JobNode) : Job :=
  match job.node? id with
  | some node => ⟨job.nodes.put id (change node)⟩
  | none => job

/-- A job as it is submitted. -/
def toJson (job : Job) : Json :=
  .obj (job.nodes.map fun (id, node) => (id, node.toJson))

/-- What is wrong with the structure of a job. -/
inductive Problem where
  | empty
  | cycle (nodeId : String)
  | dangling (nodeId input missing : String)
deriving DecidableEq, Repr

/-- A problem in words. -/
def Problem.text : Problem → String
  | .empty => "Job is empty"
  | .cycle nodeId => s!"Job contains a cycle through node '{nodeId}'"
  | .dangling nodeId input missing =>
      s!"Node '{nodeId}' input '{input}' references non-existent node '{missing}'"

/-- The references to nodes that are not there. -/
def danglingReferences (job : Job) : List Problem :=
  job.nodes.flatMap fun (id, node) =>
    (node.references.filter fun held => !job.contains held.nodeId).map fun held =>
      .dangling id held.input held.nodeId

end Job

end RenderRelay
