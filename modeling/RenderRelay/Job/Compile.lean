import RenderRelay.Graph.Normal
import RenderRelay.Graph.Raw
import RenderRelay.Job.Cycle
import RenderRelay.Job.Fingerprint
import RenderRelay.Job.Widgets

/-! # Compiling graphs to jobs

`Graph.compile` never fails.  It gives each node of the graph a job node, then wires the links
whose two ends are there, then turns the widget values of each node into inputs.  Inputs are
written once, so a link wins over every widget value, and the first of two links over the
second.

`compileJson` reads, normalizes and compiles a stored graph. -/

namespace RenderRelay

open Text Number

/-- A compiled graph. -/
structure CompiledJob where
  job : Job
  warnings : List Warning
deriving DecidableEq, Repr

/-- The fingerprint of the job. -/
def CompiledJob.fingerprint (compiled : CompiledJob) : String := compiled.job.fingerprint

/-- The prefix of file names that a node which saves images gets unless it has one. -/
def defaultFilePrefix : String := "ComfyUI"

namespace Node

/-- The name of the input that a link to this slot index sets. -/
def slotName (node : Node) : (index : Int) → String
  | .ofNat index => match node.inputs[index]? with
      | some slot => slot.nameAt index
      | none => countText index
  | .negSucc index => Json.intText (.negSucc index)

/-- Gives an image-saving node its default prefix. -/
def withFilePrefix (node : Node) (inputs : Inputs) : Inputs :=
  if hasInfix node.kindLower "saveimage" then
    inputs.putNew "filename_prefix" (.scalar (.str defaultFilePrefix))
  else inputs

/-- All inputs of a node beside those that are there, and what is suspicious. -/
def resolve (node : Node) (inputs : Inputs) : Inputs × List Warning :=
  let (inputs, warnings) := node.resolveWidgets inputs
  (node.withFilePrefix inputs, warnings)

end Node

namespace Graph

/-- A job node without inputs for each node. -/
def placeNodes (graph : Graph) : Job :=
  graph.nodes.foldl (fun job node => job.add node.id (kindOrUnknown node.kind)) .empty

/-- The last node with this id. -/
def lastNode? (graph : Graph) (id : String) : Option Node :=
  graph.nodes.reverse.find? fun node => node.id = id

/-- Wires a link whose two ends are there. -/
def wireLink (graph : Graph) (job : Job) (link : Link) : Job :=
  match graph.lastNode? link.sourceId, graph.lastNode? link.destId with
  | some _, some dest =>
      job.update link.destId fun node =>
        node.setNew (dest.slotName link.destSlot) (.reference link.sourceId link.sourceSlot)
  | _, _ => job

/-- The job with all links wired. -/
def wireLinks (graph : Graph) (job : Job) : Job := graph.links.foldl (wireLink graph) job

/-- Gives the widget values of a node to its job node. -/
def resolveNode (compiled : CompiledJob) (node : Node) : CompiledJob :=
  match compiled.job.node? node.id with
  | some jobNode =>
      let (inputs, warnings) := node.resolve jobNode.inputs
      ⟨⟨compiled.job.nodes.put node.id { jobNode with inputs := inputs }⟩,
        compiled.warnings ++ warnings⟩
  | none => compiled

/-- The job of a graph. -/
def compile (graph : Graph) : CompiledJob :=
  graph.nodes.foldl resolveNode ⟨graph.wireLinks graph.placeNodes, []⟩

end Graph

/-- The job of a stored graph. -/
def compileJson (payload : Json) : Except GraphError CompiledJob :=
  (Graph.ofJson payload).map fun graph => graph.normalize.compile

end RenderRelay
