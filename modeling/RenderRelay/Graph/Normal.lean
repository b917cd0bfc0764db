import RenderRelay.Graph.Basic

/-! # Normal graphs

`Graph.normalize` drops the notes and every link that has lost an end, and gives each node
that stays a kind without blanks around it.  A blank kind becomes `Unknown`. -/

namespace RenderRelay

open Text

namespace Node

/-- The node with a kind that is there and trimmed. -/
def withNormalKind (node : Node) : Node :=
  { node with kind := some (trim (kindOrUnknown node.kind)) }

@[simp] theorem id_withNormalKind (node : Node) : node.withNormalKind.id = node.id := rfl

end Node

/-- Are both ends of the link among these ids? -/
def Link.joins (ids : List String) (link : Link) : Bool :=
  ids.contains link.sourceId && ids.contains link.destId

namespace Graph

/-- The graph without notes and loose links, its kinds trimmed. -/
def normalize (graph : Graph) : Graph :=
  let nodes := (graph.nodes.filter fun node => !isAnnotationKind node.kind).map
    Node.withNormalKind
  ⟨nodes, graph.links.filter (Link.joins (nodes.map Node.id))⟩

end Graph

end RenderRelay
