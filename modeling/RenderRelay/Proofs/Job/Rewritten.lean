import RenderRelay.Proofs.Graph.Inject
import RenderRelay.Proofs.Job.Local

/-! # Jobs of graphs with other widget values

A change of widget values alone leaves what the links give to each node (`Graph.linkInputs`), so it
shows in the job only where the widget values of a changed node are resolved beside these inputs
(`Graph.job_changeNodes`). -/

namespace RenderRelay

namespace Graph

variable {graph : Graph} {node : Node} {change : Node → Option Node}

theorem job_compile (h : graph.nodeIds.Nodup) : graph.compile.job = Job.of graph.nodes fun node =>
    ⟨kindOrUnknown node.kind, (node.resolve (graph.linkInputs node)).1⟩ := by
  rw [compile_eq h]
  rfl

theorem nodes_changeNodes (graph : Graph) (change : Node → Option Node) :
    (graph.changeNodes change).1.nodes = graph.nodes.map (Node.after change) := rfl

theorem nodeIds_changeNodes (hchange : OnlyWidgets change) (graph : Graph) :
    (graph.changeNodes change).1.nodeIds = graph.nodeIds := by
  unfold nodeIds
  rw [nodes_changeNodes, List.map_map]
  refine List.map_congr_left fun node _ => ?_
  obtain ⟨widgets, hafter⟩ := node.after_eq hchange
  rw [Function.comp_apply, hafter]

/-- Links find the slots of a changed node where they were. -/
theorem linkInputs_changeNodes (hchange : OnlyWidgets change) (node : Node) :
    (graph.changeNodes change).1.linkInputs (node.after change) = graph.linkInputs node := by
  obtain ⟨widgets, hafter⟩ := node.after_eq hchange
  unfold linkInputs
  rw [nodeIds_changeNodes hchange, hafter]
  rfl

/-- The job of a changed graph: each node, changed or not, resolves its widget values beside the
inputs that links gave to it before. -/
theorem job_changeNodes (h : graph.nodeIds.Nodup) (hchange : OnlyWidgets change) :
    (graph.changeNodes change).1.compile.job = Job.of graph.nodes fun node =>
      ⟨kindOrUnknown node.kind, ((node.after change).resolve (graph.linkInputs node)).1⟩ := by
  rw [job_compile (by rwa [nodeIds_changeNodes hchange])]
  unfold Job.of
  rw [nodes_changeNodes, List.map_map]
  congr 1
  refine List.map_congr_left fun node _ => ?_
  obtain ⟨widgets, hafter⟩ := node.after_eq hchange
  rw [Function.comp_apply]
  dsimp only
  rw [linkInputs_changeNodes hchange, hafter]

theorem node?_changeNodes (h : graph.nodeIds.Nodup) (hchange : OnlyWidgets change)
    (hnode : node ∈ graph.nodes) :
    (graph.changeNodes change).1.compile.job.node? node.id =
      some ⟨kindOrUnknown node.kind, ((node.after change).resolve (graph.linkInputs node)).1⟩ := by
  rw [job_changeNodes h hchange]
  exact Job.node?_of h hnode

/-- A node that is not changed keeps its job node. -/
theorem node?_changeNodes_of_none (h : graph.nodeIds.Nodup) (hchange : OnlyWidgets change)
    (hnode : node ∈ graph.nodes) (hnone : change node = none) :
    (graph.changeNodes change).1.compile.job.node? node.id = graph.compile.job.node? node.id := by
  rw [node?_changeNodes h hchange hnode, Node.after_of_none hnone, job_compile h,
    Job.node?_of h hnode]

end Graph

end RenderRelay
