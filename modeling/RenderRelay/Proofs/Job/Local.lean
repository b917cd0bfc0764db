import RenderRelay.Proofs.Job.Links

/-! # Compilation goes node by node

The passes of the compiler share one job.  If the ids of a graph are distinct, no pass carries
anything from one node to another:

* `placeNodes_eq`, `wireLinks_eq`, `foldl_resolveNode_eq`: what each pass makes of a job that is
  given by a job node for each node.
* `compile_eq`: the job is that of the nodes compiled one by one, each from itself, the ids and
  the links into it (`Node.compileAlone`), and its warnings are theirs.
* `wired_linkInputs`: what these links give to a node. -/

namespace RenderRelay

namespace Node

/-- The inputs after links into the node, of which those without a source are passed over. -/
def wire (node : Node) (ids : List String) (links : List Link) (inputs : Inputs) : Inputs :=
  links.foldl (fun inputs link =>
    if link.sourceId ∈ ids then inputs.putNew (node.slotName link.destSlot) link.reference
    else inputs) inputs

/-- The job node with the widget values of its node. -/
def resolved (node : Node) (made : JobNode) : JobNode :=
  { made with inputs := (node.resolve made.inputs).1 }

/-- The node compiled by itself, from the ids of its graph and the links into it, and what is
suspicious about it. -/
def compileAlone (node : Node) (ids : List String) (links : List Link) : JobNode × List Warning :=
  let wired : JobNode := ⟨kindOrUnknown node.kind, node.wire ids links []⟩
  (node.resolved wired, (node.resolve wired.inputs).2)

/-- Of the ids only matters which there are. -/
theorem compileAlone_congr (node : Node) {ids ids' : List String}
    (h : ∀ id, id ∈ ids ↔ id ∈ ids') (links : List Link) :
    node.compileAlone ids links = node.compileAlone ids' links := by
  unfold compileAlone wire
  simp only [h]

end Node

/-- The job with a job node for each node. -/
def Job.of (nodes : List Node) (made : Node → JobNode) : Job :=
  ⟨nodes.map fun node => (node.id, made node)⟩

namespace Job

variable {nodes : List Node} {made made' : Node → JobNode} {node : Node}

theorem of_congr (h : ∀ node ∈ nodes, made node = made' node) : of nodes made = of nodes made' := by
  unfold of
  rw [List.map_congr_left fun node hnode => by rw [h node hnode]]

theorem keys_of (nodes : List Node) (made : Node → JobNode) :
    (of nodes made).nodes.keys = nodes.map Node.id := by
  unfold of Entries.keys
  rw [List.map_map]
  rfl

theorem node?_of (hnodup : (nodes.map Node.id).Nodup) (hnode : node ∈ nodes) :
    (of nodes made).node? node.id = some (made node) := by
  refine Entries.lookup_of_mem ?_ (List.mem_map_of_mem hnode)
  rwa [keys_of]

/-- Changing the job node of one node. -/
theorem put_of (hnodup : (nodes.map Node.id).Nodup) (hnode : node ∈ nodes)
    (change : Node → JobNode → JobNode) :
    (⟨(of nodes made).nodes.put node.id (change node (made node))⟩ : Job) =
      of nodes fun other =>
        if other.id = node.id then change other (made other) else made other := by
  unfold of
  rw [Entries.put_map hnodup (List.mem_map_of_mem hnode)]
  congr 1
  refine List.map_congr_left fun other hother => ?_
  dsimp only
  split_ifs with hid
  · rw [List.inj_on_of_nodup_map hnodup hother hnode hid]
  · rfl

end Job

namespace Graph

/-- The links into a node, in their order. -/
def linksInto (graph : Graph) (id : String) : List Link :=
  graph.links.filter fun link => link.destId = id

variable {graph : Graph} {node : Node}

theorem lastNode?_of_mem (h : graph.nodeIds.Nodup) (hnode : node ∈ graph.nodes) :
    graph.lastNode? node.id = some node := by
  have hsome : (graph.lastNode? node.id).isSome = true :=
    lastNode?_isSome_iff.mpr (List.mem_map_of_mem hnode)
  obtain ⟨found, hfound⟩ := Option.isSome_iff_exists.mp hsome
  have hmem : found ∈ graph.nodes := List.mem_reverse.mp (List.mem_of_find?_eq_some hfound)
  have hid : found.id = node.id := by simpa using List.find?_some hfound
  rw [hfound, List.inj_on_of_nodup_map h hmem hnode hid]

/-! ### The passes -/

theorem placeNodes_eq (h : graph.nodeIds.Nodup) :
    graph.placeNodes = Job.of graph.nodes fun node => ⟨kindOrUnknown node.kind, []⟩ := by
  have hfold : ∀ (nodes : List Node) (job : Job),
      nodes.foldl (fun job node => job.add node.id (kindOrUnknown node.kind)) job =
        ⟨job.nodes.merge (nodes.map fun node => (node.id, ⟨kindOrUnknown node.kind, []⟩))⟩ := by
    intro nodes
    induction nodes with
    | nil => exact fun _ => rfl
    | cons node nodes ih => exact fun job => ih _
  unfold placeNodes
  rw [hfold]
  unfold Job.of
  congr 1
  refine Entries.merge_of_nodup ?_
  rw [Job.empty, List.nil_append]
  exact (Job.keys_of graph.nodes _).symm ▸ h

theorem wireLink_of (h : graph.nodeIds.Nodup) (made : Node → JobNode) (link : Link) :
    graph.wireLink (Job.of graph.nodes made) link = Job.of graph.nodes fun node =>
      if link.destId = node.id then
        { made node with inputs := node.wire graph.nodeIds [link] (made node).inputs }
      else made node := by
  by_cases hjoins : link.joins graph.nodeIds = true
  · obtain ⟨dest, hdest, hwire⟩ := wireLink_of_joins (Job.of graph.nodes made) hjoins
    have hmem : dest ∈ graph.nodes := List.mem_reverse.mp (List.mem_of_find?_eq_some hdest)
    have hid : dest.id = link.destId := by simpa using List.find?_some hdest
    rw [hwire, Job.update, ← hid, Job.node?_of h hmem]
    dsimp only
    rw [Job.put_of h hmem fun node made => made.setNew (node.slotName link.destSlot) link.reference]
    refine Job.of_congr fun node _ => ?_
    rw [hid]
    simp only [eq_comm (a := link.destId)]
    split_ifs
    · unfold Node.wire
      rw [List.foldl_cons, List.foldl_nil, if_pos (joins_iff.mp hjoins).1]
      rfl
    · rfl
  · rw [wireLink_of_not_joins (by simpa using hjoins)]
    refine Job.of_congr fun node hnode => ?_
    split_ifs with hid
    · have hsource : link.sourceId ∉ graph.nodeIds := fun hsource =>
        hjoins (joins_iff.mpr ⟨hsource, hid ▸ List.mem_map_of_mem hnode⟩)
      unfold Node.wire
      rw [List.foldl_cons, List.foldl_nil, if_neg hsource]
    · rfl

theorem foldl_wireLink_of (h : graph.nodeIds.Nodup) (links : List Link) :
    ∀ made : Node → JobNode, links.foldl graph.wireLink (Job.of graph.nodes made) =
      Job.of graph.nodes fun node => { made node with
        inputs := node.wire graph.nodeIds (links.filter fun link => link.destId = node.id)
          (made node).inputs } := by
  induction links with
  | nil => exact fun _ => rfl
  | cons link links ih =>
      intro made
      rw [List.foldl_cons, wireLink_of h, ih]
      refine Job.of_congr fun node _ => ?_
      by_cases hid : link.destId = node.id
      · rw [if_pos hid, List.filter_cons_of_pos (by simpa using hid)]
        rfl
      · rw [if_neg hid, List.filter_cons_of_neg (by simpa using hid)]

theorem wireLinks_eq (h : graph.nodeIds.Nodup) :
    graph.wireLinks graph.placeNodes = Job.of graph.nodes fun node =>
      ⟨kindOrUnknown node.kind, node.wire graph.nodeIds (graph.linksInto node.id) []⟩ := by
  rw [placeNodes_eq h]
  exact foldl_wireLink_of h graph.links _

theorem resolveNode_of (h : graph.nodeIds.Nodup) (hnode : node ∈ graph.nodes)
    (made : Node → JobNode) (warnings : List Warning) :
    resolveNode ⟨Job.of graph.nodes made, warnings⟩ node =
      ⟨Job.of graph.nodes fun other =>
          if other.id = node.id then other.resolved (made other) else made other,
        warnings ++ (node.resolve (made node).inputs).2⟩ := by
  rw [← Job.put_of h hnode Node.resolved]
  unfold resolveNode Node.resolved
  dsimp only
  rw [Job.node?_of h hnode]

/-- Resolving nodes, each once, changes them and no other. -/
theorem foldl_resolveNode_of (h : graph.nodeIds.Nodup) (todo : List Node)
    (hsub : todo ⊆ graph.nodes) (htodo : (todo.map Node.id).Nodup) :
    ∀ (made : Node → JobNode) (warnings : List Warning),
      todo.foldl resolveNode ⟨Job.of graph.nodes made, warnings⟩ =
        ⟨Job.of graph.nodes fun node =>
            if node.id ∈ todo.map Node.id then node.resolved (made node) else made node,
          warnings ++ todo.flatMap fun node => (node.resolve (made node).inputs).2⟩ := by
  induction todo with
  | nil => simp
  | cons first todo ih =>
      obtain ⟨hfirst, htodo⟩ := List.nodup_cons.mp htodo
      intro made warnings
      have hothers : ∀ node ∈ todo, node.id ≠ first.id := fun node hnode heq =>
        hfirst (heq ▸ List.mem_map_of_mem hnode)
      have hwarnings : (todo.flatMap fun node => (node.resolve
          (if node.id = first.id then node.resolved (made node) else made node).inputs).2) =
            todo.flatMap fun node => (node.resolve (made node).inputs).2 :=
        List.flatMap_congr fun node hnode => by rw [if_neg (hothers node hnode)]
      rw [List.foldl_cons, resolveNode_of h (hsub List.mem_cons_self),
        ih (fun node hnode => hsub (List.mem_cons_of_mem first hnode)) htodo, hwarnings,
        List.flatMap_cons, List.append_assoc]
      congr 1
      refine Job.of_congr fun node _ => ?_
      by_cases hid : node.id = first.id
      · rw [if_pos hid, if_neg (hid ▸ hfirst), if_pos (by simp [hid])]
      · rw [if_neg hid]
        simp [hid]

/-! ### The whole job -/

/-- The node of a graph compiled by itself. -/
def compileNode (graph : Graph) (node : Node) : JobNode × List Warning :=
  node.compileAlone graph.nodeIds (graph.linksInto node.id)

/-- A graph of distinct ids is compiled node by node. -/
theorem compile_eq (h : graph.nodeIds.Nodup) :
    graph.compile = ⟨Job.of graph.nodes fun node => (graph.compileNode node).1,
      graph.nodes.flatMap fun node => (graph.compileNode node).2⟩ := by
  unfold compile
  rw [wireLinks_eq h, foldl_resolveNode_of h graph.nodes (List.Subset.refl _) h]
  congr 1
  refine Job.of_congr fun node hnode => ?_
  rw [if_pos (List.mem_map_of_mem hnode)]
  rfl

theorem node?_compile (h : graph.nodeIds.Nodup) (hnode : node ∈ graph.nodes) :
    graph.compile.job.node? node.id = some (graph.compileNode node).1 := by
  rw [compile_eq h]
  exact Job.node?_of h hnode

/-- The inputs that links give to a node. -/
def linkInputs (graph : Graph) (node : Node) : Inputs :=
  node.wire graph.nodeIds (graph.linksInto node.id) []

/-- They hold the references of links, each that of the first link that hits it. -/
theorem wired_linkInputs (h : graph.nodeIds.Nodup) (hnode : node ∈ graph.nodes) :
    Wired graph graph.links node.id (graph.linkInputs node) := by
  have hcovers := graph.covers_wireLinks
  rw [wireLinks_eq h] at hcovers
  exact hcovers.inputs node.id _ (List.mem_map_of_mem hnode)

/-- What is suspicious about a node shows once its links are wired. -/
theorem compileNode_snd (graph : Graph) (node : Node) :
    (graph.compileNode node).2 = (node.resolve (graph.linkInputs node)).2 := by
  unfold compileNode Node.compileAlone linkInputs
  dsimp only

/-- An input has a value from the links exactly if one hits it. -/
theorem has_linkInputs (h : graph.nodeIds.Nodup) (hnode : node ∈ graph.nodes) (name : String) :
    (graph.linkInputs node).has name = (graph.firstHit? node.id name).isSome := by
  unfold Entries.has
  rw [(wired_linkInputs h hnode).lookup, Option.isSome_map]
  rfl

end Graph

end RenderRelay
