import RenderRelay.Proofs.Graph.Identity
import RenderRelay.Proofs.Graph.Lenient
import RenderRelay.Proofs.Graph.Normal
import RenderRelay.Proofs.Job.Local

/-! # One job node for each raw node

A job is keyed by ids, so nodes of one id share a job node.

* `Graph.nodes_ofFields`, `Graph.nodes_normalize_ofFields`: the nodes of a stored object, and those
  that normalizing keeps, are the nodes of its entries.
* `Graph.keys_compile_perm`: a job has one node for each id of its graph, and
  `Graph.forall₂_compile`: one for each node, in order, if the ids are distinct.
* `Graph.compileJson_merges_shadowed`: if the raw nodes that give ids give distinct ones, the job
  has one node for each raw node of a kept kind that no other such node shadows, and no more. -/

namespace RenderRelay

open Text

/-- The entry of a job under the id of a raw node, with the kind of the raw node. -/
def NodeEntry.IsMade (entry : NodeEntry) (made : String × JobNode) : Prop :=
  made.1 = entry.id ∧ made.2.kind = trim (kindOrUnknown entry.node.kind)

namespace Graph

/-- The raw nodes of a stored object that are objects. -/
def entries (fields : Fields) : List NodeEntry := NodeEntry.ofItems 0 (fields.get "nodes").items

/-- Those among them that are no notes. -/
def keptEntries (fields : Fields) : List NodeEntry :=
  (entries fields).filter fun entry => !isAnnotationKind entry.node.kind

variable {graph : Graph} {fields : Fields}

/-! ### From entries to nodes -/

theorem nodes_ofFields (h : ofFields fields = .ok graph) :
    graph.nodes = (entries fields).map NodeEntry.node := by
  unfold ofFields at h
  obtain ⟨links, -, h⟩ := exists_of_bind_ok h
  obtain rfl := Except.ok.inj h
  exact (NodeEntry.map_node_ofItems _ 0).symm

theorem nodeIds_ofFields (h : ofFields fields = .ok graph) :
    graph.nodeIds = (entries fields).map NodeEntry.id := by
  unfold nodeIds
  rw [nodes_ofFields h, List.map_map]
  exact List.map_congr_left fun entry _ => entry.id_node

theorem nodes_normalize_ofFields (h : ofFields fields = .ok graph) :
    graph.normalize.nodes = (keptEntries fields).map fun entry => entry.node.withNormalKind := by
  unfold normalize
  dsimp only
  rw [nodes_ofFields h, List.filter_map, List.map_map]
  rfl

theorem nodeIds_normalize_ofFields (h : ofFields fields = .ok graph) :
    graph.normalize.nodeIds = (keptEntries fields).map NodeEntry.id := by
  unfold nodeIds
  rw [nodes_normalize_ofFields h, List.map_map]
  exact List.map_congr_left fun entry _ => entry.id_node

/-! ### From nodes to job nodes -/

/-- A job has one node for each id of its graph. -/
theorem keys_compile_perm (graph : Graph) {ids : List String} (hnodup : ids.Nodup)
    (hmem : ∀ id, id ∈ ids ↔ id ∈ graph.nodeIds) : graph.compile.job.nodes.keys.Perm ids := by
  have hcovers := graph.covers_compile
  apply (List.perm_ext_iff_of_nodup hcovers.nodup hnodup).mpr
  intro id
  rw [hcovers.mem_keys, hmem]

/-- Nodes of distinct ids have one job node each, in order. -/
theorem forall₂_compile (h : graph.nodeIds.Nodup) :
    List.Forall₂ (fun node made => made.1 = node.id ∧ made.2.kind = kindOrUnknown node.kind)
      graph.nodes graph.compile.job.nodes := by
  rw [compile_eq h]
  unfold Job.of
  rw [List.forall₂_map_right_iff, List.forall₂_same]
  exact fun node _ => ⟨rfl, rfl⟩

/-- The job of kept entries of distinct ids. -/
theorem forall₂_compile_normalize (h : ofFields fields = .ok graph)
    (hnodup : ((keptEntries fields).map NodeEntry.id).Nodup) :
    List.Forall₂ NodeEntry.IsMade (keptEntries fields) graph.normalize.compile.job.nodes := by
  rw [← nodeIds_normalize_ofFields h] at hnodup
  have hmade := forall₂_compile hnodup
  rw [nodes_normalize_ofFields h, List.forall₂_map_left_iff] at hmade
  refine hmade.imp ?_
  rintro entry made ⟨hid, hkind⟩
  refine ⟨hid.trans entry.id_node, hkind.trans ?_⟩
  exact kindOrUnknown_of_isNamed (isNamed_trim (isNamed_kindOrUnknown entry.node.kind))

/-! ### Stored objects -/

/-- **No raw node is merged away but a shadowed one.**  A stored object without misspelled slot
indices, whose raw nodes give distinct ids if they give any, is read and compiled.  Two of its nodes
share an id exactly if one gives as its id the name that the other, which gives none, has after its
place.  The job has one node for each raw node of a kept kind but for those that another one of a
kept kind shadows; it has one for every raw node of a kept kind exactly if none of them is shadowed,
and then in their order and with their kinds. -/
theorem compileJson_merges_shadowed (fields : Fields)
    (hspelled : ∀ text ∈ slotTexts (.obj fields), ¬ Link.Misspelled text)
    (hown : ((entries fields).filterMap NodeEntry.ownId?).Nodup) :
    ∃ graph compiled, ofJson (.obj fields) = .ok graph ∧
      compileJson (.obj fields) = .ok compiled ∧
      graph.nodeIds = (entries fields).map NodeEntry.id ∧
      (entries fields).Pairwise (fun first second =>
        (first.id = second.id ↔ first.Shadows second ∨ second.Shadows first)) ∧
      (graph.nodeIds.Nodup ↔ NodeEntry.NoneShadowed (entries fields)) ∧
      compiled.job.nodes.keys.Nodup ∧
      compiled.job.nodes.keys.Perm
        ((NodeEntry.unshadowed (keptEntries fields)).map NodeEntry.id) ∧
      (compiled.job.nodes.length = (keptEntries fields).length ↔
        NodeEntry.NoneShadowed (keptEntries fields)) ∧
      (NodeEntry.NoneShadowed (keptEntries fields) →
        List.Forall₂ NodeEntry.IsMade (keptEntries fields) compiled.job.nodes) := by
  have hnamed : NodeEntry.WellNamed (entries fields) := NodeEntry.wellNamed_ofItems hown
  have hkept : NodeEntry.WellNamed (keptEntries fields) := hnamed.sublist List.filter_sublist
  obtain ⟨graph, hgraph⟩ := (ofFields_outcome fields).exists_ok hspelled
  have hread : ofJson (.obj fields) = .ok graph := hgraph
  have hids := nodeIds_ofFields hgraph
  have hjob : graph.normalize.compile.job.nodes.keys.Perm
      ((NodeEntry.unshadowed (keptEntries fields)).map NodeEntry.id) := by
    apply keys_compile_perm _ hkept.nodup_ids_unshadowed
    intro id
    rw [NodeEntry.mem_ids_unshadowed, nodeIds_normalize_ofFields hgraph]
  have hlength : graph.normalize.compile.job.nodes.length =
      (NodeEntry.unshadowed (keptEntries fields)).length := by
    simpa [Entries.keys] using hjob.length_eq
  refine ⟨graph, graph.normalize.compile, hread, ?_, hids, hnamed.pairwise_id_eq_iff, ?_,
    graph.normalize.covers_compile.nodup, hjob, ?_, ?_⟩
  · unfold compileJson
    rw [hread]
    rfl
  · rw [hids, hnamed.nodup_ids_iff]
  · rw [hlength, NodeEntry.length_unshadowed_iff]
  · exact fun hnone => forall₂_compile_normalize hgraph (hkept.nodup_ids_iff.mpr hnone)

/-- Junk between raw nodes with and without ids, a note that shadows one of them, and a link. -/
def mixedNodes : Fields :=
  [("nodes", .arr [.str "junk", .obj [("type", .str "VAEDecode")],
      .obj [("id", .str "node-1"), ("type", .str "Note")],
      .obj [("id", .int 7), ("type", .str " PreviewImage")], .null,
      .obj [("id", .str ""), ("class_type", .str "VAELoader")]]),
    ("links", .arr [.arr [.int 1, .str "node-1", .str "0", .int 7, .str " 0"]])]

theorem compileJson_merges_shadowed_mixedNodes :
    (∀ text ∈ slotTexts (.obj mixedNodes), ¬ Link.Misspelled text) ∧
      ((entries mixedNodes).filterMap NodeEntry.ownId?).Nodup ∧
      NodeEntry.NoneShadowed (keptEntries mixedNodes) ∧
      ∃ graph compiled, ofJson (.obj mixedNodes) = .ok graph ∧
        compileJson (.obj mixedNodes) = .ok compiled ∧
        graph.nodeIds = ["node-1", "node-1", "7", "node-5"] ∧ ¬ graph.nodeIds.Nodup ∧
        compiled.job.nodes.keys.Perm ["node-1", "7", "node-5"] ∧
        List.Forall₂ NodeEntry.IsMade (keptEntries mixedNodes) compiled.job.nodes := by
  have hspelled : ∀ text ∈ slotTexts (.obj mixedNodes), ¬ Link.Misspelled text := by decide
  have hown : ((entries mixedNodes).filterMap NodeEntry.ownId?).Nodup := by decide
  have hnone : NodeEntry.NoneShadowed (keptEntries mixedNodes) := by decide +kernel
  have hids : (entries mixedNodes).map NodeEntry.id = ["node-1", "node-1", "7", "node-5"] := by
    decide +kernel
  have hkept : (NodeEntry.unshadowed (keptEntries mixedNodes)).map NodeEntry.id =
      ["node-1", "7", "node-5"] := by
    decide +kernel
  obtain ⟨graph, compiled, hgraph, hcompiled, hnodes, -, -, -, hkeys, -, hmade⟩ :=
    compileJson_merges_shadowed mixedNodes hspelled hown
  rw [hids] at hnodes
  rw [hkept] at hkeys
  exact ⟨hspelled, hown, hnone, graph, compiled, hgraph, hcompiled, hnodes, by simp [hnodes], hkeys,
    hmade hnone⟩

/-- A raw node whose id is the name that the next one has after its place. -/
def shadowedNode : Fields :=
  [("nodes", .arr [
    .obj [("id", .str "node-1"), ("type", .str "LoadImage"),
      ("widgets_values", .arr [.str "in.png", .str "image"])],
    .obj [("type", .str "SaveImage"), ("widgets_values", .arr [.str "out"])]])]

/-- Two raw nodes, of which one gives an id, share an id and one job node, which has the kind of the
second and the inputs of both. -/
theorem compileJson_shadowedNode :
    ((entries shadowedNode).filterMap NodeEntry.ownId?).Nodup ∧
      (keptEntries shadowedNode).length = 2 ∧
      (∃ graph, ofJson (.obj shadowedNode) = .ok graph ∧ ¬ graph.nodeIds.Nodup) ∧
      compileJson (.obj shadowedNode) =
        .ok ⟨⟨[("node-1", ⟨"SaveImage", [("image", .scalar (.str "in.png")),
          ("filename_prefix", .scalar (.str "out"))]⟩)]⟩, []⟩ := by
  refine ⟨by decide, by decide +kernel, ⟨_, rfl, by decide +kernel⟩, by decide +kernel⟩

end Graph

end RenderRelay
