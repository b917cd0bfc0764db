import Mathlib.Data.List.Nodup
import RenderRelay.Proofs.Graph.Canonical
import RenderRelay.Store.Summary

/-! # What a summary announces

A summary looks at the raw form of a graph, a run at the graph itself.  Both sort nodes by their
kinds and titles in small letters, and on a normal graph, whose kinds are never blank, they sort
alike.

* `briefsOf_toJson`: what the summary of a normal graph takes a node for (`Node.brief`).
* `Graph.Rewrites` says which nodes a writer of texts overwrites, with what and how it counts them;
  `rewrites_filter` is what all writers of this kind have in common.
* `WorkflowSummary.Announces` ties a list of a summary to a writer.
* `interleaves_filter`: parting a list in two keeps the order of each part.
* `sum_countKinds`: the counts of the kinds add up. -/

namespace RenderRelay

open Text

/-! ### Normal graphs -/

/-- The graph comes from normalizing one. -/
def Graph.Normal (graph : Graph) : Prop := ∃ source : Graph, source.normalize = graph

theorem Graph.Normal.kind {graph : Graph} (h : graph.Normal) {node : Node}
    (hnode : node ∈ graph.nodes) : ∃ kind, node.kind = some kind ∧ isNamed kind = true := by
  obtain ⟨source, rfl⟩ := h
  obtain ⟨before, -, rfl⟩ := List.mem_map.mp hnode
  exact ⟨_, rfl, isNamed_trim (isNamed_kindOrUnknown before.kind)⟩

/-- What a summary takes a node for that has a kind. -/
def Node.brief (node : Node) : NodeBrief := ⟨.str node.id, node.kind.getD "", node.title⟩

namespace Node

variable (node : Node)

theorem ofFields_rawFields_brief {kind : String} (hkind : node.kind = some kind)
    (hnamed : isNamed kind = true) : NodeBrief.ofFields node.rawFields = node.brief := by
  have htype : (node.rawFields.get "type") = .str kind := by
    change Json.ofText? node.kind = .str kind
    rw [hkind]
    rfl
  have htitle : (node.rawFields.get "title").text? = node.title := by
    unfold rawFields
    cases node.title <;> rfl
  have hset : (Json.str kind).isTruthy = true := by
    obtain ⟨c, hc, -⟩ := isNamed_iff.mp hnamed
    unfold Json.isTruthy
    rw [Bool.not_eq_true', ← Bool.not_eq_true, String.isEmpty_iff, ← String.toList_eq_nil_iff]
    exact List.ne_nil_of_mem hc
  unfold NodeBrief.ofFields brief
  rw [htype, if_pos hset, Json.display_str, htitle, hkind]
  rfl

end Node

namespace WorkflowSummary

variable {graph : Graph}

theorem briefsOf_toJson (h : graph.Normal) :
    briefsOf graph.toJson = graph.nodes.map Node.brief := by
  change (graph.nodes.map Node.toJson).filterMap _ = _
  rw [List.filterMap_map, ← List.filterMap_eq_map]
  refine List.filterMap_congr fun node hnode => ?_
  obtain ⟨kind, hkind, hnamed⟩ := h.kind hnode
  exact congrArg some (node.ofFields_rawFields_brief hkind hnamed)

/-- The entries of the nodes whose briefs are chosen. -/
theorem listed_toJson (h : graph.Normal) (chosen : NodeBrief → Bool) :
    ((briefsOf graph.toJson).filter chosen).map NodeBrief.toJson =
      (graph.nodes.filter fun node => chosen node.brief).map fun node => node.brief.toJson := by
  rw [briefsOf_toJson h, List.filter_map, List.map_map]
  rfl

end WorkflowSummary

/-! ### Rewritten nodes -/

theorem Widgets.setFirst_injective (widgets : Widgets) {value other : Json}
    (h : widgets.setFirst value = widgets.setFirst other) : value = other := by
  unfold setFirst at h
  split at h <;> simp_all

namespace Graph

/-- The graph with each node changed. -/
def mapNodes (graph : Graph) (change : Node → Node) : Graph :=
  ⟨graph.nodes.map change, graph.links⟩

/-- A writer of texts rewrites these nodes, in the order of the graph: they are the nodes that some
text changes, each has whatever text is given as its first widget value, nothing else changes, and
the writer counts them. -/
structure Rewrites (graph : Graph) (write : String → Graph × Nat) (nodes : List Node) : Prop where
  sublist : nodes.Sublist graph.nodes
  mem_iff : ∀ node ∈ graph.nodes,
    node ∈ nodes ↔ ∃ text, (write text).1.get? node.id ≠ some node
  result : ∀ text, (write text).1 = graph.mapNodes fun node =>
    if node ∈ nodes then node.setFirstWidget (.str text) else node
  count : ∀ text, (write text).2 = nodes.length

variable {graph : Graph}

theorem get?_of_mem (h : graph.nodeIds.Nodup) {node : Node} (hnode : node ∈ graph.nodes) :
    graph.get? node.id = some node := by
  have hsome : (graph.get? node.id).isSome = true :=
    List.find?_isSome.mpr ⟨node, hnode, by simp⟩
  obtain ⟨found, hfound⟩ := Option.isSome_iff_exists.mp hsome
  have hid : found.id = node.id := by simpa using List.find?_some hfound
  rw [hfound, List.inj_on_of_nodup_map h (List.mem_of_find?_eq_some hfound) hnode hid]

theorem get?_mapNodes {change : Node → Node} (hid : ∀ node, (change node).id = node.id)
    (graph : Graph) (id : String) :
    (graph.mapNodes change).get? id = (graph.get? id).map change := by
  unfold get? mapNodes
  rw [List.find?_map]
  congr 2
  funext node
  exact congrArg (fun other => decide (other = id)) (hid node)

/-- A writer that goes by a test rewrites the nodes that pass it. -/
theorem rewrites_filter (h : graph.nodeIds.Nodup) (test : Node → Bool)
    {write : String → Graph × Nat} (hwrite : ∀ text, write text = graph.changeNodes fun node =>
      if test node then some (node.setFirstWidget (.str text)) else none) :
    graph.Rewrites write (graph.nodes.filter test) := by
  have hresult : ∀ text, (write text).1 = graph.mapNodes fun node =>
      if test node then node.setFirstWidget (.str text) else node := by
    intro text
    rw [hwrite]
    unfold changeNodes mapNodes
    dsimp only
    congr 2
    funext node
    cases test node <;> rfl
  have hget : ∀ text, ∀ node ∈ graph.nodes, (write text).1.get? node.id =
      some (if test node then node.setFirstWidget (.str text) else node) := by
    intro text node hnode
    rw [hresult, get?_mapNodes (fun node => ?_), get?_of_mem h hnode]
    · rfl
    · cases test node <;> rfl
  refine ⟨List.filter_sublist, fun node hnode => ?_, fun text => ?_, fun text => ?_⟩
  · rw [List.mem_filter, and_iff_right hnode]
    constructor
    · intro htest
      by_contra hsame
      -- both texts would have to be the one that stands there
      have hkeeps : ∀ text, node.setFirstWidget (.str text) = node := by
        intro text
        by_contra hne
        refine hsame ⟨text, fun heq => hne ?_⟩
        rw [hget text node hnode, htest] at heq
        exact Option.some.inj heq
      have heq := congrArg Node.widgets ((hkeeps "").trans (hkeeps "a").symm)
      exact absurd (Json.str.inj (node.widgets.setFirst_injective heq)) (by decide)
    · rintro ⟨text, hne⟩
      by_contra htest
      refine hne ?_
      rw [hget text node hnode, if_neg htest]
  · rw [hresult]
    unfold mapNodes
    congr 1
    refine List.map_congr_left fun node hnode => ?_
    simp only [List.mem_filter, hnode, true_and]
  · rw [hwrite, ← List.countP_eq_length_filter]
    unfold changeNodes
    dsimp only
    refine congrArg (fun test => List.countP test graph.nodes) (funext fun node => ?_)
    cases test node <;> rfl

theorem injectPrompts_positive (graph : Graph) (text : String) :
    graph.injectPrompts (some text) none = graph.changeNodes fun node =>
      if isPromptKind node.kindLower && !isNegativeTitle node.titleLower then
        some (node.setFirstWidget (.str text))
      else none := by
  unfold injectPrompts promptFor
  refine congrArg graph.changeNodes (funext fun node => ?_)
  cases isPromptKind node.kindLower <;> cases isNegativeTitle node.titleLower <;> rfl

theorem injectPrompts_negative (graph : Graph) (text : String) :
    graph.injectPrompts none (some text) = graph.changeNodes fun node =>
      if isPromptKind node.kindLower && isNegativeTitle node.titleLower then
        some (node.setFirstWidget (.str text))
      else none := by
  unfold injectPrompts promptFor
  refine congrArg graph.changeNodes (funext fun node => ?_)
  cases isPromptKind node.kindLower <;> cases isNegativeTitle node.titleLower <;> rfl

end Graph

/-! ### Lists of a summary -/

/-- The third list is made of the items of the first two, each of which keeps its order. -/
inductive Interleaves {α : Type} : List α → List α → List α → Prop where
  | nil : Interleaves [] [] []
  | left (x : α) {xs ys zs : List α} (h : Interleaves xs ys zs) :
      Interleaves (x :: xs) ys (x :: zs)
  | right (y : α) {xs ys zs : List α} (h : Interleaves xs ys zs) :
      Interleaves xs (y :: ys) (y :: zs)

/-- A list that is parted in two is made of both parts. -/
theorem interleaves_filter {α β : Type} (write : α → β) (test side : α → Bool) (items : List α) :
    Interleaves ((items.filter fun item => test item && !side item).map write)
      ((items.filter fun item => test item && side item).map write)
      ((items.filter test).map write) := by
  induction items with
  | nil => exact .nil
  | cons item items ih =>
      cases htest : test item with
      | false => simpa [htest] using ih
      | true =>
          cases hside : side item with
          | false => simpa [htest, hside] using ih.left (write item)
          | true => simpa [htest, hside] using ih.right (write item)

namespace WorkflowSummary

/-- What a write adds to the sum of the values, it takes out of the value that stood there. -/
theorem sum_put (counts : Entries Nat) (kind : String) (count : Nat) :
    ((counts.put kind count).map Prod.snd).sum + (counts.get? kind).getD 0 =
      (counts.map Prod.snd).sum + count := by
  induction counts with
  | nil => simp [Entries.put, Entries.get?]
  | cons entry counts ih =>
      obtain ⟨other, n⟩ := entry
      unfold Entries.get? at ih ⊢
      by_cases heq : other = kind
      · simp [Entries.put, heq]
        omega
      · rw [List.lookup_cons, beq_false_of_ne (Ne.symm heq)]
        simp only [Entries.put, heq, if_false, List.map_cons, List.sum_cons]
        omega

/-- The counts of the kinds add up to the number of nodes. -/
theorem sum_countKinds (briefs : List NodeBrief) :
    ((countKinds briefs).map Prod.snd).sum = briefs.length := by
  have hfold : ∀ (kinds : List String) (counts : Entries Nat),
      ((kinds.foldl countKind counts).map Prod.snd).sum =
        (counts.map Prod.snd).sum + kinds.length := by
    intro kinds
    induction kinds with
    | nil => exact fun _ => rfl
    | cons kind kinds ih =>
        intro counts
        have hput := sum_put counts kind ((counts.get? kind).getD 0 + 1)
        rw [List.foldl_cons, ih, List.length_cons]
        unfold countKind
        omega
  unfold countKinds
  rw [hfold, List.length_map]
  exact Nat.zero_add _

/-- The sum of the counts of a summary. -/
def kindTotal (summary : WorkflowSummary) : Int :=
  (summary.kindCounts.map fun entry => entry.2.integer?.getD 0).sum

/-- The entries name exactly the nodes that a writer rewrites, in the order of the graph. -/
def Announces (graph : Graph) (entries : List Json) (write : String → Graph × Nat) : Prop :=
  ∃ nodes, graph.Rewrites write nodes ∧ entries = nodes.map fun node => node.brief.toJson

variable {graph : Graph}

theorem kindTotal_ofGraph (h : graph.Normal) :
    (ofGraph graph.toJson).kindTotal = graph.nodes.length := by
  have hcounts : (ofGraph graph.toJson).kindTotal =
      (((countKinds (briefsOf graph.toJson)).map Prod.snd).map Int.ofNat).sum := by
    unfold kindTotal ofGraph
    dsimp only
    rw [List.map_map, List.map_map]
    rfl
  have hcast : ∀ counts : List Nat, (counts.map Int.ofNat).sum = (counts.sum : Nat) := by
    intro counts
    induction counts with
    | nil => rfl
    | cons n counts ih =>
        rw [List.map_cons, List.sum_cons, List.sum_cons, ih]
        rfl
  rw [hcounts, hcast, sum_countKinds, briefsOf_toJson h, List.length_map]

/-- No entry names a node on both sides: its title sends it to one. -/
theorem disjoint_polarities (briefs : List NodeBrief) :
    List.Disjoint
      ((briefs.filter fun brief => brief.takesPrompt && !brief.isNegative).map NodeBrief.toJson)
      ((briefs.filter fun brief => brief.takesPrompt && brief.isNegative).map
        NodeBrief.toJson) := by
  intro entry hpositive hnegative
  obtain ⟨first, hfirst, rfl⟩ := List.mem_map.mp hpositive
  obtain ⟨second, hsecond, heq⟩ := List.mem_map.mp hnegative
  have hread : ∀ brief : NodeBrief, (brief.toJson.get "title").text? = brief.title := by
    intro brief
    change (Json.ofText? brief.title).text? = brief.title
    cases brief.title <;> rfl
  have htitle : first.title = second.title := by
    rw [← hread first, ← hread second, heq]
  obtain ⟨-, hone⟩ := Bool.and_eq_true_iff.mp (List.mem_filter.mp hfirst).2
  obtain ⟨-, hother⟩ := Bool.and_eq_true_iff.mp (List.mem_filter.mp hsecond).2
  unfold NodeBrief.isNegative at hone hother
  rw [htitle, hother] at hone
  cases hone

/-- **A summary announces what a run rewrites.**  For every normal graph of distinct ids: the
positive and the negative prompt nodes of its summary are, in order, the nodes that the injection of
a text of this side alone rewrites; its nodes that load images are those that the injection of an
image rewrites; the injections count them; the prompt nodes are made of both sides, of which no
node is in both; and all nodes are counted, by themselves and by kind. -/
theorem ofGraph_announces (hnormal : graph.Normal) (hids : graph.nodeIds.Nodup) :
    Announces graph (ofGraph graph.toJson).positivePromptNodes
      (fun text => graph.injectPrompts (some text) none) ∧
    Announces graph (ofGraph graph.toJson).negativePromptNodes
      (fun text => graph.injectPrompts none (some text)) ∧
    Announces graph (ofGraph graph.toJson).loadImageNodes graph.injectImage ∧
    Interleaves (ofGraph graph.toJson).positivePromptNodes
      (ofGraph graph.toJson).negativePromptNodes (ofGraph graph.toJson).promptNodes ∧
    List.Disjoint (ofGraph graph.toJson).positivePromptNodes
      (ofGraph graph.toJson).negativePromptNodes ∧
    (ofGraph graph.toJson).totalNodes = graph.nodes.length ∧
    (ofGraph graph.toJson).kindTotal = (ofGraph graph.toJson).totalNodes := by
  have htotal : (ofGraph graph.toJson).totalNodes = graph.nodes.length :=
    congrArg Int.ofNat (List.length_map _)
  refine ⟨⟨_, Graph.rewrites_filter hids _ graph.injectPrompts_positive, ?_⟩,
    ⟨_, Graph.rewrites_filter hids _ graph.injectPrompts_negative, ?_⟩,
    ⟨_, Graph.rewrites_filter hids _ fun _ => rfl, ?_⟩,
    interleaves_filter _ _ _ _, disjoint_polarities _, htotal, ?_⟩
  · exact listed_toJson hnormal _
  · exact listed_toJson hnormal _
  · exact listed_toJson hnormal _
  · rw [htotal]
    exact kindTotal_ofGraph hnormal

/-- A graph with a note, a prompt for each side, a node without a kind and one that loads an
image. -/
def draft : Graph :=
  ⟨[⟨"1", some "Note", none, [], .listed [.str "to do"]⟩,
    ⟨"2", some " CLIPTextEncode", none, [], .listed [.str "a cat"]⟩,
    ⟨"3", none, some "negative", [], .named []⟩,
    ⟨"4", some "CLIPTextEncode", some "Negative prompt", [], .listed []⟩,
    ⟨"5", some "LoadImage", none, [], .named [("image", .str "in.png")]⟩], []⟩

theorem ofGraph_announces_draft :
    draft.normalize.Normal ∧ draft.normalize.nodeIds.Nodup ∧
      (ofGraph draft.normalize.toJson).positivePromptNodes =
        [.obj [("id", .str "2"), ("type", .str "CLIPTextEncode"), ("title", .null)]] ∧
      Announces draft.normalize (ofGraph draft.normalize.toJson).positivePromptNodes
        (fun text => draft.normalize.injectPrompts (some text) none) ∧
      Announces draft.normalize (ofGraph draft.normalize.toJson).negativePromptNodes
        (fun text => draft.normalize.injectPrompts none (some text)) ∧
      Announces draft.normalize (ofGraph draft.normalize.toJson).loadImageNodes
        draft.normalize.injectImage ∧
      (ofGraph draft.normalize.toJson).kindTotal = 4 := by
  have hnormal : draft.normalize.Normal := ⟨draft, rfl⟩
  have hids : draft.normalize.nodeIds.Nodup := by decide +kernel
  obtain ⟨hpositive, hnegative, himage, -⟩ := ofGraph_announces hnormal hids
  exact ⟨hnormal, hids, by decide +kernel, hpositive, hnegative, himage, by decide +kernel⟩

end WorkflowSummary

end RenderRelay
