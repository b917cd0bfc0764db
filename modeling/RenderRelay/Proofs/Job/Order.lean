import Mathlib.Data.List.Perm.Basic
import RenderRelay.Proofs.Job.Local
import RenderRelay.Proofs.Json.Canonical

/-! # Compilation does not depend on order

What comes of a graph whose nodes and links stand in another order.

* `Node.same_resolve`: the passes over widget values ask only which inputs are there, so inputs
  that are the same in another order lead to such inputs, and to the same warnings.
* `AgreeAt` says that the same links hit the inputs of a node first; links that hit distinct
  inputs may stand in any order (`agreeAt_of_perm`).
* `fingerprint_eq_of_perm`: the fingerprint does not see the order of nodes and inputs.
* `compile_order_free`: each job node depends on its own node, the ids and the links into it, and
  the whole job on nodes and links up to order. -/

namespace RenderRelay

/-! ### Inputs in another order -/

namespace Taking

/-- The same inputs, in whatever order, and the same free values. -/
structure Same (first second : Taking) : Prop where
  inputs : Entries.Same first.inputs second.inputs
  free : first.free = second.free

variable {first second : Taking}

theorem Same.takeSlots (slots : List InputSlot) : ∀ (index : Nat) {first second : Taking},
    Same first second → Same (takeSlots index slots first) (takeSlots index slots second) := by
  induction slots with
  | nil => exact fun _ _ _ h => h
  | cons slot slots ih =>
      intro index first second h
      unfold Taking.takeSlots
      rw [h.inputs.has_eq, h.free]
      split_ifs with hskip
      · exact ih (index + 1) h
      · cases second.free with
        | nil => exact h
        | cons placed free => exact ih (index + 1) ⟨h.inputs.putNew _ _, rfl⟩

/-- A pass that folds over values keeps inputs the same if each of its writes does. -/
theorem same_foldl {α : Type} {write : Inputs → α → Inputs}
    (hwrite : ∀ (x : α) {inputs more : Inputs}, Entries.Same inputs more →
      Entries.Same (write inputs x) (write more x)) (xs : List α) :
    ∀ {inputs more : Inputs}, Entries.Same inputs more →
      Entries.Same (xs.foldl write inputs) (xs.foldl write more) := by
  induction xs with
  | nil => exact fun h => h
  | cons x xs ih => exact fun h => ih (hwrite x h)

theorem same_putNamed (table : WidgetNames) (placed : PlacedValue) {inputs more : Inputs}
    (h : Entries.Same inputs more) :
    Entries.Same (putNamed table inputs placed) (putNamed table more placed) := by
  unfold putNamed
  cases nameAt? table placed.1 with
  | none => exact h
  | some name => exact h.putNew name _

theorem Same.takeTable (h : Same first second) (table : WidgetNames) :
    Same (first.takeTable table) (second.takeTable table) := by
  unfold Taking.takeTable
  rw [h.free]
  exact ⟨same_foldl (same_putNamed table) _ h.inputs, rfl⟩

theorem Same.takeText (h : Same first second) : Same first.takeText second.takeText := by
  unfold Taking.takeText
  rw [h.inputs.has_eq, h.free]
  split_ifs with htext
  · exact h
  · cases second.free with
    | nil => exact h
    | cons placed free => exact ⟨h.inputs.putNew "text" _, rfl⟩

theorem Same.takeRest (h : Same first second) :
    Entries.Same first.takeRest second.takeRest := by
  unfold Taking.takeRest
  rw [h.free]
  refine same_foldl (fun placed inputs more hinputs => ?_) _ h.inputs
  exact hinputs.putNew ("value" ++ countText placed.1) (.scalar placed.2)

end Taking

namespace Node

variable (node : Node) {inputs more : Inputs}

theorem same_resolveListed (h : Entries.Same inputs more) (values : List Json) :
    Entries.Same (node.resolveListed values inputs).1 (node.resolveListed values more).1 ∧
      (node.resolveListed values inputs).2 = (node.resolveListed values more).2 := by
  have hslots : Taking.Same (Taking.takeSlots 0 node.inputs ⟨inputs, placedFrom 0 values⟩)
      (Taking.takeSlots 0 node.inputs ⟨more, placedFrom 0 values⟩) :=
    Taking.Same.takeSlots node.inputs 0 ⟨h, rfl⟩
  unfold resolveListed
  generalize Taking.takeSlots 0 node.inputs ⟨inputs, placedFrom 0 values⟩ = first at hslots ⊢
  generalize Taking.takeSlots 0 node.inputs ⟨more, placedFrom 0 values⟩ = second at hslots ⊢
  -- the text pass and the last one follow, whether or not the kind has a table
  have hrest : ∀ {first second : Taking}, Taking.Same first second →
      Entries.Same (if isPromptKind node.kindLower then first.takeText else first).takeRest
        (if isPromptKind node.kindLower then second.takeText else second).takeRest := by
    intro first second hnamed
    split_ifs with hkind
    · exact hnamed.takeText.takeRest
    · exact hnamed.takeRest
  cases widgetNames? node.kind with
  | none =>
      dsimp only
      exact ⟨hrest hslots, rfl⟩
  | some table =>
      dsimp only
      rw [hslots.free]
      exact ⟨hrest (hslots.takeTable table), rfl⟩

theorem same_resolveNamed (h : Entries.Same inputs more) (fields : Fields) :
    Entries.Same (resolveNamed fields inputs) (resolveNamed fields more) := by
  refine Taking.same_foldl (fun field inputs more hinputs => ?_) fields h
  dsimp only
  split_ifs with hempty
  · exact hinputs
  · exact hinputs.putNew _ _

/-- Inputs in another order lead to such inputs and to the same warnings. -/
theorem same_resolve (h : Entries.Same inputs more) :
    Entries.Same (node.resolve inputs).1 (node.resolve more).1 ∧
      (node.resolve inputs).2 = (node.resolve more).2 := by
  have hwidgets : Entries.Same (node.resolveWidgets inputs).1 (node.resolveWidgets more).1 ∧
      (node.resolveWidgets inputs).2 = (node.resolveWidgets more).2 := by
    unfold resolveWidgets
    cases node.widgets with
    | listed values => exact node.same_resolveListed h values
    | named fields => exact ⟨same_resolveNamed h fields, rfl⟩
  unfold resolve withFilePrefix
  dsimp only
  refine ⟨?_, hwidgets.2⟩
  split_ifs with hkind
  · exact hwidgets.1.putNew _ _
  · exact hwidgets.1

end Node

/-! ### Job nodes and jobs as mappings -/

/-- The job nodes have one kind and the same inputs, in whatever order. -/
structure JobNode.Same (first second : JobNode) : Prop where
  kind : first.kind = second.kind
  inputs : Entries.Same first.inputs second.inputs

/-- The job nodes are one mapping: a kind, and a value for each name. -/
def JobNode.SameMapping (first second : JobNode) : Prop :=
  first.kind = second.kind ∧ ∀ name, first.inputs.get? name = second.inputs.get? name

/-- The jobs are one mapping: under each id both have one mapping or both have none. -/
def Job.SameMapping (first second : Job) : Prop :=
  ∀ id, Option.Rel JobNode.SameMapping (first.node? id) (second.node? id)

namespace JobNode

variable {first second : JobNode}

theorem Same.sameMapping (h : Same first second) : SameMapping first second :=
  ⟨h.kind, h.inputs.lookup_eq⟩

/-- The canonical text of a job node does not see the order of its inputs. -/
theorem Same.writeChars_eq (h : Same first second) (depth : Nat) :
    first.toJson.writeChars .compact depth = second.toJson.writeChars .compact depth := by
  have hinputs : ∀ write : String × InputValue → String × Json,
      (∀ input, (write input).1 = input.1) →
        (Json.obj (first.inputs.map write)).writeChars .compact (depth + 1) =
          (Json.obj (second.inputs.map write)).writeChars .compact (depth + 1) := by
    intro write hname
    refine Json.writeChars_compact_of_perm ?_ ?_
    · rw [Json.writeFields_eq_map, Json.writeFields_eq_map]
      exact (h.inputs.perm.map _).map _
    · have hkeys : Prod.fst ∘ write = Prod.fst := funext hname
      unfold Entries.keys
      rw [List.map_map, hkeys]
      exact h.inputs.nodup
  refine Json.writeChars_compact_of_perm ?_ (by simp [Entries.keys])
  simp only [Json.writeFields]
  rw [h.kind, hinputs]
  exact fun _ => rfl

end JobNode

namespace Job

variable {nodes nodes' : List Node} {made made' : Node → JobNode}

/-- The fingerprint of a job sees neither the order of its nodes nor that of their inputs. -/
theorem fingerprint_eq_of_perm (hperm : nodes.Perm nodes') (hnodup : (nodes.map Node.id).Nodup)
    (hsame : ∀ node ∈ nodes, JobNode.Same (made node) (made' node)) :
    (of nodes made).fingerprint = (of nodes' made').fingerprint := by
  have htext : (of nodes made).toJson.canonicalText = (of nodes' made').toJson.canonicalText := by
    unfold Json.canonicalText Json.write
    congr 1
    refine Json.writeChars_compact_of_perm ?_ ?_
    · have hwritten : (nodes.map fun node => (node.id, (made node).toJson.writeChars .compact 1)) =
          nodes.map fun node => (node.id, (made' node).toJson.writeChars .compact 1) :=
        List.map_congr_left fun node hnode => by rw [(hsame node hnode).writeChars_eq]
      rw [Json.writeFields_eq_map, Json.writeFields_eq_map]
      unfold of
      rw [List.map_map, List.map_map, List.map_map, List.map_map]
      change (nodes.map fun node => (node.id, (made node).toJson.writeChars .compact 1)).Perm
        (nodes'.map fun node => (node.id, (made' node).toJson.writeChars .compact 1))
      rw [hwritten]
      exact hperm.map _
    · unfold Entries.keys of
      rw [List.map_map, List.map_map]
      exact hnodup
  have hempty : (of nodes made).nodes.isEmpty = (of nodes' made').nodes.isEmpty := by
    unfold of
    rw [List.isEmpty_map, List.isEmpty_map, Bool.eq_iff_iff, List.isEmpty_iff, List.isEmpty_iff]
    exact ⟨fun h => (h ▸ hperm).nil_eq.symm, fun h => (h ▸ hperm).eq_nil⟩
  unfold fingerprint Json.fingerprint
  rw [hempty, htext]

theorem sameMapping_of_perm (hperm : nodes.Perm nodes') (hnodup : (nodes.map Node.id).Nodup)
    (hsame : ∀ node ∈ nodes, JobNode.Same (made node) (made' node)) :
    SameMapping (of nodes made) (of nodes' made') := by
  have hnodup' : (nodes'.map Node.id).Nodup := (hperm.map Node.id).nodup_iff.mp hnodup
  intro id
  by_cases hid : id ∈ nodes.map Node.id
  · obtain ⟨node, hnode, rfl⟩ := List.mem_map.mp hid
    rw [node?_of hnodup hnode, node?_of hnodup' (hperm.mem_iff.mp hnode)]
    exact Option.Rel.some (hsame node hnode).sameMapping
  · have hmissing : ∀ {nodes : List Node} {made : Node → JobNode}, id ∉ nodes.map Node.id →
        (of nodes made).node? id = none := by
      intro nodes made hid
      rw [← Option.not_isSome_iff_eq_none]
      intro hsome
      exact hid (keys_of nodes made ▸ Entries.has_iff_mem_keys.mp hsome)
    have hid' : id ∉ nodes'.map Node.id := fun h => hid ((hperm.map Node.id).mem_iff.mpr h)
    rw [hmissing hid, hmissing hid']
    exact Option.Rel.none

end Job

/-! ### Graphs in another order -/

namespace Graph

/-- Each input of a node is first hit by the same link in both graphs, or by none. -/
def AgreeAt (graph graph' : Graph) (id : String) : Prop :=
  ∀ name, graph.firstHit? id name = graph'.firstHit? id name

/-- No two links hit one input. -/
def HitsDistinct (graph : Graph) : Prop :=
  graph.links.Pairwise fun first second =>
    ∀ id name, graph.hits id name first = true → graph.hits id name second = false

variable {graph graph' : Graph} {node : Node}

theorem nodup_keys_wire (node : Node) (ids : List String) (links : List Link) :
    ∀ {inputs : Inputs}, inputs.keys.Nodup → (node.wire ids links inputs).keys.Nodup := by
  induction links with
  | nil => exact fun h => h
  | cons link links ih =>
      intro inputs h
      refine ih ?_
      dsimp only
      split_ifs
      · exact Entries.nodup_keys_putNew h _ _
      · exact h

/-- The input of a name holds the reference of the first link that hits it. -/
theorem lookup_wire (h : graph.nodeIds.Nodup) (hnode : node ∈ graph.nodes) (name : String) :
    (node.wire graph.nodeIds (graph.linksInto node.id) []).lookup name =
      (graph.firstHit? node.id name).map Link.reference :=
  (wired_linkInputs h hnode).lookup name

/-- A node whose inputs are hit first by the same links compiles to one mapping, with the same
warnings. -/
theorem same_compileNode (h : graph.nodeIds.Nodup) (h' : graph'.nodeIds.Nodup)
    (hnode : node ∈ graph.nodes) (hnode' : node ∈ graph'.nodes)
    (hagree : AgreeAt graph graph' node.id) :
    JobNode.Same (graph.compileNode node).1 (graph'.compileNode node).1 ∧
      (graph.compileNode node).2 = (graph'.compileNode node).2 := by
  have hwired : Entries.Same (node.wire graph.nodeIds (graph.linksInto node.id) [])
      (node.wire graph'.nodeIds (graph'.linksInto node.id) []) := by
    refine Entries.Same.of_lookup (nodup_keys_wire node _ _ List.nodup_nil)
      (nodup_keys_wire node _ _ List.nodup_nil) fun name => ?_
    rw [lookup_wire h hnode, lookup_wire h' hnode', hagree name]
  obtain ⟨hinputs, hwarnings⟩ := node.same_resolve hwired
  unfold compileNode Node.compileAlone Node.resolved
  dsimp only
  refine ⟨⟨rfl, ?_⟩, hwarnings⟩
  dsimp only
  exact hinputs

theorem hits_congr (h : graph.nodeIds.Nodup) (hperm : graph.nodes.Perm graph'.nodes) :
    graph.hits = graph'.hits := by
  have hids : ∀ id, id ∈ graph.nodeIds ↔ id ∈ graph'.nodeIds := fun id =>
    (hperm.map Node.id).mem_iff
  have h' : graph'.nodeIds.Nodup := (hperm.map Node.id).nodup_iff.mp h
  have hlast : ∀ {id}, id ∈ graph.nodeIds → graph.lastNode? id = graph'.lastNode? id := by
    intro id hid
    obtain ⟨node, hnode, rfl⟩ := List.mem_map.mp hid
    rw [lastNode?_of_mem h hnode, lastNode?_of_mem h' (hperm.mem_iff.mp hnode)]
  funext id name link
  rw [Bool.eq_iff_iff, hits_iff, hits_iff, hids, hids]
  refine and_congr_right fun hends => and_congr_right fun hdest => ?_
  rw [hlast ((hids id).mpr (hdest ▸ hends.2))]

/-- Links that hit distinct inputs may stand in any order. -/
theorem agreeAt_of_perm (h : graph.nodeIds.Nodup) (hnodes : graph.nodes.Perm graph'.nodes)
    (hlinks : graph.links.Perm graph'.links) (hdistinct : graph.HitsDistinct) (id : String) :
    AgreeAt graph graph' id := by
  intro name
  have hfilter : (graph.links.filter (graph.hits id name)).Perm
      (graph'.links.filter (graph.hits id name)) := hlinks.filter _
  have hshort : ∀ {links : List Link}, (links.Pairwise fun first second =>
      graph.hits id name first = true → graph.hits id name second = false) →
        ∃ found : Option Link, links.filter (graph.hits id name) = found.toList := by
    intro links hpair
    induction links with
    | nil => exact ⟨none, rfl⟩
    | cons link links ih =>
        obtain ⟨hlink, hrest⟩ := List.pairwise_cons.mp hpair
        by_cases hhit : graph.hits id name link = true
        · refine ⟨some link, ?_⟩
          rw [List.filter_cons_of_pos hhit, List.filter_eq_nil_iff.mpr fun other hother => by
            simp [hlink other hother hhit]]
          rfl
        · rw [List.filter_cons_of_neg hhit]
          exact ih hrest
  obtain ⟨found, hfound⟩ := hshort (hdistinct.imp fun hpair => hpair id name)
  unfold firstHit?
  rw [← hits_congr h hnodes, ← List.head?_filter, ← List.head?_filter]
  rw [hfound] at hfilter ⊢
  cases found with
  | none => rw [List.perm_nil.mp hfilter.symm]; rfl
  | some link => rw [List.perm_singleton.mp hfilter.symm]; rfl

/-- **Compilation is local and free of order.**  In two graphs of distinct ids, with the same ids: a
node of both with the same links into it has one job node in both; if the same links hit its inputs
first, one mapping; and if the graphs have the same nodes and the same links hit all inputs first,
their jobs are one mapping with one fingerprint, and the same warnings, in whatever order. -/
theorem compile_order_free {graph graph' : Graph} (h : graph.nodeIds.Nodup)
    (h' : graph'.nodeIds.Nodup) (hids : ∀ id, id ∈ graph.nodeIds ↔ id ∈ graph'.nodeIds) :
    (∀ node ∈ graph.nodes, node ∈ graph'.nodes →
      graph.linksInto node.id = graph'.linksInto node.id →
        ∃ made, graph.compile.job.node? node.id = some made ∧
          graph'.compile.job.node? node.id = some made) ∧
    (∀ node ∈ graph.nodes, node ∈ graph'.nodes → AgreeAt graph graph' node.id →
      ∃ made made', graph.compile.job.node? node.id = some made ∧
        graph'.compile.job.node? node.id = some made' ∧ made.SameMapping made') ∧
    (graph.nodes.Perm graph'.nodes → (∀ id, AgreeAt graph graph' id) →
      graph.compile.job.SameMapping graph'.compile.job ∧
        graph.compile.fingerprint = graph'.compile.fingerprint ∧
          graph.compile.warnings.Perm graph'.compile.warnings) ∧
    (graph.nodes.Perm graph'.nodes → graph.links.Perm graph'.links → graph.HitsDistinct →
      ∀ id, AgreeAt graph graph' id) := by
  refine ⟨?_, ?_, ?_, fun hnodes hlinks hdistinct =>
    agreeAt_of_perm h hnodes hlinks hdistinct⟩
  · intro node hnode hnode' hlinks
    refine ⟨(graph.compileNode node).1, node?_compile h hnode, ?_⟩
    rw [node?_compile h' hnode']
    unfold compileNode
    rw [hlinks, node.compileAlone_congr hids]
  · intro node hnode hnode' hagree
    exact ⟨_, _, node?_compile h hnode, node?_compile h' hnode',
      (same_compileNode h h' hnode hnode' hagree).1.sameMapping⟩
  · intro hperm hagree
    have hsame : ∀ node ∈ graph.nodes,
        JobNode.Same (graph.compileNode node).1 (graph'.compileNode node).1 ∧
          (graph.compileNode node).2 = (graph'.compileNode node).2 := fun node hnode =>
      same_compileNode h h' hnode (hperm.mem_iff.mp hnode) (hagree node.id)
    rw [compile_eq h, compile_eq h']
    refine ⟨Job.sameMapping_of_perm hperm h fun node hnode => (hsame node hnode).1,
      Job.fingerprint_eq_of_perm hperm h fun node hnode => (hsame node hnode).1, ?_⟩
    exact hperm.flatMap fun node hnode => by rw [(hsame node hnode).2]

/-- A node that loads an image and its mask. -/
def loader : Node := ⟨"1", some "LoadImage", none, [], .listed [.str "in.png"]⟩

/-- A node with two inputs for links. -/
def joiner : Node :=
  ⟨"2", some "JoinAlpha", none,
    [.ofName (some "image") (.int 1) false, .ofName (some "alpha") (.int 2) false],
    .listed []⟩

/-- Two links into two inputs of one node. -/
def joined : Graph := ⟨[loader, joiner], [⟨.int 1, "1", 0, "2", 0⟩, ⟨.int 2, "1", 1, "2", 1⟩]⟩

/-- The same nodes and links the other way round. -/
def joinedReversed : Graph := ⟨joined.nodes.reverse, joined.links.reverse⟩

theorem hitsDistinct_joined : joined.HitsDistinct := by
  refine List.pairwise_pair.mpr fun id name hfirst => ?_
  by_contra hsecond
  obtain ⟨-, rfl, node, hnode, hname⟩ := hits_iff.mp hfirst
  obtain ⟨-, -, node', hnode', hname'⟩ := hits_iff.mp (by simpa using hsecond)
  obtain rfl : joiner = node := Option.some.inj hnode
  obtain rfl : joiner = node' := Option.some.inj hnode'
  exact absurd (hname.trans hname'.symm) (by decide)

theorem compile_order_free_joined :
    joined.nodeIds.Nodup ∧ joinedReversed.nodeIds.Nodup ∧
      (∀ id, id ∈ joined.nodeIds ↔ id ∈ joinedReversed.nodeIds) ∧
      joined.compile.job.SameMapping joinedReversed.compile.job ∧
      joined.compile.fingerprint = joinedReversed.compile.fingerprint ∧
      joined.compile.warnings.Perm joinedReversed.compile.warnings := by
  have hnodup : joined.nodeIds.Nodup := by decide
  have hnodup' : joinedReversed.nodeIds.Nodup := by decide
  have hnodes : joined.nodes.Perm joinedReversed.nodes := (List.reverse_perm _).symm
  have hids : ∀ id, id ∈ joined.nodeIds ↔ id ∈ joinedReversed.nodeIds := fun id =>
    (hnodes.map Node.id).mem_iff
  obtain ⟨-, -, hsame, hagree⟩ := compile_order_free hnodup hnodup' hids
  exact ⟨hnodup, hnodup', hids,
    hsame hnodes (hagree hnodes (List.reverse_perm _).symm hitsDistinct_joined)⟩

end Graph

end RenderRelay
