import RenderRelay.Proofs.Job.Widgets

/-! # Links of a compiled job

A link hits an input of a node if both its ends are nodes of the graph and the slot that it
names on its destination resolves to that input (`Graph.hits`).  Compilation carries two
invariants, each a statement about every node of the job (`Graph.Covers`):

* while links are wired, an input is there exactly if a link hit it, and holds the reference of
  the first one (`Graph.Wired`);
* while widget values are resolved, that reference stays and no other one appears
  (`Graph.Linked`), since every pass only adds plain values.

So the references of the job are closed, and a link wins over every widget value
(`compile_links_resolve`). -/

namespace RenderRelay

/-- The reference that a link stands for. -/
def Link.reference (link : Link) : InputValue := .reference link.sourceId link.sourceSlot

namespace Graph

/-- Does the link, with both ends in the graph, hit the input `name` of the node `id`?  If nodes
share an id, the slots are those of the last. -/
def hits (graph : Graph) (id name : String) (link : Link) : Bool :=
  link.joins graph.nodeIds && decide (link.destId = id) &&
    decide ((graph.lastNode? id).map (fun node => node.slotName link.destSlot) = some name)

/-- The first link, in the order of the links, that hits an input. -/
def firstHit? (graph : Graph) (id name : String) : Option Link :=
  graph.links.find? (graph.hits id name)

/-- The job has the nodes of the graph, each once, and `P` holds of the inputs of each. -/
structure Covers (graph : Graph) (job : Job) (P : String → Inputs → Prop) : Prop where
  nodup : job.nodes.keys.Nodup
  mem_keys : ∀ id, id ∈ job.nodes.keys ↔ id ∈ graph.nodeIds
  inputs : ∀ id node, (id, node) ∈ job.nodes → P id node.inputs

/-- The inputs of a node after some links: those that a link hit, with its reference. -/
structure Wired (graph : Graph) (links : List Link) (id : String) (inputs : Inputs) : Prop where
  mem : ∀ name value, (name, value) ∈ inputs →
    ∃ link ∈ links, graph.hits id name link = true ∧ value = link.reference
  lookup : ∀ name, inputs.lookup name = (links.find? (graph.hits id name)).map Link.reference

/-- The inputs of a node keep the reference of the first link that hits them, and hold no
reference that is not of a link. -/
structure Linked (graph : Graph) (id : String) (inputs : Inputs) : Prop where
  mem : ∀ name sourceId index, (name, .reference sourceId index) ∈ inputs →
    ∃ link ∈ graph.links, graph.hits id name link = true ∧ link.sourceId = sourceId ∧
      link.sourceSlot = index
  lookup : ∀ name link, graph.firstHit? id name = some link →
    inputs.lookup name = some link.reference

variable {graph : Graph} {job : Job} {P Q : String → Inputs → Prop}

/-! ### Ends of links -/

theorem lastNode?_isSome_iff {id : String} :
    (graph.lastNode? id).isSome = true ↔ id ∈ graph.nodeIds := by
  unfold lastNode? nodeIds
  rw [List.find?_isSome, List.mem_map]
  constructor
  · rintro ⟨node, hmem, hid⟩
    exact ⟨node, List.mem_reverse.mp hmem, by simpa using hid⟩
  · rintro ⟨node, hmem, hid⟩
    exact ⟨node, List.mem_reverse.mpr hmem, by simpa using hid⟩

theorem joins_iff {link : Link} :
    link.joins graph.nodeIds = true ↔
      link.sourceId ∈ graph.nodeIds ∧ link.destId ∈ graph.nodeIds := by
  simp [Link.joins]

theorem hits_iff {id name : String} {link : Link} :
    graph.hits id name link = true ↔
      (link.sourceId ∈ graph.nodeIds ∧ link.destId ∈ graph.nodeIds) ∧ link.destId = id ∧
        ∃ node, graph.lastNode? id = some node ∧ node.slotName link.destSlot = name := by
  unfold hits
  rw [Bool.and_eq_true, Bool.and_eq_true, joins_iff, decide_eq_true_iff, decide_eq_true_iff,
    Option.map_eq_some_iff, and_assoc]

/-- A link hits at most one input. -/
theorem hits_unique {id id' name name' : String} {link : Link}
    (h : graph.hits id name link = true) (h' : graph.hits id' name' link = true) :
    id' = id ∧ name' = name := by
  obtain ⟨-, rfl, node, hnode, rfl⟩ := hits_iff.mp h
  obtain ⟨-, rfl, node', hnode', rfl⟩ := hits_iff.mp h'
  rw [hnode] at hnode'
  rw [Option.some.inj hnode']
  exact ⟨rfl, rfl⟩

theorem wireLink_of_not_joins {link : Link} (h : link.joins graph.nodeIds = false) :
    graph.wireLink job link = job := by
  unfold wireLink
  cases hsource : graph.lastNode? link.sourceId with
  | none => rfl
  | some source =>
      cases hdest : graph.lastNode? link.destId with
      | none => rfl
      | some dest =>
          have hs := lastNode?_isSome_iff.mp (Option.isSome_of_eq_some hsource)
          have hd := lastNode?_isSome_iff.mp (Option.isSome_of_eq_some hdest)
          rw [joins_iff.mpr ⟨hs, hd⟩] at h
          cases h

theorem wireLink_of_joins (job : Job) {link : Link} (h : link.joins graph.nodeIds = true) :
    ∃ dest, graph.lastNode? link.destId = some dest ∧
      graph.wireLink job link = job.update link.destId fun node =>
        node.setNew (dest.slotName link.destSlot) link.reference := by
  obtain ⟨hs, hd⟩ := joins_iff.mp h
  obtain ⟨source, hsource⟩ := Option.isSome_iff_exists.mp (lastNode?_isSome_iff.mpr hs)
  obtain ⟨dest, hdest⟩ := Option.isSome_iff_exists.mp (lastNode?_isSome_iff.mpr hd)
  refine ⟨dest, hdest, ?_⟩
  unfold wireLink
  rw [hsource, hdest]
  rfl

/-! ### Jobs that cover a graph -/

namespace Covers

theorem node?_of_mem (h : Covers graph job P) {id : String} (hid : id ∈ graph.nodeIds) :
    ∃ node, job.node? id = some node ∧ P id node.inputs := by
  have hhas := Entries.has_iff_mem_keys.mpr ((h.mem_keys id).mpr hid)
  obtain ⟨node, hnode⟩ := Option.isSome_iff_exists.mp hhas
  exact ⟨node, hnode, h.inputs id node (Entries.mem_of_lookup hnode)⟩

theorem contains_iff (h : Covers graph job P) (id : String) :
    job.contains id = true ↔ id ∈ graph.nodeIds :=
  Entries.has_iff_mem_keys.trans (h.mem_keys id)

theorem mono (h : Covers graph job P) (hPQ : ∀ id inputs, P id inputs → Q id inputs) :
    Covers graph job Q :=
  ⟨h.nodup, h.mem_keys, fun id node hmem => hPQ _ _ (h.inputs id node hmem)⟩

/-- Replacing the node of one id asks for `Q` of its new inputs, and that the inputs of the other
ids pass from `P` to `Q`. -/
theorem put (h : Covers graph job P) {id : String} {node : JobNode} (hid : id ∈ graph.nodeIds)
    (hnode : Q id node.inputs)
    (hothers : ∀ other inputs, other ≠ id → P other inputs → Q other inputs) :
    Covers graph ⟨job.nodes.put id node⟩ Q := by
  refine ⟨Entries.nodup_keys_put h.nodup id node, ?_, ?_⟩
  · intro other
    rw [Entries.mem_keys_put, h.mem_keys]
    constructor
    · rintro (hmem | rfl) <;> assumption
    · exact Or.inl
  · intro other found hmem
    rcases (Entries.mem_put_iff h.nodup).mp hmem with heq | ⟨hold, hne⟩
    · obtain ⟨rfl, rfl⟩ := Prod.mk.inj heq
      exact hnode
    · exact hothers other _ hne (h.inputs other found hold)

end Covers

/-- Placing nodes one by one gives each id a node without inputs. -/
theorem covers_foldl_add (nodes : List Node) : ∀ (placed : List Node) (job : Job),
    Covers ⟨placed, []⟩ job (fun _ inputs => inputs = []) →
      Covers ⟨placed ++ nodes, []⟩
        (nodes.foldl (fun job node => job.add node.id (kindOrUnknown node.kind)) job)
        (fun _ inputs => inputs = []) := by
  induction nodes with
  | nil =>
      intro placed job h
      simpa using h
  | cons node rest ih =>
      intro placed job h
      rw [List.append_cons]
      refine ih (placed ++ [node]) _ ⟨?_, ?_, ?_⟩
      · exact Entries.nodup_keys_put h.nodup _ _
      · intro id
        unfold Job.add
        rw [Entries.mem_keys_put, h.mem_keys]
        simp [nodeIds]
      · intro id found hmem
        rcases (Entries.mem_put_iff h.nodup).mp hmem with heq | ⟨hold, -⟩
        · obtain ⟨rfl, rfl⟩ := Prod.mk.inj heq
          rfl
        · exact h.inputs id found hold

theorem covers_placeNodes (graph : Graph) :
    Covers graph graph.placeNodes (fun _ inputs => inputs = []) := by
  have hempty : Covers ⟨[], []⟩ Job.empty (fun _ inputs => inputs = []) :=
    ⟨List.nodup_nil, fun _ => Iff.rfl, fun _ _ hmem => absurd hmem List.not_mem_nil⟩
  have h := covers_foldl_add graph.nodes [] Job.empty hempty
  exact ⟨h.nodup, h.mem_keys, h.inputs⟩

/-! ### Wiring -/

variable {links : List Link} {link : Link} {id name : String} {inputs : Inputs}

theorem Wired.nil : Wired graph [] id [] :=
  ⟨fun _ _ hmem => absurd hmem List.not_mem_nil, fun _ => rfl⟩

/-- A link that does not hit a node leaves its inputs as they are. -/
theorem Wired.skip (h : Wired graph links id inputs)
    (hmiss : ∀ name, graph.hits id name link = false) :
    Wired graph (links ++ [link]) id inputs := by
  refine ⟨?_, ?_⟩
  · intro name value hmem
    obtain ⟨found, hfound, hrest⟩ := h.mem name value hmem
    exact ⟨found, List.mem_append_left _ hfound, hrest⟩
  · intro name
    rw [h.lookup, List.find?_append]
    simp [hmiss name]

/-- A link that hits an input writes it, unless an earlier one has. -/
theorem Wired.putNew (h : Wired graph links id inputs) (hhit : graph.hits id name link = true) :
    Wired graph (links ++ [link]) id (inputs.putNew name link.reference) := by
  refine ⟨?_, ?_⟩
  · intro other value hmem
    rcases Entries.mem_putNew hmem with hold | hnew
    · obtain ⟨found, hfound, hrest⟩ := h.mem other value hold
      exact ⟨found, List.mem_append_left _ hfound, hrest⟩
    · obtain ⟨rfl, rfl⟩ := Prod.mk.inj hnew
      exact ⟨link, by simp, hhit, rfl⟩
  · intro other
    rw [Entries.lookup_putNew, h.lookup, List.find?_append]
    by_cases hname : other = name
    · subst hname
      cases links.find? (graph.hits id other) with
      | none => simp [hhit]
      | some found => simp
    · have hmiss : graph.hits id other link = false := by
        by_contra hother
        exact hname (hits_unique hhit (by simpa using hother)).2
      simp [hname, hmiss]

theorem Covers.wireLink (h : Covers graph job (Wired graph links)) (link : Link) :
    Covers graph (graph.wireLink job link) (Wired graph (links ++ [link])) := by
  by_cases hjoins : link.joins graph.nodeIds = true
  · obtain ⟨dest, hdest, hwire⟩ := wireLink_of_joins job hjoins
    have hends := joins_iff.mp hjoins
    have hhit : graph.hits link.destId (dest.slotName link.destSlot) link = true :=
      hits_iff.mpr ⟨hends, rfl, dest, hdest, rfl⟩
    obtain ⟨node, hnode, hwired⟩ := h.node?_of_mem hends.2
    rw [hwire, Job.update, hnode]
    refine h.put hends.2 (hwired.putNew hhit) ?_
    intro other inputs hne hinputs
    refine hinputs.skip fun name => ?_
    by_contra hother
    exact hne (hits_unique hhit (by simpa using hother)).1
  · rw [wireLink_of_not_joins (by simpa using hjoins)]
    refine h.mono fun id inputs hinputs => hinputs.skip fun name => ?_
    by_contra hother
    exact hjoins (joins_iff.mpr (hits_iff.mp (by simpa using hother)).1)

theorem Covers.foldl_wireLink : ∀ (more links : List Link) (job : Job),
    Covers graph job (Wired graph links) →
      Covers graph (more.foldl graph.wireLink job) (Wired graph (links ++ more))
  | [], links, job, h => by simpa using h
  | link :: more, links, job, h => by
      rw [List.append_cons]
      exact foldl_wireLink more (links ++ [link]) _ (h.wireLink link)

theorem covers_wireLinks (graph : Graph) :
    Covers graph (graph.wireLinks graph.placeNodes) (Wired graph graph.links) := by
  have hplaced : Covers graph graph.placeNodes (Wired graph []) :=
    graph.covers_placeNodes.mono fun id inputs hinputs => hinputs ▸ Wired.nil
  exact hplaced.foldl_wireLink graph.links []

/-! ### Resolving widget values -/

theorem Wired.linked (h : Wired graph graph.links id inputs) : Linked graph id inputs := by
  refine ⟨?_, ?_⟩
  · intro name sourceId index hmem
    obtain ⟨link, hlink, hhit, hvalue⟩ := h.mem name _ hmem
    obtain ⟨rfl, rfl⟩ := InputValue.reference.inj hvalue
    exact ⟨link, hlink, hhit, rfl, rfl⟩
  · intro name link hfirst
    rw [h.lookup]
    exact congrArg (Option.map Link.reference) hfirst

theorem Linked.addsScalars {after : Inputs} (h : Linked graph id inputs)
    (hadds : AddsScalars inputs after) : Linked graph id after :=
  ⟨fun name sourceId index hmem => h.mem name sourceId index (hadds.mem_of_reference hmem),
    fun name link hfirst => hadds.lookup_eq (h.lookup name link hfirst)⟩

theorem Covers.resolveNode {compiled : CompiledJob}
    (h : Covers graph compiled.job (Linked graph)) (node : Node) (hid : node.id ∈ graph.nodeIds) :
    Covers graph (Graph.resolveNode compiled node).job (Linked graph) := by
  obtain ⟨jobNode, hnode, hlinked⟩ := h.node?_of_mem hid
  unfold Graph.resolveNode
  rw [hnode]
  dsimp only
  have hadds := node.addsScalars_resolve jobNode.inputs
  generalize node.resolve jobNode.inputs = resolved at hadds ⊢
  exact h.put hid (hlinked.addsScalars hadds) fun _ _ _ hinputs => hinputs

theorem Covers.foldl_resolveNode : ∀ (nodes : List Node) (compiled : CompiledJob),
    (∀ node ∈ nodes, node.id ∈ graph.nodeIds) → Covers graph compiled.job (Linked graph) →
      Covers graph (nodes.foldl Graph.resolveNode compiled).job (Linked graph)
  | [], _, _, h => h
  | node :: nodes, _, hids, h =>
      foldl_resolveNode nodes _ (fun other hmem => hids other (List.mem_cons_of_mem _ hmem))
        (h.resolveNode node (hids node List.mem_cons_self))

theorem covers_compile (graph : Graph) : Covers graph graph.compile.job (Linked graph) := by
  refine Covers.foldl_resolveNode graph.nodes _ ?_ ?_
  · intro node hmem
    exact List.mem_map_of_mem hmem
  · exact graph.covers_wireLinks.mono fun id inputs hinputs => hinputs.linked

theorem mem_inputs_of_mem_references {node : JobNode} {held : HeldReference}
    (h : held ∈ node.references) :
    (held.input, InputValue.reference held.nodeId held.index) ∈ node.inputs := by
  obtain ⟨⟨input, value⟩, hmem, hheld⟩ := List.mem_filterMap.mp h
  cases value with
  | scalar value => cases hheld
  | reference nodeId index =>
      obtain rfl := Option.some.inj hheld
      exact hmem

/-- A reference of the compiled job is that of a link between two of its nodes. -/
theorem link_of_mem_references (graph : Graph) {id : String} {node : JobNode}
    {held : HeldReference} (hnode : (id, node) ∈ graph.compile.job.nodes)
    (hheld : held ∈ node.references) :
    ∃ link ∈ graph.links, graph.hits id held.input link = true ∧
      link.sourceId = held.nodeId ∧ link.sourceSlot = held.index :=
  (graph.covers_compile.inputs id node hnode).mem _ _ _ (mem_inputs_of_mem_references hheld)

theorem contains_of_mem_references (graph : Graph) {id : String} {node : JobNode}
    {held : HeldReference} (hnode : (id, node) ∈ graph.compile.job.nodes)
    (hheld : held ∈ node.references) : graph.compile.job.contains held.nodeId = true := by
  obtain ⟨link, -, hhit, hsource, -⟩ := graph.link_of_mem_references hnode hheld
  rw [graph.covers_compile.contains_iff, ← hsource]
  exact (hits_iff.mp hhit).1.1

theorem danglingReferences_compile (graph : Graph) :
    graph.compile.job.danglingReferences = [] := by
  unfold Job.danglingReferences
  rw [List.flatMap_eq_nil_iff]
  rintro ⟨id, node⟩ hnode
  rw [List.map_eq_nil_iff, List.filter_eq_nil_iff]
  intro held hheld
  rw [graph.contains_of_mem_references hnode hheld]
  exact Bool.false_ne_true

theorem problems_compile (graph : Graph) {problem : Job.Problem}
    (h : problem ∈ graph.compile.job.problems) :
    problem = .empty ∨ ∃ id, problem = .cycle id := by
  unfold Job.problems at h
  rw [danglingReferences_compile, List.append_nil] at h
  split_ifs at h with hempty
  · exact Or.inl (List.mem_singleton.mp h)
  · obtain ⟨id, -, rfl⟩ := Option.map_eq_some_iff.mp (Option.mem_toList.mp h)
    exact Or.inr ⟨id, rfl⟩

/-- **Links are closed and win.**  For every graph: the references of its job lead to nodes of the
job, so nothing but an empty job or a cycle is reported; every reference is that of a link that
hits its input; and an input that links hit holds the reference of the first of them. -/
theorem compile_links_resolve (graph : Graph) :
    (∀ id, graph.compile.job.contains id = true ↔ id ∈ graph.nodeIds) ∧
    graph.compile.job.danglingReferences = [] ∧
    (∀ problem ∈ graph.compile.job.problems, problem = .empty ∨ ∃ id, problem = .cycle id) ∧
    (∀ id node held, (id, node) ∈ graph.compile.job.nodes → held ∈ node.references →
      graph.compile.job.contains held.nodeId = true ∧
      ∃ link ∈ graph.links, graph.hits id held.input link = true ∧
        link.sourceId = held.nodeId ∧ link.sourceSlot = held.index) ∧
    (∀ id name link, graph.firstHit? id name = some link →
      ∃ node, graph.compile.job.node? id = some node ∧
        node.inputs.get? name = some (.reference link.sourceId link.sourceSlot)) := by
  refine ⟨graph.covers_compile.contains_iff, graph.danglingReferences_compile,
    fun problem => graph.problems_compile, ?_, ?_⟩
  · intro id node held hnode hheld
    exact ⟨graph.contains_of_mem_references hnode hheld,
      graph.link_of_mem_references hnode hheld⟩
  · intro id name link hfirst
    obtain ⟨⟨-, hdest⟩, rfl, -⟩ := hits_iff.mp (List.find?_some hfirst)
    obtain ⟨node, hnode, hlinked⟩ := graph.covers_compile.node?_of_mem hdest
    exact ⟨node, hnode, hlinked.lookup name link hfirst⟩

end Graph

end RenderRelay
