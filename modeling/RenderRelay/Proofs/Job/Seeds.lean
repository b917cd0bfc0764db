import RenderRelay.Proofs.Job.Origin
import RenderRelay.Proofs.Job.Sampler

/-! # Which seeds are flagged

A compiled graph warns of the seeds that are no integers.  The check is made on what the declared
slots have left to the table, so a seed that a slot claims is never flagged.

* `Node.mem_free_slotted_iff`: the slots claim the first positions and leave the others.
* `Node.seedValue_mem_resolve_iff`: what one node is flagged for, whatever inputs it has already.
* `Graph.mem_warnings_iff`: the warnings of a graph are those of its nodes, each resolved from what
  the nodes of its id before it made; `Graph.mem_warnings_of_nodup` is the case of distinct ids.
* `Graph.flags_seeds` puts them together for every graph. -/

namespace RenderRelay

/-- A seed position of a node, with its name and its value: the table calls it by the name of a
seed, and the listed values reach it. -/
structure Node.SeedAt (node : Node) (position : Nat) (name : String) (value : Json) : Prop where
  seed : isSeedName name = true
  name_at : ∃ table, widgetNames? node.kind = some table ∧ table[position]? = some (some name)
  value_at : ∃ values, node.widgets = .listed values ∧ values[position]? = some value

/-- How many widget positions the declared slots claim. -/
def Node.claimedBySlots (node : Node) (inputs : Inputs) : Nat :=
  match node.widgets with
  | .listed values => (node.slotClaims values inputs).length
  | .named _ => 0

/-- Is there a warning that the seed at this position of the node is no integer? -/
def CompiledJob.FlagsSeed (compiled : CompiledJob) (id : String) (position : Nat) : Prop :=
  ∃ kind name value, Warning.seedValue id kind position name value ∈ compiled.warnings

/-! ### What the slots leave -/

theorem mem_drop_placedFrom_iff {values : List Json} {count position : Nat} {value : Json} :
    (position, value) ∈ (placedFrom 0 values).drop count ↔
      values[position]? = some value ∧ count ≤ position := by
  rw [List.mem_iff_getElem?]
  constructor
  · rintro ⟨i, hi⟩
    rw [List.getElem?_drop, getElem?_placedFrom] at hi
    obtain ⟨found, hfound, heq⟩ := Option.map_eq_some_iff.mp hi
    obtain ⟨hposition, rfl⟩ := Prod.mk.inj heq
    rw [Nat.zero_add] at hposition
    rw [← hposition]
    exact ⟨hfound, Nat.le_add_right count i⟩
  · rintro ⟨hvalue, hle⟩
    refine ⟨position - count, ?_⟩
    rw [List.getElem?_drop, getElem?_placedFrom, Nat.add_sub_cancel' hle, hvalue, Nat.zero_add]
    rfl

/-- The slots claim nothing exactly if nothing is free or each is bound or has its input already. -/
theorem Taking.slotClaims_eq_nil_iff (slots : List InputSlot) : ∀ (index : Nat) (taking : Taking),
    slotClaims index slots taking = [] ↔ taking.free = [] ∨
      ∀ (i : Nat) (slot : InputSlot), slots[i]? = some slot →
        slot.isBound = true ∨ taking.inputs.has (slot.nameAt (index + i)) = true := by
  induction slots with
  | nil => exact fun _ _ => ⟨fun _ => Or.inr nofun, fun _ => rfl⟩
  | cons first slots ih =>
      intro index taking
      have hcons : (∀ (i : Nat) (slot : InputSlot), (first :: slots)[i]? = some slot →
          slot.isBound = true ∨ taking.inputs.has (slot.nameAt (index + i)) = true) ↔
            (first.isBound = true ∨ taking.inputs.has (first.nameAt index) = true) ∧
              ∀ (i : Nat) (slot : InputSlot), slots[i]? = some slot → slot.isBound = true ∨
                taking.inputs.has (slot.nameAt (index + 1 + i)) = true := by
        constructor
        · intro h
          refine ⟨h 0 first rfl, fun i slot hslot => ?_⟩
          rw [Nat.add_assoc, Nat.add_comm 1 i]
          exact h (i + 1) slot hslot
        · rintro ⟨hfirst, hrest⟩ (- | i) slot hslot
          · rwa [← Option.some.inj hslot]
          · rw [← Nat.add_assoc, Nat.add_right_comm]
            exact hrest i slot hslot
      rw [hcons, slotClaims]
      split_ifs with hskip
      · rw [ih, and_iff_right (Bool.or_eq_true_iff.mp hskip)]
      · rw [← Bool.or_eq_true_iff, Bool.eq_false_iff.mpr hskip]
        cases taking.free with
        | nil => simp
        | cons placed free => simp

namespace Node

variable {node : Node} {values : List Json} {inputs : Inputs} {id kind name : String}
  {position : Nat} {value : Json}

theorem SeedAt.unique {other : String} {found : Json} (h : node.SeedAt position name value)
    (h' : node.SeedAt position other found) : other = name ∧ found = value := by
  obtain ⟨-, ⟨table, htable, hname⟩, values, hlisted, hvalue⟩ := h
  obtain ⟨-, ⟨table', htable', hname'⟩, values', hlisted', hvalue'⟩ := h'
  rw [htable] at htable'
  rw [hlisted] at hlisted'
  obtain rfl := Option.some.inj htable'
  obtain rfl := Widgets.listed.inj hlisted'
  rw [hname] at hname'
  rw [hvalue] at hvalue'
  exact ⟨(Option.some.inj (Option.some.inj hname')).symm, (Option.some.inj hvalue').symm⟩

/-- The slots claim the first positions and leave the others. -/
theorem mem_free_slotted_iff : (position, value) ∈ (node.slotted values inputs).free ↔
    values[position]? = some value ∧ (node.slotClaims values inputs).length ≤ position := by
  have happend : (node.slotClaims values inputs).map Claim.placed ++
      (node.slotted values inputs).free = placedFrom 0 values :=
    Taking.slotClaims_append node.inputs 0 (unclaimed values inputs)
  rw [← mem_drop_placedFrom_iff, ← happend, List.drop_left' (List.length_map _)]

theorem claimedBySlots_eq_zero_iff (h : node.SeedAt position name value) :
    node.claimedBySlots inputs = 0 ↔
      ∀ (index : Nat) (slot : InputSlot), node.inputs[index]? = some slot →
        slot.isBound = true ∨ inputs.has (slot.nameAt index) = true := by
  obtain ⟨-, -, values, hlisted, hvalue⟩ := h
  have hfree : (unclaimed values inputs).free ≠ [] := by
    intro hnil
    have hplaced : (placedFrom 0 values)[position]? = some (0 + position, value) := by
      rw [getElem?_placedFrom, hvalue, Option.map_some]
    rw [show placedFrom 0 values = [] from hnil] at hplaced
    cases hplaced
  unfold claimedBySlots slotClaims
  rw [hlisted]
  dsimp only
  rw [List.length_eq_zero_iff, Taking.slotClaims_eq_nil_iff, or_iff_right hfree]
  simp only [Nat.zero_add]
  rfl

/-! ### What one node is flagged for -/

theorem seedValue_mem_seedWarnings_iff {node kind found : String} {table : WidgetNames}
    {free : List PlacedValue} :
    Warning.seedValue id found position name value ∈ seedWarnings node kind table free ↔
      (node = id ∧ kind = found) ∧ (position, value) ∈ free ∧
        table[position]? = some (some name) ∧ isSeedName name = true ∧
          isIntegerValue value = false := by
  unfold seedWarnings
  rw [List.mem_filterMap]
  constructor
  · rintro ⟨⟨p, v⟩, hfree, hwarning⟩
    dsimp only at hwarning
    cases hat : Taking.nameAt? table p with
    | none =>
        rw [hat] at hwarning
        cases hwarning
    | some other =>
        rw [hat] at hwarning
        dsimp only at hwarning
        split_ifs at hwarning with hseed
        obtain ⟨rfl, rfl, rfl, rfl, rfl⟩ := Warning.seedValue.inj (Option.some.inj hwarning)
        rw [Bool.and_eq_true, Bool.not_eq_true'] at hseed
        exact ⟨⟨rfl, rfl⟩, hfree, Option.join_eq_some_iff.mp hat, hseed⟩
  · rintro ⟨⟨rfl, rfl⟩, hfree, hname, hseed, hinteger⟩
    refine ⟨(position, value), hfree, ?_⟩
    dsimp only
    rw [Taking.nameAt?, hname, Option.join_some]
    dsimp only
    rw [hseed, hinteger, Bool.not_false, Bool.and_true, if_pos rfl]

/-- The check of what stands behind a seed says nothing of the seed itself. -/
theorem seedValue_notMem_controlWarnings (node kind found : String) (values : List Json) :
    ∀ (start : Nat) (table : WidgetNames),
      Warning.seedValue id found position name value ∉
        controlWarnings node kind values start table := by
  intro start table
  fun_induction controlWarnings node kind values start table with
  | case1 start other rest ih =>
      rw [List.mem_append]
      rintro (hmem | hmem)
      · split at hmem
        · split_ifs at hmem
          · cases List.mem_singleton.mp hmem
          · cases hmem
        · cases hmem
      · exact ih hmem
  | case2 _ _ _ _ ih => exact ih
  | case3 => exact List.not_mem_nil

theorem seedValue_mem_tableWarnings_iff {node kind found : String} {table : WidgetNames}
    {free : List PlacedValue} :
    Warning.seedValue id found position name value ∈ tableWarnings node kind table values free ↔
      Warning.seedValue id found position name value ∈ seedWarnings node kind table free := by
  unfold tableWarnings
  rw [List.mem_append, List.mem_append,
    or_iff_left (seedValue_notMem_controlWarnings node kind found values 0 table), or_iff_right]
  intro hmem
  split_ifs at hmem
  · cases hmem
  · cases List.mem_singleton.mp hmem

/-- A node is flagged for the seeds that are no integers and that no slot has claimed. -/
theorem seedValue_mem_resolve_iff :
    Warning.seedValue id kind position name value ∈ (node.resolve inputs).2 ↔
      (node.id = id ∧ node.kind.getD "" = kind) ∧ node.SeedAt position name value ∧
        isIntegerValue value = false ∧ node.claimedBySlots inputs ≤ position := by
  unfold resolve resolveWidgets claimedBySlots
  cases hwidgets : node.widgets with
  | named fields =>
      dsimp only
      refine ⟨nofun, ?_⟩
      rintro ⟨-, ⟨-, -, values, hlisted, -⟩, -⟩
      rw [hwidgets] at hlisted
      cases hlisted
  | listed values =>
      unfold resolveListed
      dsimp only
      cases htable : widgetNames? node.kind with
      | none =>
          dsimp only
          refine ⟨nofun, ?_⟩
          rintro ⟨-, ⟨-, ⟨table, hsome, -⟩, -⟩, -⟩
          rw [htable] at hsome
          cases hsome
      | some table =>
          dsimp only
          rw [seedValue_mem_tableWarnings_iff, seedValue_mem_seedWarnings_iff]
          refine and_congr_right fun _ => ?_
          rw [show Taking.takeSlots 0 node.inputs ⟨inputs, placedFrom 0 values⟩ =
            node.slotted values inputs from rfl, mem_free_slotted_iff]
          constructor
          · rintro ⟨⟨hvalue, hle⟩, hname, hseed, hinteger⟩
            exact ⟨⟨hseed, ⟨table, htable, hname⟩, values, hwidgets, hvalue⟩, hinteger, hle⟩
          · rintro ⟨⟨hseed, ⟨other, hother, hname⟩, found, hlisted, hvalue⟩, hinteger, hle⟩
            obtain rfl := Option.some.inj (htable.symm.trans hother)
            obtain rfl := Widgets.listed.inj (hwidgets.symm.trans hlisted)
            exact ⟨⟨hvalue, hle⟩, hname, hseed, hinteger⟩

end Node

/-! ### The warnings of a graph -/

namespace Graph

variable {graph : Graph} {warning : Warning}

/-- The inputs of the job node of an id when these nodes of the graph are resolved. -/
def inputsAfter (graph : Graph) (nodes : List Node) (id : String) : Inputs :=
  match graph.lastNode? id with
  | some last => (graph.madeFrom last (nodes.filter fun node => node.id = id)).inputs
  | none => []

/-- One more node is resolved: its warnings come last. -/
theorem warnings_concat (nodes : List Node) {node : Node} (hnode : node ∈ graph.nodes) :
    ((nodes ++ [node]).foldl resolveNode ⟨graph.wireLinks graph.placeNodes, []⟩).warnings =
      (nodes.foldl resolveNode ⟨graph.wireLinks graph.placeNodes, []⟩).warnings ++
        (node.resolve (graph.inputsAfter nodes node.id)).2 := by
  obtain ⟨last, hlast⟩ := Option.isSome_iff_exists.mp
    (lastNode?_isSome_iff.mpr (List.mem_map_of_mem (f := Node.id) hnode))
  have hmade := graph.node?_resolving nodes node.id
  rw [hlast, Option.map_some] at hmade
  unfold inputsAfter
  rw [List.foldl_append, List.foldl_cons, List.foldl_nil, resolveNode, hmade, hlast]

theorem mem_warnings_iff : warning ∈ graph.compile.warnings ↔
    ∃ before node after, graph.nodes = before ++ node :: after ∧
      warning ∈ (node.resolve (graph.inputsAfter before node.id)).2 := by
  -- from the end, since a node is resolved from what the nodes before it made
  have hfold : ∀ nodes : List Node, nodes ⊆ graph.nodes →
      (warning ∈ (nodes.foldl resolveNode ⟨graph.wireLinks graph.placeNodes, []⟩).warnings ↔
        ∃ before node after, nodes = before ++ node :: after ∧
          warning ∈ (node.resolve (graph.inputsAfter before node.id)).2) := by
    intro nodes
    induction nodes using List.reverseRecOn with
    | nil => simp
    | append_singleton nodes last ih =>
        intro hsub
        obtain ⟨hnodes, hlast⟩ := List.append_subset.mp hsub
        rw [warnings_concat nodes (hlast List.mem_cons_self), List.mem_append, ih hnodes]
        constructor
        · rintro (⟨before, node, after, rfl, hmem⟩ | hmem)
          · exact ⟨before, node, after ++ [last], by simp, hmem⟩
          · exact ⟨nodes, last, [], rfl, hmem⟩
        · rintro ⟨before, node, after, heq, hmem⟩
          obtain rfl | ⟨after, final, rfl⟩ := List.eq_nil_or_concat' after
          · obtain ⟨rfl, rfl⟩ := List.append_singleton_inj.mp heq
            exact Or.inr hmem
          · rw [← List.cons_append, ← List.append_assoc] at heq
            exact Or.inl ⟨before, node, after, (List.append_singleton_inj.mp heq).1, hmem⟩
  exact hfold graph.nodes (List.Subset.refl _)

/-- If the ids are distinct, each node has the inputs of its links when it is resolved. -/
theorem mem_warnings_of_nodup (h : graph.nodeIds.Nodup) : warning ∈ graph.compile.warnings ↔
    ∃ node ∈ graph.nodes, warning ∈ (node.resolve (graph.linkInputs node)).2 := by
  simp only [compile_eq h, List.mem_flatMap, compileNode_snd]

theorem flagsSeed_iff (h : graph.nodeIds.Nodup) {node : Node} (hnode : node ∈ graph.nodes)
    {position : Nat} {name : String} {value : Json} (hseed : node.SeedAt position name value) :
    graph.compile.FlagsSeed node.id position ↔
      isIntegerValue value = false ∧ node.claimedBySlots (graph.linkInputs node) ≤ position := by
  unfold CompiledJob.FlagsSeed
  simp only [mem_warnings_of_nodup h, Node.seedValue_mem_resolve_iff]
  constructor
  · rintro ⟨kind, other, found, flagged, hflagged, ⟨hid, -⟩, hother, hinteger, hle⟩
    obtain rfl := List.inj_on_of_nodup_map h hflagged hnode hid
    obtain ⟨rfl, rfl⟩ := hseed.unique hother
    exact ⟨hinteger, hle⟩
  · rintro ⟨hinteger, hle⟩
    exact ⟨node.kind.getD "", name, value, node, hnode, ⟨rfl, rfl⟩, hseed, hinteger, hle⟩

/-- **Which seeds are flagged.** The warnings of a graph name exactly the seeds that are no integers
and at whose turn no declared slot had claimed the position; the slots claim the first ones.  If the
ids are distinct, the slots go by the links of the graph alone, and a node each of whose slots is
bound or hit by a link is flagged for exactly the seeds that are no integers. -/
theorem flags_seeds (graph : Graph) :
    (∀ id kind position name value,
      Warning.seedValue id kind position name value ∈ graph.compile.warnings ↔
        ∃ before node after, graph.nodes = before ++ node :: after ∧
          (node.id = id ∧ node.kind.getD "" = kind) ∧ node.SeedAt position name value ∧
            isIntegerValue value = false ∧
              node.claimedBySlots (graph.inputsAfter before node.id) ≤ position) ∧
      (graph.nodeIds.Nodup → ∀ node ∈ graph.nodes, ∀ position name value,
        node.SeedAt position name value →
          (graph.compile.FlagsSeed node.id position ↔ isIntegerValue value = false ∧
            node.claimedBySlots (graph.linkInputs node) ≤ position) ∧
          ((∀ (index : Nat) (slot : InputSlot), node.inputs[index]? = some slot →
              slot.isBound = true ∨
                ∃ link, graph.firstHit? node.id (slot.nameAt index) = some link) →
            (graph.compile.FlagsSeed node.id position ↔ isIntegerValue value = false))) := by
  refine ⟨fun id kind position name value => ?_, fun h node hnode position name value hseed => ?_⟩
  · simp only [mem_warnings_iff, Node.seedValue_mem_resolve_iff]
  · have hflags := flagsSeed_iff h hnode hseed
    refine ⟨hflags, fun hserved => hflags.trans (and_iff_left ?_)⟩
    have hzero : node.claimedBySlots (graph.linkInputs node) = 0 := by
      refine (Node.claimedBySlots_eq_zero_iff hseed).mpr fun index slot hslot => ?_
      rw [has_linkInputs h hnode, Option.isSome_iff_exists]
      exact hserved index slot hslot
    rw [hzero]
    exact Nat.zero_le position

/-- A sampler with these slots and a text where its seed should stand. -/
def textSeedNode (slots : List InputSlot) : Node :=
  ⟨"1", some "KSampler", none, slots, .listed [.str "abc", .str "fixed", .int 20, .int 8,
    .str "euler", .str "normal", .int 1]⟩

/-- The graph of this node alone. -/
def textSeedGraph (slots : List InputSlot) : Graph := ⟨[textSeedNode slots], []⟩

theorem seedAt_textSeedNode (slots : List InputSlot) :
    (textSeedNode slots).SeedAt 0 "seed" (.str "abc") := by
  have htable : widgetNames? (some "KSampler") = some Node.samplerTable := by decide +kernel
  exact ⟨by decide, ⟨Node.samplerTable, htable, rfl⟩, _, rfl, rfl⟩

/-- The text is flagged if the only slot of the sampler is bound. -/
theorem flags_seeds_boundSlot :
    (textSeedGraph [.ofName (some "model") (.int 1) false]).nodeIds.Nodup ∧
      (textSeedNode [.ofName (some "model") (.int 1) false]).SeedAt 0 "seed" (.str "abc") ∧
      (textSeedGraph [.ofName (some "model") (.int 1) false]).compile.FlagsSeed "1" 0 := by
  have hnodup : (textSeedGraph [.ofName (some "model") (.int 1) false]).nodeIds.Nodup := by
    decide
  have hbound : ∀ (index : Nat) (slot : InputSlot),
      (textSeedNode [.ofName (some "model") (.int 1) false]).inputs[index]? = some slot →
        slot.isBound = true := by
    intro index slot hslot
    rw [List.mem_singleton.mp (List.mem_of_getElem? hslot)]
    rfl
  have hseed := seedAt_textSeedNode [.ofName (some "model") (.int 1) false]
  have hflags := (flags_seeds (textSeedGraph [.ofName (some "model") (.int 1) false])).2 hnodup
    (textSeedNode [.ofName (some "model") (.int 1) false]) List.mem_cons_self 0 "seed"
    (.str "abc") hseed
  exact ⟨hnodup, hseed, (hflags.2 fun index slot hslot => .inl (hbound index slot hslot)).mpr rfl⟩

/-- If the sampler declares its seed as a slot, nothing is flagged, though the seed is a text and
would be flagged without the slot. -/
theorem claimed_seed_not_flagged :
    (∀ slots, (textSeedNode slots).SeedAt 0 "seed" (.str "abc")) ∧
      isIntegerValue (.str "abc") = false ∧
      (textSeedGraph []).compile.FlagsSeed "1" 0 ∧
      (textSeedGraph [.ofName (some "seed") .null true]).compile.warnings = [] ∧
      ¬ (textSeedGraph [.ofName (some "seed") .null true]).compile.FlagsSeed "1" 0 := by
  have hnone : (textSeedGraph [.ofName (some "seed") .null true]).compile.warnings = [] := by
    decide +kernel
  refine ⟨seedAt_textSeedNode, rfl, ⟨"KSampler", "seed", .str "abc", by decide +kernel⟩, hnone, ?_⟩
  rintro ⟨kind, name, value, hflagged⟩
  rw [hnone] at hflagged
  cases hflagged

end Graph

end RenderRelay
