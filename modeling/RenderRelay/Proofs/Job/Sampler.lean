import RenderRelay.Proofs.Job.Declared
import RenderRelay.Proofs.Job.Rewritten

/-! # Seed and steps in the job

Seed and steps are injected by position, before a graph is compiled, and show by name, in its job.
If the declared slots of well-known nodes are bound, compiling an injected graph is compiling the
graph and then replacing plain inputs by their names (`Graph.compile_injectSampler`).

* `sampledInputs` replaces plain inputs by name; it goes through every write
  (`sampledInputs_putNew`).
* `placedFrom_overwriteSampler`: injection replaces the values at the positions of these names.
* Each pass commutes with the two: the table's pass turns positions into names
  (`takeTable_sampled`), the others write under names that no number goes to
  (`samplerValue_of_not_apart`).
* `Node.HasSamplerPlace` tells the nodes that are written to (`samplerChange_isSome_iff`). -/

namespace RenderRelay

open RenderRelay.Graph (samplerValue overwriteSampler takesSampler)

variable {seed steps : Option Int}

/-- The value under a name, or the number that goes to the name. -/
def sampledValue (seed steps : Option Int) (name : Option String) (value : Json) : Json :=
  match samplerValue seed steps name with
  | some n => .int n
  | none => value

/-- An input under a name: a plain one is replaced by the number that goes to the name. -/
def InputValue.sampled (seed steps : Option Int) (name : String) : InputValue → InputValue
  | .scalar value => .scalar (sampledValue seed steps (some name) value)
  | .reference nodeId index => .reference nodeId index

/-- The inputs with seed and steps in place of the plain ones of their names. -/
def sampledInputs (seed steps : Option Int) (inputs : Inputs) : Inputs :=
  inputs.map fun entry => (entry.1, entry.2.sampled seed steps entry.1)

/-- The job with seed and steps in place of the plain inputs of their names, in the nodes of some
ids. -/
def Job.sampled (seed steps : Option Int) (chosen : String → Bool) (job : Job) : Job :=
  ⟨job.nodes.map fun entry => (entry.1,
    if chosen entry.1 then
      { entry.2 with inputs := sampledInputs seed steps entry.2.inputs }
    else entry.2)⟩

theorem Job.sampled_of (chosen : String → Bool) (nodes : List Node) (made : Node → JobNode) :
    (Job.of nodes made).sampled seed steps chosen = Job.of nodes fun node =>
      if chosen node.id then
        { made node with inputs := sampledInputs seed steps (made node).inputs }
      else made node := by
  unfold Job.sampled Job.of
  rw [List.map_map]
  rfl

/-! ### Inputs by name -/

theorem sampledValue_of_none {name : Option String} (h : samplerValue seed steps name = none)
    (value : Json) : sampledValue seed steps name value = value := by
  rw [sampledValue, h]

/-- Nothing goes to the names of the other passes. -/
theorem samplerValue_of_not_apart {name : String} (h : ¬ Apart name) :
    samplerValue seed steps (some name) = none := by
  cases hvalue : samplerValue seed steps (some name) with
  | none => rfl
  | some n => exact absurd (apart_of_samplerValue hvalue) h

theorem has_sampledInputs (seed steps : Option Int) (inputs : Inputs) (name : String) :
    (sampledInputs seed steps inputs).has name = inputs.has name := by
  have hkeys : (sampledInputs seed steps inputs).keys = inputs.keys := by
    unfold sampledInputs Entries.keys
    rw [List.map_map]
    rfl
  rw [Bool.eq_iff_iff, Entries.has_iff_mem_keys, Entries.has_iff_mem_keys, hkeys]

theorem sampledInputs_putNew (inputs : Inputs) (name : String) (value : InputValue) :
    sampledInputs seed steps (inputs.putNew name value) =
      (sampledInputs seed steps inputs).putNew name (value.sampled seed steps name) := by
  have hhas := has_sampledInputs seed steps inputs name
  cases h : inputs.has name with
  | true => rw [Entries.putNew_of_has h, Entries.putNew_of_has (hhas.trans h)]
  | false =>
      rw [Entries.putNew_of_not_has h, Entries.putNew_of_not_has (hhas.trans h)]
      unfold sampledInputs
      rw [List.map_append]
      rfl

/-- A write under a name that nothing goes to. -/
theorem sampledInputs_putNew_of_not_apart {name : String} (h : ¬ Apart name) (inputs : Inputs)
    (value : Json) :
    sampledInputs seed steps (inputs.putNew name (.scalar value)) =
      (sampledInputs seed steps inputs).putNew name (.scalar value) := by
  rw [sampledInputs_putNew, InputValue.sampled,
    sampledValue_of_none (samplerValue_of_not_apart h)]

/-- References stay. -/
theorem sampledInputs_of_references {inputs : Inputs}
    (h : ∀ name value, (name, value) ∈ inputs → ∃ link : Link, value = link.reference) :
    sampledInputs seed steps inputs = inputs := by
  unfold sampledInputs
  refine (List.map_congr_left fun entry hentry => ?_).trans (List.map_id inputs)
  obtain ⟨name, value⟩ := entry
  obtain ⟨link, rfl⟩ := h name value hentry
  rfl

/-! ### Values by position -/

/-- A value at a position, or the number that goes to the table's name for the position. -/
def sampledPlace (seed steps : Option Int) (table : WidgetNames) (placed : PlacedValue) :
    PlacedValue :=
  (placed.1, sampledValue seed steps (Taking.nameAt? table placed.1) placed.2)

theorem getElem?_placedFrom (values : List Json) : ∀ start i : Nat,
    (placedFrom start values)[i]? = values[i]?.map fun value => (start + i, value) := by
  induction values with
  | nil => exact fun _ _ => rfl
  | cons value values ih =>
      intro start i
      cases i with
      | zero => rfl
      | succ i =>
          rw [placedFrom, List.getElem?_cons_succ, List.getElem?_cons_succ, ih, Nat.add_assoc,
            Nat.add_comm 1 i]

theorem placedFrom_overwriteSampler (seed steps : Option Int) (table : WidgetNames)
    (values : List Json) :
    placedFrom 0 (overwriteSampler seed steps table values) =
      (placedFrom 0 values).map (sampledPlace seed steps table) := by
  apply List.ext_getElem?
  intro i
  rw [List.getElem?_map, getElem?_placedFrom, getElem?_placedFrom,
    Graph.getElem?_overwriteSampler, Option.map_map, Option.map_map]
  refine congrArg (fun place => Option.map place values[i]?) (funext fun value => ?_)
  rw [Function.comp_apply, Function.comp_apply, sampledPlace, Nat.zero_add]
  rfl

theorem length_overwriteSampler (table : WidgetNames) (values : List Json) :
    (overwriteSampler seed steps table values).length = values.length := by
  have hlength := congrArg List.length (placedFrom_overwriteSampler seed steps table values)
  have hpositions : ∀ values : List Json, (placedFrom 0 values).length = values.length := by
    intro values
    rw [← List.length_map (f := Prod.fst), positions_placedFrom, List.length_range']
  rwa [List.length_map, hpositions, hpositions] at hlength

/-! ### The passes -/

namespace Taking

/-- What a node took, with seed and steps among its inputs. -/
def sampled (seed steps : Option Int) (taking : Taking) : Taking :=
  ⟨sampledInputs seed steps taking.inputs, taking.free⟩

theorem putNamed_sampled (table : WidgetNames) (inputs : Inputs) (placed : PlacedValue) :
    putNamed table (sampledInputs seed steps inputs) (sampledPlace seed steps table placed) =
      sampledInputs seed steps (putNamed table inputs placed) := by
  unfold putNamed sampledPlace
  dsimp only
  cases nameAt? table placed.1 with
  | none => rfl
  | some name =>
      dsimp only
      rw [sampledInputs_putNew]
      rfl

/-- The table's pass reads positions and writes names. -/
theorem takeTable_sampled (table : WidgetNames) (inputs : Inputs) (free : List PlacedValue) :
    takeTable table ⟨sampledInputs seed steps inputs,
        free.map (sampledPlace seed steps table)⟩ =
      (takeTable table ⟨inputs, free⟩).sampled seed steps := by
  have hbehind : ∀ placed : PlacedValue, table.length ≤ placed.1 →
      sampledPlace seed steps table placed = placed := by
    intro placed hle
    have hname : nameAt? table placed.1 = none := by
      rw [nameAt?, List.getElem?_eq_none hle]
      rfl
    unfold sampledPlace
    rw [hname, sampledValue_of_none rfl]
  have hfree : (free.filter fun placed => table.length ≤ placed.1).map
      (sampledPlace seed steps table) = free.filter fun placed => table.length ≤ placed.1 := by
    refine (List.map_congr_left fun placed hplaced => ?_).trans (List.map_id _)
    exact hbehind placed (of_decide_eq_true (List.mem_filter.mp hplaced).2)
  unfold takeTable sampled
  dsimp only
  rw [List.filter_map, List.filter_map, List.foldl_map]
  refine congrArg₂ Taking.mk ?_ hfree
  exact List.foldl_hom (sampledInputs seed steps) (putNamed_sampled table)

theorem takeText_sampled (taking : Taking) :
    (taking.sampled seed steps).takeText = taking.takeText.sampled seed steps := by
  obtain ⟨inputs, free⟩ := taking
  unfold takeText sampled
  dsimp only
  rw [has_sampledInputs]
  split_ifs with htext
  · rfl
  · cases free with
    | nil => rfl
    | cons placed free =>
        dsimp only
        rw [sampledInputs_putNew_of_not_apart fun hapart => hapart.text rfl]

theorem takeRest_sampled (taking : Taking) :
    (taking.sampled seed steps).takeRest = sampledInputs seed steps taking.takeRest := by
  unfold takeRest sampled
  refine List.foldl_hom (sampledInputs seed steps) fun inputs placed => ?_
  dsimp only
  rw [sampledInputs_putNew_of_not_apart fun hapart => hapart.rest _ rfl]

end Taking

namespace Node

variable {node : Node} {table : WidgetNames} {values : List Json} {inputs : Inputs}

theorem withFilePrefix_sampled (node : Node) (inputs : Inputs) :
    node.withFilePrefix (sampledInputs seed steps inputs) =
      sampledInputs seed steps (node.withFilePrefix inputs) := by
  unfold withFilePrefix
  split_ifs
  · rw [sampledInputs_putNew_of_not_apart fun hapart => hapart.filePrefix rfl]
  · rfl

/-- Bound slots leave all values to the table. -/
theorem tabled_of_bound (htable : widgetNames? node.kind = some table)
    (hbound : ∀ slot ∈ node.inputs, slot.isBound = true) (values : List Json) (inputs : Inputs) :
    node.tabled values inputs = (unclaimed values inputs).takeTable table := by
  unfold tabled slotted
  rw [htable, Taking.takeSlots_of_bound _ hbound]

/-- A node without unbound slots: what is written by position comes out by name. -/
theorem resolve_overwritten (htable : widgetNames? node.kind = some table)
    (hlisted : node.widgets = .listed values)
    (hbound : ∀ slot ∈ node.inputs, slot.isBound = true)
    (hlinks : sampledInputs seed steps inputs = inputs) :
    ((node.overwritten seed steps table values).resolve inputs).1 =
      sampledInputs seed steps (node.resolve inputs).1 := by
  have htabled : (node.overwritten seed steps table values).tabled
      (overwriteSampler seed steps table values) inputs =
        (node.tabled values inputs).sampled seed steps := by
    have hafter : ∀ values', (node.overwritten seed steps table values).tabled values' inputs =
        (unclaimed values' inputs).takeTable table := fun values' =>
      tabled_of_bound htable hbound values' inputs
    rw [hafter, tabled_of_bound htable hbound]
    unfold unclaimed
    rw [placedFrom_overwriteSampler, ← Taking.takeTable_sampled, hlinks]
  have htexted : (node.overwritten seed steps table values).texted
      (overwriteSampler seed steps table values) inputs =
        (node.texted values inputs).sampled seed steps := by
    unfold texted
    rw [htabled]
    change (if isPromptKind node.kindLower then _ else _) = _
    split_ifs
    · exact Taking.takeText_sampled _
    · rfl
  have hwidgets : ((node.overwritten seed steps table values).resolveWidgets inputs).1 =
      sampledInputs seed steps (node.resolveWidgets inputs).1 := by
    unfold resolveWidgets
    rw [hlisted]
    dsimp only [overwritten]
    rw [resolveListed_fst, resolveListed_fst, ← Taking.takeRest_sampled, ← htexted]
    rfl
  unfold resolve
  dsimp only
  rw [hwidgets]
  exact node.withFilePrefix_sampled _

/-! ### The nodes that are written to -/

/-- The table calls a position that the values of the node reach by a name to which a given number
goes. -/
def HasSamplerPlace (seed steps : Option Int) (node : Node) : Prop :=
  ∃ table values position name, widgetNames? node.kind = some table ∧
    node.widgets = .listed values ∧ position < values.length ∧
      table[position]? = some (some name) ∧ (samplerValue seed steps (some name)).isSome = true

theorem takesSampler_iff : ∀ (table : WidgetNames) (values : List Json),
    takesSampler seed steps table values = true ↔ ∃ position name, position < values.length ∧
      table[position]? = some (some name) ∧
        (samplerValue seed steps (some name)).isSome = true := by
  intro table
  induction table with
  | nil =>
      intro values
      simp [takesSampler]
  | cons first table ih =>
      intro values
      cases values with
      | nil => simp [takesSampler]
      | cons value values =>
          rw [takesSampler, Bool.or_eq_true, ih]
          constructor
          · rintro (hfirst | ⟨position, name, hlt, hname, hvalue⟩)
            · cases first with
              | none => cases hfirst
              | some name => exact ⟨0, name, Nat.succ_pos _, rfl, hfirst⟩
            · exact ⟨position + 1, name, Nat.succ_lt_succ hlt, hname, hvalue⟩
          · rintro ⟨position, name, hlt, hname, hvalue⟩
            cases position with
            | zero =>
                rw [List.getElem?_cons_zero, Option.some.injEq] at hname
                rw [hname]
                exact Or.inl hvalue
            | succ position =>
                exact Or.inr ⟨position, name, Nat.lt_of_succ_lt_succ hlt, hname, hvalue⟩

theorem samplerChange_isSome_iff :
    (node.samplerChange seed steps).isSome = true ↔ node.HasSamplerPlace seed steps := by
  constructor
  · intro hsome
    cases htabled : node.isTabled with
    | false =>
        rw [samplerChange_of_not_tabled htabled] at hsome
        cases hsome
    | true =>
        obtain ⟨table, values, htable, hlisted⟩ := isTabled_iff.mp htabled
        rw [samplerChange_of_tabled htable hlisted] at hsome
        split_ifs at hsome with htakes
        · obtain ⟨position, name, hplace⟩ := (takesSampler_iff table values).mp htakes
          exact ⟨table, values, position, name, htable, hlisted, hplace⟩
        · cases hsome
  · rintro ⟨table, values, position, name, htable, hlisted, hplace⟩
    rw [samplerChange_of_tabled htable hlisted,
      if_pos ((takesSampler_iff table values).mpr ⟨position, name, hplace⟩)]
    rfl

instance (seed steps : Option Int) (node : Node) : Decidable (node.HasSamplerPlace seed steps) :=
  decidable_of_iff _ samplerChange_isSome_iff

end Node

/-- The same named values, or as many listed ones. -/
inductive Widgets.Alike : Widgets → Widgets → Prop where
  | listed {values others : List Json} (hlength : values.length = others.length) :
      Alike (.listed values) (.listed others)
  | named (fields : Fields) : Alike (.named fields) (.named fields)

theorem Widgets.Alike.refl (widgets : Widgets) : widgets.Alike widgets := by
  cases widgets with
  | listed values => exact .listed rfl
  | named fields => exact .named fields

/-- The second node is the first with such widget values. -/
structure Node.Alike (node changed : Node) : Prop where
  widgets : node.widgets.Alike changed.widgets
  rest : changed = { node with widgets := changed.widgets }

theorem Node.alike_after (seed steps : Option Int) (node : Node) :
    node.Alike (node.after (samplerChange seed steps)) := by
  obtain ⟨-, hafter⟩ | ⟨table, values, -, hlisted, hafter⟩ :=
    node.after_samplerChange_cases seed steps
  · rw [hafter]
    exact ⟨.refl _, rfl⟩
  · rw [hafter]
    refine ⟨?_, rfl⟩
    rw [hlisted]
    exact .listed (length_overwriteSampler table values).symm

namespace Graph

/-- **Writing seed and steps by position is replacing them by name.**  If the declared slots of
well-known nodes are bound, the job of the injected graph is that of the graph with the numbers in
place of the plain inputs of their names, in well-known nodes that list their widget values.  The
nodes keep everything else, and the number of their values; and the nodes are counted that have a
position for a given number. -/
theorem compile_injectSampler {graph : Graph} (h : graph.nodeIds.Nodup)
    (hbound : ∀ node ∈ graph.nodes, (widgetNames? node.kind).isSome = true →
      ∀ slot ∈ node.inputs, slot.isBound = true) (seed steps : Option Int) :
    (graph.injectSampler seed steps).1.compile.job =
        graph.compile.job.sampled seed steps (fun id => (graph.lastNode? id).any Node.isTabled) ∧
      (graph.injectSampler seed steps).1.links = graph.links ∧
      List.Forall₂ Node.Alike graph.nodes (graph.injectSampler seed steps).1.nodes ∧
      (graph.injectSampler seed steps).2 =
        graph.nodes.countP fun node => node.HasSamplerPlace seed steps := by
  rw [injectSampler_eq]
  refine ⟨?_, rfl, ?_, ?_⟩
  · rw [job_changeNodes h (Node.onlyWidgets_samplerChange seed steps), job_compile h,
      Job.sampled_of]
    refine Job.of_congr fun node hnode => ?_
    rw [lastNode?_of_mem h hnode, Option.any_some]
    split_ifs with htabled
    · obtain ⟨table, values, htable, hlisted⟩ := Node.isTabled_iff.mp htabled
      have hlinks : sampledInputs seed steps (graph.linkInputs node) = graph.linkInputs node := by
        refine sampledInputs_of_references fun name value hmem => ?_
        obtain ⟨link, -, -, hreference⟩ := (wired_linkInputs h hnode).mem name value hmem
        exact ⟨link, hreference⟩
      rw [Node.after_samplerChange htable hlisted, Node.resolve_overwritten htable hlisted
        (hbound node hnode (Option.isSome_of_eq_some htable)) hlinks]
    · rw [Node.after_of_none (Node.samplerChange_of_not_tabled (Bool.eq_false_iff.mpr htabled))]
  · rw [nodes_changeNodes, List.forall₂_map_right_iff, List.forall₂_same]
    exact fun node _ => node.alike_after seed steps
  · refine List.countP_congr fun node _ => ?_
    rw [Node.samplerChange_isSome_iff, decide_eq_true_iff]

/-- A sampler whose seed comes by a link, one whose values end behind the seed, noise with named
values, and a node of another kind. -/
def seeded : Graph :=
  ⟨[⟨"1", some "PrimitiveNode", none, [], .listed [.int 3]⟩,
      ⟨"2", some "KSampler", none, [.ofName (some "seed") (.int 11) true],
        .listed [.int 7, .str "fixed", .int 20]⟩,
      ⟨"3", some "ksampler", none, [], .listed [.int 5]⟩,
      ⟨"4", some "RandomNoise", none, [], .named [("noise_seed", .int 4)]⟩],
    [⟨.int 11, "1", 0, "2", 0⟩]⟩

/-- The link stays, and so do the named value and that of the other kind. -/
theorem compile_injectSampler_seeded :
    seeded.nodeIds.Nodup ∧
      (∀ node ∈ seeded.nodes, (widgetNames? node.kind).isSome = true →
        ∀ slot ∈ node.inputs, slot.isBound = true) ∧
      (seeded.injectSampler (some 42) (some 8)).1.compile.job =
        seeded.compile.job.sampled (some 42) (some 8)
          (fun id => (seeded.lastNode? id).any Node.isTabled) ∧
      (seeded.injectSampler (some 42) (some 8)).1.compile.job =
        ⟨[("1", ⟨"PrimitiveNode", [("value0", .scalar (.int 3))]⟩),
          ("2", ⟨"KSampler", [("seed", .reference "1" 0), ("steps", .scalar (.int 8))]⟩),
          ("3", ⟨"ksampler", [("seed", .scalar (.int 42))]⟩),
          ("4", ⟨"RandomNoise", [("noise_seed", .scalar (.int 4))]⟩)]⟩ ∧
      (seeded.injectSampler (some 42) (some 8)).2 = 2 :=
  have hnodup : seeded.nodeIds.Nodup := by decide
  have hbound : ∀ node ∈ seeded.nodes, (widgetNames? node.kind).isSome = true →
      ∀ slot ∈ node.inputs, slot.isBound = true := by decide +kernel
  ⟨hnodup, hbound, (compile_injectSampler hnodup hbound (some 42) (some 8)).1,
    by decide +kernel, by decide +kernel⟩

end Graph

end RenderRelay
