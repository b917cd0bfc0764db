import RenderRelay.Proofs.Job.Declared

/-! # Declared slots behind linked ones

A slot that a link has takes no widget value, so each unbound slot behind it takes the value of an
earlier position.

* `slotPositions`: the positions that slots take one after another, whatever values stand there.
  `map_claims` says that the unlinked slots take these, `slotPositions_lt` that there are enough.
* `exists_own_position`: a slot that no linked one stands before takes the table's own position.
* `Graph.compile_shifted` puts together what becomes of the slots of a table's names in a job. -/

namespace RenderRelay

open WidgetNames (next aligned_next exists_name)

/-- The positions that slots of these names take one after another, from this one on: each the next
one, behind a seed slot and its control choice the one after. -/
def slotPositions (values : List Json) : (position : Nat) → List String → List Nat
  | _, [] => []
  | position, name :: names =>
      position :: slotPositions values (Taking.behind values name position) names

/-- The names that have no input yet. -/
def Entries.lacking {α : Type} (entries : Entries α) (names : List String) : List String :=
  names.filter fun name => !entries.has name

variable {table : WidgetNames} {values : List Json} {inputs : Inputs} {name : String}

/-! ### The names without inputs -/

theorem lacking_cons_of_has (h : inputs.has name = true) (names : List String) :
    inputs.lacking (name :: names) = inputs.lacking names :=
  List.filter_cons_of_neg (by simp [h])

theorem lacking_cons_of_not_has (h : inputs.has name = false) (names : List String) :
    inputs.lacking (name :: names) = name :: inputs.lacking names :=
  List.filter_cons_of_pos (by simp [h])

/-- An input of another name changes nothing. -/
theorem lacking_putNew {names : List String} (h : name ∉ names) (value : InputValue) :
    (inputs.putNew name value).lacking names = inputs.lacking names := by
  refine List.filter_congr fun other hother => ?_
  have hne : other ≠ name := fun heq => h (heq ▸ hother)
  rw [Entries.has_putNew, decide_eq_false hne, Bool.or_false]

/-- The bound slots have names, and the inputs of these names are set. -/
def BoundSet (slots : List InputSlot) (inputs : Inputs) : Prop :=
  ∀ slot ∈ slots, slot.isBound = true → ∃ name, slot.name = some name ∧ inputs.has name = true

theorem BoundSet.tail {slot : InputSlot} {slots : List InputSlot}
    (h : BoundSet (slot :: slots) inputs) : BoundSet slots inputs :=
  fun other hother => h other (List.mem_cons_of_mem slot hother)

theorem BoundSet.putNew {slots : List InputSlot} (h : BoundSet slots inputs) (name : String)
    (value : InputValue) : BoundSet slots (inputs.putNew name value) := by
  intro slot hslot hbound
  obtain ⟨other, hother, hset⟩ := h slot hslot hbound
  refine ⟨other, hother, ?_⟩
  rw [Entries.has_putNew, hset, Bool.true_or]

theorem BoundSet.isBound_eq_false {slot : InputSlot} {slots : List InputSlot}
    (h : BoundSet (slot :: slots) inputs) (hname : slot.name = some name)
    (hhas : inputs.has name = false) : slot.isBound = false := by
  rw [← Bool.not_eq_true]
  intro hbound
  obtain ⟨other, hother, hset⟩ := h slot List.mem_cons_self hbound
  rw [hname, Option.some.injEq] at hother
  rw [← hother, hhas] at hset
  cases hset

/-! ### The positions that slots take -/

theorem behind_le (values : List Json) (name : String) (position : Nat) :
    Taking.behind values name position ≤ next name position := by
  unfold Taking.behind next
  cases isSeedName name <;> cases Taking.controlAt values (position + 1) <;> simp

theorem length_slotPositions (values : List Json) (position : Nat) (names : List String) :
    (slotPositions values position names).length = names.length := by
  induction names generalizing position with
  | nil => rfl
  | cons name names ih => rw [slotPositions, List.length_cons, List.length_cons, ih]

/-- Behind a seed of the table stands a control choice, if there are enough values. -/
theorem behind_eq_next (hcontrolled : table.Controlled values)
    (hlength : values.length = table.length) {position : Nat}
    (hname : table[position]? = some (some name))
    (haligned : WidgetNames.aligned (table.drop position) = true) :
    Taking.behind values name position = next name position := by
  obtain ⟨-, -, hnone⟩ := aligned_next haligned hname
  unfold Taking.behind Taking.controlAt next
  cases hseed : isSeedName name with
  | false => rfl
  | true =>
      obtain ⟨hlt, -⟩ := List.getElem?_eq_some_iff.mp (hnone hseed)
      rw [← hlength] at hlt
      have hvalue := List.getElem?_eq_getElem hlt
      rw [hvalue, Option.any_some, hcontrolled position name _ hname hseed hvalue]
      rfl

/-- Slots of some names of the table, in its order, take positions that the table reaches. -/
theorem slotPositions_lt (values : List Json) (position : Nat)
    (haligned : WidgetNames.aligned (table.drop position) = true) :
    ∀ (start : Nat) (names : List String), start ≤ position →
      names.Sublist (table.drop position).reduceOption →
      ∀ taken ∈ slotPositions values start names, taken < table.length := by
  induction position, haligned using WidgetNames.aligned_induction with
  | last position _ hnil =>
      intro start names _ hsublist
      rw [hnil] at hsublist
      cases List.sublist_nil.mp hsublist
      exact fun _ h => absurd h List.not_mem_nil
  | step position haligned name hname ih =>
      intro start names hstart hsublist
      obtain ⟨hlt, -⟩ := List.getElem?_eq_some_iff.mp hname
      have hnext := WidgetNames.lt_next name position
      rw [(aligned_next haligned hname).2.1] at hsublist
      cases hsublist with
      | cons _ hsublist => exact ih start names (by omega) hsublist
      | cons_cons _ hsublist =>
          refine List.forall_mem_cons.mpr ⟨by omega, ih _ _ ?_ hsublist⟩
          refine (behind_le values name start).trans ?_
          unfold next
          split_ifs <;> omega

/-- A name takes the table's own position if all names up to it take positions. -/
theorem exists_own_position (hcontrolled : table.Controlled values)
    (hlength : values.length = table.length) (inputs : Inputs) {own : Nat}
    (hown : table[own]? = some (some name)) (position : Nat)
    (haligned : WidgetNames.aligned (table.drop position) = true) :
    position ≤ own →
    (∀ before other, position ≤ before → before ≤ own → table[before]? = some (some other) →
      inputs.has other = false) →
    ∃ i : Nat, (inputs.lacking (table.drop position).reduceOption)[i]? = some name ∧
      (slotPositions values position (inputs.lacking (table.drop position).reduceOption))[i]? =
        some own := by
  induction position, haligned using WidgetNames.aligned_induction with
  | last position _ hnil =>
      intro hle _
      have hmem : name ∈ (table.drop position).reduceOption := by
        rw [List.reduceOption_mem_iff]
        refine List.mem_of_getElem? (i := own - position) ?_
        rw [List.getElem?_drop, Nat.add_sub_cancel' hle, hown]
      rw [hnil] at hmem
      cases hmem
  | step position haligned first hfirst ih =>
      intro hle hlacks
      obtain ⟨-, hnames, hnone⟩ := aligned_next haligned hfirst
      have hhas := hlacks position first (Nat.le_refl _) hle hfirst
      rw [hnames, lacking_cons_of_not_has hhas, slotPositions,
        behind_eq_next hcontrolled hlength hfirst haligned]
      obtain rfl | hlt := Nat.eq_or_lt_of_le hle
      · rw [hfirst] at hown
        cases hown
        exact ⟨0, rfl, rfl⟩
      · have hle' : next first position ≤ own := by
          unfold next
          split_ifs with hseed
          · -- the position behind a seed has no name, so it is not the one looked for
            refine Nat.lt_of_le_of_ne hlt ?_
            rintro rfl
            rw [hnone hseed] at hown
            cases hown
          · exact hlt
        have hnext := WidgetNames.lt_next first position
        obtain ⟨i, hname, htaken⟩ := ih hle' fun before other hbefore =>
          hlacks before other (hnext.le.trans hbefore)
        exact ⟨i + 1, hname, htaken⟩

/-! ### What the slots take -/

namespace Taking

/-- The slots of these names that are not linked take their positions one after another. -/
theorem map_claims (values : List Json) (slots : List InputSlot) :
    ∀ (index position : Nat) (inputs : Inputs) (names : List String),
      slots.map InputSlot.name = names.map some → names.Nodup →
      BoundSet slots inputs →
      (∀ taken ∈ slotPositions values position (inputs.lacking names), taken < values.length) →
      (claims index slots ⟨inputs, placedFrom position (values.drop position)⟩).map
          (fun claim => (claim.1, claim.2.1)) =
        (inputs.lacking names).zip (slotPositions values position (inputs.lacking names)) := by
  induction slots with
  | nil =>
      intro index position inputs names hnames _ _ _
      cases List.map_eq_nil_iff.mp hnames.symm
      rfl
  | cons slot slots ih =>
      intro index position inputs names hnames hnodup hbound henough
      cases names with
      | nil => cases hnames
      | cons name names =>
          obtain ⟨hslot, hnames⟩ := List.cons.inj hnames
          obtain ⟨hnot, hnodup⟩ := List.nodup_cons.mp hnodup
          have hat : slot.nameAt index = name := by
            rw [InputSlot.nameAt, hslot, Option.getD_some]
          cases hhas : inputs.has name with
          | true =>
              rw [lacking_cons_of_has hhas] at henough ⊢
              rw [claims, hat, hhas, Bool.or_true, if_pos rfl]
              exact ih _ _ _ _ hnames hnodup hbound.tail henough
          | false =>
              rw [lacking_cons_of_not_has hhas, slotPositions] at henough ⊢
              obtain ⟨hvalue, henough⟩ := List.forall_mem_cons.mp henough
              rw [claims, hbound.isBound_eq_false hslot hhas, hat, hhas, Bool.or_false,
                if_neg Bool.false_ne_true, List.drop_eq_getElem_cons hvalue, placedFrom]
              dsimp only
              rw [free_behind, List.map_cons, List.zip_cons_cons]
              have hmore := ih (index + 1) (behind values name position)
                (inputs.putNew name (.scalar values[position])) names hnames hnodup
                (hbound.tail.putNew _ _)
              rw [lacking_putNew hnot] at hmore
              rw [hmore henough]

/-- A slot that is not linked gives its name the value at its position. -/
theorem lookup_takeSlots {slots : List InputSlot} {names : List String}
    (hnames : slots.map InputSlot.name = names.map some) (hnodup : names.Nodup)
    (hbound : BoundSet slots inputs)
    (henough : ∀ taken ∈ slotPositions values 0 (inputs.lacking names), taken < values.length)
    {i position : Nat} (hname : (inputs.lacking names)[i]? = some name)
    (hposition : (slotPositions values 0 (inputs.lacking names))[i]? = some position) :
    ∃ value, values[position]? = some value ∧
      (takeSlots 0 slots ⟨inputs, placedFrom 0 values⟩).inputs.lookup name =
        some (.scalar value) := by
  have hclaims := map_claims values slots 0 0 inputs names hnames hnodup hbound henough
  rw [List.drop_zero] at hclaims
  have hlacks : inputs.lookup name = none := by
    have hhas := (List.mem_filter.mp (List.mem_of_getElem? hname)).2
    unfold Entries.has at hhas
    simpa using hhas
  have hmem : (name, position) ∈ (claims 0 slots ⟨inputs, placedFrom 0 values⟩).map
      fun claim => (claim.1, claim.2.1) := by
    rw [hclaims]
    refine List.mem_of_getElem? (i := i) ?_
    rw [List.getElem?_zip_eq_some]
    exact ⟨hname, hposition⟩
  obtain ⟨⟨_, _, value⟩, hclaim, heq⟩ := List.mem_map.mp hmem
  obtain ⟨rfl, rfl⟩ := Prod.mk.inj heq
  refine ⟨value, (mem_placedFrom ((takeSlots_subset slots 0 _).2 _ hclaim)).2, ?_⟩
  have hkeys : Entries.keys ((claims 0 slots ⟨inputs, placedFrom 0 values⟩).map fun claim =>
      (claim.1, InputValue.scalar claim.2.2)) = inputs.lacking names := by
    have hfst := congrArg (List.map Prod.fst) hclaims
    rw [List.map_map, List.map_fst_zip (length_slotPositions values 0 _).ge] at hfst
    unfold Entries.keys
    rw [List.map_map]
    exact hfst
  rw [inputs_takeSlots, List.lookup_append, hlacks, Option.none_or]
  refine Entries.lookup_of_mem ?_ (List.mem_map_of_mem hclaim)
  rw [hkeys]
  exact hnodup.filter _

end Taking

namespace Graph

variable {graph : Graph} {node : Node}

theorem addsScalars_resolved (node : Node) (made : JobNode) :
    AddsScalars (node.resolveWidgets made.inputs).1 (node.resolved made).inputs := by
  unfold Node.resolved Node.resolve
  dsimp only
  exact node.addsScalars_withFilePrefix _

theorem addsScalars_foldl_resolved (nodes : List Node) : ∀ made : JobNode,
    AddsScalars made.inputs (nodes.foldl (fun made node => node.resolved made) made).inputs := by
  induction nodes with
  | nil => exact fun _ => AddsScalars.refl _
  | cons node nodes ih =>
      intro made
      rw [List.foldl_cons]
      have hnode : AddsScalars made.inputs (node.resolved made).inputs := by
        unfold Node.resolved
        dsimp only
        exact node.addsScalars_resolve made.inputs
      exact hnode.trans (ih (node.resolved made))

/-- The first node of an id resolves its widget values beside the links of the id; the nodes of the
id behind it only add to that. -/
theorem node?_compile_first (hfirst : (graph.nodesOf node.id).head? = some node) :
    ∃ wired made, Wired graph graph.links node.id wired ∧
      graph.compile.job.node? node.id = some made ∧
      AddsScalars (node.resolveWidgets wired).1 made.inputs := by
  obtain ⟨others, hnodes⟩ := List.head?_eq_some_iff.mp hfirst
  have hnode : node ∈ graph.nodes := by
    refine List.mem_of_mem_filter (p := fun other => other.id = node.id) ?_
    unfold nodesOf at hnodes
    rw [hnodes]
    exact List.mem_cons_self
  obtain ⟨last, hlast⟩ := Option.isSome_iff_exists.mp
    (lastNode?_isSome_iff.mpr (List.mem_map_of_mem hnode))
  have hid : last.id = node.id := by simpa using List.find?_some hlast
  have hbase : (graph.wireLinks graph.placeNodes).node? node.id =
      some ⟨kindOrUnknown last.kind, last.wire graph.nodeIds (graph.linksInto last.id) []⟩ := by
    unfold wireLinks
    rw [node?_foldl_wireLink hlast, node?_placeNodes, hlast]
    unfold linksInto
    rw [hid]
    rfl
  refine ⟨_, graph.madeFrom last (graph.nodesOf node.id),
    graph.covers_wireLinks.inputs _ _ (Entries.mem_of_lookup hbase), ?_, ?_⟩
  · rw [node?_compile_eq, hlast]
    rfl
  · unfold madeFrom
    rw [hnodes, List.foldl_cons]
    have hnode := addsScalars_resolved node
      ⟨kindOrUnknown last.kind, last.wire graph.nodeIds (graph.linksInto last.id) []⟩
    exact hnode.trans (addsScalars_foldl_resolved others (node.resolved _))

/-- The passes behind that of the slots only add. -/
theorem addsScalars_slotted (node : Node) {values : List Json}
    (hlisted : node.widgets = .listed values) (inputs : Inputs) :
    AddsScalars (node.slotted values inputs).inputs (node.resolveWidgets inputs).1 :=
  ((node.addsScalars_tabled values inputs).trans (node.addsScalars_texted values inputs)).trans
    (node.addsScalars_resolveWidgets values inputs hlisted)

/-- The names of which no link of the graph hits the input. -/
def unlinked (graph : Graph) (id : String) (names : List String) : List String :=
  names.filter fun name => (graph.firstHit? id name).isNone

theorem Wired.lacking {id : String} (h : Wired graph graph.links id inputs) (names : List String) :
    inputs.lacking names = graph.unlinked id names := by
  refine List.filter_congr fun name _ => ?_
  unfold Entries.has
  rw [h.lookup, Option.isSome_map]
  exact Option.not_isSome _

/-- What becomes of slots of the table's names: a linked one keeps the reference of the first link;
the others take the values at their positions, one after another; and a slot that no linked one
stands before takes the value at the table's own position. -/
structure Shifted (graph : Graph) (id : String) (table : WidgetNames) (values : List Json)
    (inputs : Inputs) : Prop where
  linked : ∀ name link, graph.firstHit? id name = some link →
    inputs.get? name = some link.reference
  unlinked : ∀ (i : Nat) name, (graph.unlinked id table.reduceOption)[i]? = some name →
    ∃ position value,
      (slotPositions values 0 (graph.unlinked id table.reduceOption))[i]? = some position ∧
        values[position]? = some value ∧ inputs.get? name = some (.scalar value)
  own : ∀ (position : Nat) name, table[position]? = some (some name) →
    (∀ (before : Nat) other, before ≤ position → table[before]? = some (some other) →
      graph.firstHit? id other = none) →
    ∃ value, values[position]? = some value ∧ inputs.get? name = some (.scalar value)

/-- **A linked slot takes no value.**  A node that declares a slot for each name of its table, some
of them linked and the rest unbound, and has as many values as the table, compiles to these
inputs. -/
theorem compile_shifted {table : WidgetNames} {values : List Json}
    (hfirst : (graph.nodesOf node.id).head? = some node)
    (htable : widgetNames? node.kind = some table) (hlisted : node.widgets = .listed values)
    (hlength : values.length = table.length) (hcontrolled : table.Controlled values)
    (hslots : node.inputs.map InputSlot.name = table.reduceOption.map some)
    (hbound : ∀ slot ∈ node.inputs, slot.isBound = true →
      (slot.name.bind (graph.firstHit? node.id)).isSome = true) :
    ∃ made, graph.compile.job.node? node.id = some made ∧
      graph.Shifted node.id table values made.inputs := by
  obtain ⟨wired, made, hwired, hmade, hadds⟩ := node?_compile_first hfirst
  obtain ⟨haligned, hnodup⟩ := WidgetNames.aligned_widgetNames htable
  have hlacking := hwired.lacking table.reduceOption
  have hkept : BoundSet node.inputs wired := by
    intro slot hslot hslotbound
    obtain ⟨link, hlink⟩ := Option.isSome_iff_exists.mp (hbound slot hslot hslotbound)
    obtain ⟨name, hname, hfound⟩ := Option.bind_eq_some_iff.mp hlink
    refine ⟨name, hname, ?_⟩
    unfold Entries.has
    rw [hwired.lookup, Option.isSome_map]
    exact Option.isSome_of_eq_some hfound
  have henough : ∀ taken ∈ slotPositions values 0 (wired.lacking table.reduceOption),
      taken < values.length := by
    rw [hlength]
    exact slotPositions_lt values 0 haligned 0 _ (Nat.le_refl 0) List.filter_sublist
  have hslotted := (addsScalars_slotted node hlisted wired).trans hadds
  have hunlinked : ∀ (i : Nat) name position,
      (wired.lacking table.reduceOption)[i]? = some name →
      (slotPositions values 0 (wired.lacking table.reduceOption))[i]? = some position →
      ∃ value, values[position]? = some value ∧ made.inputs.get? name = some (.scalar value) := by
    intro i name position hname hposition
    obtain ⟨value, hvalue, hlookup⟩ :=
      Taking.lookup_takeSlots hslots hnodup hkept henough hname hposition
    exact ⟨value, hvalue, hslotted.lookup_eq hlookup⟩
  refine ⟨made, hmade, ?_, ?_, ?_⟩
  · intro name link hlink
    exact hslotted.lookup_eq
      ((Taking.addsScalars_takeSlots _ _ _).lookup_eq (hwired.linked.lookup name link hlink))
  · intro i name hname
    rw [← hlacking] at hname ⊢
    obtain ⟨hlt, -⟩ := List.getElem?_eq_some_iff.mp hname
    rw [← length_slotPositions values 0] at hlt
    have hposition := List.getElem?_eq_getElem hlt
    obtain ⟨value, hvalue, hget⟩ := hunlinked i name _ hname hposition
    exact ⟨_, value, hposition, hvalue, hget⟩
  · intro position name hname hbefore
    obtain ⟨i, hi, hposition⟩ := exists_own_position hcontrolled hlength wired hname 0 haligned
      (Nat.zero_le _) (by
        intro before other _ hle hother
        unfold Entries.has
        rw [hwired.lookup, Option.isSome_map]
        exact Option.isSome_eq_false_iff.mpr
          (Option.isNone_iff_eq_none.mpr (hbefore before other hle hother)))
    exact hunlinked i name position hi hposition

/-- The values of a sampler, its seed first. -/
def samplerValues : List Json :=
  [.int 7, .str "fixed", .int 20, .int 8, .str "euler", .str "normal", .int 1]

/-- A sampler with a slot for each of its values, of which a link has the one of `cfg`. -/
def linkedSampler : Node :=
  ⟨"2", some "KSampler", none,
    [.ofName (some "seed") .null true, .ofName (some "steps") .null true,
      .ofName (some "cfg") (.int 11) true, .ofName (some "sampler_name") .null true,
      .ofName (some "scheduler") .null true, .ofName (some "denoise") .null true],
    .listed samplerValues⟩

/-- The graph of the sampler and the node that the link comes from. -/
def linkedGraph : Graph :=
  ⟨[⟨"1", some "PrimitiveNode", none, [], .listed []⟩, linkedSampler],
    [⟨.int 11, "1", 0, "2", 2⟩]⟩

/-- The slots before the linked one take their own positions, those behind it one less. -/
theorem compile_shifted_linkedGraph :
    (linkedGraph.nodesOf "2").head? = some linkedSampler ∧
      widgetNames? linkedSampler.kind = some Node.samplerTable ∧
      linkedSampler.widgets = .listed samplerValues ∧
      samplerValues.length = Node.samplerTable.length ∧ Node.samplerTable.Controlled samplerValues ∧
      linkedSampler.inputs.map InputSlot.name = Node.samplerTable.reduceOption.map some ∧
      (∃ made, linkedGraph.compile.job.node? "2" = some made ∧
        linkedGraph.Shifted "2" Node.samplerTable samplerValues made.inputs) ∧
      slotPositions samplerValues 0 (linkedGraph.unlinked "2" Node.samplerTable.reduceOption) =
        [0, 2, 3, 4, 5] :=
  ⟨by decide +kernel, by decide +kernel, rfl, rfl, by decide +kernel, rfl,
    compile_shifted
      (show (linkedGraph.nodesOf linkedSampler.id).head? = some linkedSampler by decide +kernel)
      (show widgetNames? linkedSampler.kind = some Node.samplerTable by decide +kernel) rfl rfl
      (by decide +kernel) rfl (by decide +kernel),
    by decide +kernel⟩

/-- A slot behind a linked one does not get the value at the table's position of its name: no link
has `sampler_name`, at position 4, but it gets what stands at position 3. -/
theorem compile_not_own :
    widgetNames? linkedSampler.kind = some Node.samplerTable ∧
      linkedSampler ∈ linkedGraph.nodes ∧
      linkedSampler.widgets = .listed samplerValues ∧
      samplerValues.length = Node.samplerTable.length ∧ Node.samplerTable.Controlled samplerValues ∧
      linkedSampler.inputs.map InputSlot.name = Node.samplerTable.reduceOption.map some ∧
      (linkedGraph.firstHit? "2" "cfg").isSome = true ∧
      linkedGraph.firstHit? "2" "sampler_name" = none ∧
      Node.samplerTable[4]? = some (some "sampler_name") ∧ samplerValues[4]? = some (.str "euler") ∧
      ((linkedGraph.compile.job.node? "2").bind fun made => made.inputs.get? "sampler_name") =
        some (.scalar (.int 8)) := by
  decide +kernel

end Graph

end RenderRelay
