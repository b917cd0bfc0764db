import RenderRelay.Proofs.Job.Origin
import RenderRelay.Proofs.Json.KeyOrder

/-! # What a payload tells about references

A payload has no mark that sets references apart: a reference is written as a list of a text and
an integer (`Json.link?`), and a widget value may be such a list itself.

* `Node.mem_resolve` and `Graph.scalar_compile`: a plain value of a job is a widget value of a node
  of its id, or the default prefix of file names.
* `Json.inputAt` is what the backend finds under the name of an input, and `Job.inputAt_toJson`
  what a job submits there.
* `Job.ofPayload` reads a payload back, each list of this form as a reference.  It undoes
  `Job.toJson` on the jobs without plain values of the form (`ofPayload_toJson`), and on these
  payloads that differ in the order of keys alone are of one job (`alike_of_sameUpToOrder`).
* `Graph.compile_recognizable` puts them together, and `Graph.mistakable_compiles` shows that a
  widget value of the form is taken for a reference. -/

namespace RenderRelay

/-! ### The form of a reference -/

/-- The id and the index of a value that is a list of a text and an integer. -/
def Json.link? : Json → Option (String × Int)
  | .arr [.str nodeId, .int index] => some (nodeId, index)
  | _ => none

theorem Json.eq_of_link? {value : Json} {nodeId : String} {index : Int}
    (h : value.link? = some (nodeId, index)) : value = .arr [.str nodeId, .int index] := by
  unfold Json.link? at h
  split at h
  · obtain ⟨rfl, rfl⟩ := Prod.mk.inj (Option.some.inj h)
    rfl
  · cases h

namespace InputValue

/-- A value that is not taken for a reference unless it is one. -/
def Unmistakable : InputValue → Prop
  | .scalar value => value.link? = none
  | .reference _ _ => True

/-- An input value as it is read from a payload. -/
def ofWire (value : Json) : InputValue :=
  match value.link? with
  | some (nodeId, index) => .reference nodeId index
  | none => .scalar value

theorem ofWire_toJson {value : InputValue} (h : value.Unmistakable) :
    ofWire value.toJson = value := by
  cases value with
  | scalar value =>
      unfold ofWire toJson
      dsimp only
      rw [show value.link? = none from h]
  | reference nodeId index => rfl

end InputValue

/-! ### Where plain values come from -/

/-- The widget values, without their names. -/
def Widgets.values : Widgets → List Json
  | .listed values => values
  | .named fields => fields.map Prod.snd

section Origin

variable {inputs : Inputs} {name : String} {value : Json}

theorem Taking.mem_takeText {taking : Taking}
    (h : (name, InputValue.scalar value) ∈ taking.takeText.inputs) :
    (name, InputValue.scalar value) ∈ taking.inputs ∨
      ∃ position, (position, value) ∈ taking.free := by
  unfold Taking.takeText at h
  split_ifs at h
  · exact Or.inl h
  · cases hfree : taking.free with
    | nil =>
        rw [hfree] at h
        exact Or.inl h
    | cons placed free =>
        obtain ⟨position, first⟩ := placed
        rw [hfree] at h
        refine (Entries.mem_putNew h).imp_right fun heq => ⟨position, ?_⟩
        rw [InputValue.scalar.inj (Prod.mk.inj heq).2]
        exact List.mem_cons_self

theorem Taking.free_takeText_subset (taking : Taking) : taking.takeText.free ⊆ taking.free := by
  unfold Taking.takeText
  split_ifs
  · exact List.Subset.refl _
  · cases hfree : taking.free with
    | nil =>
        dsimp only
        rw [hfree]
        exact List.Subset.refl _
    | cons placed free => exact List.subset_cons_self _ _

theorem Taking.mem_takeRest {taking : Taking}
    (h : (name, InputValue.scalar value) ∈ taking.takeRest) :
    (name, InputValue.scalar value) ∈ taking.inputs ∨
      ∃ position, (position, value) ∈ taking.free := by
  have hwrite : ∀ (inputs : Inputs) (placed : PlacedValue), (name, InputValue.scalar value) ∈
      inputs.putNew ("value" ++ countText placed.1) (.scalar placed.2) →
        (name, InputValue.scalar value) ∈ inputs ∨ placed.2 = value := fun _ _ hmem =>
    (Entries.mem_putNew hmem).imp_right fun heq => (InputValue.scalar.inj (Prod.mk.inj heq).2).symm
  obtain h | ⟨⟨position, _⟩, hfree, rfl⟩ := mem_foldl_putNew hwrite _ h
  · exact Or.inl h
  · exact Or.inr ⟨position, hfree⟩

/-- What the slots, the table, the text and the rest write are listed values. -/
theorem Node.mem_resolveListed {node : Node} {values : List Json}
    (h : (name, InputValue.scalar value) ∈ (node.resolveListed values inputs).1) :
    (name, InputValue.scalar value) ∈ inputs ∨ value ∈ values := by
  have hlisted : ∀ {position : Nat} {free : List PlacedValue}, free ⊆ placedFrom 0 values →
      (position, value) ∈ free → value ∈ values := fun hsub hfree =>
    List.mem_of_getElem? (mem_placedFrom (hsub hfree)).2
  have hslots : (name, InputValue.scalar value) ∈
      (Taking.takeSlots 0 node.inputs ⟨inputs, placedFrom 0 values⟩).inputs →
        (name, InputValue.scalar value) ∈ inputs ∨ value ∈ values := by
    intro hmem
    rw [Taking.inputs_takeSlots] at hmem
    refine (List.mem_append.mp hmem).imp_right fun hmem => ?_
    obtain ⟨⟨_, position, _⟩, hclaim, heq⟩ := List.mem_map.mp hmem
    obtain rfl := InputValue.scalar.inj (Prod.mk.inj heq).2
    exact hlisted (List.Subset.refl _) ((Taking.takeSlots_subset node.inputs 0 _).2 _ hclaim)
  have hleft := (Taking.takeSlots_subset node.inputs 0 ⟨inputs, placedFrom 0 values⟩).1
  unfold Node.resolveListed at h
  dsimp only at h
  generalize Taking.takeSlots 0 node.inputs ⟨inputs, placedFrom 0 values⟩ = declared
    at h hslots hleft
  dsimp only at hleft
  -- the text pass and the last one write free values, whether or not the kind has a table
  have hrest : ∀ {named : Taking}, named.free ⊆ declared.free →
      (name, InputValue.scalar value) ∈
        (if isPromptKind node.kindLower then named.takeText else named).takeRest →
          (name, InputValue.scalar value) ∈ named.inputs ∨ value ∈ values := by
    intro named hsub hmem
    have hfree : ∀ {position}, (position, value) ∈ named.free → value ∈ values :=
      hlisted (List.Subset.trans hsub hleft)
    split_ifs at hmem
    · obtain hmem | ⟨_, hmem⟩ := Taking.mem_takeRest hmem
      · exact (Taking.mem_takeText hmem).imp_right fun ⟨_, hmem⟩ => hfree hmem
      · exact Or.inr (hfree (named.free_takeText_subset hmem))
    · exact (Taking.mem_takeRest hmem).imp_right fun ⟨_, hmem⟩ => hfree hmem
  cases htable : widgetNames? node.kind with
  | none =>
      rw [htable] at h
      exact (hrest (List.Subset.refl _) h).elim hslots Or.inr
  | some table =>
      rw [htable] at h
      have hsub : (declared.takeTable table).free ⊆ declared.free := List.filter_subset_self _
      obtain hmem | hvalue := hrest hsub h
      · obtain hmem | ⟨position, hfree, -⟩ := mem_takeTable hmem
        · exact hslots hmem
        · exact Or.inr (hlisted hleft hfree)
      · exact Or.inr hvalue

/-- A plain value that a node writes is a widget value of its own, or the default prefix. -/
theorem Node.mem_resolve {node : Node}
    (h : (name, InputValue.scalar value) ∈ (node.resolve inputs).1) :
    (name, InputValue.scalar value) ∈ inputs ∨
      value ∈ node.widgets.values ∨ value = .str defaultFilePrefix := by
  have hwidgets : (name, InputValue.scalar value) ∈ (node.resolveWidgets inputs).1 →
      (name, InputValue.scalar value) ∈ inputs ∨ value ∈ node.widgets.values := by
    intro hmem
    unfold Node.resolveWidgets at hmem
    cases hform : node.widgets with
    | named fields =>
        rw [hform] at hmem
        exact (mem_resolveNamed hmem).imp_right fun hfield => List.mem_map.mpr ⟨_, hfield, rfl⟩
    | listed values =>
        rw [hform] at hmem
        exact Node.mem_resolveListed hmem
  unfold Node.resolve Node.withFilePrefix at h
  dsimp only at h
  split_ifs at h
  · obtain hmem | heq := Entries.mem_putNew h
    · exact (hwidgets hmem).imp_right Or.inl
    · exact Or.inr (Or.inr (InputValue.scalar.inj (Prod.mk.inj heq).2))
  · exact (hwidgets h).imp_right Or.inl

end Origin

namespace Graph

variable {graph : Graph}

/-- A plain value of the compiled job is a widget value of a node of its id, or the default
prefix. -/
theorem scalar_compile {id name : String} {value : Json} {made : JobNode}
    (hmade : graph.compile.job.node? id = some made)
    (hvalue : (name, .scalar value) ∈ made.inputs) :
    (∃ node ∈ graph.nodes, node.id = id ∧ value ∈ node.widgets.values) ∨
      value = .str defaultFilePrefix := by
  -- each node of the id adds its own values to what the nodes before it made
  have hfold : ∀ (nodes : List Node) (made : JobNode), (name, InputValue.scalar value) ∈
      (nodes.foldl (fun made node => node.resolved made) made).inputs →
        (name, InputValue.scalar value) ∈ made.inputs ∨
          (∃ node ∈ nodes, value ∈ node.widgets.values) ∨ value = .str defaultFilePrefix := by
    intro nodes
    induction nodes with
    | nil => exact fun _ hmem => Or.inl hmem
    | cons node nodes ih =>
        intro made hmem
        rw [List.foldl_cons] at hmem
        obtain hmem | ⟨other, hother, hwidget⟩ | hprefix := ih (node.resolved made) hmem
        · unfold Node.resolved at hmem
          dsimp only at hmem
          obtain hmem | hwidget | hprefix := Node.mem_resolve hmem
          · exact Or.inl hmem
          · exact Or.inr (Or.inl ⟨node, List.mem_cons_self, hwidget⟩)
          · exact Or.inr (Or.inr hprefix)
        · exact Or.inr (Or.inl ⟨other, List.mem_cons_of_mem _ hother, hwidget⟩)
        · exact Or.inr (Or.inr hprefix)
  rw [node?_compile_eq] at hmade
  obtain ⟨last, -, rfl⟩ := Option.map_eq_some_iff.mp hmade
  obtain hwired | ⟨node, hnode, hwidget⟩ | hprefix := hfold (graph.nodesOf id) _ hvalue
  · obtain ⟨link, -, hreference⟩ := reference_of_mem_wire hwired
    cases hreference
  · have hid : node.id = id := by simpa using List.of_mem_filter hnode
    exact Or.inl ⟨node, List.mem_of_mem_filter hnode, hid, hwidget⟩
  · exact Or.inr hprefix

end Graph

/-! ### Payloads -/

/-- What a payload holds for an input of a node, null if there is nothing. -/
def Json.inputAt (payload : Json) (id name : String) : Json :=
  ((payload.get id).get "inputs").get name

/-- What an input of a node of the job holds. -/
def Job.inputAt? (job : Job) (id name : String) : Option InputValue :=
  (job.node? id).bind fun node => node.inputs.get? name

namespace Job

theorem get_toJson (job : Job) (id : String) :
    job.toJson.get id = ((job.node? id).map JobNode.toJson).getD .null := by
  unfold Job.node? Entries.get?
  rw [← Entries.lookup_map]
  rfl

theorem inputAt_toJson (job : Job) (id name : String) :
    job.toJson.inputAt id name = ((job.inputAt? id name).map InputValue.toJson).getD .null := by
  unfold Json.inputAt inputAt?
  rw [get_toJson]
  cases job.node? id with
  | none => rfl
  | some node =>
      rw [Option.bind_some, Entries.get?, ← Entries.lookup_map]
      rfl

/-- A payload names a node exactly if the job has it. -/
theorem get_toJson_ne_null_iff (job : Job) (id : String) :
    job.toJson.get id ≠ .null ↔ job.contains id = true := by
  rw [get_toJson]
  unfold contains Entries.has node? Entries.get?
  cases job.nodes.lookup id with
  | none => exact ⟨fun h => absurd rfl h, fun h => absurd h Bool.false_ne_true⟩
  | some node => exact ⟨fun _ => rfl, fun _ => Json.noConfusion⟩

end Job

/-! ### Reading a payload back -/

/-- A job node as it is read from a payload. -/
def JobNode.ofPayload (node : Json) : JobNode :=
  ⟨(node.get "class_type").text?.getD "",
    ((node.get "inputs").fields?.getD []).map fun (name, value) => (name, .ofWire value)⟩

/-- A job as it is read from its payload. -/
def Job.ofPayload (payload : Json) : Job :=
  ⟨(payload.fields?.getD []).map fun (id, node) => (id, .ofPayload node)⟩

/-- No plain value of the job is taken for a reference. -/
def Job.Unmistakable (job : Job) : Prop :=
  ∀ id node, (id, node) ∈ job.nodes → ∀ name value, (name, value) ∈ node.inputs →
    value.Unmistakable

theorem Job.ofPayload_toJson {job : Job} (h : job.Unmistakable) :
    ofPayload job.toJson = job := by
  have hnode : ∀ id node, (id, node) ∈ job.nodes → JobNode.ofPayload node.toJson = node := by
    intro id node hmem
    have hinputs := Entries.map_map_of_undo InputValue.toJson InputValue.ofWire
      fun name value hvalue => InputValue.ofWire_toJson (h id node hmem name value hvalue)
    exact congrArg (JobNode.mk node.kind) hinputs
  exact congrArg Job.mk (Entries.map_map_of_undo JobNode.toJson JobNode.ofPayload hnode)

/-! ### Payloads up to the order of keys -/

/-- Values of this form have no keys to put in another order. -/
theorem Json.SameUpToOrder.link?_eq {value other : Json} (h : value.SameUpToOrder other) :
    value.link? = other.link? := by
  cases h with
  | null | bool b | int n | float x | str s | obj fields more hkeys hvalues => rfl
  | arr items more hlength hitems =>
      match items, more, hlength, hitems with
      | [], [], _, _ => rfl
      | [_], [_], _, _ => simp [link?]
      | [first, second], [first', second'], _, hitems =>
          have hfirst := hitems (first, first') List.mem_cons_self
          have hsecond := hitems (second, second') (List.mem_cons_of_mem _ List.mem_cons_self)
          dsimp only at hfirst hsecond
          cases hfirst <;> cases hsecond <;> rfl
      | _ :: _ :: _ :: _, _ :: _ :: _ :: _, _, _ => simp [link?]

/-- Input values that differ in nothing but the order of keys. -/
inductive InputValue.SameUpToOrder : InputValue → InputValue → Prop where
  | scalar {value other : Json} (h : value.SameUpToOrder other) :
      SameUpToOrder (.scalar value) (.scalar other)
  | reference (nodeId : String) (index : Int) :
      SameUpToOrder (.reference nodeId index) (.reference nodeId index)

/-- Job nodes of one kind, with such values under the same names. -/
structure JobNode.SameUpToOrder (first second : JobNode) : Prop where
  kind : first.kind = second.kind
  inputs : ∀ name,
    Option.Rel InputValue.SameUpToOrder (first.inputs.get? name) (second.inputs.get? name)

/-- Jobs with such nodes under the same ids. -/
def Job.SameUpToOrder (first second : Job) : Prop :=
  ∀ id, Option.Rel JobNode.SameUpToOrder (first.node? id) (second.node? id)

theorem InputValue.sameUpToOrder_of_toJson {first second : InputValue}
    (hfirst : first.Unmistakable) (hsecond : second.Unmistakable)
    (h : first.toJson.SameUpToOrder second.toJson) : first.SameUpToOrder second := by
  have hlink := h.link?_eq
  cases first with
  | scalar value =>
      cases second with
      | scalar other => exact .scalar h
      | reference nodeId index =>
          rw [toJson, show value.link? = none from hfirst] at hlink
          cases hlink
  | reference nodeId index =>
      cases second with
      | scalar other =>
          rw [toJson, toJson, show other.link? = none from hsecond] at hlink
          cases hlink
      | reference nodeId' index' =>
          obtain ⟨rfl, rfl⟩ := Prod.mk.inj (Option.some.inj hlink)
          exact .reference nodeId index

/-- What is related after it is written was related before. -/
theorem Entries.rel_of_map {α : Type} (write : α → Json) {R : α → α → Prop}
    {first second : Entries α} {key : String}
    (hread : ∀ value other, first.lookup key = some value → second.lookup key = some other →
      (write value).SameUpToOrder (write other) → R value other)
    (h : (Json.obj (first.map fun entry => (entry.1, write entry.2))).SameUpToOrder
      (.obj (second.map fun entry => (entry.1, write entry.2)))) :
    Option.Rel R (first.lookup key) (second.lookup key) := by
  have hrel := h.lookup key
  rw [Entries.lookup_map, Entries.lookup_map] at hrel
  cases hfirst : first.lookup key with
  | none =>
      cases hsecond : second.lookup key with
      | none => exact Option.Rel.none
      | some other =>
          rw [hfirst, hsecond] at hrel
          cases hrel
  | some value =>
      cases hsecond : second.lookup key with
      | none =>
          rw [hfirst, hsecond] at hrel
          cases hrel
      | some other =>
          rw [hfirst, hsecond] at hrel
          exact Option.Rel.some (hread value other hfirst hsecond (Option.rel_some_some.mp hrel))

theorem JobNode.sameUpToOrder_of_toJson {first second : JobNode}
    (hfirst : ∀ name value, (name, value) ∈ first.inputs → value.Unmistakable)
    (hsecond : ∀ name value, (name, value) ∈ second.inputs → value.Unmistakable)
    (h : first.toJson.SameUpToOrder second.toJson) : first.SameUpToOrder second := by
  have hkind : (Json.str first.kind).SameUpToOrder (.str second.kind) :=
    Option.rel_some_some.mp (h.lookup "class_type")
  have hinputs := Option.rel_some_some.mp (h.lookup "inputs")
  refine ⟨?_, fun name => Entries.rel_of_map InputValue.toJson
    (fun value other hvalue hother hsame => ?_) hinputs⟩
  · generalize first.kind = kind, second.kind = other at hkind
    cases hkind
    rfl
  · exact InputValue.sameUpToOrder_of_toJson (hfirst name value (Entries.mem_of_lookup hvalue))
      (hsecond name other (Entries.mem_of_lookup hother)) hsame

/-- Payloads of such jobs that are the same up to the order of keys are of the same job. -/
theorem Job.sameUpToOrder_of_toJson {first second : Job} (hfirst : first.Unmistakable)
    (hsecond : second.Unmistakable) (h : first.toJson.SameUpToOrder second.toJson) :
    first.SameUpToOrder second := fun id =>
  Entries.rel_of_map JobNode.toJson (fun node other hnode hother hsame =>
    JobNode.sameUpToOrder_of_toJson (hfirst id node (Entries.mem_of_lookup hnode))
      (hsecond id other (Entries.mem_of_lookup hother)) hsame) h

/-! ### Payloads of graphs -/

namespace Graph

/-- What is submitted for a graph. -/
def payload (graph : Graph) : Json := graph.compile.job.toJson

/-- No widget value of the graph has the form of a reference. -/
def Unmistakable (graph : Graph) : Prop :=
  ∀ node ∈ graph.nodes, ∀ value ∈ node.widgets.values, value.link? = none

variable {graph : Graph}

/-- An input of the form of a reference is one, to a node of the payload, or is a widget value of
this form. -/
theorem link_payload {id name source : String} {index : Int}
    (h : (graph.payload.inputAt id name).link? = some (source, index)) :
    (graph.compile.job.inputAt? id name = some (.reference source index) ∧
      graph.payload.get source ≠ .null) ∨
    (graph.compile.job.inputAt? id name = some (.scalar (.arr [.str source, .int index])) ∧
      ∃ node ∈ graph.nodes, node.id = id ∧
        .arr [.str source, .int index] ∈ node.widgets.values) := by
  have hwire := Json.eq_of_link? h
  unfold payload at hwire
  rw [Job.inputAt_toJson] at hwire
  cases hinput : graph.compile.job.inputAt? id name with
  | none =>
      rw [hinput] at hwire
      cases hwire
  | some value =>
      obtain ⟨made, hmade, hvalue⟩ := Option.bind_eq_some_iff.mp hinput
      rw [hinput] at hwire
      cases value with
      | reference nodeId index' =>
          cases hwire
          refine Or.inl ⟨rfl, (Job.get_toJson_ne_null_iff _ _).mpr ?_⟩
          have hheld : (⟨name, source, index⟩ : HeldReference) ∈ made.references :=
            List.mem_filterMap.mpr ⟨_, Entries.mem_of_lookup hvalue, rfl⟩
          exact graph.contains_of_mem_references (Entries.mem_of_lookup hmade) hheld
      | scalar value =>
          obtain rfl : value = .arr [.str source, .int index] := hwire
          obtain hwidget | hprefix := scalar_compile hmade (Entries.mem_of_lookup hvalue)
          · exact Or.inr ⟨rfl, hwidget⟩
          · cases hprefix

theorem Unmistakable.compile (h : graph.Unmistakable) : graph.compile.job.Unmistakable := by
  intro id made hmade name value hvalue
  cases value with
  | reference nodeId index => trivial
  | scalar value =>
      have hfound := Entries.lookup_of_mem graph.covers_compile.nodup hmade
      obtain ⟨node, hnode, -, hwidget⟩ | rfl := scalar_compile hfound hvalue
      · exact h node hnode value hwidget
      · rfl

/-- In a graph of such values the form of a reference is that of references alone. -/
theorem Unmistakable.link_payload_iff (h : graph.Unmistakable) {id name source : String}
    {index : Int} : (graph.payload.inputAt id name).link? = some (source, index) ↔
      graph.compile.job.inputAt? id name = some (.reference source index) := by
  constructor
  · intro hlink
    obtain ⟨hinput, -⟩ | ⟨-, node, hnode, -, hwidget⟩ := link_payload hlink
    · exact hinput
    · cases h node hnode _ hwidget
  · intro hinput
    unfold payload
    rw [Job.inputAt_toJson, hinput]
    rfl

/-- **References are recognizable unless widget values have their form.**  For every graph: an input
of its payload that is a list of a text and an integer is a reference to a node of the payload, or
a widget value of this form that a node of its id holds.  If no widget value has the form, exactly
the references have it, the job is read back from the payload, and two such graphs whose payloads
are the same up to the order of keys have the same job. -/
theorem compile_recognizable (graph : Graph) :
    (∀ id name source index,
      (graph.payload.inputAt id name).link? = some (source, index) →
        (graph.compile.job.inputAt? id name = some (.reference source index) ∧
          graph.payload.get source ≠ .null) ∨
        (graph.compile.job.inputAt? id name = some (.scalar (.arr [.str source, .int index])) ∧
          ∃ node ∈ graph.nodes, node.id = id ∧
            .arr [.str source, .int index] ∈ node.widgets.values)) ∧
    (graph.Unmistakable →
      (∀ id name source index, (graph.payload.inputAt id name).link? = some (source, index) ↔
        graph.compile.job.inputAt? id name = some (.reference source index)) ∧
      (∀ id name source index, (graph.payload.inputAt id name).link? = some (source, index) →
        graph.payload.get source ≠ .null) ∧
      Job.ofPayload graph.payload = graph.compile.job ∧
      ∀ other : Graph, other.Unmistakable →
        (graph.payload = other.payload → graph.compile.job = other.compile.job) ∧
        (graph.payload.SameUpToOrder other.payload →
          graph.compile.job.SameUpToOrder other.compile.job)) := by
  refine ⟨fun id name source index => link_payload, fun h => ⟨fun id name source index =>
    h.link_payload_iff, ?_, Job.ofPayload_toJson h.compile, fun other hother => ⟨?_, ?_⟩⟩⟩
  · intro id name source index hlink
    obtain ⟨-, hnamed⟩ | ⟨-, node, hnode, -, hwidget⟩ := link_payload hlink
    · exact hnamed
    · cases h node hnode _ hwidget
  · intro hpayload
    rw [← Job.ofPayload_toJson h.compile, ← Job.ofPayload_toJson hother.compile]
    exact congrArg Job.ofPayload hpayload
  · exact Job.sameUpToOrder_of_toJson h.compile hother.compile

/-- A node that loads an image, and one that a link gives it. -/
def shown : Graph :=
  ⟨[⟨"1", some "LoadImage", none, [], .listed []⟩,
    ⟨"2", some "Preview", none, [.ofName (some "images") (.int 1) false], .listed []⟩],
    [⟨.int 1, "1", 0, "2", 0⟩]⟩

example : shown.Unmistakable ∧ (shown.payload.inputAt "2" "images").link? = some ("1", 0) :=
  ⟨by unfold Unmistakable; decide, by decide +kernel⟩

/-- A node with one widget value, which reads like a reference to a node that is not there. -/
def feigned : Graph := ⟨[⟨"1", some "Mixer", none, [], .listed [.arr [.str "5", .int 0]]⟩], []⟩

/-- The nodes of `shown` without the link, the second with a widget value in its place. -/
def feignedShown : Graph :=
  ⟨[⟨"1", some "LoadImage", none, [], .listed []⟩,
    ⟨"2", some "Preview", none, [], .named [("images", .arr [.str "1", .int 0])]⟩], []⟩

/-- A widget value may be taken for a reference: to a node that the payload does not name, or for
that of a link, so that a graph with it has the payload of another job. -/
theorem mistakable_compiles :
    ((feigned.payload.inputAt "1" "value0").link? = some ("5", 0) ∧
      feigned.payload.get "5" = .null ∧
      feigned.compile.job.inputAt? "1" "value0" = some (.scalar (.arr [.str "5", .int 0]))) ∧
    shown.payload = feignedShown.payload ∧
      shown.compile.job.inputAt? "2" "images" = some (.reference "1" 0) ∧
      shown.compile.job ≠ feignedShown.compile.job := by
  decide +kernel

end Graph

end RenderRelay
