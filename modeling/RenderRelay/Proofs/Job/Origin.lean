import Mathlib.Data.List.Induction
import RenderRelay.Proofs.Graph.Inject
import RenderRelay.Proofs.Job.Local

/-! # Where a plain input comes from

A plain value under a name of seed or steps is the injected number, unless it was diverted: it
stands under the name in named widget values, or a declared slot of the name took it from another
position than the table's.

* `Taking.claims` lists what the declared slots take, and `inputs_takeSlots` says that this is what
  they write.
* `Node.Diverts` says that a node diverts a value to an input, `origin_resolve` that a node which
  does not writes the injected number.
* `Graph.node?_compile_eq`: the job node of an id, whether or not nodes share it: the nodes of the
  id resolved one after another.
* `Graph.origin_compile` puts them together for every job. -/

namespace RenderRelay

namespace Taking

/-- What the slots take: the name of each with the value that goes to it. -/
def claims : (index : Nat) → List InputSlot → Taking → List (String × PlacedValue)
  | _, [], _ => []
  | index, slot :: rest, taking =>
      if slot.isBound || taking.inputs.has (slot.nameAt index) then claims (index + 1) rest taking
      else match taking.free with
        | [] => []
        | (position, value) :: free =>
            let name := slot.nameAt index
            (name, position, value) :: claims (index + 1) rest
              ⟨taking.inputs.putNew name (.scalar value),
                if isSeedName name then dropControl (position + 1) free else free⟩

/-- The slots write what they take. -/
theorem inputs_takeSlots (slots : List InputSlot) : ∀ (index : Nat) (taking : Taking),
    (takeSlots index slots taking).inputs =
      taking.inputs ++ (claims index slots taking).map fun claim =>
        (claim.1, .scalar claim.2.2) := by
  induction slots with
  | nil => exact fun _ _ => (List.append_nil _).symm
  | cons slot slots ih =>
      intro index taking
      unfold takeSlots claims
      split_ifs with hskip
      · exact ih (index + 1) taking
      · obtain ⟨-, hnew⟩ := Bool.or_eq_false_iff.mp (Bool.eq_false_iff.mpr hskip)
        cases taking.free with
        | nil => exact (List.append_nil _).symm
        | cons placed free =>
            dsimp only
            rw [ih, Entries.putNew_of_not_has hnew, List.append_assoc]
            rfl

theorem dropControl_subset (position : Nat) (free : List PlacedValue) :
    dropControl position free ⊆ free := by
  cases free with
  | nil => exact List.Subset.refl _
  | cons placed free =>
      obtain ⟨p, value⟩ := placed
      unfold dropControl
      dsimp only
      split_ifs
      · exact List.subset_cons_self _ _
      · exact List.Subset.refl _

/-- The slots take free values, and leave free ones. -/
theorem takeSlots_subset (slots : List InputSlot) : ∀ (index : Nat) (taking : Taking),
    (takeSlots index slots taking).free ⊆ taking.free ∧
      ∀ claim ∈ claims index slots taking, claim.2 ∈ taking.free := by
  induction slots with
  | nil => exact fun _ _ => ⟨List.Subset.refl _, fun _ h => absurd h List.not_mem_nil⟩
  | cons slot slots ih =>
      intro index taking
      unfold takeSlots claims
      split_ifs with hskip
      · exact ih (index + 1) taking
      · cases hfree : taking.free with
        | nil =>
            refine ⟨?_, fun _ h => absurd h List.not_mem_nil⟩
            dsimp only
            rw [hfree]
            exact List.Subset.refl _
        | cons placed free =>
            obtain ⟨position, value⟩ := placed
            dsimp only
            have hrest : ∀ kept, kept ∈ (if isSeedName (slot.nameAt index) = true then
                dropControl (position + 1) free else free) → kept ∈ (position, value) :: free := by
              intro kept hkept
              split_ifs at hkept
              · exact List.mem_cons_of_mem _ (dropControl_subset _ _ hkept)
              · exact List.mem_cons_of_mem _ hkept
            obtain ⟨hleft, hclaims⟩ := ih (index + 1) ⟨taking.inputs.putNew (slot.nameAt index)
              (.scalar value), if isSeedName (slot.nameAt index) then
                dropControl (position + 1) free else free⟩
            refine ⟨fun kept hkept => hrest kept (hleft hkept), fun claim hclaim => ?_⟩
            obtain rfl | hclaim := List.mem_cons.mp hclaim
            · exact List.mem_cons_self
            · exact hrest _ (hclaims claim hclaim)

end Taking

/-! ### What one node writes -/

/-- The node diverts a value to the input of a name, given the inputs that are there: the value
stands under the name in named widget values, or a declared slot of the name takes it from a
position that the table does not call by a name of this class. -/
inductive Node.Diverts (node : Node) (inputs : Inputs) (isName : String → Bool) (name : String)
    (value : Json) : Prop where
  | named (fields : Fields) (hwidgets : node.widgets = .named fields)
      (hfield : (name, value) ∈ fields)
  | claimed (values : List Json) (position : Nat) (hwidgets : node.widgets = .listed values)
      (hclaim : (name, position, value) ∈
        Taking.claims 0 node.inputs ⟨inputs, placedFrom 0 values⟩)
      (hposition : ∀ table, widgetNames? node.kind = some table →
        (Taking.nameAt? table position).any isName = false)

section Origin

variable {seed steps : Option Int} {isName : String → Bool} {n : Int} {node : Node}
  {inputs : Inputs} {name : String} {value : Json}

/-- A fold of `putNew` adds entries of the values that it goes through. -/
theorem mem_foldl_putNew {α : Type} {write : Inputs → α → Inputs} {entry : String × InputValue}
    {P : α → Prop} (hwrite : ∀ inputs x, entry ∈ write inputs x → entry ∈ inputs ∨ P x)
    (xs : List α) : ∀ {inputs : Inputs}, entry ∈ xs.foldl write inputs →
      entry ∈ inputs ∨ ∃ x ∈ xs, P x := by
  induction xs with
  | nil => exact Or.inl
  | cons x xs ih =>
      intro inputs h
      obtain h | ⟨y, hy, hP⟩ := ih h
      · obtain h | hP := hwrite inputs x h
        · exact Or.inl h
        · exact Or.inr ⟨x, List.mem_cons_self, hP⟩
      · exact Or.inr ⟨y, List.mem_cons_of_mem x hy, hP⟩

theorem mem_resolveNamed {fields : Fields}
    (h : (name, InputValue.scalar value) ∈ Node.resolveNamed fields inputs) :
    (name, InputValue.scalar value) ∈ inputs ∨ (name, value) ∈ fields := by
  have hwrite : ∀ (inputs : Inputs) (field : String × Json),
      (name, InputValue.scalar value) ∈ (if field.1.isEmpty then inputs
        else inputs.putNew field.1 (.scalar field.2)) →
          (name, InputValue.scalar value) ∈ inputs ∨ field = (name, value) := by
    intro inputs field hmem
    split_ifs at hmem
    · exact Or.inl hmem
    · refine (Entries.mem_putNew hmem).imp_right fun heq => ?_
      obtain ⟨hname, hvalue⟩ := Prod.mk.inj heq
      exact Prod.ext hname.symm (InputValue.scalar.inj hvalue).symm
  obtain h | ⟨field, hfield, rfl⟩ := mem_foldl_putNew hwrite fields h
  · exact Or.inl h
  · exact Or.inr hfield

theorem mem_takeTable {table : WidgetNames} {taking : Taking}
    (h : (name, InputValue.scalar value) ∈ (taking.takeTable table).inputs) :
    (name, InputValue.scalar value) ∈ taking.inputs ∨
      ∃ position, (position, value) ∈ taking.free ∧
        Taking.nameAt? table position = some name := by
  have hwrite : ∀ (inputs : Inputs) (placed : PlacedValue),
      (name, InputValue.scalar value) ∈ Taking.putNamed table inputs placed →
        (name, InputValue.scalar value) ∈ inputs ∨
          Taking.nameAt? table placed.1 = some name ∧ placed.2 = value := by
    intro inputs placed hmem
    unfold Taking.putNamed at hmem
    cases hat : Taking.nameAt? table placed.1 with
    | none =>
        rw [hat] at hmem
        exact Or.inl hmem
    | some other =>
        rw [hat] at hmem
        refine (Entries.mem_putNew hmem).imp_right fun heq => ?_
        obtain ⟨rfl, hvalue⟩ := Prod.mk.inj heq
        exact ⟨rfl, (InputValue.scalar.inj hvalue).symm⟩
  obtain h | ⟨⟨position, _⟩, hplaced, hat, rfl⟩ := mem_foldl_putNew hwrite _ h
  · exact Or.inl h
  · exact Or.inr ⟨position, List.mem_of_mem_filter hplaced, hat⟩

/-- Three passes write under names of their own. -/
structure Apart (name : String) : Prop where
  text : name ≠ "text"
  filePrefix : name ≠ "filename_prefix"
  rest : ∀ position, name ≠ "value" ++ position

theorem apart_of_samplerValue (h : Graph.samplerValue seed steps (some name) = some n) :
    Apart name := by
  have hrest : ∀ text : String, text.toList.head? ≠ some 'v' → ∀ position : String,
      text ≠ "value" ++ position := by
    rintro text hhead position rfl
    rw [String.toList_append] at hhead
    exact hhead rfl
  obtain rfl | rfl | rfl := Graph.eq_of_samplerValue h
  · exact ⟨by decide, by decide, hrest _ (by decide)⟩
  · exact ⟨by decide, by decide, hrest _ (by decide)⟩
  · exact ⟨by decide, by decide, hrest _ (by decide)⟩

namespace Apart

variable {v : InputValue} (hapart : Apart name)
include hapart

theorem mem_takeText {taking : Taking} (h : (name, v) ∈ taking.takeText.inputs) :
    (name, v) ∈ taking.inputs := by
  unfold Taking.takeText at h
  split_ifs at h
  · exact h
  · cases hfree : taking.free with
    | nil =>
        rw [hfree] at h
        exact h
    | cons placed free =>
        rw [hfree] at h
        exact (Entries.mem_putNew h).resolve_right fun heq => hapart.text (Prod.mk.inj heq).1

theorem mem_takeRest {taking : Taking} (h : (name, v) ∈ taking.takeRest) :
    (name, v) ∈ taking.inputs := by
  have hwrite : ∀ (inputs : Inputs) (placed : PlacedValue),
      (name, v) ∈ inputs.putNew ("value" ++ countText placed.1) (.scalar placed.2) →
        (name, v) ∈ inputs ∨ False := fun _ _ hmem =>
    (Entries.mem_putNew hmem).imp_right fun heq => hapart.rest _ (Prod.mk.inj heq).1
  exact (mem_foldl_putNew hwrite _ h).resolve_right fun ⟨_, _, hfalse⟩ => hfalse

theorem mem_withFilePrefix (h : (name, v) ∈ node.withFilePrefix inputs) : (name, v) ∈ inputs := by
  unfold Node.withFilePrefix at h
  split_ifs at h
  · exact (Entries.mem_putNew h).resolve_right fun heq => hapart.filePrefix (Prod.mk.inj heq).1
  · exact h

end Apart

theorem origin_resolveListed {values : List Json} (hwidgets : node.widgets = .listed values)
    (hinjected : node.Injected seed steps)
    (hclass : ∀ other, isName other = true →
      Graph.samplerValue seed steps (some other) = some n)
    (hname : isName name = true)
    (h : (name, InputValue.scalar value) ∈ (node.resolveListed values inputs).1) :
    (name, InputValue.scalar value) ∈ inputs ∨ value = .int n ∨
      node.Diverts inputs isName name value := by
  have hapart := apart_of_samplerValue (hclass name hname)
  have hplaced : ∀ {position : Nat} {table : WidgetNames}, widgetNames? node.kind = some table →
      (position, value) ∈ placedFrom 0 values →
        (Taking.nameAt? table position).any isName = true → value = .int n := by
    intro position table htable hplaced hany
    cases hat : Taking.nameAt? table position with
    | none =>
        rw [hat] at hany
        cases hany
    | some other =>
        rw [hat] at hany
        exact hinjected values table position value n hwidgets htable hplaced
          (hat ▸ hclass other hany)
  have hslots : (name, InputValue.scalar value) ∈
      (Taking.takeSlots 0 node.inputs ⟨inputs, placedFrom 0 values⟩).inputs →
        (name, InputValue.scalar value) ∈ inputs ∨ value = .int n ∨
          node.Diverts inputs isName name value := by
    intro hmem
    rw [Taking.inputs_takeSlots] at hmem
    obtain hmem | hmem := List.mem_append.mp hmem
    · exact Or.inl hmem
    obtain ⟨⟨_, position, _⟩, hclaim, heq⟩ := List.mem_map.mp hmem
    obtain ⟨rfl, hvalue⟩ := Prod.mk.inj heq
    obtain rfl := InputValue.scalar.inj hvalue
    have htaken := (Taking.takeSlots_subset node.inputs 0 _).2 _ hclaim
    by_cases hposition : ∀ table, widgetNames? node.kind = some table →
        (Taking.nameAt? table position).any isName = false
    · exact Or.inr (Or.inr (.claimed values position hwidgets hclaim hposition))
    · simp only [not_forall, Bool.not_eq_false] at hposition
      obtain ⟨table, htable, hany⟩ := hposition
      exact Or.inr (Or.inl (hplaced htable htaken hany))
  have hleft := (Taking.takeSlots_subset node.inputs 0 ⟨inputs, placedFrom 0 values⟩).1
  unfold Node.resolveListed at h
  dsimp only at h
  generalize Taking.takeSlots 0 node.inputs ⟨inputs, placedFrom 0 values⟩ = declared
    at h hslots hleft
  -- the text pass and the last one write under other names, whether or not the kind has a table
  have hrest : ∀ {named : Taking}, (name, InputValue.scalar value) ∈
      (if isPromptKind node.kindLower then named.takeText else named).takeRest →
        (name, InputValue.scalar value) ∈ named.inputs := by
    intro named hmem
    have hmem := hapart.mem_takeRest hmem
    split_ifs at hmem
    · exact hapart.mem_takeText hmem
    · exact hmem
  cases htable : widgetNames? node.kind with
  | none =>
      rw [htable] at h
      dsimp only at h
      exact hslots (hrest h)
  | some table =>
      rw [htable] at h
      dsimp only at h
      obtain hmem | ⟨position, hfree, hat⟩ := mem_takeTable (hrest h)
      · exact hslots hmem
      · refine Or.inr (Or.inl (hplaced htable (hleft hfree) ?_))
        rw [hat]
        exact hname

/-- A node writes the injected number under a name of this class, unless it diverts another value
there. -/
theorem origin_resolve (hinjected : node.Injected seed steps)
    (hclass : ∀ other, isName other = true →
      Graph.samplerValue seed steps (some other) = some n)
    (hname : isName name = true) (h : (name, InputValue.scalar value) ∈ (node.resolve inputs).1) :
    (name, InputValue.scalar value) ∈ inputs ∨ value = .int n ∨
      node.Diverts inputs isName name value := by
  have hapart := apart_of_samplerValue (hclass name hname)
  unfold Node.resolve at h
  dsimp only at h
  have hwidgets := hapart.mem_withFilePrefix h
  unfold Node.resolveWidgets at hwidgets
  cases hform : node.widgets with
  | named fields =>
      rw [hform] at hwidgets
      exact (mem_resolveNamed hwidgets).imp_right fun hfield => Or.inr (.named fields hform hfield)
  | listed values =>
      rw [hform] at hwidgets
      exact origin_resolveListed hform hinjected hclass hname hwidgets

end Origin

/-! ### Nodes that share an id -/

namespace Graph

variable {graph : Graph} {id : String}

theorem node?_add (job : Job) (node : Node) (id : String) :
    (job.add node.id (kindOrUnknown node.kind)).node? id =
      if node.id = id then some ⟨kindOrUnknown node.kind, []⟩ else job.node? id := by
  split_ifs with hid
  · rw [← hid]
    exact Entries.lookup_put_self _ _ _
  · exact Entries.lookup_put_of_ne _ _ (Ne.symm hid)

theorem node?_update (job : Job) (id other : String) (change : JobNode → JobNode) :
    (job.update other change).node? id =
      (job.node? id).map fun made => if other = id then change made else made := by
  unfold Job.update
  cases hother : job.node? other with
  | none =>
      by_cases hid : other = id
      · rw [← hid, hother]
        rfl
      · simp [hid]
  | some made =>
      by_cases hid : other = id
      · rw [← hid, hother, Option.map_some, if_pos rfl]
        exact Entries.lookup_put_self _ _ _
      · simp only [hid, if_false, Option.map_id']
        exact Entries.lookup_put_of_ne _ _ (Ne.symm hid)

theorem node?_placeNodes (graph : Graph) (id : String) :
    graph.placeNodes.node? id =
      (graph.lastNode? id).map fun last => ⟨kindOrUnknown last.kind, []⟩ := by
  have hfold : ∀ (nodes : List Node) (job : Job),
      (nodes.foldl (fun job node => job.add node.id (kindOrUnknown node.kind)) job).node? id =
        ((nodes.reverse.find? fun node => node.id = id).map fun last =>
          (⟨kindOrUnknown last.kind, []⟩ : JobNode)).or (job.node? id) := by
    intro nodes
    induction nodes with
    | nil => exact fun _ => rfl
    | cons node nodes ih =>
        intro job
        rw [List.foldl_cons, ih, node?_add, List.reverse_cons, List.find?_append, Option.map_or,
          Option.or_assoc]
        congr 1
        by_cases hid : node.id = id <;> simp [hid]
  exact (hfold graph.nodes .empty).trans Option.or_none

theorem node?_wireLink {last : Node} (hlast : graph.lastNode? id = some last) (job : Job)
    (link : Link) : (graph.wireLink job link).node? id = (job.node? id).map fun made =>
      if link.destId = id then
        { made with inputs := last.wire graph.nodeIds [link] made.inputs }
      else made := by
  by_cases hjoins : link.joins graph.nodeIds = true
  · obtain ⟨dest, hdest, hwire⟩ := wireLink_of_joins job hjoins
    rw [hwire, node?_update]
    congr 1
    funext made
    split_ifs with hid
    · obtain rfl : last = dest := Option.some.inj (hlast.symm.trans (hid ▸ hdest))
      unfold Node.wire
      rw [List.foldl_cons, List.foldl_nil, if_pos (joins_iff.mp hjoins).1]
      rfl
    · rfl
  · have hsame : (fun made : JobNode => if link.destId = id then
        { made with inputs := last.wire graph.nodeIds [link] made.inputs } else made) = fun made =>
          made := by
      funext made
      split_ifs with hid
      · have hdest : link.destId ∈ graph.nodeIds :=
          lastNode?_isSome_iff.mp (hid ▸ Option.isSome_of_eq_some hlast)
        have hsource : link.sourceId ∉ graph.nodeIds := fun hsource =>
          hjoins (joins_iff.mpr ⟨hsource, hdest⟩)
        unfold Node.wire
        rw [List.foldl_cons, List.foldl_nil, if_neg hsource]
      · rfl
    rw [wireLink_of_not_joins (by simpa using hjoins), hsame, Option.map_id']

theorem node?_foldl_wireLink {last : Node} (hlast : graph.lastNode? id = some last)
    (links : List Link) : ∀ job : Job, (links.foldl graph.wireLink job).node? id =
      (job.node? id).map fun made => { made with
        inputs := last.wire graph.nodeIds (links.filter fun link => link.destId = id)
          made.inputs } := by
  induction links with
  | nil => exact fun _ => Option.map_id'.symm
  | cons link links ih =>
      intro job
      rw [List.foldl_cons, ih, node?_wireLink hlast, Option.map_map]
      congr 1
      funext made
      by_cases hid : link.destId = id
      · rw [List.filter_cons_of_pos (by simpa using hid)]
        simp only [Function.comp_apply, hid, if_true]
        rfl
      · rw [List.filter_cons_of_neg (by simpa using hid)]
        simp only [Function.comp_apply, hid, if_false]

theorem node?_resolveNode (compiled : CompiledJob) (node : Node) (id : String) :
    (resolveNode compiled node).job.node? id = (compiled.job.node? id).map fun made =>
      if node.id = id then node.resolved made else made := by
  rw [← node?_update]
  unfold resolveNode Job.update Node.resolved
  cases compiled.job.node? node.id <;> rfl

theorem node?_foldl_resolveNode (id : String) (nodes : List Node) : ∀ compiled : CompiledJob,
    (nodes.foldl resolveNode compiled).job.node? id = (compiled.job.node? id).map fun made =>
      (nodes.filter fun node => node.id = id).foldl (fun made node => node.resolved made) made := by
  induction nodes with
  | nil => exact fun _ => Option.map_id'.symm
  | cons node nodes ih =>
      intro compiled
      rw [List.foldl_cons, ih, node?_resolveNode, Option.map_map]
      congr 1
      funext made
      by_cases hid : node.id = id
      · rw [List.filter_cons_of_pos (by simpa using hid), List.foldl_cons]
        simp only [Function.comp_apply, hid, if_true]
      · rw [List.filter_cons_of_neg (by simpa using hid)]
        simp only [Function.comp_apply, hid, if_false]

/-- The job node of an id after some nodes of the id were resolved; its kind and its links are those
of the last node of the id. -/
def madeFrom (graph : Graph) (last : Node) (nodes : List Node) : JobNode :=
  nodes.foldl (fun made node => node.resolved made)
    ⟨kindOrUnknown last.kind, last.wire graph.nodeIds (graph.linksInto last.id) []⟩

theorem madeFrom_concat (graph : Graph) (last : Node) (before : List Node) (node : Node) :
    graph.madeFrom last (before ++ [node]) = node.resolved (graph.madeFrom last before) := by
  unfold madeFrom
  rw [List.foldl_append, List.foldl_cons, List.foldl_nil]

/-- The nodes of an id, in order. -/
def nodesOf (graph : Graph) (id : String) : List Node :=
  graph.nodes.filter fun node => node.id = id

/-- The job node of an id while nodes are resolved: it is made from those of the id so far. -/
theorem node?_resolving (graph : Graph) (nodes : List Node) (id : String) :
    (nodes.foldl resolveNode ⟨graph.wireLinks graph.placeNodes, []⟩).job.node? id =
      (graph.lastNode? id).map fun last =>
        graph.madeFrom last (nodes.filter fun node => node.id = id) := by
  rw [node?_foldl_resolveNode]
  dsimp only
  cases hlast : graph.lastNode? id with
  | none =>
      rw [Option.map_none, Option.map_eq_none_iff, ← Option.not_isSome_iff_eq_none]
      intro hsome
      have hid := lastNode?_isSome_iff.mpr ((graph.covers_wireLinks.contains_iff id).mp hsome)
      rw [hlast] at hid
      cases hid
  | some last =>
      have hid : last.id = id := by simpa using List.find?_some hlast
      unfold wireLinks
      rw [node?_foldl_wireLink hlast, node?_placeNodes, hlast, Option.map_some, Option.map_some,
        Option.map_some, Option.map_some]
      unfold madeFrom linksInto
      rw [hid]

/-- The job node of an id is made from all nodes of the id, one after another. -/
theorem node?_compile_eq (graph : Graph) (id : String) :
    graph.compile.job.node? id =
      (graph.lastNode? id).map fun last => graph.madeFrom last (graph.nodesOf id) :=
  graph.node?_resolving graph.nodes id

/-! ### The whole job -/

/-- A value comes to an input of a job node because one of the nodes of the id diverts it there,
given the inputs that the nodes before it made. -/
def Diverted (graph : Graph) (id : String) (isName : String → Bool) (name : String)
    (value : Json) : Prop :=
  ∃ last before node after, graph.lastNode? id = some last ∧
    graph.nodesOf id = before ++ node :: after ∧
      node.Diverts (graph.madeFrom last before).inputs isName name value

theorem reference_of_mem_wire {node : Node} {ids : List String} {links : List Link} {name : String}
    {value : InputValue} (h : (name, value) ∈ node.wire ids links []) :
    ∃ link ∈ links, value = link.reference := by
  have hwrite : ∀ (inputs : Inputs) (link : Link),
      (name, value) ∈ (if link.sourceId ∈ ids then
        inputs.putNew (node.slotName link.destSlot) link.reference else inputs) →
          (name, value) ∈ inputs ∨ value = link.reference := by
    intro inputs link hmem
    split_ifs at hmem
    · exact (Entries.mem_putNew hmem).imp_right fun heq => (Prod.mk.inj heq).2
    · exact Or.inl hmem
  exact (mem_foldl_putNew hwrite links h).resolve_left List.not_mem_nil

/-- A plain value under a name of this class is the injected number, unless it was diverted. -/
theorem origin_compile {seed steps : Option Int} {isName : String → Bool} {n : Int}
    (hinjected : ∀ node ∈ graph.nodes, node.Injected seed steps)
    (hclass : ∀ other, isName other = true → samplerValue seed steps (some other) = some n)
    {made : JobNode} (hmade : graph.compile.job.node? id = some made) {name : String}
    {value : Json} (hvalue : made.inputs.get? name = some (.scalar value))
    (hname : isName name = true) :
    value = .int n ∨ graph.Diverted id isName name value := by
  rw [node?_compile_eq] at hmade
  obtain ⟨last, hlast, rfl⟩ := Option.map_eq_some_iff.mp hmade
  have hmem := Entries.mem_of_lookup hvalue
  -- the nodes of the id, from the last to the first: what none of them writes is of a link
  have horigin : ∀ nodes after : List Node, graph.nodesOf id = nodes ++ after →
      (name, InputValue.scalar value) ∈ (graph.madeFrom last nodes).inputs →
        value = .int n ∨ graph.Diverted id isName name value := by
    intro nodes
    induction nodes using List.reverseRecOn with
    | nil =>
        intro _ _ hmem
        obtain ⟨link, -, hreference⟩ := reference_of_mem_wire hmem
        cases hreference
    | append_singleton before node ih =>
        intro after hnodes hmem
        rw [List.append_assoc, List.singleton_append] at hnodes
        have hnode : node ∈ graph.nodesOf id := by
          rw [hnodes]
          exact List.mem_append_right _ List.mem_cons_self
        rw [madeFrom_concat] at hmem
        unfold Node.resolved at hmem
        dsimp only at hmem
        obtain hmem | hinjected | hdiverts := origin_resolve
          (hinjected node (List.mem_of_mem_filter hnode)) hclass hname hmem
        · exact ih (node :: after) hnodes hmem
        · exact Or.inl hinjected
        · exact Or.inr ⟨last, before, node, after, hlast, hnodes, hdiverts⟩
  exact horigin (graph.nodesOf id) [] (List.append_nil _).symm hmem

end Graph

end RenderRelay
