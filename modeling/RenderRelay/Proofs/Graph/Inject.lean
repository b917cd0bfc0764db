import Mathlib.Tactic.SplitIfs
import RenderRelay.Graph.Inject
import RenderRelay.Job.Widgets

/-! # Run parameters as changes of nodes

Each run parameter changes the widget values of some nodes and nothing else (`OnlyWidgets`).

* `getElem?_overwriteSampler`: which values seed and steps overwrite, and with what.
* `Node.promptChange` and `Node.samplerChange` are the changes of prompts and of seed and steps;
  `Node.after_samplerChange_cases` says that seed and steps are written to the nodes of well-known
  kinds that list their widget values, as far as the table names positions for them.
* `Node.Injected` says that every listed widget value at a position that the table calls by a name
  of seed or steps is the injected number, and `injected_injectSampler` that it holds of every node
  of the new graph. -/

namespace RenderRelay

/-- The change alters nothing but widget values. -/
def OnlyWidgets (change : Node → Option Node) : Prop :=
  ∀ node changed, change node = some changed → ∃ widgets, changed = { node with widgets := widgets }

/-- The node after a change, itself if it is not changed. -/
def Node.after (change : Node → Option Node) (node : Node) : Node := (change node).getD node

namespace Node

variable {change : Node → Option Node}

theorem after_of_none {node : Node} (h : change node = none) : node.after change = node := by
  rw [after, h, Option.getD_none]

theorem after_of_some {node changed : Node} (h : change node = some changed) :
    node.after change = changed := by
  rw [after, h, Option.getD_some]

theorem after_eq (h : OnlyWidgets change) (node : Node) :
    ∃ widgets, node.after change = { node with widgets := widgets } := by
  cases hchange : change node with
  | none => exact ⟨node.widgets, after_of_none hchange⟩
  | some changed =>
      obtain ⟨widgets, rfl⟩ := h node changed hchange
      exact ⟨widgets, after_of_some hchange⟩

end Node

/-! ### Prompts -/

namespace Node

/-- What becomes of a node that a prompt is written to. -/
def promptChange (positive negative : Option String) (node : Node) : Option Node :=
  (Graph.promptFor positive negative node).map fun text => node.setFirstWidget (.str text)

theorem onlyWidgets_promptChange (positive negative : Option String) :
    OnlyWidgets (promptChange positive negative) := by
  intro node changed hchanged
  obtain ⟨text, -, rfl⟩ := Option.map_eq_some_iff.mp hchanged
  exact ⟨_, rfl⟩

end Node

theorem Graph.injectPrompts_eq (graph : Graph) (positive negative : Option String) :
    graph.injectPrompts positive negative =
      graph.changeNodes (Node.promptChange positive negative) := rfl

/-! ### Positions -/

variable {seed steps : Option Int}

theorem mem_placedFrom {position : Nat} {value : Json} : ∀ {values : List Json} {start : Nat},
    (position, value) ∈ placedFrom start values →
      start ≤ position ∧ values[position - start]? = some value
  | [], _, h => absurd h List.not_mem_nil
  | first :: values, start, h => by
      obtain heq | h := List.mem_cons.mp h
      · obtain ⟨rfl, rfl⟩ := Prod.mk.inj heq
        refine ⟨Nat.le_refl _, ?_⟩
        rw [Nat.sub_self]
        rfl
      · obtain ⟨hle, hvalue⟩ := mem_placedFrom h
        refine ⟨Nat.le_of_succ_le hle, ?_⟩
        obtain ⟨offset, rfl⟩ := Nat.exists_eq_add_of_le hle
        rw [Nat.add_sub_cancel_left] at hvalue
        rw [Nat.add_assoc, Nat.add_sub_cancel_left, Nat.add_comm 1, List.getElem?_cons_succ, hvalue]

namespace Graph

/-- Seed and steps go to three names. -/
theorem eq_of_samplerValue {name : String} {n : Int}
    (h : samplerValue seed steps (some name) = some n) :
    name = "seed" ∨ name = "noise_seed" ∨ name = "steps" := by
  unfold samplerValue isSeedName at h
  dsimp only at h
  split_ifs at h with hseed hsteps
  · simp only [Bool.or_eq_true, decide_eq_true_eq] at hseed
    exact hseed.imp_right Or.inl
  · exact Or.inr (Or.inr hsteps)

theorem samplerValue_of_isSeedName {name : String} (h : isSeedName name = true) :
    samplerValue seed steps (some name) = seed := if_pos h

theorem samplerValue_steps : samplerValue seed steps (some "steps") = steps := rfl

/-- Each value stays, unless the table calls its position by a name that a number goes to. -/
theorem getElem?_overwriteSampler : ∀ (table : WidgetNames) (values : List Json) (i : Nat),
    (overwriteSampler seed steps table values)[i]? = values[i]?.map fun value =>
      match samplerValue seed steps (Taking.nameAt? table i) with
      | some n => .int n
      | none => value
  | [], [], _ => rfl
  | [], value :: values, i => by
      have hname : Taking.nameAt? [] i = none := rfl
      rw [hname]
      exact Option.map_id'.symm
  | _ :: _, [], _ => rfl
  | _ :: _, _ :: _, 0 => rfl
  | _ :: table, _ :: values, i + 1 => getElem?_overwriteSampler table values i

/-- Where nothing goes, nothing is overwritten. -/
theorem overwriteSampler_of_not_takes : ∀ (table : WidgetNames) (values : List Json),
    takesSampler seed steps table values = false →
      overwriteSampler seed steps table values = values
  | [], values, _ => by cases values <;> rfl
  | _ :: _, [], _ => rfl
  | name :: table, value :: values, h => by
      obtain ⟨hfirst, hrest⟩ := Bool.or_eq_false_iff.mp h
      rw [Option.isSome_eq_false_iff, Option.isNone_iff_eq_none] at hfirst
      rw [overwriteSampler, hfirst, overwriteSampler_of_not_takes table values hrest]

end Graph

/-! ### Seed and steps -/

namespace Node

variable {node : Node} {table : WidgetNames} {values : List Json}

/-- The node is of a well-known kind and lists its widget values. -/
def isTabled (node : Node) : Bool :=
  match node.widgets with
  | .listed _ => (widgetNames? node.kind).isSome
  | .named _ => false

theorem isTabled_iff : node.isTabled = true ↔
    ∃ table values, widgetNames? node.kind = some table ∧ node.widgets = .listed values := by
  unfold isTabled
  cases node.widgets with
  | listed values => simp [Option.isSome_iff_exists]
  | named fields => simp

/-- The node with seed and steps at the positions of their names. -/
def overwritten (seed steps : Option Int) (table : WidgetNames) (values : List Json)
    (node : Node) : Node :=
  { node with widgets := .listed (Graph.overwriteSampler seed steps table values) }

/-- What becomes of a node that seed or steps are written to. -/
def samplerChange (seed steps : Option Int) (node : Node) : Option Node :=
  (widgetNames? node.kind).bind fun table =>
    match node.widgets with
    | .listed values =>
        if Graph.takesSampler seed steps table values then
          some (node.overwritten seed steps table values)
        else none
    | .named _ => none

theorem samplerChange_of_tabled (htable : widgetNames? node.kind = some table)
    (hlisted : node.widgets = .listed values) : node.samplerChange seed steps =
      if Graph.takesSampler seed steps table values then
        some (node.overwritten seed steps table values)
      else none := by
  rw [samplerChange, htable, hlisted]
  rfl

theorem samplerChange_of_not_tabled (h : node.isTabled = false) :
    node.samplerChange seed steps = none := by
  unfold isTabled at h
  unfold samplerChange
  cases hwidgets : node.widgets with
  | named fields =>
      dsimp only
      exact Option.bind_fun_none _
  | listed values =>
      rw [hwidgets] at h
      rw [Option.isNone_iff_eq_none.mp (Option.isSome_eq_false_iff.mp h)]
      rfl

theorem after_samplerChange (htable : widgetNames? node.kind = some table)
    (hlisted : node.widgets = .listed values) :
    node.after (samplerChange seed steps) = node.overwritten seed steps table values := by
  unfold after
  rw [samplerChange_of_tabled htable hlisted]
  split_ifs with htakes
  · rfl
  · have hsame := Graph.overwriteSampler_of_not_takes table values (Bool.eq_false_iff.mpr htakes)
    rw [Option.getD_none, overwritten, hsame, ← hlisted]

theorem onlyWidgets_samplerChange (seed steps : Option Int) :
    OnlyWidgets (samplerChange seed steps) := by
  intro node changed hchanged
  cases htabled : node.isTabled with
  | false =>
      rw [samplerChange_of_not_tabled htabled] at hchanged
      cases hchanged
  | true =>
      obtain ⟨table, values, htable, hlisted⟩ := isTabled_iff.mp htabled
      rw [samplerChange_of_tabled htable hlisted] at hchanged
      split_ifs at hchanged
      exact ⟨_, (Option.some.inj hchanged).symm⟩

/-- A node that is not of a well-known kind, or does not list its widget values, stays; another has
seed and steps at the positions of their names. -/
theorem after_samplerChange_cases (seed steps : Option Int) (node : Node) :
    (node.isTabled = false ∧ node.after (samplerChange seed steps) = node) ∨
      ∃ table values, widgetNames? node.kind = some table ∧ node.widgets = .listed values ∧
        node.after (samplerChange seed steps) = node.overwritten seed steps table values := by
  cases htabled : node.isTabled with
  | false => exact Or.inl ⟨rfl, after_of_none (samplerChange_of_not_tabled htabled)⟩
  | true =>
      obtain ⟨table, values, htable, hlisted⟩ := isTabled_iff.mp htabled
      exact Or.inr ⟨table, values, htable, hlisted, after_samplerChange htable hlisted⟩

end Node

theorem Graph.injectSampler_eq (graph : Graph) (seed steps : Option Int) :
    graph.injectSampler seed steps = graph.changeNodes (Node.samplerChange seed steps) := rfl

/-- Listed widget values of the node stand at the positions of seed and steps as injected. -/
def Node.Injected (seed steps : Option Int) (node : Node) : Prop :=
  ∀ values table position value n, node.widgets = .listed values →
    widgetNames? node.kind = some table → (position, value) ∈ placedFrom 0 values →
      Graph.samplerValue seed steps (Taking.nameAt? table position) = some n → value = .int n

theorem Node.injected_of_overwritten {node : Node} {table : WidgetNames} {old : List Json}
    (htable : widgetNames? node.kind = some table)
    (hwidgets : node.widgets = .listed (Graph.overwriteSampler seed steps table old)) :
    node.Injected seed steps := by
  intro values table' position value n hvalues htable' hplaced hname
  obtain rfl : table = table' := Option.some.inj (htable.symm.trans htable')
  obtain rfl := Widgets.listed.inj (hwidgets.symm.trans hvalues)
  have hvalue := (mem_placedFrom hplaced).2
  rw [Nat.sub_zero, Graph.getElem?_overwriteSampler, hname] at hvalue
  obtain ⟨_, -, rfl⟩ := Option.map_eq_some_iff.mp hvalue
  rfl

/-- Every node has seed and steps where the table names them. -/
theorem Graph.injected_injectSampler (graph : Graph) (seed steps : Option Int) :
    ∀ node ∈ (graph.injectSampler seed steps).1.nodes, node.Injected seed steps := by
  intro changed hchanged
  obtain ⟨node, -, rfl⟩ := List.mem_map.mp hchanged
  change (node.after (Node.samplerChange seed steps)).Injected seed steps
  obtain ⟨htabled, hafter⟩ | ⟨table, values, htable, hlisted, hafter⟩ :=
    node.after_samplerChange_cases seed steps
  · rw [hafter]
    intro values table position value n hvalues htable
    rw [Node.isTabled_iff.mpr ⟨table, values, htable, hvalues⟩] at htabled
    cases htabled
  · rw [hafter]
    exact Node.injected_of_overwritten htable rfl

end RenderRelay
