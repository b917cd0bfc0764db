import RenderRelay.Job.Compile
import RenderRelay.Proofs.Entries

/-! # What widget values add to a node

Every pass that turns widget values into inputs writes plain values, and only where nothing
stands.  `AddsScalars before after` says so: `after` is `before` with plain values behind it.
It holds of each pass, so it holds of `Node.resolve` (`addsScalars_resolve`), and what was
there before the passes is found there afterwards (`AddsScalars.lookup_eq`). -/

namespace RenderRelay

/-- The inputs `after` are the inputs `before` with plain values behind them. -/
def AddsScalars (before after : Inputs) : Prop :=
  ∃ added, after = before ++ added ∧ ∀ entry ∈ added, ∃ value, entry.2 = .scalar value

namespace AddsScalars

variable {first second third : Inputs}

theorem refl (inputs : Inputs) : AddsScalars inputs inputs := ⟨[], by simp, by simp⟩

theorem trans (h : AddsScalars first second) (h' : AddsScalars second third) :
    AddsScalars first third := by
  obtain ⟨added, rfl, hadded⟩ := h
  obtain ⟨more, rfl, hmore⟩ := h'
  refine ⟨added ++ more, List.append_assoc _ _ _, ?_⟩
  intro entry hmem
  rcases List.mem_append.mp hmem with hmem | hmem
  · exact hadded entry hmem
  · exact hmore entry hmem

theorem putNew (inputs : Inputs) (name : String) (value : Json) :
    AddsScalars inputs (inputs.putNew name (.scalar value)) := by
  by_cases hhas : inputs.has name = true
  · rw [Entries.putNew_of_has hhas]
    exact refl inputs
  · rw [Entries.putNew_of_not_has (by simpa using hhas)]
    exact ⟨[(name, .scalar value)], rfl, by simp⟩

/-- A pass that folds over values adds plain values if each of its writes does. -/
theorem foldl {α : Type} (write : Inputs → α → Inputs)
    (hwrite : ∀ inputs x, AddsScalars inputs (write inputs x)) :
    ∀ (xs : List α) (inputs : Inputs), AddsScalars inputs (xs.foldl write inputs)
  | [], inputs => refl inputs
  | x :: xs, inputs => (hwrite inputs x).trans (foldl write hwrite xs (write inputs x))

/-- An input that was there keeps its value. -/
theorem lookup_eq (h : AddsScalars first second) {name : String} {value : InputValue}
    (hvalue : first.lookup name = some value) : second.lookup name = some value := by
  obtain ⟨added, rfl, -⟩ := h
  rw [List.lookup_append, hvalue]
  rfl

/-- A reference was there before. -/
theorem mem_of_reference (h : AddsScalars first second) {name nodeId : String} {index : Int}
    (hmem : (name, InputValue.reference nodeId index) ∈ second) :
    (name, InputValue.reference nodeId index) ∈ first := by
  obtain ⟨added, rfl, hadded⟩ := h
  rcases List.mem_append.mp hmem with hmem | hmem
  · exact hmem
  · obtain ⟨value, hvalue⟩ := hadded _ hmem
    cases hvalue

end AddsScalars

/-! ### The passes -/

namespace Taking

theorem addsScalars_takeSlots : ∀ (slots : List InputSlot) (index : Nat) (taking : Taking),
    AddsScalars taking.inputs (takeSlots index slots taking).inputs
  | [], _, taking => AddsScalars.refl taking.inputs
  | slot :: rest, index, taking => by
      unfold takeSlots
      split_ifs with hskip
      · exact addsScalars_takeSlots rest (index + 1) taking
      · cases hfree : taking.free with
        | nil => exact AddsScalars.refl taking.inputs
        | cons placed free =>
            obtain ⟨position, value⟩ := placed
            exact (AddsScalars.putNew _ _ _).trans (addsScalars_takeSlots rest (index + 1) _)

theorem addsScalars_putNamed (table : WidgetNames) (inputs : Inputs) (placed : PlacedValue) :
    AddsScalars inputs (putNamed table inputs placed) := by
  unfold putNamed
  cases nameAt? table placed.1 with
  | none => exact AddsScalars.refl inputs
  | some name => exact AddsScalars.putNew inputs name placed.2

theorem addsScalars_takeTable (table : WidgetNames) (taking : Taking) :
    AddsScalars taking.inputs (takeTable table taking).inputs :=
  AddsScalars.foldl _ (addsScalars_putNamed table) _ _

theorem addsScalars_takeText (taking : Taking) :
    AddsScalars taking.inputs taking.takeText.inputs := by
  unfold takeText
  split_ifs with hhas
  · exact AddsScalars.refl taking.inputs
  · cases taking.free with
    | nil => exact AddsScalars.refl taking.inputs
    | cons placed free => exact AddsScalars.putNew taking.inputs "text" placed.2

theorem addsScalars_takeRest (taking : Taking) : AddsScalars taking.inputs taking.takeRest :=
  AddsScalars.foldl _ (fun _ _ => AddsScalars.putNew _ _ _) _ _

end Taking

namespace Node

variable (node : Node)

theorem addsScalars_resolveListed (values : List Json) (inputs : Inputs) :
    AddsScalars inputs (node.resolveListed values inputs).1 := by
  unfold resolveListed
  have hslots := Taking.addsScalars_takeSlots node.inputs 0 ⟨inputs, placedFrom 0 values⟩
  generalize Taking.takeSlots 0 node.inputs ⟨inputs, placedFrom 0 values⟩ = declared at hslots ⊢
  -- the text pass and the last one follow, whether or not the kind has a table
  have hrest : ∀ named : Taking, AddsScalars declared.inputs named.inputs →
      AddsScalars inputs
        (if isPromptKind node.kindLower then named.takeText else named).takeRest := by
    intro named hnamed
    split_ifs with hkind
    · exact ((hslots.trans hnamed).trans (Taking.addsScalars_takeText named)).trans
        (Taking.addsScalars_takeRest _)
    · exact (hslots.trans hnamed).trans (Taking.addsScalars_takeRest named)
  cases widgetNames? node.kind with
  | none =>
      dsimp only
      exact hrest declared (AddsScalars.refl _)
  | some table =>
      dsimp only
      exact hrest _ (Taking.addsScalars_takeTable table declared)

theorem addsScalars_resolveNamed (fields : Fields) (inputs : Inputs) :
    AddsScalars inputs (resolveNamed fields inputs) := by
  refine AddsScalars.foldl _ ?_ fields inputs
  intro inputs field
  dsimp only
  split_ifs with hempty
  · exact AddsScalars.refl inputs
  · exact AddsScalars.putNew inputs field.1 field.2

theorem addsScalars_withFilePrefix (inputs : Inputs) :
    AddsScalars inputs (node.withFilePrefix inputs) := by
  unfold withFilePrefix
  split_ifs with hkind
  · exact AddsScalars.putNew _ _ _
  · exact AddsScalars.refl inputs

theorem addsScalars_resolve (inputs : Inputs) : AddsScalars inputs (node.resolve inputs).1 := by
  have hwidgets : AddsScalars inputs (node.resolveWidgets inputs).1 := by
    unfold resolveWidgets
    cases node.widgets with
    | listed values => exact node.addsScalars_resolveListed values inputs
    | named fields => exact addsScalars_resolveNamed fields inputs
  unfold resolve
  dsimp only
  exact hwidgets.trans (node.addsScalars_withFilePrefix _)

end Node

end RenderRelay
