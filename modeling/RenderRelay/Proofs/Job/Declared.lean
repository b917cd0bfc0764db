import Mathlib.Data.List.Infix
import Mathlib.Data.List.ReduceOption
import RenderRelay.Proofs.Job.Origin
import RenderRelay.Proofs.Job.Claims

/-! # Declared slots beside the table

The declared slots of a node take widget values in order; the table takes them by position.

* `WidgetNames.aligned` holds of every table (`aligned_widgetNames`): an unnamed position stands
  right behind a seed, where a seed slot swallows a control choice, or behind all names.  It is what
  keeps the two in step.
* `takeTable_takeSlots`: slots that are named like the first positions of the table take what the
  table would give them, so that the table's pass ends in the same inputs without them.
* `Node.resolveWidgets_boundOnly`: a node keeps its inputs if such slots are removed. -/

namespace RenderRelay

namespace WidgetNames

/-- An unnamed position stands right behind a seed, and behind each one, or behind all names. -/
def aligned : WidgetNames → Bool
  | [] => true
  | none :: rest => rest.all Option.isNone
  | some name :: rest =>
      if isSeedName name then
        match rest with
        | none :: rest => aligned rest
        | _ => false
      else aligned rest

/-- The values behind the seeds of the table are control choices. -/
def Controlled (table : WidgetNames) (values : List Json) : Prop :=
  ∀ position name value, table[position]? = some (some name) → isSeedName name = true →
    values[position + 1]? = some value → isControlValue value = true

instance (table : WidgetNames) (values : List Json) : Decidable (table.Controlled values) :=
  decidable_of_iff (∀ position < table.length, (Taking.nameAt? table position).any isSeedName →
      (values[position + 1]?).all isControlValue) <| by
    unfold Controlled Taking.nameAt?
    constructor
    · intro h position name value hname hseed hvalue
      obtain ⟨hlt, -⟩ := List.getElem?_eq_some_iff.mp hname
      have hall := h position hlt
      rw [hname, hvalue] at hall
      exact hall hseed
    · intro h position _ hseed
      obtain ⟨name, hname, hseed⟩ := (Option.any_eq_true _ _).mp hseed
      rw [Option.all_eq_true]
      exact fun value => h position name value (Option.join_eq_some_iff.mp hname) hseed

variable {table rest : WidgetNames} {name : String}

theorem reduceOption_of_aligned_none (h : aligned (none :: rest) = true) :
    rest.reduceOption = [] := by
  unfold aligned at h
  rw [List.reduceOption, List.filterMap_eq_nil_iff]
  exact fun name hname => Option.isNone_iff_eq_none.mp (List.all_eq_true.mp h name hname)

/-- The position of the next name: behind a seed, the one after its control choice. -/
def next (name : String) (position : Nat) : Nat :=
  if isSeedName name then position + 2 else position + 1

theorem lt_next (name : String) (position : Nat) : position < next name position := by
  unfold next
  split_ifs <;> omega

/-- From a named position on, the names are that one and those from the next name's on. -/
theorem aligned_next {position : Nat} (h : aligned (table.drop position) = true)
    (hname : table[position]? = some (some name)) :
    aligned (table.drop (next name position)) = true ∧
      (table.drop position).reduceOption =
        name :: (table.drop (next name position)).reduceOption ∧
      (isSeedName name = true → table[position + 1]? = some none) := by
  obtain ⟨hlt, hat⟩ := List.getElem?_eq_some_iff.mp hname
  have hdrop := List.drop_eq_getElem_cons hlt
  rw [hat] at hdrop
  rw [hdrop] at h ⊢
  rw [List.reduceOption_cons_of_some]
  unfold aligned at h
  unfold next
  split_ifs at h ⊢ with hseed
  · cases hrest : table.drop (position + 1) with
    | nil =>
        rw [hrest] at h
        cases h
    | cons first rest =>
        rw [hrest] at h
        cases first with
        | none =>
            have htail : table.drop (position + 2) = rest := by
              rw [← List.tail_drop, hrest, List.tail_cons]
            have hnone : table[position + 1]? = some none := by
              rw [← List.head?_drop, hrest, List.head?_cons]
            rw [htail, List.reduceOption_cons_of_none]
            exact ⟨h, rfl, fun _ => hnone⟩
        | some other => cases h
  · exact ⟨h, rfl, fun hseed' => absurd hseed' hseed⟩

/-- The first name from a position on stands at it. -/
theorem exists_name {position : Nat} (h : aligned (table.drop position) = true)
    (hnames : (table.drop position).reduceOption ≠ []) :
    ∃ name, table[position]? = some (some name) := by
  rw [← List.head?_drop]
  cases hrest : table.drop position with
  | nil =>
      rw [hrest] at hnames
      exact absurd rfl hnames
  | cons first rest =>
      cases first with
      | some name => exact ⟨name, rfl⟩
      | none =>
          rw [hrest] at h hnames
          rw [List.reduceOption_cons_of_none] at hnames
          exact absurd (reduceOption_of_aligned_none h) hnames

/-- Induction along the names of an aligned table. -/
theorem aligned_induction
    {motive : (position : Nat) → aligned (table.drop position) = true → Prop}
    (last : ∀ position h, (table.drop position).reduceOption = [] → motive position h)
    (step : ∀ position h name (hname : table[position]? = some (some name)),
      motive (next name position) (aligned_next h hname).1 → motive position h)
    (position : Nat) (h : aligned (table.drop position) = true) : motive position h := by
  induction hleft : table.length - position using Nat.strong_induction_on generalizing position with
  | _ left ih =>
      by_cases hnames : (table.drop position).reduceOption = []
      · exact last position h hnames
      · obtain ⟨name, hname⟩ := exists_name h hnames
        obtain ⟨hlt, -⟩ := List.getElem?_eq_some_iff.mp hname
        have hnext := lt_next name position
        exact step position h name hname (ih _ (by omega) _ _ rfl)

/-- Every table is aligned, and names its positions apart. -/
theorem aligned_widgetNames {kind : Option String} (h : widgetNames? kind = some table) :
    aligned table = true ∧ table.reduceOption.Nodup := by
  obtain ⟨key, hentry⟩ := exists_mem_widgetTable h
  have hall : ∀ entry ∈ widgetTable, aligned entry.2 = true ∧ entry.2.reduceOption.Nodup := by
    decide
  exact hall _ hentry

end WidgetNames

/-! ### The table's pass, one position at a time -/

namespace Taking

variable {table : WidgetNames} {inputs : Inputs} {values : List Json} {position : Nat}
  {value : Json} {free : List PlacedValue}

theorem takeTable_cons (h : position < table.length) :
    takeTable table ⟨inputs, (position, value) :: free⟩ =
      takeTable table ⟨putNamed table inputs (position, value), free⟩ := by
  unfold takeTable
  dsimp only
  rw [List.filter_cons_of_pos (by simpa using h), List.filter_cons_of_neg (by simpa using h),
    List.foldl_cons]

theorem putNamed_of_name {name : String} (h : table[position]? = some (some name)) :
    putNamed table inputs (position, value) = inputs.putNew name (.scalar value) := by
  unfold putNamed nameAt?
  dsimp only
  rw [h]
  rfl

theorem putNamed_of_none (h : table[position]? = some none) :
    putNamed table inputs (position, value) = inputs := by
  unfold putNamed nameAt?
  dsimp only
  rw [h]
  rfl

/-- The table drops the value at a position without a name. -/
theorem takeTable_skip (h : table[position]? = some none) :
    takeTable table ⟨inputs, placedFrom position (values.drop position)⟩ =
      takeTable table ⟨inputs, placedFrom (position + 1) (values.drop (position + 1))⟩ := by
  obtain ⟨hlt, -⟩ := List.getElem?_eq_some_iff.mp h
  obtain hvalue | hnone := Nat.lt_or_ge position values.length
  · rw [List.drop_eq_getElem_cons hvalue, placedFrom, takeTable_cons hlt, putNamed_of_none h]
  · rw [List.drop_of_length_le hnone, List.drop_of_length_le (Nat.le_succ_of_le hnone)]
    rfl

/-- Is there a control choice at a position? -/
def controlAt (values : List Json) (position : Nat) : Bool :=
  (values[position]?).any isControlValue

theorem dropControl_drop (values : List Json) (position : Nat) :
    dropControl position (placedFrom position (values.drop position)) =
      if controlAt values position then placedFrom (position + 1) (values.drop (position + 1))
      else placedFrom position (values.drop position) := by
  unfold controlAt
  obtain hvalue | hnone := Nat.lt_or_ge position values.length
  · rw [List.drop_eq_getElem_cons hvalue, placedFrom, List.getElem?_eq_getElem hvalue, dropControl]
    simp only [true_and, Option.any_some]
  · rw [List.drop_of_length_le hnone, List.getElem?_eq_none_iff.mpr hnone]
    rfl

/-- The next free position behind the one that a slot of this name takes. -/
def behind (values : List Json) (name : String) (position : Nat) : Nat :=
  if isSeedName name && controlAt values (position + 1) then position + 2 else position + 1

theorem free_behind (values : List Json) (name : String) (position : Nat) :
    (if isSeedName name then
        dropControl (position + 1) (placedFrom (position + 1) (values.drop (position + 1)))
      else placedFrom (position + 1) (values.drop (position + 1))) =
      placedFrom (behind values name position) (values.drop (behind values name position)) := by
  unfold behind
  cases isSeedName name with
  | false => rfl
  | true =>
      rw [if_pos rfl, dropControl_drop, Bool.true_and]
      split_ifs <;> rfl

/-- What a slot leaves that is named like its position begins at the next name's. -/
theorem free_next (hcontrolled : table.Controlled values) {name : String}
    (hname : table[position]? = some (some name)) :
    placedFrom (behind values name position) (values.drop (behind values name position)) =
      placedFrom (WidgetNames.next name position)
        (values.drop (WidgetNames.next name position)) := by
  unfold behind controlAt WidgetNames.next
  cases hseed : isSeedName name with
  | false => rfl
  | true =>
      rw [Bool.true_and, if_pos rfl]
      cases hvalue : values[position + 1]? with
      | none =>
          have hlength := List.getElem?_eq_none_iff.mp hvalue
          rw [Option.any_none, if_neg Bool.false_ne_true, List.drop_of_length_le hlength,
            List.drop_of_length_le (Nat.le_succ_of_le hlength)]
          rfl
      | some value =>
          rw [Option.any_some, if_pos (hcontrolled position name value hname hseed hvalue)]

/-- What the table takes from a named position on: the value there, and from the next name's on. -/
theorem takeTable_next (haligned : WidgetNames.aligned (table.drop position) = true)
    {name : String} (hname : table[position]? = some (some name))
    (hvalue : position < values.length) :
    takeTable table ⟨inputs, placedFrom position (values.drop position)⟩ =
      takeTable table ⟨inputs.putNew name (.scalar values[position]),
        placedFrom (WidgetNames.next name position)
          (values.drop (WidgetNames.next name position))⟩ := by
  obtain ⟨hlt, -⟩ := List.getElem?_eq_some_iff.mp hname
  obtain ⟨-, -, hnone⟩ := WidgetNames.aligned_next haligned hname
  rw [List.drop_eq_getElem_cons hvalue, placedFrom, takeTable_cons hlt, putNamed_of_name hname]
  unfold WidgetNames.next
  split_ifs with hseed
  · rw [takeTable_skip (hnone hseed)]
  · rfl

/-- **The slots do the table's work.**  Unbound slots that are named like the positions from this
one on take what the table would take for them. -/
theorem takeTable_takeSlots (hcontrolled : table.Controlled values) (slots : List InputSlot) :
    ∀ (index position : Nat) (inputs : Inputs),
      WidgetNames.aligned (table.drop position) = true →
      (table.drop position).reduceOption.Nodup →
      (∀ name ∈ (table.drop position).reduceOption, inputs.has name = false) →
      (slots.filter fun slot => !slot.isBound).map InputSlot.name <+:
        (table.drop position).reduceOption.map some →
      takeTable table
          (takeSlots index slots ⟨inputs, placedFrom position (values.drop position)⟩) =
        takeTable table ⟨inputs, placedFrom position (values.drop position)⟩ := by
  induction slots with
  | nil => exact fun _ _ _ _ _ _ _ => rfl
  | cons slot slots ih =>
      intro index position inputs haligned hnodup hnew hprefix
      cases hbound : slot.isBound with
      | true =>
          rw [List.filter_cons_of_neg (by simp [hbound])] at hprefix
          rw [takeSlots, hbound, Bool.true_or, if_pos rfl]
          exact ih (index + 1) position inputs haligned hnodup hnew hprefix
      | false =>
          rw [List.filter_cons_of_pos (by simp [hbound]), List.map_cons] at hprefix
          have hsome : (table.drop position).reduceOption ≠ [] := by
            intro hnil
            rw [hnil] at hprefix
            cases List.prefix_nil.mp hprefix
          obtain ⟨name, hname⟩ := WidgetNames.exists_name haligned hsome
          obtain ⟨haligned', hnames, -⟩ := WidgetNames.aligned_next haligned hname
          rw [hnames] at hnodup hnew hprefix
          obtain ⟨hslot, hprefix⟩ := List.cons_prefix_cons.mp hprefix
          obtain ⟨hnot, hnodup⟩ := List.nodup_cons.mp hnodup
          have hat : slot.nameAt index = name := by
            rw [InputSlot.nameAt, hslot, Option.getD_some]
          rw [takeSlots, hbound, hat, hnew name List.mem_cons_self, Bool.or_false,
            if_neg Bool.false_ne_true]
          obtain hvalue | hnone := Nat.lt_or_ge position values.length
          · rw [takeTable_next haligned hname hvalue, List.drop_eq_getElem_cons hvalue, placedFrom]
            dsimp only
            rw [free_behind, free_next hcontrolled hname]
            refine ih (index + 1) _ _ haligned' hnodup ?_ hprefix
            intro other hother
            have hne : other ≠ name := fun heq => hnot (heq ▸ hother)
            rw [Entries.has_putNew, hnew other (List.mem_cons_of_mem name hother),
              decide_eq_false hne, Bool.or_false]
          · rw [List.drop_of_length_le hnone]
            rfl

theorem takeSlots_of_bound (slots : List InputSlot)
    (hbound : ∀ slot ∈ slots, slot.isBound = true) : ∀ (index : Nat) (taking : Taking),
      takeSlots index slots taking = taking := by
  induction slots with
  | nil => exact fun _ _ => rfl
  | cons slot slots ih =>
      intro index taking
      rw [takeSlots, hbound slot List.mem_cons_self, Bool.true_or, if_pos rfl]
      exact ih (fun other hother => hbound other (List.mem_cons_of_mem slot hother)) _ _

end Taking

namespace Node

/-- The node without its unbound slots. -/
def boundOnly (node : Node) : Node :=
  { node with inputs := node.inputs.filter InputSlot.isBound }

/-- **Declared slots change nothing.**  Unbound slots that are named like the first positions of the
table, whatever bound slots stand between them and however many values there are, leave the inputs
as they are without them. -/
theorem resolveWidgets_boundOnly (node : Node) (inputs : Inputs) {table : WidgetNames}
    {values : List Json} (htable : widgetNames? node.kind = some table)
    (hlisted : node.widgets = .listed values) (hcontrolled : table.Controlled values)
    (hnew : ∀ name ∈ table.reduceOption, inputs.has name = false)
    (hslots : (node.inputs.filter fun slot => !slot.isBound).map InputSlot.name <+:
      table.reduceOption.map some) :
    (node.resolveWidgets inputs).1 = (node.boundOnly.resolveWidgets inputs).1 := by
  have hresolve : ∀ other : Node, other.widgets = .listed values →
      (other.resolveWidgets inputs).1 = (other.texted values inputs).takeRest := by
    intro other hother
    rw [← other.resolveListed_fst]
    unfold resolveWidgets
    rw [hother]
  obtain ⟨haligned, hnodup⟩ := WidgetNames.aligned_widgetNames htable
  have hslotted : node.boundOnly.slotted values inputs = unclaimed values inputs :=
    Taking.takeSlots_of_bound _ (fun slot hslot => (List.mem_filter.mp hslot).2) _ _
  have htabled : node.tabled values inputs = node.boundOnly.tabled values inputs := by
    have htable' : widgetNames? node.boundOnly.kind = some table := htable
    unfold tabled
    rw [htable, htable', hslotted]
    exact Taking.takeTable_takeSlots hcontrolled node.inputs 0 0 inputs haligned hnodup hnew hslots
  rw [hresolve node hlisted, hresolve node.boundOnly hlisted]
  unfold texted
  rw [htabled]
  rfl

/-- The table of samplers. -/
def samplerTable : WidgetNames :=
  [some "seed", none, some "steps", some "cfg", some "sampler_name", some "scheduler",
    some "denoise"]

/-- A sampler of which two slots are unbound, with a linked one before and one between them. -/
def declaredSampler : Node :=
  ⟨"3", some "KSampler", none,
    [.ofName (some "model") (.int 1) false, .ofName (some "seed") .null true,
      .ofName (some "positive") (.int 2) false, .ofName (some "steps") .null true],
    .listed [.int 7, .str "fixed", .int 20, .int 8]⟩

/-- Without its slots the table gives the sampler the same inputs, though values are missing. -/
theorem resolveWidgets_boundOnly_declaredSampler :
    (declaredSampler.resolveWidgets [("model", .reference "1" 0)]).1 =
        (declaredSampler.boundOnly.resolveWidgets [("model", .reference "1" 0)]).1 ∧
      declaredSampler.boundOnly.inputs.map InputSlot.name = [some "model", some "positive"] ∧
      (declaredSampler.resolveWidgets [("model", .reference "1" 0)]).1.keys =
        ["model", "seed", "steps", "cfg"] :=
  ⟨declaredSampler.resolveWidgets_boundOnly _
      (show widgetNames? declaredSampler.kind = some samplerTable by decide +kernel) rfl
      (by decide +kernel) (by decide +kernel) ⟨_, rfl⟩,
    by decide +kernel, by decide +kernel⟩

end Node

end RenderRelay
