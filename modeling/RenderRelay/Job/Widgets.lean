import RenderRelay.Graph.Basic
import RenderRelay.Job.Basic
import RenderRelay.Job.WidgetTable

/-! # Widget values as inputs

How the widget values of a node become named inputs.  Values in a map have names already.
Values in a list are taken one by one, each at most once, in four passes:

1. `takeSlots`: each unbound declared slot takes the next free value, in order; a seed slot
   also swallows the control choice behind its value.
2. `takeTable`: the widget table names positions; a position without a name is dropped.
3. `takeText`: a node that takes text sends the next free value to `text`.
4. `takeRest`: what is left at position `i` becomes `value` followed by `i`.

An input that has a value already keeps it.  A layout that does not fit the table is reported
in `Warning`s. -/

namespace RenderRelay

open Text Number

/-- A widget value and its position. -/
abbrev PlacedValue := Nat × Json

/-- A layout of widget values that does not fit the table. -/
inductive Warning where
  | valueCount (node kind : String) (expected found : Nat)
  | seedValue (node kind : String) (position : Nat) (name : String) (value : Json)
  | controlValue (node kind : String) (position : Nat) (value : Json)
deriving DecidableEq, Repr

/-- A number in a message. -/
def countText (n : Nat) : String := String.ofList (natDigits n)

/-- A warning in words. -/
def Warning.text : Warning → String
  | .valueCount node kind expected found =>
      s!"Node '{node}' ({kind}): expected {countText expected} widget values, " ++
        s!"found {countText found}; positional mapping may be off"
  | .seedValue node kind position name value =>
      s!"Node '{node}' ({kind}): widget {countText position} mapped to '{name}' " ++
        s!"is {value.quoted}, not an integer"
  | .controlValue node kind position value =>
      s!"Node '{node}' ({kind}): widget {countText position} is {value.quoted}, " ++
        "expected a control_after_generate value"

/-- The inputs of a node so far, and the widget values that nothing has taken. -/
structure Taking where
  inputs : Inputs
  free : List PlacedValue
deriving DecidableEq, Repr

/-- Values with their positions, the first of which is `start`. -/
def placedFrom (start : Nat) : List Json → List PlacedValue
  | [] => []
  | value :: rest => (start, value) :: placedFrom (start + 1) rest

/-- Is the value a choice that an editor puts behind a seed? -/
def isControlValue (value : Json) : Bool :=
  match value with
  | .str s => controlChoices.contains (lower s)
  | _ => false

/-- Is the value an integer?  Truth values are none. -/
def isIntegerValue : Json → Bool
  | .int _ => true
  | _ => false

/-- Drops the value at `position`, if it is the next free one and a control choice. -/
def dropControl (position : Nat) : List PlacedValue → List PlacedValue
  | (p, value) :: rest =>
      if p = position ∧ isControlValue value then rest else (p, value) :: rest
  | [] => []

/-- The name of a slot, its index if it has none. -/
def InputSlot.nameAt (slot : InputSlot) (index : Nat) : String :=
  slot.name.getD (countText index)

namespace Taking

/-- The unbound slots, of which the first has this index, take free values in order. -/
def takeSlots : (index : Nat) → List InputSlot → Taking → Taking
  | _, [], taking => taking
  | index, slot :: rest, taking =>
      if slot.isBound || taking.inputs.has (slot.nameAt index) then
        takeSlots (index + 1) rest taking
      else match taking.free with
        | [] => taking
        | (position, value) :: free =>
            let name := slot.nameAt index
            takeSlots (index + 1) rest
              ⟨taking.inputs.putNew name (.scalar value),
                if isSeedName name then dropControl (position + 1) free else free⟩

/-- The table's name of a position. -/
def nameAt? (table : WidgetNames) (position : Nat) : Option String :=
  (table[position]?).join

/-- Gives a value to the input that the table names. -/
def putNamed (table : WidgetNames) (inputs : Inputs) (placed : PlacedValue) : Inputs :=
  match nameAt? table placed.1 with
  | some name => inputs.putNew name (.scalar placed.2)
  | none => inputs

/-- The table takes every free position that it reaches. -/
def takeTable (table : WidgetNames) (taking : Taking) : Taking :=
  ⟨(taking.free.filter fun placed => placed.1 < table.length).foldl (putNamed table)
      taking.inputs,
    taking.free.filter fun placed => table.length ≤ placed.1⟩

/-- The next free value goes to `text`. -/
def takeText (taking : Taking) : Taking :=
  if taking.inputs.has "text" then taking
  else match taking.free with
    | [] => taking
    | (_, value) :: free => ⟨taking.inputs.putNew "text" (.scalar value), free⟩

/-- What is left is named after its position. -/
def takeRest (taking : Taking) : Inputs :=
  taking.free.foldl (fun inputs (position, value) =>
    inputs.putNew ("value" ++ countText position) (.scalar value)) taking.inputs

end Taking

/-- Seeds among the free positions of the table that are no integers. -/
def seedWarnings (node kind : String) (table : WidgetNames) (free : List PlacedValue) :
    List Warning :=
  free.filterMap fun (position, value) =>
    match Taking.nameAt? table position with
    | some name =>
        if isSeedName name && !isIntegerValue value then
          some (.seedValue node kind position name value)
        else none
    | none => none

/-- Positions behind a seed of the table that hold no control choice; the table's first entry
has this position. -/
def controlWarnings (node kind : String) (values : List Json) :
    (position : Nat) → WidgetNames → List Warning
  | position, some name :: none :: rest =>
      (match values[position + 1]? with
        | some value =>
            if isSeedName name && !isControlValue value then
              [.controlValue node kind (position + 1) value]
            else []
        | none => []) ++ controlWarnings node kind values (position + 2) rest
  | position, _ :: rest => controlWarnings node kind values (position + 1) rest
  | _, [] => []

/-- What does not fit the table, given the values that the slots left free. -/
def tableWarnings (node kind : String) (table : WidgetNames) (values : List Json)
    (free : List PlacedValue) : List Warning :=
  (if values.length = table.length then []
    else [.valueCount node kind table.length values.length]) ++
  seedWarnings node kind table free ++ controlWarnings node kind values 0 table

namespace Node

/-- The listed widget values as inputs, beside those that are there, and what is suspicious. -/
def resolveListed (node : Node) (values : List Json) (inputs : Inputs) :
    Inputs × List Warning :=
  let declared := Taking.takeSlots 0 node.inputs ⟨inputs, placedFrom 0 values⟩
  let (named, warnings) := match widgetNames? node.kind with
    | some table =>
        (declared.takeTable table,
          tableWarnings node.id (node.kind.getD "") table values declared.free)
    | none => (declared, [])
  let texted := if isPromptKind node.kindLower then named.takeText else named
  (texted.takeRest, warnings)

/-- The named widget values as inputs, beside those that are there. -/
def resolveNamed (fields : Fields) (inputs : Inputs) : Inputs :=
  fields.foldl (fun inputs (name, value) =>
    if name.isEmpty then inputs else inputs.putNew name (.scalar value)) inputs

/-- The widget values of a node as inputs, beside those that are there. -/
def resolveWidgets (node : Node) (inputs : Inputs) : Inputs × List Warning :=
  match node.widgets with
  | .listed values => node.resolveListed values inputs
  | .named fields => (resolveNamed fields inputs, [])

end Node

end RenderRelay
