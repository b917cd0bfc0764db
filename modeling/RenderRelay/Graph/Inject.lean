import RenderRelay.Failure
import RenderRelay.Graph.Basic
import RenderRelay.Job.WidgetTable

/-! # Run parameters in a graph

Before a graph is compiled, the parameters of a run are written into the widget values of its
nodes.  Nodes are chosen by their kind.

* `injectPrompts` writes a text into the first widget of each node that takes a prompt; the
  title decides which of the two texts.
* `injectImage` writes a file name into the first widget of each node that loads an image.
* `injectSampler` writes seed and steps at the positions that the widget table names, as far
  as the node has such positions.

Each answers the new graph and the number of nodes that it wrote to. -/

namespace RenderRelay

namespace Graph

/-- Changes each node for which `change` has a new form, and counts them. -/
def changeNodes (graph : Graph) (change : Node → Option Node) : Graph × Nat :=
  ({ graph with nodes := graph.nodes.map fun node => (change node).getD node },
    graph.nodes.countP fun node => (change node).isSome)

/-- The prompt that goes to a node, if any. -/
def promptFor (positive negative : Option String) (node : Node) : Option String :=
  if isPromptKind node.kindLower then
    if isNegativeTitle node.titleLower then negative else positive
  else none

/-- Writes the prompts; a prompt that is not given leaves the nodes of its side alone. -/
def injectPrompts (graph : Graph) (positive negative : Option String) : Graph × Nat :=
  graph.changeNodes fun node =>
    (promptFor positive negative node).map fun text => node.setFirstWidget (.str text)

/-- Writes the name of the input image. -/
def injectImage (graph : Graph) (filename : String) : Graph × Nat :=
  graph.changeNodes fun node =>
    if isImageKind node.kindLower then some (node.setFirstWidget (.str filename)) else none

/-- What a run puts at a position of this name. -/
def samplerValue (seed steps : Option Int) (name : Option String) : Option Int :=
  match name with
  | none => none
  | some name =>
      if isSeedName name then seed
      else if name = "steps" then steps
      else none

/-- The widget values with seed and steps at the positions of their names. -/
def overwriteSampler (seed steps : Option Int) : WidgetNames → List Json → List Json
  | name :: names, value :: values =>
      (match samplerValue seed steps name with
        | some n => .int n
        | none => value) :: overwriteSampler seed steps names values
  | _, values => values

/-- Is there a position that seed or steps go to? -/
def takesSampler (seed steps : Option Int) : WidgetNames → List Json → Bool
  | name :: names, _ :: values =>
      (samplerValue seed steps name).isSome || takesSampler seed steps names values
  | _, _ => false

/-- Writes seed and steps where they are given. -/
def injectSampler (graph : Graph) (seed steps : Option Int) : Graph × Nat :=
  graph.changeNodes fun node => do
    let names ← widgetNames? node.kind
    match node.widgets with
    | .listed values =>
        if takesSampler seed steps names values then
          some { node with widgets := .listed (overwriteSampler seed steps names values) }
        else none
    | .named _ => none

end Graph

/-- The greatest seed that is drawn. -/
def maxDrawnSeed : Nat := 9999999999

/-- The seed of a run: the one given, or the drawn one if none or a negative one is given. -/
def chooseSeed (drawn : Int) (seed : Option Int) : Int :=
  match seed with
  | some n => if n < 0 then drawn else n
  | none => drawn

/-- The seed of a run that is given as any kind of number: booleans count as zero and one, and
the fraction of a number is cut off. -/
def chooseSeedOf (drawn : Int) : Json → Except Failure Int
  | .null => .ok drawn
  | .bool b => .ok (if b then 1 else 0)
  | .int n => .ok (chooseSeed drawn (some n))
  | .float x =>
      if Double.less x (Double.ofInt 0) then .ok drawn
      else match x with
        | .infinite _ => .error .outOfRange
        | .notANumber => .error .unreadable
        | x => .ok ((Double.truncate? x).getD 0)
  | _ => .error .wrongKind

end RenderRelay
