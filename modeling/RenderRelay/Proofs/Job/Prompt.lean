import RenderRelay.Proofs.Job.Declared
import RenderRelay.Proofs.Job.Rewritten
import RenderRelay.Proofs.Job.Wire

/-! # Prompts in the job

A prompt is written into the first widget value of a node, which has no name there.  In the job it
stands under the node's text name (`Node.textName`), whichever pass carries it: an unbound slot of
this name takes it (`takeSlots_sole`), or else the table does, whose first position has this name,
or else the pass for the text (`Node.lookup_texted`).  The passes behind only add.

`Graph.compile_injectPrompts` says so of graphs: what is written reaches the payload, and other
nodes keep their job nodes. -/

namespace RenderRelay

/-! ### The name of the first value -/

/-- Every table begins with a name. -/
theorem exists_first_name {kind : Option String} {table : WidgetNames}
    (h : widgetNames? kind = some table) : ∃ name rest, table = some name :: rest := by
  obtain ⟨key, hentry⟩ := exists_mem_widgetTable h
  have hall : ∀ entry ∈ widgetTable, entry.2.head?.join.isSome = true := by decide
  have hfirst := hall _ hentry
  cases table with
  | nil => cases hfirst
  | cons first rest =>
      obtain ⟨name, hname⟩ := Option.isSome_iff_exists.mp hfirst
      exact ⟨name, rest, congrArg (· :: rest) hname⟩

/-- The input that the first value of a node goes to: the first name of its table, `text` if its
kind is not well known. -/
def Node.textName (node : Node) : String :=
  ((widgetNames? node.kind).bind fun table => table.reduceOption.head?).getD "text"

theorem Node.textName_of_table {node : Node} {table : WidgetNames}
    (h : widgetNames? node.kind = some table) : table[0]? = some (some node.textName) := by
  obtain ⟨name, rest, rfl⟩ := exists_first_name h
  unfold textName
  rw [h, Option.bind_some, List.reduceOption_cons_of_some, List.head?_cons, Option.getD_some]
  rfl

theorem Node.textName_of_no_table {node : Node} (h : widgetNames? node.kind = none) :
    node.textName = "text" := by
  unfold textName
  rw [h]
  rfl

/-! ### The passes -/

namespace Taking

variable {name : String} {position : Nat} {value : Json} {free : List PlacedValue}

/-- If the unbound slots are all of one name, the first value goes to it or is left with all
others. -/
theorem takeSlots_sole (slots : List InputSlot)
    (hslots : ∀ slot ∈ slots, slot.isBound = false → slot.name = some name) :
    ∀ (index : Nat) (inputs : Inputs), inputs.has name = false →
      (takeSlots index slots ⟨inputs, (position, value) :: free⟩).inputs.lookup name =
          some (.scalar value) ∨
        takeSlots index slots ⟨inputs, (position, value) :: free⟩ =
          ⟨inputs, (position, value) :: free⟩ := by
  induction slots with
  | nil => exact fun _ _ _ => Or.inr rfl
  | cons slot slots ih =>
      intro index inputs hnew
      have hrest : ∀ other ∈ slots, other.isBound = false → other.name = some name :=
        fun other hother => hslots other (List.mem_cons_of_mem slot hother)
      cases hbound : slot.isBound with
      | true =>
          rw [takeSlots, hbound, Bool.true_or, if_pos rfl]
          exact ih hrest (index + 1) inputs hnew
      | false =>
          have hat : slot.nameAt index = name := by
            rw [InputSlot.nameAt, hslots slot List.mem_cons_self hbound, Option.getD_some]
          rw [takeSlots, hbound, hat, hnew, Bool.or_false, if_neg Bool.false_ne_true]
          refine Or.inl ((addsScalars_takeSlots slots (index + 1) _).lookup_eq ?_)
          dsimp only
          exact Entries.lookup_putNew_self hnew _

end Taking

namespace Node

variable {node : Node} {value : Json} {rest : List Json} {inputs : Inputs}

/-- The first value is under the text name when the pass for the text is over. -/
theorem lookup_texted (hkind : isPromptKind node.kindLower = true)
    (hslots : ∀ slot ∈ node.inputs, slot.isBound = false → slot.name = some node.textName)
    (hnew : inputs.has node.textName = false) :
    (node.texted (value :: rest) inputs).inputs.lookup node.textName = some (.scalar value) := by
  have htabled := node.addsScalars_tabled (value :: rest) inputs
  have htexted := node.addsScalars_texted (value :: rest) inputs
  obtain htaken | hleft : _ ∨ node.slotted (value :: rest) inputs =
      ⟨inputs, (0, value) :: placedFrom 1 rest⟩ :=
    Taking.takeSlots_sole node.inputs hslots 0 inputs hnew
  · exact (htabled.trans htexted).lookup_eq htaken
  cases htable : widgetNames? node.kind with
  | some table =>
      have hname := textName_of_table htable
      obtain ⟨hlt, -⟩ := List.getElem?_eq_some_iff.mp hname
      refine htexted.lookup_eq ?_
      unfold tabled
      rw [htable, hleft]
      dsimp only
      rw [Taking.takeTable_cons hlt, Taking.putNamed_of_name hname]
      exact (Taking.addsScalars_takeTable table _).lookup_eq (Entries.lookup_putNew_self hnew _)
  | none =>
      rw [textName_of_no_table htable] at hnew ⊢
      unfold texted tabled Taking.takeText
      rw [if_pos hkind, htable, hleft]
      dsimp only
      rw [hnew, if_neg Bool.false_ne_true]
      exact Entries.lookup_putNew_self hnew _

theorem lookup_resolve_text (hlisted : node.widgets = .listed (value :: rest))
    (hkind : isPromptKind node.kindLower = true)
    (hslots : ∀ slot ∈ node.inputs, slot.isBound = false → slot.name = some node.textName)
    (hnew : inputs.has node.textName = false) :
    (node.resolve inputs).1.lookup node.textName = some (.scalar value) := by
  have hwidgets := (node.addsScalars_resolveWidgets _ inputs hlisted).lookup_eq
    (lookup_texted hkind hslots hnew)
  unfold resolve
  dsimp only
  exact (node.addsScalars_withFilePrefix _).lookup_eq hwidgets

/-! ### The nodes that are written to -/

/-- The prompt of the node's side. -/
def sidePrompt (positive negative : Option String) (node : Node) : Option String :=
  if isNegativeTitle node.titleLower then negative else positive

variable {positive negative : Option String} {text : String}

theorem promptFor_eq_some_iff : Graph.promptFor positive negative node = some text ↔
    isPromptKind node.kindLower = true ∧ node.sidePrompt positive negative = some text := by
  unfold Graph.promptFor sidePrompt
  split_ifs with hkind <;> simp [hkind]

theorem promptFor_eq_none_iff : Graph.promptFor positive negative node = none ↔
    isPromptKind node.kindLower = false ∨ node.sidePrompt positive negative = none := by
  unfold Graph.promptFor sidePrompt
  split_ifs with hkind <;> simp [hkind]

theorem promptChange_of_given (hkind : isPromptKind node.kindLower = true)
    (hside : node.sidePrompt positive negative = some text) :
    node.promptChange positive negative = some (node.setFirstWidget (.str text)) := by
  rw [promptChange, promptFor_eq_some_iff.mpr ⟨hkind, hside⟩, Option.map_some]

theorem promptChange_of_not_given
    (h : isPromptKind node.kindLower = false ∨ node.sidePrompt positive negative = none) :
    node.promptChange positive negative = none := by
  rw [promptChange, promptFor_eq_none_iff.mpr h, Option.map_none]

@[simp] theorem kindLower_setFirstWidget (node : Node) (value : Json) :
    (node.setFirstWidget value).kindLower = node.kindLower := rfl

@[simp] theorem inputs_setFirstWidget (node : Node) (value : Json) :
    (node.setFirstWidget value).inputs = node.inputs := rfl

@[simp] theorem textName_setFirstWidget (node : Node) (value : Json) :
    (node.setFirstWidget value).textName = node.textName := rfl

theorem isSome_promptFor (positive negative : Option String) (node : Node) :
    (Graph.promptFor positive negative node).isSome =
      (isPromptKind node.kindLower && (node.sidePrompt positive negative).isSome) := by
  unfold Graph.promptFor sidePrompt
  split_ifs with hkind <;> simp [hkind]

/-- The value is the first of the list, also if that was empty. -/
theorem widgets_setFirstWidget {values : List Json} (hlisted : node.widgets = .listed values)
    (value : Json) :
    (node.setFirstWidget value).widgets = .listed (value :: values.tail) := by
  unfold setFirstWidget
  rw [hlisted]
  cases values <;> rfl

/-- A node after prompts are written: its own is its first widget value, or it is as it was. -/
inductive Prompted (positive negative : Option String) (node : Node) : Node → Prop where
  | written (text : String) (hkind : isPromptKind node.kindLower = true)
      (hside : node.sidePrompt positive negative = some text) :
      Prompted positive negative node (node.setFirstWidget (.str text))
  | left (h : isPromptKind node.kindLower = false ∨ node.sidePrompt positive negative = none) :
      Prompted positive negative node node

theorem prompted_after (positive negative : Option String) (node : Node) :
    node.Prompted positive negative (node.after (promptChange positive negative)) := by
  cases hprompt : Graph.promptFor positive negative node with
  | none =>
      have hleft := promptFor_eq_none_iff.mp hprompt
      rw [after_of_none (promptChange_of_not_given hleft)]
      exact .left hleft
  | some text =>
      obtain ⟨hkind, hside⟩ := promptFor_eq_some_iff.mp hprompt
      rw [after_of_some (promptChange_of_given hkind hside)]
      exact .written text hkind hside

end Node

namespace Graph

variable {graph : Graph} {node : Node} {positive negative : Option String}

/-- A prompt is the input of the node's text name. -/
theorem inputAt?_injectPrompts (h : graph.nodeIds.Nodup) (hnode : node ∈ graph.nodes)
    {values : List Json} {text : String} (hkind : isPromptKind node.kindLower = true)
    (hlisted : node.widgets = .listed values)
    (hside : node.sidePrompt positive negative = some text)
    (hfree : graph.firstHit? node.id node.textName = none)
    (hslots : ∀ slot ∈ node.inputs, slot.isBound = false → slot.name = some node.textName) :
    (graph.injectPrompts positive negative).1.compile.job.inputAt? node.id node.textName =
      some (.scalar (.str text)) := by
  have hnew : (graph.linkInputs node).has node.textName = false := by
    rw [has_linkInputs h hnode, hfree]
    rfl
  unfold Job.inputAt? Entries.get?
  rw [injectPrompts_eq, node?_changeNodes h (Node.onlyWidgets_promptChange _ _) hnode,
    Node.after_of_some (Node.promptChange_of_given hkind hside), Option.bind_some]
  dsimp only
  have hlookup := Node.lookup_resolve_text (Node.widgets_setFirstWidget hlisted (.str text))
    (by simpa using hkind) (by simpa using hslots) (by simpa using hnew)
  rwa [Node.textName_setFirstWidget] at hlookup

/-- **Prompts reach the payload.**  Let a node that takes a prompt list its widget values, let no
link hit the input of its text name, and let its unbound slots have no other name.  If a prompt is
given for the side of its title, it is that input of the node, in the job and in the payload.  All
nodes for which none is given keep their job nodes, and the others are counted. -/
theorem compile_injectPrompts {graph : Graph} (h : graph.nodeIds.Nodup)
    (positive negative : Option String) :
    (∀ node ∈ graph.nodes, ∀ values text, isPromptKind node.kindLower = true →
      node.widgets = .listed values → node.sidePrompt positive negative = some text →
      graph.firstHit? node.id node.textName = none →
      (∀ slot ∈ node.inputs, slot.isBound = false → slot.name = some node.textName) →
        (graph.injectPrompts positive negative).1.compile.job.inputAt? node.id node.textName =
            some (.scalar (.str text)) ∧
          (graph.injectPrompts positive negative).1.payload.inputAt node.id node.textName =
            .str text) ∧
    (∀ node ∈ graph.nodes,
      isPromptKind node.kindLower = false ∨ node.sidePrompt positive negative = none →
        (graph.injectPrompts positive negative).1.compile.job.node? node.id =
          graph.compile.job.node? node.id) ∧
    List.Forall₂ (Node.Prompted positive negative) graph.nodes
      (graph.injectPrompts positive negative).1.nodes ∧
    (graph.injectPrompts positive negative).2 = graph.nodes.countP fun node =>
      isPromptKind node.kindLower && (node.sidePrompt positive negative).isSome := by
  refine ⟨?_, ?_, ?_, ?_⟩
  · intro node hnode values text hkind hlisted hside hfree hslots
    have hinput := inputAt?_injectPrompts h hnode hkind hlisted hside hfree hslots
    refine ⟨hinput, ?_⟩
    unfold payload
    rw [Job.inputAt_toJson, hinput]
    rfl
  · intro node hnode hleft
    exact node?_changeNodes_of_none h (Node.onlyWidgets_promptChange _ _) hnode
      (Node.promptChange_of_not_given hleft)
  · rw [injectPrompts_eq, nodes_changeNodes, List.forall₂_map_right_iff, List.forall₂_same]
    exact fun node _ => node.prompted_after positive negative
  · refine List.countP_congr fun node _ => ?_
    rw [Option.isSome_map, Node.isSome_promptFor]

/-- A node whose unbound slot takes its prompt. -/
def caption : Node :=
  ⟨"1", some "CLIPTextEncode", none,
    [.ofName (some "clip") (.int 5) false, .ofName (some "text") .null true],
    .listed [.str "old"]⟩

/-- A node without values, whose prompt the table names. -/
def flaws : Node := ⟨"2", some "TextEncodeQwenImageEdit", some "NEGATIVE side", [], .listed []⟩

/-- A node of a kind that is not well known. -/
def styler : Node := ⟨"3", some "PromptStyler", some "style", [], .listed [.str "old", .int 4]⟩

/-- A node that takes no prompt. -/
def clipLoader : Node :=
  ⟨"4", some "CLIPLoader", none, [], .listed [.str "clip.safetensors"]⟩

/-- A graph of these, of which the first has a link. -/
def worded : Graph := ⟨[caption, flaws, styler, clipLoader], [⟨.int 5, "4", 0, "1", 0⟩]⟩

/-- The prompts go by a slot, by the table and by the pass for the text. -/
theorem compile_injectPrompts_worded :
    worded.nodeIds.Nodup ∧
      [caption.textName, flaws.textName, styler.textName] = ["text", "prompt", "text"] ∧
      (∀ node text, (node, text) ∈ [(caption, "a cat"), (flaws, "blurry"), (styler, "a cat")] →
        (worded.injectPrompts (some "a cat") (some "blurry")).1.compile.job.inputAt? node.id
          node.textName = some (.scalar (.str text))) ∧
      (worded.injectPrompts (some "a cat") (some "blurry")).1.compile.job.node? clipLoader.id =
        worded.compile.job.node? clipLoader.id ∧
      (worded.injectPrompts (some "a cat") (some "blurry")).2 = 3 := by
  have hnodup : worded.nodeIds.Nodup := by decide
  obtain ⟨hreach, hleft, -, -⟩ := compile_injectPrompts hnodup (some "a cat") (some "blurry")
  refine ⟨hnodup, by decide +kernel, ?_, ?_, by decide +kernel⟩
  · intro node text hmem
    have hfacts : (∃ values, node.widgets = .listed values) ∧
        (node ∈ worded.nodes ∧ isPromptKind node.kindLower = true ∧
          node.sidePrompt (some "a cat") (some "blurry") = some text ∧
          worded.firstHit? node.id node.textName = none ∧
          ∀ slot ∈ node.inputs, slot.isBound = false → slot.name = some node.textName) := by
      simp only [List.mem_cons, Prod.mk.injEq, List.not_mem_nil, or_false] at hmem
      obtain ⟨rfl, rfl⟩ | ⟨rfl, rfl⟩ | ⟨rfl, rfl⟩ := hmem
      · exact ⟨⟨_, rfl⟩, by decide +kernel⟩
      · exact ⟨⟨_, rfl⟩, by decide +kernel⟩
      · exact ⟨⟨_, rfl⟩, by decide +kernel⟩
    obtain ⟨⟨values, hlisted⟩, hnode, hkind, hside, hfree, hslots⟩ := hfacts
    exact (hreach node hnode values text hkind hlisted hside hfree hslots).1
  · exact hleft clipLoader (by decide +kernel) (Or.inl (by decide +kernel))

end Graph

end RenderRelay
