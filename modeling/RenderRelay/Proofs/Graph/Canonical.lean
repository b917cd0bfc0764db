import Mathlib.Data.List.TakeWhile
import RenderRelay.Graph.Normal
import RenderRelay.Graph.Raw
import RenderRelay.Job.Compile
import RenderRelay.Proofs.Except
import RenderRelay.Proofs.Graph.Inject
import RenderRelay.Proofs.Json.Display
import RenderRelay.Proofs.Number.Integer

/-! # Canonical graphs

The reader of raw graphs coerces nearly every field that it keeps.  `Graph.Canonical` holds of the
graphs on which no coercion has anything left to do.

* `Graph.canonical_of_ofJson`: every graph that is read is canonical.
* `Graph.ofJson_toJson_iff`: the raw form of a graph reads back as the graph exactly if the graph
  is canonical.
* `Graph.Canonical.revise`: normalizing and injecting keep a graph canonical, so that a graph reads
  back at every moment between its reading and its compilation (`Graph.ofJson_toJson_revised`). -/

namespace RenderRelay

open Text

/-! ### Kinds -/

theorem isNamed_iff {text : String} :
    isNamed text = true ↔ ∃ c ∈ text.toList, isBlank c = false := by
  unfold isNamed
  rw [Bool.not_eq_true', ← Bool.not_eq_true, String.isEmpty_iff, ← String.toList_eq_nil_iff,
    toList_trim]
  constructor
  · intro hne
    by_contra hblank
    refine hne ?_
    have hall : ∀ c ∈ text.toList, isBlank c = true := by
      intro c hc
      by_contra hc'
      exact hblank ⟨c, hc, by simpa using hc'⟩
    unfold trimBy
    rw [List.dropWhile_eq_nil_iff.mpr hall]
    rfl
  · rintro ⟨c, hc, hblank⟩ hnil
    have hmem := mem_trimBy hc hblank
    rw [hnil] at hmem
    cases hmem

theorem isNamed_trim {text : String} (h : isNamed text = true) : isNamed (trim text) = true := by
  obtain ⟨c, hc, hblank⟩ := isNamed_iff.mp h
  refine isNamed_iff.mpr ⟨c, ?_, hblank⟩
  rw [toList_trim]
  exact mem_trimBy hc hblank

theorem isNamed_kindOrUnknown (kind : Option String) : isNamed (kindOrUnknown kind) = true := by
  unfold kindOrUnknown
  cases hkind : kind.filter isNamed with
  | none => exact isNamed_iff.mpr ⟨'U', by decide, by decide⟩
  | some kind => exact (Option.filter_eq_some_iff.mp hkind).2

/-! ### Slots, nodes and links -/

theorem InputSlot.ofJson_toJson (slot : InputSlot) : ofJson slot.toJson = slot := by
  obtain ⟨name, link, widget, hnamed⟩ := slot
  have hname : (Json.ofText? name).text?.filter (fun name => !name.isEmpty) = name := by
    cases name with
    | none => rfl
    | some name =>
        have hne : name ≠ "" := fun hempty => hnamed (congrArg some hempty)
        exact Option.filter_eq_some_iff.mpr ⟨rfl, by simpa using hne⟩
  rw [InputSlot.mk.injEq]
  refine ⟨hname, rfl, ?_⟩
  cases widget <;> rfl

theorem Widgets.ofJson_toJson (widgets : Widgets) : ofJson widgets.toJson = widgets := by
  cases widgets <;> rfl

/-- What the reader of a raw node leaves: an id, and a kind that is not blank if there is one. -/
structure Node.Canonical (node : Node) : Prop where
  id_ne : node.id ≠ ""
  kind_named : ∀ kind, node.kind = some kind → isNamed kind = true

namespace Node

theorem idAt_ne_empty (index : Nat) (value : Json) : idAt index value ≠ "" := by
  unfold idAt
  split_ifs with hmissing
  · intro hempty
    have hlength := congrArg (fun text => text.toList.length) hempty
    simp at hlength
  · intro hempty
    exact hmissing (Or.inr (Json.display_eq_empty_iff.mp hempty))

theorem canonical_ofFields (index : Nat) (fields : Fields) :
    (ofFields index fields).Canonical := by
  refine ⟨idAt_ne_empty index _, fun kind hkind => ?_⟩
  obtain hkind | ⟨-, hkind⟩ := Option.or_eq_some_iff.mp hkind
  · exact (Option.filter_eq_some_iff.mp hkind).2
  · exact (Option.filter_eq_some_iff.mp hkind).2

theorem canonical_of_mem_ofItems {node : Node} {items : List Json} {index : Nat}
    (h : node ∈ ofItems index items) : node.Canonical := by
  induction items generalizing index with
  | nil => cases h
  | cons item items ih =>
      cases item with
      | obj fields =>
          obtain rfl | h := List.mem_cons.mp h
          · exact canonical_ofFields index fields
          · exact ih h
      | _ => exact ih h

/-- The fields of the raw form of a node. -/
def rawFields (node : Node) : Fields :=
  [("id", .str node.id), ("type", Json.ofText? node.kind),
    ("inputs", .arr (node.inputs.map InputSlot.toJson)),
    ("widgets_values", node.widgets.toJson)] ++
  (match node.title with
    | some title => [("title", .str title)]
    | none => [])

theorem toJson_eq (node : Node) : node.toJson = .obj node.rawFields := rfl

theorem ofFields_rawFields {node : Node} (h : node.Canonical) (index : Nat) :
    ofFields index node.rawFields = node := by
  have hid : idAt index (.str node.id) = node.id := by
    unfold idAt
    rw [if_neg (by simp [h.id_ne]), Json.display_str]
  have hkind : (namedText? (Json.ofText? node.kind)).or none = node.kind := by
    cases hkind : node.kind with
    | none => rfl
    | some kind =>
        have hfilter : namedText? (.str kind) = some kind :=
          Option.filter_eq_some_iff.mpr ⟨rfl, h.kind_named kind hkind⟩
        change (namedText? (.str kind)).or none = some kind
        rw [hfilter, Option.or_none]
  have hinputs : (node.inputs.map InputSlot.toJson).map InputSlot.ofJson = node.inputs := by
    rw [List.map_map]
    exact (List.map_congr_left fun slot _ => InputSlot.ofJson_toJson slot).trans (List.map_id _)
  have htitle : (node.rawFields.get "title").text? = node.title := by
    unfold rawFields
    cases node.title <;> rfl
  have hclass : namedText? (node.rawFields.get "class_type") = none := by
    unfold rawFields
    cases node.title <;> rfl
  change Node.mk (idAt index (.str node.id))
    ((namedText? (Json.ofText? node.kind)).or (namedText? (node.rawFields.get "class_type")))
    (node.rawFields.get "title").text? ((node.inputs.map InputSlot.toJson).map InputSlot.ofJson)
    (Widgets.ofJson node.widgets.toJson) = node
  rw [hid, hclass, hkind, htitle, hinputs, Widgets.ofJson_toJson]

theorem ofItems_map_toJson {nodes : List Node} (h : ∀ node ∈ nodes, node.Canonical)
    (index : Nat) : ofItems index (nodes.map toJson) = nodes := by
  induction nodes generalizing index with
  | nil => rfl
  | cons node nodes ih =>
      rw [List.map_cons, toJson_eq, ofItems, ofFields_rawFields (h node List.mem_cons_self),
        ih fun other hother => h other (List.mem_cons_of_mem node hother)]

end Node

namespace Link

theorem ofJson_toJson (link : Link) : ofJson link.toJson = .ok (some link) := by
  unfold toJson
  dsimp only [ofJson]
  rw [if_neg (by simp)]
  rfl

theorem ofItems_map_toJson (links : List Link) : ofItems (links.map toJson) = .ok links := by
  induction links with
  | nil => rfl
  | cons link links ih =>
      rw [List.map_cons, ofItems, ofJson_toJson, ih]
      rfl

end Link

/-! ### Graphs -/

/-- Every node of the graph is canonical. -/
def Graph.Canonical (graph : Graph) : Prop := ∀ node ∈ graph.nodes, node.Canonical

/-- A change of a graph between its reading and its compilation. -/
inductive Revision where
  | normalize
  | prompts (positive negative : Option String)
  | image (filename : String)
  | sampler (seed steps : Option Int)

namespace Graph

/-- The graph after a change. -/
def revise (graph : Graph) : Revision → Graph
  | .normalize => graph.normalize
  | .prompts positive negative => (graph.injectPrompts positive negative).1
  | .image filename => (graph.injectImage filename).1
  | .sampler seed steps => (graph.injectSampler seed steps).1

/-- The graph after changes, one after another. -/
def reviseAll (graph : Graph) (revisions : List Revision) : Graph := revisions.foldl revise graph

/-- Every graph that is read is canonical. -/
theorem canonical_of_ofJson {payload : Json} {graph : Graph} (h : ofJson payload = .ok graph) :
    graph.Canonical := by
  cases payload with
  | obj fields =>
      obtain ⟨links, -, hgraph⟩ := exists_of_bind_ok h
      obtain rfl := Except.ok.inj hgraph
      exact fun node => Node.canonical_of_mem_ofItems
  | _ => cases h

/-- The raw form of a canonical graph reads back. -/
theorem ofJson_toJson {graph : Graph} (h : graph.Canonical) : ofJson graph.toJson = .ok graph := by
  change (Link.ofItems (graph.links.map Link.toJson) >>= fun links =>
    Except.ok (Graph.mk (Node.ofItems 0 (graph.nodes.map Node.toJson)) links)) = _
  rw [Link.ofItems_map_toJson, Node.ofItems_map_toJson h]
  rfl

/-- Only canonical graphs read back. -/
theorem ofJson_toJson_iff {graph : Graph} : ofJson graph.toJson = .ok graph ↔ graph.Canonical :=
  ⟨canonical_of_ofJson, ofJson_toJson⟩

namespace Canonical

variable {graph : Graph}

theorem normalize (h : graph.Canonical) : graph.normalize.Canonical := by
  intro changed hchanged
  obtain ⟨node, hnode, rfl⟩ := List.mem_map.mp hchanged
  have hcanonical := h node (List.mem_of_mem_filter hnode)
  refine ⟨hcanonical.id_ne, fun kind hkind => ?_⟩
  obtain rfl := Option.some.inj hkind
  exact isNamed_trim (isNamed_kindOrUnknown node.kind)

/-- A change of widget values alone. -/
theorem changeNodes (h : graph.Canonical) {change : Node → Option Node}
    (hchange : OnlyWidgets change) : (graph.changeNodes change).1.Canonical := by
  intro after hafter
  obtain ⟨node, hnode, rfl⟩ := List.mem_map.mp hafter
  obtain ⟨widgets, hwidgets⟩ := node.after_eq hchange
  obtain ⟨hid, hkind⟩ := h node hnode
  rw [Node.after] at hwidgets
  rw [hwidgets]
  exact ⟨hid, hkind⟩

theorem injectImage (h : graph.Canonical) (filename : String) :
    (graph.injectImage filename).1.Canonical := by
  refine h.changeNodes fun node changed hchanged => ?_
  split_ifs at hchanged with himage
  obtain rfl := Option.some.inj hchanged
  exact ⟨_, rfl⟩

theorem revise (h : graph.Canonical) (revision : Revision) : (graph.revise revision).Canonical := by
  cases revision with
  | normalize => exact h.normalize
  | prompts positive negative =>
      exact h.changeNodes (Node.onlyWidgets_promptChange positive negative)
  | image filename => exact h.injectImage filename
  | sampler seed steps => exact h.changeNodes (Node.onlyWidgets_samplerChange seed steps)

theorem reviseAll (h : graph.Canonical) (revisions : List Revision) :
    (graph.reviseAll revisions).Canonical := by
  induction revisions generalizing graph with
  | nil => exact h
  | cons revision revisions ih => exact ih (h.revise revision)

end Canonical

/-- **Graphs read back.**  Whatever is read as a graph, and however it is then normalized and given
run parameters: the raw form of the graph reads as the same graph, and so compiles to the same job,
payload and fingerprint, with the same warnings. -/
theorem ofJson_toJson_revised {payload : Json} {graph : Graph} (h : ofJson payload = .ok graph)
    (revisions : List Revision) :
    ofJson (graph.reviseAll revisions).toJson = .ok (graph.reviseAll revisions) ∧
      (ofJson (graph.reviseAll revisions).toJson).map compile =
        .ok (graph.reviseAll revisions).compile := by
  have hread : ofJson (graph.reviseAll revisions).toJson = .ok (graph.reviseAll revisions) :=
    ofJson_toJson ((canonical_of_ofJson h).reviseAll revisions)
  refine ⟨hread, ?_⟩
  rw [hread]
  rfl

/-- A raw graph whose fields need coercing: a number for an id and a missing one, blanks around a
kind, a slot without a name, a text for a slot index. -/
def rawSketch : Json :=
  .obj [("nodes", .arr [
      .obj [("id", .int 7), ("type", .str " KSampler "),
        ("inputs", .arr [.obj [("name", .str ""), ("link", .int 1), ("widget", .obj [])]]),
        ("widgets_values", .arr [.int 3, .str "fixed", .int 20])],
      .obj [("class_type", .str "CLIPTextEncode"), ("title", .str "Negative"),
        ("widgets_values", .obj [("text", .str "")])]]),
    ("links", .arr [.arr [.int 1, .str "node-1", .str " 0 ", .int 7, .float (.zero false)]])]

/-- The graph that is read from it. -/
def sketch : Graph :=
  ⟨[⟨"7", some " KSampler ", none, [.ofName none (.int 1) false],
      .listed [.int 3, .str "fixed", .int 20]⟩,
    ⟨"node-1", some "CLIPTextEncode", some "Negative", [], .named [("text", .str "")]⟩],
   [⟨.int 1, "node-1", 0, "7", 0⟩]⟩

/-- Normalized, and given a negative prompt and a seed. -/
def sketchRevisions : List Revision :=
  [.normalize, .prompts none (some "dog"), .sampler (some 5) none]

theorem ofJson_toJson_revised_sketch :
    ofJson rawSketch = .ok sketch ∧
      ofJson (sketch.reviseAll sketchRevisions).toJson = .ok (sketch.reviseAll sketchRevisions) ∧
      (ofJson (sketch.reviseAll sketchRevisions).toJson).map compile =
        .ok (sketch.reviseAll sketchRevisions).compile := by
  have hread : ofJson rawSketch = .ok sketch := by rfl
  exact ⟨hread, ofJson_toJson_revised hread sketchRevisions⟩

end Graph

end RenderRelay
