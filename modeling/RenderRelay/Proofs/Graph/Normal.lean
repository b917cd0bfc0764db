import RenderRelay.Proofs.Graph.Canonical
import RenderRelay.Proofs.Job.Links
import RenderRelay.Proofs.Text.Blank
import RenderRelay.Proofs.Text.Split

/-! # What normalizing keeps, and what it leaves behind

Notes are told by their kinds before the kinds are trimmed.

* `isAnnotationKind_iff_trim`: of the kinds that trim to a note's, those with no blanks but spaces
  are a note's themselves.  A node of any other of them is a hidden note (`Node.IsHiddenNote`).
* `Graph.normalize_closed_iff`: hidden notes stay as notes, and are all that a second pass finds; a
  third pass finds nothing.
* `Node.resolve_of_plain`: the passes over widget values go by a few classes of kinds alone, so a
  missing kind may as well be the unknown one.
* `Graph.normalize_prunes`: what stays of nodes and links, and that a graph without notes and
  without blanks around its kinds is compiled as before. -/

namespace RenderRelay

open Text

/-! ### Kinds of notes -/

/-- What the kinds of notes are told by: the small letters without spaces and underscores. -/
def noteLetters (kind : List Char) : List Char :=
  (kind.flatMap smallLetters).filter fun c => !(c = ' ' || c = '_')

/-- What a kind of notes reads without spaces and underscores. -/
def noteSpellings : List (List Char) := ["note".toList, "markdownnote".toList]

theorem noteLetters_append (kind more : List Char) :
    noteLetters (kind ++ more) = noteLetters kind ++ noteLetters more := by
  unfold noteLetters
  rw [List.flatMap_append, List.filter_append]

theorem noteLetters_of_spaces {kind : List Char} (h : ∀ c ∈ kind, c = ' ') :
    noteLetters kind = [] := by
  have hspace : smallLetters ' ' = [' '] := smallLetters_of_isBlank (by decide)
  unfold noteLetters
  rw [List.filter_eq_nil_iff]
  intro c hc
  obtain ⟨d, hd, hletter⟩ := List.mem_flatMap.mp hc
  rw [h d hd, hspace, List.mem_singleton] at hletter
  simp [hletter]

/-- A blank other than a space is seen. -/
theorem mem_noteLetters_of_isBlank {kind : List Char} {c : Char} (hc : c ∈ kind)
    (hblank : isBlank c = true) (hspace : c ≠ ' ') : c ∈ noteLetters kind := by
  have hmark : c ≠ '_' := by
    rintro rfl
    exact absurd hblank (by decide)
  have hletters : c ∈ kind.flatMap smallLetters := by
    apply List.mem_flatMap_of_mem hc
    rw [smallLetters_of_isBlank hblank]
    exact List.mem_cons_self
  apply List.mem_filter_of_mem hletters
  simp [hspace, hmark]

/-- No kind of notes has a sigma or a blank in its letters. -/
theorem noteSpellings_letters : ∀ letters ∈ noteSpellings,
    'σ' ∉ letters ∧ 'ς' ∉ letters ∧ ∀ c ∈ letters, isBlank c = false := by
  have hall : ∀ letters ∈ noteSpellings, 'σ' ∉ letters ∧ 'ς' ∉ letters ∧
      letters.all (fun c => !isBlank c) = true := by decide
  intro letters hletters
  obtain ⟨hsigma, hfinal, hblank⟩ := hall letters hletters
  refine ⟨hsigma, hfinal, fun c hc => ?_⟩
  simpa using List.all_eq_true.mp hblank c hc

theorem isAnnotationKind_iff {kind : String} : isAnnotationKind (some kind) = true ↔
    'Σ' ∉ kind.toList ∧ noteLetters kind.toList ∈ noteSpellings := by
  have hkey : isAnnotationKind (some kind) = true ↔
      (lowerChars [] kind.toList).filter (fun c => !(c = ' ' || c = '_')) ∈ noteSpellings := by
    have hspelled : ∀ (letters : List Char) (text : String),
        String.ofList letters = text ↔ letters = text.toList := fun letters text =>
      ⟨fun h => by rw [← h, String.toList_ofList], fun h => by rw [h, String.ofList_toList]⟩
    unfold isAnnotationKind without lower noteSpellings
    simp only [String.toList_ofList, Bool.or_eq_true, decide_eq_true_eq, hspelled, List.mem_cons,
      List.not_mem_nil, or_false]
  rw [hkey]
  constructor
  · intro hnote
    have hsigma : 'Σ' ∉ kind.toList := by
      intro hmem
      obtain ⟨hsmall, hfinal, -⟩ := noteSpellings_letters _ hnote
      obtain h | h := sigma_mem_lowerChars hmem []
      · exact hsmall (List.mem_filter_of_mem h (by decide))
      · exact hfinal (List.mem_filter_of_mem h (by decide))
    rw [lowerChars_of_not_mem hsigma] at hnote
    exact ⟨hsigma, hnote⟩
  · rintro ⟨hsigma, hnote⟩
    rwa [lowerChars_of_not_mem hsigma]

/-- Trimming takes nothing of a kind but spaces, if these are its only blanks. -/
theorem noteLetters_trimBy {kind : List Char} (h : ∀ c ∈ kind, isBlank c = true → c = ' ') :
    noteLetters (trimBy isBlank kind) = noteLetters kind := by
  obtain ⟨before, after, haround, hbefore, hafter⟩ := exists_around_trimBy isBlank kind
  generalize trimBy isBlank kind = middle at haround ⊢
  subst haround
  have hfirst : ∀ c ∈ before, c = ' ' := fun c hc =>
    h c (List.mem_append_left _ (List.mem_append_left _ hc)) (hbefore c hc)
  have hlast : ∀ c ∈ after, c = ' ' := fun c hc =>
    h c (List.mem_append_right _ hc) (hafter c hc)
  rw [noteLetters_append, noteLetters_append, noteLetters_of_spaces hfirst,
    noteLetters_of_spaces hlast, List.nil_append, List.append_nil]

/-- A kind is a note's if it trims to a note's and has no blanks but spaces. -/
theorem isAnnotationKind_iff_trim {kind : String} : isAnnotationKind (some kind) = true ↔
    isAnnotationKind (some (trim kind)) = true ∧
      ∀ c ∈ kind.toList, isBlank c = true → c = ' ' := by
  have hsigma : 'Σ' ∈ trimBy isBlank kind.toList ↔ 'Σ' ∈ kind.toList :=
    ⟨mem_of_mem_trimBy, fun h => mem_trimBy h (by decide)⟩
  rw [isAnnotationKind_iff, isAnnotationKind_iff, toList_trim, hsigma]
  constructor
  · rintro ⟨hkind, hspelling⟩
    have hspaces : ∀ c ∈ kind.toList, isBlank c = true → c = ' ' := by
      intro c hc hblank
      by_contra hspace
      obtain ⟨-, -, hnone⟩ := noteSpellings_letters _ hspelling
      have hfalse := hnone c (mem_noteLetters_of_isBlank hc hblank hspace)
      rw [hblank] at hfalse
      cases hfalse
    refine ⟨⟨hkind, ?_⟩, hspaces⟩
    rwa [noteLetters_trimBy hspaces]
  · rintro ⟨⟨hkind, hspelling⟩, hspaces⟩
    refine ⟨hkind, ?_⟩
    rwa [noteLetters_trimBy hspaces] at hspelling

/-! ### Normal kinds -/

theorem isBlank_of_not_isNamed {kind : String} (h : isNamed kind = false) :
    ∀ c ∈ kind.toList, isBlank c = true := by
  intro c hc
  by_contra hblank
  have hnamed := isNamed_iff.mpr ⟨c, hc, Bool.eq_false_iff.mpr hblank⟩
  rw [h] at hnamed
  cases hnamed

theorem trim_of_not_isNamed {kind : String} (h : isNamed kind = false) : trim kind = "" := by
  unfold isNamed at h
  rw [Bool.not_eq_false', String.isEmpty_iff] at h
  exact h

theorem kindOrUnknown_of_isNamed {kind : String} (h : isNamed kind = true) :
    kindOrUnknown (some kind) = kind := by
  unfold kindOrUnknown
  rw [Option.filter_some, if_pos h, Option.getD_some]

theorem kindOrUnknown_of_not_isNamed {kind : String} (h : isNamed kind = false) :
    kindOrUnknown (some kind) = unknownKind := by
  unfold kindOrUnknown
  rw [Option.filter_some, h]
  rfl

theorem trim_unknownKind : trim unknownKind = unknownKind := by decide

namespace Node

variable {node : Node} {kind : String}

/-- A note whose kind has a blank other than a space. -/
def IsHiddenNote (node : Node) : Prop :=
  ∃ kind, node.kind = some kind ∧ isAnnotationKind (some (trim kind)) = true ∧
    ∃ c ∈ kind.toList, isBlank c = true ∧ c ≠ ' '

theorem withNormalKind_of_isNamed (hkind : node.kind = some kind) (hnamed : isNamed kind = true) :
    node.withNormalKind = { node with kind := some (trim kind) } := by
  unfold withNormalKind
  rw [hkind, kindOrUnknown_of_isNamed hnamed]

theorem withNormalKind_of_blank (hblank : ∀ kind, node.kind = some kind → isNamed kind = false) :
    node.withNormalKind = { node with kind := some unknownKind } := by
  have hunknown : kindOrUnknown node.kind = unknownKind := by
    cases hkind : node.kind with
    | none => rfl
    | some kind => exact kindOrUnknown_of_not_isNamed (hblank kind hkind)
  unfold withNormalKind
  rw [hunknown, trim_unknownKind]

theorem withNormalKind_withNormalKind (node : Node) :
    node.withNormalKind.withNormalKind = node.withNormalKind := by
  have hnamed := isNamed_trim (isNamed_kindOrUnknown node.kind)
  rw [withNormalKind_of_isNamed rfl hnamed, trim_trim]
  rfl

/-- Hidden notes are the nodes that become notes when their kinds are trimmed. -/
theorem isHiddenNote_iff : node.IsHiddenNote ↔
    isAnnotationKind node.kind = false ∧ isAnnotationKind node.withNormalKind.kind = true := by
  by_cases hnamed : ∃ kind, node.kind = some kind ∧ isNamed kind = true
  · obtain ⟨kind, hkind, hnamed⟩ := hnamed
    rw [withNormalKind_of_isNamed hkind hnamed, ← Bool.not_eq_true, hkind,
      isAnnotationKind_iff_trim]
    unfold IsHiddenNote
    rw [hkind]
    constructor
    · rintro ⟨_, ⟨⟩, htrimmed, c, hc, hblank, hspace⟩
      exact ⟨fun h => hspace (h.2 c hc hblank), htrimmed⟩
    · rintro ⟨hnot, htrimmed⟩
      refine ⟨kind, rfl, htrimmed, ?_⟩
      by_contra hnone
      refine hnot ⟨htrimmed, fun c hc hblank => ?_⟩
      by_contra hspace
      exact hnone ⟨c, hc, hblank, hspace⟩
  · have hblank : ∀ kind, node.kind = some kind → isNamed kind = false := fun kind hkind =>
      Bool.eq_false_iff.mpr fun h => hnamed ⟨kind, hkind, h⟩
    have hunknown : isAnnotationKind (some unknownKind) = false := by decide +kernel
    have hempty : isAnnotationKind (some "") = false := by decide
    rw [withNormalKind_of_blank hblank, hunknown]
    constructor
    · rintro ⟨kind, hkind, htrimmed, -⟩
      rw [trim_of_not_isNamed (hblank kind hkind), hempty] at htrimmed
      cases htrimmed
    · rintro ⟨-, h⟩
      cases h

theorem not_isHiddenNote_withNormalKind (node : Node) : ¬ node.withNormalKind.IsHiddenNote := by
  intro h
  obtain ⟨hnot, hnote⟩ := isHiddenNote_iff.mp h
  rw [withNormalKind_withNormalKind, hnot] at hnote
  cases hnote

end Node

namespace Graph

variable {graph : Graph} {node : Node}

theorem mem_normalize_iff : node ∈ graph.normalize.nodes ↔
    ∃ source ∈ graph.nodes, isAnnotationKind source.kind = false ∧
      source.withNormalKind = node := by
  unfold normalize
  simp only [List.mem_map, List.mem_filter, Bool.not_eq_true', and_assoc]

/-- The notes of a normalized graph are the hidden ones of the graph. -/
theorem mem_normalize_note_iff :
    node ∈ graph.normalize.nodes ∧ isAnnotationKind node.kind = true ↔
      ∃ source ∈ graph.nodes, source.IsHiddenNote ∧ source.withNormalKind = node := by
  rw [mem_normalize_iff]
  simp only [Node.isHiddenNote_iff]
  constructor
  · rintro ⟨⟨source, hsource, hkept, rfl⟩, hnote⟩
    exact ⟨source, hsource, ⟨hkept, hnote⟩, rfl⟩
  · rintro ⟨source, hsource, ⟨hkept, hnote⟩, rfl⟩
    exact ⟨⟨source, hsource, hkept, rfl⟩, hnote⟩

theorem normalize_notes_iff : (∀ node ∈ graph.normalize.nodes, isAnnotationKind node.kind = false) ↔
    ∀ node ∈ graph.nodes, ¬ node.IsHiddenNote := by
  constructor
  · intro h node hnode hhidden
    obtain ⟨hmem, hnote⟩ := mem_normalize_note_iff.mpr ⟨node, hnode, hhidden, rfl⟩
    rw [h _ hmem] at hnote
    cases hnote
  · intro h node hnode
    by_contra hnote
    rw [Bool.not_eq_false] at hnote
    obtain ⟨source, hsource, hhidden, -⟩ := mem_normalize_note_iff.mp ⟨hnode, hnote⟩
    exact h source hsource hhidden

/-- A normalized graph is normal exactly if it has no notes. -/
theorem normalize_normalize_iff : graph.normalize.normalize = graph.normalize ↔
    ∀ node ∈ graph.normalize.nodes, isAnnotationKind node.kind = false := by
  constructor
  · intro h node hnode
    rw [← h] at hnode
    obtain ⟨source, hsource, hkept, rfl⟩ := mem_normalize_iff.mp hnode
    obtain ⟨first, -, -, rfl⟩ := mem_normalize_iff.mp hsource
    rwa [Node.withNormalKind_withNormalKind]
  · intro h
    have hnodes : (graph.normalize.nodes.filter fun node => !isAnnotationKind node.kind).map
        Node.withNormalKind = graph.normalize.nodes := by
      have hall : ∀ node ∈ graph.normalize.nodes, (!isAnnotationKind node.kind) = true := by
        intro node hnode
        rw [h node hnode, Bool.not_false]
      rw [List.filter_eq_self.mpr hall]
      refine (List.map_congr_left fun node hnode => ?_).trans (List.map_id _)
      obtain ⟨source, -, -, rfl⟩ := mem_normalize_iff.mp hnode
      exact source.withNormalKind_withNormalKind
    have hlinks : graph.normalize.links.filter
        (Link.joins (graph.normalize.nodes.map Node.id)) = graph.normalize.links := by
      apply List.filter_eq_self.mpr
      intro link hlink
      exact (List.mem_filter.mp hlink).2
    change Graph.mk ((graph.normalize.nodes.filter fun node => !isAnnotationKind node.kind).map
      Node.withNormalKind) (graph.normalize.links.filter (Link.joins
        (((graph.normalize.nodes.filter fun node => !isAnnotationKind node.kind).map
          Node.withNormalKind).map Node.id))) = graph.normalize
    rw [hnodes, hlinks]

/-- **Normalizing is closed but for hidden notes.**  The notes of a normalized graph are the hidden
notes of the graph; it has none, and stays as it is when it is normalized again, exactly if there
were no hidden notes; and normalizing twice leaves no note and is closed for every graph. -/
theorem normalize_closed_iff (graph : Graph) :
    (∀ node, node ∈ graph.normalize.nodes ∧ isAnnotationKind node.kind = true ↔
      ∃ note ∈ graph.nodes, note.IsHiddenNote ∧ note.withNormalKind = node) ∧
    ((∀ node ∈ graph.normalize.nodes, isAnnotationKind node.kind = false) ↔
      ∀ node ∈ graph.nodes, ¬ node.IsHiddenNote) ∧
    (graph.normalize.normalize = graph.normalize ↔ ∀ node ∈ graph.nodes, ¬ node.IsHiddenNote) ∧
    (∀ node ∈ graph.normalize.normalize.nodes, isAnnotationKind node.kind = false) ∧
    graph.normalize.normalize.normalize = graph.normalize.normalize := by
  have htwice : ∀ node ∈ graph.normalize.normalize.nodes, isAnnotationKind node.kind = false := by
    rw [normalize_notes_iff]
    intro node hnode
    obtain ⟨source, -, -, rfl⟩ := mem_normalize_iff.mp hnode
    exact source.not_isHiddenNote_withNormalKind
  refine ⟨fun node => mem_normalize_note_iff, normalize_notes_iff, ?_, htwice, ?_⟩
  · rw [normalize_normalize_iff, normalize_notes_iff]
  · rw [normalize_normalize_iff]
    exact htwice

/-- A note whose kind begins with a tab, and a node that it is linked to. -/
def tabbed : Graph :=
  ⟨[⟨"1", some "\tNote", none, [], .listed [.str "to do"]⟩,
    ⟨"2", some "PreviewImage", none, [.ofName (some "images") (.int 1) false], .listed []⟩],
    [⟨.int 1, "1", 0, "2", 0⟩]⟩

/-- The hidden note stays, as a note with its link, and only normalizing again removes it. -/
theorem normalize_tabbed :
    tabbed.normalize.nodes.map Node.kind = [some "Note", some "PreviewImage"] ∧
      isAnnotationKind (some "Note") = true ∧
      tabbed.normalize.links = tabbed.links ∧
      tabbed.normalize.normalize.nodes.map Node.kind = [some "PreviewImage"] ∧
      tabbed.normalize.normalize.links = [] := by
  decide +kernel

end Graph

/-! ### Kinds that no pass goes by -/

/-- Nothing but blanks stands in a text of blanks. -/
theorem hasInfix_of_blank {text needle : String} (h : ∀ c ∈ text.toList, isBlank c = true)
    (hneedle : isNamed needle = true) : hasInfix text needle = false := by
  rw [← Bool.not_eq_true]
  intro hinfix
  obtain ⟨c, hc, hblank⟩ := isNamed_iff.mp hneedle
  have hmem := mem_of_hasInfixChars hinfix c hc
  rw [h c hmem] at hblank
  cases hblank

theorem widgetNames?_of_blank {kind : String} (hnot : isNamed kind = false) :
    widgetNames? (some kind) = none := by
  have hexact : widgetTable.lookup kind = none := by
    have hnamed : ∀ entry ∈ widgetTable, isNamed entry.1 = true := by decide +kernel
    cases hlookup : widgetTable.lookup kind with
    | none => rfl
    | some table =>
        have hkey := hnamed _ (Entries.mem_of_lookup hlookup)
        rw [hnot] at hkey
        cases hkey
  have hempty : (widgetTable.lookup "").or (widgetNamesByLower (lower "")) = none := by
    decide +kernel
  change (widgetTable.lookup kind).or
    ((widgetTable.lookup (trim kind)).or (widgetNamesByLower (lower (trim kind)))) = none
  rw [hexact, trim_of_not_isNamed hnot, hempty]
  rfl

namespace Node

/-- The passes over widget values do not go by the kind: the widget table does not have it, and it
neither takes a prompt nor saves an image. -/
structure Plain (node : Node) : Prop where
  table : widgetNames? node.kind = none
  prompt : isPromptKind node.kindLower = false
  saves : hasInfix node.kindLower "saveimage" = false

/-- Nodes of such kinds that differ in nothing that the passes look at get the same inputs. -/
theorem resolve_of_plain {node other : Node} (h : node.Plain) (h' : other.Plain)
    (hinputs : node.inputs = other.inputs) (hwidgets : node.widgets = other.widgets)
    (inputs : Inputs) : node.resolve inputs = other.resolve inputs := by
  unfold resolve resolveWidgets resolveListed withFilePrefix
  rw [h.table, h.prompt, h.saves, h'.table, h'.prompt, h'.saves, hinputs, hwidgets]

theorem plain_of_unknown {node : Node} (h : node.kind = some unknownKind) : node.Plain := by
  have hlower : node.kindLower = lower unknownKind := by
    unfold kindLower
    rw [h, Option.getD_some]
  constructor
  · rw [h]
    decide +kernel
  · rw [hlower]
    decide +kernel
  · rw [hlower]
    decide +kernel

theorem plain_of_blank {node : Node}
    (h : ∀ kind, node.kind = some kind → isNamed kind = false) : node.Plain := by
  have hblank : ∀ c ∈ (node.kind.getD "").toList, isBlank c = true := by
    cases hkind : node.kind with
    | none => exact fun c hc => absurd hc List.not_mem_nil
    | some kind => exact isBlank_of_not_isNamed (h kind hkind)
  have hlower : node.kindLower = node.kind.getD "" := lower_of_blank hblank
  constructor
  · cases hkind : node.kind with
    | none => rfl
    | some kind => exact widgetNames?_of_blank (h kind hkind)
  · rw [hlower]
    unfold isPromptKind
    rw [hasInfix_of_blank hblank (by decide), hasInfix_of_blank hblank (by decide)]
    rfl
  · rw [hlower]
    exact hasInfix_of_blank hblank (by decide)

/-- A kind without blanks around it may be missing instead of unknown. -/
theorem resolve_withNormalKind {node : Node}
    (htrimmed : ∀ kind ∈ node.kind, isNamed kind = true → trim kind = kind)
    (inputs : Inputs) : node.withNormalKind.resolve inputs = node.resolve inputs := by
  by_cases hnamed : ∃ kind, node.kind = some kind ∧ isNamed kind = true
  · obtain ⟨kind, hkind, hnamed⟩ := hnamed
    rw [withNormalKind_of_isNamed hkind hnamed, htrimmed kind hkind hnamed, ← hkind]
  · have hblank : ∀ kind, node.kind = some kind → isNamed kind = false := fun kind hkind =>
      Bool.eq_false_iff.mpr fun h => hnamed ⟨kind, hkind, h⟩
    have hplain : ({ node with kind := some unknownKind } : Node).Plain := plain_of_unknown rfl
    rw [withNormalKind_of_blank hblank]
    exact resolve_of_plain hplain (plain_of_blank hblank) rfl rfl inputs

theorem kindOrUnknown_withNormalKind {node : Node}
    (htrimmed : ∀ kind ∈ node.kind, isNamed kind = true → trim kind = kind) :
    kindOrUnknown node.withNormalKind.kind = kindOrUnknown node.kind := by
  have hkind : trim (kindOrUnknown node.kind) = kindOrUnknown node.kind := by
    unfold kindOrUnknown
    cases hfilter : node.kind.filter isNamed with
    | none => exact trim_unknownKind
    | some kind =>
        obtain ⟨hown, hnamed⟩ := Option.filter_eq_some_iff.mp hfilter
        exact htrimmed kind hown hnamed
  unfold withNormalKind
  rw [hkind]
  exact kindOrUnknown_of_isNamed (isNamed_kindOrUnknown node.kind)

/-- A node as normalizing leaves it: its kind is trimmed and not blank, that of the node if it has
one, and all else is as it was. -/
structure NormalOf (node normal : Node) : Prop where
  id : normal.id = node.id
  title : normal.title = node.title
  inputs : normal.inputs = node.inputs
  widgets : normal.widgets = node.widgets
  kind : ∃ kind, normal.kind = some kind ∧ trim kind = kind ∧ isNamed kind = true ∧
    kind = trim (kindOrUnknown node.kind)

theorem normalOf_withNormalKind (node : Node) : node.NormalOf node.withNormalKind where
  id := rfl
  title := rfl
  inputs := rfl
  widgets := rfl
  kind := ⟨_, rfl, trim_trim _, isNamed_trim (isNamed_kindOrUnknown node.kind), rfl⟩

end Node

/-! ### The graph without its notes -/

namespace Graph

variable {graph : Graph}

/-- The nodes that are no notes. -/
def keptNodes (graph : Graph) : List Node :=
  graph.nodes.filter fun node => !isAnnotationKind node.kind

/-- The graph has no notes. -/
def NoteFree (graph : Graph) : Prop := ∀ node ∈ graph.nodes, isAnnotationKind node.kind = false

/-- No kind of the graph but a blank one has blanks around it. -/
def KindsTrimmed (graph : Graph) : Prop :=
  ∀ node ∈ graph.nodes, ∀ kind ∈ node.kind, isNamed kind = true → trim kind = kind

theorem nodes_normalize (h : graph.NoteFree) :
    graph.normalize.nodes = graph.nodes.map Node.withNormalKind := by
  have hall : ∀ node ∈ graph.nodes, (!isAnnotationKind node.kind) = true := by
    intro node hnode
    rw [h node hnode, Bool.not_false]
  unfold normalize
  dsimp only
  rw [List.filter_eq_self.mpr hall]

theorem nodeIds_normalize (h : graph.NoteFree) : graph.normalize.nodeIds = graph.nodeIds := by
  unfold nodeIds
  rw [nodes_normalize h, List.map_map]
  rfl

theorem lastNode?_normalize (h : graph.NoteFree) (id : String) :
    graph.normalize.lastNode? id = (graph.lastNode? id).map Node.withNormalKind := by
  unfold lastNode?
  rw [nodes_normalize h, ← List.map_reverse, List.find?_map]
  rfl

theorem slotName_withNormalKind (node : Node) (index : Int) :
    node.withNormalKind.slotName index = node.slotName index := by
  cases index <;> rfl

/-- Of a link only the slots of its destination matter. -/
theorem wireLink_normalize (h : graph.NoteFree) (job : Job) (link : Link) :
    graph.normalize.wireLink job link = graph.wireLink job link := by
  unfold wireLink
  rw [lastNode?_normalize h, lastNode?_normalize h]
  cases graph.lastNode? link.sourceId with
  | none => rfl
  | some source =>
      cases graph.lastNode? link.destId with
      | none => rfl
      | some dest =>
          dsimp only [Option.map_some]
          rw [slotName_withNormalKind]

/-- The links that are dropped are those that no pass looks at. -/
theorem wireLinks_normalize (h : graph.NoteFree) (job : Job) :
    graph.normalize.wireLinks job = graph.wireLinks job := by
  have hlinks : graph.normalize.links = graph.links.filter (Link.joins graph.nodeIds) := by
    rw [← nodeIds_normalize h]
    rfl
  unfold wireLinks
  rw [hlinks, List.foldl_filter]
  apply List.foldl_ext
  intro job link _
  by_cases hjoins : link.joins graph.nodeIds = true
  · rw [if_pos hjoins, wireLink_normalize h]
  · rw [if_neg hjoins, wireLink_of_not_joins (Bool.eq_false_iff.mpr hjoins)]

theorem placeNodes_normalize (h : graph.NoteFree) (htrimmed : graph.KindsTrimmed) :
    graph.normalize.placeNodes = graph.placeNodes := by
  unfold placeNodes
  rw [nodes_normalize h, List.foldl_map]
  apply List.foldl_ext
  intro job node hnode
  rw [Node.kindOrUnknown_withNormalKind (htrimmed node hnode), Node.id_withNormalKind]

theorem compile_normalize (h : graph.NoteFree) (htrimmed : graph.KindsTrimmed) :
    graph.normalize.compile = graph.compile := by
  unfold compile
  rw [wireLinks_normalize h, placeNodes_normalize h htrimmed, nodes_normalize h, List.foldl_map]
  apply List.foldl_ext
  intro compiled node hnode
  unfold resolveNode
  rw [Node.id_withNormalKind]
  cases compiled.job.node? node.id with
  | none => rfl
  | some made =>
      dsimp only
      rw [Node.resolve_withNormalKind (htrimmed node hnode)]

/-- **Normalizing prunes, and means the same.**  The nodes that are no notes stay, in order, each
with a kind that is trimmed and not blank and else as it was; the links between them stay, in
order; and a graph without notes and without blanks around its kinds is compiled as before, to the
same job, and so to the same payload and fingerprint, with the same warnings. -/
theorem normalize_prunes (graph : Graph) :
    List.Forall₂ Node.NormalOf graph.keptNodes graph.normalize.nodes ∧
    graph.normalize.links = graph.links.filter (fun link => decide
      (link.sourceId ∈ graph.keptNodes.map Node.id ∧
        link.destId ∈ graph.keptNodes.map Node.id)) ∧
    (graph.NoteFree → graph.KindsTrimmed → graph.normalize.compile = graph.compile) := by
  refine ⟨?_, ?_, compile_normalize⟩
  · change List.Forall₂ Node.NormalOf graph.keptNodes (graph.keptNodes.map Node.withNormalKind)
    rw [List.forall₂_map_right_iff, List.forall₂_same]
    exact fun node _ => node.normalOf_withNormalKind
  · have hids : (graph.keptNodes.map Node.withNormalKind).map Node.id =
        graph.keptNodes.map Node.id := by
      rw [List.map_map]
      rfl
    change graph.links.filter (Link.joins ((graph.keptNodes.map Node.withNormalKind).map Node.id)) =
      _
    rw [hids]
    apply List.filter_congr
    intro link _
    unfold Link.joins
    rw [Bool.eq_iff_iff]
    simp

/-- Two nodes of one id, without a kind and with a blank one, a prompt, and a link that has lost an
end. -/
def loose : Graph :=
  ⟨[⟨"1", none, none, [], .listed [.int 1]⟩,
    ⟨"1", some " \t", none, [], .listed [.int 1, .int 2]⟩,
    ⟨"2", some "CLIPTextEncode", none, [.ofName (some "clip") (.int 1) false],
      .listed [.str "a cat"]⟩],
    [⟨.int 1, "1", 0, "2", 0⟩, ⟨.int 2, "9", 0, "2", 0⟩]⟩

theorem normalize_prunes_loose :
    loose.NoteFree ∧ loose.KindsTrimmed ∧ loose.normalize ≠ loose ∧
      loose.normalize.compile = loose.compile := by
  have hnotes : loose.NoteFree := by
    unfold NoteFree
    decide +kernel
  have htrimmed : loose.KindsTrimmed := by
    unfold KindsTrimmed
    decide +kernel
  exact ⟨hnotes, htrimmed, by decide +kernel, loose.normalize_prunes.2.2 hnotes htrimmed⟩

end Graph

end RenderRelay
