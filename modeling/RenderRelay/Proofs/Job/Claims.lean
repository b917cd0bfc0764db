import Mathlib.Data.List.Nodup
import Mathlib.Data.List.Range
import RenderRelay.Proofs.Graph.Inject
import RenderRelay.Proofs.Job.Widgets
import RenderRelay.Proofs.Number.Digits

/-! # What claims the widget positions of a node

Four passes take the listed widget values of a node, each from what the passes before it left free.
`Node.claims` lists what they take in the order in which they take it, and for what.

* `perm_claims`: every position is claimed once, none twice and none not at all; each pass shows it
  of the positions that it takes from the free ones (`slotClaims_append`, `perm_tableClaims`,
  `textClaims_append`).
* `foldl_claims`: the inputs of the node are made by its claims, one after another.
* `Claim.written` keeps the claims whose names were new: they are all that is added
  (`foldl_write`), and no two have one name (`fresh_written`).
* `Node.LeavesOut` says why a claim adds nothing, and `Node.resolveWidgets_accounts` puts all
  together. -/

namespace RenderRelay

/-- For what a position is claimed. -/
inductive Claimant where
  | slot (name : String)
  | control
  | table (name : Option String)
  | text
  | rest
deriving DecidableEq, Repr

/-- A claim to a widget position, with the value there. -/
structure Claim where
  claimant : Claimant
  position : Nat
  value : Json
deriving DecidableEq, Repr

namespace Claim

/-- The position and its value. -/
def placed (claim : Claim) : PlacedValue := (claim.position, claim.value)

/-- The input that the claim is for, if it is for one. -/
def name? (claim : Claim) : Option String :=
  match claim.claimant with
  | .slot name => some name
  | .control => none
  | .table name => name
  | .text => some "text"
  | .rest => some ("value" ++ countText claim.position)

/-- The inputs after the claim: its value goes to its input, unless that has one. -/
def write (inputs : Inputs) (claim : Claim) : Inputs :=
  match claim.name? with
  | some name => inputs.putNew name (.scalar claim.value)
  | none => inputs

/-- The claims whose inputs had no value when it was their turn, with the names of the inputs. -/
def written : Inputs → List Claim → List (String × Claim)
  | _, [] => []
  | inputs, claim :: rest =>
      match claim.name? with
      | none => written inputs rest
      | some name =>
          if inputs.has name then written inputs rest
          else (name, claim) :: written (write inputs claim) rest

/-- The input that a claim adds. -/
def entry (added : String × Claim) : String × InputValue := (added.1, .scalar added.2.value)

variable {inputs : Inputs} {claim : Claim} {claims : List Claim} {name : String}

/-- A claim whose input has no value is written. -/
theorem written_of_new (hname : claim.name? = some name) (hnew : inputs.has name = false)
    (claims : List Claim) :
    written inputs (claim :: claims) = (name, claim) :: written (write inputs claim) claims := by
  rw [written, hname]
  dsimp only
  rw [if_neg (by simp [hnew])]

/-- A claim writes nothing, or its input had no value. -/
theorem write_cases (inputs : Inputs) (claim : Claim) :
    (write inputs claim = inputs ∧
      ∀ claims, written inputs (claim :: claims) = written inputs claims) ∨
    ∃ name, claim.name? = some name ∧ inputs.has name = false ∧
      write inputs claim = inputs ++ [(name, .scalar claim.value)] ∧
      ∀ claims, written inputs (claim :: claims) =
        (name, claim) :: written (write inputs claim) claims := by
  cases hname : claim.name? with
  | none =>
      refine Or.inl ⟨?_, fun claims => ?_⟩
      · rw [write, hname]
      · rw [written, hname]
  | some name =>
      cases hhas : inputs.has name with
      | true =>
          refine Or.inl ⟨?_, fun claims => ?_⟩
          · rw [write, hname]
            exact Entries.putNew_of_has hhas
          · rw [written, hname]
            exact if_pos hhas
      | false =>
          refine Or.inr ⟨name, rfl, hhas, ?_, written_of_new hname hhas⟩
          rw [write, hname]
          exact Entries.putNew_of_not_has hhas

/-- What claims add are the inputs of the written ones. -/
theorem foldl_write (claims : List Claim) (inputs : Inputs) :
    claims.foldl write inputs = inputs ++ (written inputs claims).map entry := by
  induction claims generalizing inputs with
  | nil => exact (List.append_nil inputs).symm
  | cons claim claims ih =>
      rw [List.foldl_cons, ih]
      obtain ⟨hwrite, hwritten⟩ | ⟨name, -, -, hwrite, hwritten⟩ := write_cases inputs claim
      · rw [hwrite, hwritten]
      · rw [hwritten, hwrite, List.append_assoc]
        rfl

theorem written_append (claims more : List Claim) (inputs : Inputs) :
    written inputs (claims ++ more) =
      written inputs claims ++ written (claims.foldl write inputs) more := by
  induction claims generalizing inputs with
  | nil => rfl
  | cons claim claims ih =>
      obtain ⟨hwrite, hwritten⟩ | ⟨name, -, -, -, hwritten⟩ := write_cases inputs claim
      · rw [List.cons_append, List.foldl_cons, hwritten, hwritten, hwrite, ih]
      · rw [List.cons_append, List.foldl_cons, hwritten, hwritten, ih]
        rfl

theorem written_sublist (claims : List Claim) (inputs : Inputs) :
    ((written inputs claims).map Prod.snd).Sublist claims := by
  induction claims generalizing inputs with
  | nil => exact List.Sublist.refl []
  | cons claim claims ih =>
      obtain ⟨-, hwritten⟩ | ⟨name, -, -, -, hwritten⟩ := write_cases inputs claim
      · rw [hwritten]
        exact (ih inputs).cons claim
      · rw [hwritten]
        exact (ih _).cons_cons claim

/-- The names of what claims add are new, and each is added once. -/
theorem fresh_written (claims : List Claim) (inputs : Inputs) :
    ((written inputs claims).map Prod.fst).Nodup ∧
      ∀ added ∈ written inputs claims, added.1 ∉ inputs.keys := by
  induction claims generalizing inputs with
  | nil => exact ⟨List.nodup_nil, nofun⟩
  | cons claim claims ih =>
      obtain ⟨-, hwritten⟩ | ⟨name, -, hhas, hwrite, hwritten⟩ := write_cases inputs claim
      · rw [hwritten]
        exact ih inputs
      · have hnew : name ∉ inputs.keys := by
          rw [← Entries.has_iff_mem_keys, hhas]
          exact Bool.false_ne_true
        obtain ⟨hnodup, hfresh⟩ := ih (write inputs claim)
        rw [hwrite] at hnodup hfresh
        rw [hwritten, hwrite]
        have hkeys : ∀ added ∈ written (inputs ++ [(name, .scalar claim.value)]) claims,
            added.1 ∉ inputs.keys ∧ added.1 ≠ name := by
          intro added hadded
          have hnot := hfresh added hadded
          unfold Entries.keys at hnot ⊢
          simpa using hnot
        refine ⟨List.nodup_cons.mpr ⟨?_, hnodup⟩, List.forall_mem_cons.mpr ⟨hnew, ?_⟩⟩
        · intro hmem
          obtain ⟨added, hadded, heq⟩ := List.mem_map.mp hmem
          exact (hkeys added hadded).2 heq
        · exact fun added hadded => (hkeys added hadded).1

/-- The names after claims are those before and those of the claims. -/
theorem mem_keys_foldl_write (h : name ∈ (claims.foldl write inputs).keys) :
    name ∈ inputs.keys ∨ ∃ claim ∈ claims, claim.name? = some name := by
  induction claims generalizing inputs with
  | nil => exact Or.inl h
  | cons claim claims ih =>
      obtain hkey | ⟨other, hother, hname⟩ := ih h
      · obtain ⟨hwrite, -⟩ | ⟨added, hadded, -, hwrite, -⟩ := write_cases inputs claim
        · rw [hwrite] at hkey
          exact Or.inl hkey
        · rw [hwrite] at hkey
          unfold Entries.keys at hkey
          rw [List.map_append] at hkey
          obtain hkey | hkey := List.mem_append.mp hkey
          · exact Or.inl hkey
          · rw [List.mem_singleton.mp hkey]
            exact Or.inr ⟨claim, List.mem_cons_self, hadded⟩
      · exact Or.inr ⟨other, List.mem_cons_of_mem claim hother, hname⟩

/-- A claim whose name is new when it is its turn is written. -/
theorem mem_written {before after : List Claim} (hname : claim.name? = some name)
    (hnew : name ∉ (before.foldl write inputs).keys) :
    (name, claim) ∈ written inputs (before ++ claim :: after) := by
  have hhas : (before.foldl write inputs).has name = false := by
    rw [← Bool.not_eq_true, Entries.has_iff_mem_keys]
    exact hnew
  rw [written_append, written_of_new hname hhas]
  exact List.mem_append_right _ List.mem_cons_self

/-- The name of a claim that is not written was there, or an earlier claim is for it too. -/
theorem name_taken {before after : List Claim} (hname : claim.name? = some name)
    (h : claim ∉ (written inputs (before ++ claim :: after)).map Prod.snd) :
    name ∈ inputs.keys ∨ ∃ other ∈ before, other.name? = some name := by
  refine mem_keys_foldl_write ?_
  by_contra hnew
  exact h (List.mem_map_of_mem (mem_written hname hnew))

end Claim

/-! ### What each pass claims -/

/-- What a seed slot swallows: the value at `position`, if it is the next free one and a control
choice. -/
def controlClaim (position : Nat) : List PlacedValue → List Claim
  | (p, value) :: _ => if p = position ∧ isControlValue value then [⟨.control, p, value⟩] else []
  | [] => []

theorem controlClaim_append (position : Nat) (free : List PlacedValue) :
    (controlClaim position free).map Claim.placed ++ dropControl position free = free := by
  cases free with
  | nil => rfl
  | cons placed free =>
      obtain ⟨p, value⟩ := placed
      unfold controlClaim dropControl
      dsimp only
      split_ifs <;> rfl

theorem eq_of_mem_controlClaim {position : Nat} {free : List PlacedValue} {claim : Claim}
    (h : claim ∈ controlClaim position free) :
    claim.claimant = .control ∧ claim.position = position ∧ isControlValue claim.value = true := by
  cases free with
  | nil => cases h
  | cons placed free =>
      obtain ⟨p, value⟩ := placed
      unfold controlClaim at h
      dsimp only at h
      split_ifs at h with hcontrol
      · rw [List.mem_singleton.mp h]
        exact ⟨rfl, hcontrol⟩
      · cases h

theorem foldl_controlClaim (position : Nat) (free : List PlacedValue) (inputs : Inputs) :
    (controlClaim position free).foldl Claim.write inputs = inputs := by
  cases free with
  | nil => rfl
  | cons placed free =>
      unfold controlClaim
      dsimp only
      split_ifs <;> rfl

namespace Taking

/-- What the declared slots claim, of which the first has this index. -/
def slotClaims : (index : Nat) → List InputSlot → Taking → List Claim
  | _, [], _ => []
  | index, slot :: rest, taking =>
      if slot.isBound || taking.inputs.has (slot.nameAt index) then
        slotClaims (index + 1) rest taking
      else match taking.free with
        | [] => []
        | (position, value) :: free =>
            let name := slot.nameAt index
            ⟨.slot name, position, value⟩ ::
              ((if isSeedName name then controlClaim (position + 1) free else []) ++
                slotClaims (index + 1) rest
                  ⟨taking.inputs.putNew name (.scalar value),
                    if isSeedName name then dropControl (position + 1) free else free⟩)

/-- What the table claims. -/
def tableClaims (table : WidgetNames) (taking : Taking) : List Claim :=
  (taking.free.filter fun placed => placed.1 < table.length).map fun placed =>
    ⟨.table (nameAt? table placed.1), placed.1, placed.2⟩

/-- What is claimed for the text. -/
def textClaims (taking : Taking) : List Claim :=
  if taking.inputs.has "text" then []
  else match taking.free with
    | [] => []
    | (position, value) :: _ => [⟨.text, position, value⟩]

/-- What is claimed at last. -/
def restClaims (taking : Taking) : List Claim :=
  taking.free.map fun placed => ⟨.rest, placed.1, placed.2⟩

/-! ### Each free position is claimed once -/

/-- The slots claim free positions from the first on, and leave the others. -/
theorem slotClaims_append (slots : List InputSlot) : ∀ (index : Nat) (taking : Taking),
    (slotClaims index slots taking).map Claim.placed ++ (takeSlots index slots taking).free =
      taking.free := by
  induction slots with
  | nil => exact fun _ _ => rfl
  | cons slot slots ih =>
      intro index taking
      unfold slotClaims takeSlots
      split_ifs with hskip
      · exact ih (index + 1) taking
      · cases hfree : taking.free with
        | nil =>
            dsimp only
            rw [hfree]
            rfl
        | cons placed free =>
            obtain ⟨position, value⟩ := placed
            dsimp only
            rw [List.map_cons, List.map_append, List.cons_append, List.append_assoc, ih]
            split_ifs
            · rw [controlClaim_append]
              rfl
            · rfl

theorem perm_tableClaims (table : WidgetNames) (taking : Taking) :
    ((tableClaims table taking).map Claim.placed ++ (takeTable table taking).free).Perm
      taking.free := by
  have hplaced : (tableClaims table taking).map Claim.placed =
      taking.free.filter fun placed => placed.1 < table.length := by
    unfold tableClaims
    rw [List.map_map]
    exact List.map_id _
  have hfree : (takeTable table taking).free =
      taking.free.filter fun placed => !decide (placed.1 < table.length) := by
    unfold takeTable
    refine List.filter_congr fun placed _ => ?_
    rw [← decide_not]
    simp
  rw [hplaced, hfree]
  exact List.filter_append_perm _ _

theorem textClaims_append (taking : Taking) :
    taking.textClaims.map Claim.placed ++ taking.takeText.free = taking.free := by
  unfold textClaims takeText
  split_ifs
  · rfl
  · cases hfree : taking.free with
    | nil => exact hfree
    | cons placed free => rfl

theorem restClaims_placed (taking : Taking) : taking.restClaims.map Claim.placed = taking.free := by
  unfold restClaims
  rw [List.map_map]
  exact List.map_id _

/-! ### The inputs are made by the claims -/

theorem foldl_slotClaims (slots : List InputSlot) : ∀ (index : Nat) (taking : Taking),
    (slotClaims index slots taking).foldl Claim.write taking.inputs =
      (takeSlots index slots taking).inputs := by
  induction slots with
  | nil => exact fun _ _ => rfl
  | cons slot slots ih =>
      intro index taking
      unfold slotClaims takeSlots
      split_ifs with hskip
      · exact ih (index + 1) taking
      · cases taking.free with
        | nil => rfl
        | cons placed free =>
            obtain ⟨position, value⟩ := placed
            dsimp only
            rw [List.foldl_cons, List.foldl_append, ← ih]
            congr 1
            split_ifs
            · exact foldl_controlClaim _ _ _
            · rfl

theorem foldl_tableClaims (table : WidgetNames) (taking : Taking) :
    (tableClaims table taking).foldl Claim.write taking.inputs =
      (takeTable table taking).inputs := by
  unfold tableClaims takeTable
  rw [List.foldl_map]
  rfl

theorem foldl_textClaims (taking : Taking) :
    taking.textClaims.foldl Claim.write taking.inputs = taking.takeText.inputs := by
  unfold textClaims takeText
  split_ifs
  · rfl
  · cases taking.free with
    | nil => rfl
    | cons placed free => rfl

theorem foldl_restClaims (taking : Taking) :
    taking.restClaims.foldl Claim.write taking.inputs = taking.takeRest := by
  unfold restClaims takeRest
  rw [List.foldl_map]
  rfl

/-! ### Passes in sequence -/

/-- From one state to the next: the claims take free positions, each once, and make the inputs. -/
structure Takes (before : Taking) (claims : List Claim) (after : Taking) : Prop where
  perm : (claims.map Claim.placed ++ after.free).Perm before.free
  inputs_eq : claims.foldl Claim.write before.inputs = after.inputs

theorem Takes.refl (taking : Taking) : Takes taking [] taking := ⟨List.Perm.refl _, rfl⟩

theorem Takes.trans {first second third : Taking} {claims more : List Claim}
    (h : Takes first claims second) (h' : Takes second more third) :
    Takes first (claims ++ more) third where
  perm := by
    rw [List.map_append, List.append_assoc]
    exact (h'.perm.append_left _).trans h.perm
  inputs_eq := by rw [List.foldl_append, h.inputs_eq, h'.inputs_eq]

theorem takes_takeSlots (index : Nat) (slots : List InputSlot) (taking : Taking) :
    Takes taking (slotClaims index slots taking) (takeSlots index slots taking) :=
  ⟨.of_eq (slotClaims_append slots index taking), foldl_slotClaims slots index taking⟩

theorem takes_takeTable (table : WidgetNames) (taking : Taking) :
    Takes taking (tableClaims table taking) (takeTable table taking) :=
  ⟨perm_tableClaims table taking, foldl_tableClaims table taking⟩

theorem takes_takeText (taking : Taking) : Takes taking taking.textClaims taking.takeText :=
  ⟨.of_eq (textClaims_append taking), foldl_textClaims taking⟩

/-- The last pass leaves no position free. -/
theorem takes_takeRest (taking : Taking) : Takes taking taking.restClaims ⟨taking.takeRest, []⟩ :=
  ⟨.of_eq ((List.append_nil _).trans (restClaims_placed taking)), foldl_restClaims taking⟩

end Taking

/-! ### What a node claims -/

namespace Node

variable (node : Node) (values : List Json) (inputs : Inputs)

/-- Before the passes every position is free. -/
def unclaimed : Taking := ⟨inputs, placedFrom 0 values⟩

/-- After the declared slots. -/
def slotted : Taking := Taking.takeSlots 0 node.inputs (unclaimed values inputs)

/-- After the table, if there is one. -/
def tabled : Taking :=
  match widgetNames? node.kind with
  | some table => (node.slotted values inputs).takeTable table
  | none => node.slotted values inputs

/-- After the text, if the node takes one. -/
def texted : Taking :=
  if isPromptKind node.kindLower then (node.tabled values inputs).takeText
  else node.tabled values inputs

/-- The claims of the declared slots. -/
def slotClaims : List Claim := Taking.slotClaims 0 node.inputs (unclaimed values inputs)

/-- The claims of the table. -/
def tableClaims : List Claim :=
  match widgetNames? node.kind with
  | some table => Taking.tableClaims table (node.slotted values inputs)
  | none => []

/-- The claims for the text. -/
def textClaims : List Claim :=
  if isPromptKind node.kindLower then (node.tabled values inputs).textClaims else []

/-- The last claims. -/
def restClaims : List Claim := (node.texted values inputs).restClaims

/-- All claims, in the order in which they are made. -/
def claims : List Claim :=
  node.slotClaims values inputs ++ node.tableClaims values inputs ++
    node.textClaims values inputs ++ node.restClaims values inputs

theorem resolveListed_fst :
    (node.resolveListed values inputs).1 = (node.texted values inputs).takeRest := by
  unfold resolveListed texted tabled slotted unclaimed
  dsimp only
  cases widgetNames? node.kind with
  | none => dsimp only
  | some table => dsimp only

/-- The table's pass only adds. -/
theorem addsScalars_tabled :
    AddsScalars (node.slotted values inputs).inputs (node.tabled values inputs).inputs := by
  unfold tabled
  cases widgetNames? node.kind with
  | none => exact AddsScalars.refl _
  | some table => exact Taking.addsScalars_takeTable table _

/-- The pass for the text only adds. -/
theorem addsScalars_texted :
    AddsScalars (node.tabled values inputs).inputs (node.texted values inputs).inputs := by
  unfold texted
  split_ifs
  · exact Taking.addsScalars_takeText _
  · exact AddsScalars.refl _

/-- The last pass only adds. -/
theorem addsScalars_resolveWidgets (hlisted : node.widgets = .listed values) :
    AddsScalars (node.texted values inputs).inputs (node.resolveWidgets inputs).1 := by
  unfold resolveWidgets
  rw [hlisted]
  dsimp only
  rw [resolveListed_fst]
  exact Taking.addsScalars_takeRest _

theorem takes_slotted : Taking.Takes (unclaimed values inputs) (node.slotClaims values inputs)
    (node.slotted values inputs) := Taking.takes_takeSlots _ _ _

theorem takes_tabled : Taking.Takes (unclaimed values inputs)
    (node.slotClaims values inputs ++ node.tableClaims values inputs)
    (node.tabled values inputs) := by
  refine (node.takes_slotted values inputs).trans ?_
  unfold tableClaims tabled
  cases widgetNames? node.kind with
  | none => exact Taking.Takes.refl _
  | some table => exact Taking.takes_takeTable table _

theorem takes_texted : Taking.Takes (unclaimed values inputs)
    (node.slotClaims values inputs ++ node.tableClaims values inputs ++
      node.textClaims values inputs) (node.texted values inputs) := by
  refine (node.takes_tabled values inputs).trans ?_
  unfold textClaims texted
  split_ifs
  · exact Taking.takes_takeText _
  · exact Taking.Takes.refl _

/-- The claims of a node take all of its positions, and make its inputs. -/
theorem takes_claims : Taking.Takes (unclaimed values inputs) (node.claims values inputs)
    ⟨(node.resolveListed values inputs).1, []⟩ := by
  rw [resolveListed_fst]
  exact (node.takes_texted values inputs).trans (Taking.takes_takeRest _)

theorem foldl_claims : (node.claims values inputs).foldl Claim.write inputs =
    (node.resolveListed values inputs).1 := by
  have h := (node.takes_claims values inputs).inputs_eq
  dsimp only [unclaimed] at h
  exact h

theorem perm_placed :
    ((node.claims values inputs).map Claim.placed).Perm (placedFrom 0 values) := by
  have h := (node.takes_claims values inputs).perm
  rwa [List.append_nil] at h

end Node

theorem positions_placedFrom (values : List Json) (start : Nat) :
    (placedFrom start values).map Prod.fst = List.range' start values.length := by
  induction values generalizing start with
  | nil => rfl
  | cons value values ih =>
      rw [placedFrom, List.map_cons, ih, List.length_cons, List.range'_succ]

namespace Node

variable (node : Node) (values : List Json) (inputs : Inputs)

/-- Every position is claimed exactly once. -/
theorem perm_claims : ((node.claims values inputs).map Claim.position).Perm
    (List.range values.length) := by
  have h := (node.perm_placed values inputs).map Prod.fst
  rwa [List.map_map, positions_placedFrom, ← List.range_eq_range'] at h

theorem nodup_positions : ((node.claims values inputs).map Claim.position).Nodup :=
  (node.perm_claims values inputs).nodup_iff.mpr List.nodup_range

theorem value_of_mem_claims {claim : Claim} (h : claim ∈ node.claims values inputs) :
    values[claim.position]? = some claim.value := by
  have hplaced := (node.perm_placed values inputs).subset (List.mem_map_of_mem h)
  exact (mem_placedFrom hplaced).2

/-- Two claims to one position are one claim. -/
theorem position_ne_of_split {before after : List Claim} {claim other : Claim}
    (hsplit : node.claims values inputs = before ++ claim :: after) (hother : other ∈ before) :
    other.position ≠ claim.position := by
  have hnodup := node.nodup_positions values inputs
  rw [hsplit, List.map_append, List.map_cons] at hnodup
  have hapart := (List.nodup_append.mp hnodup).2.2
  exact hapart other.position (List.mem_map_of_mem hother) claim.position List.mem_cons_self

end Node

/-! ### The names of the table -/

theorem exists_mem_widgetTable {kind : Option String} {table : WidgetNames}
    (h : widgetNames? kind = some table) : ∃ key, (key, table) ∈ widgetTable := by
  have hlookup : ∀ {key : String}, widgetTable.lookup key = some table →
      ∃ key, (key, table) ∈ widgetTable := fun hfound => ⟨_, Entries.mem_of_lookup hfound⟩
  cases kind with
  | none => cases h
  | some kind =>
      change (widgetTable.lookup kind).or ((widgetTable.lookup (Text.trim kind)).or
        (widgetNamesByLower (Text.lower (Text.trim kind)))) = some table at h
      obtain hexact | ⟨-, h⟩ := Option.or_eq_some_iff.mp h
      · exact hlookup hexact
      obtain htrimmed | ⟨-, h⟩ := Option.or_eq_some_iff.mp h
      · exact hlookup htrimmed
      obtain ⟨⟨key, _⟩, hfound, rfl⟩ := Option.map_eq_some_iff.mp h
      exact ⟨key, List.mem_of_find?_eq_some hfound⟩

/-- No table has one name at two positions, and none has a name of the last pass. -/
theorem widgetTable_names : ∀ entry ∈ widgetTable,
    entry.2.Pairwise (fun name other => name = other → name = none) ∧
      ∀ name ∈ entry.2, name.map (fun name => name.toList.take 5) ≠ some "value".toList := by
  decide

theorem position_eq_of_nameAt? {kind : Option String} {table : WidgetNames}
    (h : widgetNames? kind = some table) {p q : Nat} {name : String}
    (hp : table[p]? = some (some name)) (hq : table[q]? = some (some name)) : p = q := by
  obtain ⟨key, hentry⟩ := exists_mem_widgetTable h
  have hdistinct := List.pairwise_iff_getElem.mp (widgetTable_names _ hentry).1
  obtain ⟨hplt, hp⟩ := List.getElem?_eq_some_iff.mp hp
  obtain ⟨hqlt, hq⟩ := List.getElem?_eq_some_iff.mp hq
  obtain hlt | heq | hlt := Nat.lt_trichotomy p q
  · have hnone := hdistinct p q hplt hqlt hlt (hp.trans hq.symm)
    rw [hp] at hnone
    cases hnone
  · exact heq
  · have hnone := hdistinct q p hqlt hplt hlt (hq.trans hp.symm)
    rw [hq] at hnone
    cases hnone

theorem ne_value_of_mem_table {kind : Option String} {table : WidgetNames}
    (h : widgetNames? kind = some table) {name : String} (hname : some name ∈ table)
    (text : String) : name ≠ "value" ++ text := by
  obtain ⟨key, hentry⟩ := exists_mem_widgetTable h
  rintro rfl
  refine (widgetTable_names _ hentry).2 _ hname ?_
  have hlength : "value".toList.length = 5 := by decide
  rw [Option.map_some, String.toList_append, ← hlength, List.take_left]

theorem text_ne_value (text : String) : "text" ≠ "value" ++ text := by
  intro h
  have hfirst := congrArg (fun name => name.toList.head?) h
  simp at hfirst

theorem countText_injective : Function.Injective countText := fun _ _ h =>
  Number.natDigits_injective (String.ofList_injective h)

/-! ### Claims that add nothing -/

/-- A name has a value before the table's turn: a link's, or one that a declared slot took. -/
def Node.SetBefore (node : Node) (values : List Json) (inputs : Inputs) (name : String) : Prop :=
  name ∈ inputs.keys ∨ ∃ claim : Claim, claim.claimant = .slot name ∧
    (name, claim) ∈ Claim.written inputs (node.claims values inputs)

/-- Why a claim adds no input: it is to the control choice right behind a seed slot's position, or
to a position that the table has no name for or whose name was set, or to one that was left to the
last pass while the name made of it was set. -/
inductive Node.LeavesOut (node : Node) (values : List Json) (inputs : Inputs) (claim : Claim) :
    Prop where
  | control (seed : Claim) (name : String) (hseed : seed ∈ node.claims values inputs)
      (hslot : seed.claimant = .slot name) (hname : isSeedName name = true)
      (hposition : claim.position = seed.position + 1) (hvalue : isControlValue claim.value = true)
  | unnamed (table : WidgetNames) (htable : widgetNames? node.kind = some table)
      (hposition : table[claim.position]? = some none)
  | named (table : WidgetNames) (name : String) (htable : widgetNames? node.kind = some table)
      (hposition : table[claim.position]? = some (some name))
      (hset : node.SetBefore values inputs name)
  | rest (hclaimant : claim.claimant = .rest)
      (hset : node.SetBefore values inputs ("value" ++ countText claim.position))

namespace Taking

/-- A claim of the slots is written, or swallows the control choice behind a seed. -/
theorem mem_slotClaims_cases (slots : List InputSlot) : ∀ (index : Nat) (taking : Taking)
    {claim : Claim}, claim ∈ slotClaims index slots taking →
      (∃ name, claim.claimant = .slot name ∧
        (name, claim) ∈ Claim.written taking.inputs (slotClaims index slots taking)) ∨
      claim.claimant = .control ∧ isControlValue claim.value = true ∧
        ∃ seed ∈ slotClaims index slots taking, ∃ name, seed.claimant = .slot name ∧
          isSeedName name = true ∧ claim.position = seed.position + 1 := by
  induction slots with
  | nil => exact fun _ _ _ h => absurd h List.not_mem_nil
  | cons slot slots ih =>
      intro index taking claim h
      unfold slotClaims at h ⊢
      split_ifs at h ⊢ with hskip
      · exact ih (index + 1) taking h
      · obtain ⟨-, hnew⟩ := Bool.or_eq_false_iff.mp (Bool.eq_false_iff.mpr hskip)
        cases hfree : taking.free with
        | nil =>
            rw [hfree] at h
            cases h
        | cons placed free =>
            obtain ⟨position, value⟩ := placed
            rw [hfree] at h
            dsimp only at h ⊢
            have hname : (Claim.mk (.slot (slot.nameAt index)) position value).name? =
                some (slot.nameAt index) := rfl
            have hwritten := Claim.written_of_new hname hnew
            obtain rfl | h := List.mem_cons.mp h
            · rw [hwritten]
              exact Or.inl ⟨_, rfl, List.mem_cons_self⟩
            obtain hcontrol | htail := List.mem_append.mp h
            · split_ifs at hcontrol with hseed
              · obtain ⟨hclaimant, hposition, hvalue⟩ := eq_of_mem_controlClaim hcontrol
                exact Or.inr ⟨hclaimant, hvalue, _, List.mem_cons_self, _, rfl, hseed, hposition⟩
              · cases hcontrol
            · obtain ⟨name, hslot, hmem⟩ | ⟨hclaimant, hvalue, seed, hseed, hrest⟩ := ih _ _ htail
              · refine Or.inl ⟨name, hslot, ?_⟩
                rw [hwritten, Claim.written_append]
                refine List.mem_cons_of_mem _ (List.mem_append_right _ ?_)
                convert hmem using 2
                split_ifs
                · exact foldl_controlClaim _ _ _
                · rfl
              · exact Or.inr ⟨hclaimant, hvalue, seed,
                  List.mem_cons_of_mem _ (List.mem_append_right _ hseed), hrest⟩

end Taking

/-! ### The claims that add nothing -/

namespace Node

variable (node : Node) (values : List Json) (inputs : Inputs)

/-- What is written of the first claims is written. -/
theorem mem_written_claims {added : String × Claim}
    (h : added ∈ Claim.written inputs (node.slotClaims values inputs)) :
    added ∈ Claim.written inputs (node.claims values inputs) := by
  unfold claims
  rw [List.append_assoc, List.append_assoc, Claim.written_append]
  exact List.mem_append_left _ h

variable {node values inputs} {claim : Claim} {name : String}

theorem mem_claims_of_mem_slotClaims (h : claim ∈ node.slotClaims values inputs) :
    claim ∈ node.claims values inputs := by
  unfold claims
  rw [List.append_assoc, List.append_assoc]
  exact List.mem_append_left _ h

/-- The input of a slot's claim is set by it. -/
theorem setBefore_of_slotClaims (h : claim ∈ node.slotClaims values inputs)
    (hname : claim.name? = some name) : node.SetBefore values inputs name := by
  obtain ⟨own, hslot, hwritten⟩ | ⟨hcontrol, -⟩ := Taking.mem_slotClaims_cases _ _ _ h
  · rw [Claim.name?, hslot, Option.some.injEq] at hname
    subst hname
    exact Or.inr ⟨claim, hslot, node.mem_written_claims values inputs hwritten⟩
  · rw [Claim.name?, hcontrol] at hname
    cases hname

theorem mem_tableClaims (h : claim ∈ node.tableClaims values inputs) :
    ∃ table, widgetNames? node.kind = some table ∧ claim.position < table.length ∧
      claim.claimant = .table (Taking.nameAt? table claim.position) := by
  unfold tableClaims at h
  cases htable : widgetNames? node.kind with
  | none =>
      rw [htable] at h
      cases h
  | some table =>
      rw [htable] at h
      obtain ⟨placed, hplaced, rfl⟩ := List.mem_map.mp h
      exact ⟨table, rfl, of_decide_eq_true (List.mem_filter.mp hplaced).2, rfl⟩

/-- The name of a table's claim is the table's at its position. -/
theorem nameAt_of_mem_tableClaims {table : WidgetNames}
    (htable : widgetNames? node.kind = some table) (h : claim ∈ node.tableClaims values inputs)
    (hname : claim.name? = some name) :
    table[claim.position]? = some (some name) := by
  obtain ⟨table', htable', hlt, hclaimant⟩ := mem_tableClaims h
  cases htable.symm.trans htable'
  rw [Claim.name?, hclaimant] at hname
  exact Option.join_eq_some_iff.mp hname

/-- A slot's claim that is not written swallows a control choice. -/
theorem leavesOut_of_slotClaims (h : claim ∈ node.slotClaims values inputs)
    (hnot : claim ∉ (Claim.written inputs (node.claims values inputs)).map Prod.snd) :
    node.LeavesOut values inputs claim := by
  obtain ⟨name, -, hwritten⟩ | ⟨-, hvalue, seed, hseed, name, hslot, hname, hposition⟩ :=
    Taking.mem_slotClaims_cases _ _ _ h
  · exact absurd (List.mem_map_of_mem (node.mem_written_claims values inputs hwritten)) hnot
  · exact .control seed name (mem_claims_of_mem_slotClaims hseed) hslot hname hposition hvalue

/-- A table's claim that is not written has no name, or one that was set: no other claim of the
table is for it. -/
theorem leavesOut_of_tableClaims (h : claim ∈ node.tableClaims values inputs)
    (hnot : claim ∉ (Claim.written inputs (node.claims values inputs)).map Prod.snd) :
    node.LeavesOut values inputs claim := by
  obtain ⟨table, htable, hlt, hclaimant⟩ := mem_tableClaims h
  cases hname : claim.name? with
  | none =>
      refine .unnamed table htable ?_
      rw [Claim.name?, hclaimant, Taking.nameAt?, List.getElem?_eq_getElem hlt] at hname
      rw [List.getElem?_eq_getElem hlt]
      exact congrArg some hname
  | some name =>
      have hown := nameAt_of_mem_tableClaims htable h hname
      refine .named table name htable hown ?_
      obtain ⟨before, after, hsplit⟩ := List.append_of_mem h
      have hclaims : node.claims values inputs = (node.slotClaims values inputs ++ before) ++
          claim :: (after ++ node.textClaims values inputs ++ node.restClaims values inputs) := by
        unfold claims
        rw [hsplit]
        simp
      rw [hclaims] at hnot
      obtain hkey | ⟨other, hother, hsame⟩ := Claim.name_taken hname hnot
      · exact Or.inl hkey
      obtain hslot | htabled := List.mem_append.mp hother
      · exact setBefore_of_slotClaims hslot hsame
      · have hmem : other ∈ node.tableClaims values inputs := by
          rw [hsplit]
          exact List.mem_append_left _ htabled
        have hposition := position_eq_of_nameAt? htable
          (nameAt_of_mem_tableClaims htable hmem hsame) hown
        exact absurd hposition (node.position_ne_of_split values inputs hclaims hother)

theorem mem_textClaims (h : claim ∈ node.textClaims values inputs) :
    (node.tabled values inputs).inputs.has "text" = false ∧ claim.claimant = .text ∧
      node.textClaims values inputs = [claim] := by
  unfold textClaims Taking.textClaims at h ⊢
  split_ifs at h ⊢ with hkind hhas
  · cases h
  · cases hfree : (node.tabled values inputs).free with
    | nil =>
        rw [hfree] at h
        cases h
    | cons placed free =>
        rw [hfree] at h
        rw [List.mem_singleton.mp h]
        exact ⟨Bool.eq_false_iff.mpr hhas, rfl, rfl⟩
  · cases h

/-- The claim for the text is made when there is none, so it is written. -/
theorem mem_written_of_textClaims (h : claim ∈ node.textClaims values inputs) :
    claim ∈ (Claim.written inputs (node.claims values inputs)).map Prod.snd := by
  obtain ⟨hnew, hclaimant, hclaims⟩ := mem_textClaims h
  have hname : claim.name? = some "text" := by rw [Claim.name?, hclaimant]
  refine List.mem_map.mpr ⟨("text", claim), ?_, rfl⟩
  unfold claims
  rw [hclaims, List.append_assoc, List.singleton_append]
  refine Claim.mem_written hname ?_
  have hinputs := (node.takes_tabled values inputs).inputs_eq
  dsimp only [unclaimed] at hinputs
  rw [hinputs, ← Entries.has_iff_mem_keys, hnew]
  exact Bool.false_ne_true

theorem mem_restClaims (h : claim ∈ node.restClaims values inputs) : claim.claimant = .rest := by
  obtain ⟨placed, -, rfl⟩ := List.mem_map.mp h
  rfl

/-- A claim of the last pass that is not written meets a link or a slot of its name: the table has
no such name, the text has another, and the last pass makes one name of each position. -/
theorem leavesOut_of_restClaims (h : claim ∈ node.restClaims values inputs)
    (hnot : claim ∉ (Claim.written inputs (node.claims values inputs)).map Prod.snd) :
    node.LeavesOut values inputs claim := by
  have hclaimant := mem_restClaims h
  have hname : claim.name? = some ("value" ++ countText claim.position) := by
    rw [Claim.name?, hclaimant]
  refine .rest hclaimant ?_
  obtain ⟨before, after, hsplit⟩ := List.append_of_mem h
  have hclaims : node.claims values inputs = (node.slotClaims values inputs ++
      node.tableClaims values inputs ++ node.textClaims values inputs ++ before) ++
        claim :: after := by
    unfold claims
    rw [hsplit]
    simp
  rw [hclaims] at hnot
  obtain hkey | ⟨other, hother, hsame⟩ := Claim.name_taken hname hnot
  · exact Or.inl hkey
  have hapart := node.position_ne_of_split values inputs hclaims hother
  obtain hother | hrest := List.mem_append.mp hother
  · obtain hother | htext := List.mem_append.mp hother
    · obtain hslot | htable := List.mem_append.mp hother
      · exact setBefore_of_slotClaims hslot hsame
      · obtain ⟨table, hkind, -, -⟩ := mem_tableClaims htable
        have hmem := List.mem_of_getElem? (nameAt_of_mem_tableClaims hkind htable hsame)
        exact absurd rfl (ne_value_of_mem_table hkind hmem _)
    · rw [Claim.name?, (mem_textClaims htext).2.1, Option.some.injEq] at hsame
      exact absurd hsame (text_ne_value _)
  · have hmem : other ∈ node.restClaims values inputs := by
      rw [hsplit]
      exact List.mem_append_left _ hrest
    rw [Claim.name?, mem_restClaims hmem, Option.some.injEq] at hsame
    exact absurd (countText_injective (String.append_right_inj _ |>.mp hsame)) hapart

/-- The widget values of a node are accounted for: between the inputs `before` and `after` its
claims take every position once, and `written` of them are all that is added. -/
structure Accounts (node : Node) (values : List Json) (before after : Inputs)
    (written : List (String × Claim)) : Prop where
  claimed_once : ((node.claims values before).map Claim.position).Perm (List.range values.length)
  value_eq : ∀ claim ∈ node.claims values before, values[claim.position]? = some claim.value
  made_by_claims : (node.claims values before).foldl Claim.write before = after
  added : after = before ++ written.map Claim.entry
  names_nodup : (written.map Prod.fst).Nodup
  names_new : ∀ added ∈ written, added.1 ∉ before.keys
  positions_nodup : (written.map fun added => added.2.position).Nodup
  written_claims : ∀ added ∈ written, added.2 ∈ node.claims values before
  left_out : ∀ claim ∈ node.claims values before, claim ∉ written.map Prod.snd →
    node.LeavesOut values before claim

/-- Listed widget values are accounted for, whatever inputs are there before: every position is
claimed once, the new names and the positions whose values they get stand in one-to-one
correspondence, and each other position is left out for one of the four reasons. -/
theorem resolveWidgets_accounts (node : Node) (values : List Json) (inputs : Inputs)
    (hlisted : node.widgets = .listed values) :
    node.Accounts values inputs (node.resolveWidgets inputs).1
      (Claim.written inputs (node.claims values inputs)) := by
  have hresolve : node.resolveWidgets inputs = node.resolveListed values inputs := by
    unfold resolveWidgets
    rw [hlisted]
  have hmade := node.foldl_claims values inputs
  have hsublist := Claim.written_sublist (node.claims values inputs) inputs
  obtain ⟨hnames, hnew⟩ := Claim.fresh_written (node.claims values inputs) inputs
  rw [hresolve]
  exact {
    claimed_once := node.perm_claims values inputs
    value_eq := fun _ => node.value_of_mem_claims values inputs
    made_by_claims := hmade
    added := by rw [← hmade, Claim.foldl_write]
    names_nodup := hnames
    names_new := hnew
    positions_nodup := by
      have hnodup := (hsublist.map Claim.position).nodup (node.nodup_positions values inputs)
      rwa [List.map_map] at hnodup
    written_claims := fun _ hadded => hsublist.subset (List.mem_map_of_mem hadded)
    left_out := by
      intro claim hclaim hnot
      obtain hclaim | hrest := List.mem_append.mp hclaim
      · obtain hclaim | htext := List.mem_append.mp hclaim
        · obtain hslot | htable := List.mem_append.mp hclaim
          · exact leavesOut_of_slotClaims hslot hnot
          · exact leavesOut_of_tableClaims htable hnot
        · exact absurd (mem_written_of_textClaims htext) hnot
      · exact leavesOut_of_restClaims hrest hnot }

/-- More values than the table of samplers names. -/
def crowdedValues : List Json :=
  [.int 7, .str "fixed", .int 8, .str "high", .str "euler", .str "simple", .int 1, .str "left",
    .str "over"]

/-- A sampler with slots for its seed and for an input that the table names too. -/
def crowdedSampler : Node :=
  ⟨"3", some "KSampler", none,
    [.ofName (some "seed") .null true, .ofName (some "cfg") .null true],
    .listed crowdedValues⟩

/-- A link to an input that is named like a position. -/
def crowdedLinks : Inputs := [("value7", .reference "1" 0)]

/-- The control choice behind the seed, the second value for one name and the value whose name a
link has are left out. -/
theorem resolveWidgets_accounts_crowdedSampler :
    crowdedSampler.widgets = .listed crowdedValues ∧
      crowdedSampler.Accounts crowdedValues crowdedLinks
        (crowdedSampler.resolveWidgets crowdedLinks).1
        (Claim.written crowdedLinks (crowdedSampler.claims crowdedValues crowdedLinks)) ∧
      (Claim.written crowdedLinks (crowdedSampler.claims crowdedValues crowdedLinks)).map
          (fun added => (added.1, added.2.position)) =
        [("seed", 0), ("cfg", 2), ("sampler_name", 4), ("scheduler", 5), ("denoise", 6),
          ("value8", 8)] :=
  ⟨rfl, crowdedSampler.resolveWidgets_accounts crowdedValues crowdedLinks rfl, by decide +kernel⟩

end Node

end RenderRelay
