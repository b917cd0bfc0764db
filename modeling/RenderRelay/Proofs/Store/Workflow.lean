import RenderRelay.Proofs.Json.Display
import RenderRelay.Proofs.Json.Spelled
import RenderRelay.Store.Workflow

/-! # Stored workflows, written and read

* `Json.Spelled.get`, `Json.Spelled.items`: the parts of a spelled value are spelled.
* `WorkflowSummary.spelled_ofGraph`: the summary of a spelled graph is spelled, and
  `WorkflowSummary.ofFields_toFields`: every summary reads back.
* `StoredWorkflow.Sound` holds of the workflows that the store keeps; `ofFields_storedFields` reads
  them back and `sound_ofImport` says that an import brings nothing else. -/

namespace RenderRelay

open Number

/-! ### Parts of spelled values -/

namespace Json

variable {limit : Nat}

theorem spelled_lookup {fields : Fields} {key : String} {value : Json}
    (h : (Json.obj fields).Spelled limit) (hlookup : fields.lookup key = some value) :
    value.Spelled limit := by
  cases h with
  | obj _ hkeys hvalues => exact hvalues _ (Entries.mem_of_lookup hlookup)

theorem spelled_get {fields : Fields} (h : (Json.obj fields).Spelled limit) (key : String) :
    (fields.get key).Spelled limit := by
  unfold Fields.get
  cases hlookup : fields.lookup key with
  | none => exact Spelled.null
  | some value => exact spelled_lookup h hlookup

theorem Spelled.get {value : Json} (h : value.Spelled limit) (key : String) :
    (value.get key).Spelled limit := by
  cases value with
  | obj fields => exact spelled_get h key
  | _ => exact Spelled.null

theorem Spelled.mem_items {value item : Json} (h : value.Spelled limit)
    (hitem : item ∈ value.items) : item.Spelled limit := by
  cases h with
  | arr items hlength hitems => exact hitems item hitem
  | _ => cases hitem

theorem Spelled.length_items {value : Json} (h : value.Spelled limit) :
    value.items.length ≤ limit := by
  cases h with
  | arr items hlength hitems => exact hlength
  | _ => exact Nat.zero_le limit

theorem spelled_ofText? (text : Option String) : (Json.ofText? text).Spelled limit := by
  cases text with
  | none => exact Spelled.null
  | some text => exact Spelled.str text

end Json

/-! ### Summaries -/

namespace WorkflowSummary

theorem ofFields_toFields (summary : WorkflowSummary) :
    ofFields summary.toFields = .ok summary := by
  have hfields : ∀ fields : Fields, readFields (.obj fields) = .ok fields := by
    intro fields
    cases fields with
    | nil => rfl
    | cons field rest => rfl
  have hitems : ∀ items : List Json, readItems (.arr items) = .ok items := by
    intro items
    cases items with
    | nil => rfl
    | cons item rest => rfl
  unfold ofFields
  change (readFields (.obj summary.kindCounts) >>= _) = _
  rw [hfields]
  change (readItems (.arr summary.loadImageNodes) >>= _) = _
  rw [hitems]
  change (readItems (.arr summary.saveImageNodes) >>= _) = _
  rw [hitems]
  change (readItems (.arr summary.promptNodes) >>= _) = _
  rw [hitems]
  change (readItems (.arr summary.positivePromptNodes) >>= _) = _
  rw [hitems]
  change (readItems (.arr summary.negativePromptNodes) >>= _) = _
  rw [hitems]
  rfl

/-! ### Summaries of graphs -/

variable {limit : Nat}

/-- Counts of kinds: each kind stands once, and no count is above a bound. -/
def CountsWithin (bound : Nat) (counts : Entries Nat) : Prop :=
  counts.keys.Nodup ∧ ∀ entry ∈ counts, entry.2 ≤ bound

theorem countsWithin_countKind {bound : Nat} {counts : Entries Nat} (h : CountsWithin bound counts)
    (kind : String) : CountsWithin (bound + 1) (countKind counts kind) := by
  obtain ⟨hkeys, hcounts⟩ := h
  refine ⟨Entries.nodup_keys_put hkeys kind _, ?_⟩
  intro entry hentry
  obtain rfl | ⟨hold, -⟩ := (Entries.mem_put_iff hkeys).mp hentry
  · have hle : (counts.get? kind).getD 0 ≤ bound := by
      cases hfound : counts.get? kind with
      | none => exact Nat.zero_le _
      | some count => exact hcounts _ (Entries.mem_of_lookup hfound)
    exact Nat.succ_le_succ hle
  · exact Nat.le_succ_of_le (hcounts entry hold)

theorem countsWithin_foldl (kinds : List String) {bound : Nat} {counts : Entries Nat}
    (h : CountsWithin bound counts) :
    CountsWithin (bound + kinds.length) (kinds.foldl countKind counts) := by
  induction kinds generalizing bound counts with
  | nil => exact h
  | cons kind kinds ih =>
      have hnext := ih (countsWithin_countKind h kind)
      rwa [Nat.add_right_comm, Nat.add_assoc] at hnext

/-- No kind is counted more often than there are nodes. -/
theorem countsWithin_countKinds (briefs : List NodeBrief) :
    CountsWithin briefs.length (countKinds briefs) := by
  have h : CountsWithin (0 + (briefs.map NodeBrief.kind).length) (countKinds briefs) :=
    countsWithin_foldl _ ⟨List.nodup_nil, nofun⟩
  rwa [List.length_map, Nat.zero_add] at h

theorem length_briefsOf_le (raw : Json) : (briefsOf raw).length ≤ (nodesOf raw).length :=
  List.length_filterMap_le _ _

theorem spelled_brief {raw : Json} (h : raw.Spelled limit) {brief : NodeBrief}
    (hbrief : brief ∈ briefsOf raw) : brief.toJson.Spelled limit := by
  obtain ⟨node, hnode, hfields⟩ := List.mem_filterMap.mp hbrief
  have hspelled := (h.get "nodes").mem_items hnode
  cases node with
  | obj fields =>
      obtain rfl := Option.some.inj hfields
      have hid : (Fields.get fields "id").Spelled limit := Json.spelled_get hspelled "id"
      refine Json.Spelled.obj _ (by simp [Entries.keys]) ?_
      intro field hfield
      simp only [List.mem_cons, List.not_mem_nil, or_false] at hfield
      obtain rfl | rfl | rfl := hfield
      · exact hid
      · exact Json.Spelled.str _
      · exact Json.spelled_ofText? _
  | _ => cases hfields

/-- The summary of a spelled graph is spelled, if its nodes can be counted. -/
theorem spelled_ofGraph (hlimit : digitCount limit ≤ maxDigits) {raw : Json}
    (h : raw.Spelled limit) : (ofGraph raw).toJson.Spelled limit := by
  have hnodes : (nodesOf raw).length ≤ limit := (h.get "nodes").length_items
  have hcounted : ∀ n ≤ limit, digitCount (n : Int).natAbs ≤ maxDigits := by
    intro n hn
    rw [Int.natAbs_natCast, digitCount_le_iff (by decide)]
    exact hn.trans_lt ((digitCount_le_iff (by decide)).mp hlimit)
  have hlisted : ∀ p : NodeBrief → Bool,
      (Json.arr (((briefsOf raw).filter p).map NodeBrief.toJson)).Spelled limit := by
    intro p
    refine Json.Spelled.arr _ ?_ ?_
    · rw [List.length_map]
      have hle := (List.length_filter_le p (briefsOf raw)).trans (length_briefsOf_le raw)
      exact hle.trans hnodes
    · intro item hitem
      obtain ⟨brief, hbrief, rfl⟩ := List.mem_map.mp hitem
      exact spelled_brief h (List.mem_of_mem_filter hbrief)
  have hcounts : (Json.obj (ofGraph raw).kindCounts).Spelled limit := by
    obtain ⟨hkeys, hbound⟩ := countsWithin_countKinds (briefsOf raw)
    refine Json.Spelled.obj _ ?_ ?_
    · change (((countKinds (briefsOf raw)).map _).map Prod.fst).Nodup
      rwa [List.map_map]
    · intro field hfield
      obtain ⟨⟨kind, count⟩, hentry, rfl⟩ := List.mem_map.mp hfield
      have hle := (hbound _ hentry).trans (length_briefsOf_le raw)
      exact Json.Spelled.int _ (hcounted count (hle.trans hnodes))
  refine Json.Spelled.obj _ (by simp [toFields, Entries.keys]) ?_
  intro field hfield
  simp only [toFields, List.mem_cons, List.not_mem_nil, or_false] at hfield
  obtain rfl | rfl | rfl | rfl | rfl | rfl | rfl | rfl := hfield
  · exact Json.Spelled.int _ (hcounted _ hnodes)
  · exact Json.Spelled.str _
  · exact hcounts
  · exact hlisted _
  · exact hlisted _
  · exact hlisted _
  · exact hlisted _
  · exact hlisted _

end WorkflowSummary

namespace StoredWorkflow

variable {limit : Nat}

/-! ### Stored forms -/

/-- What holds of a workflow that the store keeps. -/
structure Sound (limit : Nat) (workflow : StoredWorkflow) : Prop where
  id_ne : workflow.id ≠ ""
  name_ne : workflow.name ≠ ""
  summary_eq : workflow.summary = WorkflowSummary.ofGraph workflow.raw
  raw_spelled : workflow.raw.Spelled limit

/-- What holds of a workflow whose stored form reads back, under whatever name. -/
structure Kept (limit : Nat) (workflow : StoredWorkflow) : Prop where
  id_ne : workflow.id ≠ ""
  summary_eq : workflow.summary = WorkflowSummary.ofGraph workflow.raw
  raw_spelled : workflow.raw.Spelled limit

theorem Sound.kept {workflow : StoredWorkflow} (h : workflow.Sound limit) : workflow.Kept limit :=
  ⟨h.id_ne, h.summary_eq, h.raw_spelled⟩

/-- The workflow as it is read back: an empty name gives way to the id. -/
def named (workflow : StoredWorkflow) : StoredWorkflow :=
  { workflow with name := if workflow.name = "" then workflow.id else workflow.name }

theorem named_of_name_ne {workflow : StoredWorkflow} (h : workflow.name ≠ "") :
    workflow.named = workflow := by
  unfold named
  rw [if_neg h]

theorem Kept.sound {workflow : StoredWorkflow} (h : workflow.Kept limit) :
    workflow.named.Sound limit := by
  refine ⟨h.id_ne, ?_, h.summary_eq, h.raw_spelled⟩
  unfold named
  dsimp only
  split_ifs with hname
  · exact h.id_ne
  · exact hname

/-- The fields of the stored form with the graph. -/
def storedFields (workflow : StoredWorkflow) : Fields :=
  [("id", .str workflow.id), ("name", .str workflow.name), ("path", Json.ofText? workflow.path),
    ("summary", workflow.summary.toJson), ("raw", workflow.raw)]

theorem toJson_true (workflow : StoredWorkflow) :
    workflow.toJson true = .obj workflow.storedFields := rfl

theorem isTruthy_str {text : String} (h : text ≠ "") : (Json.str text).isTruthy = true := by
  simpa [Json.isTruthy] using h

/-- A stored form reads back. -/
theorem ofFields_storedFields (workflow : StoredWorkflow) :
    ofFields workflow.storedFields = .ok workflow.named := by
  have hpath : (Json.ofText? workflow.path).text? = workflow.path := by
    cases workflow.path <;> rfl
  change (WorkflowSummary.ofFields workflow.summary.toFields >>= _) = _
  rw [WorkflowSummary.ofFields_toFields]
  change Except.ok (StoredWorkflow.mk _ (Json.display (if (Json.str workflow.name).isTruthy then
    .str workflow.name else .str workflow.id)) _ _ (Json.ofText? workflow.path).text?) = _
  rw [hpath]
  unfold named
  by_cases h : workflow.name = ""
  · rw [if_pos h, h]
    rfl
  · rw [if_neg h, if_pos (isTruthy_str h)]
    rfl

theorem spelled_toJson (hlimit : digitCount limit ≤ maxDigits) {workflow : StoredWorkflow}
    (h : workflow.Kept limit) :
    (workflow.toJson true).Spelled limit := by
  rw [toJson_true]
  refine Json.Spelled.obj _ (by simp [storedFields, Entries.keys]) ?_
  intro field hfield
  simp only [storedFields, List.mem_cons, List.not_mem_nil, or_false] at hfield
  obtain rfl | rfl | rfl | rfl | rfl := hfield
  · exact Json.Spelled.str _
  · exact Json.Spelled.str _
  · exact Json.spelled_ofText? _
  · rw [h.summary_eq]
    exact WorkflowSummary.spelled_ofGraph hlimit h.raw_spelled
  · exact h.raw_spelled

/-! ### Imports -/

theorem firstSet_ne_empty {values : List Json} {text : String} (h : firstSet values = some text) :
    text ≠ "" := by
  obtain ⟨value, hfound, rfl⟩ := Option.map_eq_some_iff.mp h
  exact Json.display_ne_empty (List.find?_some hfound)

theorem getD_firstSet_ne_empty {values : List Json} {other : String} (hother : other ≠ "") :
    (firstSet values).getD other ≠ "" := by
  cases h : firstSet values with
  | none => exact hother
  | some text => exact firstSet_ne_empty h

theorem append_ne_empty {text : String} (h : text ≠ "") (more : String) : text ++ more ≠ "" := by
  intro heq
  exact h (String.append_eq_empty_iff.mp heq).1

theorem sound_ofEntry (stamp : Int) (index : Nat) (key : Option String) {fields : Fields}
    (h : (Json.obj fields).Spelled limit) : (ofEntry stamp index key fields).Sound limit where
  id_ne := by
    have hprefix : "workflow-" ≠ "" := by decide
    exact getD_firstSet_ne_empty
      (append_ne_empty (append_ne_empty (append_ne_empty hprefix _) _) _)
  name_ne := getD_firstSet_ne_empty (append_ne_empty (by decide) _)
  summary_eq := rfl
  raw_spelled := by
    change ((fields.get? "raw").getD (.obj fields)).Spelled limit
    cases hraw : fields.get? "raw" with
    | none => exact h
    | some raw => exact Json.spelled_lookup h hraw

theorem spelled_unkeyed {items : List Json} (h : ∀ item ∈ items, item.Spelled limit)
    {entry : ImportEntry} (hentry : entry ∈ unkeyed items) : entry.2.Spelled limit := by
  obtain ⟨item, hitem, rfl⟩ := List.mem_map.mp hentry
  exact h item hitem

/-- The entries of a spelled value are spelled. -/
theorem spelled_entriesOf {payload : Json} (h : payload.Spelled limit) :
    ∀ entry ∈ entriesOf payload, entry.2.Spelled limit := by
  intro entry hentry
  have hwhole : ∀ item ∈ [payload], item.Spelled limit := by
    intro item hitem
    rwa [List.mem_singleton.mp hitem]
  cases payload with
  | arr items => exact spelled_unkeyed (fun item hitem => h.mem_items hitem) hentry
  | obj fields =>
      unfold entriesOf at hentry
      dsimp only [Json.items?, Json.fields?] at hentry
      cases hlisted : listedUnder fields with
      | some items =>
          rw [hlisted] at hentry
          obtain ⟨key, -, hitems⟩ := List.exists_of_findSome?_eq_some hlisted
          refine spelled_unkeyed (fun item hitem => ?_) hentry
          have hget := Json.spelled_get h key
          refine hget.mem_items ?_
          rwa [Json.items, hitems]
      | none =>
          rw [hlisted] at hentry
          dsimp only at hentry
          split_ifs at hentry
          · exact spelled_unkeyed hwhole hentry
          · obtain ⟨field, hfield, rfl⟩ := List.mem_map.mp hentry
            cases h with
            | obj _ hkeys hvalues => exact hvalues field hfield
          · exact spelled_unkeyed hwhole hentry
  | _ => cases hentry

theorem sound_ofEntries (stamp : Int) : ∀ (index : Nat) {entries : List ImportEntry},
    (∀ entry ∈ entries, entry.2.Spelled limit) →
      ∀ workflow ∈ ofEntries stamp index entries, workflow.Sound limit
  | _, [], _, workflow, hworkflow => by cases hworkflow
  | index, (key, entry) :: rest, h, workflow, hworkflow => by
      have hentry : entry.Spelled limit := h (key, entry) List.mem_cons_self
      have hrest : ∀ other ∈ rest, other.2.Spelled limit :=
        fun other hother => h other (List.mem_cons_of_mem _ hother)
      unfold ofEntries at hworkflow
      cases entry with
      | obj fields =>
          obtain rfl | hworkflow := List.mem_cons.mp hworkflow
          · exact sound_ofEntry stamp index key hentry
          · exact sound_ofEntries stamp (index + 1) hrest workflow hworkflow
      | _ => exact sound_ofEntries stamp (index + 1) hrest workflow hworkflow

theorem dropRepeated_sublist : ∀ (seen : List String) (workflows : List StoredWorkflow),
    (dropRepeated seen workflows).Sublist workflows
  | _, [] => List.Sublist.refl []
  | seen, workflow :: rest => by
      unfold dropRepeated
      split_ifs
      · exact (dropRepeated_sublist seen rest).cons workflow
      · exact (dropRepeated_sublist (workflow.id :: seen) rest).cons_cons workflow

/-- Every workflow of an import is sound. -/
theorem sound_ofImport (stamp : Int) {payload : Json} (h : payload.Spelled limit) :
    ∀ workflow ∈ ofImport stamp payload, workflow.Sound limit := by
  intro workflow hworkflow
  have hmem := (dropRepeated_sublist [] _).subset hworkflow
  exact sound_ofEntries stamp 0 (spelled_entriesOf h) workflow hmem

end StoredWorkflow

end RenderRelay
