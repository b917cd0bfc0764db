import RenderRelay.Proofs.Store.Reread

/-! # Files with damaged workflows

A person may have damaged an entry of the store's file.

* `Countable`, `Listable` and `Mappable` say which values can be read as a count, a list and a map,
  and `WorkflowSummary.Readable` which fields as a summary (`exists_ofFields_iff`).
* `Damaged` holds of an entry with an id whose summary is an object and not readable.
* `mapM_listed_cases`: without damaged entries all are read; otherwise reading fails as it does for
  the first damaged one (`ReadsList`).
* `readAll_reads` says so of every text of the file (`Reads`): one damaged entry takes the sound
  ones with it (`readAll_damagedText`). -/

namespace RenderRelay

open Number

namespace WorkflowSummary

/-! ### Values that can be read -/

/-- A value that can be read as a count: a number that is finite, a text of an integer, or a truth
value. -/
def Countable : Json → Prop
  | .int _ | .bool _ => True
  | .float x => x.truncate?.isSome = true
  | .str text => (readInteger text).isSome = true
  | .null | .arr _ | .obj _ => False

/-- What a value consists of when it is gone through. -/
def parts? : Json → Option (List Json)
  | .arr items => some items
  | .str text => some (text.toList.map fun c => .str (String.singleton c))
  | .obj fields => some (fields.map fun (key, _) => .str key)
  | .null | .bool _ | .int _ | .float _ => none

/-- A value that can be read as a list: one that can be gone through, or is not set. -/
def Listable (value : Json) : Prop := value.isTruthy = false ∨ ∃ items, parts? value = some items

/-- A value that consists of a key and a value; lists and objects are no keys. -/
def IsPair (item : Json) : Prop :=
  ∃ key value, parts? item = some [key, value] ∧ key.items? = none ∧ key.fields? = none

/-- A value that can be read as a map: an object, one that consists of pairs, or one that is not
set. -/
def Mappable (value : Json) : Prop :=
  value.isTruthy = false ∨ value.fields?.isSome = true ∨
    ∃ items, parts? value = some items ∧ ∀ item ∈ items, IsPair item

theorem exists_readCount_iff {value : Json} :
    (∃ n, readCount value = .ok n) ↔ Countable value := by
  cases value with
  | int n => exact iff_of_true ⟨n, rfl⟩ trivial
  | bool b => exact iff_of_true ⟨_, rfl⟩ trivial
  | float x =>
      cases x with
      | finite negative m e hcanonical => exact iff_of_true ⟨_, rfl⟩ rfl
      | infinite negative => exact iff_of_false nofun Bool.false_ne_true
      | notANumber => exact iff_of_false nofun Bool.false_ne_true
  | str text =>
      unfold readCount Countable
      dsimp only
      cases readInteger text with
      | none => exact iff_of_false nofun Bool.false_ne_true
      | some n => exact iff_of_true ⟨n, rfl⟩ rfl
  | null | arr _ | obj _ => exact iff_of_false nofun id

theorem readItems_eq (value : Json) : readItems value = match parts? value with
    | some items => .ok items
    | none => if value.isTruthy then .error .wrongKind else .ok [] := by
  cases value with
  | arr items => cases items <;> rfl
  | obj fields => cases fields <;> rfl
  | str text =>
      by_cases hempty : text = ""
      · rw [hempty]
        rfl
      · have hset : (Json.str text).isTruthy = true := StoredWorkflow.isTruthy_str hempty
        unfold readItems parts?
        rw [hset]
        rfl
  | null => rfl
  | bool b => cases b <;> rfl
  | int n | float x =>
      unfold readItems parts?
      cases Json.isTruthy _ <;> rfl

theorem exists_readItems_iff {value : Json} :
    (∃ items, readItems value = .ok items) ↔ Listable value := by
  unfold Listable
  rw [readItems_eq]
  cases parts? value with
  | some items => exact iff_of_true ⟨items, rfl⟩ (Or.inr ⟨items, rfl⟩)
  | none => cases value.isTruthy <;> simp

/-! ### Maps of pairs -/

theorem readPair_eq (item : Json) : readPair item = match parts? item with
    | some items => .ok items
    | none => .error .wrongKind := by
  cases item with
  | str _ | arr _ | obj _ => exact readItems_eq _
  | _ => rfl

theorem exists_readKey_iff {key : Json} :
    (∃ name, readKey key = .ok name) ↔ key.items? = none ∧ key.fields? = none := by
  cases key with
  | arr _ | obj _ => exact iff_of_false nofun nofun
  | _ => exact iff_of_true ⟨_, rfl⟩ ⟨rfl, rfl⟩

/-- The pairs are read one after another, whatever was read before. -/
theorem exists_readPairs_iff {items : List Json} {fields : Fields} :
    (∃ read, readPairs items fields = .ok read) ↔ ∀ item ∈ items, IsPair item := by
  induction items generalizing fields with
  | nil => exact iff_of_true ⟨fields, rfl⟩ (List.forall_mem_nil _)
  | cons item rest ih =>
      rw [readPairs_cons, exists_bind_ok_iff, readPair_eq, List.forall_mem_cons]
      constructor
      · rintro ⟨parts, hparts, hread⟩
        cases hitem : parts? item with
        | none =>
            rw [hitem] at hparts
            cases hparts
        | some found =>
            rw [hitem] at hparts
            obtain rfl := Except.ok.inj hparts
            split at hread
            · next key value =>
                obtain ⟨name, hname, hrest⟩ := exists_bind_ok_iff.mp hread
                exact ⟨⟨key, value, hitem, exists_readKey_iff.mp ⟨name, hname⟩⟩, ih.mp hrest⟩
            · obtain ⟨read, hread⟩ := hread
              cases hread
      · rintro ⟨⟨key, value, hitem, hkey⟩, hrest⟩
        obtain ⟨name, hname⟩ := exists_readKey_iff.mpr hkey
        rw [hitem]
        exact ⟨_, rfl, exists_bind_ok_iff.mpr ⟨name, hname, ih.mpr hrest⟩⟩

theorem exists_readFields_iff {value : Json} :
    (∃ fields, readFields value = .ok fields) ↔ Mappable value := by
  unfold readFields Mappable
  cases hset : value.isTruthy with
  | false => exact iff_of_true ⟨[], rfl⟩ (Or.inl rfl)
  | true =>
      have hitems : ∀ items, readItems value = .ok items ↔ parts? value = some items := by
        intro items
        rw [readItems_eq, hset]
        cases parts? value <;> simp
      have hpairs : (∃ fields, (readItems value >>= fun items => readPairs items []) =
          .ok fields) ↔ ∃ items, parts? value = some items ∧ ∀ item ∈ items, IsPair item := by
        simp only [exists_bind_ok_iff, exists_readPairs_iff, hitems]
      cases value with
      | obj fields => exact iff_of_true ⟨fields, rfl⟩ (Or.inr (Or.inl rfl))
      | _ =>
          refine hpairs.trans ⟨fun h => Or.inr (Or.inr h), ?_⟩
          rintro (hunset | hfields | h)
          · cases hunset
          · cases hfields
          · exact h

/-! ### Summaries that can be read -/

/-- The keys of a summary's lists. -/
def listKeys : List String :=
  ["load_image_nodes", "save_image_nodes", "prompt_nodes", "positive_prompt_nodes",
    "negative_prompt_nodes"]

/-- Fields that can be read as a summary. -/
structure Readable (fields : Fields) : Prop where
  total : Countable ((fields.get? "total_nodes").getD (.int 0))
  kinds : Mappable (fields.get "type_counts")
  lists : ∀ key ∈ listKeys, Listable (fields.get key)

theorem exists_ofFields_iff {fields : Fields} :
    (∃ summary, ofFields fields = .ok summary) ↔ Readable fields := by
  unfold ofFields
  simp only [exists_bind_ok_iff]
  constructor
  · rintro ⟨total, htotal, kinds, hkinds, load, hload, save, hsave, prompt, hprompt, positive,
      hpositive, negative, hnegative, -⟩
    refine ⟨exists_readCount_iff.mp ⟨total, htotal⟩, exists_readFields_iff.mp ⟨kinds, hkinds⟩, ?_⟩
    simp only [listKeys, List.forall_mem_cons, ← exists_readItems_iff]
    exact ⟨⟨load, hload⟩, ⟨save, hsave⟩, ⟨prompt, hprompt⟩, ⟨positive, hpositive⟩,
      ⟨negative, hnegative⟩, List.forall_mem_nil _⟩
  · rintro ⟨htotal, hkinds, hlists⟩
    simp only [listKeys, List.forall_mem_cons, ← exists_readItems_iff] at hlists
    obtain ⟨total, htotal⟩ := exists_readCount_iff.mpr htotal
    obtain ⟨kinds, hkinds⟩ := exists_readFields_iff.mpr hkinds
    obtain ⟨⟨load, hload⟩, ⟨save, hsave⟩, ⟨prompt, hprompt⟩, ⟨positive, hpositive⟩,
      ⟨negative, hnegative⟩, -⟩ := hlists
    exact ⟨total, htotal, kinds, hkinds, load, hload, save, hsave, prompt, hprompt, positive,
      hpositive, negative, hnegative, _, rfl⟩

end WorkflowSummary

/-! ### Entries -/

/-- An entry of the store's file with an id, whose summary is an object and cannot be read. -/
def Damaged (item : Json) : Prop :=
  ∃ entry summary, item = .obj entry ∧ (Fields.get entry "id").isTruthy = true ∧
    Fields.get entry "summary" = .obj summary ∧ ¬ WorkflowSummary.Readable summary

namespace StoredWorkflow

theorem exists_readSummary_iff {stored : Json} (raw : Json) :
    (∃ summary, readSummary stored raw = .ok summary) ↔
      ∀ fields, stored = .obj fields → WorkflowSummary.Readable fields := by
  cases stored with
  | obj fields =>
      refine WorkflowSummary.exists_ofFields_iff.trans ⟨?_, fun h => h fields rfl⟩
      rintro h other heq
      rwa [← Json.obj.inj heq]
  | _ => exact iff_of_true ⟨_, rfl⟩ nofun

/-- An entry with an id can be read exactly if it is not damaged. -/
theorem exists_ofFields_iff {entry : Fields} (hid : (Fields.get entry "id").isTruthy = true) :
    (∃ workflow, ofFields entry = .ok workflow) ↔ ¬ Damaged (.obj entry) := by
  have hundamaged : ¬ Damaged (.obj entry) ↔ ∀ summary,
      Fields.get entry "summary" = .obj summary → WorkflowSummary.Readable summary := by
    constructor
    · intro h summary hsummary
      by_contra hno
      exact h ⟨entry, summary, rfl, hid, hsummary, hno⟩
    · rintro h ⟨other, summary, heq, -, hsummary, hno⟩
      obtain rfl := Json.obj.inj heq
      exact hno (h summary hsummary)
  rw [hundamaged, ← exists_readSummary_iff (Fields.get entry "raw")]
  unfold ofFields
  cases hget : entry.get? "id" with
  | none =>
      unfold Fields.get at hid
      rw [show entry.lookup "id" = none from hget] at hid
      cases hid
  | some id =>
      dsimp only
      rw [exists_bind_ok_iff]
      constructor
      · rintro ⟨summary, hsummary, -⟩
        exact ⟨summary, hsummary⟩
      · rintro ⟨summary, hsummary⟩
        exact ⟨summary, hsummary, _, rfl⟩

end StoredWorkflow

namespace WorkflowStore

/-! ### Lists of entries -/

/-- The entries of a list that have an id. -/
def listed (items : List Json) : List Fields :=
  (items.filterMap Json.fields?).filter fun fields => (fields.get "id").isTruthy

/-- The list of workflows that a content holds: alone, or under its key. -/
def HoldsList (content : Json) (items : List Json) : Prop :=
  content = .arr items ∨ ∃ fields, content = .obj fields ∧
    Fields.get fields "workflows" = .arr items

theorem entriesOf_of_holdsList {content : Json} {items : List Json} (h : HoldsList content items) :
    entriesOf content = listed items := by
  obtain rfl | ⟨fields, rfl, hlist⟩ := h
  · rfl
  · unfold entriesOf
    change listed (Json.items (Fields.get fields "workflows")) = _
    rw [hlist]
    rfl

theorem entriesOf_of_no_list {content : Json} (h : ∀ items, ¬ HoldsList content items) :
    entriesOf content = [] := by
  cases content with
  | arr items => exact absurd (Or.inl rfl) (h items)
  | obj fields =>
      change listed (Json.items (Fields.get fields "workflows")) = []
      cases hlist : Fields.get fields "workflows" with
      | arr items => exact absurd (Or.inr ⟨fields, rfl, hlist⟩) (h items)
      | _ => rfl
  | _ => rfl

theorem listed_cons_of_set {entry : Fields} (hid : (entry.get "id").isTruthy = true)
    (rest : List Json) : listed (.obj entry :: rest) = entry :: listed rest := by
  unfold listed
  rw [List.filterMap_cons_some (show Json.fields? (.obj entry) = some entry from rfl),
    List.filter_cons_of_pos (by exact hid)]

/-- What is no object, or has no id, is passed over. -/
theorem listed_cons_of_unset {item : Json}
    (h : ∀ entry, item = .obj entry → (Fields.get entry "id").isTruthy = false)
    (rest : List Json) : listed (item :: rest) = listed rest := by
  unfold listed
  cases item with
  | obj entry =>
      rw [List.filterMap_cons_some (show Json.fields? (.obj entry) = some entry from rfl),
        List.filter_cons_of_neg (by simpa using h entry rfl)]
  | _ => rfl

/-- An item is an entry with an id, or it is passed over and not damaged. -/
theorem set_or_unset (item : Json) :
    (∃ entry, item = .obj entry ∧ (Fields.get entry "id").isTruthy = true) ∨
      (∀ entry, item = .obj entry → (Fields.get entry "id").isTruthy = false) ∧ ¬ Damaged item := by
  by_cases h : ∃ entry, item = .obj entry ∧ (Fields.get entry "id").isTruthy = true
  · exact Or.inl h
  · refine Or.inr ⟨fun entry hentry => ?_, ?_⟩
    · exact Bool.eq_false_iff.mpr fun hid => h ⟨entry, hentry, hid⟩
    · rintro ⟨entry, summary, hentry, hid, -⟩
      exact h ⟨entry, hentry, hid⟩

/-- Without damaged entries all are read; otherwise reading fails as it does for the first damaged
one. -/
theorem mapM_listed_cases (items : List Json) :
    ((∃ workflows, (listed items).mapM StoredWorkflow.ofFields = .ok workflows) ∧
        ∀ item ∈ items, ¬ Damaged item) ∨
      ∃ before entry after failure, items = before ++ .obj entry :: after ∧
        (∀ item ∈ before, ¬ Damaged item) ∧ Damaged (.obj entry) ∧
        StoredWorkflow.ofFields entry = .error failure ∧
        (listed items).mapM StoredWorkflow.ofFields = .error failure := by
  induction items with
  | nil => exact Or.inl ⟨⟨[], rfl⟩, List.forall_mem_nil _⟩
  | cons item rest ih =>
      obtain ⟨entry, rfl, hid⟩ | ⟨hunset, hsound⟩ := set_or_unset item
      · rw [listed_cons_of_set hid, List.mapM_cons]
        cases hread : StoredWorkflow.ofFields entry with
        | error failure =>
            -- the first entry fails, so nothing behind it is looked at
            have hdamaged : Damaged (.obj entry) := by
              by_contra hsound
              obtain ⟨workflow, hworkflow⟩ := (StoredWorkflow.exists_ofFields_iff hid).mpr hsound
              cases hread.symm.trans hworkflow
            exact Or.inr
              ⟨[], entry, rest, failure, rfl, List.forall_mem_nil _, hdamaged, hread, rfl⟩
        | ok workflow =>
            have hsound := (StoredWorkflow.exists_ofFields_iff hid).mp ⟨workflow, hread⟩
            obtain ⟨⟨workflows, hworkflows⟩, hrest⟩ |
              ⟨before, other, after, failure, rfl, hbefore, hdamaged, hother, hfails⟩ := ih
            · rw [hworkflows]
              exact Or.inl ⟨⟨_, rfl⟩, List.forall_mem_cons.mpr ⟨hsound, hrest⟩⟩
            · rw [hfails]
              exact Or.inr ⟨.obj entry :: before, other, after, failure, rfl,
                List.forall_mem_cons.mpr ⟨hsound, hbefore⟩, hdamaged, hother, rfl⟩
      · rw [listed_cons_of_unset hunset]
        obtain ⟨hworkflows, hrest⟩ |
          ⟨before, other, after, failure, rfl, hbefore, hdamaged, hother, hfails⟩ := ih
        · exact Or.inl ⟨hworkflows, List.forall_mem_cons.mpr ⟨hsound, hrest⟩⟩
        · exact Or.inr ⟨item :: before, other, after, failure, rfl,
            List.forall_mem_cons.mpr ⟨hsound, hbefore⟩, hdamaged, hother, hfails⟩

/-- A workflow that was written is listed. -/
theorem storedFields_mem_listed {workflow : StoredWorkflow} (hid : workflow.id ≠ "")
    {items : List Json} (h : workflow.toJson true ∈ items) :
    workflow.storedFields ∈ listed items :=
  List.mem_filter.mpr ⟨List.mem_filterMap.mpr ⟨_, h, rfl⟩, StoredWorkflow.isTruthy_str hid⟩

/-- What is read from a list of entries: each that has an id, by itself, or nothing at all. -/
structure ReadsList (items : List Json) (answer : Except Failure (List StoredWorkflow)) :
    Prop where
  answers_iff : (∃ workflows, answer = .ok workflows) ↔ ∀ item ∈ items, ¬ Damaged item
  each : ∀ workflows, answer = .ok workflows → List.Forall₂
    (fun entry workflow => StoredWorkflow.ofFields entry = .ok workflow) (listed items) workflows
  returned : ∀ workflows, answer = .ok workflows → ∀ workflow : StoredWorkflow,
    workflow.toJson true ∈ items → workflow.id ≠ "" → workflow.named ∈ workflows
  fails : ∀ failure, answer = .error failure → ∃ before entry after,
    items = before ++ .obj entry :: after ∧ (∀ item ∈ before, ¬ Damaged item) ∧
      Damaged (.obj entry) ∧ StoredWorkflow.ofFields entry = .error failure

theorem readsList_mapM (items : List Json) :
    ReadsList items ((listed items).mapM StoredWorkflow.ofFields) where
  answers_iff := by
    obtain ⟨hworkflows, hsound⟩ | ⟨before, entry, after, failure, rfl, -, hdamaged, -, hfails⟩ :=
      mapM_listed_cases items
    · exact iff_of_true hworkflows hsound
    · rw [hfails]
      refine iff_of_false nofun fun hsound => ?_
      exact hsound _ (List.mem_append_right before List.mem_cons_self) hdamaged
  each _ hanswer := mapM_eq_ok_iff.mp hanswer
  returned workflows hanswer workflow hworkflow hid := by
    obtain ⟨found, hfound, hfields⟩ :=
      exists_mem_of_mapM hanswer (storedFields_mem_listed hid hworkflow)
    rw [StoredWorkflow.ofFields_storedFields] at hfields
    exact Except.ok.inj hfields ▸ hfound
  fails failure hanswer := by
    obtain ⟨⟨workflows, hworkflows⟩, -⟩ |
      ⟨before, entry, after, cause, hitems, hbefore, hdamaged, hentry, hfails⟩ :=
      mapM_listed_cases items
    · cases hanswer.symm.trans hworkflows
    · obtain rfl := Except.error.inj (hanswer.symm.trans hfails)
      exact ⟨before, entry, after, hitems, hbefore, hdamaged, hentry⟩

/-! ### Texts of the file -/

/-- What is read from a text of the store's file.  An integer of too many digits makes it
unreadable; another text that is no JSON counts as empty, and so does one without a list. -/
structure Reads (text : String) (answer : Except Failure (List StoredWorkflow)) : Prop where
  no_json : ∀ e, Json.read text = .error e → e.cause ≠ .integerTooLong → answer = .ok []
  no_list : ∀ content, Json.read text = .ok content → (∀ items, ¬ HoldsList content items) →
    answer = .ok []
  list : ∀ content items, Json.read text = .ok content → HoldsList content items →
    ReadsList items answer

theorem ofText_of_holdsList {text : String} {content : Json} {items : List Json}
    (hread : Json.read text = .ok content) (hlist : HoldsList content items) :
    ofText text = (listed items).mapM StoredWorkflow.ofFields := by
  unfold ofText
  rw [hread]
  dsimp only
  rw [entriesOf_of_holdsList hlist]

/-- Whatever the file holds, its workflows are read if none of them is damaged, and none is read
otherwise. -/
theorem readAll_reads (disk : Disk) (text : String) :
    Reads text (readAll { disk with workflows := some text }) := by
  change Reads text (ofText text)
  constructor
  · intro e hread hcause
    unfold ofText
    rw [hread]
    exact if_neg hcause
  · intro content hread hnone
    unfold ofText
    rw [hread]
    dsimp only
    rw [entriesOf_of_no_list hnone]
    rfl
  · intro content items hread hlist
    rw [ofText_of_holdsList hread hlist]
    exact readsList_mapM items

/-- A sound workflow, an entry whose summary does not count its nodes, and a file with both. -/
def soundWorkflow : StoredWorkflow :=
  ⟨"a", "one", .obj [("nodes", .arr [])], WorkflowSummary.ofGraph (.obj [("nodes", .arr [])]), none⟩

def damagedEntry : Fields := [("id", .str "b"), ("summary", .obj [("total_nodes", .str "many")])]

def damagedItems : List Json := [soundWorkflow.toJson true, .obj damagedEntry]

def damagedText : String := (Json.obj [("workflows", .arr damagedItems)]).write .indented

theorem read_damagedText :
    Json.read damagedText = .ok (.obj [("workflows", .arr damagedItems)]) := by
  have hone : ∀ key value, value.Writable → (Json.obj [(key, value)]).Writable := fun key value h =>
    Json.writable_obj_iff.mpr ⟨List.nodup_singleton key, List.forall_mem_singleton.mpr h⟩
  have hnodes : (Json.arr []).Spelled 0 := .arr [] (Nat.le_refl 0) (List.forall_mem_nil _)
  have hraw : soundWorkflow.raw.Spelled 0 :=
    .obj _ (List.nodup_singleton _) (List.forall_mem_singleton.mpr hnodes)
  have hsound : (soundWorkflow.toJson true).Writable :=
    StoredWorkflow.writable_toJson ⟨0, WorkflowSummary.spelled_ofGraph (by decide) hraw⟩ ⟨0, hraw⟩
  have hdamaged : (Json.obj damagedEntry).Writable := by
    refine Json.writable_obj_iff.mpr ⟨by decide, ?_⟩
    simp only [damagedEntry, List.forall_mem_cons]
    exact ⟨Json.writable_str _, hone _ _ (Json.writable_str _), List.forall_mem_nil _⟩
  have hitems : ∀ item ∈ damagedItems, item.Writable := by
    simp only [damagedItems, List.forall_mem_cons]
    exact ⟨hsound, hdamaged, List.forall_mem_nil _⟩
  obtain ⟨limit, hspelled⟩ := hone "workflows" _ (Json.writable_arr_iff.mpr hitems)
  exact Json.read_write Json.Layout.indented_readable hspelled

/-- The sound workflow is not read, since reading fails as it does for the damaged entry. -/
theorem readAll_damagedText :
    Json.read damagedText = .ok (.obj [("workflows", .arr damagedItems)]) ∧
      soundWorkflow.toJson true ∈ damagedItems ∧
      readAll { Disk.empty with workflows := some damagedText } = .error .unreadable := by
  refine ⟨read_damagedText, List.mem_cons_self, ?_⟩
  change ofText damagedText = _
  rw [ofText_of_holdsList read_damagedText (Or.inr ⟨_, rfl, rfl⟩)]
  decide +kernel

end WorkflowStore

end RenderRelay
