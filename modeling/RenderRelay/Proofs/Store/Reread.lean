import Mathlib.Data.Nat.Cast.Order.Field
import RenderRelay.Proofs.Number.Shortest
import RenderRelay.Proofs.Store.Workflows

/-! # Workflows read from any file

A person may have written the store's file, and reading takes numbers, texts and maps for what they
can be read as.  Whatever the file holds, what was read from it can be written to it again.

* `Json.Writable` holds of a value that some text spells.
* `digitCount_of_readInteger`, `digitCount_of_truncate?`: no count is read that is longer than what
  a file can hold.
* `WorkflowSummary.writable_of_ofFields`, `StoredWorkflow.rewritable_of_ofFields`: what was read of
  a writable value is writable.
* `WorkflowStore.rewritable_of_readAll` and `WorkflowStore.readAll_of_written`: the workflows of a
  file are read again after they were written. -/

namespace RenderRelay

open Number

/-! ### Writable values -/

namespace Json

/-- A value that some text can spell, however long its lists are. -/
def Writable (value : Json) : Prop := ∃ limit, value.Spelled limit

theorem writable_str (s : String) : (Json.str s).Writable := ⟨0, .str s⟩

theorem writable_ofText? (text : Option String) : (Json.ofText? text).Writable :=
  ⟨0, spelled_ofText? text⟩

theorem writable_arr_iff {items : List Json} :
    (Json.arr items).Writable ↔ ∀ item ∈ items, item.Writable := by
  refine ⟨?_, exists_spelled_arr⟩
  rintro ⟨limit, hitems⟩ item hitem
  exact ⟨limit, hitems.mem_items hitem⟩

theorem writable_obj_iff {fields : Fields} :
    (Json.obj fields).Writable ↔
      fields.keys.Nodup ∧ ∀ field ∈ fields, field.2.Writable := by
  constructor
  · rintro ⟨limit, hfields⟩
    cases hfields with
    | obj _ hkeys hvalues => exact ⟨hkeys, fun field hfield => ⟨limit, hvalues field hfield⟩⟩
  · rintro ⟨hkeys, hvalues⟩
    have hlist : (Json.arr (fields.map Prod.snd)).Writable :=
      writable_arr_iff.mpr (List.forall_mem_map.mpr hvalues)
    obtain ⟨limit, hlist⟩ := hlist
    refine ⟨limit, Spelled.obj fields hkeys fun field hfield => ?_⟩
    exact hlist.mem_items (List.mem_map_of_mem hfield)

theorem Writable.get {fields : Fields} (h : (Json.obj fields).Writable) (key : String) :
    (fields.get key).Writable := by
  obtain ⟨limit, hfields⟩ := h
  exact ⟨limit, spelled_get hfields key⟩

end Json

/-! ### Counts -/

/-- An integer that a text is read as is short enough to be written. -/
theorem digitCount_of_readInteger {text : String} {n : Int} (h : readInteger text = some n) :
    digitCount n.natAbs ≤ maxDigits := by
  unfold readInteger at h
  obtain ⟨cs, -, h⟩ := Option.bind_eq_some_iff.mp h
  dsimp only at h
  rw [Option.ite_none_left_eq_some] at h
  obtain ⟨hrefused, h⟩ := h
  simp only [Bool.or_eq_true, not_or, Bool.not_eq_true', Bool.not_eq_false, decide_eq_true_eq,
    Nat.not_lt] at hrefused
  obtain ⟨⟨-, hdigits⟩, hlength⟩ := hrefused
  have hcount := Json.digitCount_digitsValue_le (List.all_eq_true.mp hdigits) hlength
  obtain rfl := Option.some.inj h
  split_ifs
  · rwa [Int.natAbs_neg, Int.natAbs_natCast]
  · rwa [Int.natAbs_natCast]

theorem natAbs_signed (negative : Bool) (n : Nat) : (Double.signed negative n).natAbs = n := by
  cases negative with
  | false => rfl
  | true => exact Int.natAbs_neg n

/-- Every number is below `10 ^ 309`, so its integer part is short enough to be written. -/
theorem digitCount_of_truncate? {x : Double} {n : Int} (h : x.truncate? = some n) :
    digitCount n.natAbs ≤ maxDigits := by
  cases x with
  | finite negative m e hcanonical =>
      obtain rfl := Option.some.inj h
      rw [natAbs_signed, digitCount_le_iff (by decide)]
      have hquotient : (((Double.asQuotient m e).1 / (Double.asQuotient m e).2 : ℕ) : ℚ) <
          ((10 ^ 309 : ℕ) : ℚ) := by
        calc _ ≤ ((Double.asQuotient m e).1 / (Double.asQuotient m e).2 : ℚ) := Nat.cast_div_le
          _ = m * 2 ^ e := Double.asQuotient_value m e
          _ < 10 ^ (309 : ℤ) := Double.canonical_lt hcanonical
          _ = ((10 ^ 309 : ℕ) : ℚ) := by
            rw [Nat.cast_pow, Nat.cast_ofNat]
            exact zpow_natCast 10 309
      exact (Nat.cast_lt.mp hquotient).trans_le (pow_le_pow_right₀ (by decide) (by decide))
  | _ => cases h

/-! ### Summaries -/

namespace WorkflowSummary

variable {value : Json}

theorem writable_of_readCount (h : value.Writable) {n : Int} (hread : readCount value = .ok n) :
    (Json.int n).Writable := by
  refine ⟨0, .int n ?_⟩
  cases value with
  | int count =>
      obtain ⟨limit, hspelled⟩ := h
      obtain rfl := Except.ok.inj hread
      cases hspelled with
      | int _ hdigits => exact hdigits
  | bool b =>
      obtain rfl := Except.ok.inj hread
      cases b <;> decide
  | float x =>
      cases x with
      | finite negative m e hcanonical =>
          obtain rfl := Except.ok.inj hread
          exact digitCount_of_truncate? (x := .finite negative m e hcanonical) rfl
      | _ => cases hread
  | str text =>
      cases hinteger : readInteger text with
      | none => simp [readCount, hinteger] at hread
      | some count =>
          simp only [readCount, hinteger] at hread
          obtain rfl := Except.ok.inj hread
          exact digitCount_of_readInteger hinteger
  | _ => cases hread

theorem writable_of_readItems (h : value.Writable) {items : List Json}
    (hread : readItems value = .ok items) : (Json.arr items).Writable := by
  unfold readItems at hread
  split_ifs at hread
  · obtain rfl := Except.ok.inj hread
    exact Json.writable_arr_iff.mpr (List.forall_mem_nil _)
  · cases value with
    | arr listed =>
        obtain rfl := Except.ok.inj hread
        exact h
    | str text =>
        obtain rfl := Except.ok.inj hread
        exact Json.writable_arr_iff.mpr
          (List.forall_mem_map.mpr fun c _ => Json.writable_str (String.singleton c))
    | obj fields =>
        obtain rfl := Except.ok.inj hread
        exact Json.writable_arr_iff.mpr
          (List.forall_mem_map.mpr fun field _ => Json.writable_str field.1)
    | _ => cases hread

theorem writable_put {fields : Fields} (hfields : (Json.obj fields).Writable) (key : String)
    (hvalue : value.Writable) : (Json.obj (fields.put key value)).Writable := by
  obtain ⟨hkeys, hvalues⟩ := Json.writable_obj_iff.mp hfields
  refine Json.writable_obj_iff.mpr ⟨Entries.nodup_keys_put hkeys key value, ?_⟩
  intro field hfield
  obtain rfl | ⟨hold, -⟩ := (Entries.mem_put_iff hkeys).mp hfield
  · exact hvalue
  · exact hvalues field hold

/-- What a pair consists of: a value that cannot be gone through is no pair. -/
def readPair : Json → Except Failure (List Json)
  | .null | .bool _ | .int _ | .float _ => .error .wrongKind
  | item => readItems item

theorem readPairs_cons (item : Json) (rest : List Json) (fields : Fields) :
    readPairs (item :: rest) fields = (readPair item >>= fun
      | [key, value] => readKey key >>= fun key => readPairs rest (fields.put key value)
      | _ => .error .unreadable) := by
  have hunset : ∀ value : Json, ¬ value.isTruthy = true → readItems value = .ok [] := by
    intro value hvalue
    unfold readItems
    rw [if_pos (by simpa using hvalue)]
  cases item with
  | str _ | arr _ | obj _ =>
      refine (readPairs.eq_def _ _).trans ?_
      dsimp only
      split_ifs with hset
      · rfl
      · exact congrArg (· >>= _) (hunset _ hset).symm
  | _ => rfl

theorem writable_of_readPair (h : value.Writable) {items : List Json}
    (hread : readPair value = .ok items) : ∀ item ∈ items, item.Writable := by
  cases value with
  | str _ | arr _ | obj _ => exact Json.writable_arr_iff.mp (writable_of_readItems h hread)
  | _ => cases hread

theorem writable_of_readPairs : ∀ {items : List Json} {fields read : Fields},
    (∀ item ∈ items, item.Writable) → (Json.obj fields).Writable →
      readPairs items fields = .ok read → (Json.obj read).Writable
  | [], fields, read, _, hfields, hread => by
      obtain rfl := Except.ok.inj hread
      exact hfields
  | item :: rest, fields, read, hitems, hfields, hread => by
      obtain ⟨hitem, hrest⟩ := List.forall_mem_cons.mp hitems
      rw [readPairs_cons] at hread
      obtain ⟨parts, hparts, hread⟩ := exists_of_bind_ok hread
      have hwritable := writable_of_readPair hitem hparts
      split at hread
      · next value =>
          obtain ⟨key, -, hread⟩ := exists_of_bind_ok hread
          have hvalue := hwritable value (List.mem_cons_of_mem _ List.mem_cons_self)
          exact writable_of_readPairs hrest (writable_put hfields key hvalue) hread
      · cases hread

theorem writable_of_readFields (h : value.Writable) {fields : Fields}
    (hread : readFields value = .ok fields) : (Json.obj fields).Writable := by
  have hempty : (Json.obj []).Writable := ⟨0, .obj [] List.nodup_nil (List.forall_mem_nil _)⟩
  have hpairs : (readItems value >>= fun items => readPairs items []) = .ok fields →
      (Json.obj fields).Writable := by
    intro hread
    obtain ⟨items, hitems, hread⟩ := exists_of_bind_ok hread
    have hwritable := Json.writable_arr_iff.mp (writable_of_readItems h hitems)
    exact writable_of_readPairs hwritable hempty hread
  unfold readFields at hread
  split_ifs at hread
  · obtain rfl := Except.ok.inj hread
    exact hempty
  · cases value with
    | obj stored =>
        obtain rfl := Except.ok.inj hread
        exact h
    | _ => exact hpairs hread

/-- A summary that was read can be written. -/
theorem writable_of_ofFields {fields : Fields} (h : (Json.obj fields).Writable)
    {summary : WorkflowSummary} (hread : ofFields fields = .ok summary) :
    summary.toJson.Writable := by
  have htotal : ((fields.get? "total_nodes").getD (.int 0)).Writable := by
    cases hget : fields.get? "total_nodes" with
    | none => exact ⟨0, .int 0 (by decide)⟩
    | some value =>
        obtain ⟨limit, hfields⟩ := h
        exact ⟨limit, Json.spelled_lookup hfields hget⟩
  unfold ofFields at hread
  obtain ⟨total, hcount, hread⟩ := exists_of_bind_ok hread
  obtain ⟨kindCounts, hkinds, hread⟩ := exists_of_bind_ok hread
  obtain ⟨loadImage, hload, hread⟩ := exists_of_bind_ok hread
  obtain ⟨saveImage, hsave, hread⟩ := exists_of_bind_ok hread
  obtain ⟨prompt, hprompt, hread⟩ := exists_of_bind_ok hread
  obtain ⟨positive, hpositive, hread⟩ := exists_of_bind_ok hread
  obtain ⟨negative, hnegative, hread⟩ := exists_of_bind_ok hread
  obtain rfl := Except.ok.inj hread
  refine Json.writable_obj_iff.mpr ⟨by simp [toFields, Entries.keys], ?_⟩
  simp only [toFields, List.forall_mem_cons]
  exact ⟨writable_of_readCount htotal hcount, Json.writable_str _,
    writable_of_readFields (h.get _) hkinds, writable_of_readItems (h.get _) hload,
    writable_of_readItems (h.get _) hsave, writable_of_readItems (h.get _) hprompt,
    writable_of_readItems (h.get _) hpositive, writable_of_readItems (h.get _) hnegative,
    List.forall_mem_nil _⟩

end WorkflowSummary

/-! ### Workflows -/

namespace StoredWorkflow

/-- What holds of a workflow that is read again after it was written: its id and its name are set,
and a text can spell it. -/
structure Rewritable (workflow : StoredWorkflow) : Prop where
  id_ne : workflow.id ≠ ""
  name_ne : workflow.name ≠ ""
  writable : (workflow.toJson true).Writable

theorem Sound.rewritable {limit : Nat} (hlimit : digitCount limit ≤ maxDigits)
    {workflow : StoredWorkflow} (h : workflow.Sound limit) : workflow.Rewritable :=
  ⟨h.id_ne, h.name_ne, limit, spelled_toJson hlimit h.kept⟩

theorem writable_toJson {workflow : StoredWorkflow} (hsummary : workflow.summary.toJson.Writable)
    (hraw : workflow.raw.Writable) : (workflow.toJson true).Writable := by
  refine Json.writable_obj_iff.mpr ⟨by simp [Entries.keys], ?_⟩
  change ∀ field ∈ workflow.storedFields, field.2.Writable
  simp only [storedFields, List.forall_mem_cons]
  exact ⟨Json.writable_str _, Json.writable_str _, Json.writable_ofText? _, hsummary, hraw,
    List.forall_mem_nil _⟩

theorem writable_of_toJson {workflow : StoredWorkflow} (h : (workflow.toJson true).Writable) :
    workflow.summary.toJson.Writable ∧ workflow.raw.Writable := by
  obtain ⟨-, hvalues⟩ := Json.writable_obj_iff.mp h
  change ∀ field ∈ workflow.storedFields, field.2.Writable at hvalues
  simp only [storedFields, List.forall_mem_cons] at hvalues
  obtain ⟨-, -, -, hsummary, hraw, -⟩ := hvalues
  exact ⟨hsummary, hraw⟩

/-- Another id changes nothing about what a text can spell. -/
theorem Rewritable.withId {workflow : StoredWorkflow} (h : workflow.Rewritable) {id : String}
    (hid : id ≠ "") : { workflow with id := id }.Rewritable := by
  obtain ⟨hsummary, hraw⟩ := writable_of_toJson h.writable
  exact ⟨hid, h.name_ne, writable_toJson hsummary hraw⟩

/-- A workflow that was read from an entry with an id can be written again, if the nodes of its
graph can be counted. -/
theorem rewritable_of_ofFields {limit : Nat} (hlimit : digitCount limit ≤ maxDigits)
    {fields : Fields} (h : (Json.obj fields).Spelled limit)
    (hset : (fields.get "id").isTruthy = true) {workflow : StoredWorkflow}
    (hread : ofFields fields = .ok workflow) : workflow.Rewritable := by
  unfold ofFields at hread
  cases hid : fields.get? "id" with
  | none =>
      rw [hid] at hread
      cases hread
  | some id =>
      have hget : fields.get "id" = id := by
        unfold Fields.get
        rw [show fields.lookup "id" = some id from hid]
        rfl
      rw [hget] at hset
      rw [hid] at hread
      obtain ⟨summary, hsummary, hread⟩ := exists_of_bind_ok hread
      obtain rfl := Except.ok.inj hread
      have hraw : (Fields.get fields "raw").Spelled limit := Json.spelled_get h "raw"
      refine ⟨Json.display_ne_empty hset, ?_, writable_toJson ?_ ⟨limit, hraw⟩⟩
      · dsimp only
        split_ifs with hname
        · exact Json.display_ne_empty hname
        · exact Json.display_ne_empty hset
      · have hstored : (Fields.get fields "summary").Writable := ⟨limit, Json.spelled_get h _⟩
        cases hgiven : Fields.get fields "summary" with
        | obj stored =>
            rw [hgiven] at hstored hsummary
            exact WorkflowSummary.writable_of_ofFields hstored hsummary
        | _ =>
            rw [hgiven] at hsummary
            obtain rfl := Except.ok.inj hsummary
            exact ⟨limit, WorkflowSummary.spelled_ofGraph hlimit hraw⟩

end StoredWorkflow

namespace WorkflowStore

variable {workflows : List StoredWorkflow} {disk : Disk}

/-- Workflows that can be written are read from the file that was written from them. -/
theorem readAll_of_written (h : ∀ workflow ∈ workflows, workflow.Rewritable)
    (hdisk : disk.workflows = some (toText workflows)) : readAll disk = .ok workflows := by
  have hcontent : (content workflows).Writable := by
    refine Json.writable_obj_iff.mpr ⟨List.nodup_singleton _, List.forall_mem_singleton.mpr ?_⟩
    refine Json.writable_arr_iff.mpr (List.forall_mem_map.mpr ?_)
    exact fun workflow hworkflow => (h workflow hworkflow).writable
  obtain ⟨limit, hspelled⟩ := hcontent
  unfold readAll
  rw [hdisk]
  dsimp only
  rw [ofText_of_spelled (fun workflow hworkflow => (h workflow hworkflow).id_ne) hspelled,
    map_named fun workflow hworkflow => (h workflow hworkflow).name_ne]

/-- Whatever the file holds, the workflows that are read from it can be written to it. -/
theorem rewritable_of_ofText {text : String} (hsize : digitCount text.toList.length ≤ maxDigits)
    (h : ofText text = .ok workflows) : ∀ workflow ∈ workflows, workflow.Rewritable := by
  intro workflow hworkflow
  unfold ofText at h
  cases hcontent : Json.read text with
  | error failure =>
      rw [hcontent] at h
      dsimp only at h
      split_ifs at h
      obtain rfl := Except.ok.inj h
      cases hworkflow
  | ok content =>
      rw [hcontent] at h
      obtain ⟨fields, hfields, hread⟩ := exists_of_mem_mapM h hworkflow
      obtain ⟨hmem, hset⟩ := List.mem_filter.mp hfields
      obtain ⟨item, hitem, hitemFields⟩ := List.mem_filterMap.mp hmem
      have hspelled := Json.spelled_of_read hcontent
      have hlisted : (if content.fields?.isSome then content.get "workflows"
          else content).Spelled text.toList.length := by
        split_ifs
        · exact hspelled.get "workflows"
        · exact hspelled
      have hentry := hlisted.mem_items hitem
      cases item with
      | obj entry =>
          obtain rfl := Option.some.inj hitemFields
          exact StoredWorkflow.rewritable_of_ofFields hsize hentry hset hread
      | _ => cases hitemFields

theorem rewritable_of_readAll
    (hsize : ∀ text ∈ disk.workflows, digitCount text.toList.length ≤ maxDigits)
    (h : readAll disk = .ok workflows) : ∀ workflow ∈ workflows, workflow.Rewritable := by
  unfold readAll at h
  cases htext : disk.workflows with
  | none =>
      rw [htext] at h
      obtain rfl := Except.ok.inj h
      exact List.forall_mem_nil _
  | some text =>
      rw [htext] at h
      exact rewritable_of_ofText (hsize text htext) h

end WorkflowStore

end RenderRelay
