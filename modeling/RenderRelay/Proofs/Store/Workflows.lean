import Mathlib.Data.List.Forall2
import RenderRelay.Proofs.Json.RoundTrip
import RenderRelay.Proofs.Store.Disk
import RenderRelay.Proofs.Store.Workflow
import RenderRelay.Store.Workflows

/-! # The workflow store as an ordered map

Whatever is imported, renamed and deleted, the file of the store holds an ordered map from ids to
workflows.

* `Sound` is the invariant: the ids are distinct and every workflow is sound.
* `ofText_toText`: the file reads back as the workflows that were written.
* `freeId_not_mem`: an import finds a free id for each of its workflows, and `merge_eq` says what
  it makes of the store.
* `Refines` says what each operation answers and leaves behind; `run_refines` shows it after every
  run from an empty directory, also if writes fail. -/

namespace RenderRelay.WorkflowStore

open Number

/-- The ids are distinct and every workflow is sound. -/
structure Sound (limit : Nat) (workflows : List StoredWorkflow) : Prop where
  nodup : (workflows.map StoredWorkflow.id).Nodup
  each : ∀ workflow ∈ workflows, workflow.Sound limit

/-! ### The file -/

/-- The value of the store's file. -/
def content (workflows : List StoredWorkflow) : Json :=
  .obj [("workflows", .arr (workflows.map (StoredWorkflow.toJson true)))]

section File

variable {limit : Nat} {workflows : List StoredWorkflow}

theorem entriesOf_content (h : ∀ workflow ∈ workflows, workflow.id ≠ "") :
    entriesOf (content workflows) = workflows.map StoredWorkflow.storedFields := by
  have hfields : (workflows.map (StoredWorkflow.toJson true)).filterMap Json.fields? =
      workflows.map StoredWorkflow.storedFields := by
    rw [List.filterMap_map, ← List.filterMap_eq_map]
    rfl
  change ((workflows.map (StoredWorkflow.toJson true)).filterMap Json.fields?).filter _ = _
  rw [hfields, List.filter_eq_self]
  intro fields hmem
  obtain ⟨workflow, hworkflow, rfl⟩ := List.mem_map.mp hmem
  exact StoredWorkflow.isTruthy_str (h workflow hworkflow)

/-- A file that can be spelled reads back as the workflows that were written, if their ids are
set. -/
theorem ofText_of_spelled (hid : ∀ workflow ∈ workflows, workflow.id ≠ "")
    (hspelled : (content workflows).Spelled limit) :
    ofText (toText workflows) = .ok (workflows.map StoredWorkflow.named) := by
  have hread : Json.read (toText workflows) = .ok (content workflows) :=
    Json.read_write Json.Layout.indented_readable hspelled
  unfold ofText
  rw [hread]
  dsimp only
  rw [entriesOf_content hid]
  exact mapM_map_made fun workflow _ => StoredWorkflow.ofFields_storedFields workflow

theorem map_named (hname : ∀ workflow ∈ workflows, workflow.name ≠ "") :
    workflows.map StoredWorkflow.named = workflows := by
  refine (List.map_congr_left fun workflow hworkflow => ?_).trans (List.map_id workflows)
  exact StoredWorkflow.named_of_name_ne (hname workflow hworkflow)

/-- The file may hold more workflows than any list of one of them has items. -/
theorem spelled_content (hlimit : digitCount limit ≤ maxDigits)
    (h : ∀ workflow ∈ workflows, workflow.Kept limit) :
    (content workflows).Spelled (max limit workflows.length) := by
  refine Json.Spelled.obj _ (List.nodup_singleton _) ?_
  intro field hfield
  rw [List.mem_singleton.mp hfield]
  refine Json.Spelled.arr _ ?_ ?_
  · rw [List.length_map]
    exact Nat.le_max_right _ _
  · intro item hitem
    obtain ⟨workflow, hworkflow, rfl⟩ := List.mem_map.mp hitem
    exact (StoredWorkflow.spelled_toJson hlimit (h workflow hworkflow)).mono (Nat.le_max_left _ _)

/-- The file reads back as the workflows that were written. -/
theorem ofText_toText (hlimit : digitCount limit ≤ maxDigits)
    (h : ∀ workflow ∈ workflows, workflow.Kept limit) :
    ofText (toText workflows) = .ok (workflows.map StoredWorkflow.named) :=
  ofText_of_spelled (fun workflow hworkflow => (h workflow hworkflow).id_ne)
    (spelled_content hlimit h)

theorem readAll_of_toText (hlimit : digitCount limit ≤ maxDigits) (h : Sound limit workflows)
    {disk : Disk} (hdisk : disk.workflows = some (toText workflows)) :
    readAll disk = .ok workflows := by
  unfold readAll
  rw [hdisk]
  dsimp only
  rw [ofText_toText hlimit fun workflow hworkflow => (h.each workflow hworkflow).kept,
    map_named fun workflow hworkflow => (h.each workflow hworkflow).name_ne]

end File

/-! ### Free ids -/

theorem numbered_injective (id : String) : Function.Injective (numbered id) := by
  intro n m h
  have hdigits := (String.append_right_inj (id ++ "-")).mp h
  exact natDigits_injective (String.ofList_injective hdigits)

theorem mem_of_freeFrom_mem {taken : List String} {id : String} : ∀ {fuel n : Nat},
    freeFrom taken id fuel n ∈ taken → ∀ k ≤ fuel, numbered id (n + k) ∈ taken
  | 0, n, h, k, hk => by
      obtain rfl := Nat.le_zero.mp hk
      exact h
  | fuel + 1, n, h, k, hk => by
      unfold freeFrom at h
      split_ifs at h with htaken
      · cases k with
        | zero => exact List.contains_iff_mem.mp htaken
        | succ k =>
            have hnext := mem_of_freeFrom_mem h k (Nat.le_of_succ_le_succ hk)
            rwa [Nat.add_right_comm, Nat.add_assoc] at hnext
      · exact absurd (List.contains_iff_mem.mpr h) htaken

/-- The numbers that are tried are more than the ids that are taken, so one of them is free. -/
theorem freeId_not_mem (taken : List String) (id : String) : freeId taken id ∉ taken := by
  intro h
  unfold freeId at h
  split_ifs at h with htaken
  · have hsubset : (List.range (taken.length + 1)).map (fun k => numbered id (1 + k)) ⊆ taken := by
      intro candidate hcandidate
      obtain ⟨k, hk, rfl⟩ := List.mem_map.mp hcandidate
      exact mem_of_freeFrom_mem h k (Nat.le_of_lt_succ (List.mem_range.mp hk))
    have hnodup : ((List.range (taken.length + 1)).map fun k => numbered id (1 + k)).Nodup := by
      refine List.Nodup.map ?_ List.nodup_range
      intro n m heq
      exact Nat.add_left_cancel (numbered_injective id heq)
    have hle := (List.subperm_of_subset hnodup hsubset).length_le
    rw [List.length_map, List.length_range] at hle
    omega
  · exact htaken (List.contains_iff_mem.mpr h)

/-- The search passes over taken numbers only. -/
theorem exists_freeFrom (taken : List String) (id : String) : ∀ fuel n : Nat,
    ∃ k, n ≤ k ∧ freeFrom taken id fuel n = numbered id k ∧
      ∀ j, n ≤ j → j < k → numbered id j ∈ taken
  | 0, n => ⟨n, Nat.le_refl n, rfl, fun j hle hlt => absurd hlt (Nat.not_lt.mpr hle)⟩
  | fuel + 1, n => by
      unfold freeFrom
      split_ifs with htaken
      · obtain ⟨k, hle, hfound, hpassed⟩ := exists_freeFrom taken id fuel (n + 1)
        refine ⟨k, Nat.le_of_succ_le hle, hfound, fun j hj hlt => ?_⟩
        obtain rfl | hj := Nat.eq_or_lt_of_le hj
        · exact List.contains_iff_mem.mp htaken
        · exact hpassed j hj hlt
      · exact ⟨n, Nat.le_refl n, rfl, fun j hle hlt => absurd hlt (Nat.not_lt.mpr hle)⟩

/-- A free id is the id itself if no workflow has it, otherwise the id with a number. -/
theorem freeId_cases (taken : List String) (id : String) :
    (id ∉ taken ∧ freeId taken id = id) ∨ (id ∈ taken ∧ ∃ k, freeId taken id = numbered id k) := by
  unfold freeId
  split_ifs with htaken
  · obtain ⟨k, -, hfound, -⟩ := exists_freeFrom taken id taken.length 1
    exact Or.inr ⟨List.contains_iff_mem.mp htaken, k, hfound⟩
  · exact Or.inl ⟨fun h => htaken (List.contains_iff_mem.mpr h), rfl⟩

theorem freeId_ne_empty (taken : List String) {id : String} (h : id ≠ "") :
    freeId taken id ≠ "" := by
  obtain ⟨-, hsame⟩ | ⟨-, k, hnumbered⟩ := freeId_cases taken id
  · rwa [hsame]
  · rw [hnumbered]
    exact StoredWorkflow.append_ne_empty (StoredWorkflow.append_ne_empty h _) _

/-! ### Imports -/

/-- Appends a workflow under a free id. -/
def appendOne (workflows : List StoredWorkflow) (workflow : StoredWorkflow) :
    List StoredWorkflow :=
  workflows ++ [{ workflow with id := freeId (workflows.map StoredWorkflow.id) workflow.id }]

/-- Workflows, each under its id. -/
def keyed (workflows : List StoredWorkflow) : Entries StoredWorkflow :=
  workflows.map fun workflow => (workflow.id, workflow)

theorem keys_keyed (workflows : List StoredWorkflow) :
    (keyed workflows).keys = workflows.map StoredWorkflow.id := by
  unfold keyed Entries.keys
  rw [List.map_map]
  rfl

theorem byId_eq_keyed {workflows : List StoredWorkflow}
    (h : (workflows.map StoredWorkflow.id).Nodup) : byId workflows = keyed workflows := by
  have hmerge : byId workflows = Entries.merge [] (keyed workflows) := by
    unfold byId Entries.merge keyed
    rw [List.foldl_map]
  rw [hmerge, Entries.merge_of_nodup]
  · rfl
  · rwa [List.nil_append, keys_keyed]

theorem foldl_mergeOne_keyed (incoming workflows : List StoredWorkflow) :
    incoming.foldl mergeOne (keyed workflows) = keyed (incoming.foldl appendOne workflows) := by
  induction incoming generalizing workflows with
  | nil => rfl
  | cons workflow incoming ih =>
      have hone : mergeOne (keyed workflows) workflow = keyed (appendOne workflows workflow) := by
        unfold mergeOne appendOne
        rw [keys_keyed]
        simp [keyed]
      rw [List.foldl_cons, List.foldl_cons, hone, ih]

/-- What comes is appended to what is there. -/
theorem merge_eq {existing : List StoredWorkflow} (h : (existing.map StoredWorkflow.id).Nodup)
    (incoming : List StoredWorkflow) :
    merge existing incoming = incoming.foldl appendOne existing := by
  unfold merge
  rw [byId_eq_keyed h, foldl_mergeOne_keyed, keyed, List.map_map]
  exact List.map_id _

/-- A workflow of an import as the store keeps it: under its id or under a number of it. -/
def Renumbered (workflow kept : StoredWorkflow) : Prop :=
  kept = { workflow with id := kept.id } ∧
    (kept.id = workflow.id ∨ ∃ k, kept.id = numbered workflow.id k)

section Appending

variable {limit : Nat} {workflows : List StoredWorkflow}

theorem Sound.appendOne (h : Sound limit workflows) {workflow : StoredWorkflow}
    (hworkflow : workflow.Sound limit) : Sound limit (appendOne workflows workflow) where
  nodup := by
    unfold WorkflowStore.appendOne
    rw [List.map_append]
    refine List.Nodup.append h.nodup (List.nodup_singleton _) ?_
    intro id hid hsame
    rw [List.mem_singleton.mp hsame] at hid
    exact freeId_not_mem _ _ hid
  each := by
    intro kept hkept
    obtain hkept | hkept := List.mem_append.mp hkept
    · exact h.each kept hkept
    · rw [List.mem_singleton.mp hkept]
      exact ⟨freeId_ne_empty _ hworkflow.id_ne, hworkflow.name_ne, hworkflow.summary_eq,
        hworkflow.raw_spelled⟩

theorem Sound.foldl_appendOne (h : Sound limit workflows) {incoming : List StoredWorkflow}
    (hincoming : ∀ workflow ∈ incoming, workflow.Sound limit) :
    Sound limit (incoming.foldl WorkflowStore.appendOne workflows) := by
  induction incoming generalizing workflows with
  | nil => exact h
  | cons workflow incoming ih =>
      exact ih (h.appendOne (hincoming workflow List.mem_cons_self))
        fun other hother => hincoming other (List.mem_cons_of_mem workflow hother)

/-- The workflows of an import stand behind those that are there, in order. -/
theorem foldl_appendOne_split (workflows incoming : List StoredWorkflow) :
    ∃ kept, incoming.foldl WorkflowStore.appendOne workflows = workflows ++ kept ∧
      List.Forall₂ Renumbered incoming kept := by
  induction incoming generalizing workflows with
  | nil => exact ⟨[], (List.append_nil _).symm, List.Forall₂.nil⟩
  | cons workflow incoming ih =>
      obtain ⟨kept, hfold, hkept⟩ := ih (WorkflowStore.appendOne workflows workflow)
      have hone : Renumbered workflow
          { workflow with id := freeId (workflows.map StoredWorkflow.id) workflow.id } := by
        refine ⟨rfl, ?_⟩
        obtain ⟨-, hsame⟩ | ⟨-, hnumbered⟩ :=
          freeId_cases (workflows.map StoredWorkflow.id) workflow.id
        · exact Or.inl hsame
        · exact Or.inr hnumbered
      refine ⟨_, ?_, List.Forall₂.cons hone hkept⟩
      rw [List.foldl_cons, hfold, WorkflowStore.appendOne, List.append_assoc, List.singleton_append]

end Appending

/-! ### One entry of the map -/

section Entry

variable {limit : Nat} {workflows : List StoredWorkflow} {id : String}

/-- The workflow of an id, and what stands before and behind it. -/
structure Split (id : String) (workflows before : List StoredWorkflow) (workflow : StoredWorkflow)
    (after : List StoredWorkflow) : Prop where
  eq : workflows = before ++ workflow :: after
  id_eq : workflow.id = id
  before_ne : ∀ other ∈ before, other.id ≠ id
  after_ne : ∀ other ∈ after, other.id ≠ id

theorem exists_split (hnodup : (workflows.map StoredWorkflow.id).Nodup)
    (h : ∃ workflow ∈ workflows, workflow.id = id) :
    ∃ before workflow after, Split id workflows before workflow after := by
  obtain ⟨workflow, hmem, hid⟩ := h
  obtain ⟨before, after, rfl⟩ := List.append_of_mem hmem
  rw [List.map_append, List.map_cons] at hnodup
  obtain ⟨-, htail, hdisjoint⟩ := List.nodup_append.mp hnodup
  refine ⟨before, workflow, after, rfl, hid, ?_, ?_⟩
  · intro other hother heq
    exact hdisjoint other.id (List.mem_map_of_mem hother) workflow.id List.mem_cons_self
      (heq.trans hid.symm)
  · intro other hother heq
    refine (List.nodup_cons.mp htail).1 ?_
    rw [hid, ← heq]
    exact List.mem_map_of_mem hother

/-- An id has a workflow or it has none. -/
theorem split_or_absent (hnodup : (workflows.map StoredWorkflow.id).Nodup) (id : String) :
    (∃ before workflow after, Split id workflows before workflow after) ∨
      ∀ workflow ∈ workflows, workflow.id ≠ id := by
  by_cases h : ∃ workflow ∈ workflows, workflow.id = id
  · exact Or.inl (exists_split hnodup h)
  · exact Or.inr fun workflow hworkflow hid => h ⟨workflow, hworkflow, hid⟩

theorem renameFirst_append (name : String) {before : List StoredWorkflow}
    (hbefore : ∀ other ∈ before, other.id ≠ id) (rest : List StoredWorkflow) :
    renameFirst id name (before ++ rest) = before ++ renameFirst id name rest := by
  induction before with
  | nil => rfl
  | cons other before ih =>
      rw [List.cons_append, renameFirst, if_neg (hbefore other List.mem_cons_self),
        ih fun next hnext => hbefore next (List.mem_cons_of_mem other hnext), List.cons_append]

variable {before after : List StoredWorkflow} {workflow : StoredWorkflow}

theorem Split.mem (h : Split id workflows before workflow after) : workflow ∈ workflows := by
  rw [h.eq]
  exact List.mem_append_right _ List.mem_cons_self

theorem Split.renameFirst (h : Split id workflows before workflow after) (name : String) :
    renameFirst id name workflows = before ++ { workflow with name := name } :: after := by
  rw [h.eq, renameFirst_append name h.before_ne, WorkflowStore.renameFirst, if_pos h.id_eq]

theorem Split.sublist (h : Split id workflows before workflow after) :
    (before ++ after).Sublist workflows := by
  rw [h.eq]
  exact (List.Sublist.refl before).append (List.sublist_cons_self workflow after)

/-- No other workflow has the id. -/
theorem Split.eq_of_mem (h : Split id workflows before workflow after) {other : StoredWorkflow}
    (hother : other ∈ workflows) (hid : other.id = id) : other = workflow := by
  rw [h.eq] at hother
  obtain hother | hother := List.mem_append.mp hother
  · exact absurd hid (h.before_ne other hother)
  · obtain heq | hother := List.mem_cons.mp hother
    · exact heq
    · exact absurd hid (h.after_ne other hother)

theorem Split.filter (h : Split id workflows before workflow after) :
    (workflows.filter fun workflow => workflow.id ≠ id) = before ++ after := by
  have hkeep : ∀ others : List StoredWorkflow, (∀ other ∈ others, other.id ≠ id) →
      (others.filter fun workflow => workflow.id ≠ id) = others := by
    intro others hothers
    exact List.filter_eq_self.mpr fun other hother => decide_eq_true (hothers other hother)
  rw [h.eq, List.filter_append, List.filter_cons, if_neg (by simp [h.id_eq]), hkeep _ h.before_ne,
    hkeep _ h.after_ne]

theorem Sound.key_ne (h : Sound limit workflows)
    (hsplit : Split id workflows before workflow after) : id ≠ "" := by
  rw [← hsplit.id_eq]
  exact (h.each workflow hsplit.mem).id_ne

theorem Sound.rename (h : Sound limit workflows) (hsplit : Split id workflows before workflow after)
    {name : String} (hname : name ≠ "") :
    Sound limit (before ++ { workflow with name := name } :: after) where
  nodup := by
    have hnodup := h.nodup
    rw [hsplit.eq] at hnodup
    rwa [List.map_append, List.map_cons] at hnodup ⊢
  each := by
    have heach := h.each
    rw [hsplit.eq] at heach
    intro other hother
    obtain hother | hother := List.mem_append.mp hother
    · exact heach other (List.mem_append_left _ hother)
    · obtain rfl | hother := List.mem_cons.mp hother
      · have hworkflow := heach workflow (List.mem_append_right _ List.mem_cons_self)
        exact ⟨hworkflow.id_ne, hname, hworkflow.summary_eq, hworkflow.raw_spelled⟩
      · exact heach other (List.mem_append_right _ (List.mem_cons_of_mem workflow hother))

theorem Sound.sublist (h : Sound limit workflows) {fewer : List StoredWorkflow}
    (hfewer : fewer.Sublist workflows) : Sound limit fewer where
  nodup := h.nodup.sublist (hfewer.map _)
  each := fun workflow hworkflow => h.each workflow (hfewer.subset hworkflow)

end Entry

/-! ### Writing the file -/

section Writing

variable {limit : Nat} (patience : Patience) {workflows : List StoredWorkflow} (disk : Disk)

/-- The fault of a file that could not be written. -/
def writeFault (patience : Patience) : Failure :=
  .fault (retryFault patience.policy "_persist" (Failure.fileAccess.asCause false))

theorem writeFault_ne_notFound (id : Json) : writeFault patience ≠ notFound id := by
  intro heq
  have hkind := congrArg Fault.kind (Failure.fault.inj heq)
  cases hkind

/-- Writing the file puts all workflows in it, or fails and leaves it as it was. -/
theorem persist_outcome (workflows : List StoredWorkflow) :
    (persist patience workflows disk).answer = .ok workflows ∧
      (persist patience workflows disk).disk.workflows = some (toText workflows) ∨
    (persist patience workflows disk).answer = .error (writeFault patience) ∧
      (persist patience workflows disk).disk.workflows = disk.workflows := by
  unfold persist
  obtain ⟨-, hok, tried, hdisk⟩ | ⟨herror, tried, hdisk⟩ :=
    disk.write_outcome patience "_persist" writeOperations true fun disk =>
      { disk with workflows := some (toText workflows) }
  · have hfile := congrArg Disk.workflows hdisk
    left
    unfold Stored.andThen
    rw [hok]
    exact ⟨rfl, hfile⟩
  · have hfile := congrArg Disk.workflows hdisk
    right
    unfold Stored.andThen
    rw [herror]
    exact ⟨rfl, hfile⟩

theorem persist_of_works (h : disk.Works) (workflows : List StoredWorkflow) :
    (persist patience workflows disk).answer = .ok workflows := by
  unfold persist
  rw [disk.write_of_works patience "_persist" writeOperations _ h]
  rfl

theorem persist_ok {listed : List StoredWorkflow}
    (h : (persist patience workflows disk).answer = .ok listed) : listed = workflows := by
  obtain ⟨hok, -⟩ | ⟨herror, -⟩ := persist_outcome patience disk workflows
  · exact (Except.ok.inj (hok.symm.trans h)).symm
  · cases herror.symm.trans h

theorem persist_ne_notFound (workflows : List StoredWorkflow) (id : Json) :
    (persist patience workflows disk).answer ≠ .error (notFound id) := by
  intro h
  obtain ⟨hok, -⟩ | ⟨herror, -⟩ := persist_outcome patience disk workflows
  · cases hok.symm.trans h
  · exact writeFault_ne_notFound patience id (Except.error.inj (herror.symm.trans h))

theorem outage_persist (workflows : List StoredWorkflow) :
    (persist patience workflows disk).disk.outage = disk.outage := by
  have hkeeps := disk.write_keeps patience "_persist" writeOperations true
    (fun disk => { disk with workflows := some (toText workflows) }) (·.outage) (fun _ _ => rfl)
    fun _ => rfl
  unfold persist Stored.andThen
  split <;> exact hkeeps

end Writing

/-! ### What each operation comes to -/

section Operations

variable (patience : Patience) {disk : Disk} {workflows before after : List StoredWorkflow}
  {workflow : StoredWorkflow} {id : String}

theorem importPayload_of_ne_nil (h : readAll disk = .ok workflows)
    (hnodup : (workflows.map StoredWorkflow.id).Nodup) {stamp : Int} {payload : Json}
    (hne : StoredWorkflow.ofImport stamp payload ≠ []) :
    importPayload patience stamp payload disk =
      persist patience ((StoredWorkflow.ofImport stamp payload).foldl appendOne workflows)
        disk := by
  unfold importPayload
  dsimp only
  rw [if_neg (by simpa using hne), h, ← merge_eq hnodup]
  rfl

theorem importPayload_of_nil {stamp : Int} {payload : Json}
    (hnil : StoredWorkflow.ofImport stamp payload = []) :
    importPayload patience stamp payload disk = .pure (.error (.fault emptyImport)) disk := by
  unfold importPayload
  rw [hnil]
  rfl

theorem rename_of_split (h : readAll disk = .ok workflows)
    (hsplit : Split id workflows before workflow after) (name : String) :
    rename patience id name disk =
      persist patience (before ++ { workflow with name := name } :: after) disk := by
  have hany : (workflows.any fun workflow => workflow.id = id) = true := by
    rw [List.any_eq_true]
    exact ⟨workflow, hsplit.mem, decide_eq_true hsplit.id_eq⟩
  unfold rename
  rw [h, Stored.pure_andThen, if_pos hany, hsplit.renameFirst]

theorem rename_of_absent (h : readAll disk = .ok workflows)
    (habsent : ∀ workflow ∈ workflows, workflow.id ≠ id) (name : String) :
    rename patience id name disk = .pure (.error (notFound (.str id))) disk := by
  have hany : ¬ (workflows.any fun workflow => workflow.id = id) = true := by
    rw [List.any_eq_true]
    rintro ⟨workflow, hworkflow, hid⟩
    exact habsent workflow hworkflow (of_decide_eq_true hid)
  unfold rename
  rw [h, Stored.pure_andThen, if_neg hany]

theorem delete_of_split (h : readAll disk = .ok workflows)
    (hsplit : Split id workflows before workflow after) :
    delete patience id disk = persist patience (before ++ after) disk := by
  have hlength : (before ++ after).length ≠ workflows.length := by
    rw [hsplit.eq, List.length_append, List.length_append, List.length_cons]
    omega
  unfold delete
  rw [h, Stored.pure_andThen]
  dsimp only
  rw [hsplit.filter, if_neg hlength]

theorem delete_of_absent (h : readAll disk = .ok workflows)
    (habsent : ∀ workflow ∈ workflows, workflow.id ≠ id) :
    delete patience id disk = .pure (.error (notFound (.str id))) disk := by
  have hfilter : (workflows.filter fun workflow => workflow.id ≠ id) = workflows :=
    List.filter_eq_self.mpr fun workflow hworkflow => decide_eq_true (habsent workflow hworkflow)
  unfold delete
  rw [h, Stored.pure_andThen]
  dsimp only
  rw [hfilter, if_pos rfl]

theorem get_of_split (h : readAll disk = .ok workflows)
    (hsplit : Split id workflows before workflow after) : get disk id = .ok workflow := by
  have hfind : (workflows.find? fun workflow => workflow.id = id) = some workflow := by
    rw [hsplit.eq, List.find?_eq_some_iff_append]
    refine ⟨decide_eq_true hsplit.id_eq, before, after, rfl, ?_⟩
    intro other hother
    simpa using hsplit.before_ne other hother
  unfold get
  rw [h]
  change (pure workflows >>= _) = _
  rw [pure_bind, hfind]

theorem get_of_absent (h : readAll disk = .ok workflows)
    (habsent : ∀ workflow ∈ workflows, workflow.id ≠ id) :
    get disk id = .error (notFound (.str id)) := by
  have hfind : (workflows.find? fun workflow => workflow.id = id) = none := by
    rw [List.find?_eq_none]
    intro workflow hworkflow
    simpa using habsent workflow hworkflow
  unfold get
  rw [h]
  change (pure workflows >>= _) = _
  rw [pure_bind, hfind]

end Operations

/-! ### Whole runs -/

/-- An operation of the store. -/
inductive Operation where
  | importPayload (stamp : Int) (payload : Json)
  | rename (id name : String)
  | delete (id : String)
  | get (id : String)

namespace Operation

/-- An import is of a value that a text can spell, as every value is that is read from one
(`Json.spelled_of_read`), and a new name is not empty. -/
def Admissible (limit : Nat) : Operation → Prop
  | .importPayload _ payload => payload.Spelled limit
  | .rename _ name => name ≠ ""
  | .delete _ | .get _ => True

/-- The disk that an operation leaves. -/
def after (patience : Patience) (disk : Disk) : Operation → Disk
  | .importPayload stamp payload => (WorkflowStore.importPayload patience stamp payload disk).disk
  | .rename id name => (WorkflowStore.rename patience id name disk).disk
  | .delete id => (WorkflowStore.delete patience id disk).disk
  | .get _ => disk

end Operation

/-- The disk that operations leave, one after another. -/
def run (patience : Patience) (operations : List Operation) (disk : Disk) : Disk :=
  operations.foldl (Operation.after patience) disk

/-- What a change answers is what the file holds after it, and a change that fails leaves the file
as it was. -/
structure Truthful (done : Stored (List StoredWorkflow)) (disk : Disk) : Prop where
  listed : ∀ workflows, done.answer = .ok workflows → readAll done.disk = .ok workflows
  kept : ∀ failure, done.answer = .error failure → done.disk.workflows = disk.workflows

/-- The file holds an ordered map, and the operations treat it as one. -/
structure Refines (patience : Patience) (limit : Nat) (disk : Disk)
    (workflows : List StoredWorkflow) : Prop where
  reads : readAll disk = .ok workflows
  sound : Sound limit workflows
  import_truthful : ∀ stamp payload, payload.Spelled limit →
    Truthful (importPayload patience stamp payload disk) disk
  import_appends : ∀ stamp payload listed,
    (importPayload patience stamp payload disk).answer = .ok listed →
      ∃ kept, listed = workflows ++ kept ∧
        List.Forall₂ Renumbered (StoredWorkflow.ofImport stamp payload) kept
  import_works : ∀ stamp payload, disk.Works → StoredWorkflow.ofImport stamp payload ≠ [] →
    ∃ listed, (importPayload patience stamp payload disk).answer = .ok listed
  rename_truthful : ∀ id name, name ≠ "" → Truthful (rename patience id name disk) disk
  rename_replaces : ∀ id name listed, (rename patience id name disk).answer = .ok listed →
    ∃ before workflow after, Split id workflows before workflow after ∧
      listed = before ++ { workflow with name := name } :: after
  rename_notFound : ∀ id name, (rename patience id name disk).answer = .error (notFound (.str id)) ↔
    ∀ workflow ∈ workflows, workflow.id ≠ id
  rename_works : ∀ id name, disk.Works → (∃ workflow ∈ workflows, workflow.id = id) →
    ∃ listed, (rename patience id name disk).answer = .ok listed
  delete_truthful : ∀ id, Truthful (delete patience id disk) disk
  delete_removes : ∀ id listed, (delete patience id disk).answer = .ok listed →
    ∃ before workflow after, Split id workflows before workflow after ∧ listed = before ++ after
  delete_notFound : ∀ id, (delete patience id disk).answer = .error (notFound (.str id)) ↔
    ∀ workflow ∈ workflows, workflow.id ≠ id
  delete_works : ∀ id, disk.Works → (∃ workflow ∈ workflows, workflow.id = id) →
    ∃ listed, (delete patience id disk).answer = .ok listed
  get_finds : ∀ id workflow, get disk id = .ok workflow ↔ workflow ∈ workflows ∧ workflow.id = id
  get_notFound : ∀ id, get disk id = .error (notFound (.str id)) ↔
    ∀ workflow ∈ workflows, workflow.id ≠ id

/-! ### What no operation changes -/

theorem outage_andThen {disk : Disk} {first : Except Failure (List StoredWorkflow)}
    {next : List StoredWorkflow → Disk → Stored (List StoredWorkflow)}
    (h : ∀ workflows, (next workflows disk).disk.outage = disk.outage) :
    ((Stored.pure first disk).andThen next).disk.outage = disk.outage := by
  cases first with
  | error failure => rfl
  | ok workflows => exact h workflows

theorem outage_after (patience : Patience) (disk : Disk) (operation : Operation) :
    (operation.after patience disk).outage = disk.outage := by
  cases operation with
  | importPayload stamp payload =>
      unfold Operation.after importPayload
      dsimp only
      split_ifs
      · rfl
      · exact outage_andThen fun _ => outage_persist patience disk _
  | rename id name =>
      unfold Operation.after rename
      refine outage_andThen fun _ => ?_
      split_ifs
      · exact outage_persist patience disk _
      · rfl
  | delete id =>
      unfold Operation.after delete
      refine outage_andThen fun _ => ?_
      dsimp only
      split_ifs
      · rfl
      · exact outage_persist patience disk _
  | get id => rfl

theorem outage_run (patience : Patience) (operations : List Operation) (disk : Disk) :
    (run patience operations disk).outage = disk.outage := by
  induction operations generalizing disk with
  | nil => rfl
  | cons operation operations ih => exact (ih _).trans (outage_after patience disk operation)

section Runs

variable {limit : Nat} (hlimit : digitCount limit ≤ maxDigits) (patience : Patience) {disk : Disk}
  {workflows : List StoredWorkflow}

/-- An operation leaves the disk as it is, or writes the file of a sound list. -/
theorem after_cases (hreads : readAll disk = .ok workflows) (hsound : Sound limit workflows)
    {operation : Operation} (hadmissible : operation.Admissible limit) :
    operation.after patience disk = disk ∨ ∃ next, Sound limit next ∧
      operation.after patience disk = (persist patience next disk).disk := by
  cases operation with
  | importPayload stamp payload =>
      rw [Operation.after]
      by_cases hnil : StoredWorkflow.ofImport stamp payload = []
      · rw [importPayload_of_nil patience hnil]
        exact Or.inl rfl
      · rw [importPayload_of_ne_nil patience hreads hsound.nodup hnil]
        exact Or.inr ⟨_, hsound.foldl_appendOne (StoredWorkflow.sound_ofImport stamp hadmissible),
          rfl⟩
  | rename id name =>
      rw [Operation.after]
      obtain ⟨before, workflow, after, hsplit⟩ | habsent := split_or_absent hsound.nodup id
      · rw [rename_of_split patience hreads hsplit]
        exact Or.inr ⟨_, hsound.rename hsplit hadmissible, rfl⟩
      · rw [rename_of_absent patience hreads habsent]
        exact Or.inl rfl
  | delete id =>
      rw [Operation.after]
      obtain ⟨before, workflow, after, hsplit⟩ | habsent := split_or_absent hsound.nodup id
      · rw [delete_of_split patience hreads hsplit]
        exact Or.inr ⟨_, hsound.sublist hsplit.sublist, rfl⟩
      · rw [delete_of_absent patience hreads habsent]
        exact Or.inl rfl
  | get id => exact Or.inl rfl

theorem truthful_error (failure : Failure) : Truthful (.pure (.error failure) disk) disk :=
  ⟨nofun, fun _ _ => rfl⟩

include hlimit

theorem truthful_persist (h : Sound limit workflows) :
    Truthful (persist patience workflows disk) disk := by
  obtain ⟨hok, hdisk⟩ | ⟨herror, hdisk⟩ := persist_outcome patience disk workflows
  · refine ⟨?_, ?_⟩
    · intro listed hlisted
      obtain rfl := Except.ok.inj (hok.symm.trans hlisted)
      exact readAll_of_toText hlimit h hdisk
    · intro failure hfailure
      cases hok.symm.trans hfailure
  · refine ⟨?_, fun _ _ => hdisk⟩
    intro listed hlisted
    cases herror.symm.trans hlisted

/-- Whatever was read from the file, the operations treat it as an ordered map. -/
theorem refines_of_reads (hreads : readAll disk = .ok workflows) (hsound : Sound limit workflows) :
    Refines patience limit disk workflows where
  reads := hreads
  sound := hsound
  import_truthful stamp payload hpayload := by
    by_cases hnil : StoredWorkflow.ofImport stamp payload = []
    · rw [importPayload_of_nil patience hnil]
      exact truthful_error _
    · rw [importPayload_of_ne_nil patience hreads hsound.nodup hnil]
      have hincoming := StoredWorkflow.sound_ofImport stamp hpayload
      exact truthful_persist hlimit patience (hsound.foldl_appendOne hincoming)
  import_appends stamp payload listed hlisted := by
    by_cases hnil : StoredWorkflow.ofImport stamp payload = []
    · rw [importPayload_of_nil patience hnil] at hlisted
      cases hlisted
    · rw [importPayload_of_ne_nil patience hreads hsound.nodup hnil] at hlisted
      obtain rfl := persist_ok patience disk hlisted
      exact foldl_appendOne_split workflows _
  import_works stamp payload hworks hne := by
    rw [importPayload_of_ne_nil patience hreads hsound.nodup hne]
    exact ⟨_, persist_of_works patience disk hworks _⟩
  rename_truthful id name hname := by
    obtain ⟨before, workflow, after, hsplit⟩ | habsent := split_or_absent hsound.nodup id
    · rw [rename_of_split patience hreads hsplit]
      exact truthful_persist hlimit patience (hsound.rename hsplit hname)
    · rw [rename_of_absent patience hreads habsent]
      exact truthful_error _
  rename_replaces id name listed hlisted := by
    obtain ⟨before, workflow, after, hsplit⟩ | habsent := split_or_absent hsound.nodup id
    · rw [rename_of_split patience hreads hsplit] at hlisted
      exact ⟨before, workflow, after, hsplit, persist_ok patience disk hlisted⟩
    · rw [rename_of_absent patience hreads habsent] at hlisted
      cases hlisted
  rename_notFound id name := by
    obtain ⟨before, workflow, after, hsplit⟩ | habsent := split_or_absent hsound.nodup id
    · rw [rename_of_split patience hreads hsplit]
      exact iff_of_false (persist_ne_notFound patience disk _ _)
        fun habsent => habsent workflow hsplit.mem hsplit.id_eq
    · rw [rename_of_absent patience hreads habsent]
      exact iff_of_true rfl habsent
  rename_works id name hworks hpresent := by
    obtain ⟨before, workflow, after, hsplit⟩ := exists_split hsound.nodup hpresent
    rw [rename_of_split patience hreads hsplit]
    exact ⟨_, persist_of_works patience disk hworks _⟩
  delete_truthful id := by
    obtain ⟨before, workflow, after, hsplit⟩ | habsent := split_or_absent hsound.nodup id
    · rw [delete_of_split patience hreads hsplit]
      exact truthful_persist hlimit patience (hsound.sublist hsplit.sublist)
    · rw [delete_of_absent patience hreads habsent]
      exact truthful_error _
  delete_removes id listed hlisted := by
    obtain ⟨before, workflow, after, hsplit⟩ | habsent := split_or_absent hsound.nodup id
    · rw [delete_of_split patience hreads hsplit] at hlisted
      exact ⟨before, workflow, after, hsplit, persist_ok patience disk hlisted⟩
    · rw [delete_of_absent patience hreads habsent] at hlisted
      cases hlisted
  delete_notFound id := by
    obtain ⟨before, workflow, after, hsplit⟩ | habsent := split_or_absent hsound.nodup id
    · rw [delete_of_split patience hreads hsplit]
      exact iff_of_false (persist_ne_notFound patience disk _ _)
        fun habsent => habsent workflow hsplit.mem hsplit.id_eq
    · rw [delete_of_absent patience hreads habsent]
      exact iff_of_true rfl habsent
  delete_works id hworks hpresent := by
    obtain ⟨before, workflow, after, hsplit⟩ := exists_split hsound.nodup hpresent
    rw [delete_of_split patience hreads hsplit]
    exact ⟨_, persist_of_works patience disk hworks _⟩
  get_finds id found := by
    obtain ⟨before, workflow, after, hsplit⟩ | habsent := split_or_absent hsound.nodup id
    · rw [get_of_split hreads hsplit]
      constructor
      · intro heq
        obtain rfl := Except.ok.inj heq
        exact ⟨hsplit.mem, hsplit.id_eq⟩
      · rintro ⟨hfound, hid⟩
        rw [hsplit.eq_of_mem hfound hid]
    · rw [get_of_absent hreads habsent]
      exact iff_of_false nofun fun ⟨hfound, hid⟩ => habsent found hfound hid
  get_notFound id := by
    obtain ⟨before, workflow, after, hsplit⟩ | habsent := split_or_absent hsound.nodup id
    · rw [get_of_split hreads hsplit]
      exact iff_of_false nofun fun habsent => habsent workflow hsplit.mem hsplit.id_eq
    · rw [get_of_absent hreads habsent]
      exact iff_of_true rfl habsent

/-- An operation leaves an ordered map behind. -/
theorem exists_refines_after (h : Refines patience limit disk workflows) {operation : Operation}
    (hadmissible : operation.Admissible limit) :
    ∃ after, Refines patience limit (operation.after patience disk) after := by
  obtain hsame | ⟨next, hnext, hwritten⟩ := after_cases patience h.reads h.sound hadmissible
  · rw [hsame]
    exact ⟨workflows, h⟩
  · rw [hwritten]
    obtain ⟨-, hdisk⟩ | ⟨-, hdisk⟩ := persist_outcome patience disk next
    · exact ⟨next, refines_of_reads hlimit patience (readAll_of_toText hlimit hnext hdisk) hnext⟩
    · refine ⟨workflows, refines_of_reads hlimit patience ?_ h.sound⟩
      unfold readAll
      rw [hdisk]
      exact h.reads

theorem exists_refines_run (h : Refines patience limit disk workflows) {operations : List Operation}
    (hadmissible : ∀ operation ∈ operations, operation.Admissible limit) :
    ∃ after, Refines patience limit (run patience operations disk) after := by
  induction operations generalizing disk workflows with
  | nil => exact ⟨workflows, h⟩
  | cons operation operations ih =>
      obtain ⟨after, hafter⟩ := exists_refines_after hlimit patience h
        (hadmissible operation List.mem_cons_self)
      exact ih hafter fun other hother => hadmissible other (List.mem_cons_of_mem operation hother)

end Runs

/-- After every run from an empty store, whatever operations it had and whichever of their writes
failed, the store is an ordered map from ids to workflows. -/
theorem run_refines {limit : Nat} (hlimit : digitCount limit ≤ maxDigits) (patience : Patience)
    {disk : Disk} (hdisk : disk.workflows = none) {operations : List Operation}
    (hadmissible : ∀ operation ∈ operations, operation.Admissible limit) :
    (∃ workflows, Refines patience limit (run patience operations disk) workflows) ∧
      (disk.Works → (run patience operations disk).Works) := by
  refine ⟨?_, ?_⟩
  · have hreads : readAll disk = .ok [] := by
      unfold readAll
      rw [hdisk]
    exact exists_refines_run hlimit patience
      (refines_of_reads hlimit patience hreads ⟨List.nodup_nil, nofun⟩) hadmissible
  · intro hworks
    unfold Disk.Works
    rw [outage_run]
    exact hworks

/-- An empty graph under an id. -/
def emptyGraph : Json := .obj [("id", .str "a"), ("nodes", .arr [])]

theorem spelled_emptyGraph : emptyGraph.Spelled 0 := by
  refine Json.Spelled.obj _ (by decide) ?_
  intro field hfield
  simp only [List.mem_cons, List.not_mem_nil, or_false] at hfield
  obtain rfl | rfl := hfield
  · exact Json.Spelled.str "a"
  · exact Json.Spelled.arr [] (Nat.le_refl 0) (List.forall_mem_nil _)

/-- Two imports under one id, a rename and a removal. -/
def sampleRun : List Operation :=
  [.importPayload 0 emptyGraph, .importPayload 1 emptyGraph, .rename "a" "b", .delete "a-1"]

theorem run_refines_sampleRun :
    digitCount 0 ≤ maxDigits ∧ (∀ operation ∈ sampleRun, operation.Admissible 0) ∧
      (∃ workflows, Refines ⟨.standard, fun _ => Double.zero false⟩ 0
        (run ⟨.standard, fun _ => Double.zero false⟩ sampleRun Disk.empty) workflows) ∧
      (run ⟨.standard, fun _ => Double.zero false⟩ sampleRun Disk.empty).Works := by
  have hlimit : digitCount 0 ≤ maxDigits := by decide
  have hadmissible : ∀ operation ∈ sampleRun, operation.Admissible 0 := by
    intro operation hoperation
    simp only [sampleRun, List.mem_cons, List.not_mem_nil, or_false] at hoperation
    obtain rfl | rfl | rfl | rfl := hoperation
    · exact spelled_emptyGraph
    · exact spelled_emptyGraph
    · exact (by decide : "b" ≠ "")
    · trivial
  have hempty : Disk.empty.workflows = none := rfl
  obtain ⟨hrefines, hworks⟩ :=
    run_refines hlimit ⟨.standard, fun _ => Double.zero false⟩ hempty hadmissible
  exact ⟨hlimit, hadmissible, hrefines, hworks fun _ => rfl⟩

end RenderRelay.WorkflowStore
