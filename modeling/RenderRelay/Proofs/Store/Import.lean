import RenderRelay.Proofs.Store.Reread

/-! # What an import adds

An import renames what would collide: the ids that it tries are taken by the store, by what the
same import has added before, or by nobody.

* `FirstFree` says which id a workflow gets, and `firstFree_freeId` that the search finds it.
* `Merged` follows an import from one workflow to the next, with the ids that are taken by then.
* `exists_merged`: what is there is kept, and each workflow that comes is appended once, with
  nothing of it changed but its id; `Merged.nodup`: no id is given twice.
* `importPayload_merges` says so of the whole import, whose file reads back as what it
  answered. -/

namespace RenderRelay.WorkflowStore

open Number

/-! ### The first free id -/

/-- The id that a workflow gets where some ids are taken: its own if that one is free, otherwise
the one with the least number behind it. -/
def FirstFree (taken : List String) (id chosen : String) : Prop :=
  (id ∉ taken ∧ chosen = id) ∨
    (id ∈ taken ∧ ∃ k, 1 ≤ k ∧ chosen = numbered id k ∧ numbered id k ∉ taken ∧
      ∀ j, 1 ≤ j → j < k → numbered id j ∈ taken)

theorem firstFree_freeId (taken : List String) (id : String) :
    FirstFree taken id (freeId taken id) := by
  have hfree := freeId_not_mem taken id
  unfold freeId at hfree ⊢
  split_ifs at hfree ⊢ with htaken
  · obtain ⟨k, hle, hfound, hpassed⟩ := exists_freeFrom taken id taken.length 1
    rw [hfound] at hfree ⊢
    exact Or.inr ⟨List.contains_iff_mem.mp htaken, k, hle, rfl, hfree, hpassed⟩
  · exact Or.inl ⟨hfree, rfl⟩

theorem FirstFree.not_mem {taken : List String} {id chosen : String}
    (h : FirstFree taken id chosen) : chosen ∉ taken := by
  obtain ⟨hfree, rfl⟩ | ⟨-, k, -, rfl, hfree, -⟩ := h
  · exact hfree
  · exact hfree

theorem FirstFree.ne_empty {taken : List String} {id chosen : String}
    (h : FirstFree taken id chosen) (hid : id ≠ "") : chosen ≠ "" := by
  obtain ⟨-, rfl⟩ | ⟨-, k, -, rfl, -⟩ := h
  · exact hid
  · exact StoredWorkflow.append_ne_empty (StoredWorkflow.append_ne_empty hid _) _

/-! ### One workflow after another -/

/-- What becomes of the workflows that come where some ids are taken: each is kept as it is, under
the first id that is free by then, and takes that id. -/
inductive Merged : (taken : List String) → (incoming imported : List StoredWorkflow) → Prop where
  | nil (taken : List String) : Merged taken [] []
  | cons {taken : List String} {workflow : StoredWorkflow} {id : String}
      {incoming imported : List StoredWorkflow} (hid : FirstFree taken workflow.id id)
      (hrest : Merged (taken ++ [id]) incoming imported) :
      Merged taken (workflow :: incoming) ({ workflow with id := id } :: imported)

/-- What is there stays as it is, and what comes is merged behind it. -/
theorem exists_merged (workflows incoming : List StoredWorkflow) :
    ∃ imported, incoming.foldl appendOne workflows = workflows ++ imported ∧
      Merged (workflows.map StoredWorkflow.id) incoming imported := by
  induction incoming generalizing workflows with
  | nil => exact ⟨[], (List.append_nil workflows).symm, .nil _⟩
  | cons workflow incoming ih =>
      obtain ⟨imported, hfold, hmerged⟩ := ih (appendOne workflows workflow)
      have hid := firstFree_freeId (workflows.map StoredWorkflow.id) workflow.id
      rw [appendOne, List.map_append] at hmerged
      refine ⟨_, ?_, .cons hid hmerged⟩
      rw [List.foldl_cons, hfold, appendOne, List.append_assoc, List.singleton_append]

namespace Merged

variable {taken : List String} {incoming imported : List StoredWorkflow}

/-- No id is given that is taken, and none is given twice. -/
theorem nodup (h : Merged taken incoming imported) (hnodup : taken.Nodup) :
    (taken ++ imported.map StoredWorkflow.id).Nodup := by
  induction h with
  | nil taken => rwa [List.map_nil, List.append_nil]
  | @cons taken _ id _ _ hid _ ih =>
      have hnext : (taken ++ [id]).Nodup := by
        refine hnodup.append (List.nodup_singleton id) ?_
        exact List.disjoint_singleton.mpr hid.not_mem
      rw [List.map_cons, List.append_cons]
      exact ih hnext

theorem rewritable (h : Merged taken incoming imported)
    (hincoming : ∀ workflow ∈ incoming, workflow.Rewritable) :
    ∀ workflow ∈ imported, workflow.Rewritable := by
  induction h with
  | nil taken => exact List.forall_mem_nil _
  | cons hid _ ih =>
      obtain ⟨hworkflow, hrest⟩ := List.forall_mem_cons.mp hincoming
      exact List.forall_mem_cons.mpr
        ⟨hworkflow.withId (hid.ne_empty hworkflow.id_ne), ih hrest⟩

end Merged

/-! ### The whole import -/

section Import

variable (patience : Patience) {disk : Disk} {existing : List StoredWorkflow}

/-- **Imports lose nothing.**  An import of at least one workflow into a store with distinct ids
answers what was there, as it was and in its order, and behind it one workflow for each that comes,
in their order and under the first id that is free by then; all ids are distinct.  The file holds
what was answered and reads back as it, for an upload and an old file whose sizes a text can spell.
Only on a disk that does not work may it fail, and then it leaves the file as it was. -/
theorem importPayload_merges (hreads : readAll disk = .ok existing)
    (hnodup : (existing.map StoredWorkflow.id).Nodup) {stamp : Int} {payload : Json}
    (hne : StoredWorkflow.ofImport stamp payload ≠ []) :
    ∃ imported,
      Merged (existing.map StoredWorkflow.id) (StoredWorkflow.ofImport stamp payload) imported ∧
      ((existing ++ imported).map StoredWorkflow.id).Nodup ∧
      ((importPayload patience stamp payload disk).answer = .ok (existing ++ imported) ∧
          (importPayload patience stamp payload disk).disk.workflows =
            some (toText (existing ++ imported)) ∧
          (∀ limit, digitCount limit ≤ maxDigits → payload.Spelled limit →
            (∀ text ∈ disk.workflows, text.toList.length ≤ limit) →
              readAll (importPayload patience stamp payload disk).disk =
                .ok (existing ++ imported)) ∨
        ¬ disk.Works ∧
          (importPayload patience stamp payload disk).answer = .error (writeFault patience) ∧
          (importPayload patience stamp payload disk).disk.workflows = disk.workflows) := by
  obtain ⟨imported, hfold, hmerged⟩ :=
    exists_merged existing (StoredWorkflow.ofImport stamp payload)
  refine ⟨imported, hmerged, ?_, ?_⟩
  · rw [List.map_append]
    exact hmerged.nodup hnodup
  · rw [importPayload_of_ne_nil patience hreads hnodup hne, hfold]
    obtain ⟨hok, hfile⟩ | ⟨herror, hfile⟩ := persist_outcome patience disk (existing ++ imported)
    · refine Or.inl ⟨hok, hfile, fun limit hlimit hpayload hsize => readAll_of_written ?_ hfile⟩
      have hold : ∀ workflow ∈ existing, workflow.Rewritable := by
        refine rewritable_of_readAll (fun text htext => ?_) hreads
        rw [digitCount_le_iff (by decide)] at hlimit ⊢
        exact (hsize text htext).trans_lt hlimit
      have hnew : ∀ workflow ∈ imported, workflow.Rewritable := by
        refine hmerged.rewritable fun workflow hworkflow => ?_
        exact (StoredWorkflow.sound_ofImport stamp hpayload workflow hworkflow).rewritable hlimit
      exact List.forall_mem_append.mpr ⟨hold, hnew⟩
    · refine Or.inr ⟨fun hworks => ?_, herror, hfile⟩
      cases (persist_of_works patience disk hworks _).symm.trans herror

end Import

/-- Empty graphs under these ids. -/
def uploadOf (ids : List String) : Json :=
  .arr (ids.map fun id => .obj [("id", .str id), ("nodes", .arr [])])

theorem spelled_uploadOf (ids : List String) : (uploadOf ids).Spelled ids.length := by
  refine Json.Spelled.arr _ (List.length_map _).le (List.forall_mem_map.mpr fun id _ => ?_)
  refine Json.Spelled.obj _ (by simp [Entries.keys]) ?_
  simp only [List.forall_mem_cons]
  exact ⟨.str id, .arr [] (Nat.zero_le _) (List.forall_mem_nil _), List.forall_mem_nil _⟩

/-- What a store holds after `a` and `a-1` were imported. -/
def heldTwo : List StoredWorkflow := StoredWorkflow.ofImport 0 (uploadOf ["a", "a-1"])

/-- A disk whose file holds the two. -/
def diskOfTwo : Disk := { Disk.empty with workflows := some (toText heldTwo) }

theorem readAll_diskOfTwo : readAll diskOfTwo = .ok heldTwo :=
  readAll_of_toText (by decide)
    ⟨by decide, StoredWorkflow.sound_ofImport 0 (spelled_uploadOf ["a", "a-1"])⟩ rfl

/-- A number that an import gives may be the id of a workflow behind it, which then gives way. -/
theorem importPayload_merges_diskOfTwo :
    readAll diskOfTwo = .ok heldTwo ∧ (heldTwo.map StoredWorkflow.id).Nodup ∧
      StoredWorkflow.ofImport 1 (uploadOf ["a", "a-2", "b"]) ≠ [] ∧
      ∃ imported,
        (importPayload ⟨.standard, fun _ => Double.zero false⟩ 1 (uploadOf ["a", "a-2", "b"])
          diskOfTwo).answer = .ok (heldTwo ++ imported) ∧
        imported.map StoredWorkflow.id = ["a-2", "a-2-1", "b"] := by
  have hnodup : (heldTwo.map StoredWorkflow.id).Nodup := by decide
  have hne : StoredWorkflow.ofImport 1 (uploadOf ["a", "a-2", "b"]) ≠ [] := by decide
  refine ⟨readAll_diskOfTwo, hnodup, hne, ?_⟩
  obtain ⟨imported, -, -, ⟨hok, -⟩ | ⟨hfails, -⟩⟩ :=
    importPayload_merges ⟨.standard, fun _ => Double.zero false⟩ readAll_diskOfTwo hnodup hne
  · have hlisted := hok
    rw [importPayload_of_ne_nil _ readAll_diskOfTwo hnodup hne] at hlisted
    have hids := congrArg (List.map StoredWorkflow.id) (persist_ok _ _ hlisted)
    rw [List.map_append] at hids
    refine ⟨imported, hok, List.append_cancel_left (hids.trans ?_)⟩
    decide
  · exact absurd (fun _ => rfl) hfails

end RenderRelay.WorkflowStore
