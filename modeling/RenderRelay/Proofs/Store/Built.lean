import RenderRelay.Proofs.Store.Workflows

/-! # Stores that operations have built

* `Built` holds of the directories whose workflow file was made by imports, renames and deletes,
  whichever of their writes failed and whatever else was done in the directory.
* `Built.exists_readAll`: such a file can be read. -/

namespace RenderRelay.WorkflowStore

open Number

/-- A directory whose workflow file was made by the operations of the store; what was imported, a
text can spell with at most `limit` items in each list. -/
inductive Built (limit : Nat) : Disk → Prop where
  | start (disk : Disk) (hdisk : disk.workflows = none) : Built limit disk
  | importPayload (disk : Disk) (hdisk : Built limit disk) (patience : Patience) (stamp : Int)
      (payload : Json) (hpayload : payload.Spelled limit) :
      Built limit (WorkflowStore.importPayload patience stamp payload disk).disk
  | rename (disk : Disk) (hdisk : Built limit disk) (patience : Patience) (id name : String) :
      Built limit (WorkflowStore.rename patience id name disk).disk
  | delete (disk : Disk) (hdisk : Built limit disk) (patience : Patience) (id : String) :
      Built limit (WorkflowStore.delete patience id disk).disk
  | elsewhere (disk other : Disk) (hdisk : Built limit disk)
      (hother : other.workflows = disk.workflows) : Built limit other

variable {limit : Nat} (hlimit : digitCount limit ≤ maxDigits)

include hlimit

/-- The file of workflows that were just written can be read, and so can the one that a failed write
leaves. -/
theorem exists_readAll_persist (patience : Patience) {disk : Disk}
    {workflows next : List StoredWorkflow} (hreads : readAll disk = .ok workflows)
    (hsound : Sound limit workflows) (hnodup : (next.map StoredWorkflow.id).Nodup)
    (hnext : ∀ workflow ∈ next, workflow.Kept limit) :
    ∃ after, readAll (persist patience next disk).disk = .ok after ∧ Sound limit after := by
  obtain ⟨-, hdisk⟩ | ⟨-, hdisk⟩ := persist_outcome patience disk next
  · refine ⟨next.map StoredWorkflow.named, ?_, ?_, ?_⟩
    · unfold readAll
      rw [hdisk]
      exact ofText_toText hlimit hnext
    · rw [List.map_map]
      exact hnodup
    · intro workflow hworkflow
      obtain ⟨written, hwritten, rfl⟩ := List.mem_map.mp hworkflow
      exact (hnext written hwritten).sound
  · refine ⟨workflows, ?_, hsound⟩
    unfold readAll
    rw [hdisk]
    exact hreads

theorem Built.exists_readAll {disk : Disk} (h : Built limit disk) :
    ∃ workflows, readAll disk = .ok workflows ∧ Sound limit workflows := by
  induction h with
  | start disk hdisk =>
      refine ⟨[], ?_, List.nodup_nil, nofun⟩
      unfold readAll
      rw [hdisk]
  | importPayload disk hdisk patience stamp payload hpayload ih =>
      obtain ⟨workflows, hreads, hsound⟩ := ih
      by_cases hnil : StoredWorkflow.ofImport stamp payload = []
      · rw [importPayload_of_nil patience hnil]
        exact ⟨workflows, hreads, hsound⟩
      · have hnext := hsound.foldl_appendOne (StoredWorkflow.sound_ofImport stamp hpayload)
        rw [importPayload_of_ne_nil patience hreads hsound.nodup hnil]
        exact exists_readAll_persist hlimit patience hreads hsound hnext.nodup
          fun workflow hworkflow => (hnext.each workflow hworkflow).kept
  | rename disk hdisk patience id name ih =>
      obtain ⟨workflows, hreads, hsound⟩ := ih
      obtain ⟨before, workflow, after, hsplit⟩ | habsent := split_or_absent hsound.nodup id
      · -- An empty name is written too, and is read back as the id.
        rw [rename_of_split patience hreads hsplit]
        have hnamed := hsound.rename hsplit (show "name" ≠ "" by decide)
        refine exists_readAll_persist hlimit patience hreads hsound ?_ ?_
        · have hnodup := hnamed.nodup
          rwa [List.map_append, List.map_cons] at hnodup ⊢
        · intro other hother
          obtain hother | hother := List.mem_append.mp hother
          · exact (hnamed.each other (List.mem_append_left _ hother)).kept
          · obtain rfl | hother := List.mem_cons.mp hother
            · have hkept := (hsound.each workflow hsplit.mem).kept
              exact ⟨hkept.id_ne, hkept.summary_eq, hkept.raw_spelled⟩
            · exact (hnamed.each other
                (List.mem_append_right _ (List.mem_cons_of_mem _ hother))).kept
      · rw [rename_of_absent patience hreads habsent]
        exact ⟨workflows, hreads, hsound⟩
  | delete disk hdisk patience id ih =>
      obtain ⟨workflows, hreads, hsound⟩ := ih
      obtain ⟨before, workflow, after, hsplit⟩ | habsent := split_or_absent hsound.nodup id
      · have hnext := hsound.sublist hsplit.sublist
        rw [delete_of_split patience hreads hsplit]
        exact exists_readAll_persist hlimit patience hreads hsound hnext.nodup
          fun workflow hworkflow => (hnext.each workflow hworkflow).kept
      · rw [delete_of_absent patience hreads habsent]
        exact ⟨workflows, hreads, hsound⟩
  | elsewhere disk other hdisk hother ih =>
      obtain ⟨workflows, hreads, hsound⟩ := ih
      refine ⟨workflows, ?_, hsound⟩
      unfold readAll
      rw [hother]
      exact hreads

end RenderRelay.WorkflowStore
