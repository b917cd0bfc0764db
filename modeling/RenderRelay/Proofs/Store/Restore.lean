import RenderRelay.Proofs.Store.Workflows

/-! # A store made again from its file

The file of a store is an upload of its own: it holds a list of workflows under the key for it.

* `StoredWorkflow.ofEntry_storedFields`: an entry of the file is imported as the workflow that it
  was written from, since its id and its name are set and its summary is that of its graph.
* `ofImport_content`: the import finds the workflows of the file, all of them and in their order.
* `Holds` says that the file is there and was written from these workflows; every run keeps it
  (`Holds.run`).
* `restore_run`: what a run has built comes back when the value of its file is imported into an
  empty store, and the new file is the old one. -/

namespace RenderRelay

open Number

namespace StoredWorkflow

variable {limit : Nat}

/-- An entry of the store's file is imported as the workflow that it was written from. -/
theorem ofEntry_storedFields (stamp : Int) (index : Nat) {workflow : StoredWorkflow}
    (h : workflow.Sound limit) : ofEntry stamp index none workflow.storedFields = workflow := by
  have hid : firstSet [.str workflow.id, .null, .str workflow.name, .null] = some workflow.id := by
    unfold firstSet
    rw [List.find?_cons, isTruthy_str h.id_ne]
    rfl
  have hname : firstSet [.str workflow.name, .null, .null, .str workflow.id] =
      some workflow.name := by
    unfold firstSet
    rw [List.find?_cons, isTruthy_str h.name_ne]
    rfl
  have hpath : (Json.ofText? workflow.path).text? = workflow.path := by
    cases workflow.path <;> rfl
  change StoredWorkflow.mk ((firstSet [.str workflow.id, .null, .str workflow.name, .null]).getD _)
    ((firstSet [.str workflow.name, .null, .null, .str workflow.id]).getD _) workflow.raw
    (WorkflowSummary.ofGraph workflow.raw) (Json.ofText? workflow.path).text? = workflow
  rw [hid, hname, hpath, ← h.summary_eq]
  rfl

theorem ofEntries_toJson (stamp : Int) : ∀ (index : Nat) {workflows : List StoredWorkflow},
    (∀ workflow ∈ workflows, workflow.Sound limit) →
      ofEntries stamp index (unkeyed (workflows.map (toJson true))) = workflows
  | _, [], _ => rfl
  | index, workflow :: rest, h => by
      obtain ⟨hworkflow, hrest⟩ := List.forall_mem_cons.mp h
      change ofEntry stamp index none workflow.storedFields ::
        ofEntries stamp (index + 1) (unkeyed (rest.map (toJson true))) = _
      rw [ofEntry_storedFields stamp index hworkflow, ofEntries_toJson stamp (index + 1) hrest]

/-- Nothing is dropped where no id is repeated. -/
theorem dropRepeated_of_nodup : ∀ (seen : List String) (workflows : List StoredWorkflow),
    (seen ++ workflows.map StoredWorkflow.id).Nodup → dropRepeated seen workflows = workflows
  | _, [], _ => rfl
  | seen, workflow :: rest, h => by
      have hnext : (workflow.id :: (seen ++ rest.map StoredWorkflow.id)).Nodup :=
        List.nodup_middle.mp h
      have hfresh : workflow.id ∉ seen := fun hseen =>
        (List.nodup_cons.mp hnext).1 (List.mem_append_left _ hseen)
      unfold dropRepeated
      rw [if_neg (by simpa using hfresh), dropRepeated_of_nodup (workflow.id :: seen) rest hnext]

end StoredWorkflow

namespace WorkflowStore

variable {limit : Nat} {workflows : List StoredWorkflow}

/-- The value of the store's file is imported as the workflows that it was written from. -/
theorem ofImport_content (stamp : Int) (h : Sound limit workflows) :
    StoredWorkflow.ofImport stamp (content workflows) = workflows := by
  have hentries : StoredWorkflow.entriesOf (content workflows) =
      StoredWorkflow.unkeyed (workflows.map (StoredWorkflow.toJson true)) := rfl
  unfold StoredWorkflow.ofImport
  rw [hentries, StoredWorkflow.ofEntries_toJson stamp 0 h.each]
  exact StoredWorkflow.dropRepeated_of_nodup [] workflows h.nodup

/-- Workflows under free ids keep them. -/
theorem foldl_appendOne_of_nodup (incoming : List StoredWorkflow) {workflows : List StoredWorkflow}
    (h : ((workflows ++ incoming).map StoredWorkflow.id).Nodup) :
    incoming.foldl appendOne workflows = workflows ++ incoming := by
  induction incoming generalizing workflows with
  | nil => exact (List.append_nil workflows).symm
  | cons workflow incoming ih =>
      have hfresh : workflow.id ∉ workflows.map StoredWorkflow.id := by
        rw [List.map_append, List.map_cons] at h
        have hnext := List.nodup_cons.mp (List.nodup_middle.mp h)
        exact fun hmem => hnext.1 (List.mem_append_left _ hmem)
      have hfree : freeId (workflows.map StoredWorkflow.id) workflow.id = workflow.id := by
        obtain ⟨-, hsame⟩ | ⟨htaken, -⟩ :=
          freeId_cases (workflows.map StoredWorkflow.id) workflow.id
        · exact hsame
        · exact absurd htaken hfresh
      have hone : appendOne workflows workflow = workflows ++ [workflow] := by
        unfold appendOne
        rw [hfree]
      rw [List.foldl_cons, hone, ih (by rwa [List.append_assoc]), List.append_assoc]
      rfl

section Empty

variable (patience : Patience) {stamp : Int} {payload : Json} {disk : Disk}

/-- Importing workflows with distinct ids into an empty store writes them. -/
theorem importPayload_of_empty
    (hnodup : ((StoredWorkflow.ofImport stamp payload).map StoredWorkflow.id).Nodup)
    (hne : StoredWorkflow.ofImport stamp payload ≠ []) (hempty : readAll disk = .ok []) :
    importPayload patience stamp payload disk =
      persist patience (StoredWorkflow.ofImport stamp payload) disk := by
  rw [importPayload_of_ne_nil patience hempty List.nodup_nil hne,
    foldl_appendOne_of_nodup _ (by rwa [List.nil_append]), List.nil_append]

theorem readAll_importPayload_of_empty (hlimit : digitCount limit ≤ maxDigits)
    (hpayload : payload.Spelled limit)
    (hnodup : ((StoredWorkflow.ofImport stamp payload).map StoredWorkflow.id).Nodup)
    (hne : StoredWorkflow.ofImport stamp payload ≠ []) (hempty : readAll disk = .ok [])
    (hworks : disk.Works) :
    readAll (importPayload patience stamp payload disk).disk =
      .ok (StoredWorkflow.ofImport stamp payload) := by
  have hsound : Sound limit (StoredWorkflow.ofImport stamp payload) :=
    ⟨hnodup, StoredWorkflow.sound_ofImport stamp hpayload⟩
  rw [importPayload_of_empty patience hnodup hne hempty]
  exact (truthful_persist hlimit patience hsound).listed _ (persist_of_works patience disk hworks _)

/-- Importing the value of a file into an empty store writes the workflows of the file. -/
theorem importPayload_content (stamp : Int) (h : Sound limit workflows) (hne : workflows ≠ [])
    (hempty : readAll disk = .ok []) :
    importPayload patience stamp (content workflows) disk = persist patience workflows disk := by
  have himport := ofImport_content stamp h
  have hwritten := importPayload_of_empty patience (himport.symm ▸ h.nodup) (himport.symm ▸ hne)
    hempty
  rwa [himport] at hwritten

end Empty

/-! ### Files that runs leave -/

/-- The file was written from these workflows; there may be no file if there are none. -/
structure Holds (limit : Nat) (disk : Disk) (workflows : List StoredWorkflow) : Prop where
  sound : Sound limit workflows
  file : disk.workflows = some (toText workflows) ∨ disk.workflows = none ∧ workflows = []

theorem Holds.readAll (hlimit : digitCount limit ≤ maxDigits) {disk : Disk}
    (h : Holds limit disk workflows) : readAll disk = .ok workflows := by
  obtain hfile | ⟨hfile, rfl⟩ := h.file
  · exact readAll_of_toText hlimit h.sound hfile
  · unfold WorkflowStore.readAll
    rw [hfile]

/-- Writing the file leaves the workflows that were written, or those that were there. -/
theorem Holds.persist {disk : Disk} (h : Holds limit disk workflows) (patience : Patience)
    {next : List StoredWorkflow} (hnext : Sound limit next) :
    ∃ after, Holds limit (persist patience next disk).disk after := by
  obtain ⟨-, hfile⟩ | ⟨-, hfile⟩ := persist_outcome patience disk next
  · exact ⟨next, hnext, Or.inl hfile⟩
  · refine ⟨workflows, h.sound, ?_⟩
    rw [hfile]
    exact h.file

/-- Every run leaves a file that was written from some workflows. -/
theorem Holds.run (hlimit : digitCount limit ≤ maxDigits) (patience : Patience) {disk : Disk}
    (h : Holds limit disk workflows) {operations : List Operation}
    (hadmissible : ∀ operation ∈ operations, operation.Admissible limit) :
    ∃ after, Holds limit (run patience operations disk) after := by
  induction operations generalizing disk workflows with
  | nil => exact ⟨workflows, h⟩
  | cons operation operations ih =>
      obtain ⟨hoperation, hrest⟩ := List.forall_mem_cons.mp hadmissible
      have hstep : ∃ after, Holds limit (operation.after patience disk) after := by
        obtain hsame | ⟨next, hnext, hwritten⟩ :=
          after_cases patience (h.readAll hlimit) h.sound hoperation
        · rw [hsame]
          exact ⟨workflows, h⟩
        · rw [hwritten]
          exact h.persist patience hnext
      obtain ⟨after, hafter⟩ := hstep
      exact ih hafter hrest

/-- What a run from an empty directory has built comes back from the value of its file: imported
into an empty store it makes the same workflows in the same order, in the same file. -/
theorem restore_run {limit : Nat} (hlimit : digitCount limit ≤ maxDigits) (patience : Patience)
    {disk : Disk} (hdisk : disk.workflows = none) {operations : List Operation}
    (hadmissible : ∀ operation ∈ operations, operation.Admissible limit) :
    ∃ workflows, readAll (run patience operations disk) = .ok workflows ∧
      (workflows ≠ [] → ∃ text backup,
        (run patience operations disk).workflows = some text ∧ Json.read text = .ok backup ∧
        ∀ (patience : Patience) (stamp : Int) (target : Disk), readAll target = .ok [] →
          target.Works →
            (importPayload patience stamp backup target).answer = .ok workflows ∧
            readAll (importPayload patience stamp backup target).disk = .ok workflows ∧
            (importPayload patience stamp backup target).disk.workflows = some text) := by
  have hstart : Holds limit disk [] := ⟨⟨List.nodup_nil, nofun⟩, Or.inr ⟨hdisk, rfl⟩⟩
  obtain ⟨workflows, hholds⟩ := hstart.run hlimit patience hadmissible
  refine ⟨workflows, hholds.readAll hlimit, fun hne => ?_⟩
  obtain hfile | ⟨-, hnil⟩ := hholds.file
  · have hread : Json.read (toText workflows) = .ok (content workflows) :=
      Json.read_write Json.Layout.indented_readable
        (spelled_content hlimit fun workflow hworkflow =>
          (hholds.sound.each workflow hworkflow).kept)
    refine ⟨toText workflows, content workflows, hfile, hread, ?_⟩
    intro patience stamp target hempty hworks
    rw [importPayload_content patience stamp hholds.sound hne hempty]
    have hok := persist_of_works patience target hworks workflows
    obtain ⟨-, hwritten⟩ | ⟨herror, -⟩ := persist_outcome patience target workflows
    · exact ⟨hok, readAll_of_toText hlimit hholds.sound hwritten, hwritten⟩
    · cases hok.symm.trans herror
  · exact absurd hnil hne

/-- Two workflows under their keys: one with a path, and one whose graph is no graph. -/
def keyedUpload : Json :=
  .obj [("a", .obj [("nodes", .arr []), ("path", .str "p")]), ("b", .obj [("raw", .null)])]

theorem spelled_keyedUpload : keyedUpload.Spelled 0 := by
  refine Json.Spelled.obj _ (by decide) ?_
  simp only [List.forall_mem_cons]
  refine ⟨Json.Spelled.obj _ (by decide) ?_, Json.Spelled.obj _ (by decide) ?_,
    List.forall_mem_nil _⟩
  · simp only [List.forall_mem_cons]
    exact ⟨.arr [] (Nat.le_refl 0) (List.forall_mem_nil _), .str "p", List.forall_mem_nil _⟩
  · simp only [List.forall_mem_cons]
    exact ⟨.null, List.forall_mem_nil _⟩

/-- Retrying as it is set up at first. -/
def standardPatience : Patience := ⟨.standard, fun _ => Double.zero false⟩

/-- The two are imported. -/
def keyedRun : List Operation := [.importPayload 0 keyedUpload]

theorem readAll_keyedRun : readAll (run standardPatience keyedRun Disk.empty) =
    .ok (StoredWorkflow.ofImport 0 keyedUpload) :=
  readAll_importPayload_of_empty standardPatience (by decide) spelled_keyedUpload (by decide)
    (by decide) rfl fun _ => rfl

theorem restore_run_keyedRun :
    digitCount 0 ≤ maxDigits ∧ Disk.empty.workflows = none ∧
      (∀ operation ∈ keyedRun, operation.Admissible 0) ∧
      ∃ workflows text backup,
        workflows.map (fun workflow => (workflow.id, workflow.raw, workflow.path)) =
          [("a", .obj [("nodes", .arr []), ("path", .str "p")], some "p"), ("b", .null, none)] ∧
        (run standardPatience keyedRun Disk.empty).workflows = some text ∧
        Json.read text = .ok backup ∧
        (importPayload standardPatience 1 backup Disk.empty).answer = .ok workflows := by
  have hlimit : digitCount 0 ≤ maxDigits := by decide
  have hadmissible : ∀ operation ∈ keyedRun, operation.Admissible 0 :=
    List.forall_mem_singleton.mpr spelled_keyedUpload
  have hempty : Disk.empty.workflows = none := rfl
  obtain ⟨workflows, hreads, hrestores⟩ := restore_run hlimit standardPatience hempty hadmissible
  obtain rfl : StoredWorkflow.ofImport 0 keyedUpload = workflows :=
    Except.ok.inj (readAll_keyedRun.symm.trans hreads)
  obtain ⟨text, backup, hfile, hread, himport⟩ := hrestores (by decide)
  obtain ⟨hanswer, -, -⟩ := himport standardPatience 1 Disk.empty rfl fun _ => rfl
  exact ⟨hlimit, hempty, hadmissible, _, text, backup, by decide, hfile, hread, hanswer⟩

end WorkflowStore

end RenderRelay
