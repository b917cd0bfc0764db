import RenderRelay.Proofs.Store.History
import RenderRelay.Proofs.Store.Replace
import RenderRelay.Proofs.Store.Workflows

/-! # All or nothing

An operation on a store that answers has put the whole new list in the store's file, and one that
fails has left the file as it was, whichever low-level steps fail at whichever attempts.

* `StoreFile.AllOrNothing` says this of one operation.
* `WorkflowStore.importPayload_allOrNothing`, `rename_allOrNothing`, `delete_allOrNothing` and
  `HistoryStore.append_allOrNothing` show it on every disk.
* `HistoryStore.delete_allOrNothing`: it holds of a removal from the history too, unless the
  record's stored name is no text or leads to the file of the records.  The records are written
  before the image is looked for, so that such a name does harm (`delete_diverted`).
* `StoreWrites` has all of it, with the steps of a write; `storeWrites` shows it. -/

namespace RenderRelay

variable {α β : Type}

/-- A store's file: its text on a disk, the list that is read from it, the text of a list. -/
structure StoreFile (β : Type) where
  text : Disk → Option String
  readAll : Disk → Except Failure (List β)
  write : List β → String

namespace StoreFile

/-- An operation either answers, and the file holds the whole new list, which is a `change` of the
old one; or it fails, and the file is as it was. -/
structure AllOrNothing (file : StoreFile β) (change : List β → α → List β → Prop) (disk : Disk)
    (done : Stored α) : Prop where
  whole : ∀ answer, done.answer = .ok answer → ∃ old new, file.readAll disk = .ok old ∧
    change old answer new ∧ file.text done.disk = some (file.write new)
  nothing : ∀ failure, done.answer = .error failure →
    file.text done.disk = file.text disk ∧ file.readAll done.disk = file.readAll disk

variable {file : StoreFile β} {change : List β → α → List β → Prop} {disk : Disk}

theorem AllOrNothing.of_whole {done : Stored α} {answer : α} (hanswer : done.answer = .ok answer)
    {old new : List β} (hold : file.readAll disk = .ok old) (hchange : change old answer new)
    (htext : file.text done.disk = some (file.write new)) :
    file.AllOrNothing change disk done where
  whole other hother := by
    obtain rfl := Except.ok.inj (hanswer.symm.trans hother)
    exact ⟨old, new, hold, hchange, htext⟩
  nothing failure hfailure := by cases hanswer.symm.trans hfailure

theorem AllOrNothing.of_nothing {done : Stored α} {failure : Failure}
    (hfailure : done.answer = .error failure) (htext : file.text done.disk = file.text disk)
    (hread : file.readAll done.disk = file.readAll disk) :
    file.AllOrNothing change disk done where
  whole answer hanswer := by cases hanswer.symm.trans hfailure
  nothing _ _ := ⟨htext, hread⟩

theorem AllOrNothing.isSome_text {done : Stored α} (h : file.AllOrNothing change disk done)
    (hanswers : done.answer.isOk = true) : (file.text done.disk).isSome := by
  cases hanswer : done.answer with
  | error failure =>
      rw [hanswer] at hanswers
      cases hanswers
  | ok answer =>
      obtain ⟨_, _, -, -, htext⟩ := h.whole answer hanswer
      rw [htext]
      rfl

theorem AllOrNothing.text_eq {done : Stored α} (h : file.AllOrNothing change disk done)
    (hfails : done.answer.isOk = false) : file.text done.disk = file.text disk := by
  cases hanswer : done.answer with
  | error failure => exact (h.nothing failure hanswer).1
  | ok answer =>
      rw [hanswer] at hfails
      cases hfails

/-- A failure before anything is written. -/
theorem AllOrNothing.refused (failure : Failure) :
    file.AllOrNothing change disk (.pure (.error failure) disk) :=
  of_nothing rfl rfl rfl

/-- An operation that starts by reading the file. -/
theorem AllOrNothing.of_read {next : List β → Disk → Stored α}
    (h : ∀ old, file.readAll disk = .ok old → file.AllOrNothing change disk (next old disk)) :
    file.AllOrNothing change disk ((Stored.pure (file.readAll disk) disk).andThen next) := by
  cases hread : file.readAll disk with
  | error failure =>
      rw [Stored.andThen_of_error rfl]
      exact of_nothing rfl rfl rfl
  | ok old =>
      rw [Stored.pure_andThen]
      exact h old hread

end StoreFile

/-! ### The workflow store -/

namespace WorkflowStore

variable (patience : Patience) (disk : Disk)

/-- The file of the workflows. -/
def file : StoreFile StoredWorkflow := ⟨Disk.workflows, readAll, toText⟩

theorem readAll_congr {disk other : Disk} (h : other.workflows = disk.workflows) :
    readAll other = readAll disk := by
  unfold readAll
  rw [h]

/-- Writing a list that was made of the old one. -/
theorem persist_allOrNothing {old new : List StoredWorkflow} (hold : readAll disk = .ok old)
    {change : List StoredWorkflow → List StoredWorkflow → List StoredWorkflow → Prop}
    (hchange : change old new new) :
    file.AllOrNothing change disk (persist patience new disk) := by
  obtain ⟨hok, hdisk⟩ | ⟨herror, hdisk⟩ := persist_outcome patience disk new
  · exact .of_whole hok hold hchange hdisk
  · exact .of_nothing herror hdisk (readAll_congr hdisk)

/-- An import answers what it has written: the old workflows, then the new ones. -/
theorem importPayload_allOrNothing (stamp : Int) (payload : Json) :
    file.AllOrNothing
      (fun old listed new => new = merge old (StoredWorkflow.ofImport stamp payload) ∧
        listed = new)
      disk (importPayload patience stamp payload disk) := by
  unfold importPayload
  dsimp only
  split_ifs
  · exact .refused _
  · exact .of_read fun old hold => persist_allOrNothing patience disk hold ⟨rfl, rfl⟩

theorem rename_allOrNothing (id name : String) :
    file.AllOrNothing
      (fun old listed new => new = renameFirst id name old ∧ listed = new)
      disk (rename patience id name disk) := by
  refine .of_read fun old hold => ?_
  split_ifs
  · exact persist_allOrNothing patience disk hold ⟨rfl, rfl⟩
  · exact .refused _

theorem delete_allOrNothing (id : String) :
    file.AllOrNothing
      (fun old listed new => new = old.filter (fun workflow => workflow.id ≠ id) ∧ listed = new)
      disk (delete patience id disk) := by
  refine .of_read fun old hold => ?_
  dsimp only
  split_ifs
  · exact .refused _
  · exact persist_allOrNothing patience disk hold ⟨rfl, rfl⟩

/-- How the file of the workflows is replaced, if a failed step leaves `torn` beside it. -/
def replaceStyle (torn : Nat → Option String) : Folder.Style :=
  ⟨fun text disk => { disk with workflows := some text }, torn⟩

/-- Writing the workflows is replacing their file in steps. -/
theorem persist_eq_replace (torn : Nat → Option String) (beside : Option String)
    (workflows : List StoredWorkflow) :
    persist patience workflows disk =
      ((Folder.mk disk beside).replace (replaceStyle torn) patience "_persist" 1
        (toText workflows)).1.andThen fun _ disk => .pure (.ok workflows) disk := by
  rw [Folder.replace_eq_write]
  rfl

/-- Writing the workflows fails after as many attempts as the policy has. -/
theorem persist_exhausted {workflows : List StoredWorkflow} {failure : Failure}
    (h : (persist patience workflows disk).answer = .error failure) :
    failure = writeFault patience ∧
      (persist patience workflows disk).waits.length + 1 = patience.policy.limit := by
  refine ⟨?_, ?_⟩
  · obtain ⟨hok, -⟩ | ⟨herror, -⟩ := persist_outcome patience disk workflows
    · cases hok.symm.trans h
    · exact Except.error.inj (h.symm.trans herror)
  · unfold persist at h ⊢
    obtain hwrite | ⟨-, -, hnext⟩ := Stored.andThen_error h
    · rw [Stored.andThen_of_error hwrite]
      exact disk.length_waits_write patience "_persist" writeOperations true _ hwrite
    · cases hnext

end WorkflowStore

/-! ### The history store -/

namespace HistoryStore

variable (patience : Patience) (disk : Disk)

/-- The file of the records. -/
def file : StoreFile RunRecord := ⟨Disk.history, readAll, toText⟩

theorem file_text (disk : Disk) : file.text disk = disk.history := rfl

theorem readAll_congr {disk other : Disk} (h : other.history = disk.history) :
    readAll other = readAll disk := by
  unfold readAll
  rw [h]

/-- A record that is stored is put before the others. -/
theorem append_allOrNothing (stamp : Stamp) (content : Bytes) (filename : Option String)
    (metadata : Fields) :
    file.AllOrNothing
      (fun old record new => new = record :: old ∧ record = recordOf stamp filename metadata)
      disk (append patience stamp content filename metadata disk) := by
  obtain ⟨old, hold, hanswer, tried, hdisk⟩ | ⟨⟨failure, hfailure⟩, artifacts, tried, hdisk, -⟩ :=
    append_outcome patience disk stamp content filename metadata
  · refine .of_whole hanswer hold ⟨rfl, rfl⟩ ?_
    rw [hdisk]
    rfl
  · have hsame := congrArg Disk.history hdisk
    exact .of_nothing hfailure hsame (readAll_congr hsame)

/-- What a removal makes of the records: those of the id go, and the first of them is answered. -/
def Removes (id : String) (old : List RunRecord) (record : RunRecord) (new : List RunRecord) :
    Prop :=
  old.find? (fun record => record.id = .str id) = some record ∧
    new = old.filter fun record => record.id ≠ .str id

/-- A removal whose record's stored name leads to the file of the records: the file is gone. -/
def LosesFile (id : String) (disk : Disk) (done : Stored RunRecord) : Prop :=
  ∃ old record name, readAll disk = .ok old ∧
    old.find? (fun record => record.id = .str id) = some record ∧
    record.storedFilename = .str name ∧ fileOf disk.site name = some .history ∧
    done.answer = .ok record ∧ done.disk.history = none

/-- A removal whose record's stored name is no text: it fails when the file is written already. -/
def FailsLate (id : String) (disk : Disk) (done : Stored RunRecord) : Prop :=
  ∃ old record new, readAll disk = .ok old ∧ Removes id old record new ∧
    record.storedFilename.text? = none ∧
    done.answer = .error .wrongKind ∧ done.disk.history = some (toText new)

/-- A removal is all or nothing, but for stored names that are no text or lead to the file. -/
theorem delete_allOrNothing (id : String) :
    file.AllOrNothing (Removes id) disk (delete patience id disk) ∨
      LosesFile id disk (delete patience id disk) ∨
        FailsLate id disk (delete patience id disk) := by
  obtain ⟨failure, hfailure, hsame⟩ | ⟨old, record, hold, hfind, houtcome⟩ :=
    delete_outcome patience id
  · exact Or.inl (.of_nothing hfailure hsame (readAll_congr hsame))
  · obtain ⟨hanswer, htext, -⟩ | ⟨hanswer, hgone, name, hname, hself⟩ | ⟨hanswer, htext, hkind⟩ :=
      houtcome
    · exact Or.inl (.of_whole hanswer hold ⟨hfind, rfl⟩ htext)
    · exact Or.inr (Or.inl ⟨old, record, name, hold, hfind, hname, hself, hanswer, hgone⟩)
    · exact Or.inr (Or.inr ⟨old, record, _, hold, ⟨hfind, rfl⟩, hkind, hanswer, htext⟩)

/-- How the file of the records is replaced, if a failed step leaves `torn` beside it. -/
def replaceStyle (torn : Nat → Option String) : Folder.Style :=
  ⟨fun text disk => { disk with history := some text }, torn⟩

/-- Writing the records is replacing their file in steps. -/
theorem persist_eq_replace (torn : Nat → Option String) (beside : Option String)
    (records : List RunRecord) :
    persist patience records disk = ((Folder.mk disk beside).replace (replaceStyle torn) patience
      "_persist" 2 (toText records)).1 := by
  rw [Folder.replace_eq_write]
  rfl

/-- Writing the records fails after as many attempts as the policy has. -/
theorem persist_exhausted {records : List RunRecord} {failure : Failure}
    (h : (persist patience records disk).answer = .error failure) :
    failure = WorkflowStore.writeFault patience ∧
      (persist patience records disk).waits.length + 1 = patience.policy.limit := by
  refine ⟨?_, disk.length_waits_write patience "_persist" writeOperations true _ h⟩
  unfold persist at h
  obtain ⟨-, hok, -⟩ | ⟨herror, -⟩ :=
    disk.write_outcome patience "_persist" writeOperations true fun disk =>
      { disk with history := some (toText records) }
  · cases hok.symm.trans h
  · exact Except.error.inj (h.symm.trans herror)

end HistoryStore

/-! ### Both stores -/

/-- What the operations of both stores leave in the two files of a disk. -/
structure StoreWrites (patience : Patience) (disk : Disk) : Prop where
  /-- The workflows are written in steps, and a step that fails may leave any text beside. -/
  workflow_steps : ∀ torn beside workflows, WorkflowStore.persist patience workflows disk =
    ((Folder.mk disk beside).replace (WorkflowStore.replaceStyle torn) patience "_persist" 1
      (WorkflowStore.toText workflows)).1.andThen fun _ disk => .pure (.ok workflows) disk
  history_steps : ∀ torn beside records, HistoryStore.persist patience records disk =
    ((Folder.mk disk beside).replace (HistoryStore.replaceStyle torn) patience "_persist" 2
      (HistoryStore.toText records)).1
  workflow_attempts : ∀ workflows failure,
    (WorkflowStore.persist patience workflows disk).answer = .error failure →
      failure = WorkflowStore.writeFault patience ∧
        (WorkflowStore.persist patience workflows disk).waits.length + 1 = patience.policy.limit
  history_attempts : ∀ records failure,
    (HistoryStore.persist patience records disk).answer = .error failure →
      failure = WorkflowStore.writeFault patience ∧
        (HistoryStore.persist patience records disk).waits.length + 1 = patience.policy.limit
  imports : ∀ stamp payload, WorkflowStore.file.AllOrNothing
    (fun old listed new =>
      new = WorkflowStore.merge old (StoredWorkflow.ofImport stamp payload) ∧ listed = new)
    disk (WorkflowStore.importPayload patience stamp payload disk)
  renames : ∀ id name, WorkflowStore.file.AllOrNothing
    (fun old listed new => new = WorkflowStore.renameFirst id name old ∧ listed = new)
    disk (WorkflowStore.rename patience id name disk)
  deletes : ∀ id, WorkflowStore.file.AllOrNothing
    (fun old listed new => new = old.filter (fun workflow => workflow.id ≠ id) ∧ listed = new)
    disk (WorkflowStore.delete patience id disk)
  appends : ∀ stamp content filename metadata, HistoryStore.file.AllOrNothing
    (fun old record new =>
      new = record :: old ∧ record = HistoryStore.recordOf stamp filename metadata)
    disk (HistoryStore.append patience stamp content filename metadata disk)
  removes : ∀ id,
    HistoryStore.file.AllOrNothing (HistoryStore.Removes id) disk
        (HistoryStore.delete patience id disk) ∨
      HistoryStore.LosesFile id disk (HistoryStore.delete patience id disk) ∨
      HistoryStore.FailsLate id disk (HistoryStore.delete patience id disk)

/-- Every operation of the stores is all or nothing on every disk, whichever steps of its writes
fail, but for a removal from the history whose stored name is no text or leads to the file. -/
theorem storeWrites (patience : Patience) (disk : Disk) : StoreWrites patience disk where
  workflow_steps := WorkflowStore.persist_eq_replace patience disk
  history_steps := HistoryStore.persist_eq_replace patience disk
  workflow_attempts _ _ h := WorkflowStore.persist_exhausted patience disk h
  history_attempts _ _ h := HistoryStore.persist_exhausted patience disk h
  imports := WorkflowStore.importPayload_allOrNothing patience disk
  renames := WorkflowStore.rename_allOrNothing patience disk
  deletes := WorkflowStore.delete_allOrNothing patience disk
  appends := HistoryStore.append_allOrNothing patience disk
  removes := HistoryStore.delete_allOrNothing patience disk

namespace HistoryStore

/-- A disk whose file has one record, under this stored name. -/
def oneRecord (stored : Json) : Disk :=
  let records := Json.arr [.obj [("id", .str "a"), ("stored_filename", stored)]]
  { Disk.empty with history := some (records.write .spaced) }

/-- The standard policy, with no random share in its waits. -/
def steadyPatience : Patience := ⟨.standard, fun _ => Double.zero false⟩

/-- Where a stored name leads to the file of the records, a removal answers and leaves no file;
where it is no text, a removal fails and has changed the file. -/
theorem delete_diverted :
    ((delete steadyPatience "a" (oneRecord (.str "../history.json"))).answer.isOk = true ∧
      (delete steadyPatience "a" (oneRecord (.str "../history.json"))).disk.history = none ∧
      ¬ file.AllOrNothing (Removes "a") (oneRecord (.str "../history.json"))
        (delete steadyPatience "a" (oneRecord (.str "../history.json")))) ∧
    (delete steadyPatience "a" (oneRecord (.int 5))).answer.isOk = false ∧
      (delete steadyPatience "a" (oneRecord (.int 5))).disk.history = some "[]" ∧
      ¬ file.AllOrNothing (Removes "a") (oneRecord (.int 5))
        (delete steadyPatience "a" (oneRecord (.int 5))) := by
  have hanswers : (delete steadyPatience "a"
      (oneRecord (.str "../history.json"))).answer.isOk = true := by decide +kernel
  have hgone : (delete steadyPatience "a"
      (oneRecord (.str "../history.json"))).disk.history = none := by decide +kernel
  have hfails : (delete steadyPatience "a" (oneRecord (.int 5))).answer.isOk = false := by
    decide +kernel
  have hchanged : (delete steadyPatience "a" (oneRecord (.int 5))).disk.history = some "[]" := by
    decide +kernel
  refine ⟨⟨hanswers, hgone, ?_⟩, hfails, hchanged, ?_⟩
  · intro h
    have htext := h.isSome_text hanswers
    rw [file_text, hgone] at htext
    cases htext
  · intro h
    have hsame := h.text_eq hfails
    have hdiffers : some "[]" ≠ (oneRecord (.int 5)).history := by decide +kernel
    rw [file_text, file_text, hchanged] at hsame
    exact hdiffers hsame

end HistoryStore

end RenderRelay
