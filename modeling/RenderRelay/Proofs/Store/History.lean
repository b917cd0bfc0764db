import RenderRelay.Proofs.Entries
import RenderRelay.Proofs.Store.Disk
import RenderRelay.Store.History

/-! # The history store under failures

* `HistoryStore.readAll_writeArtifact`: writing an image leaves the records as they are.
* `HistoryStore.append_error`: storing an image fails with a fault, or because the file cannot
  be read.
* `HistoryStore.record_of_append`: the record that is answered is made of the stamp, the name and
  the metadata that were given.
* `HistoryStore.Without` says that one file is gone and the others are as they were;
  `unlink_without`.
* `HistoryStore.append_outcome`, `delete_outcome`: what storing and deleting leave behind, whichever
  low-level operations fail. -/

namespace RenderRelay.HistoryStore

theorem readAll_writeArtifact (patience : Patience) (name : String) (content : Bytes)
    (disk : Disk) : readAll (writeArtifact patience name content disk).disk = readAll disk := by
  have hkeeps : (writeArtifact patience name content disk).disk.history = disk.history :=
    disk.write_keeps patience "_write_artifact" artifactOperations (Disk.admitsName name)
      (fun disk => { disk with artifacts := disk.artifacts.put name content }) (·.history)
      (fun _ _ => rfl) (fun _ => rfl)
  unfold readAll
  rw [hkeeps]

theorem persist_error {patience : Patience} {records : List RunRecord} {disk : Disk}
    {failure : Failure} (h : (persist patience records disk).answer = .error failure) :
    ∃ fault, failure = .fault fault :=
  disk.write_error patience "_persist" writeOperations true _ h

theorem writeArtifact_error {patience : Patience} {name : String} {content : Bytes} {disk : Disk}
    {failure : Failure} (h : (writeArtifact patience name content disk).answer = .error failure) :
    ∃ fault, failure = .fault fault :=
  disk.write_error patience "_write_artifact" artifactOperations (Disk.admitsName name) _ h

/-- Storing an image fails with a fault, or as reading the records fails. -/
theorem append_error {patience : Patience} {stamp : Stamp} {content : Bytes}
    {filename : Option String} {metadata : Fields} {disk : Disk} {failure : Failure}
    (h : (append patience stamp content filename metadata disk).answer = .error failure) :
    (∃ fault, failure = .fault fault) ∨ readAll disk = .error failure := by
  unfold append at h
  obtain hwrite | ⟨-, -, h⟩ := Stored.andThen_error h
  · exact Or.inl (writeArtifact_error hwrite)
  · obtain hread | ⟨records, -, h⟩ := Stored.andThen_error h
    · rw [← readAll_writeArtifact patience (storedName stamp (givenName filename)) content disk]
      exact Or.inr hread
    · obtain hpersist | ⟨-, -, h⟩ := Stored.andThen_error h
      · exact Or.inl (persist_error hpersist)
      · cases h

theorem record_of_append {patience : Patience} {stamp : Stamp} {content : Bytes}
    {filename : Option String} {metadata : Fields} {disk : Disk} {record : RunRecord}
    (h : (append patience stamp content filename metadata disk).answer = .ok record) :
    record = recordOf stamp filename metadata := by
  unfold append at h
  obtain ⟨-, -, h⟩ := Stored.exists_of_andThen h
  obtain ⟨records, -, h⟩ := Stored.exists_of_andThen h
  obtain ⟨-, -, h⟩ := Stored.exists_of_andThen h
  exact (Except.ok.inj h).symm

/-! ### One file less -/

/-- This file is gone, if any, and all others are as they were. -/
structure Without (gone : Option DiskFile) (disk after : Disk) : Prop where
  workflows : after.workflows = if gone = some .workflows then none else disk.workflows
  history : after.history = if gone = some .history then none else disk.history
  images : ∀ name, after.artifact? name =
    if gone = some (.artifact name) then none else disk.artifact? name
  others : ∀ place, place ∈ after.others ↔ place ∈ disk.others ∧ gone ≠ some (.other place)

theorem without_none (disk : Disk) (tried : Nat) :
    Without none disk { disk with tried := tried } where
  workflows := rfl
  history := rfl
  images _ := rfl
  others _ := (and_iff_left nofun).symm

theorem without_removeFile (file : DiskFile) (disk : Disk) (tried : Nat) :
    Without (some file) disk (removeFile file { disk with tried := tried }) := by
  cases file with
  | workflows => exact ⟨rfl, rfl, fun _ => rfl, fun _ => (and_iff_left nofun).symm⟩
  | history => exact ⟨rfl, rfl, fun _ => rfl, fun _ => (and_iff_left nofun).symm⟩
  | artifact name =>
      refine ⟨rfl, rfl, fun other => ?_, fun _ => (and_iff_left nofun).symm⟩
      have hlookup := Entries.lookup_remove disk.artifacts name other
      simp only [Option.some.injEq, DiskFile.artifact.injEq, @eq_comm _ name other]
      exact hlookup
  | other place =>
      refine ⟨rfl, rfl, fun _ => rfl, fun another => ?_⟩
      simp only [removeFile, List.mem_filter, decide_eq_true_eq, ne_eq, Option.some.injEq,
        DiskFile.other.injEq, @eq_comm _ place another]

/-- The file that the stored name of a record leads to. -/
def ledTo (site : Site) (stored : Json) : Option DiskFile := stored.text?.bind (fileOf site)

theorem ledTo_str (site : Site) (name : String) : ledTo site (.str name) = fileOf site name := rfl

/-- Removing the file of a stored name removes the one that the name leads to and nothing else, or
nothing at all if that fails; and it fails loudly only for a name that is no text. -/
theorem unlink_without (stored : Json) (disk : Disk) :
    (unlink stored disk).1 = (if stored.text?.isSome then .ok () else .error .wrongKind) ∧
      ∃ gone, Without gone disk (unlink stored disk).2 ∧
        (gone = none ∨ gone = ledTo disk.site stored) ∧
          (disk.Works → gone = ledTo disk.site stored) := by
  unfold unlink
  cases stored with
  | str name =>
      change _ ∧ ∃ gone, _ ∧ (gone = none ∨ gone = fileOf disk.site name) ∧
        (_ → gone = fileOf disk.site name)
      dsimp only
      cases hfile : fileOf disk.site name with
      | none => exact ⟨rfl, none, without_none disk disk.tried, Or.inl rfl, fun _ => rfl⟩
      | some file =>
          refine ⟨rfl, ?_⟩
          obtain ⟨tried, htried⟩ := Disk.attempt_snd 1 disk
          have hworks : disk.Works → (disk.attempt 1).1 = true := fun h => by
            rw [Disk.attempt_of_works 1 h]
          dsimp only
          rw [htried]
          cases hdone : (disk.attempt 1).1 with
          | true => exact ⟨some file, without_removeFile file disk tried, Or.inr rfl, fun _ => rfl⟩
          | false =>
              refine ⟨none, without_none disk tried, Or.inl rfl, fun h => ?_⟩
              rw [hworks h] at hdone
              cases hdone
  | _ => exact ⟨rfl, none, without_none disk disk.tried, Or.inl rfl, fun _ => rfl⟩

/-! ### What is left behind -/

section Outcomes

variable (patience : Patience) (disk : Disk)

/-- Writing the file puts all records in it, or fails and leaves the disk as it was. -/
theorem persist_outcome (records : List RunRecord) :
    (persist patience records disk).answer = .ok () ∧
      (∃ tried, (persist patience records disk).disk =
        { disk with history := some (toText records), tried := tried }) ∨
    (∃ fault, (persist patience records disk).answer = .error (.fault fault)) ∧
      ∃ tried, (persist patience records disk).disk = { disk with tried := tried } := by
  unfold persist
  obtain ⟨-, hok, tried, hdisk⟩ | ⟨herror, htried⟩ :=
    disk.write_outcome patience "_persist" writeOperations true fun disk =>
      { disk with history := some (toText records) }
  · exact Or.inl ⟨hok, tried, hdisk⟩
  · exact Or.inr ⟨⟨_, herror⟩, htried⟩

/-- Writing an image puts it in the directory, or fails and leaves the disk as it was. -/
theorem writeArtifact_outcome (name : String) (content : Bytes) :
    (writeArtifact patience name content disk).answer = .ok () ∧
      (∃ tried, (writeArtifact patience name content disk).disk =
        { disk with artifacts := disk.artifacts.put name content, tried := tried }) ∨
    (∃ fault, (writeArtifact patience name content disk).answer = .error (.fault fault)) ∧
      ∃ tried, (writeArtifact patience name content disk).disk = { disk with tried := tried } := by
  unfold writeArtifact
  obtain ⟨-, hok, tried, hdisk⟩ | ⟨herror, htried⟩ :=
    disk.write_outcome patience "_write_artifact" artifactOperations (Disk.admitsName name)
      fun disk => { disk with artifacts := disk.artifacts.put name content }
  · exact Or.inl ⟨hok, tried, hdisk⟩
  · exact Or.inr ⟨⟨_, herror⟩, htried⟩

/-- Storing an image puts its record before the others and the image in the directory, or fails;
then the file is as it was, and at most the image is left. -/
theorem append_outcome (stamp : Stamp) (content : Bytes) (filename : Option String)
    (metadata : Fields) :
    (∃ records, readAll disk = .ok records ∧
      (append patience stamp content filename metadata disk).answer =
        .ok (recordOf stamp filename metadata) ∧
      ∃ tried, (append patience stamp content filename metadata disk).disk =
        { disk with
          history := some (toText (recordOf stamp filename metadata :: records))
          artifacts := disk.artifacts.put (storedName stamp (givenName filename)) content
          tried := tried }) ∨
    (∃ failure, (append patience stamp content filename metadata disk).answer = .error failure) ∧
      ∃ artifacts tried, (append patience stamp content filename metadata disk).disk =
          { disk with artifacts := artifacts, tried := tried } ∧
        (artifacts = disk.artifacts ∨
          artifacts = disk.artifacts.put (storedName stamp (givenName filename)) content) := by
  unfold append
  dsimp only
  obtain ⟨hwrite, before, hdisk⟩ | ⟨⟨fault, hwrite⟩, before, hdisk⟩ :=
    writeArtifact_outcome patience disk (storedName stamp (givenName filename)) content
  · rw [Stored.andThen_of_ok hwrite, hdisk]
    generalize hnext : ({ disk with
      artifacts := disk.artifacts.put (storedName stamp (givenName filename)) content
      tried := before } : Disk) = next
    have hreads : readAll next = readAll disk := by
      subst hnext
      rfl
    rw [hreads]
    cases hrecords : readAll disk with
    | error failure =>
        rw [Stored.andThen_of_error rfl]
        exact Or.inr ⟨⟨failure, rfl⟩, _, before, hnext.symm, Or.inr rfl⟩
    | ok records =>
        rw [Stored.pure_andThen]
        obtain ⟨hpersist, tried, hafter⟩ | ⟨⟨fault, hpersist⟩, tried, hafter⟩ :=
          persist_outcome patience next (recordOf stamp filename metadata :: records)
        · rw [Stored.andThen_of_ok hpersist, hafter, ← hnext]
          exact Or.inl ⟨records, rfl, rfl, tried, rfl⟩
        · rw [Stored.andThen_of_error hpersist, hafter, ← hnext]
          exact Or.inr ⟨⟨_, rfl⟩, _, tried, rfl, Or.inr rfl⟩
  · rw [Stored.andThen_of_error hwrite, hdisk]
    exact Or.inr ⟨⟨_, rfl⟩, _, before, rfl, Or.inl rfl⟩

/-- Removing the file of a stored name leaves that of the records alone, unless the name leads to
it. -/
theorem unlink_outcome (stored : Json) :
    (∃ name, stored = .str name ∧ (unlink stored disk).1 = .ok () ∧
      ((unlink stored disk).2.history = disk.history ∨
        fileOf disk.site name = some .history ∧ (unlink stored disk).2.history = none)) ∨
    stored.text? = none ∧ unlink stored disk = (.error .wrongKind, disk) := by
  cases stored with
  | str name =>
      obtain ⟨hdone, gone, hwithout, hled, -⟩ := unlink_without (.str name) disk
      refine Or.inl ⟨name, rfl, hdone, ?_⟩
      rw [hwithout.history]
      split_ifs with hgone
      · obtain hnone | hfile := hled
        · cases hgone.symm.trans hnone
        · exact Or.inr ⟨hfile.symm.trans hgone, rfl⟩
      · exact Or.inl rfl
  | _ => exact Or.inr ⟨rfl, rfl⟩

/-- Deleting fails and leaves the disk as it was, or takes the records of the id out of the file and
goes on to the image of the first of them. -/
theorem delete_cases (id : String) :
    (∃ failure tried, (delete patience id disk).answer = .error failure ∧
      (delete patience id disk).disk = { disk with tried := tried }) ∨
    ∃ records record next, readAll disk = .ok records ∧
      records.find? (fun record => record.id = .str id) = some record ∧
      (∃ tried, next = { disk with
        history := some (toText (records.filter fun record => record.id ≠ .str id))
        tried := tried }) ∧
      (delete patience id disk).answer =
        (unlink record.storedFilename next).1.map (fun _ => record) ∧
      (delete patience id disk).disk = (unlink record.storedFilename next).2 := by
  unfold delete
  cases hrecords : readAll disk with
  | error failure => exact Or.inl ⟨failure, disk.tried, rfl, rfl⟩
  | ok records =>
      rw [Stored.pure_andThen]
      cases hfind : records.find? fun record => record.id = .str id with
      | none => exact Or.inl ⟨notFound id, disk.tried, rfl, rfl⟩
      | some record =>
          dsimp only
          obtain ⟨hpersist, tried, hafter⟩ | ⟨⟨fault, hpersist⟩, tried, hafter⟩ :=
            persist_outcome patience disk (records.filter fun record => record.id ≠ .str id)
          · rw [Stored.andThen_of_ok hpersist, hafter]
            exact Or.inr ⟨records, record, _, rfl, hfind, ⟨tried, rfl⟩, rfl, rfl⟩
          · rw [Stored.andThen_of_error hpersist, hafter]
            exact Or.inl ⟨_, tried, rfl, rfl⟩

variable {disk} in
/-- Deleting takes the records of the id out of the file, or fails and leaves it as it was.  Two
records go on from there: one whose stored name is no text, and one whose stored name leads to the
file itself. -/
theorem delete_outcome (id : String) :
    (∃ failure, (delete patience id disk).answer = .error failure ∧
      (delete patience id disk).disk.history = disk.history) ∨
    ∃ records record, readAll disk = .ok records ∧
      records.find? (fun record => record.id = .str id) = some record ∧
      ((delete patience id disk).answer = .ok record ∧
          (delete patience id disk).disk.history =
            some (toText (records.filter fun record => record.id ≠ .str id)) ∧
          record.storedFilename.text?.isSome ∨
        (delete patience id disk).answer = .ok record ∧
          (delete patience id disk).disk.history = none ∧
          (∃ name, record.storedFilename = .str name ∧
            fileOf disk.site name = some .history) ∨
        (delete patience id disk).answer = .error .wrongKind ∧
          (delete patience id disk).disk.history =
            some (toText (records.filter fun record => record.id ≠ .str id)) ∧
          record.storedFilename.text? = none) := by
  obtain ⟨failure, tried, hfailure, hdisk⟩ |
    ⟨records, record, next, hrecords, hfind, ⟨tried, hnext⟩, hanswer, hdisk⟩ :=
    delete_cases patience disk id
  · exact Or.inl ⟨failure, hfailure, by rw [hdisk]⟩
  right
  refine ⟨records, record, hrecords, hfind, ?_⟩
  have hfile : next.history =
      some (toText (records.filter fun record => record.id ≠ .str id)) := by
    rw [hnext]
  have hsite : next.site = disk.site := by rw [hnext]
  rw [hanswer, hdisk]
  obtain ⟨name, hname, hdone, hhistory | ⟨hself, hgone⟩⟩ | ⟨hkind, hunlink⟩ :=
    unlink_outcome next record.storedFilename
  · left
    refine ⟨?_, hhistory.trans hfile, by rw [hname]; rfl⟩
    rw [hdone]
    rfl
  · right
    left
    refine ⟨?_, hgone, name, hname, hsite ▸ hself⟩
    rw [hdone]
    rfl
  · right
    right
    rw [hunlink]
    exact ⟨rfl, hfile, hkind⟩

end Outcomes

end RenderRelay.HistoryStore
