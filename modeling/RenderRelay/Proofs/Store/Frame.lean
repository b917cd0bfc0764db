import RenderRelay.Proofs.Store.Atomic
import RenderRelay.Proofs.Store.Ledger

/-! # What a removal from the history touches

A removal rewrites the file of the records, and then removes the file that the stored name of the
record leads to, from the root or from the directory of images.  Nothing looks at that name before:
it may lead to any file of the machine.

* `KeepsToOutputs` is what a removal may do: take the records of the id out of their file, and
  remove one image.
* `delete_frame`: what a removal does to every disk, and that it keeps to the images unless the name
  leads to a file that is none of them. -/

namespace RenderRelay.HistoryStore

open Text

/-- The file that the stored name of a record leads to is at the place where its steps end. -/
theorem exists_of_ledTo {site : Site} {stored : Json} {file : DiskFile}
    (h : ledTo site stored = some file) :
    ∃ name place, stored = .str name ∧
      Path.LeadsTo site.hasFolder (site.startOf name) (Path.stepsOf name) place ∧
      fileAt site place = file := by
  cases stored with
  | str name =>
      rw [ledTo_str] at h
      obtain ⟨place, hplace, hfile⟩ := fileOf_eq_some_iff.mp h
      exact ⟨name, place, rfl, hplace, hfile⟩
  | _ => cases h

/-- What a removal may do to a disk: take the records of the id out of their file, and remove one
image. -/
structure KeepsToOutputs (id : String) (disk after : Disk) : Prop where
  records : after.history = disk.history ∨ ∃ old, readAll disk = .ok old ∧
    after.history = some (toText (old.filter fun record => record.id ≠ .str id)) ∧
    readAll after = .ok (old.filter fun record => record.id ≠ .str id)
  workflows : after.workflows = disk.workflows
  images : ∃ gone : Option String, ∀ name,
    after.artifact? name = if gone = some name then none else disk.artifact? name
  others : ∀ place, place ∈ after.others ↔ place ∈ disk.others

/-- The records of an id are taken out of the file, and then one file is gone. -/
structure Removed (id : String) (disk after : Disk) (old : List RunRecord) (record : RunRecord)
    (gone : Option DiskFile) : Prop where
  reads : readAll disk = .ok old
  first : old.find? (fun record => record.id = .str id) = some record
  without : Without gone
    { disk with history := some (toText (old.filter fun record => record.id ≠ .str id)) } after

namespace Removed

variable {id : String} {disk after : Disk} {old : List RunRecord} {record : RunRecord}
  {gone : Option DiskFile}

/-- The records that are left can be read. -/
theorem readAll_eq (h : Removed id disk after old record gone) (hgone : gone ≠ some .history) :
    after.history = some (toText (old.filter fun record => record.id ≠ .str id)) ∧
      readAll after = .ok (old.filter fun record => record.id ≠ .str id) := by
  have htext := h.without.history
  rw [if_neg hgone] at htext
  refine ⟨htext, readAll_of_toText (fun record hrecord => ?_) htext⟩
  exact sound_of_readAll h.reads record (List.mem_of_mem_filter hrecord)

/-- There were records before. -/
theorem isSome_history (h : Removed id disk after old record gone) : disk.history.isSome := by
  have hreads := h.reads
  unfold readAll at hreads
  cases htext : disk.history with
  | some text => rfl
  | none =>
      rw [htext] at hreads
      obtain rfl := Except.ok.inj hreads
      cases h.first

/-- A removal keeps to the images exactly if the file that is gone is an image, or was not there. -/
theorem keepsToOutputs_iff (h : Removed id disk after old record gone) :
    KeepsToOutputs id disk after ↔
      gone ≠ some .history ∧ (gone = some .workflows → disk.workflows = none) ∧
        ∀ place, gone = some (.other place) → place ∉ disk.others := by
  constructor
  · intro hkeeps
    refine ⟨?_, ?_, ?_⟩
    · rintro rfl
      have htext : after.history = none := h.without.history
      obtain hsame | ⟨other, -, hnew, -⟩ := hkeeps.records
      · have hsome := h.isSome_history
        rw [← hsame, htext] at hsome
        cases hsome
      · rw [htext] at hnew
        cases hnew
    · rintro rfl
      exact hkeeps.workflows.symm.trans h.without.workflows
    · rintro place rfl hplace
      exact ((h.without.others place).mp ((hkeeps.others place).mpr hplace)).2 rfl
  · rintro ⟨hhistory, hworkflows, hothers⟩
    refine ⟨Or.inr ⟨old, h.reads, h.readAll_eq hhistory⟩, ?_, ?_, fun place => ?_⟩
    · rw [h.without.workflows]
      split_ifs with hgone
      · exact (hworkflows hgone).symm
      · rfl
    · cases gone with
      | none => exact ⟨none, h.without.images⟩
      | some file =>
          cases file with
          | history => exact absurd rfl hhistory
          | workflows => exact ⟨none, h.without.images⟩
          | artifact name =>
              refine ⟨some name, fun other => ?_⟩
              rw [h.without.images other]
              simp only [Option.some.injEq, DiskFile.artifact.injEq]
              rfl
          | other place => exact ⟨none, h.without.images⟩
    · rw [h.without.others place]
      exact and_iff_left_of_imp fun hplace hgone => hothers place hgone hplace

end Removed

/-- What a removal does to the files of every disk.  Either it fails and they are as they were.  Or
the records of the id are taken out of their file, and then the file is gone that the steps of the
first one's stored name lead to, unless the name is no text or that removal fails.  So it keeps to
the images exactly if that file is one of them or was not there; and it does if the name is direct,
whatever the directory of images is. -/
theorem delete_frame (patience : Patience) (disk : Disk) (id : String) :
    (∃ failure tried, (delete patience id disk).answer = .error failure ∧
      (delete patience id disk).disk = { disk with tried := tried }) ∨
    ∃ old record gone, Removed id disk (delete patience id disk).disk old record gone ∧
      (delete patience id disk).answer =
        (if record.storedFilename.text?.isSome then .ok record else .error .wrongKind) ∧
      (∀ file, gone = some file → ∃ name place, record.storedFilename = .str name ∧
        Path.LeadsTo disk.site.hasFolder (disk.site.startOf name) (Path.stepsOf name) place ∧
        fileAt disk.site place = file) ∧
      (disk.Works → gone = ledTo disk.site record.storedFilename) ∧
      (KeepsToOutputs id disk (delete patience id disk).disk ↔
        gone ≠ some .history ∧ (gone = some .workflows → disk.workflows = none) ∧
          ∀ place, gone = some (.other place) → place ∉ disk.others) ∧
      ∀ name, record.storedFilename = .str name → Path.IsDirect name →
        (gone = none ∨ gone = some (.artifact name)) ∧
          KeepsToOutputs id disk (delete patience id disk).disk ∧
          ∀ outputs, Path.IsChildOf outputs (Path.join outputs name) := by
  obtain hfails | ⟨old, record, next, hreads, hfind, ⟨tried, rfl⟩, hanswer, hafter⟩ :=
    delete_cases patience disk id
  · exact Or.inl hfails
  obtain ⟨hunlink, gone, hwithout, hled, hworks⟩ := unlink_without record.storedFilename
    { disk with
      history := some (toText (old.filter fun record => record.id ≠ .str id))
      tried := tried }
  rw [← hafter] at hwithout
  have hremoved : Removed id disk (delete patience id disk).disk old record gone :=
    ⟨hreads, hfind, hwithout.workflows, hwithout.history, hwithout.images, hwithout.others⟩
  refine Or.inr ⟨old, record, gone, hremoved, ?_, ?_, hworks, hremoved.keepsToOutputs_iff, ?_⟩
  · rw [hanswer, hunlink]
    split_ifs <;> rfl
  · intro file hfile
    obtain hnone | hled := hled
    · cases hfile.symm.trans hnone
    · exact exists_of_ledTo (hled.symm.trans hfile)
  · intro name hname hdirect
    have himage : gone = none ∨ gone = some (.artifact name) := by
      rw [hname, ledTo_str, fileOf_of_isDirect disk.site hdirect] at hled
      exact hled
    refine ⟨himage, hremoved.keepsToOutputs_iff.mpr ?_, Path.isChildOf_join hdirect⟩
    obtain rfl | rfl := himage <;> exact ⟨nofun, nofun, nofun⟩

/-- A machine with a folder of settings. -/
def settingsSite : Site := { Site.standard with isFolder := fun place => place = ["etc"] }

/-- A file without workflows and one elsewhere, beside one record under this stored name. -/
def besideOthers (stored : String) : Disk :=
  { oneRecord (.str stored) with
    workflows := some "[]", site := settingsSite, others := [["etc", "passwd"]] }

/-- Stored names that lead up or start at the root take the file of the workflows, that of the
records, and one elsewhere on the machine. -/
theorem delete_climbs :
    ((delete steadyPatience "a" (besideOthers "../workflows.json")).answer.isOk = true ∧
      ¬ KeepsToOutputs "a" (besideOthers "../workflows.json")
        (delete steadyPatience "a" (besideOthers "../workflows.json")).disk) ∧
    (∀ stored ∈ ["../history.json", "../../render-relay/history.json",
        "/var/lib/render-relay/history.json"],
      (delete steadyPatience "a" (besideOthers stored)).answer.isOk = true ∧
        ¬ KeepsToOutputs "a" (besideOthers stored)
          (delete steadyPatience "a" (besideOthers stored)).disk) ∧
    ∀ stored ∈ ["/etc/passwd", "../../../../etc/passwd"],
      (delete steadyPatience "a" (besideOthers stored)).answer.isOk = true ∧
        ¬ KeepsToOutputs "a" (besideOthers stored)
          (delete steadyPatience "a" (besideOthers stored)).disk := by
  have hworkflows : (delete steadyPatience "a"
      (besideOthers "../workflows.json")).disk.workflows = none := by decide +kernel
  have hrecords : ∀ stored ∈ ["../history.json", "../../render-relay/history.json",
      "/var/lib/render-relay/history.json"],
      (delete steadyPatience "a" (besideOthers stored)).answer.isOk = true ∧
        (delete steadyPatience "a" (besideOthers stored)).disk.history = none := by
    decide +kernel
  have hothers : ∀ stored ∈ ["/etc/passwd", "../../../../etc/passwd"],
      (delete steadyPatience "a" (besideOthers stored)).answer.isOk = true ∧
        (delete steadyPatience "a" (besideOthers stored)).disk.others = [] := by
    decide +kernel
  refine ⟨⟨by decide +kernel, fun h => ?_⟩, fun stored hstored => ?_, fun stored hstored => ?_⟩
  · cases hworkflows.symm.trans h.workflows
  · obtain ⟨hanswer, hgone⟩ := hrecords stored hstored
    refine ⟨hanswer, fun h => ?_⟩
    obtain hsame | ⟨other, -, hnew, -⟩ := h.records
    · cases hgone.symm.trans hsame
    · cases hgone.symm.trans hnew
  · obtain ⟨hanswer, hgone⟩ := hothers stored hstored
    refine ⟨hanswer, fun h => ?_⟩
    have hstays := (h.others ["etc", "passwd"]).mpr List.mem_cons_self
    rw [hgone] at hstays
    cases hstays

end RenderRelay.HistoryStore
