import RenderRelay.Proofs.Store.Ledger

/-! # Images that are asked for

A client asks for an image by its stored name.

* `confined`: a name is accepted only if it leads to something directly in a directory, and what is
  answered is the image of exactly that name (`Confined`).
* `Filled` holds of the stores that images were stored in and removed from, whichever low-level
  operations failed on the way, with all images that were stored and those that were not removed.
* `Filled.holds` carries the invariant along: the file holds the records of the images that were
  not removed, and an image stands in the directory as long as no other was stored under its name.
* `filled_serves`: the names that stored images get are safe ones that are accepted, and the image
  of every record is answered, unless another image was stored under its name
  (`filled_unserved`). -/

namespace RenderRelay.HistoryStore

/-! ### Names that a client may ask for -/

/-- What asking for a name comes to: it is accepted as it is or refused, what it leads to is
directly in the directory of images, and only an image is answered. -/
structure Confined (name : String) : Prop where
  accepted_iff : ∀ answered, Path.checkStored (some name) = .ok answered ↔
    answered = name ∧ Path.IsDirect name ∧ Path.mayClimb name = false
  refused_iff : ∀ e, Path.checkStored (some name) = .error e ↔
    e = .missing ∧ name = "" ∨ e = .climbing ∧ name ≠ "" ∧ Path.mayClimb name = true ∨
      e = .notBare ∧ name ≠ "" ∧ Path.mayClimb name = false ∧ ¬ Path.IsDirect name
  child : ∀ answered, Path.checkStored (some name) = .ok answered →
    ∀ outputs, Path.IsChildOf outputs (Path.join outputs answered)
  refused : ¬ Path.IsDirect name → ∃ e : Path.NameError,
    Path.checkStored (some name) = .error e ∧ e.fault.kind = .security ∧
      ∀ disk, artifact disk (some name) = .error (.fault e.fault)
  answered : ∀ disk answered content, artifact disk (some name) = .ok (answered, content) →
    answered = name ∧ Path.IsDirect name ∧ fileOf disk.site name = some (.artifact name) ∧
      disk.artifact? name = some content

/-- An image that is answered is the one of the name that was accepted. -/
theorem exists_of_artifact {disk : Disk} {name : Option String} {answered : String}
    {content : Bytes} (h : artifact disk name = .ok (answered, content)) :
    Path.checkStored name = .ok answered ∧ disk.artifact? answered = some content := by
  unfold artifact at h
  cases hcheck : Path.checkStored name with
  | error e =>
      rw [hcheck] at h
      cases h
  | ok accepted =>
      rw [hcheck] at h
      dsimp only at h
      split_ifs at h
      cases hfound : disk.artifact? accepted with
      | none =>
          rw [hfound] at h
          cases h
      | some found =>
          rw [hfound] at h
          obtain ⟨rfl, rfl⟩ := Prod.mk.inj (Except.ok.inj h)
          exact ⟨rfl, hfound⟩

theorem artifact_of_refused {name : Option String} {e : Path.NameError}
    (h : Path.checkStored name = .error e) (disk : Disk) :
    artifact disk name = .error (.fault e.fault) := by
  unfold artifact
  rw [h]

theorem artifact_of_found {disk : Disk} {name : String} {content : Bytes}
    (hcheck : Path.checkStored (some name) = .ok name) (hname : Disk.admitsName name = true)
    (hfound : disk.artifact? name = some content) :
    artifact disk (some name) = .ok (name, content) := by
  unfold artifact
  rw [hcheck]
  dsimp only
  rw [hname, hfound]
  rfl

/-- No name leads out of the directory of images. -/
theorem confined (name : String) : Confined name where
  accepted_iff _ := Path.checkStored_eq_ok_iff
  refused_iff _ := Path.checkStored_eq_error_iff
  child answered haccepted outputs := by
    obtain ⟨rfl, hdirect, -⟩ := Path.checkStored_eq_ok_iff.mp haccepted
    exact Path.isChildOf_join hdirect outputs
  refused hindirect := by
    cases hcheck : Path.checkStored (some name) with
    | ok answered => exact absurd (Path.checkStored_eq_ok_iff.mp hcheck).2.1 hindirect
    | error e => exact ⟨e, rfl, e.kind_fault, artifact_of_refused hcheck⟩
  answered disk answered content hartifact := by
    obtain ⟨hcheck, hfound⟩ := exists_of_artifact hartifact
    obtain ⟨rfl, hdirect, -⟩ := Path.checkStored_eq_ok_iff.mp hcheck
    exact ⟨rfl, hdirect, fileOf_of_isDirect disk.site hdirect, hfound⟩

/-! ### Stores that images were stored in -/

/-- A directory whose records and images were made by storing and removing: the images that were
ever stored, the last one first, and those of them that were not removed. -/
inductive Filled : (stored : List Saved) → Disk → (ledger : List Saved) → Prop where
  | empty (disk : Disk) (hdisk : readAll disk = .ok []) : Filled [] disk []
  | append {stored ledger : List Saved} {disk : Disk} (hdisk : Filled stored disk ledger)
      (patience : Patience) (stamp : Stamp) (content : Bytes) (filename : Option String)
      (metadata : Fields) (record : RunRecord) (hdrawn : stamp.Drawn)
      (hmetadata : ∃ limit, (Json.obj metadata).Spelled limit)
      (hanswer : (HistoryStore.append patience stamp content filename metadata disk).answer =
        .ok record) :
      Filled (⟨record, content⟩ :: stored)
        (HistoryStore.append patience stamp content filename metadata disk).disk
        (⟨record, content⟩ :: ledger)
  | delete {stored ledger : List Saved} {disk : Disk} (hdisk : Filled stored disk ledger)
      (patience : Patience) (id : String) (record : RunRecord)
      (hanswer : (HistoryStore.delete patience id disk).answer = .ok record) :
      Filled stored (HistoryStore.delete patience id disk).disk
        (ledger.filter fun saved => saved.record.id ≠ .str id)
  | elsewhere {stored ledger : List Saved} {disk : Disk} (hdisk : Filled stored disk ledger)
      (other : Disk) (hhistory : other.history = disk.history)
      (hartifacts : other.artifacts = disk.artifacts) : Filled stored other ledger

/-- The entry is the only image that was ever stored under its name. -/
def Saved.AloneIn (stored : List Saved) (saved : Saved) : Prop :=
  ∀ other ∈ stored, other.name = saved.name → other = saved

/-- What storing and removing keep up. -/
structure Holds (stored : List Saved) (disk : Disk) (ledger : List Saved) : Prop where
  reads : readAll disk = .ok (ledger.map Saved.record)
  stamped : ∀ saved ∈ stored, ∃ stamps, saved.StampedBy stamps
  admitted : ∀ saved ∈ stored, Disk.admitsName saved.name = true
  subset : ledger ⊆ stored
  image : ∀ saved ∈ ledger, saved.AloneIn stored →
    disk.artifact? saved.name = some saved.content
  any_image : ∀ saved ∈ stored, ∀ content, disk.artifact? saved.name = some content →
    ∃ other ∈ stored, other.name = saved.name ∧ other.content = content

/-- An image that was stored had a name that a file can have. -/
theorem admitsName_of_append {patience : Patience} {stamp : Stamp} {content : Bytes}
    {filename : Option String} {metadata : Fields} {disk : Disk} {record : RunRecord}
    (h : (append patience stamp content filename metadata disk).answer = .ok record) :
    Disk.admitsName (storedName stamp (givenName filename)) = true := by
  by_contra hname
  rw [Bool.not_eq_true] at hname
  have herror := (append_of_not_admitted patience hname content metadata disk).1
  rw [h] at herror
  cases herror

/-- Removing an image takes its file out of the directory, or leaves all as they are. -/
theorem unlink_artifact {name : String} (disk : Disk)
    (hfile : fileOf disk.site name = some (.artifact name)) :
    ∃ artifacts tried, unlink (.str name) disk =
        (.ok (), { disk with artifacts := artifacts, tried := tried }) ∧
      (artifacts = disk.artifacts ∨ artifacts = disk.artifacts.remove name) := by
  obtain ⟨tried, hattempt⟩ := Disk.attempt_snd 1 disk
  unfold unlink
  dsimp only
  rw [hfile]
  generalize disk.attempt 1 = attempted at hattempt
  obtain ⟨worked, next⟩ := attempted
  obtain rfl : next = { disk with tried := tried } := hattempt
  cases worked with
  | true => exact ⟨_, tried, rfl, Or.inr rfl⟩
  | false => exact ⟨_, tried, rfl, Or.inl rfl⟩

/-- A removal that answers has taken the records of the id out of the file, and at most the image of
the record that it answers out of the directory. -/
theorem exists_of_delete {patience : Patience} {id : String} {disk : Disk}
    {records : List RunRecord} {record : RunRecord} (hreads : readAll disk = .ok records)
    (hfiles : ∀ record ∈ records, ∃ name, record.storedFilename = .str name ∧
      fileOf disk.site name = some (.artifact name))
    (h : (delete patience id disk).answer = .ok record) :
    record ∈ records ∧ record.id = .str id ∧ ∃ name, record.storedFilename = .str name ∧
      ∃ artifacts tried, (delete patience id disk).disk =
          { disk with
            history := some (toText (records.filter fun record => record.id ≠ .str id))
            artifacts := artifacts
            tried := tried } ∧
        (artifacts = disk.artifacts ∨ artifacts = disk.artifacts.remove name) := by
  unfold delete at h ⊢
  rw [hreads, Stored.pure_andThen] at h ⊢
  cases hfind : records.find? fun record => record.id = .str id with
  | none =>
      rw [hfind] at h
      cases h
  | some found =>
      have hmem := List.mem_of_find?_eq_some hfind
      have hid : found.id = .str id := by simpa using List.find?_some hfind
      obtain ⟨name, hname, hfile⟩ := hfiles found hmem
      rw [hfind] at h
      dsimp only at h ⊢
      obtain ⟨hpersist, before, hafter⟩ | ⟨⟨fault, hpersist⟩, -⟩ :=
        persist_outcome patience disk (records.filter fun record => record.id ≠ .str id)
      · rw [Stored.andThen_of_ok hpersist, hafter, hname] at h ⊢
        obtain ⟨artifacts, tried, hunlink, hartifacts⟩ := unlink_artifact { disk with
          history := some (toText (records.filter fun record => record.id ≠ .str id))
          tried := before } hfile
        rw [hunlink] at h ⊢
        obtain rfl := Except.ok.inj h
        exact ⟨hmem, hid, name, hname, artifacts, tried, rfl, hartifacts⟩
      · rw [Stored.andThen_of_error hpersist] at h
        cases h

namespace Holds

variable {stored ledger : List Saved} {disk : Disk}

theorem sound (h : Holds stored disk ledger) :
    ∀ record ∈ ledger.map Saved.record, record.Sound := by
  intro record hrecord
  obtain ⟨saved, hsaved, rfl⟩ := List.mem_map.mp hrecord
  obtain ⟨stamps, hstamped⟩ := h.stamped saved (h.subset hsaved)
  exact hstamped.sound

/-- Only the records and the images matter. -/
theorem elsewhere (h : Holds stored disk ledger) {other : Disk}
    (hhistory : other.history = disk.history) (hartifacts : other.artifacts = disk.artifacts) :
    Holds stored other ledger := by
  have himages : ∀ name, other.artifact? name = disk.artifact? name := by
    intro name
    unfold Disk.artifact?
    rw [hartifacts]
  refine ⟨?_, h.stamped, h.admitted, h.subset, ?_, ?_⟩
  · unfold readAll
    rw [hhistory]
    exact h.reads
  · intro saved hsaved halone
    rw [himages]
    exact h.image saved hsaved halone
  · intro saved hsaved content hcontent
    rw [himages] at hcontent
    exact h.any_image saved hsaved content hcontent

/-- An image more keeps the others, but for one that has the same name. -/
theorem put (h : Holds stored disk ledger) {new : Saved} {stamps : List Stamp}
    (hstamped : new.StampedBy stamps) (hname : Disk.admitsName new.name = true) (tried : Nat) :
    Holds (new :: stored)
      { disk with
        history := some (toText ((new :: ledger).map Saved.record))
        artifacts := disk.artifacts.put new.name new.content
        tried := tried }
      (new :: ledger) := by
  have hself : ∀ other : Saved, new.name = other.name →
      (disk.artifacts.put new.name new.content).lookup other.name = some new.content := by
    intro other heq
    rw [← heq]
    exact Entries.lookup_put_self _ _ _
  have hother : ∀ other : Saved, new.name ≠ other.name →
      (disk.artifacts.put new.name new.content).lookup other.name =
        disk.artifact? other.name := fun other hne =>
    Entries.lookup_put_of_ne _ _ (Ne.symm hne)
  refine ⟨?_, ?_, ?_, ?_, ?_, ?_⟩
  · refine readAll_of_toText ?_ rfl
    exact List.forall_mem_cons.mpr ⟨hstamped.sound, h.sound⟩
  · exact List.forall_mem_cons.mpr ⟨⟨stamps, hstamped⟩, h.stamped⟩
  · exact List.forall_mem_cons.mpr ⟨hname, h.admitted⟩
  · exact List.cons_subset_cons new h.subset
  · -- under the name of the new image, only the new one can be alone
    intro saved hsaved halone
    by_cases heq : new.name = saved.name
    · obtain rfl := halone new List.mem_cons_self heq
      exact hself new rfl
    · obtain rfl | hsaved := List.mem_cons.mp hsaved
      · exact absurd rfl heq
      · refine (hother saved heq).trans (h.image saved hsaved ?_)
        exact fun other hmem => halone other (List.mem_cons_of_mem new hmem)
  · intro saved hsaved found hfound
    by_cases heq : new.name = saved.name
    · refine ⟨new, List.mem_cons_self, heq, ?_⟩
      exact Option.some.inj ((hself saved heq).symm.trans hfound)
    · obtain rfl | hsaved := List.mem_cons.mp hsaved
      · exact absurd rfl heq
      · obtain ⟨other, hmem, hsame⟩ :=
          h.any_image saved hsaved found ((hother saved heq).symm.trans hfound)
        exact ⟨other, List.mem_cons_of_mem new hmem, hsame⟩

/-- Without the records of an id, and with or without the image of one of them, the images of all
other names stay. -/
theorem remove (h : Holds stored disk ledger) {id : String} {removed : Saved}
    (hremoved : removed ∈ ledger) (hid : removed.record.id = .str id) {artifacts : Entries Bytes}
    (hartifacts : artifacts = disk.artifacts ∨ artifacts = disk.artifacts.remove removed.name)
    (tried : Nat) :
    Holds stored
      { disk with
        history := some (toText
          ((ledger.filter fun saved => saved.record.id ≠ .str id).map Saved.record))
        artifacts := artifacts
        tried := tried }
      (ledger.filter fun saved => saved.record.id ≠ .str id) := by
  -- what is found afterwards was there before, and under another name nothing has changed
  have hfewer : ∀ name content, artifacts.lookup name = some content →
      disk.artifact? name = some content := by
    intro name content hfound
    obtain rfl | rfl := hartifacts
    · exact hfound
    · rw [Entries.lookup_remove] at hfound
      split_ifs at hfound
      exact hfound
  have hother : ∀ name, name ≠ removed.name → artifacts.lookup name = disk.artifact? name := by
    intro name hne
    obtain rfl | rfl := hartifacts
    · rfl
    · rw [Entries.lookup_remove, if_neg hne]
      rfl
  have hsublist : (ledger.filter fun saved => saved.record.id ≠ .str id).Sublist ledger :=
    List.filter_sublist
  refine ⟨?_, h.stamped, h.admitted, fun saved hsaved => h.subset (hsublist.subset hsaved), ?_,
    ?_⟩
  · refine readAll_of_toText ?_ rfl
    intro record hrecord
    exact h.sound record ((hsublist.map _).subset hrecord)
  · intro saved hsaved halone
    obtain ⟨hmem, hkept⟩ := List.mem_filter.mp hsaved
    rw [decide_eq_true_eq] at hkept
    refine (hother saved.name fun heq => ?_).trans (h.image saved hmem halone)
    exact hkept (halone removed (h.subset hremoved) heq.symm ▸ hid)
  · intro saved hsaved content hfound
    exact h.any_image saved hsaved content (hfewer saved.name content hfound)

variable {patience : Patience}

theorem append (h : Holds stored disk ledger) {stamp : Stamp} {content : Bytes}
    {filename : Option String} {metadata : Fields} {record : RunRecord} (hdrawn : stamp.Drawn)
    (hmetadata : ∃ limit, (Json.obj metadata).Spelled limit)
    (hanswer : (HistoryStore.append patience stamp content filename metadata disk).answer =
      .ok record) :
    Holds (⟨record, content⟩ :: stored)
      (HistoryStore.append patience stamp content filename metadata disk).disk
      (⟨record, content⟩ :: ledger) := by
  have hname := admitsName_of_append hanswer
  obtain ⟨limit, hspelled⟩ := hmetadata
  obtain rfl := record_of_append hanswer
  obtain ⟨records, hreads, -, tried, hdisk⟩ | ⟨⟨failure, hfailure⟩, -⟩ :=
    append_outcome patience disk stamp content filename metadata
  · obtain rfl : records = ledger.map Saved.record :=
      Except.ok.inj (hreads.symm.trans h.reads)
    have hstamped : (Saved.mk (recordOf stamp filename metadata) content).StampedBy [stamp] :=
      ⟨stamp, List.mem_singleton_self stamp, filename, metadata, limit, hdrawn, hspelled, rfl⟩
    rw [hdisk]
    exact h.put hstamped hname tried
  · rw [hfailure] at hanswer
    cases hanswer

theorem delete (h : Holds stored disk ledger) {id : String} {record : RunRecord}
    (hanswer : (HistoryStore.delete patience id disk).answer = .ok record) :
    Holds stored (HistoryStore.delete patience id disk).disk
      (ledger.filter fun saved => saved.record.id ≠ .str id) := by
  have hfiles : ∀ record ∈ ledger.map Saved.record, ∃ name,
      record.storedFilename = .str name ∧ fileOf disk.site name = some (.artifact name) := by
    intro record hrecord
    obtain ⟨saved, hsaved, rfl⟩ := List.mem_map.mp hrecord
    obtain ⟨stamps, hstamped⟩ := h.stamped saved (h.subset hsaved)
    exact ⟨saved.name, hstamped.stored_eq, hstamped.fileOf_name disk.site⟩
  obtain ⟨hrecord, hid, name, hstored, artifacts, tried, hdisk, hartifacts⟩ :=
    exists_of_delete h.reads hfiles hanswer
  obtain ⟨removed, hremoved, rfl⟩ := List.mem_map.mp hrecord
  obtain rfl : removed.name = name := by
    unfold Saved.name
    rw [hstored]
    rfl
  rw [hdisk, List.filter_map]
  exact h.remove hremoved hid hartifacts tried

end Holds

theorem Filled.holds {stored ledger : List Saved} {disk : Disk} (h : Filled stored disk ledger) :
    Holds stored disk ledger := by
  induction h with
  | empty disk hdisk => exact ⟨hdisk, nofun, nofun, List.Subset.refl [], nofun, nofun⟩
  | append _ patience stamp content filename metadata record hdrawn hmetadata hanswer ih =>
      exact ih.append hdrawn hmetadata hanswer
  | delete _ patience id record hanswer ih => exact ih.delete hanswer
  | elsewhere _ other hhistory hartifacts ih => exact ih.elsewhere hhistory hartifacts

/-! ### What is answered -/

/-- What a store answers to a client who asks for the images of its records. -/
structure Serves (stored : List Saved) (disk : Disk) (ledger : List Saved) : Prop where
  reads : readAll disk = .ok (ledger.map Saved.record)
  accepted : ∀ saved ∈ ledger, saved.record.storedFilename = .str saved.name ∧
    Path.checkStored (some saved.name) = .ok saved.name
  served : ∀ saved ∈ ledger, saved.AloneIn stored →
    artifact disk (some saved.name) = .ok (saved.name, saved.content)
  served_any : ∀ saved ∈ ledger, ∀ content,
    artifact disk (some saved.name) = .ok (saved.name, content) →
      ∃ other ∈ stored, other.name = saved.name ∧ other.content = content

theorem Holds.serves {stored ledger : List Saved} {disk : Disk} (h : Holds stored disk ledger) :
    Serves stored disk ledger where
  reads := h.reads
  accepted saved hsaved := by
    obtain ⟨stamps, hstamped⟩ := h.stamped saved (h.subset hsaved)
    exact ⟨hstamped.stored_eq, hstamped.checkStored_name⟩
  served saved hsaved halone := by
    obtain ⟨stamps, hstamped⟩ := h.stamped saved (h.subset hsaved)
    exact artifact_of_found hstamped.checkStored_name (h.admitted saved (h.subset hsaved))
      (h.image saved hsaved halone)
  served_any saved hsaved content hartifact :=
    h.any_image saved (h.subset hsaved) content (exists_of_artifact hartifact).2

/-- A stored image has a safe name, which is accepted when it is asked for, and the image of every
record is answered, unless another image was stored under its name. -/
theorem filled_serves :
    (∀ path, Path.IsSafeName (Path.safeName path)) ∧
      (∀ (stamp : Stamp) (filename : Option String), stamp.Drawn →
        Path.checkStored (some (storedName stamp (givenName filename))) =
          .ok (storedName stamp (givenName filename))) ∧
      ∀ stored disk ledger, Filled stored disk ledger → Serves stored disk ledger :=
  ⟨Path.isSafeName_safeName, fun _ filename hdrawn =>
    checkStored_storedName hdrawn (givenName filename), fun _ _ _ h => h.holds.serves⟩

/-! ### Two images -/

section Working

variable {stored ledger : List Saved} {disk : Disk}

/-- Storing an image on a disk that works. -/
theorem Filled.append_of_works (h : Filled stored disk ledger) (hworks : disk.Works)
    (patience : Patience) {stamp : Stamp} (hdrawn : stamp.Drawn) (content : Bytes)
    {filename : Option String}
    (hname : Disk.admitsName (storedName stamp (givenName filename)) = true) {metadata : Fields}
    (hmetadata : ∃ limit, (Json.obj metadata).Spelled limit) :
    ∃ after, after.Works ∧ Filled (⟨recordOf stamp filename metadata, content⟩ :: stored) after
      (⟨recordOf stamp filename metadata, content⟩ :: ledger) := by
  obtain ⟨tried, happend⟩ :=
    append_of_admitted patience hworks h.holds.reads hname content metadata
  refine ⟨_, ?_, h.append patience stamp content filename metadata _ hdrawn hmetadata ?_⟩
  · rw [happend]
    exact hworks
  · rw [happend]

/-- Removing an image from a disk that works: nothing is found under its name any more. -/
theorem Filled.delete_of_works (h : Filled stored disk ledger) (hworks : disk.Works)
    (patience : Patience) {id : String} {saved : Saved} (hsaved : saved ∈ ledger)
    (hfind : (ledger.map Saved.record).find? (fun record => record.id = .str id) =
      some saved.record) :
    ∃ after, Filled stored after (ledger.filter fun saved => saved.record.id ≠ .str id) ∧
      artifact after (some saved.name) = .error (.fault (.historyItemNotFound (.str saved.name)
        (some ("Stored file not found: " ++ saved.name)))) := by
  obtain ⟨hstored, hcheck⟩ := h.holds.serves.accepted saved hsaved
  obtain ⟨tried, hdelete⟩ := delete_of_find patience hworks h.holds.reads hfind hstored
    (fileOf_of_isDirect disk.site (Path.checkStored_eq_ok_iff.mp hcheck).2.1)
  have hgone : (disk.artifacts.remove saved.name).lookup saved.name = none := by
    rw [Entries.lookup_remove, if_pos rfl]
  refine ⟨_, h.delete patience id saved.record ?_, ?_⟩
  · rw [hdelete]
  · rw [hdelete]
    unfold artifact Disk.artifact? Entries.get?
    rw [hcheck]
    dsimp only
    rw [h.holds.admitted saved (h.holds.subset hsaved), hgone]
    rfl

end Working

/-- Three draws; the second ids of the first two begin with the same eight digits. -/
def firstDraw : Stamp := ⟨"00000001-0000", "0000000a-0000", 1700000000000, 1700000000000⟩

def secondDraw : Stamp := ⟨"00000002-0000", "0000000a-ffff", 1700000000000, 1700000000000⟩

def otherDraw : Stamp := ⟨"00000003-0000", "0000000b-0000", 1700000000000, 1700000000000⟩

/-- An image of one byte, without a name of its own. -/
def imageOf (stamp : Stamp) (byte : UInt8) : Saved := ⟨recordOf stamp none [], [byte]⟩

/-- Two images can be stored one after the other, and the first can be removed again. -/
theorem exists_filled (patience : Patience) (first second : Stamp) (hfirst : first.Drawn)
    (hsecond : second.Drawn)
    (hfirstName : Disk.admitsName (storedName first (givenName none)) = true)
    (hsecondName : Disk.admitsName (storedName second (givenName none)) = true)
    (hne : second.recordId ≠ first.recordId) :
    ∃ disk, Filled [imageOf second 2, imageOf first 1] disk [imageOf second 2] ∧
      artifact disk (some (imageOf first 1).name) =
        .error (.fault (.historyItemNotFound (.str (imageOf first 1).name)
          (some ("Stored file not found: " ++ (imageOf first 1).name)))) := by
  have hmetadata : ∃ limit, (Json.obj []).Spelled limit :=
    ⟨0, Json.Spelled.obj [] List.nodup_nil (List.forall_mem_nil _)⟩
  have hid : (imageOf first 1).record.id = .str first.recordId := rfl
  have hother : (imageOf second 2).record.id ≠ .str first.recordId := fun heq =>
    hne (Json.str.inj heq)
  have hfind : [(imageOf second 2).record, (imageOf first 1).record].find?
      (fun record => record.id = .str first.recordId) = some (imageOf first 1).record := by
    rw [List.find?_cons_of_neg (by simpa using hother),
      List.find?_cons_of_pos (by simpa using hid)]
  have hkept : [imageOf second 2, imageOf first 1].filter
      (fun saved => saved.record.id ≠ .str first.recordId) = [imageOf second 2] := by
    rw [List.filter_cons_of_pos (by simpa using hother),
      List.filter_cons_of_neg (by simpa using hid), List.filter_nil]
  have hstart : Filled [] Disk.empty [] := .empty Disk.empty rfl
  obtain ⟨one, hworks, hone⟩ :=
    hstart.append_of_works (fun _ => rfl) patience hfirst [1] hfirstName hmetadata
  obtain ⟨both, hworks, hboth⟩ :=
    hone.append_of_works hworks patience hsecond [2] hsecondName hmetadata
  have hmem : imageOf first 1 ∈ [imageOf second 2, imageOf first 1] :=
    List.mem_cons_of_mem _ List.mem_cons_self
  obtain ⟨disk, hdisk, hgone⟩ := Filled.delete_of_works hboth hworks patience hmem hfind
  exact ⟨disk, hkept ▸ hdisk, hgone⟩

theorem filled_serves_other :
    Path.IsSafeName (Path.safeName (some "../a b.png")) ∧
      Path.checkStored (some (storedName otherDraw (givenName none))) =
        .ok (storedName otherDraw (givenName none)) ∧
      ∃ disk, Serves [imageOf otherDraw 2, imageOf firstDraw 1] disk [imageOf otherDraw 2] ∧
        artifact disk (some (imageOf otherDraw 2).name) =
          .ok ((imageOf otherDraw 2).name, [2]) := by
  obtain ⟨hsafe, haccepted, hserves⟩ := filled_serves
  have hdrawn : otherDraw.Drawn := ⟨by decide, by decide⟩
  obtain ⟨disk, hdisk, -⟩ := exists_filled ⟨.standard, fun _ => Double.zero false⟩ firstDraw
    otherDraw ⟨by decide, by decide⟩ hdrawn (by decide) (by decide) (by decide)
  have hdiffers : (imageOf firstDraw 1).name ≠ (imageOf otherDraw 2).name := by decide +kernel
  refine ⟨hsafe _, haccepted otherDraw none hdrawn, disk, hserves _ _ _ hdisk, ?_⟩
  refine (hserves _ _ _ hdisk).served _ List.mem_cons_self ?_
  intro other hother hname
  obtain rfl | hother := List.mem_cons.mp hother
  · rfl
  · obtain rfl := List.mem_singleton.mp hother
    exact absurd hname hdiffers

/-- Where two images have one name and one of them is removed, the image of the record that is left
is not found. -/
theorem filled_unserved :
    ∃ disk, Filled [imageOf secondDraw 2, imageOf firstDraw 1] disk [imageOf secondDraw 2] ∧
      readAll disk = .ok [recordOf secondDraw none []] ∧
      artifact disk (some (imageOf secondDraw 2).name) =
        .error (.fault (.historyItemNotFound (.str (imageOf secondDraw 2).name)
          (some ("Stored file not found: " ++ (imageOf secondDraw 2).name)))) := by
  have hname : (imageOf firstDraw 1).name = (imageOf secondDraw 2).name := by decide +kernel
  obtain ⟨disk, hdisk, hgone⟩ := exists_filled ⟨.standard, fun _ => Double.zero false⟩ firstDraw
    secondDraw ⟨by decide, by decide⟩ ⟨by decide, by decide⟩ (by decide) (by decide) (by decide)
  rw [hname] at hgone
  exact ⟨disk, hdisk, hdisk.holds.reads, hgone⟩

end RenderRelay.HistoryStore
