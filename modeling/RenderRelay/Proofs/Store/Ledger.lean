import RenderRelay.Proofs.Json.RoundTrip
import RenderRelay.Proofs.Store.History
import RenderRelay.Proofs.Store.ImageNames
import RenderRelay.Proofs.Store.Workflow

/-! # The history store as a ledger

Records in a file and images in a directory stay in step, whatever is stored, removed and asked
for.

* `ofText_toText`: the file reads back as the records that were written, and `sound_of_readAll`:
  the records that are read from a file can be written to it.
* `Operation.entered` keeps the ledger: what storing answered and no removal took out.
* `InStep` is the invariant: the file holds the records of the ledger, the directory its images,
  and each comes from a draw of its own.
* `Faithful` says what each operation answers and leaves behind; `run_faithful` shows it after
  every run from an empty directory. -/

namespace RenderRelay

/-- The fields of a record as they are stored. -/
def RunRecord.storedFields (record : RunRecord) : Fields :=
  [("id", record.id), ("created_at", record.createdAt),
    ("original_filename", record.givenFilename), ("stored_filename", record.storedFilename)] ++
    record.metadata.toFields

/-- What holds of a record that the store keeps: its id and its stored name are set, and a text
can spell it. -/
structure RunRecord.Sound (record : RunRecord) : Prop where
  id_set : record.id.isTruthy = true
  stored_set : record.storedFilename.isTruthy = true
  spelled : ∃ limit, record.toJson.Spelled limit

namespace HistoryStore

/-! ### The file -/

section File

variable {records : List RunRecord}

theorem entriesOf_records (h : ∀ record ∈ records, record.Sound) :
    entriesOf (.arr (records.map RunRecord.toJson)) = records.map RunRecord.storedFields := by
  have hfields : (records.map RunRecord.toJson).filterMap Json.fields? =
      records.map RunRecord.storedFields := by
    rw [List.filterMap_map, ← List.filterMap_eq_map]
    rfl
  change ((records.map RunRecord.toJson).filterMap Json.fields?).filter _ = _
  rw [hfields, List.filter_eq_self]
  intro fields hmem
  obtain ⟨record, hrecord, rfl⟩ := List.mem_map.mp hmem
  exact Bool.and_eq_true_iff.mpr ⟨(h record hrecord).id_set, (h record hrecord).stored_set⟩

/-- The file reads back as the records that were written. -/
theorem ofText_toText (h : ∀ record ∈ records, record.Sound) :
    ofText (toText records) = .ok records := by
  have hitems : ∀ item ∈ records.map RunRecord.toJson, ∃ limit, item.Spelled limit := by
    intro item hitem
    obtain ⟨record, hrecord, rfl⟩ := List.mem_map.mp hitem
    exact (h record hrecord).spelled
  obtain ⟨limit, hspelled⟩ := Json.exists_spelled_arr hitems
  have hread : Json.read (toText records) = .ok (.arr (records.map RunRecord.toJson)) :=
    Json.read_write Json.Layout.indented_readable hspelled
  unfold ofText
  rw [hread]
  dsimp only
  rw [entriesOf_records h]
  exact mapM_map_ok fun _ _ => rfl

theorem readAll_of_toText (h : ∀ record ∈ records, record.Sound) {disk : Disk}
    (hdisk : disk.history = some (toText records)) : readAll disk = .ok records := by
  unfold readAll
  rw [hdisk]
  exact ofText_toText h

end File

/-- Metadata that are taken from what a text can spell can be spelled. -/
theorem spelled_toFields {fields : Fields} {limit : Nat} (h : (Json.obj fields).Spelled limit) :
    ∀ field ∈ (RunMetadata.ofFields fields).toFields, field.2.Spelled limit := by
  simp only [RunMetadata.toFields, RunMetadata.ofFields, RunParameters.toFields,
    RunParameters.ofFields, List.forall_mem_cons]
  exact ⟨Json.spelled_get h _, Json.spelled_get h _, Json.spelled_get h _, Json.spelled_get h _,
    Json.spelled_get h _, Json.spelled_get h _, Json.spelled_get h _, Json.spelled_get h _,
    List.forall_mem_nil _⟩

theorem spelled_toJson {record : RunRecord} {limit : Nat} (hid : record.id.Spelled limit)
    (hcreated : record.createdAt.Spelled limit) (hgiven : record.givenFilename.Spelled limit)
    (hstored : record.storedFilename.Spelled limit)
    (hmetadata : ∀ field ∈ record.metadata.toFields, field.2.Spelled limit) :
    record.toJson.Spelled limit := by
  refine Json.Spelled.obj _ ?_ ?_
  · simp [Entries.keys, RunMetadata.toFields, RunParameters.toFields]
  · rw [List.forall_mem_append]
    refine ⟨?_, hmetadata⟩
    simp only [List.forall_mem_cons]
    exact ⟨hid, hcreated, hgiven, hstored, List.forall_mem_nil _⟩

theorem sound_recordOf {stamp : Stamp} (hstamp : stamp.Drawn) (filename : Option String)
    {metadata : Fields} {limit : Nat} (hmetadata : (Json.obj metadata).Spelled limit) :
    (recordOf stamp filename metadata).Sound where
  id_set := StoredWorkflow.isTruthy_str hstamp.record.1
  stored_set := StoredWorkflow.isTruthy_str (storedName_ne_empty stamp _)
  spelled := ⟨limit, spelled_toJson (.str _) (.str _) (.str _) (.str _)
    (spelled_toFields hmetadata)⟩

theorem sound_ofFields {fields : Fields} {limit : Nat} (h : (Json.obj fields).Spelled limit)
    (hset : ((fields.get "id").isTruthy && (fields.get "stored_filename").isTruthy) = true)
    {record : RunRecord} (hread : RunRecord.ofFields fields = .ok record) : record.Sound := by
  have hentry : ∀ (key : String) (missing : Json), missing.Spelled limit →
      ((fields.get? key).getD missing).Spelled limit := by
    intro key missing hmissing
    cases hget : fields.get? key with
    | none => exact hmissing
    | some value => exact Json.spelled_lookup h hget
  obtain ⟨hid, hstored⟩ := Bool.and_eq_true_iff.mp hset
  unfold Fields.get at hid hstored
  unfold RunRecord.ofFields at hread
  split at hread
  · next id stored hgetId hgetStored =>
      obtain rfl := Except.ok.inj hread
      change fields.lookup "id" = some id at hgetId
      change fields.lookup "stored_filename" = some stored at hgetStored
      rw [hgetId] at hid
      rw [hgetStored] at hstored
      have hspelled : stored.Spelled limit := Json.spelled_lookup h hgetStored
      exact ⟨hid, hstored, limit, spelled_toJson (Json.spelled_lookup h hgetId)
        (hentry _ _ (.str _)) (hentry _ _ hspelled) hspelled (spelled_toFields h)⟩
  · cases hread

/-- Whatever the file holds, the records that are read from it can be written to it. -/
theorem sound_of_readAll {disk : Disk} {records : List RunRecord}
    (h : readAll disk = .ok records) : ∀ record ∈ records, record.Sound := by
  intro record hrecord
  unfold readAll at h
  cases htext : disk.history with
  | none =>
      rw [htext] at h
      cases h
      cases hrecord
  | some text =>
      rw [htext] at h
      dsimp only at h
      unfold ofText at h
      cases hcontent : Json.read text with
      | error failure =>
          rw [hcontent] at h
          dsimp only at h
          split_ifs at h
          cases h
          cases hrecord
      | ok content =>
          rw [hcontent] at h
          obtain ⟨fields, hfields, hread⟩ := exists_of_mem_mapM h hrecord
          obtain ⟨hmem, hset⟩ := List.mem_filter.mp hfields
          obtain ⟨item, hitem, hitemFields⟩ := List.mem_filterMap.mp hmem
          have hspelled := (Json.spelled_of_read hcontent).mem_items hitem
          cases item with
          | obj entries =>
              obtain rfl := Option.some.inj hitemFields
              exact sound_ofFields hspelled hset hread
          | _ => cases hitemFields

/-! ### Operations on a disk that works -/

section Working

variable (patience : Patience) {disk : Disk} {records : List RunRecord}

/-- The fault of an image that cannot be written. -/
def writeFault (patience : Patience) : Failure :=
  .fault (retryFault patience.policy "_write_artifact" (Failure.fileAccess.asCause false))

theorem persist_of_works (h : disk.Works) (records : List RunRecord) :
    ∃ tried, persist patience records disk =
      ⟨.ok (), [], { disk with history := some (toText records), tried := tried }⟩ :=
  ⟨_, disk.write_of_works patience "_persist" writeOperations _ h⟩

/-- Storing an image writes it and puts its record before the others. -/
theorem append_of_admitted (hworks : disk.Works) (hreads : readAll disk = .ok records)
    {stamp : Stamp} {filename : Option String}
    (hname : Disk.admitsName (storedName stamp (givenName filename)) = true) (content : Bytes)
    (metadata : Fields) :
    ∃ tried, append patience stamp content filename metadata disk =
      ⟨.ok (recordOf stamp filename metadata), [],
        { disk with
          history := some (toText (recordOf stamp filename metadata :: records))
          artifacts := disk.artifacts.put (storedName stamp (givenName filename)) content
          tried := tried }⟩ := by
  have hwrite : writeArtifact patience (storedName stamp (givenName filename)) content disk =
      ⟨.ok (), [], { disk with
        artifacts := disk.artifacts.put (storedName stamp (givenName filename)) content
        tried := disk.tried + artifactOperations }⟩ := by
    unfold writeArtifact
    rw [hname, disk.write_of_works patience "_write_artifact" artifactOperations _ hworks]
  unfold append
  dsimp only
  rw [hwrite]
  generalize hnext : ({ disk with
    artifacts := disk.artifacts.put (storedName stamp (givenName filename)) content
    tried := disk.tried + artifactOperations } : Disk) = next
  have hstays : next.Works ∧ readAll next = .ok records := by
    subst hnext
    exact ⟨hworks, hreads⟩
  obtain ⟨tried, hpersist⟩ :=
    persist_of_works patience hstays.1 (recordOf stamp filename metadata :: records)
  refine ⟨tried, ?_⟩
  unfold Stored.andThen Stored.pure
  dsimp only
  rw [hstays.2]
  dsimp only
  rw [hpersist, ← hnext]
  rfl

/-- An image whose name is too long is not stored, and nothing else changes. -/
theorem append_of_not_admitted {stamp : Stamp} {filename : Option String}
    (hname : Disk.admitsName (storedName stamp (givenName filename)) = false) (content : Bytes)
    (metadata : Fields) (disk : Disk) :
    (append patience stamp content filename metadata disk).answer = .error (writeFault patience) ∧
      ∃ tried, (append patience stamp content filename metadata disk).disk =
        { disk with tried := tried } := by
  have hwrite := disk.write_of_impossible patience "_write_artifact" artifactOperations fun disk =>
    { disk with artifacts := disk.artifacts.put (storedName stamp (givenName filename)) content }
  unfold append writeArtifact
  dsimp only
  rw [hname]
  unfold Stored.andThen
  rw [hwrite.1]
  exact ⟨rfl, hwrite.2⟩

variable {id : String}

/-- Removing a record takes it out of the file and its image out of the directory. -/
theorem delete_of_find (hworks : disk.Works) (hreads : readAll disk = .ok records)
    {record : RunRecord} (hfind : records.find? (fun record => record.id = .str id) = some record)
    {name : String} (hstored : record.storedFilename = .str name)
    (hfile : fileOf disk.site name = some (.artifact name)) :
    ∃ tried, delete patience id disk =
      ⟨.ok record, [],
        { disk with
          history := some (toText (records.filter fun record => record.id ≠ .str id))
          artifacts := disk.artifacts.remove name
          tried := tried }⟩ := by
  obtain ⟨tried, hpersist⟩ :=
    persist_of_works patience hworks (records.filter fun record => record.id ≠ .str id)
  generalize hnext : ({ disk with
    history := some (toText (records.filter fun record => record.id ≠ .str id))
    tried := tried } : Disk) = next at hpersist
  have hstays : next.Works := by
    subst hnext
    exact hworks
  have hleads : fileOf next.site name = some (.artifact name) := by
    subst hnext
    exact hfile
  have hunlink : unlink record.storedFilename next =
      (.ok (), removeFile (.artifact name) { next with tried := next.tried + 1 }) := by
    unfold unlink
    rw [hstored]
    dsimp only
    rw [hleads]
    dsimp only
    rw [Disk.attempt_of_works 1 hstays]
    rfl
  refine ⟨tried + 1, ?_⟩
  unfold delete Stored.andThen Stored.pure
  dsimp only
  rw [hreads]
  dsimp only
  rw [hfind]
  dsimp only
  rw [hpersist]
  dsimp only
  rw [hunlink, ← hnext]
  rfl

theorem delete_of_absent (hreads : readAll disk = .ok records)
    (hfind : records.find? (fun record => record.id = .str id) = none) :
    delete patience id disk = .pure (.error (notFound id)) disk := by
  unfold delete Stored.andThen Stored.pure
  dsimp only
  rw [hreads]
  dsimp only
  rw [hfind]
  rfl

end Working

/-! ### The ledger -/

/-- An operation on the store. -/
inductive Operation where
  | append (stamp : Stamp) (content : Bytes) (filename : Option String) (metadata : Fields)
  | delete (id : String)
  | get (id : String)
  | readAll
  | artifact (name : Option String)

/-- An entry of the ledger: the record that storing an image answered, and the bytes that were
given. -/
structure Saved where
  record : RunRecord
  content : Bytes

/-- The stored name of an entry. -/
def Saved.name (saved : Saved) : String := saved.record.storedFilename.text?.getD ""

/-- The image of an entry, under its stored name. -/
def Saved.image (saved : Saved) : String × Bytes := (saved.name, saved.content)

namespace Operation

/-- The disk that an operation leaves. -/
def after (patience : Patience) (disk : Disk) : Operation → Disk
  | .append stamp content filename metadata =>
      (HistoryStore.append patience stamp content filename metadata disk).disk
  | .delete id => (HistoryStore.delete patience id disk).disk
  | .get _ | .readAll | .artifact _ => disk

/-- The ledger after an operation: the record that storing answers is entered on top, and the
record that a removal answers is taken out. -/
def entered (patience : Patience) (disk : Disk) (ledger : List Saved) : Operation → List Saved
  | .append stamp content filename metadata =>
      match (HistoryStore.append patience stamp content filename metadata disk).answer with
      | .ok record => ⟨record, content⟩ :: ledger
      | .error _ => ledger
  | .delete id =>
      match (HistoryStore.delete patience id disk).answer with
      | .ok record => ledger.filter fun saved => saved.record ≠ record
      | .error _ => ledger
  | .get _ | .readAll | .artifact _ => ledger

/-- The draws of an operation. -/
def stamp? : Operation → Option Stamp
  | .append stamp _ _ _ => some stamp
  | .delete _ | .get _ | .readAll | .artifact _ => none

/-- The ids of an image look drawn, and its metadata is an object that a text can spell. -/
def Admissible : Operation → Prop
  | .append stamp _ _ metadata => stamp.Drawn ∧ ∃ limit, (Json.obj metadata).Spelled limit
  | .delete _ | .get _ | .readAll | .artifact _ => True

end Operation

/-- The disk and the ledger after operations, one after another. -/
def run (patience : Patience) : List Operation → Disk → List Saved → Disk × List Saved
  | [], disk, ledger => (disk, ledger)
  | operation :: operations, disk, ledger =>
      run patience operations (operation.after patience disk)
        (operation.entered patience disk ledger)

/-- No two draws agree in their record ids or in the random parts of their names. -/
structure Distinct (stamps : List Stamp) : Prop where
  records : (stamps.map Stamp.recordId).Nodup
  names : (stamps.map fun stamp => shortId stamp.nameId).Nodup

/-- The entry is of an image that was stored with one of these draws. -/
def Saved.StampedBy (stamps : List Stamp) (saved : Saved) : Prop :=
  ∃ stamp ∈ stamps, ∃ filename metadata limit, stamp.Drawn ∧
    (Json.obj metadata).Spelled limit ∧ saved.record = recordOf stamp filename metadata

/-- The file holds the records of the ledger, the directory its images, and each entry comes from
a draw of its own. -/
structure InStep (stamps : List Stamp) (disk : Disk) (ledger : List Saved) : Prop where
  works : disk.Works
  reads : readAll disk = .ok (ledger.map Saved.record)
  images : disk.artifacts = (ledger.map Saved.image).reverse
  stamped : ∀ saved ∈ ledger, saved.StampedBy stamps
  ids : (ledger.map fun saved => saved.record.id).Nodup
  names : (ledger.map Saved.name).Nodup

namespace Saved.StampedBy

variable {stamps : List Stamp} {saved : Saved}

theorem mono (h : saved.StampedBy stamps) {more : List Stamp} (hmore : stamps ⊆ more) :
    saved.StampedBy more := by
  obtain ⟨stamp, hmem, rest⟩ := h
  exact ⟨stamp, hmore hmem, rest⟩

theorem sound (h : saved.StampedBy stamps) : saved.record.Sound := by
  obtain ⟨stamp, -, filename, metadata, limit, hdrawn, hspelled, hrecord⟩ := h
  rw [hrecord]
  exact sound_recordOf hdrawn filename hspelled

theorem stored_eq (h : saved.StampedBy stamps) : saved.record.storedFilename = .str saved.name := by
  obtain ⟨stamp, -, filename, metadata, limit, -, -, hrecord⟩ := h
  unfold Saved.name
  rw [hrecord]
  rfl

/-- The name of an entry is a stored name. -/
theorem exists_name_eq (h : saved.StampedBy stamps) :
    ∃ stamp name, stamp.Drawn ∧ saved.name = storedName stamp name := by
  obtain ⟨stamp, -, filename, metadata, limit, hdrawn, -, hrecord⟩ := h
  refine ⟨stamp, givenName filename, hdrawn, ?_⟩
  unfold Saved.name
  rw [hrecord]
  rfl

theorem fileOf_name (h : saved.StampedBy stamps) (site : Site) :
    fileOf site saved.name = some (.artifact saved.name) := by
  obtain ⟨stamp, name, hdrawn, hname⟩ := h.exists_name_eq
  rw [hname]
  exact fileOf_storedName site hdrawn name

theorem checkStored_name (h : saved.StampedBy stamps) :
    Path.checkStored (some saved.name) = .ok saved.name := by
  obtain ⟨stamp, name, hdrawn, hname⟩ := h.exists_name_eq
  rw [hname]
  exact checkStored_storedName hdrawn name

end Saved.StampedBy

namespace InStep

variable {stamps : List Stamp} {disk : Disk} {ledger : List Saved}

theorem mono (h : InStep stamps disk ledger) {more : List Stamp} (hmore : stamps ⊆ more) :
    InStep more disk ledger where
  works := h.works
  reads := h.reads
  images := h.images
  stamped saved hsaved := (h.stamped saved hsaved).mono hmore
  ids := h.ids
  names := h.names

/-- The count of operations on the disk is no part of the store. -/
theorem tried (h : InStep stamps disk ledger) (tried : Nat) :
    InStep stamps { disk with tried := tried } ledger :=
  ⟨h.works, h.reads, h.images, h.stamped, h.ids, h.names⟩

theorem sound (h : InStep stamps disk ledger) :
    ∀ record ∈ ledger.map Saved.record, record.Sound := by
  intro record hrecord
  obtain ⟨saved, hsaved, rfl⟩ := List.mem_map.mp hrecord
  exact (h.stamped saved hsaved).sound

/-- A new draw has an id that no record has. -/
theorem recordId_fresh (h : InStep stamps disk ledger) {stamp : Stamp}
    (hdistinct : Distinct (stamps ++ [stamp])) :
    ∀ saved ∈ ledger, saved.record.id ≠ .str stamp.recordId := by
  intro saved hsaved heq
  obtain ⟨other, hother, filename, metadata, limit, -, -, hrecord⟩ := h.stamped saved hsaved
  have hid : other.recordId = stamp.recordId := by
    rw [hrecord] at heq
    exact Json.str.inj heq
  have hnodup := hdistinct.records
  rw [List.map_append] at hnodup
  exact (List.nodup_append.mp hnodup).2.2 _ (List.mem_map_of_mem hother) _
    (List.mem_map_of_mem (List.mem_singleton_self stamp)) hid

/-- A new draw makes a name that no image has. -/
theorem name_fresh (h : InStep stamps disk ledger) {stamp : Stamp}
    (hdistinct : Distinct (stamps ++ [stamp])) (name : String) :
    storedName stamp name ∉ ledger.map Saved.name := by
  intro hmem
  obtain ⟨saved, hsaved, hname⟩ := List.mem_map.mp hmem
  obtain ⟨other, hother, filename, metadata, limit, -, -, hrecord⟩ := h.stamped saved hsaved
  have hsame : storedName other (givenName filename) = storedName stamp name := by
    rw [← hname]
    unfold Saved.name
    rw [hrecord]
    rfl
  have hnodup := hdistinct.names
  rw [List.map_append] at hnodup
  exact (List.nodup_append.mp hnodup).2.2 _ (List.mem_map_of_mem hother) _
    (List.mem_map_of_mem (List.mem_singleton_self stamp)) (shortId_eq_of_storedName_eq hsame)

theorem keys_artifacts (h : InStep stamps disk ledger) :
    disk.artifacts.keys = (ledger.map Saved.name).reverse := by
  unfold Entries.keys
  rw [h.images, List.map_reverse, List.map_map]
  rfl

theorem nodup_keys_artifacts (h : InStep stamps disk ledger) : disk.artifacts.keys.Nodup := by
  rw [h.keys_artifacts, List.nodup_reverse]
  exact h.names

/-- The directory holds exactly the images of the ledger. -/
theorem artifact_iff (h : InStep stamps disk ledger) {name : String} {content : Bytes} :
    disk.artifact? name = some content ↔
      ∃ saved ∈ ledger, saved.record.storedFilename = .str name ∧ saved.content = content := by
  have hmem : disk.artifact? name = some content ↔ (name, content) ∈ disk.artifacts :=
    ⟨Entries.mem_of_lookup, Entries.lookup_of_mem h.nodup_keys_artifacts⟩
  rw [hmem, h.images, List.mem_reverse, List.mem_map]
  constructor
  · rintro ⟨saved, hsaved, himage⟩
    obtain ⟨rfl, rfl⟩ := Prod.mk.inj himage
    exact ⟨saved, hsaved, (h.stamped saved hsaved).stored_eq, rfl⟩
  · rintro ⟨saved, hsaved, hstored, rfl⟩
    rw [(h.stamped saved hsaved).stored_eq] at hstored
    obtain rfl := Json.str.inj hstored
    exact ⟨saved, hsaved, rfl⟩

/-! ### Steps -/

variable (patience : Patience)

/-- Storing an image keeps file, directory and ledger in step. -/
theorem append (h : InStep stamps disk ledger) {stamp : Stamp} (hdrawn : stamp.Drawn)
    (content : Bytes) (filename : Option String) {metadata : Fields} {limit : Nat}
    (hspelled : (Json.obj metadata).Spelled limit) (hdistinct : Distinct (stamps ++ [stamp])) :
    InStep (stamps ++ [stamp])
      ((Operation.append stamp content filename metadata).after patience disk)
      ((Operation.append stamp content filename metadata).entered patience disk ledger) := by
  have hmore : stamps ⊆ stamps ++ [stamp] := List.subset_append_left _ _
  unfold Operation.after Operation.entered
  dsimp only
  by_cases hname : Disk.admitsName (storedName stamp (givenName filename)) = true
  · obtain ⟨tried, happend⟩ :=
      append_of_admitted patience h.works h.reads hname content metadata
    have hfresh := h.name_fresh hdistinct (givenName filename)
    have hstamped : (Saved.mk (recordOf stamp filename metadata) content).StampedBy
        (stamps ++ [stamp]) :=
      ⟨stamp, List.mem_append_right _ (List.mem_singleton_self stamp), filename, metadata, limit,
        hdrawn, hspelled, rfl⟩
    have hall : ∀ saved ∈ Saved.mk (recordOf stamp filename metadata) content :: ledger,
        saved.StampedBy (stamps ++ [stamp]) := by
      intro saved hsaved
      obtain rfl | hsaved := List.mem_cons.mp hsaved
      · exact hstamped
      · exact (h.stamped saved hsaved).mono hmore
    rw [happend]
    refine ⟨h.works, readAll_of_toText ?_ rfl, ?_, hall, ?_, ?_⟩
    · intro record hrecord
      obtain ⟨saved, hsaved, rfl⟩ := List.mem_map.mp hrecord
      exact (hall saved hsaved).sound
    · have hkeys : storedName stamp (givenName filename) ∉ disk.artifacts.keys := by
        rwa [h.keys_artifacts, List.mem_reverse]
      dsimp only
      rw [Entries.put_of_not_mem hkeys, h.images, List.map_cons, List.reverse_cons]
      rfl
    · refine List.nodup_cons.mpr ⟨?_, h.ids⟩
      intro hid
      obtain ⟨saved, hsaved, heq⟩ := List.mem_map.mp hid
      exact h.recordId_fresh hdistinct saved hsaved heq
    · exact List.nodup_cons.mpr ⟨hfresh, h.names⟩
  · obtain ⟨hanswer, tried, hdisk⟩ :=
      append_of_not_admitted patience (by simpa using hname) content metadata disk
    rw [hanswer, hdisk]
    exact (h.tried tried).mono hmore

variable {id : String}

theorem find_eq_some_iff (h : InStep stamps disk ledger) {record : RunRecord} :
    (ledger.map Saved.record).find? (fun record => record.id = .str id) = some record ↔
      record ∈ ledger.map Saved.record ∧ record.id = .str id := by
  constructor
  · intro hfind
    exact ⟨List.mem_of_find?_eq_some hfind, by simpa using List.find?_some hfind⟩
  · rintro ⟨hmem, hid⟩
    have hsome :
        ((ledger.map Saved.record).find? fun record => record.id = .str id).isSome = true :=
      List.find?_isSome.mpr ⟨record, hmem, by simpa using hid⟩
    obtain ⟨found, hfound⟩ := Option.isSome_iff_exists.mp hsome
    have hfoundId : found.id = .str id := by simpa using List.find?_some hfound
    have hids : ((ledger.map Saved.record).map RunRecord.id).Nodup := by
      rw [List.map_map]
      exact h.ids
    rw [hfound, List.inj_on_of_nodup_map hids (List.mem_of_find?_eq_some hfound) hmem
      (hfoundId.trans hid.symm)]

/-- Removing an entry of the ledger takes its record out of the file and its image out of the
directory. -/
theorem delete_of_mem (h : InStep stamps disk ledger) {saved : Saved} (hsaved : saved ∈ ledger)
    (hid : saved.record.id = .str id) :
    (HistoryStore.delete patience id disk).answer = .ok saved.record ∧
      InStep stamps (HistoryStore.delete patience id disk).disk
        (ledger.filter fun other => other.record ≠ saved.record) := by
  have hstamped := h.stamped saved hsaved
  obtain ⟨tried, hdelete⟩ := delete_of_find patience h.works h.reads
    (h.find_eq_some_iff.mpr ⟨List.mem_map_of_mem hsaved, hid⟩) hstamped.stored_eq
    (hstamped.fileOf_name disk.site)
  have hsame : ∀ other ∈ ledger, other.record = saved.record ↔ other.record.id = .str id := by
    intro other hother
    refine ⟨fun heq => heq ▸ hid, fun heq => ?_⟩
    rw [List.inj_on_of_nodup_map h.ids hother hsaved (heq.trans hid.symm)]
  have hname : ∀ other ∈ ledger, other.record = saved.record ↔ other.name = saved.name := by
    intro other hother
    refine ⟨fun heq => congrArg (fun record => record.storedFilename.text?.getD "") heq,
      fun heq => ?_⟩
    rw [List.inj_on_of_nodup_map h.names hother hsaved heq]
  have hsublist : (ledger.filter fun other => other.record ≠ saved.record).Sublist ledger :=
    List.filter_sublist
  have hrecords : ((ledger.map Saved.record).filter fun record => record.id ≠ .str id) =
      (ledger.filter fun other => other.record ≠ saved.record).map Saved.record := by
    rw [List.filter_map]
    congr 1
    refine List.filter_congr fun other hother => ?_
    simp [hsame other hother]
  have himages : disk.artifacts.remove saved.name =
      ((ledger.filter fun other => other.record ≠ saved.record).map Saved.image).reverse := by
    unfold Entries.remove
    rw [h.images, List.filter_reverse, List.filter_map]
    congr 2
    refine List.filter_congr fun other hother => ?_
    have himage : (other.image).1 = other.name := rfl
    simp [hname other hother, himage]
  rw [hdelete]
  refine ⟨rfl, h.works, ?_, himages, ?_, h.ids.sublist (hsublist.map _),
    h.names.sublist (hsublist.map _)⟩
  · rw [hrecords]
    refine readAll_of_toText ?_ rfl
    intro record hrecord
    exact h.sound record ((hsublist.map _).subset hrecord)
  · intro other hother
    exact h.stamped other (hsublist.subset hother)

theorem delete_of_not_mem (h : InStep stamps disk ledger)
    (habsent : ∀ saved ∈ ledger, saved.record.id ≠ .str id) :
    HistoryStore.delete patience id disk = .pure (.error (notFound id)) disk := by
  refine delete_of_absent patience h.reads (List.find?_eq_none.mpr ?_)
  intro record hrecord
  obtain ⟨saved, hsaved, rfl⟩ := List.mem_map.mp hrecord
  simpa using habsent saved hsaved

/-- An id has an entry or it has none. -/
theorem mem_or_absent (ledger : List Saved) (id : String) :
    (∃ saved ∈ ledger, saved.record.id = .str id) ∨
      ∀ saved ∈ ledger, saved.record.id ≠ .str id := by
  by_cases h : ∃ saved ∈ ledger, saved.record.id = .str id
  · exact Or.inl h
  · exact Or.inr fun saved hsaved hid => h ⟨saved, hsaved, hid⟩

/-- Every operation keeps file, directory and ledger in step. -/
theorem after (h : InStep stamps disk ledger) {operation : Operation}
    (hadmissible : operation.Admissible)
    (hdistinct : Distinct (stamps ++ operation.stamp?.toList)) :
    InStep (stamps ++ operation.stamp?.toList) (operation.after patience disk)
      (operation.entered patience disk ledger) := by
  cases operation with
  | append stamp content filename metadata =>
      obtain ⟨hdrawn, limit, hspelled⟩ := hadmissible
      exact h.append patience hdrawn content filename hspelled hdistinct
  | delete id =>
      have hmore : stamps ⊆ stamps ++ [] := List.subset_append_left _ _
      unfold Operation.after Operation.entered
      dsimp only [Operation.stamp?, Option.toList_none]
      obtain ⟨saved, hsaved, hid⟩ | habsent := mem_or_absent ledger id
      · obtain ⟨hanswer, hstep⟩ := h.delete_of_mem patience hsaved hid
        rw [hanswer]
        exact hstep.mono hmore
      · rw [h.delete_of_not_mem patience habsent]
        exact h.mono hmore
  | get id => exact h.mono (List.subset_append_left _ _)
  | readAll => exact h.mono (List.subset_append_left _ _)
  | artifact name => exact h.mono (List.subset_append_left _ _)

end InStep

/-- Every run keeps file, directory and ledger in step, if its draws are distinct. -/
theorem inStep_run (patience : Patience) (operations : List Operation)
    {stamps : List Stamp} {disk : Disk} {ledger : List Saved} (h : InStep stamps disk ledger)
    (hadmissible : ∀ operation ∈ operations, operation.Admissible)
    (hdistinct : Distinct (stamps ++ operations.filterMap Operation.stamp?)) :
    InStep (stamps ++ operations.filterMap Operation.stamp?)
      (run patience operations disk ledger).1 (run patience operations disk ledger).2 := by
  induction operations generalizing stamps disk ledger with
  | nil =>
      rw [List.filterMap_nil, List.append_nil]
      exact h
  | cons operation operations ih =>
      have hdraws : stamps ++ (operation :: operations).filterMap Operation.stamp? =
          stamps ++ operation.stamp?.toList ++ operations.filterMap Operation.stamp? := by
        rw [List.filterMap_cons, List.append_assoc]
        cases operation.stamp? <;> rfl
      rw [hdraws] at hdistinct ⊢
      have hfirst : Distinct (stamps ++ operation.stamp?.toList) := by
        obtain ⟨hrecords, hnames⟩ := hdistinct
        rw [List.map_append] at hrecords hnames
        exact ⟨hrecords.of_append_left, hnames.of_append_left⟩
      exact ih (h.after patience (hadmissible operation List.mem_cons_self) hfirst)
        (fun other hother => hadmissible other (List.mem_cons_of_mem operation hother)) hdistinct

/-! ### What the store answers -/

/-- The store keeps to the ledger: what it holds, what its operations answer and what they leave. -/
structure Faithful (patience : Patience) (disk : Disk) (ledger : List Saved) : Prop where
  reads : readAll disk = .ok (ledger.map Saved.record)
  ids : (ledger.map fun saved => saved.record.id).Nodup
  stored : (ledger.map fun saved => saved.record.storedFilename).Nodup
  files : disk.artifacts.keys.Nodup
  artifact_iff : ∀ name content, disk.artifact? name = some content ↔
    ∃ saved ∈ ledger, saved.record.storedFilename = .str name ∧ saved.content = content
  get_iff : ∀ id record, get disk id = .ok record ↔
    record ∈ ledger.map Saved.record ∧ record.id = .str id
  append_answer : ∀ stamp content filename metadata,
    (append patience stamp content filename metadata disk).answer =
      if Disk.admitsName (storedName stamp (givenName filename)) then
        .ok (recordOf stamp filename metadata)
      else .error (writeFault patience)
  delete_iff : ∀ id record, (delete patience id disk).answer = .ok record ↔
    record ∈ ledger.map Saved.record ∧ record.id = .str id
  delete_reads : ∀ id record, (delete patience id disk).answer = .ok record →
    readAll (delete patience id disk).disk =
      .ok ((ledger.map Saved.record).filter fun other => other ≠ record)
  delete_artifact : ∀ id record, (delete patience id disk).answer = .ok record →
    ∀ name, (delete patience id disk).disk.artifact? name =
      if record.storedFilename = .str name then none else disk.artifact? name
  delete_refused : ∀ id failure, (delete patience id disk).answer = .error failure →
    (delete patience id disk).disk = disk

namespace InStep

variable {stamps : List Stamp} {disk : Disk} {ledger : List Saved} (patience : Patience)

theorem stored_nodup (h : InStep stamps disk ledger) :
    (ledger.map fun saved => saved.record.storedFilename).Nodup := by
  have hnames : (ledger.map fun saved => saved.record.storedFilename) =
      (ledger.map Saved.name).map Json.str := by
    rw [List.map_map]
    exact List.map_congr_left fun saved hsaved => (h.stamped saved hsaved).stored_eq
  rw [hnames]
  exact h.names.map fun _ _ => Json.str.inj

theorem get_iff (h : InStep stamps disk ledger) {id : String} {record : RunRecord} :
    get disk id = .ok record ↔ record ∈ ledger.map Saved.record ∧ record.id = .str id := by
  rw [← h.find_eq_some_iff]
  unfold get
  rw [h.reads]
  dsimp only [bind, Except.bind]
  cases (ledger.map Saved.record).find? fun record => record.id = .str id with
  | none => simp
  | some found => simp

theorem append_answer (h : InStep stamps disk ledger) (stamp : Stamp) (content : Bytes)
    (filename : Option String) (metadata : Fields) :
    (HistoryStore.append patience stamp content filename metadata disk).answer =
      if Disk.admitsName (storedName stamp (givenName filename)) then
        .ok (recordOf stamp filename metadata)
      else .error (writeFault patience) := by
  split_ifs with hname
  · obtain ⟨tried, happend⟩ :=
      append_of_admitted patience h.works h.reads hname content metadata
    rw [happend]
  · exact (append_of_not_admitted patience (by simpa using hname) content metadata disk).1

/-- What a removal answers tells which entry of the ledger it took out. -/
theorem exists_of_delete (h : InStep stamps disk ledger) {id : String} {record : RunRecord}
    (hanswer : (HistoryStore.delete patience id disk).answer = .ok record) :
    ∃ saved ∈ ledger, saved.record = record ∧ saved.record.id = .str id := by
  obtain ⟨saved, hsaved, hid⟩ | habsent := mem_or_absent ledger id
  · rw [(h.delete_of_mem patience hsaved hid).1] at hanswer
    exact ⟨saved, hsaved, Except.ok.inj hanswer, hid⟩
  · rw [h.delete_of_not_mem patience habsent] at hanswer
    cases hanswer

theorem delete_iff (h : InStep stamps disk ledger) {id : String} {record : RunRecord} :
    (HistoryStore.delete patience id disk).answer = .ok record ↔
      record ∈ ledger.map Saved.record ∧ record.id = .str id := by
  constructor
  · intro hanswer
    obtain ⟨saved, hsaved, rfl, hid⟩ := h.exists_of_delete patience hanswer
    exact ⟨List.mem_map_of_mem hsaved, hid⟩
  · rintro ⟨hmem, hid⟩
    obtain ⟨saved, hsaved, rfl⟩ := List.mem_map.mp hmem
    exact (h.delete_of_mem patience hsaved hid).1

/-- A removal keeps every image but that of the record that it answers. -/
theorem delete_artifact (h : InStep stamps disk ledger) {id : String} {record : RunRecord}
    (hanswer : (HistoryStore.delete patience id disk).answer = .ok record) (name : String) :
    (HistoryStore.delete patience id disk).disk.artifact? name =
      if record.storedFilename = .str name then none else disk.artifact? name := by
  obtain ⟨saved, hsaved, rfl, hid⟩ := h.exists_of_delete patience hanswer
  have hstored := (h.stamped saved hsaved).stored_eq
  obtain ⟨tried, hdelete⟩ := delete_of_find patience h.works h.reads
    (h.find_eq_some_iff.mpr ⟨List.mem_map_of_mem hsaved, hid⟩) hstored
    ((h.stamped saved hsaved).fileOf_name disk.site)
  have hkey : saved.record.storedFilename = .str name ↔ name = saved.name := by
    rw [hstored, Json.str.injEq, eq_comm]
  rw [hdelete]
  simp only [hkey]
  exact Entries.lookup_remove _ _ _

theorem faithful (h : InStep stamps disk ledger) : Faithful patience disk ledger where
  reads := h.reads
  ids := h.ids
  stored := h.stored_nodup
  files := h.nodup_keys_artifacts
  artifact_iff _ _ := h.artifact_iff
  get_iff _ _ := h.get_iff
  append_answer := h.append_answer patience
  delete_iff _ _ := h.delete_iff patience
  delete_reads id record hanswer := by
    obtain ⟨saved, hsaved, rfl, hid⟩ := h.exists_of_delete patience hanswer
    rw [(h.delete_of_mem patience hsaved hid).2.reads, List.filter_map]
    rfl
  delete_artifact _ _ := h.delete_artifact patience
  delete_refused id failure hanswer := by
    obtain ⟨saved, hsaved, hid⟩ | habsent := mem_or_absent ledger id
    · rw [(h.delete_of_mem patience hsaved hid).1] at hanswer
      cases hanswer
    · rw [h.delete_of_not_mem patience habsent]
      rfl

end InStep

/-- After every run from an empty directory on which nothing fails, the store keeps to the ledger
of what was stored and not removed. -/
theorem run_faithful (patience : Patience) {disk : Disk} (hhistory : disk.history = none)
    (hartifacts : disk.artifacts = []) (hworks : disk.Works) (operations : List Operation)
    (hadmissible : ∀ operation ∈ operations, operation.Admissible)
    (hdistinct : Distinct (operations.filterMap Operation.stamp?)) :
    Faithful patience (run patience operations disk []).1 (run patience operations disk []).2 := by
  have hempty : InStep [] disk [] := by
    refine ⟨hworks, ?_, hartifacts, nofun, List.nodup_nil, List.nodup_nil⟩
    unfold readAll
    rw [hhistory]
    rfl
  exact (inStep_run patience operations hempty hadmissible hdistinct).faithful patience

/-- Two images under one name, the first of which is removed again. -/
def sampleRun : List Operation :=
  [.append ⟨"1f0c-a", "9b2d-e07144", 1700000000000, 1700000000001⟩ [137, 80] (some "../a b.png")
      [("seed", .int 7)],
    .append ⟨"1f0c-b", "77aa-0c1e25", -5, -5⟩ [] (some "../a b.png") [], .readAll, .delete "1f0c-a"]

theorem run_faithful_sampleRun :
    (∀ operation ∈ sampleRun, operation.Admissible) ∧
      Distinct (sampleRun.filterMap Operation.stamp?) ∧
      Faithful ⟨.standard, fun _ => Double.zero false⟩
        (run ⟨.standard, fun _ => Double.zero false⟩ sampleRun Disk.empty []).1
        (run ⟨.standard, fun _ => Double.zero false⟩ sampleRun Disk.empty []).2 := by
  have hadmissible : ∀ operation ∈ sampleRun, operation.Admissible := by
    intro operation hoperation
    simp only [sampleRun, List.mem_cons, List.not_mem_nil, or_false] at hoperation
    obtain rfl | rfl | rfl | rfl := hoperation
    · refine ⟨⟨by decide, by decide⟩, 0, Json.Spelled.obj _ (by decide) ?_⟩
      intro field hfield
      obtain rfl := List.mem_singleton.mp hfield
      exact Json.Spelled.int 7 (by decide)
    · exact ⟨⟨by decide, by decide⟩, 0, Json.Spelled.obj _ List.nodup_nil (List.forall_mem_nil _)⟩
    · trivial
    · trivial
  have hdistinct : Distinct (sampleRun.filterMap Operation.stamp?) :=
    ⟨by decide, by decide⟩
  exact ⟨hadmissible, hdistinct,
    run_faithful _ rfl rfl (fun _ => rfl) sampleRun hadmissible hdistinct⟩

end HistoryStore

end RenderRelay
