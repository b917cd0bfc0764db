import RenderRelay.Json.Reader
import RenderRelay.Path.Stored
import RenderRelay.Store.Disk
import RenderRelay.Store.Record
import RenderRelay.Time.Calendar

/-! # The history store

Finished runs stand in one JSON file, the newest first, and their images in a directory
beside it.

* `append` stores an image under a name made of the time, a random part and the safe form of
  its own name, and then puts its record before the others.
* `delete` takes the records of an id out of the file, and then removes the file that the stored
  name of the first of them leads to.
* `artifact` answers the image of a name that a client may ask for. -/

namespace RenderRelay.HistoryStore

open Text

/-- The records that the store's file holds. -/
def entriesOf (content : Json) : List Fields :=
  (content.items.filterMap Json.fields?).filter fun fields =>
    (fields.get "id").isTruthy && (fields.get "stored_filename").isTruthy

/-- The records of the text of the store's file. -/
def ofText (text : String) : Except Failure (List RunRecord) :=
  match Json.read text with
  | .ok content => (entriesOf content).mapM RunRecord.ofFields
  | .error e => if e.cause = .integerTooLong then .error .unreadable else .ok []

/-- The text of the store's file. -/
def toText (records : List RunRecord) : String :=
  (Json.arr (records.map RunRecord.toJson)).write .indented

/-- All records, the newest first. -/
def readAll (disk : Disk) : Except Failure (List RunRecord) :=
  match disk.history with
  | some text => ofText text
  | none => .ok []

/-- The fault of an id that no record has. -/
def notFound (id : String) : Failure := .fault (.historyItemNotFound (.str id))

/-- The first record with this id. -/
def get (disk : Disk) (id : String) : Except Failure RunRecord := do
  match (← readAll disk).find? fun record => record.id = .str id with
  | some record => .ok record
  | none => .error (notFound id)

/-- The low-level operations of one attempt to write the file: make two directories, write the
text beside the file, put it in the file's place. -/
def writeOperations : Nat := 4

/-- The low-level operations of one attempt to write an image: make two directories, write. -/
def artifactOperations : Nat := 3

/-- Writes the store's file. -/
def persist (patience : Patience) (records : List RunRecord) (disk : Disk) : Stored Unit :=
  disk.write patience "_persist" writeOperations true fun disk =>
    { disk with history := some (toText records) }

/-- Writes an image. -/
def writeArtifact (patience : Patience) (name : String) (content : Bytes) (disk : Disk) :
    Stored Unit :=
  disk.write patience "_write_artifact" artifactOperations (Disk.admitsName name) fun disk =>
    { disk with artifacts := disk.artifacts.put name content }

/-- The clock, in milliseconds, when an image gets its name and when it gets its record. -/
structure Readings where
  named : Int
  recorded : Int
deriving DecidableEq, Repr

/-- A clock that stands still while an image is stored. -/
instance : Coe Int Readings := ⟨fun millis => ⟨millis, millis⟩⟩

/-- What is new about an image that is stored: two random ids, and the clock, which is read
twice. -/
structure Stamp where
  recordId : String
  nameId : String
  clock : Readings
deriving DecidableEq, Repr

/-- The first eight hexadecimal digits of an id. -/
def shortId (id : String) : String := take (without (· = '-') id) 8

/-- The name under which an image is stored. -/
def storedName (stamp : Stamp) (name : String) : String :=
  Json.intText stamp.clock.named ++ "-" ++ shortId stamp.nameId ++ "-" ++ Path.safeName (some name)

/-- The name of an image without its directories. -/
def givenName (filename : Option String) : String := Path.posixName (filename.getD "")

/-- The name of an image that has none. -/
def defaultName : String := "output.png"

/-- The record of an image that is stored. -/
def recordOf (stamp : Stamp) (filename : Option String) (metadata : Fields) : RunRecord :=
  let name := givenName filename
  { id := .str stamp.recordId
    createdAt := .str ((Moment.ofMillis stamp.clock.recorded).iso ++ "Z")
    givenFilename := .str (if name.isEmpty then defaultName else name)
    storedFilename := .str (storedName stamp name)
    metadata := RunMetadata.ofFields metadata }

/-- Stores an image and answers its record. -/
def append (patience : Patience) (stamp : Stamp) (content : Bytes) (filename : Option String)
    (metadata : Fields) (disk : Disk) : Stored RunRecord :=
  let record := recordOf stamp filename metadata
  (writeArtifact patience (storedName stamp (givenName filename)) content disk).andThen
    fun _ disk => (Stored.pure (readAll disk) disk).andThen fun records disk =>
      (persist patience (record :: records) disk).andThen fun _ disk => .pure (.ok record) disk

/-! ### Deleting -/

/-- A file: one of the two stores, an image, or any other file of the machine. -/
inductive DiskFile where
  | workflows
  | history
  | artifact (name : String)
  | other (place : Path.Place)
deriving DecidableEq, Repr

/-- The file at a place. -/
def fileAt (site : Site) (place : Path.Place) : DiskFile :=
  if place = site.location ++ ["workflows.json"] then .workflows
  else if place = site.location ++ ["history.json"] then .history
  else if place.dropLast = site.outputs then .artifact (place.getLast?.getD "")
  else .other place

/-- The file that a stored name leads to from the directory of images, or from the root. -/
def fileOf (site : Site) (name : String) : Option DiskFile :=
  (Path.place? site.hasFolder (Path.join site.outputsPath name)).map (fileAt site)

/-- The disk without a file. -/
def removeFile (file : DiskFile) (disk : Disk) : Disk :=
  match file with
  | .workflows => { disk with workflows := none }
  | .history => { disk with history := none }
  | .artifact name => { disk with artifacts := disk.artifacts.remove name }
  | .other place => { disk with others := disk.others.filter (· ≠ place) }

/-- Removes the file that a stored name leads to; that this fails is passed over. -/
def unlink (stored : Json) (disk : Disk) : Except Failure Unit × Disk :=
  match stored with
  | .str name =>
      match fileOf disk.site name with
      | some file =>
          let (done, disk) := disk.attempt 1
          (.ok (), if done then removeFile file disk else disk)
      | none => (.ok (), disk)
  | _ => (.error .wrongKind, disk)

/-- Deletes the records of an id and the file of the first, and answers that record. -/
def delete (patience : Patience) (id : String) (disk : Disk) : Stored RunRecord :=
  (Stored.pure (readAll disk) disk).andThen fun records disk =>
    match records.find? fun record => record.id = .str id with
    | none => .pure (.error (notFound id)) disk
    | some record =>
        (persist patience (records.filter fun record => record.id ≠ .str id) disk).andThen
          fun _ disk =>
            let (answer, disk) := unlink record.storedFilename disk
            .pure (answer.map fun _ => record) disk

/-- The image of a name that a client may ask for. -/
def artifact (disk : Disk) (name : Option String) : Except Failure (String × Bytes) :=
  match Path.checkStored name with
  | .error e => .error (.fault e.fault)
  | .ok name =>
      if !Disk.admitsName name then .error .fileAccess
      else match disk.artifact? name with
      | some content => .ok (name, content)
      | none =>
          .error (.fault (.historyItemNotFound (.str name)
            (some ("Stored file not found: " ++ name))))

end RenderRelay.HistoryStore
