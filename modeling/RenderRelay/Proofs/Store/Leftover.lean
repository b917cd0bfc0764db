import RenderRelay.Proofs.Store.Atomic
import RenderRelay.Proofs.Store.Ledger

/-! # What a failure leaves of an image

An image is written before its record, so that no record is without its image.  If the record
cannot be put down, the image stays; if the image cannot be written, a part of it may stay.

* `Shelf` is a disk with the part of an image that a failed write has left under its name;
  `Shelf.write` writes an image in steps, and seen from the disk it is one write
  (`Shelf.write_eq_writeArtifact`), whatever was left.
* `append_error_cases`: storing fails because the image cannot be written, or with the image in the
  directory because the records cannot be read or written.
* `append_leaves`: the records and all other images stay as they are, and nothing stands under the
  name of the image but what stood there, a part of it or the whole of it (`Leftover`).  So a
  failure may leave something behind (`append_leaves_image`). -/

namespace RenderRelay.HistoryStore

open Number

/-! ### Writing an image in steps -/

/-- A disk, with what a write that failed has left under the name of the image. -/
structure Shelf where
  disk : Disk
  piece : Option Bytes

namespace Shelf

variable (torn : Nat → Option Bytes) (patience : Patience) (name : String) (content : Bytes)

/-- What stands under a name, if `own` is the name of the image that was to be written. -/
def image? (shelf : Shelf) (own name : String) : Option Bytes :=
  if name = own then shelf.piece.or (shelf.disk.artifact? name) else shelf.disk.artifact? name

/-- One attempt to write an image: the directories are made, then the image is written.  A name that
no file can have is refused before anything is written; a write that fails as the operation of
number `n` may leave `torn n`. -/
def writeOnce (shelf : Shelf) : Attempt Unit Unit × Shelf :=
  match shelf.disk.attempt 2 with
  | (false, disk) => (.transient (), ⟨disk, shelf.piece⟩)
  | (true, disk) =>
      let next := { disk with tried := disk.tried + 1 }
      if Disk.admitsName name then
        if disk.outage disk.tried then (.transient (), ⟨next, (torn disk.tried).or shelf.piece⟩)
        else (.value (), ⟨{ next with artifacts := next.artifacts.put name content }, none⟩)
      else (.transient (), ⟨next, shelf.piece⟩)

/-- Writes an image, again and again while that fails. -/
def write (shelf : Shelf) : Stored Unit × Option Bytes :=
  let retried := retry patience.policy patience.share (writeOnce torn name content) shelf
  (⟨match retried.outcome with
    | .value () => .ok ()
    | .failed () | .exhausted () => .error (writeFault patience),
    retried.waits, retried.state.disk⟩, retried.state.piece)

end Shelf

/-- Storing an image, with what is left of it where it could not be written. -/
def appendTorn (torn : Nat → Option Bytes) (patience : Patience) (stamp : Stamp) (content : Bytes)
    (filename : Option String) (metadata : Fields) (disk : Disk) :
    Stored RunRecord × Option Bytes :=
  let record := recordOf stamp filename metadata
  let (written, piece) :=
    Shelf.write torn patience (storedName stamp (givenName filename)) content ⟨disk, none⟩
  (written.andThen fun _ disk => (Stored.pure (readAll disk) disk).andThen fun records disk =>
    (persist patience (record :: records) disk).andThen fun _ disk => .pure (.ok record) disk,
    piece)

/-- The last of several operations fails or not when all before it have been made. -/
theorem attempt_succ (operations : Nat) (disk : Disk) :
    disk.attempt (operations + 1) = match disk.attempt operations with
      | (true, next) => (!next.outage next.tried, { next with tried := next.tried + 1 })
      | (false, next) => (false, next) := by
  induction operations generalizing disk with
  | zero =>
      unfold Disk.attempt Disk.attempt
      dsimp only
      cases disk.outage disk.tried <;> rfl
  | succ operations ih =>
      rw [Disk.attempt.eq_def (operations + 1 + 1), Disk.attempt.eq_def (operations + 1) disk]
      dsimp only
      split_ifs
      · rfl
      · exact ih { disk with tried := disk.tried + 1 }

namespace Shelf

variable (torn : Nat → Option Bytes) (patience : Patience) (name : String) (content : Bytes)

/-- Seen from the disk, an attempt in steps is an attempt of one write. -/
theorem attemptWrite_disk (shelf : Shelf) :
    Disk.attemptWrite artifactOperations (Disk.admitsName name)
        (fun disk => { disk with artifacts := disk.artifacts.put name content }) shelf.disk =
      ((writeOnce torn name content shelf).1, (writeOnce torn name content shelf).2.disk) := by
  unfold Disk.attemptWrite writeOnce artifactOperations
  rw [attempt_succ 2]
  obtain ⟨made, next⟩ := shelf.disk.attempt 2
  cases made with
  | false => rfl
  | true =>
      dsimp only
      cases next.outage next.tried <;> cases Disk.admitsName name <;> rfl

theorem write_eq_writeArtifact (shelf : Shelf) :
    (shelf.write torn patience name content).1 =
      writeArtifact patience name content shelf.disk := by
  have hretry := retryFrom_project patience.policy patience.share Shelf.disk
    (attemptWrite_disk torn name content) (patience.policy.limit - 1) 1 shelf
  unfold write writeArtifact Disk.write retry
  generalize retryFrom patience.policy patience.share (writeOnce torn name content)
    (patience.policy.limit - 1) 1 shelf = retried at hretry ⊢
  obtain ⟨outcome, waits, state⟩ := retried
  cases outcome <;> rw [hretry] <;> rfl

/-- A write that succeeds leaves no part of an image; one that fails leaves what one of its attempts
has torn off, if anything. -/
theorem write_piece (disk : Disk) :
    ((write torn patience name content ⟨disk, none⟩).1.answer = .ok () ∧
        (write torn patience name content ⟨disk, none⟩).2 = none) ∨
      (write torn patience name content ⟨disk, none⟩).1.answer = .error (writeFault patience) ∧
        ∀ bytes, (write torn patience name content ⟨disk, none⟩).2 = some bytes →
          ∃ n, torn n = some bytes := by
  have honce : ∀ shelf : Shelf, (∀ bytes, shelf.piece = some bytes → ∃ n, torn n = some bytes) →
      ((∃ value, (writeOnce torn name content shelf).1 = .value value) →
        (writeOnce torn name content shelf).2.piece = none) ∧
      ((∀ value, (writeOnce torn name content shelf).1 ≠ .value value) →
        ∀ bytes, (writeOnce torn name content shelf).2.piece = some bytes →
          ∃ n, torn n = some bytes) := by
    intro shelf hshelf
    unfold writeOnce
    obtain ⟨made, next⟩ := shelf.disk.attempt 2
    cases made with
    | false => exact ⟨nofun, fun _ => hshelf⟩
    | true =>
        dsimp only
        split_ifs
        · refine ⟨nofun, fun _ bytes hbytes => ?_⟩
          obtain htorn | ⟨-, hpiece⟩ := Option.or_eq_some_iff.mp hbytes
          · exact ⟨_, htorn⟩
          · exact hshelf bytes hpiece
        · exact ⟨fun _ => rfl, fun hno => absurd rfl (hno ())⟩
        · exact ⟨nofun, fun _ => hshelf⟩
  have hretried := retryFrom_outcome patience.policy patience.share
    (fun shelf : Shelf => ∀ bytes, shelf.piece = some bytes → ∃ n, torn n = some bytes)
    (fun shelf : Shelf => shelf.piece = none) honce (patience.policy.limit - 1) 1 ⟨disk, none⟩ nofun
  unfold write retry
  generalize retryFrom patience.policy patience.share (writeOnce torn name content)
    (patience.policy.limit - 1) 1 ⟨disk, none⟩ = retried at hretried ⊢
  obtain ⟨⟨value, hvalue⟩, hpiece⟩ | ⟨hvalue, hpiece⟩ := hretried
  · refine Or.inl ⟨?_, hpiece⟩
    dsimp only
    rw [hvalue]
  · refine Or.inr ⟨?_, hpiece⟩
    dsimp only
    cases houtcome : retried.outcome with
    | value value => exact absurd houtcome (hvalue value)
    | failed error => rfl
    | exhausted error => rfl

end Shelf

/-! ### Where storing an image fails -/

section Failing

variable (patience : Patience) (stamp : Stamp) (content : Bytes) (filename : Option String)
  (metadata : Fields) (disk : Disk)

/-- Storing in steps is storing, seen from the disk. -/
theorem appendTorn_eq_append (torn : Nat → Option Bytes) :
    (appendTorn torn patience stamp content filename metadata disk).1 =
      append patience stamp content filename metadata disk := by
  unfold appendTorn append
  dsimp only
  rw [Shelf.write_eq_writeArtifact]

variable {patience stamp content filename metadata disk}

/-- Storing fails because the image cannot be written, and then the disk is as it was; or because
the records cannot be read or written, and then the image is in the directory. -/
theorem append_error_cases {failure : Failure}
    (h : (append patience stamp content filename metadata disk).answer = .error failure) :
    ((writeArtifact patience (storedName stamp (givenName filename)) content disk).answer =
          .error failure ∧
        ∃ tried, (append patience stamp content filename metadata disk).disk =
          { disk with tried := tried }) ∨
      (failure = WorkflowStore.writeFault patience ∨ readAll disk = .error failure) ∧
        (writeArtifact patience (storedName stamp (givenName filename)) content disk).answer =
          .ok () ∧
        ∃ tried, (append patience stamp content filename metadata disk).disk =
          { disk with
            artifacts := disk.artifacts.put (storedName stamp (givenName filename)) content
            tried := tried } := by
  unfold append at h ⊢
  dsimp only at h ⊢
  obtain ⟨hwrite, before, hdisk⟩ | ⟨⟨fault, hwrite⟩, before, hdisk⟩ :=
    writeArtifact_outcome patience disk (storedName stamp (givenName filename)) content
  · rw [Stored.andThen_of_ok hwrite, hdisk] at h ⊢
    refine Or.inr ?_
    generalize hnext : ({ disk with
      artifacts := disk.artifacts.put (storedName stamp (givenName filename)) content
      tried := before } : Disk) = next at h ⊢
    have hreads : readAll next = readAll disk := by
      subst hnext
      rfl
    cases hrecords : readAll disk with
    | error cause =>
        rw [hreads, hrecords, Stored.andThen_of_error rfl] at h ⊢
        obtain rfl := Except.error.inj h
        exact ⟨Or.inr rfl, hwrite, before, hnext.symm⟩
    | ok records =>
        rw [hreads, hrecords, Stored.pure_andThen] at h ⊢
        obtain ⟨hpersist, -⟩ | ⟨⟨fault, hpersist⟩, tried, hafter⟩ :=
          persist_outcome patience next (recordOf stamp filename metadata :: records)
        · rw [Stored.andThen_of_ok hpersist] at h
          cases h
        · have hcause := (persist_exhausted patience next hpersist).1
          rw [Stored.andThen_of_error hpersist, hafter, ← hnext] at h ⊢
          obtain rfl := Except.error.inj h
          exact ⟨Or.inl hcause, hwrite, tried, rfl⟩
  · rw [Stored.andThen_of_error hwrite, hdisk] at h ⊢
    obtain rfl := Except.error.inj h
    exact Or.inl ⟨hwrite, before, rfl⟩

end Failing

/-! ### What is left -/

/-- What storing an image leaves when it has failed: the files are as they were but for the one of
the image.  That one is as it was or torn, if the image could not be written, and whole, if the
records could not be read or written. -/
structure Leftover (torn : Nat → Option Bytes) (patience : Patience) (name : String)
    (content : Bytes) (disk : Disk) (failure : Failure) (after : Shelf) : Prop where
  history : after.disk.history = disk.history
  workflows : after.disk.workflows = disk.workflows
  others : ∀ other, other ≠ name → after.image? name other = disk.artifact? other
  own : failure = writeFault patience ∧
        (after.image? name name = disk.artifact? name ∨
          ∃ n bytes, torn n = some bytes ∧ after.image? name name = some bytes) ∨
      (failure = WorkflowStore.writeFault patience ∨ readAll disk = .error failure) ∧
        after.image? name name = some content

/-- Storing an image is done in steps, and where it fails it leaves at most the image or a part of
it. -/
theorem append_leaves (torn : Nat → Option Bytes) (patience : Patience) (stamp : Stamp)
    (content : Bytes) (filename : Option String) (metadata : Fields) (disk : Disk) :
    (appendTorn torn patience stamp content filename metadata disk).1 =
        append patience stamp content filename metadata disk ∧
      ∀ failure, (append patience stamp content filename metadata disk).answer = .error failure →
        Leftover torn patience (storedName stamp (givenName filename)) content disk failure
          ⟨(append patience stamp content filename metadata disk).disk,
            (appendTorn torn patience stamp content filename metadata disk).2⟩ := by
  refine ⟨appendTorn_eq_append patience stamp content filename metadata disk torn, ?_⟩
  intro failure hfailure
  have hpiece := Shelf.write_piece torn patience (storedName stamp (givenName filename)) content
    disk
  have hsame := Shelf.write_eq_writeArtifact torn patience (storedName stamp (givenName filename))
    content ⟨disk, none⟩
  rw [hsame] at hpiece
  change _ ∧ (appendTorn torn patience stamp content filename metadata disk).2 = none ∨
    _ ∧ ∀ bytes, (appendTorn torn patience stamp content filename metadata disk).2 = some bytes →
      ∃ n, torn n = some bytes at hpiece
  generalize (appendTorn torn patience stamp content filename metadata disk).2 = piece at hpiece ⊢
  obtain ⟨hwrite, tried, hdisk⟩ | ⟨hcause, hwrite, tried, hdisk⟩ := append_error_cases hfailure
  · obtain ⟨hok, -⟩ | ⟨herror, htorn⟩ := hpiece
    · cases hok.symm.trans hwrite
    · rw [hdisk]
      refine ⟨rfl, rfl, fun other hother => if_neg hother, Or.inl ⟨?_, ?_⟩⟩
      · exact Except.error.inj (hwrite.symm.trans herror)
      · unfold Shelf.image?
        rw [if_pos rfl]
        cases piece with
        | none => exact Or.inl rfl
        | some bytes =>
            obtain ⟨n, hn⟩ := htorn bytes rfl
            exact Or.inr ⟨n, bytes, hn, rfl⟩
  · obtain ⟨-, rfl⟩ | ⟨herror, -⟩ := hpiece
    · rw [hdisk]
      refine ⟨rfl, rfl, fun other hother => ?_, Or.inr ⟨hcause, ?_⟩⟩
      · unfold Shelf.image?
        rw [if_neg hother]
        exact Entries.lookup_put_of_ne _ _ hother
      · unfold Shelf.image?
        rw [if_pos rfl]
        exact Entries.lookup_put_self _ _ _
    · cases herror.symm.trans hwrite

/-- The draw of an image, and a disk on which the first three operations work and no other: an
image can be written there, and no record. -/
def someDraw : Stamp := ⟨"1f0c-a", "9b2d-e07144", 1700000000000, 1700000000000⟩

def jammed : Disk := { Disk.empty with outage := fun n => 3 ≤ n }

theorem append_jammed : (append steadyPatience someDraw [137, 80] none [] jammed).answer =
    .error (WorkflowStore.writeFault steadyPatience) := by
  decide +kernel

theorem append_leaves_jammed :
    Leftover (fun _ => some [137]) steadyPatience (storedName someDraw (givenName none)) [137, 80]
      jammed (WorkflowStore.writeFault steadyPatience)
      ⟨(append steadyPatience someDraw [137, 80] none [] jammed).disk,
        (appendTorn (fun _ => some [137]) steadyPatience someDraw [137, 80] none [] jammed).2⟩ :=
  (append_leaves (fun _ => some [137]) steadyPatience someDraw [137, 80] none [] jammed).2 _
    append_jammed

/-! ### Images without records -/

/-- Storing an image leaves nothing behind when it has failed. -/
def LeavesNothing (disk : Disk) (done : Stored RunRecord) : Prop :=
  ∀ failure, done.answer = .error failure → done.disk.history = disk.history ∧
    ∀ name, done.disk.artifact? name = disk.artifact? name

/-- Where the records cannot be read, an image that can be written stays. -/
theorem append_of_unreadable {disk : Disk} (hworks : disk.Works) {failure : Failure}
    (hreads : readAll disk = .error failure) (patience : Patience) {stamp : Stamp}
    (content : Bytes) {filename : Option String}
    (hname : Disk.admitsName (storedName stamp (givenName filename)) = true) (metadata : Fields) :
    (append patience stamp content filename metadata disk).answer = .error failure ∧
      (append patience stamp content filename metadata disk).disk.artifact?
        (storedName stamp (givenName filename)) = some content := by
  unfold append writeArtifact
  dsimp only
  rw [hname, disk.write_of_works patience "_write_artifact" artifactOperations _ hworks,
    Stored.andThen_of_ok rfl]
  change (Stored.andThen ⟨readAll disk, [], _⟩ _).answer = _ ∧
    (Stored.andThen ⟨readAll disk, [], _⟩ _).disk.artifact? _ = _
  rw [hreads, Stored.andThen_of_error rfl]
  exact ⟨rfl, Entries.lookup_put_self _ _ _⟩

theorem readAll_of_long_integer {disk : Disk} {n : Nat} (hlong : maxDigits < digitCount n)
    (hdisk : disk.history = some (String.ofList (natDigits n))) :
    readAll disk = .error .unreadable := by
  unfold readAll ofText
  rw [hdisk]
  dsimp only
  rw [Json.read_of_long_integer hlong]
  rfl

/-- A disk whose records are an integer of too many digits. -/
def unreadable : Disk :=
  { Disk.empty with history := some (String.ofList (natDigits (10 ^ maxDigits))) }

theorem readAll_unreadable : readAll unreadable = .error .unreadable := by
  have hlong : maxDigits < digitCount (10 ^ maxDigits) := by
    have hpos : 0 < maxDigits := by decide
    rw [← Nat.not_le, digitCount_le_iff hpos]
    exact Nat.lt_irrefl _
  exact readAll_of_long_integer hlong rfl

/-- Whether the records cannot be written or cannot be read, the image is left behind. -/
theorem append_leaves_image :
    ¬ LeavesNothing jammed (append steadyPatience someDraw [137, 80] none [] jammed) ∧
      ¬ LeavesNothing unreadable (append steadyPatience someDraw [137, 80] none [] unreadable) := by
  have hleft : (append steadyPatience someDraw [137, 80] none [] jammed).disk.artifact?
      (storedName someDraw (givenName none)) = some [137, 80] := by decide +kernel
  have hname : Disk.admitsName (storedName someDraw (givenName none)) = true := by decide
  have hworks : unreadable.Works := fun _ => rfl
  obtain ⟨hanswer, hstays⟩ :=
    append_of_unreadable hworks readAll_unreadable steadyPatience [137, 80] hname []
  constructor
  · intro h
    have hsame := (h _ append_jammed).2 (storedName someDraw (givenName none))
    rw [hleft] at hsame
    cases hsame
  · intro h
    have hsame := (h _ hanswer).2 (storedName someDraw (givenName none))
    rw [hstays] at hsame
    cases hsame

end RenderRelay.HistoryStore
