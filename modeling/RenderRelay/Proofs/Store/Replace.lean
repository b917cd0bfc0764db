import RenderRelay.Proofs.Store.Disk

/-! # Replacing a file step by step

A text file of the data directory is replaced in low-level steps: directories are made, the text is
written into a file beside it, and that file takes its place.  Each step may fail, and a step that
fails while it writes may leave any text, or none, beside the file.

* `Folder` is a disk with the file beside; `Folder.steps` makes steps up to the first that fails.
* `Folder.replace` retries such steps as a policy says.
* `Folder.replace_eq_write`: seen from the disk, the steps come to one write, whatever was left
  beside the file; `Disk.length_waits_write`: a write fails after as many attempts as the policy
  has. -/

namespace RenderRelay

/-! ### A write that fails -/

namespace Disk

theorem attemptWrite_ne_final (operations : Nat) (possible : Bool) (effect : Disk → Disk)
    (disk : Disk) : (attemptWrite operations possible effect disk).1 ≠ .final () := by
  unfold attemptWrite
  obtain ⟨worked, next⟩ := disk.attempt operations
  cases worked <;> cases possible <;> exact nofun

/-- A write that fails has been tried as often as the policy allows. -/
theorem length_waits_write (disk : Disk) (patience : Patience) (operation : String)
    (operations : Nat) (possible : Bool) (effect : Disk → Disk) {failure : Failure}
    (h : (disk.write patience operation operations possible effect).answer = .error failure) :
    (disk.write patience operation operations possible effect).waits.length + 1 =
      patience.policy.limit := by
  have hlimit : patience.policy.limit - 1 + 1 = patience.policy.limit :=
    Nat.sub_add_cancel (Nat.le_max_left _ _)
  unfold write retry at h ⊢
  dsimp only at h ⊢
  cases houtcome : (retryFrom patience.policy patience.share
      (attemptWrite operations possible effect) (patience.policy.limit - 1) 1 disk).outcome with
  | value value =>
      rw [houtcome] at h
      cases h
  | failed error =>
      exact absurd houtcome (outcome_ne_failed patience.policy patience.share
        (attemptWrite_ne_final operations possible effect) _ 1 disk)
  | exhausted error =>
      rw [length_waits_of_exhausted patience.policy patience.share houtcome, hlimit]

end Disk

/-! ### The steps of a write -/

/-- A low-level step of replacing a file. -/
inductive ReplaceStep where
  | makeDirectory
  | writeBeside (text : String)
  | takePlace

/-- A disk, with what stands beside one of its text files. -/
structure Folder where
  disk : Disk
  beside : Option String

namespace Folder

/-- How a file is replaced: where its text goes, and what a step that fails leaves beside it. -/
structure Style where
  install : String → Disk → Disk
  torn : Nat → Option String

variable (style : Style)

/-- Makes a step, or fails as the disk has it for the step's number. -/
def step (folder : Folder) : ReplaceStep → Bool × Folder
  | .makeDirectory =>
      (!folder.disk.outage folder.disk.tried,
        ⟨{ folder.disk with tried := folder.disk.tried + 1 }, folder.beside⟩)
  | .writeBeside text =>
      let disk := { folder.disk with tried := folder.disk.tried + 1 }
      if folder.disk.outage folder.disk.tried then (false, ⟨disk, style.torn folder.disk.tried⟩)
      else (true, ⟨disk, some text⟩)
  | .takePlace =>
      let disk := { folder.disk with tried := folder.disk.tried + 1 }
      match folder.beside, folder.disk.outage folder.disk.tried with
      | some text, false => (true, ⟨style.install text disk, none⟩)
      | beside, _ => (false, ⟨disk, beside⟩)

/-- Makes steps in turn, up to the first that fails: did all succeed? -/
def steps : List ReplaceStep → Folder → Bool × Folder
  | [], folder => (true, folder)
  | next :: rest, folder =>
      match folder.step style next with
      | (true, folder) => steps rest folder
      | (false, folder) => (false, folder)

/-- The steps of one attempt to replace a file. -/
def replaceSteps (directories : Nat) (text : String) : List ReplaceStep :=
  List.replicate directories .makeDirectory ++ [.writeBeside text, .takePlace]

/-- One attempt to replace a file. -/
def replaceOnce (directories : Nat) (text : String) (folder : Folder) :
    Attempt Unit Unit × Folder :=
  match folder.steps style (replaceSteps directories text) with
  | (true, folder) => (.value (), folder)
  | (false, folder) => (.transient (), folder)

/-- Replaces a file, again and again while that fails. -/
def replace (patience : Patience) (operation : String) (directories : Nat) (text : String)
    (folder : Folder) : Stored Unit × Option String :=
  let retried := retry patience.policy patience.share (replaceOnce style directories text) folder
  (⟨match retried.outcome with
    | .value () => .ok ()
    | .failed () | .exhausted () => .error (.fault (retryFault patience.policy operation
        (Failure.fileAccess.asCause false))),
    retried.waits, retried.state.disk⟩, retried.state.beside)

/-- Seen from the disk, the last two steps have their effect or none. -/
theorem steps_last (text : String) (folder : Folder) :
    (folder.steps style [.writeBeside text, .takePlace]).1 = (folder.disk.attempt 2).1 ∧
      (folder.steps style [.writeBeside text, .takePlace]).2.disk =
        if (folder.disk.attempt 2).1 then style.install text (folder.disk.attempt 2).2
        else (folder.disk.attempt 2).2 := by
  cases hwrite : folder.disk.outage folder.disk.tried with
  | true => simp [steps, step, Disk.attempt, hwrite]
  | false =>
      cases hplace : folder.disk.outage (folder.disk.tried + 1) with
      | true => simp [steps, step, Disk.attempt, hwrite, hplace]
      | false => simp [steps, step, Disk.attempt, hwrite, hplace]

/-- Seen from the disk, the steps of an attempt have their effect or none. -/
theorem steps_replaceSteps (text : String) : ∀ (directories : Nat) (folder : Folder),
    (folder.steps style (replaceSteps directories text)).1 =
        (folder.disk.attempt (directories + 2)).1 ∧
      (folder.steps style (replaceSteps directories text)).2.disk =
        if (folder.disk.attempt (directories + 2)).1 then
          style.install text (folder.disk.attempt (directories + 2)).2
        else (folder.disk.attempt (directories + 2)).2
  | 0, folder => steps_last style text folder
  | directories + 1, folder => by
      have hmade := steps_replaceSteps text directories
        ⟨{ folder.disk with tried := folder.disk.tried + 1 }, folder.beside⟩
      rw [Nat.add_right_comm]
      unfold replaceSteps at hmade ⊢
      rw [List.replicate_succ, List.cons_append]
      unfold steps Disk.attempt step
      cases hmake : folder.disk.outage folder.disk.tried with
      | true => simp
      | false => simpa using hmade

/-- An attempt in steps is an attempt of a write. -/
theorem attemptWrite_disk (directories : Nat) (text : String) (folder : Folder) :
    Disk.attemptWrite (directories + 2) true (style.install text) folder.disk =
      ((replaceOnce style directories text folder).1,
        (replaceOnce style directories text folder).2.disk) := by
  obtain ⟨hworked, hdisk⟩ := steps_replaceSteps style text directories folder
  unfold Disk.attemptWrite replaceOnce
  generalize folder.steps style (replaceSteps directories text) = made at hworked hdisk
  obtain ⟨worked, next⟩ := made
  generalize folder.disk.attempt (directories + 2) = attempted at hworked hdisk
  obtain ⟨_, disk⟩ := attempted
  obtain rfl := hworked
  dsimp only at hdisk
  cases worked with
  | true =>
      rw [if_pos rfl] at hdisk
      simp [hdisk]
  | false =>
      rw [if_neg Bool.false_ne_true] at hdisk
      simp [hdisk]

/-- Seen from the disk, replacing a file in steps is one write, whatever was left beside it. -/
theorem replace_eq_write (patience : Patience) (operation : String) (directories : Nat)
    (text : String) (folder : Folder) :
    (folder.replace style patience operation directories text).1 =
      folder.disk.write patience operation (directories + 2) true (style.install text) := by
  have hretry := retryFrom_project patience.policy patience.share Folder.disk
    (attemptWrite_disk style directories text) (patience.policy.limit - 1) 1 folder
  unfold replace Disk.write retry
  generalize retryFrom patience.policy patience.share (replaceOnce style directories text)
    (patience.policy.limit - 1) 1 folder = retried at hretry ⊢
  obtain ⟨outcome, waits, state⟩ := retried
  cases outcome <;> rw [hretry]

end Folder

end RenderRelay
