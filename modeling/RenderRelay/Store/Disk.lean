import RenderRelay.Bytes.Utf8
import RenderRelay.Failure
import RenderRelay.Path.Place
import RenderRelay.Retry

/-! # The data directory

The stores keep two text files and a directory of artifacts.

* `Site` says where on the machine the directory is, and `others` are the files beside those of
  the stores: a stored name may lead to any of them.
* Any low-level operation may fail: `outage n` says whether the one of number `n` does,
  counted over the life of the disk.
* A text file is replaced as a whole: directories are made, the text is written beside the
  file and then takes its place.  If any of these fails the file is as it was.
* A name of more than 255 bytes cannot be written.
* Failed writes are retried by a policy; `Stored` carries the answer, the waits in between and
  the disk that is left. -/

namespace RenderRelay

/-- Where the data directory is, and which other folders the machine has.  The files of the stores
and the directory of artifacts have their standard names in it. -/
structure Site where
  location : Path.Place
  proper : ∀ name ∈ location, Path.IsStepDown name
  isFolder : Path.Place → Bool

namespace Site

/-- A directory of its own, and no folders but those that lead to it. -/
def standard : Site where
  location := ["var", "lib", "render-relay"]
  proper := by decide
  isFolder _ := false

variable (site : Site)

/-- The place of the directory of artifacts. -/
def outputs : Path.Place := site.location ++ ["outputs"]

/-- The path of the directory of artifacts. -/
def outputsPath : String := Path.ofComponents ['/'] (site.outputs.map String.toList)

/-- Is there a folder?  Those that lead to the artifacts are made before anything is written. -/
def hasFolder (place : Path.Place) : Bool := place.isPrefixOf site.outputs || site.isFolder place

end Site

/-- The data directory, the files elsewhere, and which low-level operations fail. -/
structure Disk where
  workflows : Option String
  history : Option String
  artifacts : Entries Bytes
  site : Site
  others : List Path.Place
  tried : Nat
  outage : Nat → Bool

namespace Disk

/-- An empty directory on which nothing fails, and no file elsewhere. -/
def empty : Disk := ⟨none, none, [], .standard, [], 0, fun _ => false⟩

/-- The directory, on which every operation fails from now on. -/
def blocked (disk : Disk) : Disk := { disk with outage := fun _ => true }

/-- Tries low-level operations in turn, up to the first that fails: did all succeed? -/
def attempt : (operations : Nat) → Disk → Bool × Disk
  | 0, disk => (true, disk)
  | operations + 1, disk =>
      let next := { disk with tried := disk.tried + 1 }
      if disk.outage disk.tried then (false, next) else attempt operations next

/-- The greatest number of bytes of a file's name. -/
def maxNameBytes : Nat := 255

/-- Can a file have this name? -/
def admitsName (name : String) : Bool := name.utf8ByteSize ≤ maxNameBytes

/-- Tries operations, the last of which has an effect if it is `possible` at all. -/
def attemptWrite (operations : Nat) (possible : Bool) (effect : Disk → Disk) (disk : Disk) :
    Attempt Unit Unit × Disk :=
  match disk.attempt operations with
  | (true, disk) => if possible then (.value (), effect disk) else (.transient (), disk)
  | (false, disk) => (.transient (), disk)

/-- The artifact of a name. -/
def artifact? (disk : Disk) (name : String) : Option Bytes := disk.artifacts.get? name

end Disk

/-- How failed writes are retried: the policy and the random shares of the waits. -/
structure Patience where
  policy : RetryPolicy
  share : Nat → Double

/-- The answer of an operation on a store, the waits between its attempts, the disk after it. -/
structure Stored (α : Type) where
  answer : Except Failure α
  waits : List Double
  disk : Disk

namespace Stored

variable {α β : Type}

/-- An answer that takes no writing. -/
def pure (answer : Except Failure α) (disk : Disk) : Stored α := ⟨answer, [], disk⟩

/-- Goes on with an answer, if there is one. -/
def andThen (first : Stored α) (next : α → Disk → Stored β) : Stored β :=
  match first.answer with
  | .ok value =>
      let second := next value first.disk
      { second with waits := first.waits ++ second.waits }
  | .error failure => ⟨.error failure, first.waits, first.disk⟩

end Stored

/-- The fault of an operation that failed at every attempt, the last time for `cause`. -/
def retryFault (policy : RetryPolicy) (operation : String) (cause : Cause) : Fault :=
  .retryExhausted
    (String.join ["All ", Json.intText policy.attempts, " retry attempts exhausted for ",
      operation])
    (some policy.attempts) (some cause)

/-- A write of some low-level operations, retried while it fails. -/
def Disk.write (disk : Disk) (patience : Patience) (operation : String) (operations : Nat)
    (possible : Bool) (effect : Disk → Disk) : Stored Unit :=
  let retried := retry patience.policy patience.share (attemptWrite operations possible effect) disk
  ⟨match retried.outcome with
    | .value () => .ok ()
    | .failed () | .exhausted () =>
        .error (.fault (retryFault patience.policy operation (Failure.fileAccess.asCause false))),
    retried.waits, retried.state⟩

end RenderRelay
