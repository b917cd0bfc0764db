import Mathlib.Tactic.SplitIfs
import RenderRelay.Proofs.Retry.Calls
import RenderRelay.Store.Disk

/-! # Writes to the data directory

What a retried write leaves behind.

* `retryFrom_outcome`: a retried operation ends with what a value brings or with what failed
  attempts keep; `retry_state` is the case in which both are the same.
* `Disk.write_outcome`: a write has its effect, or it fails with a fault and leaves the files as
  they were (`write_error`, `write_keeps`).
* `Disk.write_of_works`: on a disk on which nothing fails, the first attempt has the effect, and
  `Disk.write_of_impossible`: a write that cannot have its effect fails on every disk.
* `Stored.andThen_error`: where an operation in two steps fails, and `Stored.exists_of_andThen`:
  both steps of one that answers have answered; `Stored.andThen_of_ok` and `andThen_of_error` are
  the steps one by one. -/

namespace RenderRelay

variable {σ ε α : Type}

/-- Where failed attempts keep `before` and a value brings `done`, the operation ends with one of
the two. -/
theorem retryFrom_outcome (policy : RetryPolicy) (share : Nat → Double)
    {once : σ → Attempt ε α × σ} (before done : σ → Prop)
    (honce : ∀ state, before state →
      ((∃ value, (once state).1 = .value value) → done (once state).2) ∧
      ((∀ value, (once state).1 ≠ .value value) → before (once state).2)) :
    ∀ (left attempt : Nat) (state : σ), before state →
      ((∃ value, (retryFrom policy share once left attempt state).outcome = .value value) ∧
        done (retryFrom policy share once left attempt state).state) ∨
      ((∀ value, (retryFrom policy share once left attempt state).outcome ≠ .value value) ∧
        before (retryFrom policy share once left attempt state).state) := by
  intro left attempt state hstate
  obtain ⟨last, hlast, hretried⟩ := retryFrom_eq policy share once left attempt state
  rw [hretried]
  -- the calls before the last one fail, so that each finds what the first one found
  have hfound : ∀ i ≤ last, before (afterCalls once state i) := by
    intro i hi
    induction i with
    | zero => exact hstate
    | succ i ih =>
        have htransient := hlast.before i hi
        rw [afterCalls_succ]
        refine (honce _ (ih (Nat.le_of_succ_le hi))).2 fun value hvalue => ?_
        unfold callAt at htransient
        rw [hvalue] at htransient
        cases htransient
  obtain ⟨hdone, hbefore⟩ := honce _ (hfound last (Nat.le_refl last))
  simp only [Attempt.outcome_eq_value_iff, ne_eq, afterCalls_succ]
  by_cases hvalue : ∃ value, callAt once state last = .value value
  · exact Or.inl ⟨hvalue, hdone hvalue⟩
  · have hnone : ∀ value, callAt once state last ≠ .value value := not_exists.mp hvalue
    exact Or.inr ⟨hnone, hbefore hnone⟩

/-- What every attempt keeps, the retried operation keeps. -/
theorem retry_state {policy : RetryPolicy} {share : Nat → Double} {once : σ → Attempt ε α × σ}
    {P : σ → Prop} (honce : ∀ state, P state → P (once state).2) {state : σ} (hstate : P state) :
    P (retry policy share once state).state := by
  have hboth : ∀ state, P state → ((∃ value, (once state).1 = .value value) → P (once state).2) ∧
      ((∀ value, (once state).1 ≠ .value value) → P (once state).2) :=
    fun state h => ⟨fun _ => honce state h, fun _ => honce state h⟩
  obtain ⟨-, h⟩ | ⟨-, h⟩ :=
    retryFrom_outcome policy share P P hboth (policy.limit - 1) 1 state hstate
  · exact h
  · exact h

theorem retryFrom_of_value {policy : RetryPolicy} {share : Nat → Double}
    {once : σ → Attempt ε α × σ} {state next : σ} {value : α}
    (h : once state = (.value value, next)) (left attempt : Nat) :
    retryFrom policy share once left attempt state = ⟨.value value, [], next⟩ := by
  unfold retryFrom
  rw [h]

namespace Disk

variable (disk : Disk) (patience : Patience) (operation : String) (operations : Nat)
  (possible : Bool) (effect : Disk → Disk)

/-- On this disk no low-level operation fails. -/
def Works (disk : Disk) : Prop := ∀ n, disk.outage n = false

theorem attempt_snd : ∀ (operations : Nat) (disk : Disk),
    ∃ tried, (disk.attempt operations).2 = { disk with tried := tried }
  | 0, disk => ⟨disk.tried, rfl⟩
  | operations + 1, disk => by
      unfold attempt
      dsimp only
      split_ifs with hfails
      · exact ⟨disk.tried + 1, rfl⟩
      · obtain ⟨tried, htried⟩ := attempt_snd operations { disk with tried := disk.tried + 1 }
        exact ⟨tried, htried⟩

theorem attempt_of_works : ∀ (operations : Nat) {disk : Disk}, disk.Works →
    disk.attempt operations = (true, { disk with tried := disk.tried + operations })
  | 0, _, _ => rfl
  | operations + 1, disk, h => by
      unfold attempt
      rw [if_neg (by simp [h disk.tried])]
      have hnext : ({ disk with tried := disk.tried + 1 } : Disk).Works := h
      rw [attempt_of_works operations hnext]
      simp only [Nat.add_right_comm, Nat.add_assoc]

/-- A write has its effect, if that is possible at all, or it fails and leaves the disk as it
was. -/
theorem write_outcome :
    possible = true ∧ (disk.write patience operation operations possible effect).answer = .ok () ∧
      (∃ tried, (disk.write patience operation operations possible effect).disk =
        effect { disk with tried := tried }) ∨
    (disk.write patience operation operations possible effect).answer =
        .error (.fault (retryFault patience.policy operation
          (Failure.fileAccess.asCause false))) ∧
      ∃ tried, (disk.write patience operation operations possible effect).disk =
        { disk with tried := tried } := by
  have hattempt : ∀ next : Disk, (∃ tried, next = { disk with tried := tried }) →
      ((∃ value, (attemptWrite operations possible effect next).1 = .value value) →
        possible = true ∧ ∃ tried, (attemptWrite operations possible effect next).2 =
          effect { disk with tried := tried }) ∧
      ((∀ value, (attemptWrite operations possible effect next).1 ≠ .value value) →
        ∃ tried, (attemptWrite operations possible effect next).2 =
          { disk with tried := tried }) := by
    rintro next ⟨before, rfl⟩
    obtain ⟨tried, htried⟩ := attempt_snd operations { disk with tried := before }
    unfold attemptWrite
    generalize ({ disk with tried := before } : Disk).attempt operations = attempted at htried
    obtain ⟨worked, next⟩ := attempted
    obtain rfl : next = { disk with tried := tried } := htried
    cases worked with
    | false => exact ⟨nofun, fun _ => ⟨tried, rfl⟩⟩
    | true =>
        cases possible with
        | false => exact ⟨nofun, fun _ => ⟨tried, rfl⟩⟩
        | true => exact ⟨fun _ => ⟨rfl, tried, rfl⟩, fun h => absurd rfl (h ())⟩
  have hretried := retryFrom_outcome patience.policy patience.share
    (fun next => ∃ tried, next = { disk with tried := tried })
    (fun next => possible = true ∧ ∃ tried, next = effect { disk with tried := tried }) hattempt
    (patience.policy.limit - 1) 1 disk ⟨disk.tried, rfl⟩
  unfold write retry
  generalize retryFrom patience.policy patience.share (attemptWrite operations possible effect)
    (patience.policy.limit - 1) 1 disk = retried at hretried
  obtain ⟨⟨value, hvalue⟩, hpossible, hstate⟩ | ⟨hvalue, hstate⟩ := hretried
  · refine Or.inl ⟨hpossible, ?_, hstate⟩
    dsimp only
    rw [hvalue]
  · refine Or.inr ⟨?_, hstate⟩
    dsimp only
    cases houtcome : retried.outcome with
    | value value => exact absurd houtcome (hvalue value)
    | failed error => rfl
    | exhausted error => rfl

/-- A write that fails ends with a fault. -/
theorem write_error {failure : Failure}
    (h : (disk.write patience operation operations possible effect).answer = .error failure) :
    ∃ fault, failure = .fault fault := by
  obtain ⟨-, hok, -⟩ | ⟨herror, -⟩ :=
    disk.write_outcome patience operation operations possible effect
  · rw [hok] at h
    cases h
  · rw [herror] at h
    exact ⟨_, (Except.error.inj h).symm⟩

/-- A part of the disk that neither the effect nor the count of operations touches stays. -/
theorem write_keeps {β : Type} (part : Disk → β)
    (htried : ∀ (disk : Disk) (tried : Nat), part { disk with tried := tried } = part disk)
    (heffect : ∀ disk, part (effect disk) = part disk) :
    part (disk.write patience operation operations possible effect).disk = part disk := by
  obtain ⟨-, -, tried, h⟩ | ⟨-, tried, h⟩ :=
    disk.write_outcome patience operation operations possible effect
  · rw [h, heffect, htried]
  · rw [h, htried]

/-- Where nothing fails, the first attempt succeeds. -/
theorem write_of_works (h : disk.Works) :
    disk.write patience operation operations true effect =
      ⟨.ok (), [], effect { disk with tried := disk.tried + operations }⟩ := by
  have honce : attemptWrite operations true effect disk =
      (.value (), effect { disk with tried := disk.tried + operations }) := by
    unfold attemptWrite
    rw [attempt_of_works operations h]
    rfl
  unfold write retry
  rw [retryFrom_of_value honce]

/-- A write that cannot have its effect fails and leaves the files as they were. -/
theorem write_of_impossible :
    (disk.write patience operation operations false effect).answer =
        .error (.fault (retryFault patience.policy operation
          (Failure.fileAccess.asCause false))) ∧
      ∃ tried, (disk.write patience operation operations false effect).disk =
        { disk with tried := tried } := by
  obtain ⟨hpossible, -⟩ | hfails := disk.write_outcome patience operation operations false effect
  · cases hpossible
  · exact hfails

end Disk

theorem Stored.pure_andThen {α β : Type} (value : α) (disk : Disk) (next : α → Disk → Stored β) :
    (Stored.pure (.ok value) disk).andThen next = next value disk := rfl

theorem Stored.andThen_of_ok {α β : Type} {first : Stored α} {value : α}
    (h : first.answer = .ok value) (next : α → Disk → Stored β) :
    first.andThen next = ⟨(next value first.disk).answer,
      first.waits ++ (next value first.disk).waits, (next value first.disk).disk⟩ := by
  unfold andThen
  rw [h]

theorem Stored.andThen_of_error {α β : Type} {first : Stored α} {failure : Failure}
    (h : first.answer = .error failure) (next : α → Disk → Stored β) :
    first.andThen next = ⟨.error failure, first.waits, first.disk⟩ := by
  unfold andThen
  rw [h]

/-- An operation in two steps fails in the first or, after it, in the second. -/
theorem Stored.andThen_error {α β : Type} {first : Stored α} {next : α → Disk → Stored β}
    {failure : Failure} (h : (first.andThen next).answer = .error failure) :
    first.answer = .error failure ∨
      ∃ value, first.answer = .ok value ∧ (next value first.disk).answer = .error failure := by
  unfold andThen at h
  cases hfirst : first.answer with
  | error other =>
      simp only [hfirst] at h
      exact Or.inl (congrArg Except.error (Except.error.inj h))
  | ok value =>
      simp only [hfirst] at h
      exact Or.inr ⟨value, rfl, h⟩

/-- An operation in two steps answers what the second answers, after the first. -/
theorem Stored.exists_of_andThen {α β : Type} {first : Stored α} {next : α → Disk → Stored β}
    {result : β} (h : (first.andThen next).answer = .ok result) :
    ∃ value, first.answer = .ok value ∧ (next value first.disk).answer = .ok result := by
  unfold andThen at h
  cases hfirst : first.answer with
  | error failure =>
      simp only [hfirst] at h
      cases h
  | ok value =>
      simp only [hfirst] at h
      exact ⟨value, rfl, h⟩

end RenderRelay
