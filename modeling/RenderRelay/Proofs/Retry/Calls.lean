import Mathlib.Logic.Function.Iterate
import RenderRelay.Retry

/-! # The calls of a retried operation

A retried operation makes its calls one after another, each on the state that the one before has
left, and stops at the first whose failure is not passing, or at the last that it has.

* `callAt` is what the call of a number comes to, and `afterCalls` the state after some calls.
* `LastCall` says which call is the last one; `LastCall.succ_eq_min` counts the calls.
* `retryFrom_eq`: a retried operation comes to what its last call comes to, after the waits in
  between; `retry_counted` has the number of its calls besides.
* `retryFrom_project`: if one attempt agrees with another on a part of the state, so do all. -/

namespace RenderRelay

variable {σ ε α : Type}

/-- Is this a failure worth another try? -/
def Attempt.isTransient : Attempt ε α → Bool
  | .transient _ => true
  | _ => false

/-- What a retried operation comes to whose last call comes to this. -/
def Attempt.outcome : Attempt ε α → RetryOutcome ε α
  | .value answer => .value answer
  | .final error => .failed error
  | .transient error => .exhausted error

namespace Attempt

variable {result : Attempt ε α} {answer : α} {error : ε}

theorem outcome_eq_value_iff : result.outcome = .value answer ↔ result = .value answer := by
  cases result <;> simp [outcome]

theorem outcome_eq_failed_iff : result.outcome = .failed error ↔ result = .final error := by
  cases result <;> simp [outcome]

theorem outcome_eq_exhausted_iff :
    result.outcome = .exhausted error ↔ result = .transient error := by
  cases result <;> simp [outcome]

end Attempt

section Calls

variable (once : σ → Attempt ε α × σ) (state : σ)

/-- The state after some calls. -/
def afterCalls (calls : Nat) : σ := (fun state => (once state).2)^[calls] state

theorem afterCalls_succ (calls : Nat) :
    afterCalls once state (calls + 1) = (once (afterCalls once state calls)).2 :=
  Function.iterate_succ_apply' _ calls state

/-- What the call of this number comes to, counted from zero. -/
def callAt (i : Nat) : Attempt ε α := (once (afterCalls once state i)).1

/-- The call of this number is the last of at most `limit`: the failures before are passing, and
its own is not, unless it is the last that is allowed. -/
structure LastCall (limit last : Nat) : Prop where
  lt : last < limit
  before : ∀ i < last, (callAt once state i).isTransient = true
  settled : last + 1 < limit → (callAt once state last).isTransient = false

/-- The call of this number is the first that does not fail for a passing reason. -/
structure Settles (i : Nat) : Prop where
  before : ∀ j < i, (callAt once state j).isTransient = true
  settled : (callAt once state i).isTransient = false

end Calls

section Last

variable {once : σ → Attempt ε α × σ} {state : σ} {limit last : Nat}

/-- There are as many calls as up to the first that settles, but no more than are allowed. -/
theorem LastCall.succ_eq_min (h : LastCall once state limit last) {i : Nat}
    (hsettles : Settles once state i) : last + 1 = min (i + 1) limit := by
  have hlast : last ≤ i := by
    by_contra hlt
    have htransient := h.before i (Nat.lt_of_not_le hlt)
    rw [hsettles.settled] at htransient
    cases htransient
  obtain rfl | hlt := Nat.eq_or_lt_of_le hlast
  · exact (Nat.min_eq_left h.lt).symm
  · have hall : ¬ last + 1 < limit := by
      intro hmore
      have htransient := hsettles.before last hlt
      rw [h.settled hmore] at htransient
      cases htransient
    have hbound := h.lt
    omega

/-- If no call settles, there are as many as are allowed. -/
theorem LastCall.succ_eq_limit (h : LastCall once state limit last)
    (hnone : ∀ i, ¬ Settles once state i) : last + 1 = limit := by
  by_contra hne
  have hbound := h.lt
  exact hnone last ⟨h.before, h.settled (by omega)⟩

end Last

/-- The waits after the first calls, of which the first has this number. -/
def RetryPolicy.waits (policy : RetryPolicy) (share : Nat → Double) (attempt calls : Nat) :
    List Double :=
  (List.range calls).map fun i => policy.wait (share (attempt + i)) (attempt + i)

theorem RetryPolicy.waits_succ (policy : RetryPolicy) (share : Nat → Double)
    (attempt calls : Nat) : policy.waits share attempt (calls + 1) =
      policy.wait (share attempt) attempt :: policy.waits share (attempt + 1) calls := by
  unfold RetryPolicy.waits
  rw [List.range_succ_eq_map, List.map_cons, List.map_map]
  refine congrArg₂ List.cons rfl (List.map_congr_left fun i _ => ?_)
  have hnumber : attempt + (i + 1) = attempt + 1 + i := by omega
  simp only [Function.comp_apply, Nat.succ_eq_add_one, hnumber]

section Steps

variable (policy : RetryPolicy) (share : Nat → Double) {once : σ → Attempt ε α × σ} {state : σ}

/-- An operation stops after a call that is settled, or the last that it has. -/
theorem retryFrom_of_stop {left : Nat} (h : (once state).1.isTransient = false ∨ left = 0)
    (attempt : Nat) : retryFrom policy share once left attempt state =
      ⟨(once state).1.outcome, [], (once state).2⟩ := by
  unfold retryFrom
  generalize once state = called at h
  obtain ⟨result, next⟩ := called
  cases result with
  | value value => rfl
  | final error => rfl
  | transient error =>
      obtain hsettled | rfl := h
      · cases hsettled
      · rfl

/-- After a passing failure it waits and goes on. -/
theorem retryFrom_of_transient (h : (once state).1.isTransient = true) (left attempt : Nat) :
    retryFrom policy share once (left + 1) attempt state =
      ⟨(retryFrom policy share once left (attempt + 1) (once state).2).outcome,
        policy.wait (share attempt) attempt ::
          (retryFrom policy share once left (attempt + 1) (once state).2).waits,
        (retryFrom policy share once left (attempt + 1) (once state).2).state⟩ := by
  rw [retryFrom]
  generalize once state = called at h
  obtain ⟨result, next⟩ := called
  cases result with
  | value value => cases h
  | final error => cases h
  | transient error => rfl

end Steps

/-- A retried operation comes to what its last call comes to. -/
theorem retryFrom_eq (policy : RetryPolicy) (share : Nat → Double)
    (once : σ → Attempt ε α × σ) : ∀ (left attempt : Nat) (state : σ), ∃ last,
      LastCall once state (left + 1) last ∧ retryFrom policy share once left attempt state =
        ⟨(callAt once state last).outcome, policy.waits share attempt last,
          afterCalls once state (last + 1)⟩
  | 0, attempt, state =>
      ⟨0, ⟨Nat.one_pos, nofun, fun h => absurd h (Nat.lt_irrefl 1)⟩,
        retryFrom_of_stop policy share (Or.inr rfl) attempt⟩
  | left + 1, attempt, state => by
      cases hcalled : (once state).1.isTransient with
      | false =>
          exact ⟨0, ⟨Nat.succ_pos _, nofun, fun _ => hcalled⟩,
            retryFrom_of_stop policy share (Or.inl hcalled) attempt⟩
      | true =>
          obtain ⟨last, hlast, hretried⟩ :=
            retryFrom_eq policy share once left (attempt + 1) (once state).2
          refine ⟨last + 1, ⟨Nat.succ_lt_succ hlast.lt, ?_, ?_⟩, ?_⟩
          · intro i hi
            cases i with
            | zero => exact hcalled
            | succ i => exact hlast.before i (Nat.lt_of_succ_lt_succ hi)
          · exact fun hmore => hlast.settled (Nat.lt_of_succ_lt_succ hmore)
          · rw [retryFrom_of_transient policy share hcalled, hretried, RetryPolicy.waits_succ]
            rfl

section Results

variable (policy : RetryPolicy) (share : Nat → Double) {once : σ → Attempt ε α × σ} {error : ε}

/-- A retried operation ends where its last attempt ended, with a value if that attempt had it. -/
theorem retryFrom_last (once : σ → Attempt ε α × σ) (left attempt : Nat) (state : σ) : ∃ last,
    (once last).2 = (retryFrom policy share once left attempt state).state ∧
      ∀ value, (retryFrom policy share once left attempt state).outcome = .value value ↔
        (once last).1 = .value value := by
  obtain ⟨last, -, hretried⟩ := retryFrom_eq policy share once left attempt state
  rw [hretried]
  exact ⟨afterCalls once state last, (afterCalls_succ once state last).symm,
    fun _ => Attempt.outcome_eq_value_iff⟩

/-- A retried operation ends after at least one attempt, and no more than it has. -/
theorem retryFrom_iterate (once : σ → Attempt ε α × σ) (left attempt : Nat) (state : σ) :
    ∃ more ≤ left, (retryFrom policy share once left attempt state).state =
      (fun state => (once state).2)^[more + 1] state := by
  obtain ⟨last, hlast, hretried⟩ := retryFrom_eq policy share once left attempt state
  rw [hretried]
  exact ⟨last, Nat.le_of_lt_succ hlast.lt, rfl⟩

/-- An operation that is given up has waited between all its attempts. -/
theorem length_waits_of_exhausted {left attempt : Nat} {state : σ}
    (h : (retryFrom policy share once left attempt state).outcome = .exhausted error) :
    (retryFrom policy share once left attempt state).waits.length = left := by
  obtain ⟨last, hlast, hretried⟩ := retryFrom_eq policy share once left attempt state
  rw [hretried] at h ⊢
  have hcalled := Attempt.outcome_eq_exhausted_iff.mp h
  have hlength : (policy.waits share attempt last).length = last := by
    unfold RetryPolicy.waits
    rw [List.length_map, List.length_range]
  refine hlength.trans (Nat.le_antisymm (Nat.le_of_lt_succ hlast.lt) ?_)
  by_contra hless
  have hsettled := hlast.settled (Nat.succ_lt_succ (Nat.lt_of_not_le hless))
  rw [hcalled] at hsettled
  cases hsettled

/-- An operation without final failures does not end with one. -/
theorem outcome_ne_failed (honce : ∀ state, (once state).1 ≠ .final error)
    (left attempt : Nat) (state : σ) :
    (retryFrom policy share once left attempt state).outcome ≠ .failed error := by
  obtain ⟨last, -, hretried⟩ := retryFrom_eq policy share once left attempt state
  rw [hretried]
  exact fun h => honce _ (Attempt.outcome_eq_failed_iff.mp h)

end Results

/-- Attempts that agree on a part of the state go on agreeing when they are retried. -/
theorem retryFrom_project {ρ : Type} (policy : RetryPolicy) (share : Nat → Double) (part : σ → ρ)
    {once : σ → Attempt ε α × σ} {onceOn : ρ → Attempt ε α × ρ}
    (honce : ∀ state, onceOn (part state) = ((once state).1, part (once state).2)) :
    ∀ (left attempt : Nat) (state : σ),
      retryFrom policy share onceOn left attempt (part state) =
        ⟨(retryFrom policy share once left attempt state).outcome,
          (retryFrom policy share once left attempt state).waits,
          part (retryFrom policy share once left attempt state).state⟩
  | 0, attempt, state => by
      rw [retryFrom_of_stop policy share (Or.inr rfl), retryFrom_of_stop policy share (Or.inr rfl),
        honce]
  | left + 1, attempt, state => by
      have hcalled : (onceOn (part state)).1 = (once state).1 := by rw [honce]
      cases htransient : (once state).1.isTransient with
      | false =>
          rw [retryFrom_of_stop policy share (Or.inl htransient),
            retryFrom_of_stop policy share (Or.inl (hcalled ▸ htransient)), honce]
      | true =>
          rw [retryFrom_of_transient policy share htransient,
            retryFrom_of_transient policy share (hcalled ▸ htransient), honce,
            retryFrom_project policy share part honce left]

/-! ### Counting the calls -/

/-- The operation, with the number of calls so far. -/
def counted (once : σ → Attempt ε α × σ) (counter : Nat × σ) : Attempt ε α × Nat × σ :=
  ((once counter.2).1, counter.1 + 1, (once counter.2).2)

theorem afterCalls_counted (once : σ → Attempt ε α × σ) : ∀ (calls start : Nat) (state : σ),
    afterCalls (counted once) (start, state) calls = (start + calls, afterCalls once state calls)
  | 0, start, state => rfl
  | calls + 1, start, state => by
      have hlater := afterCalls_counted once calls (start + 1) (once state).2
      rw [Nat.add_right_comm] at hlater
      exact hlater

theorem callAt_counted (once : σ → Attempt ε α × σ) (state : σ) (i : Nat) :
    callAt (counted once) (0, state) i = callAt once state i := by
  unfold callAt
  rw [afterCalls_counted]
  rfl

/-- A retried operation makes the calls up to its last one, with a wait after each but that. -/
theorem retry_counted (policy : RetryPolicy) (share : Nat → Double)
    (once : σ → Attempt ε α × σ) (state : σ) : ∃ last, LastCall once state policy.limit last ∧
      retry policy share once state = ⟨(callAt once state last).outcome,
        policy.waits share 1 last, afterCalls once state (last + 1)⟩ ∧
      (retry policy share (counted once) (0, state)).state.1 = last + 1 := by
  have hlimit : policy.limit - 1 + 1 = policy.limit := Nat.sub_add_cancel (Nat.le_max_left _ _)
  obtain ⟨last, ⟨hlt, hbefore, hsettled⟩, hretried⟩ :=
    retryFrom_eq policy share (counted once) (policy.limit - 1) 1 (0, state)
  simp only [hlimit, callAt_counted, afterCalls_counted, Nat.zero_add]
    at hlt hbefore hsettled hretried
  have hcounts : ∀ counter : Nat × σ,
      once counter.2 = ((counted once counter).1, (counted once counter).2.2) := fun _ => rfl
  have hproject := retryFrom_project policy share Prod.snd hcounts (policy.limit - 1) 1 (0, state)
  rw [hretried] at hproject
  refine ⟨last, ⟨hlt, hbefore, hsettled⟩, hproject, ?_⟩
  unfold retry
  rw [hretried]

end RenderRelay
