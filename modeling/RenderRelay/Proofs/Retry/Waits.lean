import RenderRelay.Backend.Client
import RenderRelay.Proofs.Number.Order
import RenderRelay.Proofs.Retry.Calls
import RenderRelay.Proofs.Store.Replace

/-! # Retried operations as they are set

* `RetryPolicy.Sensible` policies have an attempt and no negative time; `adjusted_eq_iff`: the
  parameters that are given hold, unless a time among them is zero.
* `RetryPolicy.WaitsAsSet` says how long the wait after an attempt is, and `waitsAsSet` that it is.
* `RetryOutcome.reraised` and `RetryOutcome.wrapped` are the two ways to end after the last failure:
  the request for an image ends in the one (`Client.fetchView_reraised`), a write in the other
  (`Disk.write_wrapped`).
* `retry_exact`: how often an operation is called, what is waited and what comes of it. -/

namespace RenderRelay

open Double

namespace RetryPolicy

variable {policy settings : RetryPolicy}

/-! ### Policies -/

/-- There is an attempt, and neither time is negative or endless. -/
structure Sensible (policy : RetryPolicy) : Prop where
  attempts : 1 ≤ policy.attempts
  base : policy.base.IsAmount
  most : policy.most.IsAmount

theorem limit_eq (h : policy.Sensible) : (policy.limit : Int) = policy.attempts := by
  have hattempts := h.attempts
  unfold limit
  omega

theorem filter_getD {β : Type} (p : β → Bool) (given default : β) :
    ((some given).filter p).getD default = if p given then given else default := by
  cases hp : p given <;> simp [Option.filter, hp]

/-- The parameters that are all given are the ones that hold, unless a time among them is zero and
the settings have another. -/
theorem adjusted_eq_iff (h : policy.Sensible) :
    settings.adjusted (some policy.attempts) (some policy.base) (some policy.most)
        (some policy.jitter) = policy ↔
      (policy.base.isZero = true → settings.base = policy.base) ∧
        (policy.most.isZero = true → settings.most = policy.most) := by
  have hattempts : policy.attempts ≠ 0 := by
    have hpos := h.attempts
    omega
  obtain ⟨attempts, base, most, jitter⟩ := policy
  unfold adjusted
  rw [filter_getD, filter_getD, filter_getD, if_pos (decide_eq_true hattempts)]
  cases hbase : base.isZero <;> cases hmost : most.isZero <;> simp

/-! ### Waits -/

theorem isShare_half : (ofRatio false 1 2).IsShare := by
  have hvalue : ((1 : ℕ) / (2 : ℕ) : ℚ) = 2 ^ (-1 : ℤ) := by norm_num
  obtain ⟨hamount, hhalf⟩ := ofRatio_two_pow two_pos (by decide) (by decide) hvalue
  refine ⟨hamount, hhalf.trans_le ?_⟩
  norm_num

/-- The wait after an attempt is as the policy has it: the doubled base and a random part, which is
at most half the greatest wait and nothing without jitter; all of it no more than the greatest. -/
structure WaitsAsSet (policy : RetryPolicy) (share : Double) (attempt : Nat) : Prop where
  spread : (policy.spread share).IsAmount
  spread_le : (policy.spread share).value ≤ (policy.most * ofRatio false 1 2).value
  spread_off : policy.jitter = false → policy.spread share = zero false
  wait_eq : policy.base.isZero = false ∨ attempt ≤ lastPower → policy.wait share attempt =
    least (policy.base * ofRatio false (Nat.pow 2 (attempt - 1)) 1 + policy.spread share)
      policy.most
  wait : (policy.wait share attempt).IsAmount
  wait_le : (policy.wait share attempt).value ≤ policy.most.value

section Waits

variable {share : Double} {attempt : Nat}

theorem spread_bounds (h : policy.Sensible) (hshare : share.IsShare) :
    (policy.spread share).IsAmount ∧
      (policy.spread share).value ≤ (policy.most * ofRatio false 1 2).value := by
  obtain ⟨hhalf, -⟩ := mul_le h.most isShare_half
  unfold spread
  split_ifs
  · exact mul_le hhalf hshare
  · exact ⟨isAmount_zero, value_zero.trans_le hhalf.value_nonneg⟩

theorem bound_of_unsigned (h : policy.Sensible) {seconds : Double} (hseconds : seconds.IsUnsigned) :
    policy.bound seconds = least seconds policy.most :=
  greatest_zero (least_le hseconds h.most).1

theorem wait_of_le (h : policy.Sensible) (hshare : share.IsShare) (hattempt : attempt ≤ lastPower) :
    (policy.base * ofRatio false (Nat.pow 2 (attempt - 1)) 1 + policy.spread share).IsUnsigned ∧
      policy.wait share attempt =
        least (policy.base * ofRatio false (Nat.pow 2 (attempt - 1)) 1 + policy.spread share)
          policy.most := by
  have hvalue : ((Nat.pow 2 (attempt - 1) : ℕ) / (1 : ℕ) : ℚ) = 2 ^ ((attempt - 1 : ℕ) : ℤ) := by
    rw [Nat.cast_one, div_one, Nat.pow_eq, Nat.cast_pow, Nat.cast_ofNat, zpow_natCast]
  have hexponent : ((attempt - 1 : ℕ) : ℤ) ≤ 1023 := by
    unfold lastPower at hattempt
    omega
  obtain ⟨hpower, -⟩ := ofRatio_two_pow one_pos (by omega) hexponent hvalue
  have hunsigned := add_isUnsigned (mul_isUnsigned h.base hpower) (spread_bounds h hshare).1
  refine ⟨hunsigned, ?_⟩
  unfold RetryPolicy.wait
  rw [if_neg (Nat.not_lt_of_le hattempt), bound_of_unsigned h hunsigned]

theorem wait_of_gt (h : policy.Sensible) (hattempt : lastPower < attempt) (share : Double) :
    policy.wait share attempt = policy.most := by
  unfold RetryPolicy.wait
  rw [if_pos hattempt, bound_of_unsigned h (Or.inl h.most)]
  unfold least
  split_ifs <;> rfl

/-- Late waits are as long as ever, since the power of two is beyond all numbers. -/
theorem least_of_gt (h : policy.Sensible) (hshare : share.IsShare)
    (hbase : policy.base.isZero = false) (hattempt : lastPower < attempt) :
    least (policy.base * ofRatio false (Nat.pow 2 (attempt - 1)) 1 + policy.spread share)
      policy.most = policy.most := by
  have hpower : ofRatio false (Nat.pow 2 (attempt - 1)) 1 = .infinite false := by
    refine ofRatio_overflow false one_pos ?_
    rw [Nat.cast_one, div_one, Nat.pow_eq, Nat.cast_pow, Nat.cast_ofNat, ← zpow_natCast]
    refine zpow_le_zpow_right₀ one_le_two ?_
    unfold lastPower at hattempt
    omega
  obtain ⟨⟨n, f, hspread, heq⟩, -⟩ := spread_bounds h hshare
  obtain ⟨m, e, hbaseCanonical, hbaseEq⟩ := h.base
  obtain ⟨k, d, hmost, hmostEq⟩ := h.most
  rw [hbaseEq] at hbase
  have hm : m ≠ 0 := by simpa [isZero] using hbase
  have hproduct : policy.base * Double.infinite false = .infinite false := by
    rw [hbaseEq]
    exact if_neg hm
  rw [hpower, hproduct, heq, hmostEq]
  rfl

theorem waitsAsSet (h : policy.Sensible) (hshare : share.IsShare) (attempt : Nat) :
    policy.WaitsAsSet share attempt := by
  obtain ⟨hspread, hspreadLe⟩ := spread_bounds h hshare
  have hoff : policy.jitter = false → policy.spread share = zero false := by
    intro hjitter
    unfold spread
    rw [hjitter, if_neg Bool.false_ne_true]
  by_cases hattempt : attempt ≤ lastPower
  · obtain ⟨hunsigned, hwait⟩ := wait_of_le h hshare hattempt
    have hleast := least_le hunsigned h.most
    rw [← hwait] at hleast
    exact ⟨hspread, hspreadLe, hoff, fun _ => hwait, hleast.1, hleast.2⟩
  · have hgt := Nat.lt_of_not_le hattempt
    have hwait := wait_of_gt h hgt share
    refine ⟨hspread, hspreadLe, hoff, ?_, hwait ▸ h.most, (congrArg value hwait).le⟩
    intro hformula
    obtain hbase | hle := hformula
    · rw [hwait, least_of_gt h hshare hbase hgt]
    · exact absurd hle hattempt

end Waits

end RetryPolicy

/-! ### The two ways to end -/

variable {σ ε φ α : Type}

/-- What a call comes to by itself. -/
def Attempt.raised : Attempt ε α → Except ε α
  | .value answer => .ok answer
  | .transient error | .final error => .error error

/-- The last failure is raised as it is. -/
def RetryOutcome.reraised : RetryOutcome ε α → Except ε α
  | .value answer => .ok answer
  | .failed error | .exhausted error => .error error

/-- The last failure is raised as it is, or, when there are no attempts left, within another. -/
def RetryOutcome.wrapped (raise exhaust : ε → φ) : RetryOutcome ε α → Except φ α
  | .value answer => .ok answer
  | .failed error => .error (raise error)
  | .exhausted error => .error (exhaust error)

/-- The failure of an operation that failed at every attempt, the last time for a cause. -/
def RetryPolicy.exhausted (policy : RetryPolicy) (operation : String) (cause : Cause) : Failure :=
  .fault (retryFault policy operation cause)

/-- Requests for images end in the first way. -/
theorem Client.fetchView_reraised (client : Client) (backend : Backend) (params : Url.Form)
    (traffic : Traffic) : (client.fetchView backend params traffic).1 =
      (retry client.patience client.share (client.viewOnce backend params)
        traffic).outcome.reraised.mapError Failure.fault := by
  unfold fetchView
  dsimp only
  cases (retry client.patience client.share (client.viewOnce backend params) traffic).outcome <;>
    rfl

/-- Writes end in the second. -/
theorem Disk.write_wrapped (disk : Disk) (patience : Patience) (operation : String)
    (operations : Nat) (possible : Bool) (effect : Disk → Disk) :
    (disk.write patience operation operations possible effect).answer =
      (retry patience.policy patience.share (attemptWrite operations possible effect)
        disk).outcome.wrapped (fun _ => Failure.fileAccess) fun _ =>
          patience.policy.exhausted operation (Failure.fileAccess.asCause false) := by
  unfold write
  dsimp only
  cases houtcome : (retry patience.policy patience.share
      (attemptWrite operations possible effect) disk).outcome with
  | value answer => rfl
  | failed error =>
      exact absurd houtcome (outcome_ne_failed patience.policy patience.share
        (attemptWrite_ne_final operations possible effect) _ 1 disk)
  | exhausted error => rfl

/-! ### Retried operations -/

/-- An operation, retried as the policy has it, and the number of the last call, from zero. -/
structure RetriesAsSet (policy : RetryPolicy) (share : Nat → Double)
    (once : σ → Attempt ε α × σ) (state : σ) (last : Nat) : Prop where
  limit_eq : (policy.limit : Int) = policy.attempts
  last_call : LastCall once state policy.limit last
  /-- It is called until a call settles, or as often as is allowed. -/
  calls : (retry policy share (counted once) (0, state)).state.1 = last + 1
  settles : ∀ i, Settles once state i → last + 1 = min (i + 1) policy.limit
  never : (∀ i, ¬ Settles once state i) → last + 1 = policy.limit
  /-- It waits after every call but the last. -/
  waits : (retry policy share once state).waits =
    (List.range last).map fun i => policy.wait (share (1 + i)) (1 + i)
  waits_as_set : ∀ attempt, policy.WaitsAsSet (share attempt) attempt
  /-- What the last call comes to is passed on. -/
  reraised : (retry policy share once state).outcome.reraised = (callAt once state last).raised
  wrapped : ∀ (raise : ε → Failure) (operation : String) (cause : ε → Cause),
    (retry policy share once state).outcome.wrapped raise
        (fun error => policy.exhausted operation (cause error)) =
      match callAt once state last with
      | .value answer => .ok answer
      | .final error => .error (raise error)
      | .transient error => .error (.fault (.retryExhausted
          (String.join ["All ", Json.intText policy.attempts, " retry attempts exhausted for ",
            operation]) (some policy.attempts) (some (cause error))))

/-- Every operation is retried as a sensible policy has it, and requests for images and writes end
in the two ways.  The parameters that are given are that policy unless a time among them is zero, in
place of which that of the settings holds. -/
theorem retry_exact {policy : RetryPolicy} (h : policy.Sensible) {share : Nat → Double}
    (hshare : ∀ attempt, (share attempt).IsShare) (once : σ → Attempt ε α × σ) (state : σ) :
    (∃ last, RetriesAsSet policy share once state last) ∧
      (∀ settings : RetryPolicy,
        settings.adjusted (some policy.attempts) (some policy.base) (some policy.most)
            (some policy.jitter) = policy ↔
          (policy.base.isZero = true → settings.base = policy.base) ∧
            (policy.most.isZero = true → settings.most = policy.most)) ∧
      (∀ (client : Client) (backend : Backend) (params : Url.Form) (traffic : Traffic),
        (client.fetchView backend params traffic).1 =
          (retry client.patience client.share (client.viewOnce backend params)
            traffic).outcome.reraised.mapError Failure.fault) ∧
      ∀ (disk : Disk) (patience : Patience) (operation : String) (operations : Nat)
        (possible : Bool) (effect : Disk → Disk),
        (disk.write patience operation operations possible effect).answer =
          (retry patience.policy patience.share (Disk.attemptWrite operations possible effect)
            disk).outcome.wrapped (fun _ => Failure.fileAccess) fun _ =>
              patience.policy.exhausted operation (Failure.fileAccess.asCause false) := by
  refine ⟨?_, fun settings => RetryPolicy.adjusted_eq_iff h, Client.fetchView_reraised,
    Disk.write_wrapped⟩
  obtain ⟨last, hlast, hretried, hcalls⟩ := retry_counted policy share once state
  refine ⟨last, RetryPolicy.limit_eq h, hlast, hcalls, fun i => hlast.succ_eq_min,
    hlast.succ_eq_limit, ?_, fun attempt => RetryPolicy.waitsAsSet h (hshare attempt) attempt,
    ?_, ?_⟩
  · rw [hretried]
    rfl
  · rw [hretried]
    cases callAt once state last <;> rfl
  · intro raise operation cause
    rw [hretried]
    cases callAt once state last <;> rfl

/-- An operation that fails at its first call, and then answers. -/
def failsOnce (failed : Bool) : Attempt Unit Nat × Bool :=
  (if failed then .value 7 else .transient (), true)

/-- Two attempts, half a second at first, without jitter. -/
def twoAttempts : RetryPolicy := ⟨2, ofRatio false 1 2, ofInt 8, false⟩

theorem sensible_twoAttempts : twoAttempts.Sensible where
  attempts := by decide
  base := RetryPolicy.isShare_half.amount
  most := ⟨Nat.pow 2 52, -49, by decide, by decide +kernel⟩

/-- The operation is called twice, with half a second in between. -/
theorem retry_exact_failsOnce : ∃ last,
    RetriesAsSet twoAttempts (fun _ => zero false) failsOnce false last ∧ last = 1 ∧
      (retry twoAttempts (fun _ => zero false) failsOnce false).waits = [ofRatio false 1 2] ∧
      (retry twoAttempts (fun _ => zero false) failsOnce false).outcome.reraised = .ok 7 := by
  have hshare : ∀ attempt : Nat, (zero false).IsShare := fun _ =>
    ⟨isAmount_zero, value_zero.trans_le zero_le_one⟩
  obtain ⟨⟨last, hretries⟩, -⟩ := retry_exact sensible_twoAttempts hshare failsOnce false
  have hsettles : Settles failsOnce false 1 := ⟨by decide, by decide⟩
  refine ⟨last, hretries, Nat.succ.inj (hretries.settles 1 hsettles), ?_, ?_⟩
  · decide +kernel
  · decide +kernel

/-- A time of zero does not count as given: the operation waits half a second, where the given
times make no wait at all. -/
theorem retry_zero_times :
    (retry (RetryPolicy.standard.adjusted (some 2) (some (zero false)) none (some false))
        (fun _ => zero false) failsOnce false).waits = [ofRatio false 1 2] ∧
      least (zero false * ofRatio false (Nat.pow 2 0) 1 + zero false) (ofInt 8) = zero false ∧
    (retry (RetryPolicy.standard.adjusted (some 2) none (some (zero false)) (some false))
        (fun _ => zero false) failsOnce false).waits = [ofRatio false 1 2] ∧
      least (ofRatio false 1 2 * ofRatio false (Nat.pow 2 0) 1 + zero false) (zero false) =
        zero false ∧
    ofRatio false 1 2 ≠ zero false := by
  decide +kernel

end RenderRelay
