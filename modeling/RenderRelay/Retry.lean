import RenderRelay.Number.Double

/-! # Retrying

An operation that may fail for a passing reason is tried again, after a wait that doubles from
attempt to attempt.

* One call answers an `Attempt`: a value, a failure worth another try, or a failure that is
  final.
* `retry` calls until a value or a final failure comes, at most `RetryPolicy.limit` times; it
  answers what came, the waits in between and the state that the calls left.
* `RetryPolicy.wait` is never negative and never above the greatest wait of the policy. -/

namespace RenderRelay

/-- How often an operation is tried, and how long to wait in between, in seconds. -/
structure RetryPolicy where
  attempts : Int
  base : Double
  most : Double
  jitter : Bool
deriving DecidableEq, Repr

namespace RetryPolicy

/-- Three attempts, half a second at first, at most eight seconds, with jitter. -/
def standard : RetryPolicy := ⟨3, Double.ofRatio false 1 2, Double.ofInt 8, true⟩

/-- The policy with some of its parts given anew; zero does not count as given. -/
def adjusted (policy : RetryPolicy) (attempts : Option Int) (base most : Option Double)
    (jitter : Option Bool) : RetryPolicy where
  attempts := (attempts.filter fun n => n ≠ 0).getD policy.attempts
  base := (base.filter fun x => !x.isZero).getD policy.base
  most := (most.filter fun x => !x.isZero).getD policy.most
  jitter := jitter.getD policy.jitter

/-- The greatest number of calls; there is always one. -/
def limit (policy : RetryPolicy) : Nat := max 1 policy.attempts.toNat

/-- A value kept between zero and the greatest wait. -/
def bound (policy : RetryPolicy) (seconds : Double) : Double :=
  Double.greatest (Double.zero false) (Double.least seconds policy.most)

/-- The random part of a wait: a share of half the greatest wait. -/
def spread (policy : RetryPolicy) (share : Double) : Double :=
  if policy.jitter then policy.most * Double.ofRatio false 1 2 * share else Double.zero false

/-- The last attempt after which the power of two is a number. -/
def lastPower : Nat := 1024

/-- The wait after the attempt of this number, counted from one; the greatest where the power of
two is no number any more. -/
def wait (policy : RetryPolicy) (share : Double) (attempt : Nat) : Double :=
  if lastPower < attempt then policy.bound policy.most
  else policy.bound
    (policy.base * Double.ofRatio false (Nat.pow 2 (attempt - 1)) 1 + policy.spread share)

end RetryPolicy

/-- What one call comes to. -/
inductive Attempt (ε α : Type) where
  | value (value : α)
  | transient (error : ε)
  | final (error : ε)
deriving DecidableEq, Repr

/-- What a retried operation comes to. -/
inductive RetryOutcome (ε α : Type) where
  | value (value : α)
  | failed (error : ε)
  | exhausted (error : ε)
deriving DecidableEq, Repr

/-- The outcome, the waits between the calls, and the state after them. -/
structure Retried (σ ε α : Type) where
  outcome : RetryOutcome ε α
  waits : List Double
  state : σ

variable {σ ε α : Type}

/-- Calls an operation that has `left` more calls after the one of number `attempt`. -/
def retryFrom (policy : RetryPolicy) (share : Nat → Double) (once : σ → Attempt ε α × σ) :
    (left attempt : Nat) → σ → Retried σ ε α
  | left, attempt, state =>
      let (result, state) := once state
      match result, left with
      | .value value, _ => ⟨.value value, [], state⟩
      | .final error, _ => ⟨.failed error, [], state⟩
      | .transient error, 0 => ⟨.exhausted error, [], state⟩
      | .transient _, left + 1 =>
          let later := retryFrom policy share once left (attempt + 1) state
          { later with waits := policy.wait (share attempt) attempt :: later.waits }

/-- Calls an operation until it succeeds, fails for good or has been tried often enough; the
random share of the wait after attempt `n` is `share n`. -/
def retry (policy : RetryPolicy) (share : Nat → Double) (once : σ → Attempt ε α × σ)
    (state : σ) : Retried σ ε α :=
  retryFrom policy share once (policy.limit - 1) 1 state

end RenderRelay
