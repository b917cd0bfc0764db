import Mathlib.Algebra.Order.Floor.Semiring
import Mathlib.Data.Rat.Floor
import RenderRelay.Time.Scale

/-! # Exact time

A scale of time is exact if its operations are those of an ordered field.  What is proved of
exact scales says how long things take when no rounding comes in.

* `ExactTimeScale` lists what the operations of such a scale are.
* The rational numbers are an exact scale. -/

namespace RenderRelay

/-- A scale of time without rounding. -/
class ExactTimeScale (τ : Type) [Field τ] [LinearOrder τ] [TimeScale τ] : Prop where
  minus_eq (x y : τ) : TimeScale.minus x y = x - y
  exceeds_iff (time limit : τ) : TimeScale.exceeds time limit = true ↔ limit < time
  later_eq (clock seconds : τ) : TimeScale.later clock seconds = clock + 1000 * seconds
  /-- So many pauses take longer than the time. -/
  lt_pauses (time seconds : τ) : 0 < seconds →
    time < 1000 * seconds * TimeScale.pauses time seconds
  rounded_ok (time : τ) : ∃ millis, TimeScale.rounded time = .ok millis

namespace Double

/-- The exact value of a finite number. -/
def exact : Double → Except Failure ℚ
  | .finite s m e _ =>
      let (num, den) := asQuotient m e
      .ok (signed s num / den)
  | .infinite _ => .error .outOfRange
  | .notANumber => .error .unreadable

end Double

instance : TimeScale ℚ where
  minus x y := x - y
  exceeds time limit := decide (limit < time)
  later clock seconds := clock + 1000 * seconds
  pauses time seconds := ⌊time / (1000 * seconds)⌋₊ + 1
  stamp clock := clock.num.tdiv clock.den
  rounded time :=
    .ok (Double.signed (decide (time < 0)) (Number.roundQuotient time.num.natAbs time.den))
  toJson time := .float (Double.ofRatio (decide (time < 0)) time.num.natAbs time.den)
  ofJson value := do (← Double.ofJson value).exact

instance : ExactTimeScale ℚ where
  minus_eq _ _ := rfl
  exceeds_iff time limit := decide_eq_true_iff
  later_eq _ _ := rfl
  lt_pauses time seconds hpos := by
    have hunit : (0 : ℚ) < 1000 * seconds := by linarith
    have hfloor := Nat.lt_floor_add_one (time / (1000 * seconds))
    rw [div_lt_iff₀ hunit] at hfloor
    change time < 1000 * seconds * ((⌊time / (1000 * seconds)⌋₊ + 1 : ℕ) : ℚ)
    push_cast
    linarith
  rounded_ok _ := ⟨_, rfl⟩

end RenderRelay
