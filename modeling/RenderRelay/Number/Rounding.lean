/-! # Rounding quotients

* `roundQuotient` rounds a quotient of natural numbers to the nearest whole number, a half
  to the even neighbour.
* `floorLog2` and `floorLog10` find the power of two or ten that a positive quotient lies
  at or above, and below whose next it stays. -/

namespace RenderRelay.Number

/-- The whole number nearest to `num / den`; a half goes to the even neighbour. -/
def roundQuotient (num den : Nat) : Nat :=
  let quotient := num / den
  let twice := 2 * (num % den)
  if twice < den then quotient
  else if den < twice then quotient + 1
  else if quotient % 2 = 0 then quotient else quotient + 1

theorem roundQuotient_mul (q : Nat) {den : Nat} (h : 0 < den) :
    roundQuotient (q * den) den = q := by
  simp [roundQuotient, Nat.mul_div_cancel _ h, h]

@[simp] theorem roundQuotient_one (n : Nat) : roundQuotient n 1 = n := by
  simpa using roundQuotient_mul n Nat.one_pos

/-- Is `num / den` at least `base ^ k`? -/
def atLeastPower (base : Nat) (num den : Nat) : Int → Bool
  | .ofNat k => decide (den * Nat.pow base k ≤ num)
  | .negSucc k => decide (den ≤ num * Nat.pow base (k + 1))

/-- The greatest `k` with `2 ^ k ≤ num / den`, for positive `num` and `den`. -/
def floorLog2 (num den : Nat) : Int :=
  let guess : Int := (Nat.log2 num : Int) - Nat.log2 den
  if atLeastPower 2 num den guess then guess else guess - 1

/-- The number of decimal digits of `n`, one for zero. -/
def digitCount (n : Nat) : Nat := (Nat.toDigits 10 n).length

/-- The greatest `k` with `10 ^ k ≤ num / den`, for positive `num` and `den`. -/
def floorLog10 (num den : Nat) : Int :=
  let guess : Int := (digitCount num : Int) - digitCount den
  if atLeastPower 10 num den guess then guess else guess - 1

end RenderRelay.Number
