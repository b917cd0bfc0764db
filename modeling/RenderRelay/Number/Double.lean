import RenderRelay.Number.Rounding

/-! # Binary64 numbers

The numbers of the IEEE 754 format binary64, as exact values.

* A finite number is a sign, a mantissa below 2^53 and an exponent of two, in the one
  canonical form that the format gives it; beside these stand two infinities and one
  not-a-number.
* `ofRatio` rounds an exact quotient to the nearest number, a tie to the even mantissa; a
  value beyond the greatest number becomes infinite.
* Sums, differences, products and comparisons are those of the exact values, rounded once. -/

namespace RenderRelay

/-- The one form of a finite number: the mantissa has 53 bits unless the exponent is least. -/
def Double.Canonical (mantissa : Nat) (exponent : Int) : Prop :=
  mantissa < Nat.pow 2 53 ∧ -1074 ≤ exponent ∧ exponent ≤ 971 ∧
    (exponent = -1074 ∨ Nat.pow 2 52 ≤ mantissa)

instance (mantissa : Nat) (exponent : Int) : Decidable (Double.Canonical mantissa exponent) := by
  unfold Double.Canonical; infer_instance

/-- A binary64 number; a finite one is `mantissa * 2 ^ exponent` with a sign. -/
inductive Double where
  | finite (negative : Bool) (mantissa : Nat) (exponent : Int)
      (canonical : Double.Canonical mantissa exponent)
  | infinite (negative : Bool)
  | notANumber
deriving DecidableEq, Repr

namespace Double

open Number

/-- Zero with a sign. -/
def zero (negative : Bool) : Double :=
  .finite negative 0 (-1074) (by decide)

instance : Inhabited Double := ⟨zero false⟩

/-- The number of a canonical pair; any other pair stands for a value beyond all numbers. -/
def ofParts (negative : Bool) (mantissa : Nat) (exponent : Int) : Double :=
  if canonical : Canonical mantissa exponent then .finite negative mantissa exponent canonical
  else .infinite negative

/-- The exponent at which a positive quotient has a mantissa of 53 bits, or the least one. -/
def exponentFor (num den : Nat) : Int := max (floorLog2 num den - 52) (-1074)

/-- The mantissa of `num / den` at an exponent, rounded. -/
def mantissaAt (num den : Nat) : Int → Nat
  | .ofNat e => roundQuotient num (den * Nat.pow 2 e)
  | .negSucc e => roundQuotient (num * Nat.pow 2 (e + 1)) den

/-- The number nearest to `num / den`, with a sign. -/
def ofRatio (negative : Bool) (num den : Nat) : Double :=
  if num = 0 ∨ den = 0 then zero negative
  else
    let exponent := exponentFor num den
    let mantissa := mantissaAt num den exponent
    if mantissa = Nat.pow 2 53 then ofParts negative (Nat.pow 2 52) (exponent + 1)
    else ofParts negative mantissa exponent

/-- The number nearest to `significand * 2 ^ exponent`. -/
def ofScaled (negative : Bool) (significand : Nat) : (exponent : Int) → Double
  | .ofNat e => ofRatio negative (significand * Nat.pow 2 e) 1
  | .negSucc e => ofRatio negative significand (Nat.pow 2 (e + 1))

/-- The number nearest to an integer. -/
def ofInt (n : Int) : Double := ofRatio (decide (n < 0)) n.natAbs 1

/-- The number nearest to `digits * 10 ^ exponent`, with a sign.  An exponent far outside the
range decides the answer without being raised to a power. -/
def ofDecimal (negative : Bool) (digits : Nat) (exponent : Int) : Double :=
  if digits = 0 then zero negative
  else
    let magnitude := exponent + digitCount digits
    if 310 < magnitude then .infinite negative
    else if magnitude < -330 then zero negative
    else match exponent with
      | .ofNat e => ofRatio negative (digits * Nat.pow 10 e) 1
      | .negSucc e => ofRatio negative digits (Nat.pow 10 (e + 1))

/-- The number with the other sign. -/
def neg : Double → Double
  | .finite s m e h => .finite (!s) m e h
  | .infinite s => .infinite (!s)
  | .notANumber => .notANumber

instance : Neg Double := ⟨neg⟩

/-- The signed mantissa. -/
def signed (negative : Bool) (mantissa : Nat) : Int := if negative then -mantissa else mantissa

/-- `s * 2 ^ e` as a multiple of `2 ^ least`, where `least ≤ e`. -/
def alignTo (least : Int) (s e : Int) : Int :=
  s * Int.ofNat (Nat.pow 2 (e - least).toNat)

/-- The sum of the exact values, rounded; a zero sum is negative only if both terms are. -/
def add : Double → Double → Double
  | .finite s m e _, .finite t n f _ =>
      let least := min e f
      let sum := alignTo least (signed s m) e + alignTo least (signed t n) f
      if sum = 0 then zero (s && t) else ofScaled (decide (sum < 0)) sum.natAbs least
  | .notANumber, _ | _, .notANumber => .notANumber
  | .infinite s, .infinite t => if s = t then .infinite s else .notANumber
  | .infinite s, .finite .. => .infinite s
  | .finite .., .infinite t => .infinite t

instance : Add Double := ⟨add⟩
instance : Sub Double := ⟨fun x y => x + -y⟩

/-- The product of the exact values, rounded. -/
def mul : Double → Double → Double
  | .finite s m e _, .finite t n f _ => ofScaled (s != t) (m * n) (e + f)
  | .notANumber, _ | _, .notANumber => .notANumber
  | .infinite s, .infinite t => .infinite (s != t)
  | .infinite s, .finite t n _ _ => if n = 0 then .notANumber else .infinite (s != t)
  | .finite s m _ _, .infinite t => if m = 0 then .notANumber else .infinite (s != t)

instance : Mul Double := ⟨mul⟩

/-- Is the first value below the second?  Not-a-number is below nothing and nothing below it. -/
def less : Double → Double → Bool
  | .finite s m e _, .finite t n f _ =>
      let least := min e f
      decide (alignTo least (signed s m) e < alignTo least (signed t n) f)
  | .notANumber, _ | _, .notANumber => false
  | .infinite s, .infinite t => s && !t
  | .infinite s, .finite .. => s
  | .finite .., .infinite t => !t

/-- The lesser of two numbers, the first of equal ones. -/
def least (x y : Double) : Double := if less y x then y else x

/-- The greater of two numbers, the first of equal ones. -/
def greatest (x y : Double) : Double := if less x y then y else x

/-- Is the number neither infinite nor not-a-number? -/
def isFinite : Double → Bool
  | .finite .. => true
  | _ => false

/-- Is the number a zero of either sign? -/
def isZero : Double → Bool
  | .finite _ m _ _ => m == 0
  | _ => false

/-- `mantissa * 2 ^ exponent` as a quotient of natural numbers. -/
def asQuotient (mantissa : Nat) : (exponent : Int) → Nat × Nat
  | .ofNat e => (mantissa * Nat.pow 2 e, 1)
  | .negSucc e => (mantissa, Nat.pow 2 (e + 1))

/-- The integer part, cut toward zero. -/
def truncate? : Double → Option Int
  | .finite s m e _ =>
      let (num, den) := asQuotient m e
      some (signed s (num / den))
  | _ => none

/-- The nearest integer, a half to the even neighbour. -/
def round? : Double → Option Int
  | .finite s m e _ =>
      let (num, den) := asQuotient m e
      some (signed s (roundQuotient num den))
  | _ => none

/-- The integer that the number equals, if there is one. -/
def integer? : Double → Option Int
  | .finite s m e _ =>
      let (num, den) := asQuotient m e
      if num % den = 0 then some (signed s (num / den)) else none
  | _ => none

/-- The `n`-th part of a number. -/
def part (x : Double) (n : Nat) : Double :=
  match x with
  | .finite s m e _ =>
      let (num, den) := asQuotient m e
      ofRatio s num (den * n)
  | x => x

theorem ofParts_of_canonical (negative : Bool) {m : Nat} {e : Int} (h : Canonical m e) :
    ofParts negative m e = .finite negative m e h := by
  simp [ofParts, h]

end Double

end RenderRelay
