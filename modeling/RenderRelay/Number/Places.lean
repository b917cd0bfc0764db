import RenderRelay.Number.Shortest

/-! # Numbers to a number of places

Three texts of a number with a given number of digits, each rounded once from the exact value,
a half to the even neighbour.

* `fixedChars`: so many digits after the point.
* `exponentChars`: one digit before the point, so many after it, and an exponent.
* `generalChars`: so many digits in all, in the one form or the other, without zeros at the
  end.

In their full form they keep those zeros, and have a point even if no digit follows it. -/

namespace RenderRelay.Number

/-- A number in digits, with zeros before it. -/
def paddedDigits (width n : Nat) : List Char :=
  zeros (width - (natDigits n).length) ++ natDigits n

/-- `count / 10 ^ places` with its point. -/
def withPoint (full : Bool) (places count : Nat) : List Char :=
  natDigits (count / Nat.pow 10 places) ++
    (if places = 0 then (if full then ['.'] else [])
    else '.' :: paddedDigits places (count % Nat.pow 10 places))

/-- `num / den` with so many digits after the point. -/
def fixedChars (full : Bool) (places num den : Nat) : List Char :=
  withPoint full places (roundQuotient (num * Nat.pow 10 places) den)

/-- `num / den` as a count of `places + 1` digits and the power of its first digit. -/
def leadingDigits (places num den : Nat) : Nat × Int :=
  if num = 0 then (0, 0)
  else
    let power := floorLog10 num den
    let units := inUnits num den (power - places)
    let count := roundQuotient units.1 units.2
    if count = Nat.pow 10 (places + 1) then (Nat.pow 10 places, power + 1) else (count, power)

/-- An exponent with its letter and sign, of at least two digits. -/
def exponentPart (power : Int) : List Char :=
  'e' :: (if power < 0 then '-' else '+') :: paddedDigits 2 power.natAbs

/-- `num / den` with one digit before the point and an exponent. -/
def exponentChars (full : Bool) (places num den : Nat) : List Char :=
  let (count, power) := leadingDigits places num den
  withPoint full places count ++ exponentPart power

/-- The digits without zeros at the end of a fraction. -/
def withoutEndZeros (cs : List Char) : List Char :=
  if cs.contains '.' then
    (((cs.reverse.dropWhile (· = '0')).dropWhile (· = '.'))).reverse
  else cs

/-- `num / den` with so many digits in all. -/
def generalChars (full : Bool) (digits num den : Nat) : List Char :=
  let digits := max digits 1
  let trimmed (cs : List Char) : List Char := if full then cs else withoutEndZeros cs
  let (count, power) := leadingDigits (digits - 1) num den
  if -4 ≤ power ∧ power < digits then
    trimmed (fixedChars full (digits - 1 - power).toNat num den)
  else trimmed (withPoint full (digits - 1) count) ++ exponentPart power

end RenderRelay.Number

namespace RenderRelay.Double

open Number

/-- A number to so many places after the point. -/
def roundTo (places : Nat) : Double → Double
  | .finite s m e _ =>
      let (num, den) := asQuotient m e
      ofDecimal s (roundQuotient (num * Nat.pow 10 places) den) (-places)
  | x => x

/-- The text of a number with so many digits after the point. -/
def fixedText (places : Nat) : Double → String
  | .finite s m e _ =>
      let (num, den) := asQuotient m e
      String.ofList ((if s then ['-'] else []) ++ fixedChars false places num den)
  | .infinite s => if s then "-inf" else "inf"
  | .notANumber => "nan"

end RenderRelay.Double
