import RenderRelay.Number.Double

/-! # The shortest decimal text of a number

* `shortest` finds the decimal with the fewest digits that reads back as the number; of two
  such decimals with equally many digits it takes the nearer one, and the one with an even
  last digit if both are equally near.  It tries one digit, then two, and so on: with `n`
  digits the two neighbours of the value on that decimal grid are the only candidates.  The
  grid of the exact expansion ends the search.
* `DecimalStyle` holds what a format decides beside the digits, and `Double.text` writes a
  number in such a style. -/

namespace RenderRelay.Number

/-- The decimal `digits * 10 ^ exponent`. -/
structure Decimal where
  digits : Nat
  exponent : Int
deriving DecidableEq, Repr

/-- Drops zeros at the end of the digits; the value stays. -/
def Decimal.reduce : (fuel : Nat) → Decimal → Decimal
  | 0, d => d
  | fuel + 1, d =>
      if d.digits ≠ 0 ∧ d.digits % 10 = 0 then reduce fuel ⟨d.digits / 10, d.exponent + 1⟩ else d

/-- `num / den` in units of `10 ^ exponent`, as a quotient again. -/
def inUnits (num den : Nat) : (exponent : Int) → Nat × Nat
  | .ofNat e => (num, den * Nat.pow 10 e)
  | .negSucc e => (num * Nat.pow 10 (e + 1), den)

/-- The neighbour of `num / den` on the grid of `10 ^ exponent` that reads back as `value`.
If both do it is the nearer one, and half way between them the even one. -/
def readBackAt (value : Double) (num den : Nat) (exponent : Int) : Option Decimal :=
  let (num, den) := inUnits num den exponent
  let lower : Decimal := ⟨num / den, exponent⟩
  let upper : Decimal := ⟨num / den + 1, exponent⟩
  let reads (d : Decimal) : Bool := Double.ofDecimal false d.digits d.exponent == value
  match reads lower, reads upper with
  | true, true => some ⟨roundQuotient num den, exponent⟩
  | true, false => some lower
  | false, true => some upper
  | false, false => none

/-- The first grid, from `tried` digits on, with a decimal that reads back. -/
def searchGrids (value : Double) (num den : Nat) (top : Int) : (left tried : Nat) → Decimal
  | 0, tried =>
      let (num, den) := inUnits num den (top - tried)
      ⟨num / den, top - tried⟩
  | left + 1, tried =>
      match readBackAt value num den (top - tried) with
      | some d => d
      | none => searchGrids value num den top left (tried + 1)

/-- The decimal with the fewest digits that reads back as `mantissa * 2 ^ exponent`. -/
def shortest (mantissa : Nat) (exponent : Int) : Decimal :=
  let (num, den) := Double.asQuotient mantissa exponent
  let top := floorLog10 num den
  let exact := (top - min exponent 0).toNat
  let found := searchGrids (Double.ofParts false mantissa exponent) num den top exact 0
  found.reduce (digitCount found.digits)

/-- What a format decides about the text of a number.  A number whose first digit stands at a
power of ten from `lowest` to below `beyond` is written out, with at least one digit after
the point; any other one is written with an exponent of at least `exponentDigits` digits. -/
structure DecimalStyle where
  lowest : Int
  beyond : Int
  exponentDigits : Nat
  infinity : String
  notANumber : String

/-- The decimal digits of a natural number. -/
def natDigits (n : Nat) : List Char := Nat.toDigits 10 n

/-- `count` zeros. -/
def zeros (count : Nat) : List Char := List.replicate count '0'

/-- The text of a positive decimal. -/
def DecimalStyle.write (style : DecimalStyle) (d : Decimal) : List Char :=
  let digits := natDigits d.digits
  let power : Int := d.exponent + digits.length - 1
  if style.lowest ≤ power ∧ power < style.beyond then
    if power < 0 then
      '0' :: '.' :: zeros (-power - 1).toNat ++ digits
    else
      let whole := (power + 1).toNat
      if digits.length ≤ whole then digits ++ zeros (whole - digits.length) ++ ['.', '0']
      else digits.take whole ++ '.' :: digits.drop whole
  else
    let head := digits.take 1 ++ (if digits.length = 1 then [] else '.' :: digits.drop 1)
    let exponent := natDigits power.natAbs
    head ++ 'e' :: (if power < 0 then '-' else '+') ::
      (zeros (style.exponentDigits - exponent.length) ++ exponent)

end RenderRelay.Number

namespace RenderRelay.Double

open Number

/-- The text of a number in a style. -/
def textChars (style : DecimalStyle) : Double → List Char
  | .finite negative mantissa exponent _ =>
      let body := if mantissa = 0 then ['0', '.', '0'] else style.write (shortest mantissa exponent)
      if negative then '-' :: body else body
  | .infinite negative =>
      if negative then '-' :: style.infinity.toList else style.infinity.toList
  | .notANumber => style.notANumber.toList

/-- The text of a number in a style. -/
def text (style : DecimalStyle) (x : Double) : String := String.ofList (x.textChars style)

end RenderRelay.Double
