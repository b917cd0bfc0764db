import RenderRelay.Number.Double
import RenderRelay.Text.Blank
import RenderRelay.Text.Digit

/-! # Reading numbers from text

* `readInteger` reads an integer that a person typed: white space around it, a sign, decimal
  digits of any script, and single underscores between digits.  More than 4300 digits are
  refused.
* `readDouble` reads a number the same way, with an optional point and exponent, or the
  words for infinity and not-a-number.
* `scanDouble` is the strict core of it, on ASCII digits alone and without underscores.

Around a number stands white space, not the wide class of blanks: the separators U+001C to
U+001F make a text unreadable. -/

namespace RenderRelay.Number

open Text

/-- The greatest number of digits that is read. -/
def maxDigits : Nat := 4300

/-- The text with decimal digits of every script turned into ASCII digits. -/
def plainDigits (cs : List Char) : List Char :=
  cs.map fun c => match decimalValue? c with
    | some value => Char.ofNat (48 + value)
    | none => c

/-- The text without its underscores, if each stands between two digits. -/
def dropUnderscores : (afterDigit : Bool) → List Char → Option (List Char)
  | _, [] => some []
  | afterDigit, '_' :: cs =>
      match cs with
      | c :: _ => if afterDigit && c.isDigit then dropUnderscores false cs else none
      | [] => none
  | _, c :: cs => (dropUnderscores c.isDigit cs).map (c :: ·)

/-- The value of a run of ASCII digits. -/
def digitsValue (cs : List Char) : Nat := cs.foldl (fun n c => 10 * n + (c.toNat - 48)) 0

/-- An optional sign, and what follows it. -/
def splitSign : List Char → Bool × List Char
  | '-' :: cs => (true, cs)
  | '+' :: cs => (false, cs)
  | cs => (false, cs)

/-- The text without the white space around it, in ASCII digits and without underscores. -/
def plainNumber (s : String) : Option (List Char) :=
  dropUnderscores false (plainDigits (trimBy isWhiteSpace s.toList))

/-- The integer that the text spells. -/
def readInteger (s : String) : Option Int := do
  let cs ← plainNumber s
  let (negative, digits) := splitSign cs
  if digits.isEmpty || !digits.all Char.isDigit || maxDigits < digits.length then none
  else
    let value := digitsValue digits
    some (if negative then -value else value)

/-- An exponent, if nothing or a whole exponent part is left. -/
def scanExponent : List Char → Option Int
  | [] => some 0
  | c :: cs =>
      if c = 'e' ∨ c = 'E' then
        let (negative, digits) := splitSign cs
        if digits.isEmpty || !digits.all Char.isDigit then none
        else some (if negative then -(digitsValue digits : Int) else digitsValue digits)
      else none

/-- The number that the characters spell, with no blanks, underscores or foreign digits. -/
def scanDouble (cs : List Char) : Option Double :=
  let (negative, body) := splitSign cs
  let word := body.map Char.toLower
  if word = "inf".toList ∨ word = "infinity".toList then some (.infinite negative)
  else if word = "nan".toList then some .notANumber
  else
    let whole := body.takeWhile Char.isDigit
    let afterWhole := body.dropWhile Char.isDigit
    let (fraction, rest) := match afterWhole with
      | '.' :: cs => (cs.takeWhile Char.isDigit, cs.dropWhile Char.isDigit)
      | cs => ([], cs)
    if whole.isEmpty && fraction.isEmpty then none
    else do
      let exponent ← scanExponent rest
      some (Double.ofDecimal negative (digitsValue (whole ++ fraction))
        (exponent - fraction.length))

/-- The number that the text spells. -/
def readDouble (s : String) : Option Double := do
  let cs ← plainNumber s
  scanDouble cs

end RenderRelay.Number
