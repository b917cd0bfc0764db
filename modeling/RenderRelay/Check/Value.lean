import RenderRelay.Check.Issue
import RenderRelay.Number.Read
import RenderRelay.Text.Search

/-! # Readers of values

How the value of a checked field is read.

* Numbers may be given as text, and booleans count as zero and one; nothing but text is text.
* The text of an integer may have blanks around it, a sign, leading zeros, single underscores
  and a fraction of zeros, but no exponent.
* The text of a number may have blanks around it or single underscores within.
* The text of a boolean is one of a few words in letters of either case. -/

namespace RenderRelay.Check

open Text Number

variable {α : Type}

/-- A text as it is. -/
def text : Reader String
  | .str s => .ok s
  | _ => .error .notText

/-- A text without white space around it. -/
def trimmedText : Reader String := fun value => (text value).map trimWhiteSpace

/-- A text of at least one character and, with a limit, at most so many. -/
def boundedText (limit : Option Nat) (read : Reader String) : Reader String := fun value => do
  let s ← read value
  if s.isEmpty then .error .tooShort
  else match limit with
    | some limit => if limit < s.length then .error (.tooLong limit) else .ok s
    | none => .ok s

/-- A value or null. -/
def optional (read : Reader α) : Reader (Option α)
  | .null => .ok none
  | value => (read value).map some

/-! ### Numbers -/

/-- The text without underscores, if there are some and each stands alone between others. -/
def withoutUnderscores (cs : List Char) : Option (List Char) :=
  if cs.head? = some '_' || cs.getLast? = some '_' || hasInfixChars "__".toList cs
      || !cs.contains '_' then none
  else some (cs.filter fun c => c ≠ '_')

/-- The number that a text spells. -/
def numberOfText (s : String) : Option Double :=
  match scanDouble (trimBy isWhiteSpace s.toList) with
  | some x => some x
  | none => withoutUnderscores s.toList >>= scanDouble

/-- A number. -/
def number : Reader Double
  | .float x => .ok x
  | .int n => match Double.ofInt n with
      | .finite s m e h => .ok (.finite s m e h)
      | _ => .error .notNumber
  | .bool b => .ok (Double.ofInt (if b then 1 else 0))
  | .str s => match numberOfText s with
      | some x => .ok x
      | none => .error .numberText
  | _ => .error .notNumber

/-- A number that is not below zero. -/
def nonNegative : Reader Double := fun value => do
  let x ← number value
  if Double.less x (Double.zero false) then .error .negative else .ok x

/-! ### Integers -/

/-- What follows the leading zeros of a number that starts with a zero: at least one character
is left, and a point keeps the zero before it. -/
def dropZeros : (previous : Char) → List Char → Option (List Char)
  | previous, [] => some [previous]
  | previous, c :: cs =>
      if c = '0' ∨ c = '_' then dropZeros c cs
      else if c.isDigit then some (c :: cs)
      else if c = '.' then some (previous :: c :: cs)
      else none

/-- The number without leading zeros. -/
def withoutZeros : List Char → Option (List Char)
  | '0' :: cs => dropZeros '0' cs
  | c :: cs => if c.isDigit ∨ c = '-' then some (c :: cs) else none
  | [] => none

/-- The number without a plus sign; no other sign may follow it. -/
def withoutPlus : List Char → Option (List Char)
  | '+' :: '-' :: _ => none
  | '+' :: cs => some cs
  | cs => some cs

/-- The number without a fraction of zeros. -/
def withoutFraction (cs : List Char) : List Char :=
  match cs.dropWhile fun c => c ≠ '.' with
  | '.' :: zeros => if zeros.all fun c => c = '0' then cs.takeWhile fun c => c ≠ '.' else cs
  | _ => cs

/-- The integer that digits spell: the first is no zero unless it is the only one. -/
def plainInteger (negative : Bool) (digits : List Char) : Except IssueKind Int :=
  if digits.isEmpty || !digits.all Char.isDigit || (digits.head? = some '0' && 1 < digits.length)
  then .error .integerText
  else if maxDigits < digits.length then .error .integerSize
  else .ok (if negative then -(digitsValue digits : Int) else digitsValue digits)

/-- The integer that a text spells. -/
def integerOfText (s : String) : Except IssueKind Int :=
  match withoutPlus (trimBy isWhiteSpace s.toList) >>= withoutZeros with
  | none => .error .integerText
  | some cs =>
      let cs := withoutFraction cs
      match (withoutUnderscores cs).getD cs with
      | '-' :: digits => plainInteger true digits
      | digits => plainInteger false digits

/-- The bound of the integers that a floating-point number may stand for. -/
def integerBound : Int := 9223372036854775808

/-- The integer that a floating-point number equals. -/
def integerOfDouble (x : Double) : Except IssueKind Int :=
  match x with
  | .finite .. => match x.integer? with
      | some n =>
          if -integerBound < n ∧ n < integerBound then .ok n else .error .integerSize
      | none => .error .integerFraction
  | _ => .error .notFinite

/-- An integer. -/
def integer : Reader Int
  | .int n => .ok n
  | .bool b => .ok (if b then 1 else 0)
  | .float x => integerOfDouble x
  | .str s => integerOfText s
  | _ => .error .notInteger

/-! ### Booleans -/

/-- The words for a boolean, in small letters. -/
def booleanWords : Bool → List String
  | true => ["1", "t", "y", "on", "yes", "true"]
  | false => ["0", "f", "n", "no", "off", "false"]

/-- A text with its ASCII letters made small. -/
def lowerAscii (s : String) : String := String.ofList (s.toList.map Char.toLower)

/-- The boolean that a text spells. -/
def booleanOfText (s : String) : Except IssueKind Bool :=
  let word := lowerAscii s
  if (booleanWords true).contains word then .ok true
  else if (booleanWords false).contains word then .ok false
  else .error .booleanText

/-- The boolean that an integer stands for. -/
def booleanOfInteger (n : Int) : Except IssueKind Bool :=
  if n = 0 then .ok false else if n = 1 then .ok true else .error .booleanText

/-- A boolean. -/
def boolean : Reader Bool
  | .bool b => .ok b
  | .int n =>
      if -integerBound ≤ n ∧ n < integerBound then booleanOfInteger n else .error .notBoolean
  | .float x => match integerOfDouble x with
      | .ok n => booleanOfInteger n
      | .error _ => .error .notBoolean
  | .str s => booleanOfText s
  | _ => .error .notBoolean

end RenderRelay.Check
