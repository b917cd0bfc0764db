import RenderRelay.Json.Printer
import RenderRelay.Number.Read

/-! # Reading JSON

`Json.read` reads one value from a text.

* Beside the standard forms it takes the words `NaN`, `Infinity` and `-Infinity`.
* A number with a point or an exponent is a binary64 number, any other one an integer of at
  most 4300 digits.
* Of a key that is written twice, the last value counts, at the first place.
* An error says what was wrong and where; the place is kept as the number of characters that
  were left, and `ReadError.message` turns it into line, column and offset.

A surrogate that stands alone in an escape is read as U+FFFD, since a text holds no
surrogates.  What is said of the reading of all texts is meant of those without such an escape. -/

namespace RenderRelay.Json

open Number

/-- What is wrong with a text. -/
inductive ReadCause where
  | byteOrderMark
  | expectingValue
  | expectingKey
  | expectingColon
  | expectingComma
  | extraData
  | unterminatedString
  | controlCharacter
  | badEscape
  | badUnicodeEscape
  | integerTooLong
  | outOfFuel
deriving DecidableEq, Repr

/-- A cause, and how many characters were left at the place. -/
structure ReadError where
  cause : ReadCause
  remaining : Nat
deriving DecidableEq, Repr

/-- A failed reading at the start of `rest`. -/
def failAt {α : Type} (cause : ReadCause) (rest : List Char) : Except ReadError α :=
  .error ⟨cause, rest.length⟩

/-- The blanks between the parts of a text. -/
def isGap (c : Char) : Bool := c = ' ' || c = '\t' || c = '\n' || c = '\r'

/-- The text from its first character that is no gap. -/
def skipGaps (cs : List Char) : List Char := cs.dropWhile isGap

/-- The value of a hexadecimal digit. -/
def hexValue? (c : Char) : Option Nat :=
  if '0' ≤ c ∧ c ≤ '9' then some (c.toNat - 48)
  else if 'a' ≤ c ∧ c ≤ 'f' then some (c.toNat - 87)
  else if 'A' ≤ c ∧ c ≤ 'F' then some (c.toNat - 55)
  else none

/-- The UTF-16 unit of four hexadecimal digits. -/
def unitValue? (a b c d : Char) : Option Nat := do
  let a ← hexValue? a
  let b ← hexValue? b
  let c ← hexValue? c
  let d ← hexValue? d
  some (a * 4096 + b * 256 + c * 16 + d)

/-- The unit of an escape whose `u` starts `cs`, and what follows; a character must follow. -/
def readUnit : List Char → Except ReadError (Nat × List Char)
  | 'u' :: a :: b :: c :: d :: e :: rest =>
      match unitValue? a b c d with
      | some unit => .ok (unit, e :: rest)
      | none => failAt .badUnicodeEscape ('u' :: a :: b :: c :: d :: e :: rest)
  | cs => failAt .badUnicodeEscape cs

/-- The character of a simple escape. -/
def simpleEscape? (c : Char) : Option Char :=
  if c = '"' ∨ c = '\\' ∨ c = '/' then some c
  else if c = 'b' then some '\x08'
  else if c = 'f' then some '\x0C'
  else if c = 'n' then some '\n'
  else if c = 'r' then some '\r'
  else if c = 't' then some '\t'
  else none

/-- The low surrogate that an escape at the start of `cs` holds, and what follows it. -/
def readLow? (cs : List Char) : Option (Nat × List Char) :=
  match cs with
  | '\\' :: 'u' :: rest =>
      match readUnit ('u' :: rest) with
      | .ok (unit, rest) => if 0xDC00 ≤ unit ∧ unit < 0xE000 then some (unit, rest) else none
      | .error _ => none
  | _ => none

/-- The rest of a text after its opening quote.  `opened` counts the characters that were
left at that quote, and `acc` holds what was read, last character first. -/
def readStringRest (opened : Nat) : (fuel : Nat) → (acc : List Char) → List Char →
    Except ReadError (List Char × List Char)
  | 0, _, cs => failAt .outOfFuel cs
  | fuel + 1, acc, cs =>
      match cs with
      | [] => .error ⟨.unterminatedString, opened⟩
      | '"' :: rest => .ok (acc.reverse, rest)
      | '\\' :: rest =>
          match rest with
          | [] => .error ⟨.unterminatedString, opened⟩
          | 'u' :: _ => do
              let (unit, rest) ← readUnit rest
              if 0xD800 ≤ unit ∧ unit < 0xDC00 then
                match readLow? rest with
                | some (low, rest) =>
                    let c := Char.ofNat (0x10000 + (unit - 0xD800) * 0x400 + (low - 0xDC00))
                    readStringRest opened fuel (c :: acc) rest
                | none => readStringRest opened fuel (Char.ofNat 0xFFFD :: acc) rest
              else if 0xDC00 ≤ unit ∧ unit < 0xE000 then
                readStringRest opened fuel (Char.ofNat 0xFFFD :: acc) rest
              else readStringRest opened fuel (Char.ofNat unit :: acc) rest
          | c :: more =>
              match simpleEscape? c with
              | some c => readStringRest opened fuel (c :: acc) more
              | none => failAt .badEscape ('\\' :: c :: more)
      | c :: rest =>
          if c.toNat < 0x20 then failAt .controlCharacter (c :: rest)
          else readStringRest opened fuel (c :: acc) rest

/-- The text whose opening quote stood just before `cs`, and what follows it. -/
def readString (cs : List Char) : Except ReadError (String × List Char) := do
  let (chars, rest) ← readStringRest (cs.length + 1) (cs.length + 1) [] cs
  .ok (String.ofList chars, rest)

/-- The whole part of a number: a lone zero, or digits that start with no zero. -/
def wholePart : List Char → Option (List Char × List Char)
  | '0' :: rest => some (['0'], rest)
  | c :: rest =>
      if '1' ≤ c ∧ c ≤ '9' then
        some (c :: rest.takeWhile Char.isDigit, rest.dropWhile Char.isDigit)
      else none
  | [] => none

/-- A point and digits, if they stand here. -/
def fractionPart (cs : List Char) : Option (List Char × List Char) :=
  match cs with
  | '.' :: rest =>
      if (rest.takeWhile Char.isDigit).isEmpty then none
      else some (rest.takeWhile Char.isDigit, rest.dropWhile Char.isDigit)
  | _ => none

/-- An exponent, if one stands here. -/
def exponentPart (cs : List Char) : Option (Int × List Char) :=
  match cs with
  | e :: rest =>
      if e = 'e' ∨ e = 'E' then
        let (negative, rest) := splitSign rest
        let digits := rest.takeWhile Char.isDigit
        if digits.isEmpty then none
        else some (if negative then -(digitsValue digits : Int) else digitsValue digits,
          rest.dropWhile Char.isDigit)
      else none
  | [] => none

/-- The number of a sign and of the characters of `body`; what is wrong is wrong at `cs`. -/
def readUnsigned (cs : List Char) (negative : Bool) (body : List Char) :
    Except ReadError (Json × List Char) :=
  match wholePart body with
  | none => failAt .expectingValue cs
  | some (whole, rest) =>
      match fractionPart rest, exponentPart rest with
      | none, none =>
          if maxDigits < whole.length then failAt .integerTooLong cs
          else .ok (.int (if negative then -(digitsValue whole : Int) else digitsValue whole), rest)
      | none, some (exponent, rest) =>
          .ok (.float (Double.ofDecimal negative (digitsValue whole) exponent), rest)
      | some (fraction, rest), _ =>
          let (exponent, rest) := (exponentPart rest).getD (0, rest)
          .ok (.float (Double.ofDecimal negative (digitsValue (whole ++ fraction))
            (exponent - fraction.length)), rest)

/-- The number at the start of `cs`. -/
def readNumber (cs : List Char) : Except ReadError (Json × List Char) :=
  match cs with
  | '-' :: rest => readUnsigned cs true rest
  | _ => readUnsigned cs false cs

/-- The words that stand for values. -/
def keywords : List (List Char × Json) :=
  [("null".toList, .null), ("true".toList, .bool true), ("false".toList, .bool false),
    ("NaN".toList, .float .notANumber), ("Infinity".toList, .float (.infinite false)),
    ("-Infinity".toList, .float (.infinite true))]

/-- A word or a number at the start of `cs`. -/
def readAtom (cs : List Char) : Except ReadError (Json × List Char) :=
  match keywords.find? fun entry => entry.1.isPrefixOf cs with
  | some (word, value) => .ok (value, cs.drop word.length)
  | none => readNumber cs

mutual

/-- The value at the start of `cs`, and what follows it. -/
def readValue : (fuel : Nat) → List Char → Except ReadError (Json × List Char)
  | 0, cs => failAt .outOfFuel cs
  | fuel + 1, cs =>
      match cs with
      | '"' :: rest => do
          let (s, rest) ← readString rest
          .ok (.str s, rest)
      | '[' :: rest =>
          match skipGaps rest with
          | ']' :: rest => .ok (.arr [], rest)
          | rest => readItems fuel [] rest
      | c :: rest =>
          if c = Char.ofNat 0x7B then
            match skipGaps rest with
            | d :: rest =>
                if d = Char.ofNat 0x7D then .ok (.obj [], rest) else readFields fuel [] (d :: rest)
            | [] => readFields fuel [] []
          else readAtom (c :: rest)
      | [] => failAt .expectingValue []

/-- The items of a list from the start of one, `acc` holding those before, last first. -/
def readItems : (fuel : Nat) → (acc : List Json) → List Char →
    Except ReadError (Json × List Char)
  | 0, _, cs => failAt .outOfFuel cs
  | fuel + 1, acc, cs => do
      let (item, rest) ← readValue fuel cs
      match skipGaps rest with
      | ']' :: rest => .ok (.arr (item :: acc).reverse, rest)
      | ',' :: rest => readItems fuel (item :: acc) (skipGaps rest)
      | rest => failAt .expectingComma rest

/-- The fields of an object from the start of a key, `acc` holding those before. -/
def readFields : (fuel : Nat) → (acc : Fields) → List Char →
    Except ReadError (Json × List Char)
  | 0, _, cs => failAt .outOfFuel cs
  | fuel + 1, acc, cs =>
      match cs with
      | '"' :: rest => do
          let (key, rest) ← readString rest
          match skipGaps rest with
          | ':' :: rest => do
              let (value, rest) ← readValue fuel (skipGaps rest)
              match skipGaps rest with
              | ',' :: rest => readFields fuel (acc.put key value) (skipGaps rest)
              | c :: rest =>
                  if c = Char.ofNat 0x7D then .ok (.obj (acc.put key value), rest)
                  else failAt .expectingComma (c :: rest)
              | [] => failAt .expectingComma []
          | rest => failAt .expectingColon rest
      | rest => failAt .expectingKey rest

end

/-- The one value that the characters hold, with gaps around it. -/
def readChars (cs : List Char) : Except ReadError Json := do
  if cs.head? = some (Char.ofNat 0xFEFF) then failAt .byteOrderMark cs
  else
    let (value, rest) ← readValue (2 * cs.length + 2) (skipGaps cs)
    match skipGaps rest with
    | [] => .ok value
    | rest => failAt .extraData rest

/-- The one value that a text holds. -/
def read (text : String) : Except ReadError Json := readChars text.toList

/-! ### Messages -/

/-- What a cause says. -/
def ReadCause.phrase : ReadCause → String
  | .byteOrderMark => "Unexpected UTF-8 BOM (decode using utf-8-sig)"
  | .expectingValue => "Expecting value"
  | .expectingKey => "Expecting property name enclosed in double quotes"
  | .expectingColon => "Expecting ':' delimiter"
  | .expectingComma => "Expecting ',' delimiter"
  | .extraData => "Extra data"
  | .unterminatedString => "Unterminated string starting at"
  | .controlCharacter => "Invalid control character at"
  | .badEscape => "Invalid \\escape"
  | .badUnicodeEscape => "Invalid \\uXXXX escape"
  | .integerTooLong => "Exceeds the limit of digits for an integer"
  | .outOfFuel => "Nested too deeply"

/-- What is wrong with `text`, and where: line and column from one, offset from zero. -/
def ReadError.message (error : ReadError) (text : String) : String :=
  let cs := text.toList
  let offset := cs.length - error.remaining
  let before := cs.take offset
  let line := before.count '\n' + 1
  let column := (before.reverse.takeWhile fun c => c ≠ '\n').length + 1
  s!"{error.cause.phrase}: line {line} column {column} (char {offset})"

end RenderRelay.Json
