import RenderRelay.Failure
import RenderRelay.Number.Places
import RenderRelay.Number.Read

/-! # Templates

A template is a text with slots such as `%s`, `%-8s`, `%05.1f` or `%(name)s`.

* A slot takes the next of the given values, or the one of its key.
* Flags, a width and a precision say how the value is written; a star takes a number from the
  values.
* It is a failure if there are too few values or too many, if a value does not fit its slot,
  or if a slot cannot be read. -/

namespace RenderRelay.Log

open Number

/-- The values for the slots of a template. -/
inductive Supply where
  | listed (values : List Json)
  | named (fields : Fields)
deriving DecidableEq, Repr

/-- A number in a slot: none, given, or taken from the values. -/
inductive SlotNumber where
  | none
  | given (n : Nat)
  | taken
deriving DecidableEq, Repr

/-- The key of a slot: none, given, or one whose bracket is never closed. -/
inductive SlotKey where
  | none
  | given (key : String)
  | unclosed
deriving DecidableEq, Repr

/-- A slot of a template; a template that ends too early leaves a slot without a kind. -/
structure Slot where
  key : SlotKey
  flags : List Char
  width : SlotNumber
  precision : SlotNumber
  kind : Option Char
deriving DecidableEq, Repr

/-! ### Reading slots -/

/-- The characters up to the bracket that closes the one before them, and what follows. -/
def splitKey : (depth : Nat) → List Char → Option (List Char × List Char)
  | _, [] => none
  | depth, c :: cs =>
      if c = ')' then
        match depth with
        | 0 => some ([], cs)
        | depth + 1 => (splitKey depth cs).map fun (key, rest) => (c :: key, rest)
      else if c = '(' then (splitKey (depth + 1) cs).map fun (key, rest) => (c :: key, rest)
      else (splitKey depth cs).map fun (key, rest) => (c :: key, rest)

/-- Is the character a flag? -/
def isFlag (c : Char) : Bool := c = '-' || c = '+' || c = ' ' || c = '#' || c = '0'

/-- A number in a slot, and what follows. -/
def splitNumber (empty : SlotNumber) (cs : List Char) : SlotNumber × List Char :=
  match cs with
  | '*' :: rest => (.taken, rest)
  | cs =>
      let digits := cs.takeWhile Char.isDigit
      (if digits.isEmpty then empty else .given (digitsValue digits), cs.dropWhile Char.isDigit)

/-- The slot after a percent sign and its key, and what follows. -/
def splitSlot (key : SlotKey) (cs : List Char) : Slot × List Char :=
  let flags := cs.takeWhile isFlag
  let (width, cs) := splitNumber .none (cs.dropWhile isFlag)
  let (precision, cs) := match cs with
    | '.' :: cs => splitNumber (.given 0) cs
    | cs => (.none, cs)
  let cs := match cs with
    | c :: rest => if c = 'h' ∨ c = 'l' ∨ c = 'L' then rest else c :: rest
    | [] => []
  (⟨key, flags, width, precision, cs.head?⟩, cs.drop 1)

/-- The slot after a percent sign, and what follows. -/
def splitKeyed : List Char → Slot × List Char
  | '(' :: rest =>
      match splitKey 0 rest with
      | some (key, rest) => splitSlot (.given (String.ofList key)) rest
      | none => (⟨.unclosed, [], .none, .none, none⟩, [])
  | cs => splitSlot .none cs

/-- A piece of a template. -/
inductive Piece where
  | literal (c : Char)
  | slot (slot : Slot)
deriving DecidableEq, Repr

/-- The pieces of a template; two percent signs stand for one. -/
def pieces : (fuel : Nat) → List Char → List Piece
  | 0, _ => []
  | _ + 1, [] => []
  | fuel + 1, '%' :: '%' :: rest => .literal '%' :: pieces fuel rest
  | fuel + 1, '%' :: cs =>
      let (slot, rest) := splitKeyed cs
      .slot slot :: pieces fuel rest
  | fuel + 1, c :: cs => .literal c :: pieces fuel cs

/-! ### Filling slots -/

/-- What is left of the values: those in line, and those by key. -/
structure Filling where
  line : List Json
  keyed : Option Fields

/-- The values of a supply; fields are also one value in line. -/
def Filling.ofSupply : Supply → Filling
  | .listed values => ⟨values, none⟩
  | .named fields => ⟨[.obj fields], some fields⟩

/-- A step that takes values. -/
abbrev Fill (α : Type) := StateT Filling (Except Failure) α

/-- The next value. -/
def nextValue : Fill Json := do
  let filling ← get
  match filling.line with
  | value :: rest => do
      set { filling with line := rest }
      return value
  | [] => throw .wrongKind

/-- Looks up the value of a key, which becomes the only one in line. -/
def takeKey : SlotKey → Fill Unit
  | .none => return
  | key => do
      let filling ← get
      match filling.keyed, key with
      | none, _ => throw .wrongKind
      | some fields, .given key => match fields.get? key with
          | some value => set { filling with line := [value] }
          | none => throw (.missingField key)
      | some _, _ => throw .unreadable

/-- The bound of the numbers that are taken from the values. -/
def numberBound : Nat := Nat.pow 2 31

/-- The number of a slot. -/
def slotNumber : SlotNumber → Fill (Option Int)
  | .none => return none
  | .given n => return some n
  | .taken => do
      match (← nextValue).integer? with
      | some n => if n.natAbs < numberBound then return some n else throw .outOfRange
      | none => throw .wrongKind

/-- Fills up to a width: zeros come after the sign, blanks before it or behind. -/
def fillTo (width : Nat) (left zero : Bool) (sign body : List Char) : List Char :=
  let missing := width - (sign.length + body.length)
  if left then sign ++ body ++ List.replicate missing ' '
  else if zero then sign ++ zeros missing ++ body
  else List.replicate missing ' ' ++ sign ++ body

/-- The sign of a number. -/
def signOf (flags : List Char) (negative : Bool) : List Char :=
  if negative then ['-']
  else if flags.contains '+' then ['+']
  else if flags.contains ' ' then [' ']
  else []

/-- The integer that a value is. -/
def wholeInteger (value : Json) : Except Failure Int :=
  match value.integer? with
  | some n => .ok n
  | none => .error .wrongKind

/-- The integer that a value is cut to. -/
def cutInteger : Json → Except Failure Int
  | .float (.infinite _) => .error .outOfRange
  | .float .notANumber => .error .unreadable
  | .float x => .ok (x.truncate?.getD 0)
  | value => wholeInteger value

/-- The number that a value is; an integer may be too large for it. -/
def anyNumber : Json → Except Failure Double
  | .float x => .ok x
  | value => match value.number? with
      | some (.infinite _) => .error .outOfRange
      | some x => .ok x
      | none => .error .wrongKind

/-- Sign and digits of an integer in a base. -/
def integerParts (flags : List Char) (lead : String) (base : Nat) (precision : Option Int)
    (n : Int) : List Char × List Char :=
  let digits := Nat.toDigits base n.natAbs
  (signOf flags (decide (n < 0)) ++ (if flags.contains '#' then lead.toList else []),
    zeros ((precision.getD 0).toNat - digits.length) ++ digits)

/-- Sign and digits of a number in one of the forms for numbers with a point. -/
def doubleParts (flags : List Char) (kind : Char) (precision : Option Int) (x : Double) :
    List Char × List Char :=
  let places := (precision.getD 6).toNat
  let full := flags.contains '#'
  match x with
  | .finite s m e _ =>
      let (num, den) := Double.asQuotient m e
      (signOf flags s,
        if kind = 'f' then fixedChars full places num den
        else if kind = 'e' then exponentChars full places num den
        else generalChars full places num den)
  | .infinite s => (signOf flags s, "inf".toList)
  | .notANumber => (signOf flags false, "nan".toList)

/-- The characters of a text value, at most as many as the precision says. -/
def textBody (precision : Option Int) (s : String) : List Char :=
  match precision with
  | some n => s.toList.take n.toNat
  | none => s.toList

/-- A text with characters beyond ASCII escaped. -/
def asciiText (s : String) : String :=
  String.ofList (s.toList.flatMap fun c =>
    let n := c.toNat
    if n < 0x80 then [c]
    else if n < 0x100 then '\\' :: 'x' :: Text.hexDigits 2 n
    else if n < 0x10000 then '\\' :: 'u' :: Text.hexDigits 4 n
    else '\\' :: 'U' :: Text.hexDigits 8 n)

/-- The one character of a value. -/
def oneCharacter : Json → Except Failure (List Char)
  | .str s => if s.length = 1 then .ok s.toList else .error .wrongKind
  | value => do
      let n ← wholeInteger value
      if 0 ≤ n ∧ n < 0x110000 then .ok [Char.ofNat n.toNat] else .error .outOfRange

/-- Is this the letter of a number? -/
def isNumberKind (kind : Char) : Bool := "diuxXofFeEgG".toList.contains kind

/-- Sign and body of a value in a slot. -/
def valueParts (flags : List Char) (kind : Char) (precision : Option Int) (value : Json) :
    Except Failure (List Char × List Char) :=
  match kind with
  | 's' => .ok ([], textBody precision value.display)
  | 'r' => .ok ([], textBody precision value.quoted)
  | 'a' => .ok ([], textBody precision (asciiText value.quoted))
  | 'c' => (oneCharacter value).map fun cs => ([], cs)
  | 'd' | 'i' | 'u' => (cutInteger value).map (integerParts flags "" 10 precision)
  | 'x' => (wholeInteger value).map (integerParts flags "0x" 16 precision)
  | 'X' => (wholeInteger value).map fun n =>
      let (sign, body) := integerParts flags "0X" 16 precision n
      (sign, body.map Char.toUpper)
  | 'o' => (wholeInteger value).map (integerParts flags "0o" 8 precision)
  | 'f' | 'e' | 'g' => (anyNumber value).map (doubleParts flags kind precision)
  | 'F' | 'E' | 'G' => (anyNumber value).map fun x =>
      let (sign, body) := doubleParts flags kind.toLower precision x
      (sign, body.map Char.toUpper)
  | _ => .error .unreadable

/-- The text of a slot. -/
def fillSlot (slot : Slot) : Fill (List Char) := do
  takeKey slot.key
  let width ← slotNumber slot.width
  let precision ← slotNumber slot.precision
  match slot.kind with
  | none => throw .unreadable
  | some kind => do
      let value ← nextValue
      let (sign, body) ← valueParts slot.flags kind precision value
      let left := slot.flags.contains '-' || decide (width.getD 0 < 0)
      return fillTo (width.getD 0).natAbs left
        (slot.flags.contains '0' && isNumberKind kind) sign body

/-- The text of a piece. -/
def fillPiece : Piece → Fill (List Char)
  | .literal c => return [c]
  | .slot slot => fillSlot slot

/-- The text of a template whose slots are filled with values, all of which have to be
taken. -/
def fillTemplate (template : String) (supply : Supply) : Except Failure String := do
  let (texts, left) ← ((pieces template.length template.toList).mapM fillPiece).run
    (Filling.ofSupply supply)
  if left.keyed.isNone && !left.line.isEmpty then throw .wrongKind
  return String.ofList texts.flatten

end RenderRelay.Log
