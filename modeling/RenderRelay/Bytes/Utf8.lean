/-! # Bytes and UTF-8

* `encode` writes a text as UTF-8.
* `scan` reads bytes character by character; where no character starts, the longest part
  that could have begun one stands as `none`.
* `decode?` wants characters only, `decodeLossy` puts U+FFFD for each such part.
* `decodeWide?` reads UTF-16 and UTF-32, whose units have two and four bytes.

The bytes of a surrogate are no character here.  What is said of the texts of all bodies is meant of
those that have no such bytes, which some readers let pass. -/

namespace RenderRelay

/-- A sequence of bytes. -/
abbrev Bytes := List UInt8

namespace Bytes

/-- A text as UTF-8. -/
def encode (s : String) : Bytes := s.toList.flatMap String.utf8EncodeChar

/-- Is this a byte that continues a character, within bounds? -/
def continues (low high : Nat) (b : UInt8) : Bool := low ≤ b.toNat && b.toNat ≤ high

/-- The bounds of a character's second byte, and how many bytes follow the first. -/
def leadShape (b : UInt8) : Option (Nat × Nat × Nat) :=
  let n := b.toNat
  if 0xC2 ≤ n ∧ n ≤ 0xDF then some (0x80, 0xBF, 1)
  else if n = 0xE0 then some (0xA0, 0xBF, 2)
  else if n = 0xED then some (0x80, 0x9F, 2)
  else if 0xE1 ≤ n ∧ n ≤ 0xEF then some (0x80, 0xBF, 2)
  else if n = 0xF0 then some (0x90, 0xBF, 3)
  else if 0xF1 ≤ n ∧ n ≤ 0xF3 then some (0x80, 0xBF, 3)
  else if n = 0xF4 then some (0x80, 0x8F, 3)
  else none

/-- The payload of a first byte that `count` bytes follow. -/
def leadPayload (b : UInt8) (count : Nat) : Nat := b.toNat % Nat.pow 2 (6 - count)

/-- Takes up to `count` continuing bytes: the value so far, how many were missing, the rest. -/
def takeContinuing : (count : Nat) → (low high value : Nat) → Bytes → Nat × Nat × Bytes
  | 0, _, _, value, bytes => (value, 0, bytes)
  | count + 1, _, _, value, [] => (value, count + 1, [])
  | count + 1, low, high, value, b :: rest =>
      if continues low high b then
        takeContinuing count 0x80 0xBF (value * 64 + b.toNat % 64) rest
      else (value, count + 1, b :: rest)

/-- The characters of the bytes, `none` for each part that is no character. -/
def scan : (fuel : Nat) → Bytes → List (Option Char)
  | 0, _ => []
  | _ + 1, [] => []
  | fuel + 1, b :: rest =>
      if b.toNat < 0x80 then some (Char.ofNat b.toNat) :: scan fuel rest
      else match leadShape b with
        | none => none :: scan fuel rest
        | some (low, high, count) =>
            let (value, missing, rest) := takeContinuing count low high (leadPayload b count) rest
            (if missing = 0 then some (Char.ofNat value) else none) :: scan fuel rest

/-- The text that the bytes spell in UTF-8. -/
def decode? (bytes : Bytes) : Option String :=
  ((scan bytes.length bytes).mapM id).map String.ofList

/-- The text that the bytes spell, with U+FFFD for what is no character. -/
def decodeLossy (bytes : Bytes) : String :=
  String.ofList ((scan bytes.length bytes).map fun c => c.getD (Char.ofNat 0xFFFD))

/-- The order of the bytes of a unit. -/
inductive ByteOrder where
  | big
  | little
deriving DecidableEq, Repr

/-- The value of a unit. -/
def unitValue (order : ByteOrder) (unit : Bytes) : Nat :=
  let ordered : Bytes := match order with
    | .big => unit
    | .little => unit.reverse
  ordered.foldl (fun n b => n * 256 + b.toNat) 0

/-- The bytes in units of `width`; `none` if some are left over. -/
def units? (order : ByteOrder) (width : Nat) : (fuel : Nat) → Bytes → Option (List Nat)
  | _, [] => some []
  | 0, _ => none
  | fuel + 1, bytes =>
      if bytes.length < width then none
      else (units? order width fuel (bytes.drop width)).map
        (unitValue order (bytes.take width) :: ·)

/-- The characters of UTF-16 units, a pair of surrogates being one. -/
def joinSurrogates : List Nat → List Char
  | high :: low :: rest =>
      if 0xD800 ≤ high ∧ high < 0xDC00 ∧ 0xDC00 ≤ low ∧ low < 0xE000 then
        Char.ofNat (0x10000 + (high - 0xD800) * 0x400 + (low - 0xDC00)) :: joinSurrogates rest
      else
        (if 0xD800 ≤ high ∧ high < 0xE000 then Char.ofNat 0xFFFD else Char.ofNat high) ::
          joinSurrogates (low :: rest)
  | [unit] => [if 0xD800 ≤ unit ∧ unit < 0xE000 then Char.ofNat 0xFFFD else Char.ofNat unit]
  | [] => []

/-- The text that the bytes spell in UTF-16 (width two) or UTF-32 (width four). -/
def decodeWide? (order : ByteOrder) (width : Nat) (bytes : Bytes) : Option String := do
  let units ← units? order width bytes.length bytes
  if width = 2 then some (String.ofList (joinSurrogates units))
  else if units.all fun n => n < 0x110000 then some (String.ofList (units.map Char.ofNat))
  else none

end Bytes

end RenderRelay
