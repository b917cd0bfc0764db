import RenderRelay.Bytes.Utf8
import RenderRelay.Text.Quoted
import RenderRelay.Text.Search

/-! # Form encoding

The form in which parameters stand in the query of a URL, `a=1&b=2`.

* `encodeText` works on the bytes of the UTF-8 text: letters, digits and `_.-~` stay, a space
  becomes a plus sign, any other byte a percent sign and two hexadecimal digits.
* `decodeText` reads that back; a percent sign without two digits behind it stands for
  itself.
* `encode` and `decode` join and split the fields of a form. -/

namespace RenderRelay.Url

open Text

/-- The fields of a form, in order. -/
abbrev Form := List (String × String)

/-- Characters that stay as they are. -/
def isUnreserved (n : Nat) : Bool :=
  (0x41 ≤ n && n ≤ 0x5A) || (0x61 ≤ n && n ≤ 0x7A) || (0x30 ≤ n && n ≤ 0x39) ||
    n == 0x5F || n == 0x2E || n == 0x2D || n == 0x7E

/-- A byte as a percent sign and two hexadecimal digits. -/
def percentByte (b : UInt8) : List Char :=
  '%' :: (hexDigits 2 b.toNat).map Char.toUpper

/-- One byte of a text. -/
def encodeByte (b : UInt8) : List Char :=
  if isUnreserved b.toNat then [Char.ofNat b.toNat]
  else if b = 0x20 then ['+']
  else percentByte b

/-- A text inside a form. -/
def encodeText (s : String) : String := String.ofList ((Bytes.encode s).flatMap encodeByte)

/-- One field of a form. -/
def encodeField (name value : String) : String := encodeText name ++ "=" ++ encodeText value

/-- A form as a query. -/
def encode (form : Form) : String :=
  join "&" (form.map fun (name, value) => encodeField name value)

/-- The value of a hexadecimal digit. -/
def hexDigitValue? (c : Char) : Option Nat :=
  if '0' ≤ c ∧ c ≤ '9' then some (c.toNat - 48)
  else if 'a' ≤ c ∧ c ≤ 'f' then some (c.toNat - 87)
  else if 'A' ≤ c ∧ c ≤ 'F' then some (c.toNat - 55)
  else none

/-- The bytes that percent-encoded characters spell. -/
def percentDecode : List Char → Bytes
  | '%' :: a :: b :: rest =>
      match hexDigitValue? a, hexDigitValue? b with
      | some a, some b => UInt8.ofNat (a * 16 + b) :: percentDecode rest
      | _, _ => 0x25 :: percentDecode (a :: b :: rest)
  | c :: rest => String.utf8EncodeChar c ++ percentDecode rest
  | [] => []

/-- A text of a form, read back. -/
def decodeText (s : String) : String :=
  Bytes.decodeLossy (percentDecode (s.toList.map fun c => if c = '+' then ' ' else c))

/-- A field of a form, read back; without an equals sign it has an empty value. -/
def decodeField (s : String) : String × String :=
  match splitOnce s "=" with
  | some (name, value) => (decodeText name, decodeText value)
  | none => (decodeText s, "")

/-- The form of a query; empty fields are skipped. -/
def decode (query : String) : Form :=
  ((split query '&').filter fun field => !field.isEmpty).map decodeField

end RenderRelay.Url
