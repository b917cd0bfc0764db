import RenderRelay.Bytes.Utf8
import RenderRelay.Json.Basic

/-! # Bytes in base64, and as fields of an object

* Three bytes are four letters; one or two bytes at the end are two or three letters, filled up
  with equals signs.
* As fields of an object, bytes are a text if they are valid UTF-8, and base64 otherwise. -/

namespace RenderRelay.Bytes

/-- The letters, by their values. -/
def base64Letters : List Char :=
  "ABCDEFGHIJKLMNOPQRSTUVWXYZabcdefghijklmnopqrstuvwxyz0123456789+/".toList

/-- The letter of the last six bits of a number. -/
def base64Letter (n : Nat) : Char := base64Letters.getD (n % 64) '='

/-- Bytes in base64. -/
def toBase64Chars : Bytes → List Char
  | [] => []
  | [a] => [base64Letter (a.toNat / 4), base64Letter (a.toNat * 16), '=', '=']
  | [a, b] =>
      [base64Letter (a.toNat / 4), base64Letter (a.toNat * 16 + b.toNat / 16),
        base64Letter (b.toNat * 4), '=']
  | a :: b :: c :: rest =>
      base64Letter (a.toNat / 4) :: base64Letter (a.toNat * 16 + b.toNat / 16) ::
        base64Letter (b.toNat * 4 + c.toNat / 64) :: base64Letter c.toNat :: toBase64Chars rest

/-- Bytes in base64. -/
def toBase64 (bytes : Bytes) : String := String.ofList (toBase64Chars bytes)

/-- The bytes of the values of letters. -/
def ofSextets : List Nat → Bytes
  | a :: b :: c :: d :: rest =>
      UInt8.ofNat (a * 4 + b / 16) :: UInt8.ofNat (b * 16 + c / 4) ::
        UInt8.ofNat (c * 64 + d) :: ofSextets rest
  | [a, b, c] => [UInt8.ofNat (a * 4 + b / 16), UInt8.ofNat (b * 16 + c / 4)]
  | [a, b] => [UInt8.ofNat (a * 4 + b / 16)]
  | _ => []

/-- The bytes that a text spells in base64; what is no letter does not count. -/
def ofBase64 (s : String) : Bytes := ofSextets (s.toList.filterMap base64Letters.idxOf?)

/-- Bytes as fields of an object. -/
def toFields (bytes : Bytes) : Fields :=
  match decode? bytes with
  | some text => [("text", .str text)]
  | none => [("b64", .str (toBase64 bytes))]

/-- The bytes that an object has as its fields; base64 wins, and without any there are none. -/
def ofJson (value : Json) : Bytes :=
  match value.get "b64" with
  | .str text => ofBase64 text
  | _ => encode ((value.get "text").text?.getD "")

end RenderRelay.Bytes
