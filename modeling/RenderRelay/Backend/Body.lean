import RenderRelay.Backend.Basic
import RenderRelay.Failure
import RenderRelay.Json.Reader

/-! # Bodies

The body of a response is text, with U+FFFD for what is no character, or a JSON value.  JSON may
come in any of the encodings that its first bytes tell apart: with a byte order mark, or by the
zeros among the first four bytes.

The JSON body of a request keeps to the standard, which has no infinite number and no
not-a-number (`Json.isSendable`); an integer of more digits than are read is not written. -/

namespace RenderRelay

namespace Json

open Number

mutual

/-- Can the value stand in the body of a request? -/
def isSendable : Json → Bool
  | .null | .bool _ | .str _ => true
  | .int n => digitCount n.natAbs ≤ maxDigits
  | .float x => x.isFinite
  | .arr items => areSendable items
  | .obj fields => haveSendable fields

/-- Can all items stand there? -/
def areSendable : List Json → Bool
  | [] => true
  | item :: rest => isSendable item && areSendable rest

/-- Can the values of all fields stand there? -/
def haveSendable : List (String × Json) → Bool
  | [] => true
  | (_, value) :: rest => isSendable value && haveSendable rest

end

end Json

namespace Bytes

/-- How a text is encoded. -/
inductive Encoding where
  | utf8
  | wide (order : ByteOrder) (width : Nat)
deriving DecidableEq, Repr

/-- The encoding that a byte order mark tells, and how long the mark is. -/
def markedEncoding (bytes : Bytes) : Option (Encoding × Nat) :=
  if [0x00, 0x00, 0xFE, 0xFF].isPrefixOf bytes then some (.wide .big 4, 4)
  else if [0xFF, 0xFE, 0x00, 0x00].isPrefixOf bytes then some (.wide .little 4, 4)
  else if [0xFE, 0xFF].isPrefixOf bytes then some (.wide .big 2, 2)
  else if [0xFF, 0xFE].isPrefixOf bytes then some (.wide .little 2, 2)
  else if [0xEF, 0xBB, 0xBF].isPrefixOf bytes then some (.utf8, 3)
  else none

/-- The encoding that the zeros among the first bytes tell. -/
def plainEncoding (bytes : Bytes) : Encoding :=
  match bytes with
  | a :: b :: c :: d :: _ =>
      if a = 0 then .wide .big (if b = 0 then 4 else 2)
      else if b = 0 then .wide .little (if c = 0 && d = 0 then 4 else 2)
      else .utf8
  | [a, b] =>
      if a = 0 then .wide .big 2
      else if b = 0 then .wide .little 2
      else .utf8
  | _ => .utf8

/-- The text of bytes in an encoding. -/
def decodeAs? (encoding : Encoding) (bytes : Bytes) : Option String :=
  match encoding with
  | .utf8 => decode? bytes
  | .wide order width => decodeWide? order width bytes

/-- The text of bytes whose encoding their start tells. -/
def decodeJsonText? (bytes : Bytes) : Option String :=
  match markedEncoding bytes with
  | some (encoding, mark) => decodeAs? encoding (bytes.drop mark)
  | none => decodeAs? (plainEncoding bytes) bytes

end Bytes

namespace Response

/-- The body as text. -/
def text (response : Response) : String := Bytes.decodeLossy response.body

/-- The body as JSON, null if it is none; an integer of too many digits is a failure. -/
def json (response : Response) : Except Failure Json :=
  match Bytes.decodeJsonText? response.body with
  | none => .ok .null
  | some text =>
      match Json.read text with
      | .ok value => .ok value
      | .error e => if e.cause = .integerTooLong then .error .unreadable else .ok .null

end Response

end RenderRelay
