import RenderRelay.Bytes.Utf8
import RenderRelay.Number.Shortest
import RenderRelay.Text.Quoted

/-! # Invalid UTF-8

Where bytes are no UTF-8 text, a message says which bytes are wrong and why: a byte that starts
no character, a character that breaks off within the bytes, or one that breaks off at their
end. -/

namespace RenderRelay.Bytes

/-- Why some bytes are no character. -/
inductive InvalidReason where
  | badStart
  | badContinuation
  | endOfData
deriving DecidableEq, Repr

/-- The reason in words. -/
def InvalidReason.message : InvalidReason → String
  | .badStart => "invalid start byte"
  | .badContinuation => "invalid continuation byte"
  | .endOfData => "unexpected end of data"

/-- A run of bytes that is no character: where it starts, its first byte and its length. -/
structure InvalidRun where
  start : Nat
  first : UInt8
  length : Nat
  reason : InvalidReason
deriving DecidableEq, Repr

/-- The first run that is no character, in bytes of which the first stands at `offset`. -/
def firstInvalid : (fuel offset : Nat) → Bytes → Option InvalidRun
  | 0, _, _ => none
  | _ + 1, _, [] => none
  | fuel + 1, offset, b :: rest =>
      if b.toNat < 0x80 then firstInvalid fuel (offset + 1) rest
      else match leadShape b with
        | none => some ⟨offset, b, 1, .badStart⟩
        | some (low, high, count) =>
            let (_, missing, after) := takeContinuing count low high (leadPayload b count) rest
            if missing = 0 then firstInvalid fuel (offset + 1 + count) after
            else some ⟨offset, b, 1 + count - missing,
              if after.isEmpty then .endOfData else .badContinuation⟩

/-- A number in decimal digits. -/
def decimal (n : Nat) : String := String.ofList (Number.natDigits n)

/-- What is wrong, and where. -/
def InvalidRun.message (run : InvalidRun) : String :=
  let bytes :=
    if run.length = 1 then
      String.join ["byte 0x", String.ofList (Text.hexDigits 2 run.first.toNat), " in position ",
        decimal run.start]
    else
      String.join ["bytes in position ", decimal run.start, "-",
        decimal (run.start + run.length - 1)]
  String.join ["'utf-8' codec can't decode ", bytes, ": ", run.reason.message]

/-- The text that the bytes spell in UTF-8, or the first run that is no character. -/
def decode (bytes : Bytes) : Except InvalidRun String :=
  match firstInvalid bytes.length 0 bytes with
  | some run => .error run
  | none => .ok (decodeLossy bytes)

end RenderRelay.Bytes
