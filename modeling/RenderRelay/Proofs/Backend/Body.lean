import RenderRelay.Backend.Body
import RenderRelay.Proofs.Bytes.Utf8
import RenderRelay.Proofs.Json.RoundTrip

/-! # Bodies in ASCII

* `Bytes.decodeJsonText?_ascii`: the bytes of a text of ASCII characters are taken for UTF-8.
* `Response.json_of_long_integer`: a body that is an integer of more digits than are read is no
  JSON null like any other body that is no value: it is a failure. -/

namespace RenderRelay

namespace Bytes

theorem toNat_byte {c : Char} (h : c.toNat < 0x80) : (UInt8.ofNat c.toNat).toNat = c.toNat :=
  UInt8.toNat_ofNat_of_lt (Nat.lt_trans h (by decide))

theorem encode_ascii {cs : List Char} (h : ∀ c ∈ cs, c.toNat < 0x80) :
    encode (String.ofList cs) = cs.map fun c => UInt8.ofNat c.toNat := by
  unfold encode
  rw [String.toList_ofList]
  induction cs with
  | nil => rfl
  | cons c cs ih =>
      have hsize : c.utf8Size = 1 := by
        have hle : c.val ≤ 0x7F := Nat.le_of_lt_succ (h c List.mem_cons_self)
        unfold Char.utf8Size
        exact if_pos hle
      rw [List.flatMap_cons, String.utf8EncodeChar_eq_singleton hsize,
        ih fun d hd => h d (List.mem_cons_of_mem c hd)]
      rfl

/-- The zeros among the first bytes and the marks that tell other encodings are not there. -/
theorem decodeJsonText?_ascii {cs : List Char} (h : ∀ c ∈ cs, c.toNat < 0x80)
    (hzero : ∀ c ∈ cs, c.toNat ≠ 0) :
    decodeJsonText? (encode (String.ofList cs)) = some (String.ofList cs) := by
  have hbytes : ∀ b ∈ encode (String.ofList cs), b.toNat < 0x80 ∧ b.toNat ≠ 0 := by
    intro b hb
    rw [encode_ascii h] at hb
    obtain ⟨c, hc, rfl⟩ := List.mem_map.mp hb
    rw [toNat_byte (h c hc)]
    exact ⟨h c hc, hzero c hc⟩
  have hmarked : markedEncoding (encode (String.ofList cs)) = none := by
    generalize encode (String.ofList cs) = bytes at hbytes
    cases bytes with
    | nil => rfl
    | cons b bytes =>
        obtain ⟨hlt, hne⟩ := hbytes b List.mem_cons_self
        have hother : ∀ mark : UInt8, 0x80 ≤ mark.toNat ∨ mark.toNat = 0 → (mark == b) = false := by
          intro mark hmark
          refine beq_false_of_ne ?_
          rintro rfl
          omega
        unfold markedEncoding
        simp only [List.isPrefixOf, hother 0x00 (by decide), hother 0xFF (by decide),
          hother 0xFE (by decide), hother 0xEF (by decide), Bool.false_and, Bool.false_eq_true,
          if_false]
  have hplain : plainEncoding (encode (String.ofList cs)) = .utf8 := by
    generalize encode (String.ofList cs) = bytes at hbytes
    have hne : ∀ b ∈ bytes, b ≠ 0 := by
      rintro b hb rfl
      exact (hbytes 0 hb).2 rfl
    unfold plainEncoding
    split
    · rw [if_neg (hne _ (by simp)), if_neg (hne _ (by simp))]
    · rw [if_neg (hne _ (by simp)), if_neg (hne _ (by simp))]
    · rfl
  unfold decodeJsonText?
  rw [hmarked, hplain]
  exact decode?_encode _

end Bytes

namespace Response

open Number

/-- A body that is an integer of more digits than are read is a failure. -/
theorem json_of_long_integer {n : Nat} (h : maxDigits < digitCount n) (status : Nat)
    (contentType : Option String) :
    Response.json ⟨status, Bytes.encode (String.ofList (natDigits n)), contentType⟩ =
      .error .unreadable := by
  have hascii : ∀ c ∈ natDigits n, c.toNat < 0x80 := by
    intro c hc
    have hbounds := Json.le_and_le_of_isDigit (isDigit_of_mem_natDigits hc)
    have hle : c.toNat ≤ 57 := hbounds.2
    omega
  have hzero : ∀ c ∈ natDigits n, c.toNat ≠ 0 := by
    intro c hc
    have hbounds := Json.le_and_le_of_isDigit (isDigit_of_mem_natDigits hc)
    have hle : 48 ≤ c.toNat := hbounds.1
    omega
  unfold Response.json
  rw [Bytes.decodeJsonText?_ascii hascii hzero]
  dsimp only
  rw [Json.read_of_long_integer h]
  rfl

end Response

end RenderRelay
