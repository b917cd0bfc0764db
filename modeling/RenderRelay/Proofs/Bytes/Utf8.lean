import Mathlib.Tactic.SplitIfs
import RenderRelay.Bytes.Utf8

/-! # UTF-8 reads back

* `scan_lead`: a first byte and the continuing bytes behind it are one character.
* `scan_utf8EncodeChar`: the bytes of a character are read as that character, whatever follows.
* `decode?_encode` and `decodeLossy_encode`: the bytes of a text are read as that text. -/

namespace RenderRelay.Bytes

theorem toNat_ofNat {n : Nat} (h : n < 256) : (UInt8.ofNat n).toNat = n :=
  UInt8.toNat_ofNat_of_lt h

/-- A byte within the bounds continues the character. -/
theorem takeContinuing_cons {count low high value n : Nat} (hn : n < 256) (hlow : low ≤ n)
    (hhigh : n ≤ high) (rest : Bytes) :
    takeContinuing (count + 1) low high value (UInt8.ofNat n :: rest) =
      takeContinuing count 0x80 0xBF (value * 64 + n % 64) rest := by
  have hcontinues : continues low high (UInt8.ofNat n) = true := by
    unfold continues
    rw [toNat_ofNat hn, decide_eq_true hlow, decide_eq_true hhigh]
    rfl
  rw [takeContinuing, if_pos hcontinues, toNat_ofNat hn]

/-- A first byte and what it asks for are one character. -/
theorem scan_lead {n low high count value : Nat} {rest after : Bytes} (hn : n < 256)
    (hlead : 0x80 ≤ n) (hshape : leadShape (UInt8.ofNat n) = some (low, high, count))
    (htake : takeContinuing count low high (n % Nat.pow 2 (6 - count)) rest = (value, 0, after))
    (fuel : Nat) :
    scan (fuel + 1) (UInt8.ofNat n :: rest) = some (Char.ofNat value) :: scan fuel after := by
  have htake' : takeContinuing count low high (leadPayload (UInt8.ofNat n) count) rest =
      (value, 0, after) := by
    unfold leadPayload
    rw [toNat_ofNat hn]
    exact htake
  rw [scan, if_neg (by rw [toNat_ofNat hn]; omega), hshape]
  dsimp only
  rw [htake']
  rfl

/-- Of the first bytes of three, two narrow the bounds of the second one. -/
theorem leadShape_three {v : Nat} (hlow : 0x7FF < v) (hhigh : v ≤ 0xFFFF)
    (hvalid : v < 0xD800 ∨ 0xDFFF < v) :
    ∃ low high, leadShape (UInt8.ofNat (v / 4096 % 16 + 224)) = some (low, high, 2) ∧
      low ≤ v / 64 % 64 + 128 ∧ v / 64 % 64 + 128 ≤ high := by
  unfold leadShape
  rw [toNat_ofNat (by omega)]
  dsimp only
  split_ifs <;> first | exact ⟨_, _, rfl, by omega, by omega⟩ | omega

/-- Of the first bytes of four, two narrow the bounds of the second one. -/
theorem leadShape_four {v : Nat} (hlow : 0xFFFF < v) (hhigh : v < 0x110000) :
    ∃ low high, leadShape (UInt8.ofNat (v / 262144 % 8 + 240)) = some (low, high, 3) ∧
      low ≤ v / 4096 % 64 + 128 ∧ v / 4096 % 64 + 128 ≤ high := by
  unfold leadShape
  rw [toNat_ofNat (by omega)]
  dsimp only
  split_ifs <;> first | exact ⟨_, _, rfl, by omega, by omega⟩ | omega

/-- The bytes of a character are read as the character. -/
theorem scan_utf8EncodeChar (c : Char) (fuel : Nat) (rest : Bytes) :
    scan (fuel + 1) (String.utf8EncodeChar c ++ rest) = some c :: scan fuel rest := by
  have hvalid : c.val.toNat < 0xD800 ∨ 0xDFFF < c.val.toNat ∧ c.val.toNat < 0x110000 := c.valid
  have hchar : Char.ofNat c.val.toNat = c := Char.ofNat_toNat c
  unfold String.utf8EncodeChar
  generalize c.val.toNat = v at hvalid hchar
  dsimp only
  split_ifs with hone htwo hthree <;> simp only [List.cons_append, List.nil_append]
  · have hbyte : (UInt8.ofNat v).toNat = v := toNat_ofNat (by omega)
    rw [scan, if_pos (by omega), hbyte, hchar]
  · have hshape : leadShape (UInt8.ofNat (v / 64 % 32 + 192)) = some (0x80, 0xBF, 1) := by
      unfold leadShape
      rw [toNat_ofNat (by omega)]
      exact if_pos (by omega)
    refine (scan_lead (by omega) (by omega) hshape ?_ fuel).trans (by rw [hchar])
    rw [takeContinuing_cons (by omega) (by omega) (by omega)]
    refine Prod.ext ?_ rfl
    change (v / 64 % 32 + 192) % 32 * 64 + (v % 64 + 128) % 64 = v
    omega
  · obtain ⟨low, high, hshape, hlow, hhigh⟩ :=
      leadShape_three (v := v) (by omega) hthree (hvalid.imp_right And.left)
    refine (scan_lead (by omega) (by omega) hshape ?_ fuel).trans (by rw [hchar])
    rw [takeContinuing_cons (by omega) hlow hhigh,
      takeContinuing_cons (by omega) (by omega) (by omega)]
    refine Prod.ext ?_ rfl
    change ((v / 4096 % 16 + 224) % 16 * 64 + (v / 64 % 64 + 128) % 64) * 64 +
      (v % 64 + 128) % 64 = v
    omega
  · obtain ⟨low, high, hshape, hlow, hhigh⟩ :=
      leadShape_four (v := v) (by omega) (by omega)
    refine (scan_lead (by omega) (by omega) hshape ?_ fuel).trans (by rw [hchar])
    rw [takeContinuing_cons (by omega) hlow hhigh,
      takeContinuing_cons (by omega) (by omega) (by omega),
      takeContinuing_cons (by omega) (by omega) (by omega)]
    refine Prod.ext ?_ rfl
    change (((v / 262144 % 8 + 240) % 8 * 64 + (v / 4096 % 64 + 128) % 64) * 64 +
      (v / 64 % 64 + 128) % 64) * 64 + (v % 64 + 128) % 64 = v
    omega

/-- The bytes of characters are read as the characters. -/
theorem scan_flatMap (cs : List Char) : ∀ fuel : Nat, cs.length ≤ fuel →
    scan fuel (cs.flatMap String.utf8EncodeChar) = cs.map some := by
  induction cs with
  | nil =>
      intro fuel _
      cases fuel <;> rfl
  | cons c cs ih =>
      intro fuel hfuel
      obtain ⟨fuel, rfl⟩ := Nat.exists_eq_succ_of_ne_zero (Nat.ne_zero_of_lt hfuel)
      rw [List.flatMap_cons, scan_utf8EncodeChar, ih fuel (Nat.le_of_succ_le_succ hfuel),
        List.map_cons]

theorem length_le_encode (cs : List Char) :
    cs.length ≤ (cs.flatMap String.utf8EncodeChar).length := by
  induction cs with
  | nil => exact Nat.le_refl _
  | cons c cs ih =>
      have hsize := c.utf8Size_pos
      rw [List.flatMap_cons, List.length_append, String.length_utf8EncodeChar, List.length_cons]
      omega

theorem scan_encode (s : String) : scan (encode s).length (encode s) = s.toList.map some :=
  scan_flatMap s.toList _ (length_le_encode s.toList)

/-- The bytes of a text spell the text. -/
theorem decode?_encode (s : String) : decode? (encode s) = some s := by
  have hmap : ∀ cs : List Char, (cs.map some).mapM id = some cs := by
    intro cs
    induction cs with
    | nil => rfl
    | cons c cs ih =>
        rw [List.map_cons, List.mapM_cons, ih]
        rfl
  unfold decode?
  rw [scan_encode, hmap, Option.map_some, String.ofList_toList]

theorem encode_injective : Function.Injective encode := by
  intro s t h
  have hdecoded : some s = some t := by rw [← decode?_encode s, h, decode?_encode]
  exact Option.some.inj hdecoded

/-- The bytes of a text are read as the text, with nothing put in its place. -/
theorem decodeLossy_encode (s : String) : decodeLossy (encode s) = s := by
  unfold decodeLossy
  rw [scan_encode, List.map_map]
  exact (congrArg String.ofList (List.map_id s.toList)).trans String.ofList_toList

end RenderRelay.Bytes
