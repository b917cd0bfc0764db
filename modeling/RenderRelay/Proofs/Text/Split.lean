import Mathlib.Data.List.Basic
import RenderRelay.Text.Search

/-! # Texts with separators

* `splitChar_intercalate`: pieces without the separator are split apart again as they were put
  together, which brings no other characters (`eq_or_mem_of_mem_intercalate`).
* `splitOnceChars_append`: the first separator is found where it was put.
* `splitOnceChars_append_right`: a mark that is found stays found whatever follows.
* `eq_of_append_separator`: the first separator of a text tells its parts apart.
* `mem_of_hasInfixChars`: a text has all characters of what stands in it. -/

namespace RenderRelay.Text

variable {separator : Char}

/-! ### Every separator -/

theorem splitChar_of_not_mem {cs : List Char} (h : separator ∉ cs) :
    splitChar separator cs = [cs] := by
  induction cs with
  | nil => rfl
  | cons c cs ih =>
      have hne : c ≠ separator := fun heq => h (heq ▸ List.mem_cons_self)
      have hrest : separator ∉ cs := fun hmem => h (List.mem_cons_of_mem c hmem)
      rw [splitChar, if_neg hne, ih hrest]

/-- The pieces are free of the separator. -/
theorem not_mem_of_mem_splitChar {cs piece : List Char} (h : piece ∈ splitChar separator cs) :
    separator ∉ piece := by
  induction cs generalizing piece with
  | nil =>
      rw [splitChar, List.mem_singleton] at h
      rw [h]
      exact List.not_mem_nil
  | cons c cs ih =>
      rw [splitChar] at h
      split_ifs at h with hc
      · obtain rfl | h := List.mem_cons.mp h
        · exact List.not_mem_nil
        · exact ih h
      · cases hrest : splitChar separator cs with
        | nil => exact absurd hrest (splitChar_ne_nil separator cs)
        | cons first rest =>
            rw [hrest] at h ih
            obtain rfl | h := List.mem_cons.mp h
            · intro hmem
              obtain heq | hmem := List.mem_cons.mp hmem
              · exact hc heq.symm
              · exact ih List.mem_cons_self hmem
            · exact ih (List.mem_cons_of_mem first h)

/-- The pieces are made of the characters of the text. -/
theorem mem_of_mem_splitChar {cs piece : List Char} (h : piece ∈ splitChar separator cs) {c : Char}
    (hc : c ∈ piece) : c ∈ cs := by
  induction cs generalizing piece with
  | nil =>
      rw [splitChar, List.mem_singleton] at h
      rwa [h] at hc
  | cons d cs ih =>
      rw [splitChar] at h
      split_ifs at h
      · obtain rfl | h := List.mem_cons.mp h
        · cases hc
        · exact List.mem_cons_of_mem d (ih h hc)
      · cases hrest : splitChar separator cs with
        | nil => exact absurd hrest (splitChar_ne_nil separator cs)
        | cons first rest =>
            rw [hrest] at h ih
            obtain rfl | h := List.mem_cons.mp h
            · obtain rfl | hc := List.mem_cons.mp hc
              · exact List.mem_cons_self
              · exact List.mem_cons_of_mem d (ih List.mem_cons_self hc)
            · exact List.mem_cons_of_mem d (ih (List.mem_cons_of_mem first h) hc)

theorem splitChar_append {piece : List Char} (h : separator ∉ piece) (rest : List Char) :
    splitChar separator (piece ++ separator :: rest) = piece :: splitChar separator rest := by
  induction piece with
  | nil => rw [List.nil_append, splitChar, if_pos rfl]
  | cons c piece ih =>
      have hne : c ≠ separator := fun heq => h (heq ▸ List.mem_cons_self)
      rw [List.cons_append, splitChar, if_neg hne, ih fun hmem => h (List.mem_cons_of_mem c hmem)]

/-- Pieces without the separator are split apart as they were put together. -/
theorem splitChar_intercalate {pieces : List (List Char)} (hne : pieces ≠ [])
    (h : ∀ piece ∈ pieces, separator ∉ piece) :
    splitChar separator ([separator].intercalate pieces) = pieces := by
  induction pieces with
  | nil => exact absurd rfl hne
  | cons piece pieces ih =>
      have hpiece := h piece List.mem_cons_self
      cases pieces with
      | nil =>
          rw [List.intercalate_singleton]
          exact splitChar_of_not_mem hpiece
      | cons next pieces =>
          rw [List.intercalate_cons_cons, List.append_assoc, List.singleton_append,
            splitChar_append hpiece,
            ih (List.cons_ne_nil _ _) fun other hother => h other (List.mem_cons_of_mem _ hother)]

/-- Pieces that are put together bring no characters but their own and the separator. -/
theorem eq_or_mem_of_mem_intercalate {pieces : List (List Char)} {c : Char}
    (h : c ∈ [separator].intercalate pieces) : c = separator ∨ ∃ piece ∈ pieces, c ∈ piece := by
  induction pieces with
  | nil => cases h
  | cons piece pieces ih =>
      cases pieces with
      | nil =>
          rw [List.intercalate_singleton] at h
          exact Or.inr ⟨piece, List.mem_cons_self, h⟩
      | cons next pieces =>
          rw [List.intercalate_cons_cons, List.append_assoc, List.singleton_append] at h
          obtain h | h := List.mem_append.mp h
          · exact Or.inr ⟨piece, List.mem_cons_self, h⟩
          · obtain h | h := List.mem_cons.mp h
            · exact Or.inl h
            · exact (ih h).imp_right fun ⟨other, hother, hc⟩ =>
                ⟨other, List.mem_cons_of_mem _ hother, hc⟩

/-! ### The first separator -/

theorem splitOnceChars_append {before : List Char} (h : separator ∉ before) (after : List Char) :
    splitOnceChars [separator] (before ++ separator :: after) = some (before, after) := by
  induction before with
  | nil => simp [splitOnceChars]
  | cons c before ih =>
      have hne : separator ≠ c := fun heq => h (heq ▸ List.mem_cons_self)
      rw [List.cons_append, splitOnceChars, ih fun hmem => h (List.mem_cons_of_mem c hmem)]
      simp [hne]

section Mark

variable {mark text before after : List Char}

/-- A text is made of what stands before and after its mark. -/
theorem eq_of_splitOnceChars (h : splitOnceChars mark text = some (before, after)) :
    text = before ++ mark ++ after := by
  induction text generalizing before with
  | nil =>
      unfold splitOnceChars at h
      split_ifs at h with hmark
      obtain ⟨rfl, rfl⟩ := Prod.mk.inj (Option.some.inj h)
      rw [List.isEmpty_iff.mp hmark]
      rfl
  | cons c text ih =>
      unfold splitOnceChars at h
      split_ifs at h with hprefix
      · obtain ⟨rfl, rfl⟩ := Prod.mk.inj (Option.some.inj h)
        obtain ⟨rest, hrest⟩ := List.isPrefixOf_iff_prefix.mp hprefix
        rw [← hrest, List.drop_left, List.nil_append]
      · obtain ⟨⟨before, after⟩, hfound, heq⟩ := Option.map_eq_some_iff.mp h
        obtain ⟨rfl, rfl⟩ := Prod.mk.inj heq
        rw [ih hfound, List.cons_append, List.cons_append]

/-- What is found stays found whatever follows. -/
theorem splitOnceChars_append_right (h : splitOnceChars mark text = some (before, after))
    (more : List Char) : splitOnceChars mark (text ++ more) = some (before, after ++ more) := by
  induction text generalizing before with
  | nil =>
      unfold splitOnceChars at h
      split_ifs at h with hmark
      obtain ⟨rfl, rfl⟩ := Prod.mk.inj (Option.some.inj h)
      rw [List.isEmpty_iff.mp hmark]
      cases more <;> rfl
  | cons c text ih =>
      unfold splitOnceChars at h
      split_ifs at h with hprefix
      · have hmark := List.isPrefixOf_iff_prefix.mp hprefix
        obtain ⟨rfl, rfl⟩ := Prod.mk.inj (Option.some.inj h)
        have hlong : mark.isPrefixOf (c :: (text ++ more)) = true :=
          List.isPrefixOf_iff_prefix.mpr (hmark.trans (List.prefix_append (c :: text) more))
        rw [List.cons_append, splitOnceChars, if_pos hlong, ← List.cons_append,
          List.drop_append_of_le_length hmark.length_le]
      · obtain ⟨⟨before, after⟩, hfound, heq⟩ := Option.map_eq_some_iff.mp h
        obtain ⟨rfl, rfl⟩ := Prod.mk.inj heq
        -- the mark lies in the text, so it does not begin earlier and end behind the text
        have hlength : mark.length ≤ (c :: text).length := by
          have htext := congrArg List.length (eq_of_splitOnceChars hfound)
          rw [List.length_append, List.length_append] at htext
          rw [List.length_cons]
          omega
        have hno : ¬ mark.isPrefixOf (c :: (text ++ more)) = true := fun hlong =>
          hprefix (List.isPrefixOf_iff_prefix.mpr (List.prefix_of_prefix_length_le
            (List.isPrefixOf_iff_prefix.mp hlong) (List.prefix_append (c :: text) more) hlength))
        rw [List.cons_append, splitOnceChars, if_neg hno, ih hfound]
        rfl

end Mark

/-- Two texts with one separator have the same parts, if it does not occur in the first ones. -/
theorem eq_of_append_separator :
    ∀ {before before' after after' : List Char}, separator ∉ before → separator ∉ before' →
      before ++ separator :: after = before' ++ separator :: after' →
        before = before' ∧ after = after'
  | [], [], _, _, _, _, h => ⟨rfl, (List.cons.inj h).2⟩
  | [], _ :: _, _, _, _, h', h =>
      absurd ((List.cons.inj h).1 ▸ List.mem_cons_self) h'
  | _ :: _, [], _, _, h', _, h =>
      absurd ((List.cons.inj h).1 ▸ List.mem_cons_self) h'
  | c :: before, d :: before', after, after', hbefore, hbefore', h => by
      obtain ⟨rfl, hrest⟩ := List.cons.inj h
      obtain ⟨rfl, rfl⟩ := eq_of_append_separator
        (fun hmem => hbefore (List.mem_cons_of_mem c hmem))
        (fun hmem => hbefore' (List.mem_cons_of_mem c hmem)) hrest
      exact ⟨rfl, rfl⟩

/-! ### What stands in a text -/

theorem mem_of_hasInfixChars {needle text : List Char} (h : hasInfixChars needle text = true) :
    ∀ c ∈ needle, c ∈ text := by
  induction text with
  | nil =>
      rw [hasInfixChars, List.isEmpty_iff] at h
      rw [h]
      exact fun _ hc => hc
  | cons first text ih =>
      intro c hc
      obtain hstart | hrest := Bool.or_eq_true_iff.mp h
      · exact (List.isPrefixOf_iff_prefix.mp hstart).subset hc
      · exact List.mem_cons_of_mem first (ih hrest c hc)

end RenderRelay.Text
