import Mathlib.Data.List.Forall2

/-! # Steps that may fail

What is known of a sequence of steps in `Except` once it has an answer.

* `exists_of_bind_ok`: every step before the last one had an answer, and `exists_bind_ok_iff`: there
  is an answer exactly if all steps have one.
* `mapM_map_made`, `mapM_map_ok`: a step that takes back what a writer wrote, or makes something
  of it, does so with a list of it.
* `exists_of_mem_mapM`: what a list of steps answered, one of them answered, and
  `exists_mem_of_mapM`: each of them answered something of it; `mapM_eq_ok_iff` has both, in
  order. -/

namespace RenderRelay

variable {ε α β : Type}

theorem exists_of_bind_ok {act : Except ε α} {next : α → Except ε β} {result : β}
    (h : (act >>= next) = .ok result) : ∃ value, act = .ok value ∧ next value = .ok result := by
  cases act with
  | error failure => cases h
  | ok value => exact ⟨value, rfl, h⟩

theorem exists_bind_ok_iff {act : Except ε α} {next : α → Except ε β} :
    (∃ result, (act >>= next) = .ok result) ↔
      ∃ value, act = .ok value ∧ ∃ result, next value = .ok result := by
  constructor
  · rintro ⟨result, h⟩
    obtain ⟨value, hvalue, hresult⟩ := exists_of_bind_ok h
    exact ⟨value, hvalue, result, hresult⟩
  · rintro ⟨value, rfl, h⟩
    exact h

theorem eq_ok_of_toOption {answer : Except ε α} {value : α} (h : answer.toOption = some value) :
    answer = .ok value := by
  cases answer with
  | error failure => cases h
  | ok other => rw [Option.some.inj h]

theorem mapM_map_made {γ : Type} {read : β → Except ε γ} {write : α → β} {made : α → γ}
    {values : List α} (h : ∀ value ∈ values, read (write value) = .ok (made value)) :
    (values.map write).mapM read = .ok (values.map made) := by
  induction values with
  | nil => rfl
  | cons value values ih =>
      rw [List.map_cons, List.mapM_cons, h value List.mem_cons_self,
        ih fun other hother => h other (List.mem_cons_of_mem value hother)]
      rfl

theorem mapM_map_ok {read : β → Except ε α} {write : α → β} {values : List α}
    (h : ∀ value ∈ values, read (write value) = .ok value) :
    (values.map write).mapM read = .ok values := by
  have hmade : (values.map write).mapM read = .ok (values.map id) := mapM_map_made h
  rwa [List.map_id] at hmade

theorem exists_of_mem_mapM {read : α → Except ε β} {sources : List α} {values : List β}
    (h : sources.mapM read = .ok values) {value : β} (hvalue : value ∈ values) :
    ∃ source ∈ sources, read source = .ok value := by
  induction sources generalizing values with
  | nil =>
      cases h
      cases hvalue
  | cons source sources ih =>
      rw [List.mapM_cons] at h
      obtain ⟨first, hfirst, h⟩ := exists_of_bind_ok h
      obtain ⟨rest, hrest, h⟩ := exists_of_bind_ok h
      obtain rfl := Except.ok.inj h
      obtain rfl | hvalue := List.mem_cons.mp hvalue
      · exact ⟨source, List.mem_cons_self, hfirst⟩
      · obtain ⟨other, hother, hread⟩ := ih hrest hvalue
        exact ⟨other, List.mem_cons_of_mem _ hother, hread⟩

theorem mapM_eq_ok_iff {read : α → Except ε β} {sources : List α} {values : List β} :
    sources.mapM read = .ok values ↔
      List.Forall₂ (fun source value => read source = .ok value) sources values := by
  induction sources generalizing values with
  | nil =>
      rw [List.forall₂_nil_left_iff]
      exact ⟨fun h => (Except.ok.inj h).symm, fun h => h ▸ rfl⟩
  | cons source sources ih =>
      rw [List.mapM_cons, List.forall₂_cons_left_iff]
      constructor
      · intro h
        obtain ⟨first, hfirst, h⟩ := exists_of_bind_ok h
        obtain ⟨rest, hrest, h⟩ := exists_of_bind_ok h
        exact ⟨first, rest, hfirst, ih.mp hrest, (Except.ok.inj h).symm⟩
      · rintro ⟨first, rest, hfirst, hrest, rfl⟩
        rw [hfirst, ih.mpr hrest]
        rfl

theorem exists_mem_of_mapM {read : α → Except ε β} {sources : List α} {values : List β}
    (h : sources.mapM read = .ok values) {source : α} (hsource : source ∈ sources) :
    ∃ value ∈ values, read source = .ok value := by
  have hread := mapM_eq_ok_iff.mp h
  induction hread with
  | nil => cases hsource
  | cons hfirst hrest ih =>
      obtain rfl | hsource := List.mem_cons.mp hsource
      · exact ⟨_, List.mem_cons_self, hfirst⟩
      · obtain ⟨value, hvalue, hread⟩ := ih (mapM_eq_ok_iff.mpr hrest) hsource
        exact ⟨value, List.mem_cons_of_mem _ hvalue, hread⟩

end RenderRelay
