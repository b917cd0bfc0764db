import RenderRelay.Path.Place
import RenderRelay.Proofs.Path.Bare

/-! # Where a path leads

* `LeadsTo` is the walk along the steps of a path, and `follow_eq_some_iff` says that `follow` is
  this walk.
* `leadsTo_of_down`: steps down lead to the place below, if there are folders on the way;
  `follow_append`: more steps go on from there.
* `stepsOf_join`: the steps of a path below another. -/

namespace RenderRelay.Path

/-- The steps lead from a place to another: up to the folder around, or down. -/
inductive LeadsTo (isFolder : Place → Bool) : Place → List String → Place → Prop where
  | here (place : Place) : LeadsTo isFolder place [] place
  | up {place goal : Place} {rest : List String} (hfolder : isFolder place = true)
      (hrest : LeadsTo isFolder place.dropLast rest goal) :
      LeadsTo isFolder place (".." :: rest) goal
  | down {place goal : Place} {step : String} {rest : List String}
      (hfolder : isFolder place = true) (hdown : step ≠ "..")
      (hrest : LeadsTo isFolder (place ++ [step]) rest goal) :
      LeadsTo isFolder place (step :: rest) goal

section Walks

variable {isFolder : Place → Bool} {place goal : Place} {steps more : List String}

theorem leadsTo_of_follow (h : follow isFolder place steps = some goal) :
    LeadsTo isFolder place steps goal := by
  induction steps generalizing place with
  | nil =>
      obtain rfl := Option.some.inj h
      exact .here place
  | cons step steps ih =>
      rw [follow] at h
      split_ifs at h with hfolder hup
      · subst hup
        exact .up hfolder (ih h)
      · exact .down hfolder hup (ih h)

theorem LeadsTo.follow_eq (h : LeadsTo isFolder place steps goal) :
    follow isFolder place steps = some goal := by
  induction h with
  | here place => rfl
  | up hfolder _ ih => rw [follow, if_pos hfolder, if_pos rfl, ih]
  | down hfolder hdown _ ih => rw [follow, if_pos hfolder, if_neg hdown, ih]

/-- Following steps is walking along them. -/
theorem follow_eq_some_iff :
    follow isFolder place steps = some goal ↔ LeadsTo isFolder place steps goal :=
  ⟨leadsTo_of_follow, LeadsTo.follow_eq⟩

theorem follow_append : follow isFolder place (steps ++ more) =
    (follow isFolder place steps).bind fun next => follow isFolder next more := by
  induction steps generalizing place with
  | nil => rfl
  | cons step steps ih =>
      rw [List.cons_append, follow, follow]
      split_ifs
      · exact ih
      · exact ih
      · rfl

/-- Steps down lead to the place below, through the folders on the way. -/
theorem leadsTo_of_down (hdown : ∀ step ∈ steps, step ≠ "..")
    (hfolders : ∀ before, before <+: steps → before ≠ steps → isFolder (place ++ before) = true) :
    LeadsTo isFolder place steps (place ++ steps) := by
  induction steps generalizing place with
  | nil =>
      rw [List.append_nil]
      exact .here place
  | cons step steps ih =>
      obtain ⟨hstep, hsteps⟩ := List.forall_mem_cons.mp hdown
      have hfirst := hfolders [] List.nil_prefix (List.cons_ne_nil step steps).symm
      rw [List.append_nil] at hfirst
      have hrest : LeadsTo isFolder (place ++ [step]) steps (place ++ [step] ++ steps) := by
        refine ih hsteps fun before hbefore hne => ?_
        rw [List.append_assoc]
        refine hfolders (step :: before) (List.prefix_cons_inj step |>.mpr hbefore) ?_
        exact fun heq => hne (List.cons.inj heq).2
      rw [List.append_assoc] at hrest
      exact .down hfirst hstep hrest

end Walks

/-! ### The steps of a path -/

theorem stepsOf_join (parent child : String) :
    stepsOf (join parent child) = if child.toList.head? = some '/' then stepsOf child
      else stepsOf parent ++ stepsOf child := by
  unfold stepsOf
  rw [componentsOf_join]
  split_ifs
  · rfl
  · exact List.map_append

theorem IsStepDown.isComponent {name : String} (h : IsStepDown name) :
    IsComponent name.toList := by
  obtain ⟨hne, hdot, -, hslash⟩ := h
  refine ⟨?_, ?_, hslash⟩
  · rwa [ne_eq, String.toList_eq_nil_iff]
  · exact fun heq => hdot (String.toList_inj.mp heq)

/-- The steps of the path of a place are its names. -/
theorem stepsOf_ofComponents {place : Place} (h : ∀ name ∈ place, IsStepDown name) :
    stepsOf (ofComponents ['/'] (place.map String.toList)) = place := by
  have hcomponents : ∀ part ∈ place.map String.toList, IsComponent part := by
    intro part hpart
    obtain ⟨name, hname, rfl⟩ := List.mem_map.mp hpart
    exact (h name hname).isComponent
  unfold stepsOf
  rw [componentsOf_ofComponents (List.forall_mem_singleton.mpr rfl) hcomponents, List.map_map]
  exact (List.map_congr_left fun name _ => String.ofList_toList).trans (List.map_id place)

theorem IsDirect.stepsOf_eq {name : String} (h : IsDirect name) : stepsOf name = [name] := by
  unfold stepsOf
  rw [h.componentsOf_eq, List.map_singleton, String.ofList_toList]

end RenderRelay.Path
