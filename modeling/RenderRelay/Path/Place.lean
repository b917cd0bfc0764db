import RenderRelay.Path.Join

/-! # Places

A place is where a path ends: the names on the way from the root to a folder or a file.

* `follow` takes the steps of a path one by one; each of them starts at a folder, and two dots
  lead to the folder around it.
* `place?` is the place of a path that starts at the root. -/

namespace RenderRelay.Path

/-- The names on the way from the root to a folder or a file. -/
abbrev Place := List String

/-- The name of a step down: neither empty nor one or two dots, and without slashes. -/
def IsStepDown (name : String) : Prop :=
  name ≠ "" ∧ name ≠ "." ∧ name ≠ ".." ∧ '/' ∉ name.toList

instance (name : String) : Decidable (IsStepDown name) :=
  inferInstanceAs (Decidable (_ ∧ _ ∧ _ ∧ _))

/-- The steps of a path. -/
def stepsOf (path : String) : List String := (componentsOf path.toList).map String.ofList

/-- The place that steps lead to, if each of them starts at a folder. -/
def follow (isFolder : Place → Bool) : Place → List String → Option Place
  | place, [] => some place
  | place, step :: rest =>
      if isFolder place then
        follow isFolder (if step = ".." then place.dropLast else place ++ [step]) rest
      else none

/-- The place of a path that starts at the root. -/
def place? (isFolder : Place → Bool) (path : String) : Option Place :=
  follow isFolder [] (stepsOf path)

end RenderRelay.Path
