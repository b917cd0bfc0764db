import RenderRelay.Path.Join
import RenderRelay.Path.Stored
import RenderRelay.Proofs.Text.Split

/-! # Bare names

A name that a client may ask for is bare in both path syntaxes, so that it leads from a directory
to something directly in it.

* `lastComponent_splitChar_eq_self_iff`: a path is its own last component if it has no separator
  and is no single dot; from this `posixNameChars_eq_self_iff` and, with drives,
  `windowsNameChars_eq_self_iff`.
* `IsDirect` says what a bare name is free of: `checkStored_eq_ok_iff` and
  `checkStored_eq_error_iff` are the two sides of the test.
* `componentsOf_join`: what a path below another consists of; a direct name below a directory is a
  path with one component more (`isChildOf_join`). -/

namespace RenderRelay.Path

open Text

/-! ### The last component of a path -/

section LastComponent

variable {separator : Char} {cs : List Char}

theorem lastComponent_eq_nil_or_mem (components : List (List Char)) :
    lastComponent components = [] ∨ lastComponent components ∈ components := by
  unfold lastComponent
  cases hlast : (components.filter fun part => !part.isEmpty && part ≠ ['.']).getLast? with
  | none => exact Or.inl rfl
  | some part => exact Or.inr (List.mem_of_mem_filter (List.mem_of_getLast? hlast))

/-- The last component has no separator, and no characters but those of the path. -/
theorem not_mem_lastComponent (separator : Char) (cs : List Char) :
    separator ∉ lastComponent (splitChar separator cs) := by
  obtain hnil | hmem := lastComponent_eq_nil_or_mem (splitChar separator cs)
  · rw [hnil]
    exact List.not_mem_nil
  · exact not_mem_of_mem_splitChar hmem

theorem mem_of_mem_lastComponent {c : Char} (h : c ∈ lastComponent (splitChar separator cs)) :
    c ∈ cs := by
  obtain hnil | hmem := lastComponent_eq_nil_or_mem (splitChar separator cs)
  · rw [hnil] at h
    cases h
  · exact mem_of_mem_splitChar hmem h

theorem lastComponent_of_not_mem (h : separator ∉ cs) (hdot : cs ≠ ['.']) :
    lastComponent (splitChar separator cs) = cs := by
  unfold lastComponent
  rw [splitChar_of_not_mem h]
  cases cs with
  | nil => rfl
  | cons c cs => simp [hdot]

/-- A path is its own last component if it has no separator and is no single dot. -/
theorem lastComponent_splitChar_eq_self_iff :
    lastComponent (splitChar separator cs) = cs ↔ separator ∉ cs ∧ cs ≠ ['.'] := by
  constructor
  · intro hself
    have hfree : separator ∉ cs := hself ▸ not_mem_lastComponent separator cs
    refine ⟨hfree, ?_⟩
    rintro rfl
    unfold lastComponent at hself
    rw [splitChar_of_not_mem hfree] at hself
    exact absurd hself (by decide)
  · rintro ⟨hfree, hdot⟩
    exact lastComponent_of_not_mem hfree hdot

/-- A component is no longer than its path. -/
theorem length_lastComponent_le (h : separator ∉ cs) :
    (lastComponent (splitChar separator cs)).length ≤ cs.length := by
  by_cases hdot : cs = ['.']
  · rw [hdot] at h ⊢
    unfold lastComponent
    rw [splitChar_of_not_mem h]
    decide
  · exact Nat.le_of_eq (congrArg List.length (lastComponent_of_not_mem h hdot))

end LastComponent

theorem posixNameChars_eq_self_iff {cs : List Char} :
    posixNameChars cs = cs ↔ '/' ∉ cs ∧ cs ≠ ['.'] :=
  lastComponent_splitChar_eq_self_iff

/-! ### Drives -/

/-- A drive at the start of a path: a letter and a colon. -/
def HasDrive (path : List Char) : Prop :=
  ∃ letter rest, letter.isAlpha = true ∧ path = letter :: ':' :: rest

theorem withBackslashes_of_not_mem {cs : List Char} (h : '/' ∉ cs) : withBackslashes cs = cs := by
  unfold withBackslashes
  refine (List.map_congr_left fun c hc => ?_).trans (List.map_id cs)
  have hne : c ≠ '/' := fun heq => h (heq ▸ hc)
  rw [if_neg hne, id]

theorem slash_not_mem_withBackslashes (cs : List Char) : '/' ∉ withBackslashes cs := by
  intro hmem
  obtain ⟨c, -, hc⟩ := List.mem_map.mp hmem
  split_ifs at hc with hslash
  · exact absurd hc (by decide)
  · exact hslash hc

theorem dropShare_suffix (path : List Char) : dropShare path <:+ path := by
  unfold dropShare
  split
  · next share heq =>
      have htail : '\\' :: share <:+ path := heq ▸ List.dropWhile_suffix _
      exact (List.dropWhile_suffix _).trans ((List.suffix_cons _ share).trans htail)
  · exact List.nil_suffix

theorem dropDrive_suffix (path : List Char) : dropDrive path <:+ path := by
  unfold dropDrive
  split
  · split_ifs
    · exact (dropShare_suffix _).trans ((List.suffix_cons _ _).trans (List.suffix_cons _ _))
    · exact List.suffix_refl _
  · split_ifs
    · exact (List.suffix_cons _ _).trans (List.suffix_cons _ _)
    · exact List.suffix_refl _
  · exact List.suffix_refl _

/-- Without backslashes there are no shares, so that only a drive can be dropped. -/
theorem dropDrive_eq_self_iff {cs : List Char} (h : '\\' ∉ cs) :
    dropDrive cs = cs ↔ ¬ HasDrive cs := by
  unfold dropDrive
  split
  · exact absurd List.mem_cons_self h
  · next c rest =>
      split_ifs with hletter
      · refine iff_of_false (fun heq => ?_) (fun hno => hno ⟨c, rest, hletter, rfl⟩)
        have hlength := congrArg List.length heq
        rw [List.length_cons, List.length_cons] at hlength
        omega
      · refine iff_of_true rfl ?_
        rintro ⟨letter, more, hisLetter, heq⟩
        rw [(List.cons.inj heq).1] at hletter
        exact hletter hisLetter
  · next hother =>
      refine iff_of_true rfl ?_
      rintro ⟨letter, more, -, rfl⟩
      exact hother letter more rfl

/-- A path is its own name, with drives, if it has no separator, no drive, and is no single dot. -/
theorem windowsNameChars_eq_self_iff {cs : List Char} :
    windowsNameChars cs = cs ↔ '/' ∉ cs ∧ '\\' ∉ cs ∧ ¬ HasDrive cs ∧ cs ≠ ['.'] := by
  unfold windowsNameChars
  constructor
  · intro hself
    have hback : '\\' ∉ cs := hself ▸ not_mem_lastComponent '\\' _
    have hslash : '/' ∉ cs := by
      intro hmem
      rw [← hself] at hmem
      exact slash_not_mem_withBackslashes cs
        ((dropDrive_suffix _).subset (mem_of_mem_lastComponent hmem))
    rw [withBackslashes_of_not_mem hslash] at hself
    have hwhole : dropDrive cs = cs := by
      -- the name is no longer than what is left without the drive
      have hfree : '\\' ∉ dropDrive cs := fun hmem => hback ((dropDrive_suffix cs).subset hmem)
      have hlength := length_lastComponent_le hfree
      rw [hself] at hlength
      exact (dropDrive_suffix cs).eq_of_length_le hlength
    rw [hwhole] at hself
    exact ⟨hslash, hback, (dropDrive_eq_self_iff hback).mp hwhole,
      (lastComponent_splitChar_eq_self_iff.mp hself).2⟩
  · rintro ⟨hslash, hback, hdrive, hdot⟩
    rw [withBackslashes_of_not_mem hslash, (dropDrive_eq_self_iff hback).mpr hdrive]
    exact lastComponent_of_not_mem hback hdot

/-! ### The names that are accepted -/

/-- A name that leads to something directly in a directory, in both path syntaxes. -/
structure IsDirect (name : String) : Prop where
  nonempty : name ≠ ""
  slash : '/' ∉ name.toList
  backslash : '\\' ∉ name.toList
  drive : ¬ HasDrive name.toList
  dot : name ≠ "."
  dots : name ≠ ".."

theorem ofList_eq_self_iff {name : String} {cs : List Char} :
    String.ofList cs = name ↔ cs = name.toList := by
  rw [← String.toList_inj, String.toList_ofList]

/-- The bare names are the direct ones, and the empty name. -/
theorem isBare_iff {name : String} (hne : name ≠ "") : isBare name = true ↔ IsDirect name := by
  have hdot : name.toList ≠ ['.'] ↔ name ≠ "." := by
    rw [ne_eq, ne_eq, ← String.toList_inj]
    rfl
  unfold isBare posixName windowsName
  simp only [Bool.and_eq_true, decide_eq_true_eq, ofList_eq_self_iff, posixNameChars_eq_self_iff,
    windowsNameChars_eq_self_iff, hdot]
  constructor
  · rintro ⟨⟨⟨⟨hslash, -⟩, -, hback, hdrive, -⟩, hone⟩, htwo⟩
    exact ⟨hne, hslash, hback, hdrive, hone, htwo⟩
  · intro h
    exact ⟨⟨⟨⟨h.slash, h.dot⟩, h.slash, h.backslash, h.drive, h.dot⟩, h.dot⟩, h.dots⟩

/-- A name is accepted as it is, if it is direct and holds no climbing sequence. -/
theorem checkStored_eq_ok_iff {name answered : String} :
    checkStored (some name) = .ok answered ↔
      answered = name ∧ IsDirect name ∧ mayClimb name = false := by
  unfold checkStored
  dsimp only
  simp only [String.isEmpty_iff]
  split_ifs with hempty hclimbs hbare
  · refine iff_of_false nofun ?_
    rintro ⟨-, hdirect, -⟩
    exact hdirect.nonempty hempty
  · refine iff_of_false nofun ?_
    rintro ⟨-, -, hno⟩
    rw [hclimbs] at hno
    cases hno
  · have hdirect := (isBare_iff hempty).mp hbare
    refine ⟨fun hok => ⟨(Except.ok.inj hok).symm, hdirect, by simpa using hclimbs⟩, ?_⟩
    rintro ⟨rfl, -, -⟩
    rfl
  · refine iff_of_false nofun ?_
    rintro ⟨-, hdirect, -⟩
    exact hbare ((isBare_iff hempty).mpr hdirect)

/-- A name is refused because it is missing, because it may climb, or because it is not direct. -/
theorem checkStored_eq_error_iff {name : String} {e : NameError} :
    checkStored (some name) = .error e ↔
      e = .missing ∧ name = "" ∨ e = .climbing ∧ name ≠ "" ∧ mayClimb name = true ∨
        e = .notBare ∧ name ≠ "" ∧ mayClimb name = false ∧ ¬ IsDirect name := by
  unfold checkStored
  dsimp only
  simp only [String.isEmpty_iff]
  split_ifs with hempty hclimbs hbare
  · simp [hempty, @eq_comm _ NameError.missing e]
  · simp [hempty, hclimbs, @eq_comm _ NameError.climbing e]
  · simp [hempty, hclimbs, (isBare_iff hempty).mp hbare]
  · have hindirect : ¬ IsDirect name := fun h => hbare ((isBare_iff hempty).mpr h)
    simp [hempty, hclimbs, hindirect, @eq_comm _ NameError.notBare e]

/-- Every refusal is a fault of security. -/
theorem NameError.kind_fault (e : NameError) : e.fault.kind = .security := rfl

/-! ### Paths below a directory -/

/-- What a component of a path is: not empty, no single dot, without slashes. -/
def IsComponent (part : List Char) : Prop := part ≠ [] ∧ part ≠ ['.'] ∧ '/' ∉ part

theorem isComponent_of_mem_componentsOf {path part : List Char} (h : part ∈ componentsOf path) :
    IsComponent part := by
  obtain ⟨hmem, hkept⟩ := List.mem_filter.mp h
  rw [Bool.and_eq_true, Bool.not_eq_true', List.isEmpty_eq_false_iff, decide_eq_true_eq] at hkept
  exact ⟨hkept.1, hkept.2, not_mem_of_mem_splitChar hmem⟩

/-- Components are found again where they are put together. -/
theorem componentsOf_intercalate {components : List (List Char)} (hne : components ≠ [])
    (h : ∀ part ∈ components, IsComponent part) :
    componentsOf (['/'].intercalate components) = components := by
  unfold componentsOf
  rw [splitChar_intercalate hne fun part hpart => (h part hpart).2.2, List.filter_eq_self]
  intro part hpart
  obtain ⟨hempty, hdot, -⟩ := h part hpart
  simp [hempty, hdot]

/-- Slashes at the start bring no components. -/
theorem componentsOf_slashes {slashes : List Char} (h : ∀ c ∈ slashes, c = '/') (path : List Char) :
    componentsOf (slashes ++ path) = componentsOf path := by
  induction slashes with
  | nil => rfl
  | cons c slashes ih =>
      obtain rfl := h c List.mem_cons_self
      rw [← ih fun d hd => h d (List.mem_cons_of_mem _ hd)]
      unfold componentsOf
      rw [List.cons_append, splitChar, if_pos rfl, List.filter_cons]
      rfl

theorem rootOf_cases (path : List Char) :
    rootOf path = [] ∨ rootOf path = ['/'] ∨ rootOf path = ['/', '/'] := by
  unfold rootOf
  split
  · exact Or.inl rfl
  · exact Or.inr (Or.inr rfl)
  · exact Or.inr (Or.inl rfl)

theorem eq_slash_of_mem_rootOf {path : List Char} {c : Char} (h : c ∈ rootOf path) : c = '/' := by
  obtain hroot | hroot | hroot := rootOf_cases path
  · rw [hroot] at h
    cases h
  · rw [hroot] at h
    exact List.mem_singleton.mp h
  · rw [hroot] at h
    exact List.eq_of_mem_replicate (n := 2) h

/-- A root is found again in front of what does not start with a slash. -/
theorem rootOf_rootOf_append {path rest : List Char} (h : rest.head? ≠ some '/') :
    rootOf (rootOf path ++ rest) = rootOf path := by
  have hrest : rest.takeWhile (· = '/') = [] := by
    cases rest with
    | nil => rfl
    | cons c rest => rw [List.takeWhile_cons_of_neg (by simpa using h)]
  obtain hroot | hroot | hroot := rootOf_cases path
  · rw [hroot]
    simp [rootOf, hrest]
  · rw [hroot]
    simp [rootOf, hrest]
  · rw [hroot]
    simp [rootOf, hrest]

/-- A path that leads to something directly in a directory: the directory's, and one more
component that does not lead up. -/
structure IsChildOf (directory path : String) : Prop where
  root : rootOf path.toList = rootOf directory.toList
  components : ∃ name, name ≠ "..".toList ∧
    componentsOf path.toList = componentsOf directory.toList ++ [name]

theorem IsDirect.isComponent {name : String} (h : IsDirect name) : IsComponent name.toList := by
  refine ⟨?_, ?_, h.slash⟩
  · rw [ne_eq, String.toList_eq_nil_iff]
    exact h.nonempty
  · intro hdot
    exact h.dot (String.toList_inj.mp hdot)

/-- Components that are put together do not start with a slash. -/
theorem head_intercalate {components : List (List Char)}
    (h : ∀ part ∈ components, IsComponent part) :
    (['/'].intercalate components).head? ≠ some '/' := by
  cases components with
  | nil => exact nofun
  | cons part components =>
      obtain ⟨hne, -, hslash⟩ := h part List.mem_cons_self
      obtain ⟨c, cs, rfl⟩ := List.exists_cons_of_ne_nil hne
      have hhead : (['/'].intercalate ((c :: cs) :: components)).head? = some c := by
        cases components <;> rfl
      rw [hhead]
      exact fun heq => hslash (Option.some.inj heq ▸ List.mem_cons_self)

theorem intercalate_eq_nil_iff {components : List (List Char)}
    (h : ∀ part ∈ components, IsComponent part) :
    ['/'].intercalate components = [] ↔ components = [] := by
  refine ⟨fun hnil => ?_, fun hnil => by rw [hnil]; rfl⟩
  by_contra hne
  have hcomponents := componentsOf_intercalate hne h
  rw [hnil] at hcomponents
  exact hne hcomponents.symm

/-- A root and components are found again in the path that is made of them. -/
theorem rootOf_ofComponents (path : List Char) {components : List (List Char)}
    (h : ∀ part ∈ components, IsComponent part) :
    rootOf (ofComponents (rootOf path) components).toList = rootOf path := by
  unfold ofComponents
  dsimp only
  split_ifs with hempty
  · rw [List.isEmpty_iff, List.append_eq_nil_iff] at hempty
    rw [hempty.1]
    rfl
  · rw [String.toList_ofList]
    exact rootOf_rootOf_append (head_intercalate h)

theorem componentsOf_ofComponents {root : List Char} (hroot : ∀ c ∈ root, c = '/')
    {components : List (List Char)} (h : ∀ part ∈ components, IsComponent part) :
    componentsOf (ofComponents root components).toList = components := by
  unfold ofComponents
  dsimp only
  split_ifs with hempty
  · rw [List.isEmpty_iff, List.append_eq_nil_iff] at hempty
    rw [(intercalate_eq_nil_iff h).mp hempty.2]
    rfl
  · rw [String.toList_ofList, componentsOf_slashes hroot]
    by_cases hne : components = []
    · rw [hne]
      rfl
    · exact componentsOf_intercalate hne h

/-- The components of a path below another; a path that starts at the root is not below it. -/
theorem componentsOf_join (parent child : String) :
    componentsOf (join parent child).toList =
      if child.toList.head? = some '/' then componentsOf child.toList
      else componentsOf parent.toList ++ componentsOf child.toList := by
  unfold join plain
  split_ifs with habsolute
  · exact componentsOf_ofComponents (fun _ => eq_slash_of_mem_rootOf)
      fun _ => isComponent_of_mem_componentsOf
  · refine componentsOf_ofComponents (fun _ => eq_slash_of_mem_rootOf) ?_
    rw [List.forall_mem_append]
    exact ⟨fun _ => isComponent_of_mem_componentsOf, fun _ => isComponent_of_mem_componentsOf⟩

theorem IsDirect.componentsOf_eq {name : String} (h : IsDirect name) :
    componentsOf name.toList = [name.toList] := by
  rw [← componentsOf_intercalate (List.cons_ne_nil _ [])
    (List.forall_mem_singleton.mpr h.isComponent), List.intercalate_singleton]

theorem IsDirect.relative {name : String} (h : IsDirect name) :
    name.toList.head? ≠ some '/' := fun heq => h.slash (List.mem_of_head? heq)

/-- A direct name below a directory is a path with that name as one component more. -/
theorem isChildOf_join {name : String} (h : IsDirect name) (directory : String) :
    IsChildOf directory (join directory name) := by
  constructor
  · unfold join
    rw [if_neg h.relative]
    apply rootOf_ofComponents
    rw [h.componentsOf_eq, List.forall_mem_append]
    exact ⟨fun _ => isComponent_of_mem_componentsOf, List.forall_mem_singleton.mpr h.isComponent⟩
  · refine ⟨name.toList, fun heq => h.dots (String.toList_inj.mp heq), ?_⟩
    rw [componentsOf_join, if_neg h.relative, h.componentsOf_eq]

end RenderRelay.Path
