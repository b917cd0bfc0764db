import RenderRelay.Proofs.Number.Digits
import RenderRelay.Proofs.Path.Place
import RenderRelay.Proofs.Path.Stored
import RenderRelay.Proofs.Text.Split
import RenderRelay.Store.History

/-! # Names of stored images

A stored name is the time, the random part and the safe form of the image's own name, with hyphens
between them.

* `shortId_eq_of_storedName_eq`: a stored name determines the random part that it was made from,
  so that images of distinct random parts have distinct names.
* `checkStored_storedName`: a stored name is accepted when it is asked for.
* `fileOf_eq_some_iff` says where the names of records lead: along their steps, from the root or
  from the directory of images.  A stored name leads to the image of that name
  (`fileOf_storedName`). -/

namespace RenderRelay

namespace HistoryStore

open Number

/-- What a drawn id looks like: hexadecimal digits and hyphens, and not nothing. -/
def IsDrawnId (id : String) : Prop :=
  id ≠ "" ∧ ∀ c ∈ id.toList, c ∈ "0123456789abcdef-".toList

instance (id : String) : Decidable (IsDrawnId id) :=
  decidable_of_iff (id ≠ "" ∧ (id.toList.all fun c => c ∈ "0123456789abcdef-".toList) = true)
    (and_congr_right' (by simp only [List.all_eq_true, decide_eq_true_eq]))

/-- Both ids of the stamp look drawn. -/
structure Stamp.Drawn (stamp : Stamp) : Prop where
  record : IsDrawnId stamp.recordId
  name : IsDrawnId stamp.nameId

theorem hyphen_not_mem_natDigits (n : Nat) : '-' ∉ natDigits n := fun h =>
  absurd (isDigit_of_mem_natDigits h) (by decide)

theorem hyphen_not_mem_shortId (id : String) : '-' ∉ (shortId id).toList := by
  intro h
  unfold shortId Text.take Text.without at h
  rw [String.toList_ofList, String.toList_ofList] at h
  simpa using List.of_mem_filter (List.mem_of_mem_take h)

theorem toList_storedName (stamp : Stamp) (name : String) :
    (storedName stamp name).toList = Json.intChars stamp.clock.named ++
      '-' :: ((shortId stamp.nameId).toList ++ '-' :: (Path.safeName (some name)).toList) := by
  unfold storedName Json.intText
  simp [String.toList_append]

theorem hyphen_mem_storedName (stamp : Stamp) (name : String) :
    '-' ∈ (storedName stamp name).toList := by
  rw [toList_storedName]
  exact List.mem_append_right _ List.mem_cons_self

theorem storedName_ne_empty (stamp : Stamp) (name : String) : storedName stamp name ≠ "" := by
  intro h
  have hhyphen := hyphen_mem_storedName stamp name
  rw [h] at hhyphen
  exact absurd hhyphen (by decide)

/-- What follows the number and the hyphen behind it. -/
theorem eq_of_intChars_append {m n : Int} {cs ds : List Char}
    (h : Json.intChars m ++ '-' :: cs = Json.intChars n ++ '-' :: ds) : cs = ds := by
  have hdigits : ∀ k l : Nat, natDigits k ++ '-' :: cs = natDigits l ++ '-' :: ds → cs = ds :=
    fun k l heq => (Text.eq_of_append_separator (hyphen_not_mem_natDigits k)
      (hyphen_not_mem_natDigits l) heq).2
  have hhead : ∀ (k : Nat) (es fs : List Char), '-' :: es ≠ natDigits k ++ fs := by
    intro k es fs heq
    cases hk : natDigits k with
    | nil => exact natDigits_ne_nil k hk
    | cons c rest =>
        rw [hk] at heq
        obtain rfl := (List.cons.inj heq).1
        exact hyphen_not_mem_natDigits k (hk ▸ List.mem_cons_self)
  unfold Json.intChars at h
  split_ifs at h
  · exact hdigits _ _ (List.cons.inj h).2
  · exact absurd h (hhead _ _ _)
  · exact absurd h.symm (hhead _ _ _)
  · exact hdigits _ _ h

/-- The name of an image determines the random part that it was made from. -/
theorem shortId_eq_of_storedName_eq {first second : Stamp} {name other : String}
    (h : storedName first name = storedName second other) :
    shortId first.nameId = shortId second.nameId := by
  have hchars := congrArg String.toList h
  rw [toList_storedName, toList_storedName] at hchars
  have hshort := (Text.eq_of_append_separator (hyphen_not_mem_shortId _)
    (hyphen_not_mem_shortId _) (eq_of_intChars_append hchars)).1
  exact String.toList_inj.mp hshort

/-- A stored name is made of safe characters. -/
theorem isSafeChar_of_mem_storedName {stamp : Stamp} (h : stamp.Drawn) {name : String} {c : Char}
    (hc : c ∈ (storedName stamp name).toList) : Path.isSafeChar c = true := by
  have hdigits : ∀ n : Nat, ∀ d ∈ natDigits n, Path.isSafeChar d = true := by
    intro n d hd
    have hdigit := isDigit_of_mem_natDigits hd
    simp only [Char.isDigit, Bool.and_eq_true, decide_eq_true_eq] at hdigit
    unfold Path.isSafeChar
    simp only [Bool.or_eq_true, Bool.and_eq_true, decide_eq_true_eq]
    exact Or.inl (Or.inl (Or.inl (Or.inr hdigit)))
  have hhyphen : Path.isSafeChar '-' = true := by decide
  have hdrawn : ∀ d ∈ "0123456789abcdef-".toList, Path.isSafeChar d = true :=
    List.all_eq_true.mp (by decide)
  rw [toList_storedName] at hc
  simp only [List.mem_append, List.mem_cons] at hc
  obtain hc | rfl | hc | rfl | hc := hc
  · unfold Json.intChars at hc
    split_ifs at hc
    · obtain rfl | hc := List.mem_cons.mp hc
      · exact hhyphen
      · exact hdigits _ c hc
    · exact hdigits _ c hc
  · exact hhyphen
  · unfold shortId Text.take Text.without at hc
    rw [String.toList_ofList, String.toList_ofList] at hc
    exact hdrawn c (h.name.2 c (List.mem_of_mem_filter (List.mem_of_mem_take hc)))
  · exact hhyphen
  · exact Path.isSafeChar_of_mem_safeName hc

/-- A stored name leads to something directly in the directory of images. -/
theorem isDirect_storedName {stamp : Stamp} (h : stamp.Drawn) (name : String) :
    Path.IsDirect (storedName stamp name) := by
  have hne : ∀ other : String, '-' ∉ other.toList → storedName stamp name ≠ other := by
    rintro other hother rfl
    exact hother (hyphen_mem_storedName stamp name)
  exact Path.isDirect_of_safe (fun _ => isSafeChar_of_mem_storedName h) (hne "" (by decide))
    (hne "." (by decide)) (hne ".." (by decide))

/-- A stored name is accepted when it is asked for. -/
theorem checkStored_storedName {stamp : Stamp} (h : stamp.Drawn) (name : String) :
    Path.checkStored (some (storedName stamp name)) = .ok (storedName stamp name) :=
  Path.checkStored_of_safe (fun _ => isSafeChar_of_mem_storedName h) (isDirect_storedName h name)

end HistoryStore

/-! ### Where names lead -/

namespace Site

variable (site : Site)

theorem isStepDown_of_mem_outputs : ∀ name ∈ site.outputs, Path.IsStepDown name := by
  unfold outputs
  rw [List.forall_mem_append, List.forall_mem_singleton]
  exact ⟨site.proper, by decide⟩

theorem stepsOf_outputsPath : Path.stepsOf site.outputsPath = site.outputs :=
  Path.stepsOf_ofComponents site.isStepDown_of_mem_outputs

/-- The path of the directory of images leads there from the root. -/
theorem leadsTo_outputs : Path.LeadsTo site.hasFolder [] site.outputs site.outputs := by
  refine Path.leadsTo_of_down (fun name hname => ?_) fun before hbefore _ => ?_
  · obtain ⟨-, -, hup, -⟩ := site.isStepDown_of_mem_outputs name hname
    exact hup
  · unfold hasFolder
    rw [List.nil_append, List.isPrefixOf_iff_prefix.mpr hbefore, Bool.true_or]

/-- Where the steps of a name start: at the root, or at the directory of images. -/
def startOf (name : String) : Path.Place :=
  if name.toList.head? = some '/' then [] else site.outputs

theorem place?_join (name : String) :
    Path.place? site.hasFolder (Path.join site.outputsPath name) =
      Path.follow site.hasFolder (site.startOf name) (Path.stepsOf name) := by
  unfold Path.place? startOf
  rw [Path.stepsOf_join]
  split_ifs
  · rfl
  · rw [stepsOf_outputsPath, Path.follow_append, site.leadsTo_outputs.follow_eq]
    rfl

end Site

namespace HistoryStore

variable {site : Site}

/-- A name leads to the file at the place where its steps end. -/
theorem fileOf_eq_some_iff {name : String} {file : DiskFile} :
    fileOf site name = some file ↔ ∃ place,
      Path.LeadsTo site.hasFolder (site.startOf name) (Path.stepsOf name) place ∧
        fileAt site place = file := by
  unfold fileOf
  rw [site.place?_join, Option.map_eq_some_iff]
  simp only [Path.follow_eq_some_iff]

theorem fileAt_outputs (site : Site) (name : String) :
    fileAt site (site.outputs ++ [name]) = .artifact name := by
  have hlonger : ∀ other, site.outputs ++ [name] ≠ site.location ++ [other] := by
    intro other heq
    have hlength := congrArg List.length heq
    simp only [Site.outputs, List.length_append, List.length_singleton] at hlength
    omega
  unfold fileAt
  rw [if_neg (hlonger _), if_neg (hlonger _), if_pos List.dropLast_concat, List.getLast?_concat]
  rfl

/-- A direct name leads to the image of that name. -/
theorem fileOf_of_isDirect (site : Site) {name : String} (h : Path.IsDirect name) :
    fileOf site name = some (.artifact name) := by
  refine fileOf_eq_some_iff.mpr ⟨site.outputs ++ [name], ?_, fileAt_outputs site name⟩
  have hfolder : site.hasFolder site.outputs = true := by
    unfold Site.hasFolder
    rw [List.isPrefixOf_iff_prefix.mpr List.prefix_rfl, Bool.true_or]
  unfold Site.startOf
  rw [if_neg h.relative, h.stepsOf_eq]
  exact .down hfolder h.dots (.here _)

theorem fileOf_storedName (site : Site) {stamp : Stamp} (h : stamp.Drawn) (name : String) :
    fileOf site (storedName stamp name) = some (.artifact (storedName stamp name)) :=
  fileOf_of_isDirect site (isDirect_storedName h name)

end HistoryStore

end RenderRelay
