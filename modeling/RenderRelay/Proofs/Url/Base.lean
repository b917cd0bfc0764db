import RenderRelay.Proofs.Text.Blank
import RenderRelay.Proofs.Text.Split
import RenderRelay.Url.Base

/-! # The normal form of a backend's URL

* `IsScheme` is what a URL may start with: `hasScheme_iff`, `splitOnceChars_scheme`.
* `normalizeBase_eq_ok_iff`: the URLs that come of a text are a scheme and a host, and behind them
  the text has slashes at most.
* `normalizeBase_of_scheme`: what comes of a text that has a scheme already loses the blanks at its
  end, and then the slashes there.  The blanks go first, so that a blank before the slashes is left
  over.
* `normalizeBase_eq_self_iff`: the URLs that are kept as they are.
* `exists_host_of_normalized`: the URL that comes of a text ends as the text does. -/

namespace RenderRelay.Url

open Text

/-! ### Schemes -/

/-- A letter, and then letters, digits and signs. -/
structure IsScheme (scheme : List Char) : Prop where
  letter : ∃ c rest, scheme = c :: rest ∧ isLetter c = true
  chars : ∀ c ∈ scheme, isSchemeChar c = true

variable {scheme host : List Char}

theorem isSchemeChar_of_isLetter {c : Char} (h : isLetter c = true) : isSchemeChar c = true := by
  unfold isSchemeChar
  rw [h]
  rfl

theorem IsScheme.colon (h : IsScheme scheme) : ':' ∉ scheme := fun hmem =>
  absurd (h.chars ':' hmem) (by decide)

theorem hasScheme_scheme (h : IsScheme scheme) (rest : List Char) :
    hasScheme (scheme ++ "://".toList ++ rest) = true := by
  obtain ⟨c, more, rfl, hletter⟩ := h.letter
  have hmore : ∀ d ∈ more, isSchemeChar d = true := fun d hd =>
    h.chars d (List.mem_cons_of_mem c hd)
  have hdrop : (more ++ "://".toList ++ rest).dropWhile isSchemeChar = "://".toList ++ rest := by
    rw [List.append_assoc, List.dropWhile_append_of_pos hmore]
    rfl
  rw [List.cons_append, List.cons_append, hasScheme, hletter, hdrop, Bool.true_and,
    List.isPrefixOf_iff_prefix]
  exact List.prefix_append _ _

/-- A text with a scheme is a scheme, its mark and a rest. -/
theorem hasScheme_iff {cs : List Char} :
    hasScheme cs = true ↔ ∃ scheme rest, IsScheme scheme ∧ cs = scheme ++ "://".toList ++ rest := by
  constructor
  · intro h
    cases cs with
    | nil => cases h
    | cons c cs =>
        obtain ⟨hletter, hmark⟩ := Bool.and_eq_true_iff.mp h
        obtain ⟨rest, hrest⟩ := List.isPrefixOf_iff_prefix.mp hmark
        refine ⟨c :: cs.takeWhile isSchemeChar, rest, ⟨⟨c, _, rfl, hletter⟩, ?_⟩, ?_⟩
        · rw [List.forall_mem_cons]
          exact ⟨isSchemeChar_of_isLetter hletter, fun d hd => List.mem_takeWhile_imp hd⟩
        · rw [List.append_assoc, hrest, List.cons_append, List.takeWhile_append_dropWhile]
  · rintro ⟨scheme, rest, hscheme, rfl⟩
    exact hasScheme_scheme hscheme rest

theorem splitOnceChars_scheme (h : ':' ∉ scheme) (rest : List Char) :
    splitOnceChars "://".toList (scheme ++ "://".toList ++ rest) = some (scheme, rest) := by
  induction scheme with
  | nil => rfl
  | cons c scheme ih =>
      have hne : ¬ "://".toList.isPrefixOf (c :: (scheme ++ "://".toList ++ rest)) = true := by
        rw [List.isPrefixOf_iff_prefix]
        intro hprefix
        exact h ((List.cons_prefix_cons.mp hprefix).1 ▸ List.mem_cons_self)
      rw [List.cons_append, List.cons_append, splitOnceChars, if_neg hne,
        ih fun hmem => h (List.mem_cons_of_mem c hmem)]
      rfl

theorem isScheme_http : IsScheme "http".toList :=
  ⟨⟨'h', "ttp".toList, rfl, by decide⟩, List.all_eq_true.mp (by decide)⟩

/-- A URL has one scheme. -/
theorem eq_of_scheme {scheme' rest rest' : List Char} (h : IsScheme scheme) (h' : IsScheme scheme')
    (heq : scheme ++ "://".toList ++ rest = scheme' ++ "://".toList ++ rest') :
    scheme = scheme' ∧ rest = rest' := by
  have hfound := splitOnceChars_scheme h.colon rest
  rw [heq, splitOnceChars_scheme h'.colon rest'] at hfound
  obtain ⟨rfl, rfl⟩ := Prod.mk.inj (Option.some.inj hfound)
  exact ⟨rfl, rfl⟩

/-- There is a scheme in front once one is put there. -/
theorem exists_withScheme (cs : List Char) :
    ∃ scheme rest, IsScheme scheme ∧ withScheme cs = scheme ++ "://".toList ++ rest := by
  unfold withScheme
  split_ifs with h
  · exact hasScheme_iff.mp h
  · exact ⟨"http".toList, cs, isScheme_http, rfl⟩

theorem withScheme_eq_self {cs : List Char} (h : hasScheme cs = true) : withScheme cs = cs := by
  unfold withScheme
  rw [if_pos h]

/-! ### The normal form -/

theorem dropEndSlashes_scheme (h : IsScheme scheme) (rest : List Char) :
    dropEndSlashes (scheme ++ "://".toList ++ rest) =
      if (rest.rdropWhile (· = '/')).isEmpty then .error .noHost
      else .ok (scheme ++ "://".toList ++ rest.rdropWhile (· = '/')) := by
  unfold dropEndSlashes
  rw [splitOnceChars_scheme h.colon]
  rfl

/-- A URL of a scheme and a host. -/
def urlOf (scheme host : List Char) : String := String.ofList (scheme ++ "://".toList ++ host)

theorem toList_urlOf (scheme host : List Char) :
    (urlOf scheme host).toList = scheme ++ "://".toList ++ host :=
  String.toList_ofList

/-- The last character of the text is of the class. -/
def EndsIn (p : Char → Bool) (cs : List Char) : Prop := ∃ c, cs.getLast? = some c ∧ p c = true

theorem rdropWhile_eq_self_iff {p : Char → Bool} {cs : List Char} :
    cs.rdropWhile p = cs ↔ ¬ EndsIn p cs := by
  rw [List.rdropWhile_eq_self_iff]
  constructor
  · rintro h ⟨c, hlast, hc⟩
    obtain ⟨before, rfl⟩ := List.getLast?_eq_some_iff.mp hlast
    exact h (by simp) (by simpa using hc)
  · intro h hne hc
    exact h ⟨_, List.getLast?_eq_some_getLast hne, hc⟩

theorem not_endsIn_rdropWhile (p : Char → Bool) (cs : List Char) :
    ¬ EndsIn p (cs.rdropWhile p) :=
  rdropWhile_eq_self_iff.mp (List.rdropWhile_idempotent p cs)

theorem endsIn_append {p : Char → Bool} {cs : List Char} (hne : cs ≠ []) (before : List Char) :
    EndsIn p (before ++ cs) ↔ EndsIn p cs := by
  unfold EndsIn
  rw [List.getLast?_append_of_ne_nil before hne]

/-- What stands before is reached only if it ends in the class itself. -/
theorem rdropWhile_append {p : Char → Bool} {before : List Char} (h : ¬ EndsIn p before)
    (cs : List Char) : (before ++ cs).rdropWhile p = before ++ cs.rdropWhile p := by
  induction cs using List.reverseRecOn with
  | nil =>
      rw [List.append_nil, List.rdropWhile_nil, List.append_nil]
      exact rdropWhile_eq_self_iff.mpr h
  | append_singleton cs c ih =>
      rw [← List.append_assoc]
      by_cases hc : p c = true
      · rw [List.rdropWhile_concat_pos _ _ _ hc, List.rdropWhile_concat_pos _ _ _ hc, ih]
      · rw [List.rdropWhile_concat_neg _ _ _ hc, List.rdropWhile_concat_neg _ _ _ hc,
          List.append_assoc]

theorem rdropWhile_append_of_pos {p : Char → Bool} {after : List Char}
    (h : ∀ c ∈ after, p c = true) (cs : List Char) :
    (cs ++ after).rdropWhile p = cs.rdropWhile p := by
  unfold List.rdropWhile
  rw [List.reverse_append, List.dropWhile_append_of_pos fun c hc => h c (List.mem_reverse.mp hc)]

/-- What a host is that has no slash at its end. -/
structure IsHost (host : List Char) : Prop where
  nonempty : host ≠ []
  slash : ¬ EndsIn (· = '/') host

theorem isHost_iff {host : List Char} :
    IsHost host ↔ host ≠ [] ∧ host.rdropWhile (· = '/') = host := by
  rw [rdropWhile_eq_self_iff]
  exact ⟨fun h => ⟨h.nonempty, h.slash⟩, fun h => ⟨h.1, h.2⟩⟩

/-- The URLs that come of a text are a scheme and a host, behind which the text has slashes at
most. -/
theorem normalizeBase_eq_ok_iff {raw : Option String} {base : String} :
    normalizeBase raw = .ok base ↔ ∃ scheme host slashes, IsScheme scheme ∧ IsHost host ∧
      (∀ c ∈ slashes, c = '/') ∧
      withScheme (trimBy isBlank (raw.getD "").toList) =
        scheme ++ "://".toList ++ (host ++ slashes) ∧
      base = urlOf scheme host := by
  unfold normalizeBase
  dsimp only
  generalize trimBy isBlank (raw.getD "").toList = cs
  obtain ⟨scheme, rest, hscheme, hcs⟩ := exists_withScheme cs
  rw [hcs, dropEndSlashes_scheme hscheme]
  constructor
  · intro h
    split_ifs at h with hempty hhost
    · cases h
    · refine ⟨scheme, _, rest.rtakeWhile (· = '/'), hscheme, ⟨fun hnil => hhost ?_, ?_⟩, ?_, ?_,
        (Except.ok.inj h).symm⟩
      · rw [hnil]
        rfl
      · exact not_endsIn_rdropWhile _ rest
      · intro c hc
        simpa using List.mem_rtakeWhile_imp hc
      · rw [List.rdropWhile_append_rtakeWhile]
  · rintro ⟨scheme', host, slashes, hscheme', hhost, hslashes, heq, rfl⟩
    obtain ⟨rfl, rfl⟩ := eq_of_scheme hscheme hscheme' heq
    have hne : cs.isEmpty = false := by
      rw [List.isEmpty_eq_false_iff]
      rintro rfl
      have hhttp : [] = host ++ slashes := (eq_of_scheme isScheme_http hscheme hcs).2
      exact hhost.nonempty (List.append_eq_nil_iff.mp hhttp.symm).1
    have hkept : (host ++ slashes).rdropWhile (· = '/') = host := by
      rw [rdropWhile_append_of_pos fun c hc => decide_eq_true (hslashes c hc)]
      exact (isHost_iff.mp hhost).2
    rw [hne, if_neg Bool.false_ne_true, hkept,
      if_neg fun hnil => hhost.nonempty (List.isEmpty_iff.mp hnil)]
    rfl

theorem isBlank_eq_false_of_isLetter {c : Char} (h : isLetter c = true) : isBlank c = false := by
  have hcodes : ∀ code ∈ blankCodes, isLetter (Char.ofNat code) = false := by decide +kernel
  by_contra hblank
  have hc := hcodes c.toNat (mem_blankCodes (Bool.not_eq_false _ ▸ hblank))
  rw [Char.ofNat_toNat, h] at hc
  cases hc

/-- Trimming reaches only the host of a URL. -/
theorem trimBy_urlOf (h : IsScheme scheme) (host : List Char) :
    trimBy isBlank (urlOf scheme host).toList =
      scheme ++ "://".toList ++ host.rdropWhile isBlank := by
  obtain ⟨c, more, rfl, hletter⟩ := h.letter
  have hends : ¬ EndsIn isBlank (c :: more ++ "://".toList) := by
    rw [endsIn_append (by decide)]
    rintro ⟨d, hlast, hd⟩
    obtain rfl : '/' = d := Option.some.inj hlast
    exact absurd hd (by decide)
  rw [toList_urlOf, trimBy_eq_rdropWhile, ← rdropWhile_append hends]
  congr 1
  exact List.dropWhile_cons_of_neg (by simp [isBlank_eq_false_of_isLetter hletter])

/-- The URL that comes of a text with a scheme: the blanks at the end of the host go, and then the
slashes. -/
theorem normalizeBase_of_scheme (h : IsScheme scheme) (host : List Char) :
    normalizeBase (some (urlOf scheme host)) =
      if ((host.rdropWhile isBlank).rdropWhile (· = '/')).isEmpty then .error .noHost
      else .ok (urlOf scheme ((host.rdropWhile isBlank).rdropWhile (· = '/'))) := by
  have hne : (scheme ++ "://".toList ++ host.rdropWhile isBlank).isEmpty = false := by
    rw [List.isEmpty_eq_false_iff]
    exact List.append_ne_nil_of_left_ne_nil
      (List.append_ne_nil_of_right_ne_nil _ (by decide)) _
  unfold normalizeBase
  dsimp only
  rw [Option.getD_some, trimBy_urlOf h, hne, if_neg Bool.false_ne_true,
    withScheme_eq_self (hasScheme_scheme h _), dropEndSlashes_scheme h]
  split_ifs <;> rfl

/-- A URL of a host is kept exactly if there is no blank at its end. -/
theorem normalizeBase_urlOf_eq_self_iff (h : IsScheme scheme) (hhost : IsHost host) :
    normalizeBase (some (urlOf scheme host)) = .ok (urlOf scheme host) ↔
      ¬ EndsIn isBlank host := by
  rw [normalizeBase_of_scheme h, ← rdropWhile_eq_self_iff]
  constructor
  · intro hself
    split_ifs at hself
    have hurl := congrArg String.toList (Except.ok.inj hself)
    rw [toList_urlOf, toList_urlOf] at hurl
    have hlength := congrArg List.length (List.append_cancel_left hurl)
    have hslashes := (List.rdropWhile_prefix (· = '/') (host.rdropWhile isBlank)).length_le
    exact (List.rdropWhile_prefix isBlank host).eq_of_length_le (by omega)
  · intro hends
    rw [hends, (isHost_iff.mp hhost).2,
      if_neg fun hnil => hhost.nonempty (List.isEmpty_iff.mp hnil)]

theorem endsIn_urlOf {p : Char → Bool} (hne : host ≠ []) :
    EndsIn p (urlOf scheme host).toList ↔ EndsIn p host := by
  rw [toList_urlOf, endsIn_append hne]

/-- The URLs that are kept as they are: with a scheme, and neither a slash nor a blank at the
end. -/
theorem normalizeBase_eq_self_iff {url : String} :
    normalizeBase (some url) = .ok url ↔ hasScheme url.toList = true ∧
      ¬ EndsIn (· = '/') url.toList ∧ ¬ EndsIn isBlank url.toList := by
  constructor
  · intro h
    obtain ⟨scheme, host, slashes, hscheme, hhost, -, -, rfl⟩ := normalizeBase_eq_ok_iff.mp h
    rw [endsIn_urlOf hhost.nonempty, endsIn_urlOf hhost.nonempty, toList_urlOf]
    exact ⟨hasScheme_scheme hscheme host, hhost.slash,
      (normalizeBase_urlOf_eq_self_iff hscheme hhost).mp h⟩
  · rintro ⟨hstarts, hslash, hblank⟩
    obtain ⟨scheme, host, hscheme, hurl⟩ := hasScheme_iff.mp hstarts
    obtain rfl : url = urlOf scheme host := by
      rw [urlOf, ← hurl, String.ofList_toList]
    have hne : host ≠ [] := by
      rintro rfl
      refine hslash ⟨'/', ?_, by decide⟩
      rw [hurl, List.append_nil, List.getLast?_append_of_ne_nil _ (by decide)]
      rfl
    rw [endsIn_urlOf hne] at hslash hblank
    exact (normalizeBase_urlOf_eq_self_iff hscheme ⟨hne, hslash⟩).mpr hblank

/-- The URL that comes of a text ends as the text does without the slashes at its end. -/
theorem exists_host_of_normalized {raw : Option String} {base : String}
    (h : normalizeBase raw = .ok base) : ∃ scheme host, IsScheme scheme ∧ IsHost host ∧
      base = urlOf scheme host ∧ ∀ p, EndsIn p host ↔
        EndsIn p ((trimBy isBlank (raw.getD "").toList).rdropWhile (· = '/')) := by
  obtain ⟨scheme, host, slashes, hscheme, hhost, hslashes, htext, rfl⟩ :=
    normalizeBase_eq_ok_iff.mp h
  refine ⟨scheme, host, hscheme, hhost, rfl, fun p => ?_⟩
  have hdrop : ∀ before : List Char,
      EndsIn p ((before ++ (host ++ slashes)).rdropWhile (· = '/')) ↔ EndsIn p host := by
    intro before
    have hkept : (before ++ host).rdropWhile (· = '/') = before ++ host := by
      rw [rdropWhile_eq_self_iff, endsIn_append hhost.nonempty]
      exact hhost.slash
    rw [← List.append_assoc,
      rdropWhile_append_of_pos fun c hc => decide_eq_true (hslashes c hc), hkept,
      endsIn_append hhost.nonempty]
  generalize trimBy isBlank (raw.getD "").toList = cs at htext
  unfold withScheme at htext
  split_ifs at htext
  · rw [htext, hdrop]
  · obtain ⟨-, rfl⟩ := eq_of_scheme isScheme_http hscheme htext
    rw [← List.nil_append (host ++ slashes), hdrop]

end RenderRelay.Url
