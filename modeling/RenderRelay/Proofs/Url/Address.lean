import RenderRelay.Proofs.Url.Base
import RenderRelay.Proofs.Url.Form
import RenderRelay.Url.Address

/-! # Addresses below a backend's URL

* `normalizeBase_outcome`: a backend URL has a scheme, and no slash at its end.
* `queryOf_append_query`: what is put behind a question mark is the query, if there is none before.
* `target_append_query`: a query changes nothing about the path.
* `joined_endpoint`: an endpoint stands behind the whole of a URL without a fragment. -/

namespace RenderRelay.Url

open Text

/-! ### Backend URLs -/

/-- A backend URL has a scheme, and no slash at its end. -/
theorem normalizeBase_outcome {raw : Option String} {base : String}
    (h : normalizeBase raw = .ok base) :
    (∃ scheme rest, splitOnceChars "://".toList base.toList = some (scheme, rest)) ∧
      dropEndWhile (· = '/') base.toList = base.toList := by
  obtain ⟨scheme, host, -, hscheme, hhost, -, -, rfl⟩ := normalizeBase_eq_ok_iff.mp h
  rw [dropEndWhile_eq_rdropWhile, rdropWhile_eq_self_iff, endsIn_urlOf hhost.nonempty, toList_urlOf]
  exact ⟨⟨scheme, host, splitOnceChars_scheme hscheme.colon host⟩, hhost.slash⟩

/-! ### Queries -/

theorem takeWhile_ne_of_not_mem {c : Char} {cs : List Char} (h : c ∉ cs) :
    cs.takeWhile (· ≠ c) = cs := by
  rw [List.takeWhile_eq_self_iff]
  intro d hd
  refine decide_eq_true ?_
  rintro rfl
  exact h hd

section Query

variable {url query : List Char}

theorem queryOf_append_query (hquestion : '?' ∉ url) (hfragment : '#' ∉ url)
    (hends : '#' ∉ query) : queryOf (url ++ '?' :: query) = query := by
  have hwhole : '#' ∉ url ++ '?' :: query := by
    intro h
    obtain h | h := List.mem_append.mp h
    · exact hfragment h
    · exact hends (List.mem_of_ne_of_mem (by decide) h)
  have hbefore : ∀ c ∈ url, decide (c ≠ '?') = true := by
    intro c hc
    refine decide_eq_true ?_
    rintro rfl
    exact hquestion hc
  have hdrop : (url ++ '?' :: query).dropWhile (· ≠ '?') = '?' :: query := by
    rw [List.dropWhile_append_of_pos hbefore]
    rfl
  unfold queryOf
  rw [takeWhile_ne_of_not_mem hwhole, hdrop]
  rfl

theorem dropWhile_append_stop {p : Char → Bool} {c : Char} (h : p c = false)
    (before after : List Char) :
    (before ++ c :: after).dropWhile p = before.dropWhile p ++ c :: after := by
  induction before with
  | nil => exact List.dropWhile_cons_of_neg (by simp [h])
  | cons d before ih =>
      rw [List.cons_append, List.dropWhile_cons, List.dropWhile_cons, ih]
      split_ifs <;> rfl

theorem takeWhile_append_stop {p : Char → Bool} {c : Char} (h : p c = false)
    (before after : List Char) : (before ++ c :: after).takeWhile p = before.takeWhile p := by
  induction before with
  | nil => exact List.takeWhile_cons_of_neg (by simp [h])
  | cons d before ih =>
      rw [List.cons_append, List.takeWhile_cons, List.takeWhile_cons, ih]

/-- A query changes nothing about the path. -/
theorem pathOf_append_query {scheme rest : List Char}
    (h : splitOnceChars "://".toList url = some (scheme, rest)) :
    pathOf (url ++ '?' :: query) = pathOf url := by
  unfold pathOf afterScheme
  rw [splitOnceChars_append_right h, h]
  change (((rest ++ '?' :: query).dropWhile _).takeWhile _) = _
  rw [dropWhile_append_stop (by decide), takeWhile_append_stop (by decide)]
  rfl

/-- A URL with a query asks for the path that it has without, and for the fields of the query. -/
theorem target_append_query {scheme rest : List Char}
    (h : splitOnceChars "://".toList url = some (scheme, rest)) (hquestion : '?' ∉ url)
    (hfragment : '#' ∉ url) (form : Form) :
    target (url ++ '?' :: (encode form).toList) = ((target url).1, form) := by
  have hends : '#' ∉ (encode form).toList :=
    not_mem_encode (by decide) (by decide) (by decide) form
  unfold target parameters
  dsimp only
  rw [queryOf_append_query hquestion hfragment hends, pathOf_append_query h,
    String.ofList_toList, decode_encode]

end Query

/-- Behind a URL without a fragment, and without a slash at its end, stands an endpoint as it is. -/
theorem joined_endpoint {base : List Char} (hslash : dropEndWhile (· = '/') base = base)
    (hfragment : '#' ∉ base) {c : Char} (hc : c ≠ '/') (endpoint : List Char) :
    joined base ('/' :: c :: endpoint) = base ++ '/' :: c :: endpoint := by
  have hlast : base.getLast? ≠ some '/' := by
    intro hlast
    obtain ⟨before, rfl⟩ := List.getLast?_eq_some_iff.mp hlast
    rw [dropEndWhile_eq_rdropWhile, List.rdropWhile_concat_pos _ _ _ (by decide)] at hslash
    have hlength := congrArg List.length hslash
    have hshort := (List.rdropWhile_prefix (· = '/') before).length_le
    rw [List.length_append, List.length_singleton] at hlength
    omega
  have hstrip : ('/' :: c :: endpoint).dropWhile (· = '/') = c :: endpoint := by
    rw [List.dropWhile_cons_of_pos (by decide), List.dropWhile_cons_of_neg (by simpa using hc)]
  unfold joined
  dsimp only
  rw [takeWhile_ne_of_not_mem hfragment, if_neg hlast, hstrip, List.append_assoc,
    List.singleton_append]

end RenderRelay.Url
