import RenderRelay.Proofs.Api.WorkflowCall
import RenderRelay.Proofs.Url.Base

/-! # The URL of a run, from the form to the status call

A run's URL is brought into its normal form three times: where a form asks for the run, where the
run is submitted, and where its ticket comes back.

* `Api.Service.baseUrl_of_runRequest` and `RunConfig.baseUrl_of_submit`: what the first two make of
  it.
* `Url.IsKept` says that the second and the third leave it alone, and `Url.isKept_of_fixed` that
  they do if one more normal form does.
* `Url.normalizeBase_projects`: the URL that comes of a text has a scheme and no slash at its end,
  and it is kept exactly if it has no blank there. -/

namespace RenderRelay

open Text

/-- The text that a form gives for the backend, or else the one of the settings. -/
def Api.Service.backendText (service : Api.Service) (call : Api.ApiRequest) : String :=
  (Fault.nonEmpty? (call.field "base_url")).getD service.settings.backend.url

/-- The request of a form has the normal form of the text that was given. -/
theorem Api.Service.baseUrl_of_runRequest {service : Api.Service} {call : Api.ApiRequest}
    {request : RunRequest} (h : service.runRequest call = .ok request) :
    ∃ base, Url.checkBase (some (service.backendText call)) = .ok base ∧
      request.baseUrl = some base := by
  unfold runRequest at h
  dsimp only at h
  split_ifs at h with hempty
  · cases h
  · obtain ⟨base, hbase, h⟩ := exists_of_bind_ok h
    obtain ⟨seed, -, h⟩ := exists_of_bind_ok h
    obtain ⟨steps, -, h⟩ := exists_of_bind_ok h
    obtain rfl := Except.ok.inj h
    exact ⟨base, hbase, rfl⟩

/-- The ticket of an accepted request has the normal form of the request's URL. -/
theorem RunConfig.baseUrl_of_submit {config : RunConfig Double} {request : RunRequest}
    {world after : World Double} {ticket : RunTicket Double}
    (h : config.submit request world = (.ok ticket, after)) :
    Url.checkBase request.baseUrl = .ok ticket.baseUrl := by
  obtain ⟨checked, workflow, inputFilename, seed, jobId, summary, warnings, hcheck, -, rfl⟩ :=
    ticket_of_submit h
  unfold RunRequest.check at hcheck
  obtain ⟨base, hbase, hcheck⟩ := exists_of_bind_ok hcheck
  obtain ⟨positive, -, hcheck⟩ := exists_of_bind_ok hcheck
  obtain ⟨negative, -, hcheck⟩ := exists_of_bind_ok hcheck
  obtain ⟨steps, -, hcheck⟩ := exists_of_bind_ok hcheck
  obtain rfl := Except.ok.inj hcheck
  exact hbase

namespace Url

theorem checkBase_eq_ok_iff {raw : Option String} {base : String} :
    checkBase raw = .ok base ↔ normalizeBase raw = .ok base := by
  unfold checkBase
  cases normalizeBase raw with
  | error e => exact ⟨nofun, nofun⟩
  | ok other => simp [Except.mapError]

/-- The URL stays the same from the form on: submitting a run and checking a ticket accept it, and
the ticket of a run that was asked for with it has it, before and after it comes back. -/
structure IsKept (base : String) : Prop where
  submits : checkBase (some base) = .ok base
  returns : StatusCheck.baseUrlText (.str base) = .ok base
  same : ∀ {service : Api.Service} {call : Api.ApiRequest} {request : RunRequest}
    {config : RunConfig Double} {world after : World Double} {ticket : RunTicket Double}
    {url : String}, service.runRequest call = .ok request →
      normalizeBase (some (service.backendText call)) = .ok base →
      config.submit request world = (.ok ticket, after) → ticket.ComesBack url →
        request.baseUrl = some base ∧ ticket.baseUrl = base ∧ url = base

/-- A URL that is kept has no white space at its ends. -/
theorem trimWhiteSpace_of_fixed {base : String} (h : normalizeBase (some base) = .ok base) :
    trimWhiteSpace base = base := by
  obtain ⟨scheme, host, -, hscheme, hhost, -, -, rfl⟩ := normalizeBase_eq_ok_iff.mp h
  have hends := (normalizeBase_urlOf_eq_self_iff hscheme hhost).mp h
  apply trimWhiteSpace_of_trim
  apply String.toList_injective
  rw [toList_trim, trimBy_urlOf hscheme, toList_urlOf, rdropWhile_eq_self_iff.mpr hends]

theorem isKept_of_fixed {base : String} (h : normalizeBase (some base) = .ok base) :
    IsKept base where
  submits := checkBase_eq_ok_iff.mpr h
  returns := by
    obtain ⟨url, hurl, hread⟩ | ⟨hnone, -⟩ := StatusCheck.baseUrlText_outcome base
    · rw [trimWhiteSpace_of_fixed h, h] at hurl
      rw [hread, Except.ok.inj hurl]
    · rw [trimWhiteSpace_of_fixed h] at hnone
      exact absurd h (hnone base)
  same hrequest hasked hsubmit hback := by
    obtain ⟨asked, hchecked, hurl⟩ := Api.Service.baseUrl_of_runRequest hrequest
    obtain rfl := Except.ok.inj ((checkBase_eq_ok_iff.mp hchecked).symm.trans hasked)
    have hticket := checkBase_eq_ok_iff.mp (RunConfig.baseUrl_of_submit hsubmit)
    rw [hurl] at hticket
    have hsame := Except.ok.inj (hticket.symm.trans h)
    have hreturned := hback.url_eq
    rw [hsame, trimWhiteSpace_of_fixed h] at hreturned
    exact ⟨hurl, hsame, Except.ok.inj (hreturned.symm.trans h)⟩

/-- The URL that comes of a text has a scheme, and neither a blank before it nor a slash at its end.
It ends in a blank exactly if the text, trimmed, does so without its last slashes; otherwise it is
kept as it is from the form on. -/
theorem normalizeBase_projects {raw : Option String} {base : String}
    (h : normalizeBase raw = .ok base) :
    hasScheme base.toList = true ∧
      ¬ EndsIn (· = '/') base.toList ∧
      (∀ c rest, base.toList = c :: rest → isBlank c = false) ∧
      (EndsIn isBlank base.toList ↔
        EndsIn isBlank (dropEndWhile (· = '/') (trimBy isBlank (raw.getD "").toList))) ∧
      (normalizeBase (some base) = .ok base ↔ ¬ EndsIn isBlank base.toList) ∧
      (¬ EndsIn isBlank base.toList → IsKept base) := by
  obtain ⟨scheme, host, hscheme, hhost, rfl, hends⟩ := exists_host_of_normalized h
  have hkept := normalizeBase_urlOf_eq_self_iff hscheme hhost
  simp only [endsIn_urlOf hhost.nonempty]
  refine ⟨?_, hhost.slash, ?_, hends isBlank, hkept,
    fun hblank => isKept_of_fixed (hkept.mpr hblank)⟩
  · rw [toList_urlOf]
    exact hasScheme_scheme hscheme host
  · obtain ⟨c, more, rfl, hletter⟩ := hscheme.letter
    intro d rest heq
    rw [toList_urlOf] at heq
    obtain rfl := (List.cons.inj heq).1
    exact isBlank_eq_false_of_isLetter hletter

/-- Blanks around a host with slashes. -/
theorem normalizeBase_projects_host :
    normalizeBase (some " host:8188// ") = .ok "http://host:8188" ∧
      IsKept "http://host:8188" := by
  have hbase : normalizeBase (some " host:8188// ") = .ok "http://host:8188" := by
    decide +kernel
  refine ⟨hbase, (normalizeBase_projects hbase).2.2.2.2.2 ?_⟩
  rintro ⟨c, hlast, hc⟩
  obtain rfl : '8' = c := Option.some.inj hlast
  exact absurd hc (by decide)

/-- A blank before the slashes at the end is left over by the first normal form and taken away by
the second, and where no host stands before it that one is refused. -/
theorem normalizeBase_not_kept :
    normalizeBase (some "http://host /") = .ok "http://host " ∧
      normalizeBase (some "http://host ") = .ok "http://host" ∧
      normalizeBase (some "http:// /") = .ok "http:// " ∧
      normalizeBase (some "http:// ") = .error .noHost := by
  decide +kernel

end Url

end RenderRelay
