import RenderRelay.Api.Runs
import RenderRelay.Proofs.Run.Record

/-! # The ticket in a status call

A status call sends the ticket of a run back.  Its body is checked like any other, and the check
takes white space from around each text and brings the URL into its normal form once more.

* `RunTicket.returned` is the ticket that is made of such a body, and `RunTicket.ComesBack` says
  when there is one (`StatusCheck.ofFields_outcome`, `Api.ticketOf_toJson`).
* `RunTicket.Unpadded` says that the check has nothing to take away.
* `RunConfig.sameEnd_check`: what a poll reads of a ticket.
* `RunConfig.status_call_of_submit`: for the ticket of every accepted request, when the call accepts
  it, what ticket the call goes on with, and that a poll of that ticket records the run as a wait
  for the first one would exactly if nothing recorded was taken away. -/

namespace RenderRelay

open Text

/-! ### What the check makes of a ticket -/

/-- The value without the white space around it, if it is a text. -/
def Json.trimmed : Json → Json
  | .str s => .str (trimWhiteSpace s)
  | value => value

/-- The parameters without the white space around their texts. -/
def RunParameters.trimmed (parameters : RunParameters) : RunParameters where
  workflowId := parameters.workflowId.trimmed
  workflowName := parameters.workflowName.trimmed
  positivePrompt := parameters.positivePrompt.trimmed
  negativePrompt := parameters.negativePrompt.trimmed
  seed := parameters.seed.trimmed
  steps := parameters.steps.trimmed
  inputFilename := parameters.inputFilename.trimmed

namespace RunTicket

/-- The ticket that a status call with this URL goes on with. -/
def returned (ticket : RunTicket Double) (url : String) : RunTicket Double where
  jobId := trimWhiteSpace ticket.jobId
  baseUrl := url
  startedAt := ticket.startedAt
  clientId := ticket.clientId.trimmed
  parameters := ticket.parameters.trimmed
  summary := none
  warnings := []
  lastHistory := .null
  lastFullHistory := .null

/-- A status call accepts the ticket, and takes this URL from it. -/
structure ComesBack (ticket : RunTicket Double) (url : String) : Prop where
  jobId_ne : trimWhiteSpace ticket.jobId ≠ ""
  url_eq : Url.normalizeBase (some (trimWhiteSpace ticket.baseUrl)) = .ok url
  started : Double.less ticket.startedAt (Double.zero false) = false

/-- No text that is recorded of the ticket has white space around it, and its URL is in its normal
form. -/
structure Unpadded (ticket : RunTicket Double) : Prop where
  jobId_eq : trimWhiteSpace ticket.jobId = ticket.jobId
  parameters_eq : ticket.parameters.trimmed = ticket.parameters
  url_eq : Url.normalizeBase (some (trimWhiteSpace ticket.baseUrl)) = .ok ticket.baseUrl

end RunTicket

namespace Check

variable {α : Type} {fields : Fields} {name : String} {value : Json} {read : Reader α}

theorem required_of_ok (hfield : fields.get? name = some value) {x : α}
    (hread : read value = .ok x) : required fields name read = .valid x := by
  unfold required
  rw [hfield]
  dsimp only
  rw [hread]
  rfl

theorem required_of_error (hfield : fields.get? name = some value) {kind : IssueKind}
    (hread : read value = .error kind) : required fields name read = .invalid [⟨[name], kind⟩] := by
  unfold required
  rw [hfield]
  dsimp only
  rw [hread]
  rfl

/-- A text is read if something is left of it without the white space around it. -/
theorem boundedText_trimmed (s : String) : boundedText none trimmedText (.str s) =
    if trimWhiteSpace s = "" then .error .tooShort else .ok (trimWhiteSpace s) := by
  unfold boundedText
  simp only [trimmedText, text, Except.map, bind, Except.bind, String.isEmpty_iff]

theorem nonNegative_float (x : Double) : nonNegative (.float x) =
    if Double.less x (Double.zero false) then .error .negative else .ok x := rfl

end Check

namespace StatusCheck

open Check

variable {fields : Fields} {name : String}

theorem textField_ofText? {text : Option String}
    (h : fields.get? name = some (Json.ofText? text)) :
    textField fields name = .valid (text.map trimWhiteSpace) := by
  unfold textField withDefault
  rw [h]
  cases text <;> rfl

theorem integerField_ofInt? {n : Option Int} (h : fields.get? name = some (Json.ofInt? n)) :
    integerField fields name = .valid n := by
  unfold integerField withDefault
  rw [h]
  cases n <;> rfl

theorem normalizeBase_empty : Url.normalizeBase (some "") = .error .missing := by
  unfold Url.normalizeBase
  simp

/-- The URL is read if it has a normal form without the white space around it. -/
theorem baseUrlText_outcome (s : String) :
    (∃ url, Url.normalizeBase (some (trimWhiteSpace s)) = .ok url ∧
      baseUrlText (.str s) = .ok url) ∨
    (∀ url, Url.normalizeBase (some (trimWhiteSpace s)) ≠ .ok url) ∧
      ∃ kind, baseUrlText (.str s) = .error kind := by
  have hread := boundedText_trimmed s
  unfold baseUrlText
  by_cases hempty : trimWhiteSpace s = ""
  · rw [if_pos hempty] at hread
    rw [hread, hempty, normalizeBase_empty]
    exact Or.inr ⟨nofun, .tooShort, rfl⟩
  · rw [if_neg hempty] at hread
    rw [hread]
    dsimp only [bind, Except.bind]
    cases Url.normalizeBase (some (trimWhiteSpace s)) with
    | error e => exact Or.inr ⟨nofun, _, rfl⟩
    | ok url => exact Or.inl ⟨url, rfl, rfl⟩

/-- The fields hold the values of this request, and perhaps others. -/
def Given (fields : Fields) (given : StatusCheck) : Prop :=
  ∀ field ∈ given.toFields, fields.get? field.1 = some field.2

/-- The request without the white space around its texts, and with this URL. -/
def trimmed (given : StatusCheck) (url : String) : StatusCheck where
  jobId := trimWhiteSpace given.jobId
  baseUrl := url
  startedAt := given.startedAt
  clientId := given.clientId.map trimWhiteSpace
  workflowId := given.workflowId.map trimWhiteSpace
  workflowName := given.workflowName.map trimWhiteSpace
  positivePrompt := given.positivePrompt.map trimWhiteSpace
  negativePrompt := given.negativePrompt.map trimWhiteSpace
  seed := given.seed
  steps := given.steps
  inputFilename := given.inputFilename.map trimWhiteSpace

/-- Fields that hold the values of a request are refused only for the job id, the URL or the
start. -/
theorem ofFields_outcome {given : StatusCheck} (h : Given fields given) :
    (∃ url, trimWhiteSpace given.jobId ≠ "" ∧
      Url.normalizeBase (some (trimWhiteSpace given.baseUrl)) = .ok url ∧
      Double.less given.startedAt (Double.zero false) = false ∧
      ofFields fields = .valid (given.trimmed url)) ∨
    (trimWhiteSpace given.jobId = "" ∨
      (∀ url, Url.normalizeBase (some (trimWhiteSpace given.baseUrl)) ≠ .ok url) ∨
      Double.less given.startedAt (Double.zero false) = true) ∧
      ∃ issues, ofFields fields = .invalid issues := by
  simp only [Given, toFields, List.forall_mem_cons] at h
  obtain ⟨hjob, hurl, hstart, hclient, hworkflow, hname, hpositive, hnegative, hseed, hsteps,
    hinput, -⟩ := h
  have hjobRead := boundedText_trimmed given.jobId
  have hstartRead := nonNegative_float given.startedAt
  unfold ofFields
  rw [textField_ofText? hclient, textField_ofText? hworkflow, textField_ofText? hname,
    textField_ofText? hpositive, textField_ofText? hnegative, integerField_ofInt? hseed,
    integerField_ofInt? hsteps, textField_ofText? hinput]
  obtain ⟨url, hnormal, hurlRead⟩ | ⟨hrefused, kind, hurlRead⟩ := baseUrlText_outcome given.baseUrl
  · rw [required_of_ok hurl hurlRead]
    by_cases hempty : trimWhiteSpace given.jobId = ""
    · rw [if_pos hempty] at hjobRead
      rw [required_of_error hjob hjobRead]
      refine Or.inr ⟨Or.inl hempty, ?_⟩
      cases required fields "started_at" nonNegative with
      | valid start => exact ⟨_, rfl⟩
      | invalid issues => exact ⟨_, rfl⟩
    · rw [if_neg hempty] at hjobRead
      rw [required_of_ok hjob hjobRead]
      cases hless : Double.less given.startedAt (Double.zero false) with
      | false =>
          rw [hless, if_neg Bool.false_ne_true] at hstartRead
          rw [required_of_ok hstart hstartRead]
          exact Or.inl ⟨url, hempty, hnormal, rfl, rfl⟩
      | true =>
          rw [hless, if_pos rfl] at hstartRead
          rw [required_of_error hstart hstartRead]
          exact Or.inr ⟨Or.inr (Or.inr rfl), _, rfl⟩
  · rw [required_of_error hurl hurlRead]
    refine Or.inr ⟨Or.inr (Or.inl hrefused), ?_⟩
    cases required fields "job_id" (boundedText none trimmedText) with
    | valid jobId =>
        cases required fields "started_at" nonNegative with
        | valid start => exact ⟨_, rfl⟩
        | invalid issues => exact ⟨_, rfl⟩
    | invalid issues =>
        cases required fields "started_at" nonNegative with
        | valid start => exact ⟨_, rfl⟩
        | invalid more => exact ⟨_, rfl⟩

end StatusCheck

theorem Json.trimmed_ofText? (text : Option String) :
    (Json.ofText? text).trimmed = Json.ofText? (text.map trimWhiteSpace) := by
  cases text <;> rfl

theorem Json.trimmed_ofInt? (n : Option Int) : (Json.ofInt? n).trimmed = Json.ofInt? n := by
  cases n <;> rfl

namespace RunTicket

/-- The request that a ticket is, field by field. -/
structure Sends (ticket : RunTicket Double) (given : StatusCheck) : Prop where
  jobId : ticket.jobId = given.jobId
  baseUrl : ticket.baseUrl = given.baseUrl
  startedAt : ticket.startedAt = given.startedAt
  clientId : ticket.clientId = Json.ofText? given.clientId
  parameters : ticket.parameters = ⟨Json.ofText? given.workflowId, Json.ofText? given.workflowName,
    Json.ofText? given.positivePrompt, Json.ofText? given.negativePrompt, Json.ofInt? given.seed,
    Json.ofInt? given.steps, Json.ofText? given.inputFilename⟩

variable {ticket : RunTicket Double} {given : StatusCheck}

theorem Sends.fields_given (h : ticket.Sends given) : StatusCheck.Given ticket.toFields given := by
  obtain ⟨jobId, baseUrl, startedAt, clientId, parameters, summary, warnings, history, full⟩ :=
    ticket
  obtain ⟨rfl, rfl, rfl, rfl, rfl⟩ := h
  simp only [StatusCheck.Given, StatusCheck.toFields, List.forall_mem_cons]
  exact ⟨rfl, rfl, rfl, rfl, rfl, rfl, rfl, rfl, rfl, rfl, rfl, List.forall_mem_nil _⟩

theorem Sends.returned_eq (h : ticket.Sends given) (url : String) :
    RunTicket.ofFields (given.trimmed url).toFields = .ok (ticket.returned url) := by
  obtain ⟨jobId, baseUrl, startedAt, clientId, parameters, summary, warnings, history, full⟩ :=
    ticket
  obtain ⟨rfl, rfl, rfl, rfl, rfl⟩ := h
  simp only [returned, RunParameters.trimmed, Json.trimmed_ofText?, Json.trimmed_ofInt?]
  rfl

end RunTicket

namespace Api

/-- The ticket of a status call, or why there is none. -/
def ticketOf (body : Json) : Except Failure (RunTicket Double) := do
  let check ← checkedBody (StatusCheck.ofJson body)
  RunTicket.ofFields check.toFields

theorem Service.pollRun_of_ticketOf {service : Service} {call : ApiRequest}
    {ticket : RunTicket Double} (h : ticketOf call.body = .ok ticket) :
    service.pollRun call = service.runConfig.check ticket >>= fun status =>
      Act.ofExcept (service.statusResponse status) := by
  unfold ticketOf at h
  unfold pollRun
  cases hchecked : checkedBody (StatusCheck.ofJson call.body) with
  | error failure =>
      rw [hchecked] at h
      cases h
  | ok check =>
      rw [hchecked] at h
      have hticket : RunTicket.ofFields check.toFields = .ok ticket := h
      funext world
      rw [bind_ok (Act.ofExcept_apply world _), hticket, bind_ok (Act.ofExcept_apply world _)]

theorem Service.pollRun_of_refused {service : Service} {call : ApiRequest}
    {issues : List Check.Issue}
    (h : StatusCheck.ofJson call.body = .invalid issues) (world : World Double) :
    service.pollRun call world = (.error (.fault (bodyFault issues)), world) := by
  unfold pollRun
  rw [h]
  exact bind_error (Act.ofExcept_apply world _)

/-- A status call accepts a ticket as `RunTicket.ComesBack` says, or refuses it. -/
theorem ticketOf_toJson {ticket : RunTicket Double} {given : StatusCheck}
    (h : ticket.Sends given) :
    (∃ url, ticket.ComesBack url ∧ ticketOf ticket.toJson = .ok (ticket.returned url)) ∨
    (∀ url, ¬ ticket.ComesBack url) ∧
      ∃ issues, StatusCheck.ofJson ticket.toJson = .invalid issues := by
  obtain ⟨url, hjob, hurl, hstart, hvalid⟩ | ⟨hrefused, hinvalid⟩ :=
    StatusCheck.ofFields_outcome h.fields_given
  · rw [← h.jobId] at hjob
    rw [← h.baseUrl] at hurl
    rw [← h.startedAt] at hstart
    have hread : StatusCheck.ofJson ticket.toJson = .valid (given.trimmed url) := hvalid
    refine Or.inl ⟨url, ⟨hjob, hurl, hstart⟩, ?_⟩
    unfold ticketOf
    rw [hread]
    exact h.returned_eq url
  · refine Or.inr ⟨?_, hinvalid⟩
    rintro url ⟨hjob, hurl, hstart⟩
    rw [h.jobId] at hjob
    rw [h.baseUrl] at hurl
    rw [h.startedAt] at hstart
    obtain hempty | hrefused | hless := hrefused
    · exact hjob hempty
    · exact hrefused url hurl
    · rw [hstart] at hless
      cases hless

end Api

/-! ### What a poll reads of a ticket -/

/-- Two ends of a poll: the same world, and the same image and record. -/
def SameEnd {τ : Type} (first second : Except Failure (RunStatus τ) × World τ) : Prop :=
  first.1.map RunStatus.result? = second.1.map RunStatus.result? ∧ first.2 = second.2

/-- A poll reads the same of both tickets. -/
structure RunTicket.Alike {τ : Type} (ticket other : RunTicket τ) : Prop where
  jobId : ticket.jobId = other.jobId
  baseUrl : ticket.baseUrl = other.baseUrl
  startedAt : ticket.startedAt = other.startedAt
  parameters : ticket.parameters = other.parameters

theorem sameEnd_bind {τ α : Type} {act : Act τ α} {next next' : α → Act τ (RunStatus τ)}
    (h : ∀ value after, SameEnd (next value after) (next' value after)) (world : World τ) :
    SameEnd ((act >>= next) world) ((act >>= next') world) :=
  bind_alike (fun _ => ⟨rfl, rfl⟩) h

namespace RunConfig

variable {τ : Type} [TimeScale τ] {config : RunConfig τ} {ticket other : RunTicket τ}

theorem sameEnd_complete (h : ticket.Alike other) (client : Client) (image : ImageRef)
    (elapsed : τ) (world : World τ) :
    SameEnd (config.complete client ticket image elapsed world)
      (config.complete client other image elapsed world) := by
  obtain ⟨jobId, baseUrl, startedAt, clientId, parameters, summary, warnings, history, full⟩ :=
    ticket
  obtain ⟨rfl, rfl, rfl, rfl⟩ := h
  unfold complete
  refine sameEnd_bind (fun content fetched => ?_) world
  cases content with
  | none =>
      refine sameEnd_bind (fun record saved => ?_) fetched
      refine sameEnd_bind (fun millis last => ?_) saved
      exact ⟨rfl, rfl⟩
  | some content =>
      refine sameEnd_bind (fun record saved => ?_) fetched
      refine sameEnd_bind (fun millis last => ?_) saved
      exact ⟨rfl, rfl⟩

/-- What else a ticket holds has no influence on a poll. -/
theorem sameEnd_check (h : ticket.Alike other) (world : World τ) :
    SameEnd (config.check ticket world) (config.check other world) := by
  unfold check
  rw [h.jobId, h.baseUrl, h.startedAt]
  refine sameEnd_bind (fun clock after => ?_) world
  dsimp only
  split_ifs with hexceeds
  · refine sameEnd_bind (fun millis last => ?_) after
    exact ⟨rfl, rfl⟩
  · refine sameEnd_bind (fun snapshot last => ?_) after
    cases snapshot.image with
    | none => exact ⟨rfl, rfl⟩
    | some image =>
        have hseen : (ticket.seen snapshot.history snapshot.fullHistory).Alike
            (other.seen snapshot.history snapshot.fullHistory) :=
          ⟨h.jobId, h.baseUrl, h.startedAt, h.parameters⟩
        exact sameEnd_complete hseen (config.client other.baseUrl) image
          (TimeScale.minus clock other.startedAt) last

/-- A poll of the ticket, or a wait for it, ends with this image and this record. -/
def Records (config : RunConfig τ) (ticket : RunTicket τ) (image : ImageRef)
    (record : RunRecord) : Prop :=
  ∃ before after status result, (config.check ticket before = (.ok status, after) ∨
    config.wait ticket before = (.ok status, after)) ∧
      status.result? = some result ∧ result.image = image ∧ result.record = some record

theorem Records.record_eq {image : ImageRef} {record : RunRecord}
    (h : config.Records ticket image record) : ∃ stamp,
      record = HistoryStore.recordOf stamp (some image.filename) ticket.metadata.toFields := by
  obtain ⟨before, after, status, result, hcheck | hwait, hresult, rfl, hrecord⟩ := h
  · exact record_of_check hcheck hresult hrecord
  · exact record_of_wait hwait hresult hrecord

theorem Records.metadata_eq {image : ImageRef} {record : RunRecord}
    (h : config.Records ticket image record) : record.metadata = ticket.metadata := by
  obtain ⟨stamp, rfl⟩ := h.record_eq
  exact RunMetadata.ofFields_toFields ticket.metadata

/-- Records of images with one filename have one given filename. -/
theorem Records.givenFilename_eq {poller waiter : RunConfig τ} {image found : ImageRef}
    {record mate : RunRecord} (h : poller.Records ticket image record)
    (hmate : waiter.Records other found mate) (hname : image.filename = found.filename) :
    record.givenFilename = mate.givenFilename := by
  obtain ⟨stamp, rfl⟩ := h.record_eq
  obtain ⟨stamp', rfl⟩ := hmate.record_eq
  rw [hname]
  rfl

end RunConfig

/-! ### The ticket of an accepted request -/

namespace RunTicket

variable {ticket : RunTicket Double} {url : String}

/-- A status call goes on with the same as it was given exactly if there is nothing to take
away. -/
theorem alike_iff_unpadded (h : ticket.ComesBack url) :
    (ticket.returned url).Alike ticket ↔ ticket.Unpadded := by
  constructor
  · rintro ⟨hjob, hurl, -, hparameters⟩
    have hurl : url = ticket.baseUrl := hurl
    rw [hurl] at h
    exact ⟨hjob, hparameters, h.url_eq⟩
  · rintro ⟨hjob, hparameters, hurl⟩
    have hurl : url = ticket.baseUrl := Except.ok.inj (h.url_eq.symm.trans hurl)
    exact ⟨hjob, hurl, rfl, hparameters⟩

end RunTicket

namespace RunConfig

/-- The ticket of an accepted request is the ticket of a status call. -/
theorem sends_of_submit {config : RunConfig Double} {request : RunRequest}
    {world after : World Double} {ticket : RunTicket Double}
    (h : config.submit request world = (.ok ticket, after)) : ∃ given, ticket.Sends given := by
  obtain ⟨checked, workflow, inputFilename, seed, jobId, summary, warnings, -, -, rfl⟩ :=
    ticket_of_submit h
  exact ⟨⟨jobId, checked.baseUrl, world.clock, some config.clientId, some workflow.id,
    some workflow.name, checked.positive, checked.negative, some seed, checked.steps,
    inputFilename⟩, ⟨rfl, rfl, rfl, rfl, rfl⟩⟩

/-- A status call with the ticket of an accepted request is refused, with nothing done, if nothing
is left of the job id, the URL has no normal form or the start is negative.  Otherwise it polls for
the ticket without the white space around its texts: that poll does and finds what a poll of the
ticket itself would if there is no white space to take away, and its records agree with those of a
wait for the ticket exactly if there is none in what is recorded. -/
theorem status_call_of_submit {config : RunConfig Double} {request : RunRequest}
    {world after : World Double} {ticket : RunTicket Double}
    (h : config.submit request world = (.ok ticket, after)) (service : Api.Service)
    (call : Api.ApiRequest) :
    ((∀ url, ¬ ticket.ComesBack url) → ∃ issues, ∀ before,
      service.pollRun { call with body := ticket.toJson } before =
        (.error (.fault (Api.bodyFault issues)), before)) ∧
    ∀ url, ticket.ComesBack url →
      (service.pollRun { call with body := ticket.toJson } =
        service.runConfig.check (ticket.returned url) >>= fun status =>
          Act.ofExcept (service.statusResponse status)) ∧
      ((ticket.returned url).Alike ticket ↔ ticket.Unpadded) ∧
      (ticket.Unpadded → ∀ before, SameEnd (service.runConfig.check (ticket.returned url) before)
        (service.runConfig.check ticket before)) ∧
      ∀ (poller waiter : RunConfig Double) (image other : ImageRef) (record mate : RunRecord),
        poller.Records (ticket.returned url) image record → waiter.Records ticket other mate →
          image.filename = other.filename → record.givenFilename = mate.givenFilename ∧
            (record.metadata = mate.metadata ↔ trimWhiteSpace ticket.jobId = ticket.jobId ∧
              ticket.parameters.trimmed = ticket.parameters) := by
  obtain ⟨given, hsends⟩ := sends_of_submit h
  obtain ⟨url, hback, hticket⟩ | ⟨hrefused, issues, hinvalid⟩ := Api.ticketOf_toJson hsends
  · refine ⟨fun hnone => absurd hback (hnone url), ?_⟩
    intro url' hback'
    obtain rfl : url = url' := Except.ok.inj (hback.url_eq.symm.trans hback'.url_eq)
    have halike := RunTicket.alike_iff_unpadded hback
    refine ⟨Api.Service.pollRun_of_ticketOf hticket, halike, ?_, ?_⟩
    · intro hunpadded before
      exact sameEnd_check (halike.mpr hunpadded) before
    · intro poller waiter image other record mate hrecord hmate hname
      refine ⟨hrecord.givenFilename_eq hmate hname, ?_⟩
      rw [hrecord.metadata_eq, hmate.metadata_eq]
      unfold RunTicket.metadata RunTicket.returned
      rw [RunMetadata.mk.injEq, Json.str.injEq]
  · refine ⟨fun _ => ⟨issues, Api.Service.pollRun_of_refused hinvalid⟩, ?_⟩
    intro url hback
    exact absurd hback (hrefused url)

/-! ### A prompt with a blank before it -/

/-- A backend that answers every request with this body. -/
def answering (body : String) : Backend := fun _ _ => .response ⟨200, Bytes.encode body, none⟩

/-- A run whose polls are two seconds apart, for ten seconds. -/
def followed (backend : Backend) : RunConfig Double where
  backend := backend
  timeouts := .standard
  patience := ⟨.standard, fun _ => .zero false⟩
  production := false
  proxyUrl := fun _ _ => ImageRef.proxyPath
  clientId := "client"
  drawnSeed := 0
  newId := fun _ => "id"
  pollInterval := .ofInt 2
  maxWait := .ofInt 10000

/-- A run of the samplers with a blank before its prompt. -/
def padded : RunRequest :=
  ⟨.str "w", some "http://backend", .str " a cat", .null, .int 7, .null, none⟩

/-- What is checked of that run. -/
def checkedPadded : RunRequest.Checked := ⟨"http://backend", some " a cat", none, none⟩

/-- The directory with the samplers, at zero. -/
def followedWorld : World Double := ⟨.zero false, worldOfSamplers.disk, [], [], 0⟩

theorem submit_padded {id : String} {body : String}
    (hjob : Client.submittedId ⟨200, Bytes.encode body, none⟩ = .ok id) : ∃ ticket after,
    (followed (answering body)).submit padded followedWorld = (.ok ticket, after) ∧
      ticket.jobId = id ∧ ticket.baseUrl = "http://backend" ∧ ticket.startedAt = .zero false ∧
      ticket.parameters = checkedPadded.parameters samplers none 7 := by
  have hcheck : padded.check = .ok checkedPadded := rfl
  have hworkflow : padded.workflow followedWorld.disk = .ok samplers := workflow_samplers
  have hstored : RunRequest.graphOf samplers = .ok samplersGraph := rfl
  have hseed : chooseSeedOf (followed (answering body)).drawnSeed padded.seed = .ok 7 := rfl
  obtain ⟨ticket, after, hsubmit, hid, hurl, hstart, hparameters, -⟩ :=
    submit_of_accepts rfl hcheck hworkflow hstored hseed (by decide) rfl hjob
  exact ⟨ticket, after, hsubmit, hid, hurl, hstart, hparameters⟩

theorem submittedId_job :
    Client.submittedId ⟨200, Bytes.encode "\x7b\"prompt_id\":\"job\"\x7d", none⟩ = .ok "job" := by
  decide +kernel

theorem submittedId_blank :
    Client.submittedId ⟨200, Bytes.encode "\x7b\"prompt_id\":\" \"\x7d", none⟩ = .ok " " := by
  decide +kernel

theorem comesBack_padded {ticket : RunTicket Double} (hid : ticket.jobId = "job")
    (hurl : ticket.baseUrl = "http://backend") (hstart : ticket.startedAt = .zero false) :
    ticket.ComesBack "http://backend" := by
  refine ⟨?_, ?_, ?_⟩
  · rw [hid]
    decide +kernel
  · rw [hurl]
    decide +kernel
  · rw [hstart]
    decide

/-- The status call goes on with the prompt without its blank, so that no record of it agrees with
a record of a wait for the ticket. -/
theorem status_call_of_submit_padded : ∃ ticket after,
    (followed (answering "\x7b\"prompt_id\":\"job\"\x7d")).submit padded followedWorld =
      (.ok ticket, after) ∧
    ∀ (service : Api.Service) (call : Api.ApiRequest),
      service.pollRun { call with body := ticket.toJson } =
        (service.runConfig.check (ticket.returned "http://backend") >>= fun status =>
          Act.ofExcept (service.statusResponse status)) ∧
      ∀ (poller waiter : RunConfig Double) (image other : ImageRef) (record mate : RunRecord),
        poller.Records (ticket.returned "http://backend") image record →
          waiter.Records ticket other mate → image.filename = other.filename →
            record.givenFilename = mate.givenFilename ∧ record.metadata ≠ mate.metadata := by
  obtain ⟨ticket, after, hsubmit, hid, hurl, hstart, hparameters⟩ := submit_padded submittedId_job
  refine ⟨ticket, after, hsubmit, fun service call => ?_⟩
  obtain ⟨hpoll, -, -, hrecords⟩ := (status_call_of_submit hsubmit service call).2 "http://backend"
    (comesBack_padded hid hurl hstart)
  refine ⟨hpoll, fun poller waiter image other record mate hrecord hmate hname => ?_⟩
  obtain ⟨hgiven, hmetadata⟩ := hrecords poller waiter image other record mate hrecord hmate hname
  refine ⟨hgiven, fun hsame => ?_⟩
  have htrimmed := (hmetadata.mp hsame).2
  rw [hparameters] at htrimmed
  exact absurd htrimmed (by decide +kernel)

/-- The blank is taken from the prompt of the run, and a ticket whose job id is a blank is
refused. -/
theorem status_call_trims :
    (∃ ticket after, (followed (answering "\x7b\"prompt_id\":\"job\"\x7d")).submit padded
        followedWorld = (.ok ticket, after) ∧
      ∃ rebuilt, Api.ticketOf ticket.toJson = .ok rebuilt ∧
        (∀ (poller : RunConfig Double) (image : ImageRef) (record : RunRecord),
          poller.Records rebuilt image record →
            record.metadata.parameters.positivePrompt = .str "a cat") ∧
        ∀ (waiter : RunConfig Double) (image : ImageRef) (record : RunRecord),
          waiter.Records ticket image record →
            record.metadata.parameters.positivePrompt = .str " a cat") ∧
    ∃ ticket after, (followed (answering "\x7b\"prompt_id\":\" \"\x7d")).submit padded
        followedWorld = (.ok ticket, after) ∧
      ∃ issues, StatusCheck.ofJson ticket.toJson = .invalid issues := by
  constructor
  · obtain ⟨ticket, after, hsubmit, hid, hurl, hstart, hparameters⟩ := submit_padded submittedId_job
    obtain ⟨given, hsends⟩ := sends_of_submit hsubmit
    obtain ⟨url, -, hticket⟩ | ⟨hrefused, -⟩ := Api.ticketOf_toJson hsends
    · refine ⟨ticket, after, hsubmit, ticket.returned url, hticket, ?_, ?_⟩
      · intro poller image record hrecord
        rw [hrecord.metadata_eq]
        change ticket.parameters.positivePrompt.trimmed = _
        rw [hparameters]
        decide +kernel
      · intro waiter image record hrecord
        rw [hrecord.metadata_eq]
        change ticket.parameters.positivePrompt = _
        rw [hparameters]
        rfl
    · exact absurd (comesBack_padded hid hurl hstart) (hrefused _)
  · obtain ⟨ticket, after, hsubmit, hid, -, -, -⟩ := submit_padded submittedId_blank
    obtain ⟨given, hsends⟩ := sends_of_submit hsubmit
    obtain ⟨url, hback, -⟩ | ⟨-, hinvalid⟩ := Api.ticketOf_toJson hsends
    · have hjob := hback.jobId_ne
      rw [hid] at hjob
      exact absurd (by decide +kernel) hjob
    · exact ⟨ticket, after, hsubmit, hinvalid⟩

end RunConfig

end RenderRelay
