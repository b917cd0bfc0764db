import RenderRelay.Proofs.Job.Origin
import RenderRelay.Proofs.Run.Wait
import RenderRelay.Proofs.Store.Workflows

/-! # What a submitted run is recorded with

* `Client.submit_apply`: submitting a job sends one request, with the job in it, and answers what
  comes of the reply; `Client.submit_of_unsendable`: a job that no body can carry is not sent.
* `RunConfig.exists_of_submit`: a request that is accepted was checked, its graph was prepared with
  the parameters, and its job was sent last.  `RunConfig.submit_of_accepts` is the way back.
* `RunConfig.keeps_of_check`, `keeps_of_wait`: polls keep what is recorded of a ticket, and the
  record that one of them makes has it.
* `RunConfig.submit_carries_parameters`: the plain inputs for seed and steps of the job that was
  sent hold what the ticket, and later the record, says, unless the graph diverts them. -/

namespace RenderRelay

/-! ### Submitting a job -/

namespace Client

variable (client : Client) (backend : Backend) (prompt : Json) (clientId : String)

/-- The body in which a job is submitted. -/
def promptBody : Json := .obj [("client_id", .str clientId), ("prompt", prompt)]

theorem isSendable_promptBody : (promptBody prompt clientId).isSendable = prompt.isSendable := by
  simp [promptBody, Json.isSendable, Json.haveSendable]

/-- The request that submits a job. -/
def promptRequest : Request :=
  client.request .post "/prompt" [] (.json (promptBody prompt clientId))

/-- What the reply to a submitted job comes to. -/
def promptAnswer : Reply → Except Failure String
  | .response response => submittedId response
  | .failure failure =>
      .error (.fault (client.transportFault "/prompt" client.timeouts.submit failure))

variable {prompt}

/-- Submitting a job that a body can carry sends one request and answers what its reply comes
to. -/
theorem submit_apply (hsendable : prompt.isSendable = true) (traffic : Traffic) :
    client.submit backend prompt clientId traffic =
      (client.promptAnswer (backend traffic.sent (client.promptRequest prompt clientId)),
        ⟨traffic.sent ++ [client.promptRequest prompt clientId], traffic.waits⟩) := by
  rw [← isSendable_promptBody prompt clientId] at hsendable
  unfold promptRequest submit
  rw [← promptBody, if_pos hsendable]
  cases hreply : backend traffic.sent (client.request .post "/prompt" []
    (.json (promptBody prompt clientId))) with
  | response response =>
      refine bind_ok ?_
      unfold exchange call Traffic.send
      rw [hreply]
      rfl
  | failure failure =>
      refine bind_error ?_
      unfold exchange call Traffic.send
      rw [hreply]
      rfl

/-- A job that no body can carry is not sent. -/
theorem submit_of_unsendable (hsendable : prompt.isSendable = false) (traffic : Traffic) :
    client.submit backend prompt clientId traffic = (.error .unreadable, traffic) := by
  rw [← isSendable_promptBody prompt clientId] at hsendable
  unfold submit
  rw [← promptBody, hsendable]
  rfl

/-- A job that was accepted was sent. -/
theorem sent_submit {traffic after : Traffic} {jobId : String}
    (h : client.submit backend prompt clientId traffic = (.ok jobId, after)) :
    after.sent = traffic.sent ++ [client.promptRequest prompt clientId] := by
  cases hsendable : prompt.isSendable with
  | true =>
      rw [submit_apply client backend clientId hsendable] at h
      exact (congrArg (fun answer => answer.2.sent) h).symm
  | false =>
      rw [submit_of_unsendable client backend clientId hsendable] at h
      cases h

theorem submit_of_response (hsendable : prompt.isSendable = true) {response : Response}
    (traffic : Traffic)
    (h : backend traffic.sent (client.promptRequest prompt clientId) = .response response) :
    client.submit backend prompt clientId traffic =
      (submittedId response,
        ⟨traffic.sent ++ [client.promptRequest prompt clientId], traffic.waits⟩) := by
  rw [submit_apply client backend clientId hsendable, h]
  rfl

end Client

/-- The graph with the name of the uploaded image, if one was uploaded. -/
def Graph.withImage (graph : Graph) : (inputFilename : Option String) → Graph
  | some name => (graph.injectImage name).1
  | none => graph

/-- The graph of a run: with the name of the uploaded image, the prompts, the seed and the step
count. -/
def RunRequest.Checked.prepare (checked : RunRequest.Checked) (inputFilename : Option String)
    (seed : Int) (graph : Graph) : Graph :=
  (((graph.withImage inputFilename).injectPrompts checked.positive checked.negative).1.injectSampler
    (some seed) checked.steps).1

/-- The parameters of a run, as they are recorded. -/
def RunRequest.Checked.parameters (checked : RunRequest.Checked) (workflow : StoredWorkflow)
    (inputFilename : Option String) (seed : Int) : RunParameters where
  workflowId := .str workflow.id
  workflowName := .str workflow.name
  positivePrompt := Json.ofText? checked.positive
  negativePrompt := Json.ofText? checked.negative
  seed := .int seed
  steps := Json.ofInt? checked.steps
  inputFilename := Json.ofText? inputFilename

namespace RunConfig

section Submitting

variable {τ : Type} {config : RunConfig τ} {request : RunRequest} {world after : World τ}

theorem exists_of_uploadImage {client : Client} {image : Option InputImage} {graph : Graph}
    {inputFilename : Option String} {prepared : Graph}
    (h : config.uploadImage client image graph world = (.ok (inputFilename, prepared), after)) :
    inputFilename.isSome = image.isSome ∧ prepared = graph.withImage inputFilename := by
  unfold uploadImage at h
  cases image with
  | none =>
      cases h
      exact ⟨rfl, rfl⟩
  | some image =>
      obtain ⟨name, middle, -, hname⟩ := exists_of_bind h
      cases hname
      exact ⟨rfl, rfl⟩

/-- What was checked, found and chosen for a request, and the request that was sent last. -/
structure Accepted (config : RunConfig τ) (request : RunRequest) (disk : Disk)
    (ticket : RunTicket τ) (sent : List Request) (checked : RunRequest.Checked) (stored : Graph)
    (inputFilename : Option String) (seed : Int) : Prop where
  check : request.check = .ok checked
  image : inputFilename.isSome = request.image.isSome
  chosen : chooseSeedOf config.drawnSeed request.seed = .ok seed
  workflow : ∃ workflow, request.workflow disk = .ok workflow ∧
    RunRequest.graphOf workflow = .ok stored ∧
      ticket.parameters = checked.parameters workflow inputFilename seed
  sent : ∃ earlier, sent = earlier ++ [(config.client checked.baseUrl).promptRequest
    (checked.prepare inputFilename seed stored).compile.job.toJson config.clientId]

theorem exists_of_submit {ticket : RunTicket τ}
    (h : config.submit request world = (.ok ticket, after)) :
    ∃ checked stored inputFilename seed,
      config.Accepted request world.disk ticket after.sent checked stored inputFilename seed := by
  unfold submit at h
  obtain ⟨checked, first, hchecked, h⟩ := exists_of_bind h
  obtain ⟨workflow, second, hworkflow, h⟩ := exists_of_bind h
  obtain ⟨stored, third, hstored, h⟩ := exists_of_bind h
  obtain ⟨⟨inputFilename, uploaded⟩, fourth, hupload, h⟩ := exists_of_bind h
  obtain ⟨seed, fifth, hseed, h⟩ := exists_of_bind h
  obtain ⟨jobId, sixth, hjob, h⟩ := exists_of_bind h
  obtain ⟨hcheck, rfl⟩ := Act.eq_of_ofExcept hchecked
  obtain ⟨hgraph, -⟩ := Act.eq_of_ofExcept hstored
  obtain ⟨himage, rfl⟩ := exists_of_uploadImage hupload
  obtain ⟨traffic, hexchange, hafter⟩ := Act.exists_of_exchange hjob
  have hsent := hafter.trans (Client.sent_submit _ _ _ hexchange)
  cases h
  exact ⟨checked, stored, inputFilename, seed, hcheck, himage, (Act.eq_of_ofExcept hseed).1,
    ⟨workflow, Act.answer_of_store hworkflow, hgraph, rfl⟩, fifth.sent, hsent⟩

/-- A request without an image is accepted if a body can carry its job and the backend answers it
with an id. -/
theorem submit_of_accepts {checked : RunRequest.Checked} {workflow : StoredWorkflow}
    {stored : Graph} {seed : Int} {response : Response} {jobId : String}
    (himage : request.image = none) (hcheck : request.check = .ok checked)
    (hworkflow : request.workflow world.disk = .ok workflow)
    (hstored : RunRequest.graphOf workflow = .ok stored)
    (hseed : chooseSeedOf config.drawnSeed request.seed = .ok seed)
    (hsendable : (checked.prepare none seed stored).compile.job.toJson.isSendable = true)
    (hresponse : config.backend world.sent ((config.client checked.baseUrl).promptRequest
      (checked.prepare none seed stored).compile.job.toJson config.clientId) = .response response)
    (hjob : Client.submittedId response = .ok jobId) :
    ∃ ticket after, config.submit request world = (.ok ticket, after) ∧
      ticket.jobId = jobId ∧ ticket.baseUrl = checked.baseUrl ∧ ticket.startedAt = world.clock ∧
        ticket.parameters = checked.parameters workflow none seed ∧
          after.sent = world.sent ++ [(config.client checked.baseUrl).promptRequest
            (checked.prepare none seed stored).compile.job.toJson config.clientId] := by
  have hstore : Act.store (fun disk => Stored.pure (request.workflow disk) disk) world =
      (.ok workflow, world) := by
    rw [Act.store_apply, hworkflow]
    simp only [Stored.pure, List.map_nil, List.append_nil]
  have hupload : config.uploadImage (config.client checked.baseUrl) request.image stored world =
      (.ok (none, stored), world) := by
    rw [himage]
    rfl
  have hsubmit := Client.submit_of_response (config.client checked.baseUrl) config.backend
    config.clientId hsendable ⟨world.sent, []⟩ hresponse
  rw [hjob] at hsubmit
  simp only [RunRequest.Checked.prepare, Graph.withImage] at hsubmit
  unfold submit
  rw [hcheck, bind_ok (Act.ofExcept_apply world _), bind_ok hstore, hstored,
    bind_ok (Act.ofExcept_apply world _)]
  dsimp only
  rw [bind_ok hupload]
  dsimp only
  rw [hseed, bind_ok (Act.ofExcept_apply world _), bind_ok (Act.exchange_apply world hsubmit),
    bind_ok (Act.clock_apply _)]
  exact ⟨_, _, rfl, rfl, rfl, rfl, rfl, rfl⟩

end Submitting

end RunConfig

/-! ### Seed and steps in the job -/

/-- Every plain input of the job under a name of this class is the number, unless it was
diverted. -/
def Graph.Carries (graph : Graph) (isName : String → Bool) (n : Int) : Prop :=
  ∀ id made name value, graph.compile.job.node? id = some made → isName name = true →
    made.inputs.get? name = some (.scalar value) →
      value = .int n ∨ graph.Diverted id isName name value

theorem Graph.carries_injectSampler {seed steps : Option Int} {isName : String → Bool} {n : Int}
    (graph : Graph) (hclass : ∀ name, isName name = true →
      samplerValue seed steps (some name) = some n) :
    (graph.injectSampler seed steps).1.Carries isName n := by
  intro id made name value hmade hname hvalue
  exact origin_compile (graph.injected_injectSampler seed steps) hclass hmade hvalue hname

namespace RunRequest.Checked

variable (checked : RunRequest.Checked) (inputFilename : Option String) (seed : Int)
  (graph : Graph)

theorem carries_seed : (checked.prepare inputFilename seed graph).Carries isSeedName seed :=
  Graph.carries_injectSampler _ fun _ hname => Graph.samplerValue_of_isSeedName hname

theorem carries_steps {n : Int} (h : checked.steps = some n) :
    (checked.prepare inputFilename seed graph).Carries (· = "steps") n := by
  refine Graph.carries_injectSampler _ fun name hname => ?_
  obtain rfl : name = "steps" := of_decide_eq_true hname
  rw [Graph.samplerValue_steps, h]

end RunRequest.Checked

/-! ### What is recorded -/

/-- The record of the image of a run that is done, if it could be stored. -/
def RunStatus.record? {τ : Type} : RunStatus τ → Option RunRecord
  | .done _ _ result => result.record
  | _ => none

/-- The run goes on, or has ended, with these metadata, and so has its record. -/
structure RunStatus.Keeps {τ : Type} (status : RunStatus τ) (metadata : RunMetadata) : Prop where
  ticket : ∀ ticket, status.ticket? = some ticket → ticket.metadata = metadata
  record : ∀ record, status.record? = some record → record.metadata = metadata

namespace RunConfig

section Recording

variable {τ : Type} [TimeScale τ] {config : RunConfig τ} {ticket : RunTicket τ}
  {world after : World τ}

theorem metadata_of_recordImage {image : ImageRef} {content : Bytes} {record : RunRecord}
    (h : config.recordImage ticket image content world = (.ok (some record), after)) :
    record.metadata = ticket.metadata := by
  unfold recordImage at h
  obtain ⟨recordId, first, -, h⟩ := exists_of_bind h
  obtain ⟨nameId, second, -, h⟩ := exists_of_bind h
  obtain ⟨now, third, -, h⟩ := exists_of_bind h
  obtain ⟨answer, fourth, hanswer, h⟩ := exists_of_bind h
  have happend := Act.answer_of_store (Act.eq_of_attempt hanswer)
  cases answer with
  | ok stored =>
      cases h
      rw [HistoryStore.record_of_append happend]
      exact RunMetadata.ofFields_toFields ticket.metadata
  | error failure => cases failure <;> cases h

theorem keeps_of_complete {client : Client} {image : ImageRef} {elapsed : τ}
    {status : RunStatus τ}
    (h : config.complete client ticket image elapsed world = (.ok status, after)) :
    status.Keeps ticket.metadata := by
  unfold complete at h
  obtain ⟨content, fetched, -, h⟩ := exists_of_bind h
  have hrecord : ∃ record middle, (∀ made, record = some made → made.metadata = ticket.metadata) ∧
      (Act.ofExcept (TimeScale.rounded elapsed) >>= fun _ => pure (.done ticket elapsed
        ⟨image, image.viewUrl ticket.baseUrl, config.proxyUrl ticket.baseUrl image, record⟩))
          middle = (.ok status, after) := by
    cases content with
    | none => exact ⟨none, fetched, nofun, h⟩
    | some content =>
        obtain ⟨record, middle, hrecord, h⟩ := exists_of_bind h
        refine ⟨record, middle, ?_, h⟩
        rintro made rfl
        exact metadata_of_recordImage hrecord
  obtain ⟨record, middle, hmetadata, h⟩ := hrecord
  obtain ⟨millis, last, -, h⟩ := exists_of_bind h
  cases h
  refine ⟨?_, hmetadata⟩
  rintro _ ⟨⟩
  rfl

/-- A poll keeps the metadata of the ticket. -/
theorem keeps_of_check {status : RunStatus τ}
    (h : config.check ticket world = (.ok status, after)) : status.Keeps ticket.metadata := by
  unfold check at h
  obtain ⟨now, first, -, h⟩ := exists_of_bind h
  dsimp only at h
  split_ifs at h
  · obtain ⟨millis, second, -, h⟩ := exists_of_bind h
    cases h
    refine ⟨?_, nofun⟩
    rintro _ ⟨⟩
    rfl
  · obtain ⟨snapshot, second, -, h⟩ := exists_of_bind h
    cases himage : snapshot.image with
    | none =>
        rw [himage] at h
        cases h
        refine ⟨?_, nofun⟩
        rintro _ ⟨⟩
        rfl
    | some image =>
        rw [himage] at h
        have hkeeps : status.Keeps
            (ticket.seen snapshot.history snapshot.fullHistory).metadata := keeps_of_complete h
        exact hkeeps

theorem keeps_of_waitFor : ∀ (fuel : Nat) {ticket : RunTicket τ} {world : World τ}
    {status : RunStatus τ}, config.waitFor fuel ticket world = (.ok status, after) →
      status.Keeps ticket.metadata := by
  intro fuel
  induction fuel with
  | zero => exact fun h => keeps_of_check h
  | succ fuel ih =>
      intro ticket world status h
      unfold waitFor at h
      obtain ⟨polled, middle, hpolled, h⟩ := exists_of_bind h
      have hkeeps := keeps_of_check hpolled
      cases polled with
      | polling later elapsed =>
          obtain ⟨_, _, -, h⟩ := exists_of_bind h
          rw [← hkeeps.ticket later rfl]
          exact ih h
      | _ =>
          cases h
          exact hkeeps

/-- A wait keeps the metadata of the ticket. -/
theorem keeps_of_wait {status : RunStatus τ}
    (h : config.wait ticket world = (.ok status, after)) : status.Keeps ticket.metadata := by
  unfold wait at h
  obtain ⟨now, middle, -, h⟩ := exists_of_bind h
  exact keeps_of_waitFor _ h

/-- The job of an accepted request carries the seed and the steps of the ticket, where the graph
does not divert them, and polls of the run record what the ticket says. -/
theorem submit_carries_parameters {request : RunRequest}
    (h : config.submit request world = (.ok ticket, after)) :
    ∃ checked stored inputFilename seed,
      config.Accepted request world.disk ticket after.sent checked stored inputFilename seed ∧
      ticket.parameters.seed = .int seed ∧
      (checked.prepare inputFilename seed stored).Carries isSeedName seed ∧
      ticket.parameters.steps = Json.ofInt? checked.steps ∧
      (∀ n, checked.steps = some n →
        (checked.prepare inputFilename seed stored).Carries (· = "steps") n) ∧
      ∀ (poller : RunConfig τ) (later : RunTicket τ), later.metadata = ticket.metadata →
        ∀ start status finish, (poller.check later start = (.ok status, finish) ∨
          poller.wait later start = (.ok status, finish)) → status.Keeps ticket.metadata := by
  obtain ⟨checked, stored, inputFilename, seed, haccepted⟩ := exists_of_submit h
  obtain ⟨workflow, -, -, hparameters⟩ := haccepted.workflow
  refine ⟨checked, stored, inputFilename, seed, haccepted, by rw [hparameters]; rfl,
    checked.carries_seed inputFilename seed stored, by rw [hparameters]; rfl,
    fun n hsteps => checked.carries_steps inputFilename seed stored hsteps, ?_⟩
  rintro poller later hlater start status finish (hcheck | hwait)
  · rw [← hlater]
    exact keeps_of_check hcheck
  · rw [← hlater]
    exact keeps_of_wait hwait

end Recording

/-! ### A run with three samplers -/

/-- Three samplers: with named widget values, with slots in another order than the table's, and with
listed values alone. -/
def storedSamplers : Json :=
  .obj [("nodes", .arr
    [.obj [("id", .int 1), ("type", .str "KSampler"), ("widgets_values", .obj [("seed", .int 5)])],
      .obj [("id", .int 2), ("type", .str "KSampler"),
        ("inputs", .arr [.obj [("name", .str "steps")], .obj [("name", .str "seed")]]),
        ("widgets_values", .arr [.int 42, .str "fixed", .int 20])],
      .obj [("id", .int 3), ("type", .str "KSampler"),
        ("widgets_values", .arr [.int 42, .str "fixed", .int 20])]])]

/-- The workflow of the three samplers. -/
def samplers : StoredWorkflow := ⟨"w", "w", storedSamplers, .ofGraph storedSamplers, none⟩

/-- The graph of the three samplers. -/
def samplersGraph : Graph :=
  ⟨[⟨"1", some "KSampler", none, [], .named [("seed", .int 5)]⟩,
    ⟨"2", some "KSampler", none,
      [.ofName (some "steps") .null false, .ofName (some "seed") .null false],
      .listed [.int 42, .str "fixed", .int 20]⟩,
    ⟨"3", some "KSampler", none, [], .listed [.int 42, .str "fixed", .int 20]⟩], []⟩

/-- A run of them with seed 7 and nine steps. -/
def sevenNine : RunRequest :=
  ⟨.str "w", some "http://backend", .null, .null, .int 7, .int 9, none⟩

/-- What is checked of that run. -/
def checkedNine : RunRequest.Checked := ⟨"http://backend", none, none, some 9⟩

/-- A backend that accepts every job. -/
def accepting : Backend := fun _ _ =>
  .response ⟨200, Bytes.encode "\x7b\"prompt_id\":\"job\"\x7d", none⟩

/-- A directory with the workflow. -/
def worldOfSamplers : World ℚ :=
  { worldAtZero with
    disk := { Disk.empty with workflows := some (WorkflowStore.toText [samplers]) } }

theorem spelled_storedSamplers : storedSamplers.Spelled 3 := by
  have hname : ∀ name : String, (Json.obj [("name", .str name)]).Spelled 3 := fun name =>
    .obj _ (List.nodup_singleton _) (List.forall_mem_singleton.mpr (.str name))
  have hslots : (Json.arr [.obj [("name", .str "steps")], .obj [("name", .str "seed")]]).Spelled
      3 := by
    refine .arr _ (by decide) ?_
    simp only [List.forall_mem_cons]
    exact ⟨hname "steps", hname "seed", List.forall_mem_nil _⟩
  have hlisted : (Json.arr [.int 42, .str "fixed", .int 20]).Spelled 3 := by
    refine .arr _ (by decide) ?_
    simp only [List.forall_mem_cons]
    exact ⟨.int 42 (by decide), .str "fixed", .int 20 (by decide), List.forall_mem_nil _⟩
  have hnamed : (Json.obj [("seed", .int 5)]).Spelled 3 :=
    .obj _ (by decide) (List.forall_mem_singleton.mpr (.int 5 (by decide)))
  refine .obj _ (by decide) (List.forall_mem_singleton.mpr (.arr _ (by decide) ?_))
  simp only [List.forall_mem_cons]
  refine ⟨.obj _ (by decide) ?_, .obj _ (by decide) ?_, .obj _ (by decide) ?_,
    List.forall_mem_nil _⟩
  · simp only [List.forall_mem_cons]
    exact ⟨.int 1 (by decide), .str "KSampler", hnamed, List.forall_mem_nil _⟩
  · simp only [List.forall_mem_cons]
    exact ⟨.int 2 (by decide), .str "KSampler", hslots, hlisted, List.forall_mem_nil _⟩
  · simp only [List.forall_mem_cons]
    exact ⟨.int 3 (by decide), .str "KSampler", hlisted, List.forall_mem_nil _⟩

theorem workflow_samplers : sevenNine.workflow worldOfSamplers.disk = .ok samplers := by
  have hsound : WorkflowStore.Sound 3 [samplers] :=
    ⟨List.nodup_singleton _, List.forall_mem_singleton.mpr
      ⟨by decide, by decide, rfl, spelled_storedSamplers⟩⟩
  have hread : WorkflowStore.readAll worldOfSamplers.disk = .ok [samplers] :=
    WorkflowStore.readAll_of_toText (by decide) hsound rfl
  change WorkflowStore.get worldOfSamplers.disk "w" = .ok samplers
  unfold WorkflowStore.get
  rw [hread]
  rfl

theorem submit_sevenNine : ∃ ticket after,
    (tenSeconds accepting).submit sevenNine worldOfSamplers = (.ok ticket, after) ∧
      ticket.parameters = checkedNine.parameters samplers none 7 ∧
        after.sent = [((tenSeconds accepting).client checkedNine.baseUrl).promptRequest
          (checkedNine.prepare none 7 samplersGraph).compile.job.toJson "client"] := by
  have hjob : Client.submittedId
      ⟨200, Bytes.encode "\x7b\"prompt_id\":\"job\"\x7d", none⟩ = .ok "job" := by
    decide +kernel
  have hcheck : sevenNine.check = .ok checkedNine := rfl
  have hstored : RunRequest.graphOf samplers = .ok samplersGraph := rfl
  have hseed : chooseSeedOf (tenSeconds accepting).drawnSeed sevenNine.seed = .ok 7 := rfl
  obtain ⟨ticket, after, hsubmit, -, -, -, hparameters, hsent⟩ :=
    submit_of_accepts rfl hcheck workflow_samplers hstored hseed (by decide) rfl hjob
  exact ⟨ticket, after, hsubmit, hparameters, hsent⟩

/-- The sampler with listed values alone gets seed and steps of the ticket. -/
theorem submit_carries_parameters_sevenNine :
    (∃ ticket after, (tenSeconds accepting).submit sevenNine worldOfSamplers = (.ok ticket, after) ∧
      ∃ stored inputFilename,
        (tenSeconds accepting).Accepted sevenNine worldOfSamplers.disk ticket after.sent checkedNine
          stored inputFilename 7 ∧
        ticket.parameters.seed = .int 7 ∧
        (checkedNine.prepare inputFilename 7 stored).Carries isSeedName 7 ∧
        ticket.parameters.steps = .int 9 ∧
        (checkedNine.prepare inputFilename 7 stored).Carries (· = "steps") 9) ∧
      (checkedNine.prepare none 7 samplersGraph).compile.job.node? "3" =
        some ⟨"KSampler", [("seed", .scalar (.int 7)), ("steps", .scalar (.int 9))]⟩ := by
  refine ⟨?_, by decide⟩
  obtain ⟨ticket, after, hsubmit, hparameters, -⟩ := submit_sevenNine
  obtain ⟨checked, stored, inputFilename, seed, haccepted, hseed, hcarries, hsteps, hcarriesSteps,
    -⟩ := submit_carries_parameters hsubmit
  obtain rfl : checkedNine = checked := Except.ok.inj haccepted.check
  rw [hparameters] at hseed
  obtain rfl : 7 = seed := Json.int.inj hseed
  exact ⟨ticket, after, hsubmit, stored, inputFilename, haccepted, by rw [hparameters]; rfl,
    hcarries, hsteps, hcarriesSteps 9 rfl⟩

/-- The two other samplers get other values than the ticket says. -/
theorem submit_diverts_sevenNine :
    ∃ (ticket : RunTicket ℚ) (after : World ℚ) (job : Job),
      (tenSeconds accepting).submit sevenNine worldOfSamplers = (.ok ticket, after) ∧
      ticket.parameters.seed = .int 7 ∧ ticket.parameters.steps = .int 9 ∧
      after.sent = [((tenSeconds accepting).client "http://backend").promptRequest job.toJson
        "client"] ∧
      (widgetNames? (some "KSampler")).any (fun names =>
        names.contains (some "seed") && names.contains (some "steps")) = true ∧
      job.node? "1" = some ⟨"KSampler", [("seed", .scalar (.int 5))]⟩ ∧
      job.node? "2" = some ⟨"KSampler",
        [("steps", .scalar (.int 7)), ("seed", .scalar (.str "fixed"))]⟩ := by
  obtain ⟨ticket, after, hsubmit, hparameters, hsent⟩ := submit_sevenNine
  refine ⟨ticket, after, (checkedNine.prepare none 7 samplersGraph).compile.job, hsubmit, ?_, ?_,
    hsent, by decide, by decide, by decide⟩
  · rw [hparameters]
    rfl
  · rw [hparameters]
    rfl

end RunConfig

end RenderRelay
