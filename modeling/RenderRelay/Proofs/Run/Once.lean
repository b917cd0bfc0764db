import RenderRelay.Proofs.Run.Record
import RenderRelay.Proofs.Run.Replies
import RenderRelay.Proofs.Store.Built

/-! # A job is submitted at most once

* `RunRequest.ready` is what is done before anything is asked of the backend; in a store that
  operations have built it fails with faults alone (`RunRequest.faults_ready`).
* `RunConfig.Course` lists the courses that a submission can take, each with the requests that it
  makes and its answer.  `RunConfig.exists_course`: it takes one of them, and changes nothing else.
* `RunConfig.submit_once` reads off the courses which requests a submission makes, when it answers a
  ticket, how it fails, and what a run makes of it. -/

namespace RenderRelay

/-! ### Before the backend is asked -/

namespace RunRequest

variable (request : RunRequest) {limit : Nat} {disk : Disk}

theorem faults_prompt (name : String) (value : Json) : Faults (Check.prompt name value) := by
  unfold Check.prompt
  split
  · exact faults_ok _
  · dsimp only
    split_ifs
    · exact faults_fault _
    · exact faults_ok _
  · exact faults_fault _

theorem faults_entered (name : String) (value : Json) : Faults (Check.entered name value) := by
  unfold Check.entered
  dsimp only
  split
  · exact faults_ok _
  · exact faults_ok _
  · split
    · exact faults_ok _
    · exact faults_fault _
  · split_ifs
    · exact faults_ok _
    · split
      · exact faults_ok _
      · exact faults_fault _
  · exact faults_fault _

theorem faults_steps (value : Json) : Faults (Check.steps value) := by
  unfold Check.steps Check.boundedInteger
  refine (faults_entered _ _).bind fun entered _ => ?_
  cases entered with
  | none => exact faults_ok _
  | some n =>
      dsimp only
      split_ifs
      · exact faults_fault _
      · exact faults_ok _

theorem faults_check : Faults request.check := by
  have hurl : Faults (Url.checkBase request.baseUrl) := by
    unfold Url.checkBase
    cases Url.normalizeBase request.baseUrl with
    | error e => exact faults_fault _
    | ok baseUrl => exact faults_ok _
  exact hurl.bind fun _ _ => (faults_prompt _ _).bind fun _ _ => (faults_prompt _ _).bind fun _ _ =>
    (faults_steps _).bind fun _ _ => faults_ok _

/-- In a store that operations have built, a workflow is found or it is not there. -/
theorem faults_workflow (hlimit : Number.digitCount limit ≤ Number.maxDigits)
    (hbuilt : WorkflowStore.Built limit disk) : Faults (request.workflow disk) := by
  obtain ⟨workflows, hreads, -⟩ := hbuilt.exists_readAll hlimit
  unfold workflow
  split
  · unfold WorkflowStore.get
    rw [hreads]
    refine (faults_ok workflows).bind fun workflows _ => ?_
    split
    · exact faults_ok _
    · exact faults_fault _
  · rw [hreads]
    exact (faults_ok workflows).bind fun _ _ => faults_fault _

/-- What is done before anything is asked of the backend. -/
def ready (disk : Disk) : Except Failure (Checked × StoredWorkflow × Graph) := do
  let checked ← request.check
  let workflow ← request.workflow disk
  let graph ← graphOf workflow
  return (checked, workflow, graph)

variable {request} in
theorem exists_of_ready {checked : Checked} {workflow : StoredWorkflow} {stored : Graph}
    (h : request.ready disk = .ok (checked, workflow, stored)) :
    request.check = .ok checked ∧ request.workflow disk = .ok workflow ∧
      graphOf workflow = .ok stored := by
  obtain ⟨first, hcheck, h⟩ := exists_of_bind_ok h
  obtain ⟨second, hworkflow, h⟩ := exists_of_bind_ok h
  obtain ⟨third, hstored, h⟩ := exists_of_bind_ok h
  cases h
  exact ⟨hcheck, hworkflow, hstored⟩

variable {request} in
theorem checked_of_ready {checked other : Checked} {workflow : StoredWorkflow} {stored : Graph}
    (h : request.ready disk = .ok (checked, workflow, stored))
    (hcheck : request.check = .ok other) :
    other = checked :=
  Except.ok.inj (hcheck.symm.trans (exists_of_ready h).1)

variable {request} in
/-- A request is made ready in one way. -/
theorem unique_of_ready {checked other : Checked} {workflow found : StoredWorkflow}
    {stored graph : Graph} (h : request.ready disk = .ok (checked, workflow, stored))
    (hother : request.ready disk = .ok (other, found, graph)) :
    checked = other ∧ workflow = found ∧ stored = graph := by
  have hsame := Except.ok.inj (h.symm.trans hother)
  exact ⟨congrArg Prod.fst hsame, congrArg (fun found => found.2.1) hsame,
    congrArg (fun found => found.2.2) hsame⟩

/-- The workflow of the request is no object, or one that is accepted as a graph. -/
def Drawable (disk : Disk) : Prop :=
  ∀ workflow fields, request.workflow disk = .ok workflow → workflow.raw = .obj fields →
    ∃ graph, Graph.ofJson workflow.raw = .ok graph

theorem faults_ready (hlimit : Number.digitCount limit ≤ Number.maxDigits)
    (hbuilt : WorkflowStore.Built limit disk) (hdrawable : request.Drawable disk) :
    Faults (request.ready disk) := by
  refine request.faults_check.bind fun _ _ => (request.faults_workflow hlimit hbuilt).bind
    fun workflow hworkflow => ?_
  refine Faults.bind ?_ fun _ _ => faults_ok _
  unfold graphOf
  cases hraw : workflow.raw with
  | obj fields =>
      obtain ⟨graph, hgraph⟩ := hdrawable workflow fields hworkflow hraw
      rw [hraw] at hgraph
      rw [hgraph]
      exact faults_ok _
  | _ => exact faults_fault _

end RunRequest

/-! ### Requests and nothing else -/

/-- The world in which these requests have been made, and nothing else has changed. -/
def World.asking {τ : Type} (world : World τ) (asked : List Request) : World τ :=
  { world with sent := world.sent ++ asked }

section Asking

variable {τ α : Type} {world : World τ}

theorem World.asking_nil : world.asking [] = world := by
  unfold World.asking
  rw [List.append_nil]

theorem World.asking_asking (asked more : List Request) :
    (world.asking asked).asking more = world.asking (asked ++ more) := by
  unfold World.asking
  rw [List.append_assoc]

/-- An exchange without waits. -/
theorem Act.exchange_asking {exchange : Exchange α} {answer : Except Failure α}
    {asked : List Request}
    (h : exchange ⟨world.sent, []⟩ = (answer, ⟨world.sent ++ asked, []⟩)) :
    Act.exchange exchange world = (answer, world.asking asked) := by
  rw [Act.exchange_apply world h, List.map_nil, List.append_nil]
  rfl

end Asking

/-! ### The courses of a submission -/

namespace RunConfig

section Courses

variable {τ : Type} (config : RunConfig τ) (client : Client)

/-- The name that the backend gives to the input image after these requests, none without an
image. -/
def uploadedAs (image : Option InputImage) (sent : List Request) :
    Except Failure (Option String) :=
  match image with
  | none => .ok none
  | some image =>
      (client.uploadAnswer image (config.backend sent (client.uploadRequest image))).map some

theorem uploadImage_apply (image : Option InputImage) (graph : Graph) (world : World τ) :
    config.uploadImage client image graph world =
      ((config.uploadedAs client image world.sent).map fun name => (name, graph.withImage name),
        world.asking (client.uploads image)) := by
  unfold uploadImage uploadedAs
  cases image with
  | none =>
      change _ = (_, world.asking [])
      rw [World.asking_nil]
      rfl
  | some image =>
      have hupload := Act.exchange_asking
        (client.upload_apply config.backend image ⟨world.sent, []⟩)
      dsimp only at hupload ⊢
      generalize client.uploadAnswer image
        (config.backend world.sent (client.uploadRequest image)) = answer at hupload
      cases answer with
      | error failure => exact bind_error hupload
      | ok name => exact bind_ok hupload

variable (request : RunRequest) (world : World τ)

/-- What stands between a request that is ready and the reply to its job: the name of its image, and
its seed. -/
structure Prepared (checked : RunRequest.Checked) (workflow : StoredWorkflow) (stored : Graph)
    (inputFilename : Option String) (seed : Int) : Prop where
  ready : request.ready world.disk = .ok (checked, workflow, stored)
  image : config.uploadedAs (config.client checked.baseUrl) request.image world.sent =
    .ok inputFilename
  seed : chooseSeedOf config.drawnSeed request.seed = .ok seed

/-- The request that submits the job of a run. -/
def jobRequest (checked : RunRequest.Checked) (stored : Graph) (inputFilename : Option String)
    (seed : Int) : Request :=
  (config.client checked.baseUrl).promptRequest
    (checked.prepare inputFilename seed stored).compile.job.toJson config.clientId

/-- The courses of a submission: the requests that it makes and its answer. -/
inductive Course : List Request → Except Failure (RunTicket τ) → Prop where
  | refused {failure : Failure} (hready : request.ready world.disk = .error failure) :
      Course [] (.error failure)
  | notUploaded {checked : RunRequest.Checked} {workflow : StoredWorkflow} {stored : Graph}
      {failure : Failure} (hready : request.ready world.disk = .ok (checked, workflow, stored))
      (himage : config.uploadedAs (config.client checked.baseUrl) request.image world.sent =
        .error failure) :
      Course ((config.client checked.baseUrl).uploads request.image) (.error failure)
  | noSeed {checked : RunRequest.Checked} {workflow : StoredWorkflow} {stored : Graph}
      {inputFilename : Option String} {failure : Failure}
      (hready : request.ready world.disk = .ok (checked, workflow, stored))
      (himage : config.uploadedAs (config.client checked.baseUrl) request.image world.sent =
        .ok inputFilename)
      (hseed : chooseSeedOf config.drawnSeed request.seed = .error failure) :
      Course ((config.client checked.baseUrl).uploads request.image) (.error failure)
  | unsendable {checked : RunRequest.Checked} {workflow : StoredWorkflow} {stored : Graph}
      {inputFilename : Option String} {seed : Int}
      (hprepared : config.Prepared request world checked workflow stored inputFilename seed)
      (hjob : (checked.prepare inputFilename seed stored).compile.job.toJson.isSendable = false) :
      Course ((config.client checked.baseUrl).uploads request.image) (.error .unreadable)
  | asked {checked : RunRequest.Checked} {workflow : StoredWorkflow} {stored : Graph}
      {inputFilename : Option String} {seed : Int} {answer : Except Failure (RunTicket τ)}
      (hprepared : config.Prepared request world checked workflow stored inputFilename seed)
      (hjob : (checked.prepare inputFilename seed stored).compile.job.toJson.isSendable = true)
      (hreply : (config.client checked.baseUrl).promptAnswer (config.backend
        (world.sent ++ (config.client checked.baseUrl).uploads request.image)
        (config.jobRequest checked stored inputFilename seed)) = answer.map RunTicket.jobId) :
      Course ((config.client checked.baseUrl).uploads request.image ++
        [config.jobRequest checked stored inputFilename seed]) answer

theorem store_workflow : Act.store (fun disk => Stored.pure (request.workflow disk) disk) world =
    (request.workflow world.disk, world) := by
  rw [Act.store_apply]
  simp only [Stored.pure, List.map_nil, List.append_nil]

variable {config request world}

theorem submit_of_refused {failure : Failure} (h : request.ready world.disk = .error failure) :
    config.submit request world = (.error failure, world) := by
  have hread := store_workflow request world
  unfold RunRequest.ready at h
  unfold submit
  cases hcheck : request.check with
  | error other =>
      rw [hcheck] at h
      obtain rfl : other = failure := Except.error.inj h
      exact bind_error (Act.ofExcept_apply world _)
  | ok checked =>
      rw [bind_ok (Act.ofExcept_apply world _)]
      rw [hcheck] at h
      cases hworkflow : request.workflow world.disk with
      | error other =>
          rw [hworkflow] at h hread
          obtain rfl : other = failure := Except.error.inj h
          exact bind_error hread
      | ok workflow =>
          rw [hworkflow] at h hread
          rw [bind_ok hread]
          change (RunRequest.graphOf workflow >>= _) = _ at h
          cases hstored : RunRequest.graphOf workflow with
          | error other =>
              rw [hstored] at h
              obtain rfl : other = failure := Except.error.inj h
              exact bind_error (Act.ofExcept_apply world _)
          | ok stored =>
              rw [hstored] at h
              cases h

theorem exchange_job {checked : RunRequest.Checked} {stored : Graph} {inputFilename : Option String}
    {seed : Int} {asked : List Request} {answer : Except Failure String}
    (hjob : (checked.prepare inputFilename seed stored).compile.job.toJson.isSendable = true)
    (hreply : (config.client checked.baseUrl).promptAnswer (config.backend (world.sent ++ asked)
      (config.jobRequest checked stored inputFilename seed)) = answer) :
    Act.exchange ((config.client checked.baseUrl).submit config.backend
        (checked.prepare inputFilename seed stored).compile.job.toJson config.clientId)
          (world.asking asked) =
      (answer, world.asking (asked ++ [config.jobRequest checked stored inputFilename seed])) := by
  rw [← World.asking_asking, ← hreply]
  exact Act.exchange_asking ((config.client checked.baseUrl).submit_apply config.backend _ hjob
    ⟨(world.asking asked).sent, []⟩)

theorem exchange_unsendable {checked : RunRequest.Checked} {stored : Graph}
    {inputFilename : Option String} {seed : Int} (asked : List Request)
    (hjob : (checked.prepare inputFilename seed stored).compile.job.toJson.isSendable = false) :
    Act.exchange ((config.client checked.baseUrl).submit config.backend
        (checked.prepare inputFilename seed stored).compile.job.toJson config.clientId)
          (world.asking asked) = (.error .unreadable, world.asking asked) := by
  have hunsent := (config.client checked.baseUrl).submit_of_unsendable config.backend
    config.clientId hjob ⟨(world.asking asked).sent, []⟩
  rw [Act.exchange_apply _ hunsent, List.map_nil, List.append_nil]

/-- A submission takes one of its courses, and nothing of the world changes but the requests. -/
theorem exists_course (config : RunConfig τ) (request : RunRequest) (world : World τ) :
    ∃ asked answer, config.submit request world = (answer, world.asking asked) ∧
      config.Course request world asked answer := by
  cases hready : request.ready world.disk with
  | error failure =>
      refine ⟨[], .error failure, ?_, .refused hready⟩
      rw [submit_of_refused hready, World.asking_nil]
  | ok found =>
      obtain ⟨checked, workflow, stored⟩ := found
      obtain ⟨hcheck, hworkflow, hstored⟩ := RunRequest.exists_of_ready hready
      have hread := store_workflow request world
      rw [hworkflow] at hread
      unfold submit
      rw [hcheck, bind_ok (Act.ofExcept_apply world _), bind_ok hread, hstored,
        bind_ok (Act.ofExcept_apply world _)]
      dsimp only
      have hupload := config.uploadImage_apply (config.client checked.baseUrl) request.image stored
        world
      cases himage : config.uploadedAs (config.client checked.baseUrl) request.image world.sent with
      | error failure =>
          rw [himage] at hupload
          exact ⟨_, _, bind_error hupload, .notUploaded hready himage⟩
      | ok inputFilename =>
          rw [himage] at hupload
          rw [bind_ok hupload]
          dsimp only
          cases hseed : chooseSeedOf config.drawnSeed request.seed with
          | error failure =>
              exact ⟨_, _, bind_error (Act.ofExcept_apply _ _), .noSeed hready himage hseed⟩
          | ok seed =>
              rw [bind_ok (Act.ofExcept_apply _ _)]
              have hprepared : config.Prepared request world checked workflow stored inputFilename
                  seed := ⟨hready, himage, hseed⟩
              cases hjob : (checked.prepare inputFilename seed
                  stored).compile.job.toJson.isSendable with
              | false =>
                  exact ⟨_, _, bind_error (exchange_unsendable _ hjob), .unsendable hprepared hjob⟩
              | true =>
                  cases hreply : (config.client checked.baseUrl).promptAnswer (config.backend
                      (world.sent ++ (config.client checked.baseUrl).uploads request.image)
                      (config.jobRequest checked stored inputFilename seed)) with
                  | error failure =>
                      exact ⟨_, _, bind_error (exchange_job hjob hreply),
                        .asked hprepared hjob hreply⟩
                  | ok jobId =>
                      refine ⟨_, _, (bind_ok (exchange_job hjob hreply)).trans
                        (bind_ok (Act.clock_apply _)), .asked hprepared hjob ?_⟩
                      exact hreply

end Courses

/-! ### What a submission keeps to -/

section Submitting

variable {τ : Type} (config : RunConfig τ) (request : RunRequest) (world : World τ)

/-- The reply to the last request cannot be read. -/
def LastUnreadable (asked : List Request) : Prop :=
  ∃ earlier last, asked = earlier ++ [last] ∧
    (config.backend (world.sent ++ earlier) last).Unreadable

/-- Everything before the job has succeeded, and no body can carry the job: it holds a number that
is not finite, or an integer of too many digits. -/
def Unsendable : Prop :=
  ∃ checked workflow stored inputFilename seed,
    config.Prepared request world checked workflow stored inputFilename seed ∧
      (checked.prepare inputFilename seed stored).compile.job.toJson.isSendable = false

/-- A job is submitted at most once, and only after everything before it has succeeded.  Nothing is
asked if the checks or the workflow fail; the requests are the first ones of the upload and the job;
the job comes behind an upload that gave a name, and stays away if no body can carry it.  There is a
ticket exactly if the reply to the job accepts it.  Every other answer is a fault, but for a job
that cannot be sent, a reply that cannot be read, and a seed that is no integer. -/
structure SubmitsOnce (asked : List Request) (answer : Except Failure (RunTicket τ)) : Prop where
  unasked : ∀ failure, (request.check = .error failure ∨ ∃ checked,
    request.check = .ok checked ∧ request.workflow world.disk = .error failure) →
      asked = [] ∧ answer = .error failure
  ordered : ∀ checked, request.check = .ok checked → ∃ job,
    asked <+: (config.client checked.baseUrl).uploads request.image ++
      [(config.client checked.baseUrl).promptRequest job config.clientId]
  uploaded : ∀ checked job earlier, request.check = .ok checked →
    asked = earlier ++ [(config.client checked.baseUrl).promptRequest job config.clientId] →
      ∀ image, request.image = some image → ∃ response name,
        config.backend world.sent ((config.client checked.baseUrl).uploadRequest image) =
          .response response ∧ Client.Names image.filename response name
  accepted : ∀ jobId, (∃ ticket, answer = .ok ticket ∧ ticket.jobId = jobId) ↔
    ∃ checked job earlier response, request.check = .ok checked ∧
      asked = earlier ++ [(config.client checked.baseUrl).promptRequest job config.clientId] ∧
      config.backend (world.sent ++ earlier)
        ((config.client checked.baseUrl).promptRequest job config.clientId) = .response response ∧
      Client.Queues response jobId
  failed : ∀ failure, answer = .error failure → (∃ fault, failure = .fault fault) ∨
    (request.seed ≠ .null ∧ (∀ n, request.seed ≠ .int n) ∧
      chooseSeedOf config.drawnSeed request.seed = .error failure) ∨
    (failure = .unreadable ∧
      (config.LastUnreadable world asked ∨ config.Unsendable request world))
  unreadable : config.LastUnreadable world asked → answer = .error .unreadable
  unsent : config.Unsendable request world → answer = .error .unreadable ∧
    ∀ checked, request.check = .ok checked →
      asked = (config.client checked.baseUrl).uploads request.image

variable {config request world} {asked : List Request} {answer : Except Failure (RunTicket τ)}

theorem ne_concat_prompt {client other : Client} {image : Option InputImage}
    {earlier : List Request} {job : Json} {clientId : String} :
    client.uploads image ≠ earlier ++ [other.promptRequest job clientId] := by
  intro h
  have hmem : other.promptRequest job clientId ∈ client.uploads image := by
    rw [h]
    exact List.mem_append_right _ (List.mem_singleton.mpr rfl)
  obtain ⟨given, -, hgiven⟩ := Option.map_eq_some_iff.mp (Option.mem_toList.mp hmem)
  cases congrArg Request.body hgiven

/-- With an image, the upload comes to what its reply comes to. -/
theorem uploadedAs_some (client : Client) (image : InputImage) (sent : List Request) :
    config.uploadedAs client (some image) sent =
      (client.uploadAnswer image (config.backend sent (client.uploadRequest image))).map some := rfl

theorem names_of_uploadedAs {client : Client} {image : InputImage} {sent : List Request}
    {inputFilename : Option String}
    (h : config.uploadedAs client (some image) sent = .ok inputFilename) :
    ∃ response name, config.backend sent (client.uploadRequest image) = .response response ∧
      Client.Names image.filename response name := by
  rw [uploadedAs_some] at h
  cases hanswer : client.uploadAnswer image (config.backend sent (client.uploadRequest image)) with
  | error failure =>
      rw [hanswer] at h
      cases h
  | ok name =>
      obtain ⟨response, hreply, hnames⟩ := ((client.judged_upload image _).ok_iff name).mp hanswer
      exact ⟨response, name, hreply, hnames⟩

/-- An upload fails with a fault, or its reply cannot be read. -/
theorem failed_of_uploadedAs {client : Client} {image : Option InputImage} {failure : Failure}
    (h : config.uploadedAs client image world.sent = .error failure) :
    (∃ fault, failure = .fault fault) ∨
      (failure = .unreadable ∧ config.LastUnreadable world (client.uploads image)) := by
  cases image with
  | none => cases h
  | some image =>
      rw [uploadedAs_some] at h
      have hjudged := client.judged_upload image
        (config.backend world.sent (client.uploadRequest image))
      cases hanswer : client.uploadAnswer image
          (config.backend world.sent (client.uploadRequest image)) with
      | ok name =>
          rw [hanswer] at h
          cases h
      | error other =>
          rw [hanswer] at h hjudged
          obtain rfl : other = failure := Except.error.inj h
          obtain rfl | hfault := hjudged.failed other rfl
          · refine Or.inr ⟨rfl, [], client.uploadRequest image, rfl, ?_⟩
            rw [List.append_nil]
            exact hjudged.unreadable_iff.mp rfl
          · exact Or.inl hfault

theorem uploadedAs_of_unreadable {client : Client} {image : Option InputImage}
    (h : config.LastUnreadable world (client.uploads image)) :
    config.uploadedAs client image world.sent = .error .unreadable := by
  obtain ⟨earlier, last, huploads, hreply⟩ := h
  cases image with
  | none => exact absurd huploads.symm (by simp [Client.uploads])
  | some image =>
      have hone : [] ++ [client.uploadRequest image] = earlier ++ [last] := huploads
      obtain ⟨rfl, rfl⟩ := List.append_singleton_inj.mp hone
      rw [List.append_nil] at hreply
      rw [uploadedAs_some, (client.judged_upload image _).unreadable_iff.mpr hreply]
      rfl

theorem seed_of_error {drawn : Int} {seed : Json} {failure : Failure}
    (h : chooseSeedOf drawn seed = .error failure) : seed ≠ .null ∧ ∀ n, seed ≠ .int n := by
  refine ⟨?_, ?_⟩
  · rintro rfl
    cases h
  · rintro n rfl
    cases h

namespace Course

variable (h : config.Course request world asked answer)

include h

theorem unasked {failure : Failure} (hrefused : request.ready world.disk = .error failure) :
    asked = [] ∧ answer = .error failure := by
  cases h with
  | refused hready =>
      cases hrefused.symm.trans hready
      exact ⟨rfl, rfl⟩
  | notUploaded hready _ => cases hrefused.symm.trans hready
  | noSeed hready _ _ => cases hrefused.symm.trans hready
  | unsendable hprepared _ | asked hprepared _ _ => cases hrefused.symm.trans hprepared.ready

theorem ordered {checked : RunRequest.Checked} (hcheck : request.check = .ok checked) : ∃ job,
    asked <+: (config.client checked.baseUrl).uploads request.image ++
      [(config.client checked.baseUrl).promptRequest job config.clientId] := by
  cases h with
  | refused _ => exact ⟨.null, List.nil_prefix⟩
  | notUploaded hready _ =>
      obtain rfl := RunRequest.checked_of_ready hready hcheck
      exact ⟨.null, List.prefix_append _ _⟩
  | noSeed hready _ _ =>
      obtain rfl := RunRequest.checked_of_ready hready hcheck
      exact ⟨.null, List.prefix_append _ _⟩
  | unsendable hprepared _ =>
      obtain rfl := RunRequest.checked_of_ready hprepared.ready hcheck
      exact ⟨.null, List.prefix_append _ _⟩
  | asked hprepared _ _ =>
      obtain rfl := RunRequest.checked_of_ready hprepared.ready hcheck
      exact ⟨_, List.prefix_refl _⟩

theorem uploaded {checked : RunRequest.Checked} {job : Json} {earlier : List Request}
    (hcheck : request.check = .ok checked)
    (hasked : asked = earlier ++
      [(config.client checked.baseUrl).promptRequest job config.clientId])
    {image : InputImage} (himage : request.image = some image) : ∃ response name,
      config.backend world.sent ((config.client checked.baseUrl).uploadRequest image) =
        .response response ∧ Client.Names image.filename response name := by
  cases h with
  | refused _ => simp at hasked
  | notUploaded _ _ => exact absurd hasked ne_concat_prompt
  | noSeed _ _ _ => exact absurd hasked ne_concat_prompt
  | unsendable _ _ => exact absurd hasked ne_concat_prompt
  | asked hprepared _ _ =>
      obtain rfl := RunRequest.checked_of_ready hprepared.ready hcheck
      exact names_of_uploadedAs (himage ▸ hprepared.image)

theorem accepted_iff (jobId : String) :
    (∃ ticket, answer = .ok ticket ∧ ticket.jobId = jobId) ↔
      ∃ checked job earlier response, request.check = .ok checked ∧
        asked = earlier ++ [(config.client checked.baseUrl).promptRequest job config.clientId] ∧
        config.backend (world.sent ++ earlier)
          ((config.client checked.baseUrl).promptRequest job config.clientId) =
            .response response ∧
        Client.Queues response jobId := by
  constructor
  · rintro ⟨ticket, rfl, rfl⟩
    cases h with
    | @asked checked _ _ _ _ _ hprepared _ hreply =>
        obtain ⟨response, hresponse, hqueues⟩ := (Client.judged_prompt _ _).ok_iff _ |>.mp hreply
        exact ⟨checked, _, _, response, (RunRequest.exists_of_ready hprepared.ready).1, rfl,
          hresponse, hqueues⟩
  · rintro ⟨checked, job, earlier, response, hcheck, hasked, hresponse, hqueues⟩
    have hanswer := ((config.client checked.baseUrl).judged_prompt _).ok_iff jobId |>.mpr
      ⟨response, hresponse, hqueues⟩
    cases h with
    | refused _ => simp at hasked
    | notUploaded _ _ => exact absurd hasked ne_concat_prompt
    | noSeed _ _ _ => exact absurd hasked ne_concat_prompt
    | unsendable _ _ => exact absurd hasked ne_concat_prompt
    | asked hprepared _ hreply =>
        obtain rfl := RunRequest.checked_of_ready hprepared.ready hcheck
        obtain ⟨rfl, hjob⟩ := List.append_singleton_inj.mp hasked
        rw [hjob, hanswer] at hreply
        cases answer with
        | error failure => cases hreply
        | ok ticket => exact ⟨ticket, rfl, (Except.ok.inj hreply).symm⟩

theorem failed (hready : Faults (request.ready world.disk)) {failure : Failure}
    (hfailure : answer = .error failure) : (∃ fault, failure = .fault fault) ∨
      (request.seed ≠ .null ∧ (∀ n, request.seed ≠ .int n) ∧
        chooseSeedOf config.drawnSeed request.seed = .error failure) ∨
      (failure = .unreadable ∧
        (config.LastUnreadable world asked ∨ config.Unsendable request world)) := by
  cases h with
  | refused hrefused =>
      obtain rfl := Except.error.inj hfailure
      exact Or.inl (hready _ hrefused)
  | notUploaded _ himage =>
      obtain rfl := Except.error.inj hfailure
      exact (failed_of_uploadedAs himage).imp_right fun h => Or.inr ⟨h.1, Or.inl h.2⟩
  | noSeed _ _ hseed =>
      obtain rfl := Except.error.inj hfailure
      obtain ⟨hnull, hint⟩ := seed_of_error hseed
      exact Or.inr (Or.inl ⟨hnull, hint, hseed⟩)
  | unsendable hprepared hjob =>
      obtain rfl := Except.error.inj hfailure
      exact Or.inr (Or.inr ⟨rfl, Or.inr ⟨_, _, _, _, _, hprepared, hjob⟩⟩)
  | @asked checked _ stored inputFilename seed _ _ _ hreply =>
      have hjudged := (config.client checked.baseUrl).judged_prompt (config.backend
        (world.sent ++ (config.client checked.baseUrl).uploads request.image)
        (config.jobRequest checked stored inputFilename seed))
      rw [hreply, hfailure] at hjudged
      obtain rfl | hfault := hjudged.failed failure rfl
      · exact Or.inr (Or.inr ⟨rfl, Or.inl ⟨_, _, rfl, hjudged.unreadable_iff.mp rfl⟩⟩)
      · exact Or.inl hfault

theorem unreadable (hlast : config.LastUnreadable world asked) : answer = .error .unreadable := by
  cases h with
  | refused _ =>
      obtain ⟨earlier, last, hasked, -⟩ := hlast
      simp at hasked
  | notUploaded _ himage => exact congrArg _ (Except.error.inj
      (himage.symm.trans (uploadedAs_of_unreadable hlast)))
  | noSeed _ himage _ => cases himage.symm.trans (uploadedAs_of_unreadable hlast)
  | unsendable _ _ => rfl
  | @asked checked _ _ _ _ _ _ _ hreply =>
      obtain ⟨earlier, last, hasked, hunreadable⟩ := hlast
      obtain ⟨rfl, rfl⟩ := List.append_singleton_inj.mp hasked
      have hanswer := (Client.judged_prompt (config.client checked.baseUrl) _).unreadable_iff.mpr
        hunreadable
      rw [hanswer] at hreply
      cases answer with
      | error failure => exact congrArg _ (Except.error.inj hreply.symm)
      | ok ticket => cases hreply

theorem unsent (hunsendable : config.Unsendable request world) : answer = .error .unreadable ∧
    ∀ checked, request.check = .ok checked →
      asked = (config.client checked.baseUrl).uploads request.image := by
  obtain ⟨checked, workflow, stored, inputFilename, seed, hprepared, hjob⟩ := hunsendable
  cases h with
  | refused hready => cases hprepared.ready.symm.trans hready
  | notUploaded hready himage =>
      obtain ⟨rfl, rfl, rfl⟩ := RunRequest.unique_of_ready hready hprepared.ready
      cases hprepared.image.symm.trans himage
  | noSeed _ _ hseed => cases hprepared.seed.symm.trans hseed
  | unsendable hother _ =>
      refine ⟨rfl, fun other hcheck => ?_⟩
      rw [RunRequest.checked_of_ready hother.ready hcheck]
  | asked hother hsendable _ =>
      obtain ⟨rfl, rfl, rfl⟩ := RunRequest.unique_of_ready hother.ready hprepared.ready
      obtain rfl := Except.ok.inj (hother.image.symm.trans hprepared.image)
      obtain rfl := Except.ok.inj (hother.seed.symm.trans hprepared.seed)
      cases hjob.symm.trans hsendable

end Course

theorem submitsOnce_of_course (hready : Faults (request.ready world.disk))
    (h : config.Course request world asked answer) :
    config.SubmitsOnce request world asked answer where
  unasked failure hrefused := by
    refine h.unasked ?_
    unfold RunRequest.ready
    obtain hcheck | ⟨checked, hcheck, hworkflow⟩ := hrefused
    · rw [hcheck]
      rfl
    · rw [hcheck, hworkflow]
      rfl
  ordered _ hcheck := h.ordered hcheck
  uploaded _ _ _ hcheck hasked _ himage := h.uploaded hcheck hasked himage
  accepted := h.accepted_iff
  failed _ hfailure := h.failed hready hfailure
  unreadable := h.unreadable
  unsent := h.unsent

end Submitting

/-! ### What a run makes of it -/

section Running

variable {τ : Type} [TimeScale τ] {config : RunConfig τ}

/-- A poll that answers has a ticket. -/
theorem exists_ticket_of_check {ticket : RunTicket τ} {world after : World τ}
    {status : RunStatus τ} (h : config.check ticket world = (.ok status, after)) :
    ∃ later, status.ticket? = some later := by
  unfold check at h
  obtain ⟨now, first, -, h⟩ := exists_of_bind h
  dsimp only at h
  split_ifs at h
  · obtain ⟨millis, second, -, h⟩ := exists_of_bind h
    cases h
    exact ⟨_, rfl⟩
  · obtain ⟨snapshot, second, -, h⟩ := exists_of_bind h
    cases himage : snapshot.image with
    | none =>
        rw [himage] at h
        cases h
        exact ⟨_, rfl⟩
    | some image =>
        rw [himage] at h
        obtain ⟨result, rfl⟩ := done_of_complete h
        exact ⟨_, rfl⟩

theorem exists_ticket_of_waitFor : ∀ (fuel : Nat) {ticket : RunTicket τ} {world after : World τ}
    {status : RunStatus τ}, config.waitFor fuel ticket world = (.ok status, after) →
      ∃ later, status.ticket? = some later := by
  intro fuel
  induction fuel with
  | zero => exact fun h => exists_ticket_of_check h
  | succ fuel ih =>
      intro ticket world after status h
      unfold waitFor at h
      obtain ⟨polled, middle, hpolled, h⟩ := exists_of_bind h
      cases polled with
      | polling later elapsed =>
          obtain ⟨_, _, -, h⟩ := exists_of_bind h
          exact ih h
      | _ =>
          cases h
          exact exists_ticket_of_check hpolled

/-- A wait never answers that the run has failed. -/
theorem wait_ne_failed {ticket : RunTicket τ} {world after : World τ} (fault : Fault) :
    config.wait ticket world ≠ (.ok (.failed fault), after) := by
  intro h
  unfold wait at h
  obtain ⟨now, middle, -, h⟩ := exists_of_bind h
  obtain ⟨later, hlater⟩ := exists_ticket_of_waitFor _ h
  cases hlater

/-- A run waits for an accepted job; of the failures of a submission, it answers the faults and
passes on the others, and asks nothing more. -/
structure RunFollows (config : RunConfig τ) (request : RunRequest) (world : World τ)
    (answer : Except Failure (RunTicket τ)) (after : World τ) : Prop where
  waits : ∀ ticket, answer = .ok ticket → config.run request world = config.wait ticket after
  fails : ∀ fault, answer = .error (.fault fault) →
    config.run request world = (.ok (.failed fault), after)
  passes : ∀ failure, answer = .error failure → (∀ fault, failure ≠ .fault fault) →
    config.run request world = (.error failure, after)
  failed : ∀ fault last, config.run request world = (.ok (.failed fault), last) →
    answer = .error (.fault fault) ∧ last = after

variable {request : RunRequest} {world after : World τ} {answer : Except Failure (RunTicket τ)}

theorem runFollows_of_submit (h : config.submit request world = (answer, after)) :
    config.RunFollows request world answer after := by
  have hattempt := Act.attempt_apply world h
  have hwaits : ∀ ticket, answer = .ok ticket →
      config.run request world = config.wait ticket after := by
    rintro ticket rfl
    exact bind_ok hattempt
  have hfails : ∀ fault, answer = .error (.fault fault) →
      config.run request world = (.ok (.failed fault), after) := by
    rintro fault rfl
    exact bind_ok hattempt
  have hpasses : ∀ failure, answer = .error failure → (∀ fault, failure ≠ .fault fault) →
      config.run request world = (.error failure, after) := by
    rintro failure rfl hfault
    refine (bind_ok hattempt).trans ?_
    cases failure with
    | fault fault => exact absurd rfl (hfault fault)
    | _ => rfl
  refine ⟨hwaits, hfails, hpasses, ?_⟩
  intro fault last hrun
  cases answer with
  | ok ticket => exact absurd ((hwaits ticket rfl).symm.trans hrun) (wait_ne_failed fault)
  | error failure =>
      by_cases hfault : ∃ other, failure = .fault other
      · obtain ⟨other, rfl⟩ := hfault
        cases (hfails other rfl).symm.trans hrun
        exact ⟨rfl, rfl⟩
      · cases (hpasses failure rfl (not_exists.mp hfault)).symm.trans hrun

end Running

/-! ### The three samplers, imported -/

/-- The workflow of the three samplers, as it is imported. -/
def importedSamplers : Json := .obj [("id", .str "w"), ("raw", storedSamplers)]

/-- Writing without waits. -/
def quick : Patience := ⟨.standard, fun _ => .zero false⟩

theorem built_samplers : WorkflowStore.Built 3 worldOfSamplers.disk := by
  have hpayload : importedSamplers.Spelled 3 := by
    refine .obj _ (by decide) ?_
    simp only [List.forall_mem_cons]
    exact ⟨.str "w", spelled_storedSamplers, List.forall_mem_nil _⟩
  have himported : StoredWorkflow.ofImport 0 importedSamplers = [samplers] := rfl
  have hreads : WorkflowStore.readAll Disk.empty = .ok [] := rfl
  have hbuilt : WorkflowStore.Built 3
      (WorkflowStore.importPayload quick 0 importedSamplers Disk.empty).disk :=
    .importPayload _ (.start _ rfl) _ _ _ hpayload
  rw [WorkflowStore.importPayload_of_ne_nil _ hreads List.nodup_nil
    (by rw [himported]; exact List.cons_ne_nil _ _), himported] at hbuilt
  refine .elsewhere _ _ hbuilt ?_
  obtain ⟨-, hfile⟩ | ⟨hfails, -⟩ := WorkflowStore.persist_outcome quick Disk.empty [samplers]
  · exact hfile.symm
  · cases (WorkflowStore.persist_of_works _ Disk.empty (fun _ => rfl) _).symm.trans hfails

theorem drawable_samplers : sevenNine.Drawable worldOfSamplers.disk := by
  rintro workflow fields hworkflow -
  obtain rfl : samplers = workflow := Except.ok.inj (workflow_samplers.symm.trans hworkflow)
  exact ⟨_, rfl⟩

end RunConfig

end RenderRelay
