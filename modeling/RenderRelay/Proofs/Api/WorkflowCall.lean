import Mathlib.Data.List.DropRight
import RenderRelay.Proofs.Api.Gate
import RenderRelay.Proofs.Api.StatusCall
import RenderRelay.Proofs.Run.Once
import RenderRelay.Proofs.Store.Built
import RenderRelay.Proofs.Store.Restore
import RenderRelay.Proofs.Url.Address

/-! # Calls for one workflow

Three calls name a workflow by its id, and each takes blanks from around the id before it looks:
renaming the white space, deleting and running the wide class.  The store and its listing keep an id
as it was imported.

* `Service.serve_of_ok`, `serve_of_fault`: what an admitted request is answered.
* `Service.Changes` and `Service.LooksUp` say what a call does by the key that is left of an id: it
  is refused, or no workflow has the key, or one has it (`changes_rename`, `changes_delete`,
  `looksUp_run`).
* `Service.serve_workflow_calls`: this holds in every store that operations have built.  The key of
  a listed workflow is its id if no blank stands at the ends of that; otherwise the workflow that is
  found, if there is one, is another one. -/

namespace RenderRelay

open Text WorkflowStore

namespace Api

/-! ### Admitted requests -/

namespace Service

variable {service : Service} {route : Route} {request : ApiRequest} {world after : World Double}

/-- What an admitted request is answered, before the response gets its id. -/
theorem respond_of_admitted (hto : request.IsTo route)
    (hadmits : service.admits route request = true) {answer : Except Failure ApiResponse}
    (h : service.handle route request world = (answer, after)) :
    service.respond request world = (match answer with
      | .ok response => (.ok response, after)
      | .error (.fault fault) => (.ok (.ofFault service.production fault), after)
      | .error failure => (.error failure, after)) := by
  have hguarded : service.guarded route request = service.handle route request := by
    unfold guarded
    rw [if_pos hadmits]
  unfold respond
  rw [Route.find?_of_isTo hto]
  dsimp only
  rw [hguarded, bind_ok (Act.attempt_apply world h)]
  cases answer with
  | ok response => rfl
  | error failure => cases failure <;> rfl

/-- A request that is let in is answered what its handler answers. -/
theorem serve_of_ok (hto : request.IsTo route) (hadmits : service.admits route request = true)
    {response : ApiResponse} (h : service.handle route request world = (.ok response, after)) :
    service.serve request world =
      (.ok (response.withHeader "x-request-id" (service.requestId request)), after) := by
  unfold serve
  rw [bind_ok (respond_of_admitted hto hadmits h)]
  rfl

/-- A fault of the handler is answered by its status. -/
theorem serve_of_fault (hto : request.IsTo route) (hadmits : service.admits route request = true)
    {fault : Fault} (h : service.handle route request world = (.error (.fault fault), after)) :
    service.serve request world = (.ok ((ApiResponse.ofFault service.production fault).withHeader
      "x-request-id" (service.requestId request)), after) := by
  unfold serve
  rw [bind_ok (respond_of_admitted hto hadmits h)]
  rfl

/-- The request is answered with this status, and the world is as it was. -/
def Refuses (service : Service) (request : ApiRequest) (world : World Double) (status : Nat) :
    Prop :=
  ∃ response, service.serve request world = (.ok response, world) ∧ response.status = status

theorem refuses_of_fault (hto : request.IsTo route)
    (hadmits : service.admits route request = true) {fault : Fault}
    (h : service.handle route request world = (.error (.fault fault), world)) :
    service.Refuses request world fault.kind.httpStatus :=
  ⟨_, serve_of_fault hto hadmits h, rfl⟩

/-! ### Calls that change a workflow -/

/-- What a call does that changes the workflow under a key. -/
structure Changes (service : Service) (request : ApiRequest) (world : World Double)
    (workflows : List StoredWorkflow) (key : String)
    (changed : List StoredWorkflow → StoredWorkflow → List StoredWorkflow →
      List StoredWorkflow) : Prop where
  refused : key = "" → service.Refuses request world 400
  unknown : key ≠ "" → (∀ workflow ∈ workflows, workflow.id ≠ key) →
    service.Refuses request world 404
  known : world.disk.Works → ∀ before workflow after, Split key workflows before workflow after →
    ∃ response last, service.serve request world = (.ok response, last) ∧ response.status = 200 ∧
      (∃ rest, response.content =
        .json (.obj (("workflows", listing (changed before workflow after)) :: rest))) ∧
      readAll last.disk = .ok (changed before workflow after)

variable {limit : Nat} {workflows : List StoredWorkflow} {key : String}
  {changed : List StoredWorkflow → StoredWorkflow → List StoredWorkflow → List StoredWorkflow}

/-- A call that does an operation of the store under its key changes what the operation changes. -/
theorem changes_of_store (operation : Disk → Stored (List StoredWorkflow)) (rest : Fields)
    (hlimit : Number.digitCount limit ≤ Number.maxDigits)
    (hto : request.IsTo route) (hadmits : service.admits route request = true)
    (hrefused : key = "" → ∃ fault : Fault, fault.kind.httpStatus = 400 ∧
      service.handle route request world = (.error (.fault fault), world))
    (hhandle : key ≠ "" → service.handle route request = Act.store operation >>= fun listed =>
      pure (.ok (("workflows", listing listed) :: rest)))
    (habsent : (∀ workflow ∈ workflows, workflow.id ≠ key) →
      operation world.disk = .pure (.error (notFound (.str key))) world.disk)
    (hfound : ∀ before workflow after, Split key workflows before workflow after →
      key ≠ "" ∧ Sound limit (changed before workflow after) ∧
        operation world.disk =
          persist service.runs.patience (changed before workflow after) world.disk) :
    service.Changes request world workflows key changed where
  refused hkey := by
    obtain ⟨fault, hstatus, hfault⟩ := hrefused hkey
    rw [← hstatus]
    exact refuses_of_fault hto hadmits hfault
  unknown hkey hnone := by
    have hfault : service.handle route request world =
        (.error (.fault (.workflowNotFound (.str key))), world) := by
      rw [hhandle hkey]
      refine bind_error ?_
      rw [Act.store_apply, habsent hnone]
      simp only [Stored.pure, List.map_nil, List.append_nil]
      rfl
    exact refuses_of_fault hto hadmits hfault
  known hworks before workflow after hsplit := by
    obtain ⟨hkey, hsound, hpersist⟩ := hfound before workflow after hsplit
    have hok := persist_of_works service.runs.patience world.disk hworks
      (changed before workflow after)
    have hstore := Act.store_apply world operation
    rw [hpersist, hok] at hstore
    have hanswer := (congrFun (hhandle hkey) world).trans (bind_ok hstore)
    exact ⟨_, _, serve_of_ok hto hadmits hanswer, rfl, ⟨rest, rfl⟩,
      (truthful_persist hlimit service.runs.patience hsound).listed _ hok⟩

end Service

end Api

namespace Rename

open Check

/-- A name that a workflow can be given. -/
def ValidName (name : String) : Prop :=
  trimWhiteSpace name ≠ "" ∧ (trimWhiteSpace name).length ≤ maxName

/-- The body asks for another name for the workflow with this id, and for nothing else. -/
def AsksFor (body : Json) (id name : String) : Prop :=
  ∃ fields : Fields, body = .obj fields ∧ fields.get? "id" = some (.str id) ∧
    fields.get? "name" = some (.str name) ∧ ∀ key ∈ fields.keys, key = "id" ∨ key = "name"

theorem boundedText_validName {name : String} (h : ValidName name) :
    boundedText (some maxName) trimmedText (.str name) = .ok (trimWhiteSpace name) := by
  have hread : trimmedText (.str name) = .ok (trimWhiteSpace name) := rfl
  have hne : (trimWhiteSpace name).isEmpty = false :=
    Bool.eq_false_iff.mpr fun hempty => h.1 (String.isEmpty_iff.mp hempty)
  unfold boundedText
  rw [hread]
  dsimp only [bind, Except.bind]
  rw [hne, if_neg Bool.false_ne_true, if_neg (Nat.not_lt.mpr h.2)]

theorem noOthers_of_keys {fields : Fields}
    (h : ∀ key ∈ fields.keys, key = "id" ∨ key = "name") :
    noOthers fields ["id", "name"] = .valid () := by
  have hnone : (fields.keys.filter fun name => !(["id", "name"].contains name)) = [] := by
    rw [List.filter_eq_nil_iff]
    intro key hkey
    obtain rfl | rfl := h key hkey <;> decide
  unfold noOthers
  rw [hnone]

/-- Such a body is refused if nothing but white space is given for the id. -/
theorem ofJson_of_asksFor {body : Json} {id name : String} (h : AsksFor body id name)
    (hname : ValidName name) :
    ofJson body = if trimWhiteSpace id = "" then .invalid [⟨["id"], .tooShort⟩]
      else .valid ⟨trimWhiteSpace id, trimWhiteSpace name⟩ := by
  obtain ⟨fields, rfl, hid, hnamed, hkeys⟩ := h
  have hread := boundedText_trimmed id
  change (Rename.mk <$> required fields "id" (boundedText none trimmedText) <*>
    required fields "name" (boundedText (some maxName) trimmedText) <*
      noOthers fields ["id", "name"]) = _
  rw [required_of_ok hnamed (boundedText_validName hname), noOthers_of_keys hkeys]
  split_ifs at hread ⊢ with hempty
  · rw [required_of_error hid hread]
    rfl
  · rw [required_of_ok hid hread]
    rfl

end Rename

namespace Api.Service

section Calls

variable {service : Service} {request : ApiRequest} {world : World Double} {limit : Nat}
  {workflows : List StoredWorkflow} {id name : String}

/-- The workflow that is renamed is the one whose id is left without white space around the given
id. -/
theorem changes_rename (hlimit : Number.digitCount limit ≤ Number.maxDigits)
    (hreads : readAll world.disk = .ok workflows) (hsound : Sound limit workflows)
    (hto : request.IsTo .renameWorkflow) (hsession : service.hasSession request = true)
    (hbody : Rename.AsksFor request.body id name) (hname : Rename.ValidName name) :
    service.Changes request world workflows (trimWhiteSpace id) fun before workflow after =>
      before ++ { workflow with name := trimWhiteSpace name } :: after := by
  have hread := Rename.ofJson_of_asksFor hbody hname
  refine changes_of_store
    (rename service.runs.patience (trimWhiteSpace id) (trimWhiteSpace name))
    [("updated", .str (trimWhiteSpace id))] hlimit hto hsession ?_ ?_
    (rename_of_absent service.runs.patience hreads · (trimWhiteSpace name)) ?_
  · intro hempty
    rw [if_pos hempty] at hread
    refine ⟨bodyFault [⟨["id"], .tooShort⟩], rfl, ?_⟩
    dsimp only [handle]
    unfold renameWorkflow
    rw [hread]
    exact bind_error (Act.ofExcept_apply world _)
  · intro hne
    rw [if_neg hne] at hread
    have hchecked : checkedBody (Rename.ofJson request.body) =
        .ok ⟨trimWhiteSpace id, trimWhiteSpace name⟩ := by
      rw [hread]
      rfl
    funext world
    dsimp only [handle]
    unfold renameWorkflow
    rw [hchecked, bind_ok (Act.ofExcept_apply world _)]
  · intro before workflow after hsplit
    exact ⟨hsound.key_ne hsplit, hsound.rename hsplit hname.1, rename_of_split _ hreads hsplit _⟩

/-- The workflow that is deleted is the one whose id is left without blanks around the given id. -/
theorem changes_delete (hlimit : Number.digitCount limit ≤ Number.maxDigits)
    (hreads : readAll world.disk = .ok workflows) (hsound : Sound limit workflows)
    (hto : request.IsTo .deleteWorkflow) (hsession : service.hasSession request = true)
    (hid : request.param "id" = some id) :
    service.Changes request world workflows (trim id) fun before _ after => before ++ after := by
  refine changes_of_store (delete service.runs.patience (trim id))
    [("deleted", .str (trim id))] hlimit hto hsession ?_ ?_
    (delete_of_absent service.runs.patience hreads) ?_
  · intro hempty
    refine ⟨.invalidParameter "id" (.str id) (some "missing id to delete"), rfl, ?_⟩
    dsimp only [handle]
    unfold deleteWorkflow deletedId
    rw [hid]
    dsimp only [Option.getD_some]
    rw [if_pos (String.isEmpty_iff.mpr hempty)]
    exact bind_error (Act.ofExcept_apply world _)
  · intro hne
    funext world
    dsimp only [handle]
    unfold deleteWorkflow deletedId
    rw [hid]
    dsimp only [Option.getD_some]
    rw [if_neg fun hempty => hne (String.isEmpty_iff.mp hempty)]
    exact bind_ok (Act.ofExcept_apply world _)
  · intro before workflow after hsplit
    exact ⟨hsound.key_ne hsplit, hsound.sublist hsplit.sublist, delete_of_split _ hreads hsplit⟩

/-! ### Calls that run a workflow -/

/-- The form asks for this run, but for its workflow, and its parameters are valid. -/
structure AsksRun (service : Service) (request : ApiRequest) (wait : Bool) (run : RunRequest) :
    Prop where
  wait_eq : wantsWait request = .ok wait
  url : ∃ url, service.backendUrl (request.field "base_url") = .ok url ∧ run.baseUrl = some url
  seed : ∃ seed, Check.seed (Json.ofText? (request.field "seed")) = .ok seed ∧
    run.seed = Json.ofInt? seed
  steps : ∃ steps, Check.steps (Json.ofText? (request.field "steps")) = .ok steps ∧
    run.steps = Json.ofInt? steps
  positive : run.positivePrompt = Json.ofText? (request.field "positive_prompt")
  negative : run.negativePrompt = Json.ofText? (request.field "negative_prompt")
  image : run.image = inputImage request
  checked : ∃ checked, run.check = .ok checked

/-- The run of the workflow under a key. -/
def keyedRun (run : RunRequest) (key : String) : RunRequest := { run with workflowId := .str key }

/-- What a call does that runs the workflow under a key. -/
structure LooksUp (service : Service) (request : ApiRequest) (world : World Double)
    (workflows : List StoredWorkflow) (key : String) (run : RunRequest) : Prop where
  refused : key = "" → service.Refuses request world 400
  unknown : key ≠ "" → (∀ workflow ∈ workflows, workflow.id ≠ key) →
    service.Refuses request world 404
  known : ∀ before workflow after, Split key workflows before workflow after →
    service.runRequest request = .ok (keyedRun run key) ∧
      (keyedRun run key).workflow world.disk = .ok workflow ∧
      ∀ ticket last, service.runConfig.submit (keyedRun run key) world = (.ok ticket, last) →
        ticket.parameters.workflowId = .str workflow.id ∧
          ticket.parameters.workflowName = .str workflow.name

variable {wait : Bool} {run : RunRequest}

theorem runRequest_of_asksRun (hid : request.field "workflow_id" = some id)
    (hrun : service.AsksRun request wait run) (hne : trim id ≠ "") :
    service.runRequest request = .ok (keyedRun run (trim id)) := by
  obtain ⟨-, ⟨url, hurl, hbase⟩, ⟨seed, hseed, hdrawn⟩, ⟨steps, hsteps, hcount⟩, hpositive,
    hnegative, himage, -⟩ := hrun
  unfold runRequest keyedRun
  rw [hid, hurl, hseed, hsteps, hbase, hdrawn, hcount, hpositive, hnegative, himage]
  dsimp only [Option.getD_some]
  rw [if_neg fun hempty => hne (String.isEmpty_iff.mp hempty)]
  rfl

theorem runRequest_of_blank (hid : request.field "workflow_id" = some id) (hempty : trim id = "") :
    service.runRequest request = .error (.fault (.invalidParameter "workflow_id" (.str id) none
      { userMessage := some "Select a workflow before running." })) := by
  unfold runRequest
  rw [hid]
  dsimp only [Option.getD_some]
  rw [if_pos (String.isEmpty_iff.mpr hempty)]
  rfl

/-- What is done with the run that a form asks for. -/
def answerRun (service : Service) (wait : Bool) (run : RunRequest) : Act Double ApiResponse :=
  if wait then do
    let status ← service.runConfig.run run
    Act.ofExcept (service.statusResponse status)
  else do
    let ticket ← service.runConfig.submit run
    return .ok [("state", .str "polling"), ("job_id", .str ticket.jobId),
      ("ticket", ticket.toJson)]

theorem handle_run (service : Service) (hwait : wantsWait request = .ok wait) :
    service.handle .run request =
      Act.ofExcept (service.runRequest request) >>= service.answerRun wait := by
  dsimp only [handle]
  unfold startRun
  rw [hwait]
  rfl

/-- A run of a workflow that is not there is answered by its fault, whether or not it is waited
for. -/
theorem refuses_of_submit_fault (hto : request.IsTo .run)
    (hsession : service.hasSession request = true) (hwait : wantsWait request = .ok wait)
    (hrun : service.runRequest request = .ok run) {fault : Fault}
    (hsubmit : service.runConfig.submit run world = (.error (.fault fault), world)) :
    service.Refuses request world fault.kind.httpStatus := by
  have hhandle := congrFun (service.handle_run hwait) world
  rw [hrun, bind_ok (Act.ofExcept_apply world _)] at hhandle
  unfold answerRun at hhandle
  cases wait with
  | false =>
      rw [if_neg Bool.false_ne_true, bind_error hsubmit] at hhandle
      exact refuses_of_fault hto hsession hhandle
  | true =>
      have hfails := (RunConfig.runFollows_of_submit hsubmit).fails fault rfl
      rw [if_pos rfl, bind_ok hfails] at hhandle
      exact ⟨_, serve_of_ok hto hsession hhandle, rfl⟩

/-- The workflow that is run is the one whose id is left without blanks around the given id. -/
theorem looksUp_run (hreads : readAll world.disk = .ok workflows) (hsound : Sound limit workflows)
    (hto : request.IsTo .run) (hsession : service.hasSession request = true)
    (hid : request.field "workflow_id" = some id) (hrun : service.AsksRun request wait run) :
    service.LooksUp request world workflows (trim id) run where
  refused hempty := by
    have hhandle := congrFun (service.handle_run hrun.wait_eq) world
    rw [runRequest_of_blank hid hempty, bind_error (Act.ofExcept_apply world _)] at hhandle
    exact refuses_of_fault hto hsession hhandle
  unknown hne hnone := by
    have hasked := runRequest_of_asksRun hid hrun hne
    obtain ⟨checked, hchecked⟩ := hrun.checked
    have hready : (keyedRun run (trim id)).ready world.disk =
        .error (notFound (.str (trim id))) := by
      have hcheck : (keyedRun run (trim id)).check = .ok checked := hchecked
      have hworkflow : (keyedRun run (trim id)).workflow world.disk =
        .error (notFound (.str (trim id))) := get_of_absent hreads hnone
      unfold RunRequest.ready
      rw [hcheck, hworkflow]
      rfl
    exact refuses_of_submit_fault hto hsession hrun.wait_eq hasked
      (RunConfig.submit_of_refused hready)
  known before workflow after hsplit := by
    have hne := hsound.key_ne hsplit
    have hworkflow : (keyedRun run (trim id)).workflow world.disk = .ok workflow :=
      get_of_split hreads hsplit
    refine ⟨runRequest_of_asksRun hid hrun hne, hworkflow, ?_⟩
    intro ticket last hsubmit
    obtain ⟨checked, stored, inputFilename, seed, haccepted⟩ := RunConfig.exists_of_submit hsubmit
    obtain ⟨found, hfound, -, hparameters⟩ := haccepted.workflow
    obtain rfl : workflow = found := Except.ok.inj (hworkflow.symm.trans hfound)
    rw [hparameters]
    exact ⟨rfl, rfl⟩

/-! ### Every listed workflow -/

/-- What the calls for one listed workflow do, each by the key that it makes of the id. -/
structure ServesWorkflow (service : Service) (world : World Double)
    (workflows : List StoredWorkflow) (workflow : StoredWorkflow) : Prop where
  renames : ∀ request name, request.IsTo .renameWorkflow → service.hasSession request = true →
    Rename.AsksFor request.body workflow.id name → Rename.ValidName name →
      service.Changes request world workflows (trimWhiteSpace workflow.id)
        fun before found after => before ++ { found with name := trimWhiteSpace name } :: after
  deletes : ∀ request, request.IsTo .deleteWorkflow → service.hasSession request = true →
    request.param "id" = some workflow.id →
      service.Changes request world workflows (trim workflow.id)
        fun before _ after => before ++ after
  runs : ∀ request wait run, request.IsTo .run → service.hasSession request = true →
    request.field "workflow_id" = some workflow.id → service.AsksRun request wait run →
      service.LooksUp request world workflows (trim workflow.id) run
  unpadded : trim workflow.id = workflow.id → trimWhiteSpace workflow.id = workflow.id ∧
    ∃ before after, Split workflow.id workflows before workflow after
  padded : ∀ key, key ≠ workflow.id → ∀ before found after,
    Split key workflows before found after → found ≠ workflow

theorem servesWorkflow (hlimit : Number.digitCount limit ≤ Number.maxDigits)
    (hreads : readAll world.disk = .ok workflows) (hsound : Sound limit workflows)
    {workflow : StoredWorkflow} (hworkflow : workflow ∈ workflows) :
    service.ServesWorkflow world workflows workflow where
  renames _ _ hto hsession hbody hname :=
    changes_rename hlimit hreads hsound hto hsession hbody hname
  deletes _ hto hsession hid := changes_delete hlimit hreads hsound hto hsession hid
  runs _ _ _ hto hsession hid hrun := looksUp_run hreads hsound hto hsession hid hrun
  unpadded htrim := by
    obtain ⟨before, found, after, hsplit⟩ := exists_split hsound.nodup ⟨workflow, hworkflow, rfl⟩
    obtain rfl := hsplit.eq_of_mem hworkflow rfl
    exact ⟨trimWhiteSpace_of_trim htrim, before, after, hsplit⟩
  padded key hkey before found after hsplit heq := by
    rw [← hsplit.id_eq, heq] at hkey
    exact hkey rfl

/-- The workflows of every store that operations have built are listed under the ids that they have,
and each call for one of them goes by what is left of its id without blanks around it: it reaches
the workflow itself if there are none, and otherwise it is refused, finds nothing, or reaches
another workflow.  The workflows that are answered are taken to hold no infinite number, which no
response can carry. -/
theorem serve_workflow_calls (hlimit : Number.digitCount limit ≤ Number.maxDigits)
    (hbuilt : Built limit world.disk) (service : Service) :
    ∃ workflows, readAll world.disk = .ok workflows ∧
      (∀ request, request.IsTo .listWorkflows → service.hasSession request = true →
        ∃ response, service.serve request world = (.ok response, world) ∧ response.status = 200 ∧
          response.content =
            .json (.obj [("workflows", listing workflows), ("source", .str "stored")])) ∧
      ∀ workflow ∈ workflows, service.ServesWorkflow world workflows workflow := by
  obtain ⟨workflows, hreads, hsound⟩ := hbuilt.exists_readAll hlimit
  refine ⟨workflows, hreads, ?_, fun workflow => servesWorkflow hlimit hreads hsound⟩
  intro request hto hsession
  have hstore := Act.store_apply world fun disk => Stored.pure (readAll disk) disk
  simp only [Stored.pure, hreads, List.map_nil, List.append_nil] at hstore
  have hlisted : service.handle .listWorkflows request world =
      (.ok (.ok [("workflows", listing workflows), ("source", .str "stored")]), world) := by
    dsimp only [handle]
    unfold listWorkflows
    exact bind_ok hstore
  exact ⟨_, serve_of_ok hto hsession hlisted, rfl, rfl⟩

end Calls

/-! ### Ids with a blank before them -/

/-- An empty graph under an id. -/
def graphUnder (id : String) : Json := .obj [("id", .str id), ("nodes", .arr [])]

theorem spelled_graphUnder (id : String) : (graphUnder id).Spelled 3 := by
  have hkeys : ["id", "nodes"].Nodup := by decide
  refine Json.Spelled.obj _ hkeys ?_
  simp only [List.forall_mem_cons]
  exact ⟨.str id, .arr [] (Nat.zero_le 3) (List.forall_mem_nil _), List.forall_mem_nil _⟩

/-- Two ids with a blank before them, one of which is taken without it too. -/
def paddedUpload : Json := .arr [graphUnder " a", graphUnder "a", graphUnder " b"]

theorem spelled_paddedUpload : paddedUpload.Spelled 3 := by
  refine Json.Spelled.arr _ (by decide) ?_
  simp only [List.forall_mem_cons]
  exact ⟨spelled_graphUnder _, spelled_graphUnder _, spelled_graphUnder _, List.forall_mem_nil _⟩

/-- The workflow that an empty graph is imported as. -/
def imported (id : String) : StoredWorkflow :=
  ⟨id, id, graphUnder id, .ofGraph (graphUnder id), none⟩

/-- The workflows of the upload. -/
def paddedWorkflows : List StoredWorkflow := [imported " a", imported "a", imported " b"]

theorem ofImport_paddedUpload : StoredWorkflow.ofImport 0 paddedUpload = paddedWorkflows := by
  decide +kernel

/-- The world after the import. -/
def paddedWorld : World Double :=
  ⟨.zero false, (importPayload standardPatience 0 paddedUpload Disk.empty).disk, [], [], 0⟩

theorem built_paddedWorld : Built 3 paddedWorld.disk :=
  .importPayload _ (.start _ rfl) _ _ _ spelled_paddedUpload

theorem reads_paddedWorld : readAll paddedWorld.disk = .ok paddedWorkflows := by
  have hempty : readAll Disk.empty = .ok [] := rfl
  have himport := ofImport_paddedUpload
  have hnodup : ((StoredWorkflow.ofImport 0 paddedUpload).map StoredWorkflow.id).Nodup := by
    rw [himport]
    decide
  have hne : StoredWorkflow.ofImport 0 paddedUpload ≠ [] := by
    rw [himport]
    exact List.cons_ne_nil _ _
  rw [← himport]
  exact readAll_importPayload_of_empty standardPatience (by decide) spelled_paddedUpload hnodup hne
    hempty fun _ => rfl

theorem works_paddedWorld : paddedWorld.disk.Works := fun n =>
  congrFun (outage_after standardPatience Disk.empty (.importPayload 0 paddedUpload)) n

theorem sound_paddedWorkflows : Sound 3 paddedWorkflows where
  nodup := by decide
  each := ofImport_paddedUpload ▸ StoredWorkflow.sound_ofImport 0 spelled_paddedUpload

/-- The session's cookie. -/
def sessionCookie : Entries String :=
  [(sampleService.settings.server.cookieName, sampleService.secrets.sessionToken)]

/-- A request to give the workflow with this id another name. -/
def renameCall (id : String) : ApiRequest :=
  ⟨"PATCH", "/api/workflows", [], [], [], .obj (Rename.toFields ⟨id, "new"⟩), [], sessionCookie⟩

/-- A request to delete the workflow with this id. -/
def deleteCall (id : String) : ApiRequest :=
  ⟨"DELETE", "/api/workflows", [("id", id)], [], [], .null, [], sessionCookie⟩

/-- A request to run the workflow with this id. -/
def runCall (id : String) : ApiRequest :=
  ⟨"POST", "/api/run", [], [("workflow_id", id)], [], .null, [], sessionCookie⟩

theorem hasSession_of_cookies {request : ApiRequest} (h : request.cookies = sessionCookie) :
    sampleService.hasSession request = true := by
  unfold hasSession cookieOf
  rw [h]
  decide +kernel

theorem serve_workflow_calls_paddedWorld :
    Number.digitCount 3 ≤ Number.maxDigits ∧ Built 3 paddedWorld.disk ∧
      ∃ workflows, workflows.map StoredWorkflow.id = [" a", "a", " b"] ∧
        ∀ workflow ∈ workflows, sampleService.ServesWorkflow paddedWorld workflows workflow := by
  have hlimit : Number.digitCount 3 ≤ Number.maxDigits := by decide
  obtain ⟨workflows, hreads, -, hserves⟩ :=
    serve_workflow_calls hlimit built_paddedWorld sampleService
  obtain rfl := Except.ok.inj (reads_paddedWorld.symm.trans hreads)
  exact ⟨hlimit, built_paddedWorld, paddedWorkflows, rfl, hserves⟩

/-- What the form asks for beside its workflow. -/
def plainRun : RunRequest :=
  ⟨.null, some sampleService.settings.backend.url, .null, .null, .null, .null, none⟩

theorem asksRun_runCall (id : String) : sampleService.AsksRun (runCall id) false plainRun where
  wait_eq := rfl
  url := by
    refine ⟨sampleService.settings.backend.url, ?_, rfl⟩
    change sampleService.backendUrl none = _
    decide +kernel
  seed := ⟨none, rfl, rfl⟩
  steps := ⟨none, rfl, rfl⟩
  positive := rfl
  negative := rfl
  image := rfl
  checked := ⟨⟨sampleService.settings.backend.url, none, none, none⟩, by decide +kernel⟩

section Keys

variable {id key : String}

theorem changes_renameCall (hkey : trimWhiteSpace id = key) :
    sampleService.Changes (renameCall id) paddedWorld paddedWorkflows key
      fun before found after => before ++ { found with name := "new" } :: after := by
  have hasks : Rename.AsksFor (renameCall id).body id "new" := by
    refine ⟨_, rfl, rfl, rfl, fun key hmem => ?_⟩
    simpa [Entries.keys, Rename.toFields] using hmem
  have hnew : trimWhiteSpace "new" = "new" := by decide +kernel
  have hnamed : Rename.ValidName "new" := by
    rw [Rename.ValidName, hnew]
    decide
  have hchanges := changes_rename (by decide) reads_paddedWorld sound_paddedWorkflows ⟨rfl, rfl⟩
    (hasSession_of_cookies rfl) hasks hnamed
  rwa [hkey, hnew] at hchanges

theorem changes_deleteCall (hkey : trim id = key) :
    sampleService.Changes (deleteCall id) paddedWorld paddedWorkflows key
      fun before _ after => before ++ after := by
  have hid : (deleteCall id).param "id" = some id := rfl
  rw [← hkey]
  exact changes_delete (by decide) reads_paddedWorld sound_paddedWorkflows ⟨rfl, rfl⟩
    (hasSession_of_cookies rfl) hid

theorem looksUp_runCall (hid : (runCall id).field "workflow_id" = some id)
    (hkey : trim id = key) :
    sampleService.LooksUp (runCall id) paddedWorld paddedWorkflows key plainRun := by
  rw [← hkey]
  exact looksUp_run reads_paddedWorld sound_paddedWorkflows ⟨rfl, rfl⟩
    (hasSession_of_cookies rfl) hid (asksRun_runCall id)

end Keys

/-- Where the id of a workflow has a blank before it, the calls reach the workflow whose id is the
same without the blank, or find nothing. -/
theorem serve_padded_ids :
    Built 3 paddedWorld.disk ∧ readAll paddedWorld.disk = .ok paddedWorkflows ∧
      (∃ response last, sampleService.serve (renameCall " a") paddedWorld = (.ok response, last) ∧
        response.status = 200 ∧ readAll last.disk =
          .ok [imported " a", { imported "a" with name := "new" }, imported " b"]) ∧
      (∃ response last, sampleService.serve (deleteCall " a") paddedWorld = (.ok response, last) ∧
        response.status = 200 ∧ readAll last.disk = .ok [imported " a", imported " b"]) ∧
      (∃ run, sampleService.runRequest (runCall " a") = .ok run ∧
        run.workflow paddedWorld.disk = .ok (imported "a")) ∧
      sampleService.Refuses (renameCall " b") paddedWorld 404 ∧
      sampleService.Refuses (deleteCall " b") paddedWorld 404 ∧
      sampleService.Refuses (runCall " b") paddedWorld 404 := by
  have hsplit : Split "a" paddedWorkflows [imported " a"] (imported "a") [imported " b"] :=
    ⟨rfl, rfl, by decide, by decide⟩
  have hne : "b" ≠ "" := by decide
  have habsent : ∀ workflow ∈ paddedWorkflows, workflow.id ≠ "b" := by decide
  have htrimA : trim " a" = "a" := by decide +kernel
  have htrimB : trim " b" = "b" := by decide +kernel
  have hspaceA : trimWhiteSpace " a" = "a" := by decide +kernel
  have hspaceB : trimWhiteSpace " b" = "b" := by decide +kernel
  refine ⟨built_paddedWorld, reads_paddedWorld, ?_, ?_, ?_, ?_, ?_, ?_⟩
  · obtain ⟨response, last, hserve, hstatus, -, hreads⟩ :=
      (changes_renameCall hspaceA).known works_paddedWorld _ _ _ hsplit
    exact ⟨response, last, hserve, hstatus, hreads⟩
  · obtain ⟨response, last, hserve, hstatus, -, hreads⟩ :=
      (changes_deleteCall htrimA).known works_paddedWorld _ _ _ hsplit
    exact ⟨response, last, hserve, hstatus, hreads⟩
  · obtain ⟨hrun, hworkflow, -⟩ := (looksUp_runCall rfl htrimA).known _ _ _ hsplit
    exact ⟨_, hrun, hworkflow⟩
  · exact (changes_renameCall hspaceB).unknown hne habsent
  · exact (changes_deleteCall htrimB).unknown hne habsent
  · exact (looksUp_runCall rfl htrimB).unknown hne habsent

end Api.Service

end RenderRelay
