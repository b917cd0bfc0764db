import RenderRelay.Proofs.Run.Record
import RenderRelay.Proofs.Store.Ledger

/-! # What storing an image leaves

A poll that finds an image stores it, and before the other records one of the ticket.

* `RunConfig.spelled_of_submit`: what is recorded of an accepted request can be written as a text
  and read back.
* `RunConfig.saveOf_of_ok`, `readAll_saveOf_of_error`: the image stands under its name and its
  record before the others, or the records are as they were; images of other names stay
  (`artifact?_saveOf_of_ne`).
* `RunConfig.exists_stores_of_image`: a poll in time that finds an image stores it, if the backend
  serves every request and the directory works. -/

namespace RenderRelay

open Number

/-! ### What a ticket records can be spelled -/

theorem Check.bounds_of_boundedInteger {name : String} {low high n : Int} {outside : ParamError}
    {value : Json} (h : boundedInteger name low high outside value = .ok (some n)) :
    low ≤ n ∧ n ≤ high := by
  unfold boundedInteger at h
  obtain ⟨entered, -, h⟩ := exists_of_bind_ok h
  cases entered with
  | none => cases h
  | some m =>
      dsimp only at h
      split_ifs at h with houtside
      obtain rfl := Option.some.inj (Except.ok.inj h)
      omega

theorem RunRequest.steps_of_check {request : RunRequest} {checked : RunRequest.Checked}
    (h : request.check = .ok checked) : Check.steps request.steps = .ok checked.steps := by
  unfold check at h
  obtain ⟨baseUrl, -, h⟩ := exists_of_bind_ok h
  obtain ⟨positive, -, h⟩ := exists_of_bind_ok h
  obtain ⟨negative, -, h⟩ := exists_of_bind_ok h
  obtain ⟨steps, hsteps, h⟩ := exists_of_bind_ok h
  rw [← Except.ok.inj h]
  exact hsteps

theorem RunRequest.spelled_steps {request : RunRequest} {checked : RunRequest.Checked}
    (h : request.check = .ok checked) (limit : Nat) :
    (Json.ofInt? checked.steps).Spelled limit := by
  have hsteps := steps_of_check h
  cases hn : checked.steps with
  | none => exact .null
  | some n =>
      rw [hn] at hsteps
      obtain ⟨hlow, hhigh⟩ := Check.bounds_of_boundedInteger hsteps
      have hsmall : n.natAbs < 10 ^ 4 := by
        unfold Check.maxSteps at hhigh
        omega
      refine .int n ((digitCount_le_iff (by decide)).mpr ?_)
      exact hsmall.trans_le (Nat.pow_le_pow_right (by decide) (by decide))

theorem RunMetadata.nodup_keys (metadata : RunMetadata) : metadata.toFields.keys.Nodup := by
  simp [Entries.keys, RunMetadata.toFields, RunParameters.toFields]

/-- What is recorded of an accepted request can be spelled, if its seed can. -/
theorem RunConfig.spelled_of_submit {τ : Type} {config : RunConfig τ} {request : RunRequest}
    {world after : World τ} {ticket : RunTicket τ}
    (h : config.submit request world = (.ok ticket, after))
    (hseeds : ∀ seed, chooseSeedOf config.drawnSeed request.seed = .ok seed →
      digitCount seed.natAbs ≤ maxDigits) :
    ∃ limit, (Json.obj ticket.metadata.toFields).Spelled limit := by
  obtain ⟨checked, workflow, inputFilename, seed, jobId, summary, warnings, hchecked, hchosen,
    rfl⟩ := ticket_of_submit h
  refine ⟨0, Json.Spelled.obj _ (RunMetadata.nodup_keys _) ?_⟩
  simp only [RunTicket.metadata, RunMetadata.toFields, RunParameters.toFields,
    RunRequest.Checked.parameters, List.forall_mem_cons]
  exact ⟨.str _, .str _, .str _, Json.spelled_ofText? _, Json.spelled_ofText? _,
    .int seed (hseeds seed hchosen), RunRequest.spelled_steps hchecked 0, Json.spelled_ofText? _,
    List.forall_mem_nil _⟩

/-! ### What storing an image leaves -/

namespace RunConfig

variable {τ : Type} [TimeScale τ] {config : RunConfig τ} {ticket : RunTicket τ} {image : ImageRef}
  {content : Bytes} {world : World τ}

/-- The name under which an image is stored. -/
def nameOf (config : RunConfig τ) (world : World τ) (image : ImageRef) : String :=
  HistoryStore.storedName (config.stampOf world) (HistoryStore.givenName (some image.filename))

/-- Storing an image touches no image of another name. -/
theorem artifact?_saveOf_of_ne {name : String} (hne : name ≠ config.nameOf world image) :
    (config.saveOf ticket image content world).disk.artifact? name = world.disk.artifact? name := by
  have hput : (world.disk.artifacts.put (config.nameOf world image) content).get? name =
      world.disk.artifacts.get? name := Entries.lookup_put_of_ne _ _ hne
  unfold saveOf
  obtain ⟨records, -, -, tried, hdisk⟩ | ⟨-, artifacts, tried, hdisk, hsame | hartifacts⟩ :=
    HistoryStore.append_outcome config.patience world.disk (config.stampOf world) content
      (some image.filename) ticket.metadata.toFields
  · rw [hdisk]
    exact hput
  · rw [hdisk, hsame]
    rfl
  · rw [hdisk, hartifacts]
    exact hput

/-- An image that was stored stands under its name, and its record before the others. -/
theorem saveOf_of_ok {record : RunRecord}
    (h : (config.saveOf ticket image content world).answer = .ok record) :
    ∃ records, HistoryStore.readAll world.disk = .ok records ∧
      record = HistoryStore.recordOf (config.stampOf world) (some image.filename)
        ticket.metadata.toFields ∧
      (config.saveOf ticket image content world).disk.history =
        some (HistoryStore.toText (record :: records)) ∧
      (config.saveOf ticket image content world).disk.artifact? (config.nameOf world image) =
        some content := by
  unfold saveOf at h ⊢
  obtain ⟨records, hreads, hanswer, tried, hdisk⟩ | ⟨⟨failure, hfailure⟩, -⟩ :=
    HistoryStore.append_outcome config.patience world.disk (config.stampOf world) content
      (some image.filename) ticket.metadata.toFields
  · obtain rfl := Except.ok.inj (hanswer.symm.trans h)
    rw [hdisk]
    exact ⟨records, hreads, rfl, rfl, Entries.lookup_put_self _ _ _⟩
  · rw [hfailure] at h
    cases h

/-- If storing an image fails, the file of the records is as it was. -/
theorem history_saveOf_of_error {failure : Failure}
    (h : (config.saveOf ticket image content world).answer = .error failure) :
    (config.saveOf ticket image content world).disk.history = world.disk.history := by
  unfold saveOf at h ⊢
  obtain ⟨records, -, hanswer, -⟩ | ⟨-, artifacts, tried, hdisk, -⟩ :=
    HistoryStore.append_outcome config.patience world.disk (config.stampOf world) content
      (some image.filename) ticket.metadata.toFields
  · rw [hanswer] at h
    cases h
  · rw [hdisk]

theorem readAll_saveOf_of_error {failure : Failure}
    (h : (config.saveOf ticket image content world).answer = .error failure) :
    HistoryStore.readAll (config.saveOf ticket image content world).disk =
      HistoryStore.readAll world.disk := by
  unfold HistoryStore.readAll
  rw [history_saveOf_of_error h]

variable (world) in
/-- A poll in time that finds an image stores it, if the backend serves every request and the
directory works. -/
theorem exists_stores_of_image (hwithin : config.Within ticket world.clock)
    (hround : ∃ millis, TimeScale.rounded (TimeScale.minus world.clock ticket.startedAt) =
      .ok millis)
    (hfound : Finds (config.pollAt ticket world.sent) image)
    (hserves : ∀ sent request, (config.backend sent request).body? ≠ none)
    (hworks : world.disk.Works) {records : List RunRecord}
    (hreads : HistoryStore.readAll world.disk = .ok records)
    (hname : Disk.admitsName (config.nameOf world image) = true) :
    ∃ content after later viewUrl proxyUrl, config.check ticket world =
        (.ok (.done later (TimeScale.minus world.clock ticket.startedAt)
          ⟨image, viewUrl, proxyUrl, some (HistoryStore.recordOf (config.stampOf world)
            (some image.filename) ticket.metadata.toFields)⟩), after) ∧
      config.Stores ticket image content world after ∧
      (config.saveOf ticket image content world).answer = .ok (HistoryStore.recordOf
        (config.stampOf world) (some image.filename) ticket.metadata.toFields) ∧
      (config.saveOf ticket image content world).disk.Works := by
  obtain ⟨answer, asked, after, later, hcheck, hasked, hsettles, -, hanswer⟩ :=
    check_of_image hwithin hround hfound
  obtain ⟨record, rfl⟩ : ∃ record, answer = .ok (.done later
      (TimeScale.minus world.clock ticket.startedAt)
      ⟨image, image.viewUrl ticket.baseUrl, config.proxyUrl ticket.baseUrl image, record⟩) := by
    obtain hdone | ⟨failure, hfailure, -⟩ := hanswer
    · exact hdone
    · rw [hreads] at hfailure
      cases hfailure
  obtain ⟨-, hnone⟩ | ⟨found, content, hstores, hdone, -⟩ := check_outcome hcheck
  · -- something was asked, and the last reply had a body
    obtain ⟨tries, hsent⟩ := hsettles.sent
    have hsome : after.sent ≠ [] := by
      rw [hsent]
      obtain rfl | rfl := hasked
      · simp
      · simp [Client.pollRequests]
    exact absurd (hnone _ _ rfl rfl).2 (Backend.lastBody?_ne_none hserves hsome)
  · obtain ⟨_, _, _, _, hstatus⟩ := hdone _ rfl
    simp only [RunStatus.done.injEq, RunResult.mk.injEq] at hstatus
    obtain ⟨-, -, rfl, -, -, rfl⟩ := hstatus
    obtain ⟨tried, happend⟩ := HistoryStore.append_of_admitted config.patience hworks hreads hname
      content ticket.metadata.toFields
    have hsaved : (config.saveOf ticket image content world).answer = .ok
        (HistoryStore.recordOf (config.stampOf world) (some image.filename)
          ticket.metadata.toFields) := by
      unfold saveOf
      rw [happend]
    rw [hsaved] at hcheck
    refine ⟨content, after, later, _, _, hcheck, hstores, hsaved, ?_⟩
    unfold saveOf
    rw [happend]
    exact hworks

/-- A poll leaves a directory that works as one that works. -/
theorem works_of_check {answer : Except Failure (RunStatus τ)} {after : World τ}
    (h : config.check ticket world = (answer, after)) (hworks : world.disk.Works) :
    after.disk.Works := by
  obtain ⟨hrests, -⟩ | ⟨image, content, hstores, -, -⟩ := check_outcome h
  · rw [hrests.disk]
    exact hworks
  · rw [hstores.disk]
    unfold saveOf
    obtain ⟨records, -, -, tried, hdisk⟩ | ⟨-, artifacts, tried, hdisk, -⟩ :=
      HistoryStore.append_outcome config.patience world.disk (config.stampOf world) content
        (some image.filename) ticket.metadata.toFields
    · rw [hdisk]
      exact hworks
    · rw [hdisk]
      exact hworks

end RunConfig

end RenderRelay
