import RenderRelay.Proofs.Run.Submit

/-! # What a poll records

* `World.Rests` says that the clock, the data directory and the draws are as they were; submitting
  a run and asking the backend leave the world so (`RunConfig.submit_rests`).
* `RunConfig.ticket_of_submit`: the ticket of an accepted request, field by field.
* `Client.download_body`: the bytes of an image are the body of the backend's last response.
* `RunConfig.saveOf` is the one change that a poll makes to the data directory, and
  `RunConfig.check_outcome` says when a poll makes it and what it answers then.
* `RunConfig.record_of_check`, `record_of_wait`: a record is made of the image that was found and
  of the metadata of the ticket. -/

namespace RenderRelay

/-! ### What stays -/

/-- The clock, the data directory and the draws are as they were. -/
structure World.Rests {τ : Type} (before after : World τ) : Prop where
  clock : after.clock = before.clock
  disk : after.disk = before.disk
  drawn : after.drawn = before.drawn

namespace World.Rests

variable {τ : Type} {world middle after : World τ}

theorem refl (world : World τ) : world.Rests world := ⟨rfl, rfl, rfl⟩

theorem trans (h : world.Rests middle) (h' : middle.Rests after) : world.Rests after :=
  ⟨h'.clock.trans h.clock, h'.disk.trans h.disk, h'.drawn.trans h.drawn⟩

end World.Rests

namespace Act

variable {τ α β : Type}

/-- A step that leaves clock, directory and draws alone, whatever it answers. -/
def Rests (act : Act τ α) : Prop := ∀ world : World τ, world.Rests (act world).2

theorem rests_pure (value : α) : Rests (pure value : Act τ α) := fun world => .refl world

theorem rests_ofExcept (value : Except Failure α) : Rests (ofExcept value : Act τ α) :=
  fun world => .refl world

theorem rests_clock : Rests (clock : Act τ τ) := fun world => .refl world

theorem rests_exchange (exchange : Exchange α) : Rests (Act.exchange exchange : Act τ α) :=
  fun _ => ⟨rfl, rfl, rfl⟩

/-- Reading the directory. -/
theorem rests_read (read : Disk → Except Failure α) :
    Rests (store fun disk => .pure (read disk) disk : Act τ α) := fun _ => ⟨rfl, rfl, rfl⟩

theorem Rests.of_eq {act : Act τ α} (h : act.Rests) {world after : World τ}
    {answer : Except Failure α} (hact : act world = (answer, after)) : world.Rests after := by
  have hrests := h world
  rwa [hact] at hrests

theorem Rests.attempt {act : Act τ α} (h : act.Rests) : act.attempt.Rests := h

theorem Rests.bind {act : Act τ α} {next : α → Act τ β} (h : act.Rests)
    (hnext : ∀ value, (next value).Rests) : (act >>= next).Rests := by
  intro world
  have hfirst := h world
  generalize hact : act world = called at hfirst
  obtain ⟨answer, middle⟩ := called
  cases answer with
  | error failure =>
      rw [bind_error hact]
      exact hfirst
  | ok value =>
      rw [bind_ok hact]
      exact hfirst.trans (hnext value middle)

end Act

/-! ### Submitting -/

namespace RunConfig

section Submitting

variable {τ : Type} {config : RunConfig τ} {request : RunRequest} {world after : World τ}

theorem uploadImage_rests (client : Client) (image : Option InputImage) (graph : Graph) :
    (config.uploadImage client image graph).Rests := by
  unfold uploadImage
  cases image with
  | none => exact Act.rests_pure _
  | some image => exact (Act.rests_exchange _).bind fun _ => Act.rests_pure _

/-- Submitting a run leaves clock, directory and draws alone, accepted or not. -/
theorem submit_rests : (config.submit request).Rests :=
  (Act.rests_ofExcept _).bind fun _ => (Act.rests_read _).bind fun _ =>
    (Act.rests_ofExcept _).bind fun _ => (uploadImage_rests _ _ _).bind fun _ =>
      (Act.rests_ofExcept _).bind fun _ => (Act.rests_exchange _).bind fun _ =>
        Act.rests_clock.bind fun _ => Act.rests_pure _

/-- The ticket of an accepted request says what was checked, found and chosen for it, and when it
was accepted. -/
theorem ticket_of_submit {ticket : RunTicket τ}
    (h : config.submit request world = (.ok ticket, after)) :
    ∃ checked workflow inputFilename seed jobId summary warnings,
      request.check = .ok checked ∧ chooseSeedOf config.drawnSeed request.seed = .ok seed ∧
      ticket = ⟨jobId, checked.baseUrl, world.clock, .str config.clientId,
        checked.parameters workflow inputFilename seed, some summary, warnings, .null, .null⟩ := by
  unfold submit at h
  obtain ⟨checked, first, hchecked, h⟩ := exists_of_bind h
  obtain ⟨workflow, second, hworkflow, h⟩ := exists_of_bind h
  obtain ⟨stored, third, hstored, h⟩ := exists_of_bind h
  obtain ⟨⟨inputFilename, uploaded⟩, fourth, hupload, h⟩ := exists_of_bind h
  obtain ⟨seed, fifth, hseed, h⟩ := exists_of_bind h
  obtain ⟨jobId, sixth, hjob, h⟩ := exists_of_bind h
  have hentered := (Act.rests_ofExcept _).of_eq hchecked
  have hread := (Act.rests_read _).of_eq hworkflow
  have hprepared := (Act.rests_ofExcept _).of_eq hstored
  have huploaded := (uploadImage_rests _ _ _).of_eq hupload
  have hdrawn := (Act.rests_ofExcept _).of_eq hseed
  have hsubmitted := (Act.rests_exchange _).of_eq hjob
  have hclock : sixth.clock = world.clock :=
    (hentered.trans (hread.trans (hprepared.trans (huploaded.trans
      (hdrawn.trans hsubmitted))))).clock
  cases h
  rw [hclock]
  exact ⟨checked, workflow, inputFilename, seed, jobId, _, _, (Act.eq_of_ofExcept hchecked).1,
    (Act.eq_of_ofExcept hseed).1, rfl⟩

end Submitting

end RunConfig

/-! ### Fetching an image -/

/-- The body of a successful response. -/
def Reply.body? : Reply → Option Bytes
  | .response answered => if answered.isSuccess then some answered.body else none
  | .failure _ => none

/-- The body of the successful response to the last of these requests. -/
def Backend.lastBody? (backend : Backend) (sent : List Request) : Option Bytes :=
  sent.getLast?.bind fun request => (backend sent.dropLast request).body?

theorem Backend.lastBody?_concat (backend : Backend) (earlier : List Request) (request : Request) :
    backend.lastBody? (earlier ++ [request]) = (backend earlier request).body? := by
  unfold lastBody?
  rw [List.getLast?_concat, List.dropLast_concat]
  rfl

/-- A backend that serves every request has served the last one. -/
theorem Backend.lastBody?_ne_none {backend : Backend}
    (hserves : ∀ sent request, (backend sent request).body? ≠ none) {sent : List Request}
    (hne : sent ≠ []) : backend.lastBody? sent ≠ none := by
  rw [← List.dropLast_concat_getLast hne, Backend.lastBody?_concat]
  exact hserves _ _

namespace Client

variable (client : Client) (backend : Backend) (image : ImageRef)

/-- An attempt is one request, and has a value if the backend responds. -/
theorem viewOnce_sent (traffic : Traffic) :
    (client.viewOnce backend image.viewParams traffic).2.sent =
        traffic.sent ++ [client.viewRequest image] ∧
      ∀ response, (client.viewOnce backend image.viewParams traffic).1 = .value response ↔
        backend traffic.sent (client.viewRequest image) = .response response := by
  unfold viewOnce call Traffic.send viewRequest
  cases backend traffic.sent (client.request .get "/view" image.viewParams .none) with
  | response answered => simp
  | failure failure => simp

/-- What comes of asking for an image is what came back for the last request. -/
theorem fetchView_last (traffic : Traffic) : ∃ earlier,
    (client.fetchView backend image.viewParams traffic).2.sent =
        earlier ++ [client.viewRequest image] ∧
      ∀ response, (client.fetchView backend image.viewParams traffic).1 = .ok response ↔
        backend earlier (client.viewRequest image) = .response response := by
  obtain ⟨last, hstate, hvalue⟩ := retryFrom_last client.patience client.share
    (client.viewOnce backend image.viewParams) (client.patience.limit - 1) 1 traffic
  obtain ⟨hsent, hreply⟩ := client.viewOnce_sent backend image last
  unfold fetchView retry
  generalize retryFrom client.patience client.share (client.viewOnce backend image.viewParams)
    (client.patience.limit - 1) 1 traffic = retried at hstate hvalue
  obtain ⟨outcome, waits, state⟩ := retried
  refine ⟨last.sent, ?_, fun response => ?_⟩
  · rw [← hsent, hstate]
  · rw [← hreply response, ← hvalue response]
    cases outcome with
    | value answered => simp
    | failed fault => simp
    | exhausted fault => simp

variable {client backend image}

/-- The bytes of an image are the body of the last response, to a request for the image. -/
theorem download_body {traffic after : Traffic} {answer : Except Failure Bytes}
    (h : client.download backend image traffic = (answer, after)) :
    after.sent.getLast? = some (client.viewRequest image) ∧
      backend.lastBody? after.sent = answer.toOption := by
  obtain ⟨earlier, hsent, hreply⟩ := client.fetchView_last backend image traffic
  unfold download at h
  generalize hview : client.fetchView backend image.viewParams traffic = viewed at hsent hreply
  obtain ⟨viewAnswer, viewAfter⟩ := viewed
  cases viewAnswer with
  | error failure =>
      rw [bind_error hview] at h
      cases h
      rw [hsent, List.getLast?_concat, Backend.lastBody?_concat]
      refine ⟨rfl, ?_⟩
      cases hlast : backend earlier (client.viewRequest image) with
      | response answered => cases (hreply answered).mpr hlast
      | failure failure => rfl
  | ok response =>
      rw [bind_ok hview] at h
      have hlast := (hreply response).mp rfl
      split_ifs at h with hsuccess
      · cases h
        rw [hsent, List.getLast?_concat, Backend.lastBody?_concat, hlast]
        exact ⟨rfl, if_pos hsuccess⟩
      · cases h
        rw [hsent, List.getLast?_concat, Backend.lastBody?_concat, hlast]
        exact ⟨rfl, if_neg hsuccess⟩

end Client

namespace RunConfig

section Fetching

variable {τ : Type} {config : RunConfig τ} {world after : World τ}

theorem fetchImage_rests (client : Client) (image : ImageRef) :
    (config.fetchImage client image).Rests := by
  unfold fetchImage
  refine (Act.rests_exchange _).attempt.bind fun answer => ?_
  cases answer with
  | ok content => exact Act.rests_pure _
  | error failure =>
      cases failure with
      | fault fault => exact Act.rests_pure _
      | _ => exact Act.rests_ofExcept (.error _)

/-- What was fetched, if anything, is the body of the last response. -/
theorem fetchImage_body {client : Client} {image : ImageRef} {content : Option Bytes}
    (h : config.fetchImage client image world = (.ok content, after)) :
    after.sent.getLast? = some (client.viewRequest image) ∧
      config.backend.lastBody? after.sent = content := by
  unfold fetchImage at h
  obtain ⟨answer, middle, hexchange, h⟩ := exists_of_bind h
  have hdownload := Act.eq_of_attempt hexchange
  unfold Act.exchange at hdownload
  generalize hcalled : client.download config.backend image ⟨world.sent, []⟩ = called at hdownload
  obtain ⟨downloaded, traffic⟩ := called
  cases hdownload
  obtain ⟨hlast, hbody⟩ := client.download_body hcalled
  cases answer with
  | error failure =>
      cases failure with
      | fault fault =>
          cases h
          exact ⟨hlast, hbody⟩
      | _ => cases h
  | ok downloaded =>
      cases h
      exact ⟨hlast, hbody⟩

end Fetching

end RunConfig

/-! ### Storing an image -/

/-- The image of a run that is done. -/
def RunStatus.result? {τ : Type} : RunStatus τ → Option RunResult
  | .done _ _ result => some result
  | _ => none

namespace RunConfig

section Recording

variable {τ : Type} [TimeScale τ] {config : RunConfig τ} {ticket : RunTicket τ}
  {world after : World τ}

/-- The ids that the next record draws, and its time. -/
def stampOf (config : RunConfig τ) (world : World τ) : HistoryStore.Stamp :=
  ⟨config.newId (world.drawn + 1), config.newId (world.drawn + 2), TimeScale.stamp world.clock⟩

/-- Storing an image of a run. -/
def saveOf (config : RunConfig τ) (ticket : RunTicket τ) (image : ImageRef) (content : Bytes)
    (world : World τ) : Stored RunRecord :=
  HistoryStore.append config.patience (config.stampOf world) content (some image.filename)
    ticket.metadata.toFields world.disk

theorem saveOf_of_rests (h : world.Rests after) (ticket : RunTicket τ) (image : ImageRef)
    (content : Bytes) : config.saveOf ticket image content after =
      config.saveOf ticket image content world := by
  unfold saveOf stampOf
  rw [h.clock, h.disk, h.drawn]

/-- What a poll that stores an image leaves behind: two more draws, the directory with the image
and its record if that went well, and as its last exchange with the backend the download. -/
structure Stores (config : RunConfig τ) (ticket : RunTicket τ) (image : ImageRef)
    (content : Bytes) (before after : World τ) : Prop where
  clock : after.clock = before.clock
  disk : after.disk = (config.saveOf ticket image content before).disk
  drawn : after.drawn = before.drawn + 2
  asked : ∃ asked, after.sent = before.sent ++ asked ∧
    asked.getLast? = some ((config.client ticket.baseUrl).viewRequest image)
  body : config.backend.lastBody? after.sent = some content

/-- Storing an image answers the record, or none if that failed. -/
theorem recordImage_outcome {image : ImageRef} {content : Bytes}
    {answer : Except Failure (Option RunRecord)}
    (h : config.recordImage ticket image content world = (answer, after)) :
    after.clock = world.clock ∧ after.sent = world.sent ∧ after.drawn = world.drawn + 2 ∧
      after.disk = (config.saveOf ticket image content world).disk ∧
      (∀ record, answer = .ok record →
        record = (config.saveOf ticket image content world).answer.toOption) ∧
      ∀ record, (config.saveOf ticket image content world).answer = .ok record →
        answer = .ok (some record) := by
  unfold recordImage at h
  rw [bind_ok (Act.drawId_apply world config), bind_ok (Act.drawId_apply _ config),
    bind_ok (Act.clock_apply _)] at h
  unfold saveOf stampOf
  dsimp only at h ⊢
  generalize hstored : HistoryStore.append config.patience
    ⟨config.newId (world.drawn + 1), config.newId (world.drawn + 2), TimeScale.stamp world.clock⟩
    content (some image.filename) ticket.metadata.toFields = store at h
  rw [bind_ok (Act.attempt_apply _ (Act.store_apply _ store))] at h
  dsimp only at h
  generalize store world.disk = stored at h
  obtain ⟨outcome, waits, disk⟩ := stored
  cases outcome with
  | ok record =>
      cases h
      refine ⟨rfl, rfl, rfl, rfl, ?_, ?_⟩
      · rintro _ ⟨⟩
        rfl
      · rintro _ ⟨⟩
        rfl
  | error failure =>
      have hnone : ∀ record, answer = .ok record → record = none := by
        intro record hrecord
        rw [hrecord] at h
        cases failure <;> cases h <;> rfl
      have hafter : after = ⟨world.clock, disk, world.sent,
          world.pauses ++ waits.map Pause.attempt, world.drawn + 2⟩ := by
        cases failure <;> cases h <;> rfl
      rw [hafter]
      exact ⟨rfl, rfl, rfl, rfl, hnone, nofun⟩

/-- The last step of a run that is done fails only if its time cannot be rounded. -/
theorem rounded_then {elapsed : τ} {status : RunStatus τ} {middle : World τ}
    {answer : Except Failure (RunStatus τ)}
    (h : (Act.ofExcept (TimeScale.rounded elapsed) >>= fun _ => pure status) middle =
      (answer, after)) :
    after = middle ∧ (∀ answered, answer = .ok answered → answered = status) ∧
      ((∃ millis, TimeScale.rounded elapsed = .ok millis) → answer = .ok status) := by
  cases hround : TimeScale.rounded elapsed with
  | error failure =>
      rw [hround, bind_error (Act.ofExcept_apply middle _)] at h
      cases h
      refine ⟨rfl, ?_, nofun⟩
      intro answered hanswered
      cases hanswered
  | ok millis =>
      rw [hround, bind_ok (Act.ofExcept_apply middle _)] at h
      cases h
      refine ⟨rfl, ?_, fun _ => rfl⟩
      rintro _ ⟨⟩
      rfl

/-- A run whose image is found ends without a record, and with nothing changed, if no image came;
otherwise the image is stored, and the run ends with the record if there is one. -/
theorem complete_outcome {client : Client} {image : ImageRef} {elapsed : τ}
    {answer : Except Failure (RunStatus τ)}
    (h : config.complete client ticket image elapsed world = (answer, after)) :
    (∃ more, after.sent = world.sent ++ more) ∧
    (world.Rests after ∧ config.backend.lastBody? after.sent = none ∧
      (∀ status, answer = .ok status → status = .done ticket elapsed
        ⟨image, image.viewUrl ticket.baseUrl, config.proxyUrl ticket.baseUrl image, none⟩) ∨
    ∃ content, after.clock = world.clock ∧ after.drawn = world.drawn + 2 ∧
      after.disk = (config.saveOf ticket image content world).disk ∧
      after.sent.getLast? = some (client.viewRequest image) ∧
      config.backend.lastBody? after.sent = some content ∧
      (∀ status, answer = .ok status → status = .done ticket elapsed
        ⟨image, image.viewUrl ticket.baseUrl, config.proxyUrl ticket.baseUrl image,
          (config.saveOf ticket image content world).answer.toOption⟩) ∧
      ∀ record, (config.saveOf ticket image content world).answer = .ok record →
        (∃ millis, TimeScale.rounded elapsed = .ok millis) → ∃ status, answer = .ok status) := by
  obtain ⟨content, fetched, hfetch, hsettles, -⟩ := config.fetchImage_settles client image world
  obtain ⟨tries, hsent⟩ := hsettles.sent
  have hrests := (fetchImage_rests client image).of_eq hfetch
  unfold complete at h
  obtain ⟨hlast, hbody⟩ := fetchImage_body hfetch
  rw [bind_ok hfetch] at h
  cases content with
  | none =>
      obtain ⟨rfl, hanswer, -⟩ := rounded_then h
      exact ⟨⟨_, hsent⟩, Or.inl ⟨hrests, hbody, hanswer⟩⟩
  | some content =>
      dsimp only at h
      generalize hrecord : config.recordImage ticket image content fetched = called at h
      obtain ⟨recorded, saved⟩ := called
      obtain ⟨hclock, hsame, hdrawn, hdisk, hrecorded, hkept⟩ := recordImage_outcome hrecord
      rw [saveOf_of_rests hrests] at hdisk hrecorded hkept
      have hafter : after = saved ∧
          (∀ status, answer = .ok status → status = .done ticket elapsed
            ⟨image, image.viewUrl ticket.baseUrl, config.proxyUrl ticket.baseUrl image,
              (config.saveOf ticket image content world).answer.toOption⟩) ∧
          ∀ record, (config.saveOf ticket image content world).answer = .ok record →
            (∃ millis, TimeScale.rounded elapsed = .ok millis) →
              ∃ status, answer = .ok status := by
        cases recorded with
        | error failure =>
            rw [bind_error hrecord] at h
            cases h
            refine ⟨rfl, ?_, ?_⟩
            · intro status hstatus
              cases hstatus
            · intro record hsaved
              cases hkept record hsaved
        | ok record =>
            rw [bind_ok hrecord] at h
            obtain ⟨rfl, hanswer, hrounds⟩ := rounded_then h
            rw [← hrecorded record rfl]
            exact ⟨rfl, hanswer, fun _ _ hround => ⟨_, hrounds hround⟩⟩
      obtain ⟨rfl, hanswer, hrounds⟩ := hafter
      refine ⟨⟨_, hsame.trans hsent⟩, Or.inr ⟨content, hclock.trans hrests.clock,
        hdrawn.trans (congrArg (· + 2) hrests.drawn), hdisk, ?_, ?_, hanswer, hrounds⟩⟩
      · rw [hsame]
        exact hlast
      · rw [hsame]
        exact hbody

/-- A poll leaves clock, directory and draws alone, and an image that it answers did not come; or
it stores the image that it has found and downloaded, and answers its record if there is one. -/
theorem check_outcome {answer : Except Failure (RunStatus τ)}
    (h : config.check ticket world = (answer, after)) :
    world.Rests after ∧ (∀ status result, answer = .ok status → status.result? = some result →
      result.record = none ∧ config.backend.lastBody? after.sent = none) ∨
    ∃ image content, config.Stores ticket image content world after ∧
      (∀ status, answer = .ok status → ∃ later elapsed viewUrl proxyUrl,
        status = .done later elapsed ⟨image, viewUrl, proxyUrl,
          (config.saveOf ticket image content world).answer.toOption⟩) ∧
      ∀ record, (config.saveOf ticket image content world).answer = .ok record →
        (∃ millis, TimeScale.rounded (TimeScale.minus world.clock ticket.startedAt) =
          .ok millis) → ∃ status, answer = .ok status := by
  by_cases hwithin : config.Within ticket world.clock
  · obtain ⟨asked, hexchange, hasked, -⟩ := config.exchange_poll ticket world
    rw [check_of_within hwithin] at h
    cases hpoll : config.pollAt ticket world.sent with
    | error failure =>
        rw [hpoll] at hexchange
        rw [bind_error hexchange] at h
        cases h
        refine Or.inl ⟨⟨rfl, rfl, rfl⟩, ?_⟩
        intro status result hstatus
        cases hstatus
    | ok snapshot =>
        rw [hpoll] at hexchange
        rw [bind_ok hexchange] at h
        cases himage : snapshot.image with
        | none =>
            rw [himage] at h
            cases h
            refine Or.inl ⟨⟨rfl, rfl, rfl⟩, ?_⟩
            rintro _ result ⟨⟩ hresult
            cases hresult
        | some image =>
            rw [himage] at h
            obtain ⟨⟨more, hmore⟩, houtcome⟩ := complete_outcome h
            obtain ⟨hrests, hbody, hanswer⟩ | ⟨content, hclock, hdrawn, hdisk, hlast, hbody,
              hanswer, hrounds⟩ := houtcome
            · refine Or.inl ⟨⟨hrests.clock, hrests.disk, hrests.drawn⟩, ?_⟩
              intro status result hstatus hresult
              rw [hanswer status hstatus] at hresult
              rw [← Option.some.inj hresult]
              exact ⟨rfl, hbody⟩
            · have hown : (asked ++ more).getLast? =
                  some ((config.client ticket.baseUrl).viewRequest image) := by
                have hne : asked ++ more ≠ [] := by
                  obtain rfl | rfl := hasked
                  · exact List.cons_ne_nil _ _
                  · exact List.cons_ne_nil _ _
                rw [hmore, List.append_assoc, List.getLast?_append_of_ne_nil _ hne] at hlast
                exact hlast
              have hsent : after.sent = world.sent ++ (asked ++ more) := by
                rw [hmore, List.append_assoc]
              refine Or.inr ⟨image, content, ⟨hclock, hdisk, hdrawn, ⟨_, hsent, hown⟩, hbody⟩, ?_,
                hrounds⟩
              intro status hstatus
              exact ⟨_, _, _, _, hanswer status hstatus⟩
  · rw [check_of_exceeds hwithin] at h
    cases h
    refine Or.inl ⟨.refl world, ?_⟩
    intro status result hstatus hresult
    cases hround : TimeScale.rounded (TimeScale.minus world.clock ticket.startedAt) with
    | error failure =>
        rw [hround] at hstatus
        cases hstatus
    | ok millis =>
        rw [hround] at hstatus
        cases hstatus
        cases hresult

/-- A run whose image is found ends with its ticket. -/
theorem done_of_complete {client : Client} {image : ImageRef} {elapsed : τ}
    {status : RunStatus τ}
    (h : config.complete client ticket image elapsed world = (.ok status, after)) :
    ∃ result, status = .done ticket elapsed result := by
  unfold complete at h
  obtain ⟨content, fetched, -, h⟩ := exists_of_bind h
  cases content with
  | none =>
      obtain ⟨record, saved, -, h⟩ := exists_of_bind h
      obtain ⟨millis, last, -, h⟩ := exists_of_bind h
      cases h
      exact ⟨_, rfl⟩
  | some content =>
      obtain ⟨record, saved, -, h⟩ := exists_of_bind h
      obtain ⟨millis, last, -, h⟩ := exists_of_bind h
      cases h
      exact ⟨_, rfl⟩

/-- A poll leaves the start of the run as it is. -/
theorem startedAt_of_check {status : RunStatus τ}
    (h : config.check ticket world = (.ok status, after)) {later : RunTicket τ}
    (hlater : status.ticket? = some later) : later.startedAt = ticket.startedAt := by
  unfold check at h
  obtain ⟨now, first, -, h⟩ := exists_of_bind h
  dsimp only at h
  split_ifs at h
  · obtain ⟨millis, second, -, h⟩ := exists_of_bind h
    cases h
    rw [← Option.some.inj hlater]
  · obtain ⟨snapshot, second, -, h⟩ := exists_of_bind h
    cases himage : snapshot.image with
    | none =>
        rw [himage] at h
        cases h
        rw [← Option.some.inj hlater]
        rfl
    | some image =>
        rw [himage] at h
        obtain ⟨result, rfl⟩ := done_of_complete h
        rw [← Option.some.inj hlater]
        rfl

/-! ### Records -/

/-- A record that a poll answers is made of its image and of the metadata of the ticket. -/
theorem record_of_check {status : RunStatus τ} {result : RunResult} {record : RunRecord}
    (h : config.check ticket world = (.ok status, after)) (hresult : status.result? = some result)
    (hrecord : result.record = some record) : ∃ stamp,
      record = HistoryStore.recordOf stamp (some result.image.filename)
        ticket.metadata.toFields := by
  obtain ⟨-, hnone⟩ | ⟨image, content, -, hanswer, -⟩ := check_outcome h
  · rw [(hnone status result rfl hresult).1] at hrecord
    cases hrecord
  · obtain ⟨later, elapsed, viewUrl, proxyUrl, rfl⟩ := hanswer status rfl
    obtain rfl := Option.some.inj hresult
    have hsaved : (config.saveOf ticket image content world).answer = .ok record :=
      eq_ok_of_toOption hrecord
    exact ⟨config.stampOf world, HistoryStore.record_of_append hsaved⟩

/-- A record that a wait answers is made of its image and of the metadata of the ticket. -/
theorem record_of_waitFor : ∀ (fuel : Nat) {ticket : RunTicket τ} {world : World τ}
    {status : RunStatus τ} {result : RunResult} {record : RunRecord},
    config.waitFor fuel ticket world = (.ok status, after) → status.result? = some result →
      result.record = some record → ∃ stamp,
        record = HistoryStore.recordOf stamp (some result.image.filename)
          ticket.metadata.toFields := by
  intro fuel
  induction fuel with
  | zero => exact fun h => record_of_check h
  | succ fuel ih =>
      intro ticket world status result record h hresult hrecord
      unfold waitFor at h
      obtain ⟨polled, middle, hpolled, h⟩ := exists_of_bind h
      cases polled with
      | polling later elapsed =>
          obtain ⟨_, _, -, h⟩ := exists_of_bind h
          rw [← (keeps_of_check hpolled).ticket later rfl]
          exact ih h hresult hrecord
      | _ =>
          cases h
          exact record_of_check hpolled hresult hrecord

theorem record_of_wait {status : RunStatus τ} {result : RunResult} {record : RunRecord}
    (h : config.wait ticket world = (.ok status, after)) (hresult : status.result? = some result)
    (hrecord : result.record = some record) : ∃ stamp,
      record = HistoryStore.recordOf stamp (some result.image.filename)
        ticket.metadata.toFields := by
  unfold wait at h
  obtain ⟨now, middle, -, h⟩ := exists_of_bind h
  exact record_of_waitFor _ h hresult hrecord

end Recording

end RunConfig

end RenderRelay
