import RenderRelay.Proofs.Store.History
import RenderRelay.Run.Poll

/-! # One poll

What one call of `check` answers and what it leaves behind.

* `Client.fetchStatus_apply`: a poll asks for the job's own history, and for the whole one
  unless the first already has an image; a poll that finds no image has asked for both.
* `RunConfig.check_of_exceeds`, `check_of_open`, `check_of_unreadable`: the steps of a run that
  is not done.
* `RunConfig.check_of_image`: a poll that finds an image ends the run.  Fetching the image may
  take more requests and storing it may take waits between attempts, but neither moves the
  clock, and only an unreadable history file takes the answer away. -/

namespace RenderRelay

/-! ### Steps in sequence -/

section Steps

variable {σ ε α β : Type} {act : ExceptT ε (StateM σ) α} {next : α → ExceptT ε (StateM σ) β}
  {state after : σ}

theorem bind_ok {value : α} (h : act state = (.ok value, after)) :
    (act >>= next) state = next value after := by
  change (match act state with | (answer, after) => (ExceptT.bindCont next answer) after) = _
  rw [h]
  rfl

theorem bind_error {error : ε} (h : act state = (.error error, after)) :
    (act >>= next) state = (.error error, after) := by
  change (match act state with | (answer, after) => (ExceptT.bindCont next answer) after) = _
  rw [h]
  rfl

/-- A step that answers has gone through those before it. -/
theorem exists_of_bind {result : β} (h : (act >>= next) state = (.ok result, after)) :
    ∃ value middle, act state = (.ok value, middle) ∧ next value middle = (.ok result, after) := by
  generalize hact : act state = called at h
  obtain ⟨answer, middle⟩ := called
  cases answer with
  | error error =>
      rw [bind_error hact] at h
      cases h
  | ok value =>
      rw [bind_ok hact] at h
      exact ⟨value, middle, rfl, h⟩

/-- Two sequences that begin alike end alike if their rests do. -/
theorem bind_alike {next' : α → ExceptT ε (StateM σ) β}
    {alike : Except ε β × σ → Except ε β × σ → Prop} (hrefl : ∀ last, alike last last)
    (h : ∀ value after, alike (next value after) (next' value after)) :
    alike ((act >>= next) state) ((act >>= next') state) := by
  generalize hact : act state = called
  obtain ⟨answer, middle⟩ := called
  cases answer with
  | error error =>
      rw [bind_error hact, bind_error hact]
      exact hrefl _
  | ok value =>
      rw [bind_ok hact, bind_ok hact]
      exact h value middle

end Steps

namespace Act

variable {τ α : Type} (world : World τ)

theorem clock_apply : clock world = (.ok world.clock, world) := rfl

theorem ofExcept_apply (value : Except Failure α) : ofExcept value world = (value, world) := rfl

theorem drawId_apply (config : RunConfig τ) : drawId config world =
    (.ok (config.newId (world.drawn + 1)), { world with drawn := world.drawn + 1 }) := rfl

theorem pause_apply [TimeScale τ] (seconds : τ) : pause seconds world =
    (.ok (), { world with
      clock := TimeScale.later world.clock seconds
      pauses := world.pauses ++ [.poll seconds] }) := rfl

theorem store_apply (operation : Disk → Stored α) : store operation world =
    ((operation world.disk).answer, { world with
      disk := (operation world.disk).disk
      pauses := world.pauses ++ (operation world.disk).waits.map Pause.attempt }) := rfl

theorem exchange_apply {exchange : Exchange α} {answer : Except Failure α} {sent : List Request}
    {waits : List Double} (h : exchange ⟨world.sent, []⟩ = (answer, ⟨sent, waits⟩)) :
    Act.exchange exchange world = (answer, { world with
      sent := sent
      pauses := world.pauses ++ waits.map Pause.attempt }) := by
  unfold Act.exchange
  rw [h]

theorem attempt_apply {act : Act τ α} {answer : Except Failure α} {after : World τ}
    (h : act world = (answer, after)) : act.attempt world = (.ok answer, after) := by
  unfold attempt
  rw [h]

variable {world} {after : World τ}

theorem eq_of_ofExcept {value : Except Failure α} {result : α}
    (h : ofExcept value world = (.ok result, after)) : value = .ok result ∧ after = world := by
  obtain ⟨hvalue, hafter⟩ := Prod.mk.inj ((ofExcept_apply world value).symm.trans h)
  exact ⟨hvalue, hafter.symm⟩

theorem answer_of_store {operation : Disk → Stored α} {answer : Except Failure α}
    (h : store operation world = (answer, after)) : (operation world.disk).answer = answer :=
  (Prod.mk.inj ((store_apply world operation).symm.trans h)).1

/-- What an exchange with the backend has left behind is what was sent in it. -/
theorem exists_of_exchange {exchange : Exchange α} {answer : Except Failure α}
    (h : Act.exchange exchange world = (answer, after)) :
    ∃ traffic, exchange ⟨world.sent, []⟩ = (answer, traffic) ∧ after.sent = traffic.sent := by
  cases h
  exact ⟨_, rfl, rfl⟩

theorem eq_of_attempt {act : Act τ α} {answer : Except Failure α}
    (h : act.attempt world = (.ok answer, after)) : act world = (answer, after) := by
  unfold attempt at h
  generalize act world = called at h ⊢
  obtain ⟨_, _⟩ := called
  cases h
  rfl

end Act

/-! ### Polling the backend -/

namespace Client

variable (client : Client) (backend : Backend) (jobId : String)

/-- The request for a history. -/
def historyRequest (endpoint : String) : Request := client.request .get endpoint [] .none

/-- The requests of a poll that finds no image: for the job's own history and the whole one. -/
def pollRequests : List Request :=
  [client.historyRequest ("/history/" ++ jobId), client.historyRequest "/history"]

/-- The requests of a poll: the first alone, or both. -/
def IsPoll (asked : List Request) : Prop :=
  asked = [client.historyRequest ("/history/" ++ jobId)] ∨ asked = client.pollRequests jobId

/-- The request for an image. -/
def viewRequest (image : ImageRef) : Request := client.request .get "/view" image.viewParams .none

theorem fetchHistory_asks (endpoint : String) (sent : List Request) :
    ∃ answer, client.fetchHistory backend endpoint ⟨sent, []⟩ =
      (answer, ⟨sent ++ [client.historyRequest endpoint], []⟩) := by
  unfold fetchHistory call Traffic.send
  cases backend sent (client.request .get endpoint [] .none) with
  | response response => exact ⟨_, rfl⟩
  | failure failure => exact ⟨_, rfl⟩

/-- A poll asks for the job's history and perhaps for the whole one; if it finds no image, it has
asked for both. -/
theorem fetchStatus_asks (sent : List Request) :
    ∃ answer asked, client.fetchStatus backend jobId ⟨sent, []⟩ = (answer, ⟨sent ++ asked, []⟩) ∧
      client.IsPoll jobId asked ∧
      ∀ snapshot, answer = .ok snapshot → snapshot.image = none →
        asked = client.pollRequests jobId := by
  obtain ⟨own, hown⟩ := client.fetchHistory_asks backend ("/history/" ++ jobId) sent
  unfold fetchStatus
  cases own with
  | error failure =>
      rw [bind_error hown]
      exact ⟨_, _, rfl, Or.inl rfl, nofun⟩
  | ok history =>
      rw [bind_ok hown]
      cases ImageRef.find? history (some jobId) with
      | some image =>
          refine ⟨_, _, rfl, Or.inl rfl, ?_⟩
          intro snapshot hanswer hnone
          obtain rfl := Except.ok.inj hanswer
          cases hnone
      | none =>
          dsimp only
          obtain ⟨all, hall⟩ := client.fetchHistory_asks backend "/history"
            (sent ++ [client.historyRequest ("/history/" ++ jobId)])
          rw [List.append_assoc] at hall
          cases all with
          | error failure =>
              rw [bind_error hall]
              exact ⟨_, _, rfl, Or.inr rfl, nofun⟩
          | ok fullHistory =>
              rw [bind_ok hall]
              exact ⟨_, _, rfl, Or.inr rfl, fun _ _ _ => rfl⟩

theorem viewOnce_asks (params : Url.Form) (traffic : Traffic) :
    (client.viewOnce backend params traffic).2.sent =
      traffic.sent ++ [client.request .get "/view" params .none] := by
  unfold viewOnce call Traffic.send
  cases backend traffic.sent (client.request .get "/view" params .none) with
  | response response => rfl
  | failure failure => rfl

theorem fetchView_asks (image : ImageRef) (sent : List Request) :
    ∃ answer tries waits, client.fetchView backend image.viewParams ⟨sent, []⟩ =
        (answer, ⟨sent ++ List.replicate tries (client.viewRequest image), waits⟩) ∧
      ∀ failure, answer = .error failure → ∃ fault, failure = .fault fault := by
  have hsent : ∃ tries, (retry client.patience client.share
      (client.viewOnce backend image.viewParams) ⟨sent, []⟩).state.sent =
        sent ++ List.replicate tries (client.viewRequest image) := by
    refine retry_state (P := fun traffic : Traffic => ∃ tries,
      traffic.sent = sent ++ List.replicate tries (client.viewRequest image)) ?_ ⟨0, by simp⟩
    rintro traffic ⟨tries, htries⟩
    refine ⟨tries + 1, ?_⟩
    rw [viewOnce_asks, htries, List.replicate_succ', List.append_assoc]
    rfl
  obtain ⟨tries, htries⟩ := hsent
  unfold fetchView
  dsimp only
  rw [htries]
  refine ⟨_, tries, _, rfl, ?_⟩
  intro failure hfailure
  cases houtcome : (retry client.patience client.share
      (client.viewOnce backend image.viewParams) ⟨sent, []⟩).outcome with
  | value response => simp [houtcome] at hfailure
  | failed fault =>
      simp only [houtcome] at hfailure
      exact ⟨fault, (Except.error.inj hfailure).symm⟩
  | exhausted fault =>
      simp only [houtcome] at hfailure
      exact ⟨fault, (Except.error.inj hfailure).symm⟩

/-- Fetching an image repeats one request; it fails with a fault. -/
theorem download_asks (image : ImageRef) (sent : List Request) :
    ∃ answer tries waits, client.download backend image ⟨sent, []⟩ =
        (answer, ⟨sent ++ List.replicate tries (client.viewRequest image), waits⟩) ∧
      ∀ failure, answer = .error failure → ∃ fault, failure = .fault fault := by
  obtain ⟨answer, tries, waits, hview, herror⟩ := client.fetchView_asks backend image sent
  unfold download
  cases answer with
  | error failure =>
      rw [bind_error hview]
      refine ⟨_, tries, waits, rfl, ?_⟩
      intro other hother
      cases hother
      exact herror failure rfl
  | ok response =>
      rw [bind_ok hview]
      split_ifs with hsuccess
      · refine ⟨.ok response.body, tries, waits, rfl, ?_⟩
        intro failure hfailure
        cases hfailure
      · refine ⟨.error (.fault (client.viewFault image response.status)), tries, waits, rfl, ?_⟩
        intro other hother
        exact ⟨client.viewFault image response.status, (Except.error.inj hother).symm⟩

/-- What a poll after these requests finds. -/
def pollAt (sent : List Request) : Except Failure Snapshot :=
  (client.fetchStatus backend jobId ⟨sent, []⟩).1

/-- A poll fails as reading the body of the job's own history fails. -/
theorem pollAt_of_unreadable {sent : List Request} {response : Response} {failure : Failure}
    (hresponse : backend sent (client.historyRequest ("/history/" ++ jobId)) = .response response)
    (hsuccess : response.isSuccess = true) (hjson : response.json = .error failure) :
    client.pollAt backend jobId sent = .error failure := by
  have hown : client.fetchHistory backend ("/history/" ++ jobId) ⟨sent, []⟩ =
      (.error failure, ⟨sent ++ [client.historyRequest ("/history/" ++ jobId)], []⟩) := by
    unfold historyRequest at hresponse
    unfold fetchHistory call Traffic.send
    simp only [hresponse, hsuccess, if_true, hjson]
    rfl
  unfold pollAt fetchStatus
  rw [bind_error hown]

end Client

/-! ### Ending a run -/

/-- The world after an image was asked for and stored: the clock stands, and only requests for
the image and waits between attempts have come to it. -/
structure World.Settles {τ : Type} (before after : World τ) (view : Request) : Prop where
  clock : after.clock = before.clock
  sent : ∃ tries, after.sent = before.sent ++ List.replicate tries view
  pauses : ∃ waits : List Double, after.pauses = before.pauses ++ waits.map Pause.attempt

namespace World.Settles

variable {τ : Type} {world middle after : World τ} {view : Request}

theorem of_waits (disk : Disk) (waits : List Double) (drawn : Nat) :
    world.Settles ⟨world.clock, disk, world.sent, world.pauses ++ waits.map Pause.attempt, drawn⟩
      view :=
  ⟨rfl, ⟨0, (List.append_nil _).symm⟩, ⟨waits, rfl⟩⟩

theorem trans (h : world.Settles middle view) (h' : middle.Settles after view) :
    world.Settles after view := by
  obtain ⟨hclock, ⟨tries, hsent⟩, ⟨waits, hpauses⟩⟩ := h
  obtain ⟨hclock', ⟨tries', hsent'⟩, ⟨waits', hpauses'⟩⟩ := h'
  refine ⟨hclock'.trans hclock, ⟨tries + tries', ?_⟩, ⟨waits ++ waits', ?_⟩⟩
  · rw [hsent', hsent, List.append_assoc, List.replicate_append_replicate]
  · rw [hpauses', hpauses, List.append_assoc, List.map_append]

end World.Settles

namespace RunConfig

variable {τ : Type} (config : RunConfig τ)

theorem fetchImage_settles (client : Client) (image : ImageRef) (world : World τ) :
    ∃ content after, config.fetchImage client image world = (.ok content, after) ∧
      world.Settles after (client.viewRequest image) ∧ after.disk = world.disk := by
  obtain ⟨answer, tries, waits, hdownload, herror⟩ :=
    client.download_asks config.backend image world.sent
  unfold fetchImage
  rw [bind_ok (Act.attempt_apply world (Act.exchange_apply world hdownload))]
  cases answer with
  | ok content => exact ⟨_, _, rfl, ⟨rfl, ⟨tries, rfl⟩, ⟨waits, rfl⟩⟩, rfl⟩
  | error failure =>
      obtain ⟨fault, rfl⟩ := herror failure rfl
      exact ⟨_, _, rfl, ⟨rfl, ⟨tries, rfl⟩, ⟨waits, rfl⟩⟩, rfl⟩

variable [TimeScale τ]

/-- Storing an image fails only as reading the records fails. -/
theorem recordImage_settles (ticket : RunTicket τ) (image : ImageRef) (content : Bytes)
    (world : World τ) (view : Request) :
    ∃ answer after, config.recordImage ticket image content world = (answer, after) ∧
      world.Settles after view ∧
      ∀ failure, answer = .error failure → HistoryStore.readAll world.disk = .error failure := by
  unfold recordImage
  rw [bind_ok (Act.drawId_apply world config), bind_ok (Act.drawId_apply _ config),
    bind_ok (Act.clock_apply _)]
  dsimp only
  generalize hstamp : (⟨_, _, TimeScale.stamp world.clock⟩ : HistoryStore.Stamp) = stamp
  have hfails := @HistoryStore.append_error config.patience stamp content (some image.filename)
    ticket.metadata.toFields world.disk
  generalize hstored : HistoryStore.append config.patience stamp content (some image.filename)
    ticket.metadata.toFields = store at hfails
  rw [bind_ok (Act.attempt_apply _ (Act.store_apply _ store))]
  dsimp only
  cases hanswer : (store world.disk).answer with
  | ok record =>
      exact ⟨.ok (some record), _, rfl, .of_waits _ _ _, by simp⟩
  | error failure =>
      cases failure with
      | fault fault => exact ⟨.ok none, _, rfl, .of_waits _ _ _, by simp⟩
      | fileAccess => exact ⟨.ok none, _, rfl, .of_waits _ _ _, by simp⟩
      | _ =>
          refine ⟨.error _, _, rfl, .of_waits _ _ _, ?_⟩
          intro other hother
          cases hother
          obtain ⟨fault, hfault⟩ | hread := hfails hanswer
          · cases hfault
          · exact hread

/-- A run whose image is found is done, unless the records cannot be read. -/
theorem complete_settles (client : Client) (ticket : RunTicket τ) (image : ImageRef) {elapsed : τ}
    (hround : ∃ millis, TimeScale.rounded elapsed = .ok millis) (world : World τ) :
    ∃ answer after, config.complete client ticket image elapsed world = (answer, after) ∧
      world.Settles after (client.viewRequest image) ∧
      ((∃ record, answer = .ok (.done ticket elapsed ⟨image, image.viewUrl ticket.baseUrl,
          config.proxyUrl ticket.baseUrl image, record⟩)) ∨
        ∃ failure, HistoryStore.readAll world.disk = .error failure ∧ answer = .error failure) := by
  obtain ⟨millis, hmillis⟩ := hround
  obtain ⟨content, fetched, hfetch, hfetched, hdisk⟩ :=
    config.fetchImage_settles client image world
  unfold complete
  rw [bind_ok hfetch, hmillis]
  cases content with
  | none =>
      refine ⟨_, fetched, rfl, hfetched, Or.inl ⟨none, rfl⟩⟩
  | some content =>
      obtain ⟨answer, after, hrecord, hafter, hfails⟩ :=
        config.recordImage_settles ticket image content fetched (client.viewRequest image)
      dsimp only
      cases answer with
      | ok record =>
          rw [bind_ok hrecord]
          exact ⟨_, after, rfl, hfetched.trans hafter, Or.inl ⟨record, rfl⟩⟩
      | error failure =>
          rw [bind_error hrecord]
          rw [hdisk] at hfails
          exact ⟨_, after, rfl, hfetched.trans hafter, Or.inr ⟨failure, hfails failure rfl, rfl⟩⟩

/-! ### One call of `check` -/

/-- A poll that ends without an image. -/
def LeavesOpen (poll : Except Failure Client.Snapshot) : Prop :=
  ∃ snapshot, poll = .ok snapshot ∧ snapshot.image = none

/-- A poll that finds an image. -/
def Finds (poll : Except Failure Client.Snapshot) (image : ImageRef) : Prop :=
  ∃ snapshot, poll = .ok snapshot ∧ snapshot.image = some image

/-- What the poll of a ticket after these requests finds. -/
def pollAt (ticket : RunTicket τ) (sent : List Request) : Except Failure Client.Snapshot :=
  (config.client ticket.baseUrl).pollAt config.backend ticket.jobId sent

/-- The requests of a poll that leaves the run open. -/
def pollRequests (ticket : RunTicket τ) : List Request :=
  (config.client ticket.baseUrl).pollRequests ticket.jobId

/-- The requests of a poll. -/
def IsPoll (ticket : RunTicket τ) (asked : List Request) : Prop :=
  (config.client ticket.baseUrl).IsPoll ticket.jobId asked

/-- Has the time of a run not passed yet? -/
def Within (ticket : RunTicket τ) (clock : τ) : Prop :=
  TimeScale.exceeds (TimeScale.minus clock ticket.startedAt) config.maxWait = false

omit [TimeScale τ] in
theorem exchange_poll (ticket : RunTicket τ) (world : World τ) :
    ∃ asked, Act.exchange ((config.client ticket.baseUrl).fetchStatus config.backend ticket.jobId)
        world = (config.pollAt ticket world.sent, { world with sent := world.sent ++ asked }) ∧
      config.IsPoll ticket asked ∧
      (LeavesOpen (config.pollAt ticket world.sent) → asked = config.pollRequests ticket) := by
  obtain ⟨answer, asked, hasks, hpoll, hopen⟩ :=
    (config.client ticket.baseUrl).fetchStatus_asks config.backend ticket.jobId world.sent
  have hanswer : config.pollAt ticket world.sent = answer := by
    unfold pollAt Client.pollAt
    rw [hasks]
  refine ⟨asked, ?_, hpoll, ?_⟩
  · rw [Act.exchange_apply world hasks, hanswer, List.map_nil, List.append_nil]
  · rintro ⟨snapshot, hsnapshot, himage⟩
    exact hopen snapshot (hanswer ▸ hsnapshot) himage

variable {config} {ticket : RunTicket τ} {world : World τ}

theorem check_of_within (h : config.Within ticket world.clock) :
    config.check ticket world =
      ((Act.exchange ((config.client ticket.baseUrl).fetchStatus config.backend ticket.jobId)) >>=
        fun snapshot => match snapshot.image with
          | none => pure (.polling (ticket.seen snapshot.history snapshot.fullHistory)
              (TimeScale.minus world.clock ticket.startedAt))
          | some image => config.complete (config.client ticket.baseUrl)
              (ticket.seen snapshot.history snapshot.fullHistory) image
              (TimeScale.minus world.clock ticket.startedAt)) world := by
  have hexceeds : ¬ TimeScale.exceeds (TimeScale.minus world.clock ticket.startedAt)
      config.maxWait = true := by
    simpa [Within] using h
  unfold check
  rw [bind_ok (Act.clock_apply world)]
  exact congrFun (if_neg hexceeds) world

/-- A run whose time is up is not polled. -/
theorem check_of_exceeds (h : ¬ config.Within ticket world.clock) :
    config.check ticket world =
      ((TimeScale.rounded (TimeScale.minus world.clock ticket.startedAt)).map fun millis =>
        .timedOut ticket (TimeScale.minus world.clock ticket.startedAt)
          (timeoutFault ticket millis), world) := by
  unfold check
  rw [bind_ok (Act.clock_apply world)]
  dsimp only
  rw [if_pos (by simpa [Within] using h)]
  cases hround : TimeScale.rounded (TimeScale.minus world.clock ticket.startedAt) with
  | error failure =>
      rw [bind_error (Act.ofExcept_apply world _)]
      rfl
  | ok millis =>
      rw [bind_ok (Act.ofExcept_apply world _)]
      rfl

/-- A poll without an image leaves the run open. -/
theorem check_of_open (h : config.Within ticket world.clock)
    (hopen : LeavesOpen (config.pollAt ticket world.sent)) :
    ∃ history fullHistory, config.check ticket world =
      (.ok (.polling (ticket.seen history fullHistory)
        (TimeScale.minus world.clock ticket.startedAt)),
        { world with sent := world.sent ++ config.pollRequests ticket }) := by
  obtain ⟨asked, hexchange, -, hasked⟩ := config.exchange_poll ticket world
  obtain rfl := hasked hopen
  obtain ⟨snapshot, hsnapshot, himage⟩ := hopen
  refine ⟨snapshot.history, snapshot.fullHistory, ?_⟩
  rw [hsnapshot] at hexchange
  rw [check_of_within h, bind_ok hexchange, himage]
  rfl

/-- A poll that cannot be read ends the run with this failure. -/
theorem check_of_unreadable {failure : Failure} (h : config.Within ticket world.clock)
    (hpoll : config.pollAt ticket world.sent = .error failure) :
    ∃ asked, config.IsPoll ticket asked ∧ config.check ticket world =
      (.error failure, { world with sent := world.sent ++ asked }) := by
  obtain ⟨asked, hexchange, hasked, -⟩ := config.exchange_poll ticket world
  refine ⟨asked, hasked, ?_⟩
  rw [hpoll] at hexchange
  rw [check_of_within h, bind_error hexchange]

/-- A poll that finds an image ends the run: it is done, unless the records cannot be read. -/
theorem check_of_image {image : ImageRef} (h : config.Within ticket world.clock)
    (hround : ∃ millis, TimeScale.rounded (TimeScale.minus world.clock ticket.startedAt) =
      .ok millis)
    (hfound : Finds (config.pollAt ticket world.sent) image) :
    ∃ answer asked after later, config.check ticket world = (answer, after) ∧
      config.IsPoll ticket asked ∧
      ({ world with sent := world.sent ++ asked } : World τ).Settles after
        ((config.client ticket.baseUrl).viewRequest image) ∧
      (∃ history fullHistory, later = ticket.seen history fullHistory) ∧
      ((∃ record, answer = .ok (.done later (TimeScale.minus world.clock ticket.startedAt)
          ⟨image, image.viewUrl ticket.baseUrl, config.proxyUrl ticket.baseUrl image, record⟩)) ∨
        ∃ failure, HistoryStore.readAll world.disk = .error failure ∧ answer = .error failure) := by
  obtain ⟨asked, hexchange, hasked, -⟩ := config.exchange_poll ticket world
  obtain ⟨snapshot, hsnapshot, himage⟩ := hfound
  obtain ⟨answer, after, hcomplete, hsettles, hanswer⟩ :=
    config.complete_settles (config.client ticket.baseUrl)
      (ticket.seen snapshot.history snapshot.fullHistory) image hround
      { world with sent := world.sent ++ asked }
  refine ⟨answer, asked, after, _, ?_, hasked, hsettles, ⟨_, _, rfl⟩, hanswer⟩
  rw [hsnapshot] at hexchange
  rw [check_of_within h, bind_ok hexchange, himage]
  exact hcomplete

end RunConfig

end RenderRelay
