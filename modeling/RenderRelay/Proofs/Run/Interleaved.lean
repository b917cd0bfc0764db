import RenderRelay.Proofs.Run.Saved

/-! # Runs side by side

Any number of runs are submitted and polled on one orchestrator, in any order, and all of them
store their images in one directory.

* `Runs.after` makes steps of the runs one after another and keeps a ledger of the polls that ended
  with an image which came and could be stored (`RunConfig.delivery?`).
* `Runs.Kept` is the invariant: the file holds the records of the ledger before those that it held
  at first, and each delivery was made as `Delivery.Made` says (`Runs.Kept.step`,
  `Runs.Kept.after`).
* `Runs.runs_keep_apart`: the file has gained one record for each such poll, of the ticket of its
  own run and of the image that it downloaded, and the poll has answered it; the image stands under
  the record's name, if the draws differ in the eight digits that go into such names.
* `Runs.images_collide`: two polls at one time whose draws begin with the same eight digits. -/

namespace RenderRelay

open Number

/-! ### Steps of runs -/

/-- A step of one of the runs: a request is submitted, with the draws that are made for it, or a
run is polled. -/
inductive Move (τ : Type) where
  | submit (clock : τ) (request : RunRequest) (clientId : String) (drawnSeed : Int)
  | poll (clock : τ) (run : Nat)

/-- A poll that ended with an image which came and was stored: its run, the ticket that was polled,
what was answered, the bytes that came and the record that storing them made, and what had been sent
to the backend before the poll and after it. -/
structure Delivery (τ : Type) where
  run : Nat
  ticket : RunTicket τ
  result : RunResult
  content : Bytes
  record : RunRecord
  earlier : List Request
  sent : List Request

/-- Runs and what has come of them: the tickets that were answered to the requests, the tickets as
the last polls left them, and the polls whose image was stored, the newest first. -/
structure Runs (τ : Type) where
  world : World τ
  accepted : List (RunTicket τ)
  tickets : List (RunTicket τ)
  delivered : List (Delivery τ)

namespace Move

variable {τ : Type}

/-- When the step is made. -/
def clock : Move τ → τ
  | .submit clock _ _ _ | .poll clock _ => clock

/-- No seed is chosen that is too long for a text: such a seed is in no request that can be
sent. -/
def Spellable : Move τ → Prop
  | .submit _ request _ drawnSeed => ∀ seed, chooseSeedOf drawnSeed request.seed = .ok seed →
      digitCount seed.natAbs ≤ maxDigits
  | .poll _ _ => True

end Move

/-- The ledger's entry of a poll: there is one if the run is done, its image was the body of the
last response, and storing that image made a record. -/
def RunConfig.delivery? {τ : Type} [TimeScale τ] (config : RunConfig τ) (run : Nat)
    (ticket : RunTicket τ) (before after : World τ) (status : RunStatus τ) :
    Option (Delivery τ) := do
  let result ← status.result?
  let content ← config.backend.lastBody? after.sent
  let record ← (config.saveOf ticket result.image content before).answer.toOption
  return ⟨run, ticket, result, content, record, before.sent, after.sent⟩

namespace Runs

variable {τ : Type}

/-- No run has been submitted. -/
def start (world : World τ) : Runs τ := ⟨world, [], [], []⟩

/-- A request is submitted; if it is accepted there is one more run. -/
def submit (config : RunConfig τ) (runs : Runs τ) (clock : τ) (request : RunRequest)
    (clientId : String) (drawnSeed : Int) : Runs τ :=
  match RunConfig.submit { config with clientId := clientId, drawnSeed := drawnSeed } request
      { runs.world with clock := clock } with
  | (.ok ticket, world) =>
      ⟨world, runs.accepted ++ [ticket], runs.tickets ++ [ticket], runs.delivered⟩
  | (.error _, world) => { runs with world := world }

variable [TimeScale τ]

/-- A run is polled with its ticket, which becomes what the poll leaves of it. -/
def poll (config : RunConfig τ) (runs : Runs τ) (clock : τ) (run : Nat) : Runs τ :=
  match runs.tickets[run]? with
  | none => runs
  | some ticket =>
      match config.check ticket { runs.world with clock := clock } with
      | (.ok status, world) =>
          { world := world
            accepted := runs.accepted
            tickets := runs.tickets.set run (status.ticket?.getD ticket)
            delivered := (config.delivery? run ticket { runs.world with clock := clock } world
              status).toList ++ runs.delivered }
      | (.error _, world) => { runs with world := world }

/-- One step. -/
def step (config : RunConfig τ) (runs : Runs τ) : Move τ → Runs τ
  | .submit clock request clientId drawnSeed =>
      runs.submit config clock request clientId drawnSeed
  | .poll clock run => runs.poll config clock run

/-- Steps, one after another. -/
def after (config : RunConfig τ) (runs : Runs τ) (moves : List (Move τ)) : Runs τ :=
  moves.foldl (step config) runs

end Runs

/-! ### The invariant -/

/-- The draws after `start`, up to `finish`, differ in their first eight digits, so that they make
names that differ. -/
def RunConfig.NamesApart {τ : Type} (config : RunConfig τ) (start finish : Nat) : Prop :=
  ∀ m n, start < m → m < n → n ≤ finish →
    HistoryStore.shortId (config.newId m) ≠ HistoryStore.shortId (config.newId n)

/-- A delivery was made with these draws: its record is of the image and of the ticket of its run,
and was answered; its bytes are what the backend sent in answer to the last request of the poll, and
they stand under the record's name unless other draws made the same name. -/
structure Delivery.Made {τ : Type} (config : RunConfig τ) (start : Nat) (runs : Runs τ)
    (delivery : Delivery τ) (stamp : HistoryStore.Stamp) : Prop where
  record_eq : delivery.record = HistoryStore.recordOf stamp (some delivery.result.image.filename)
    delivery.ticket.metadata.toFields
  answered : delivery.result.record = some delivery.record
  own : ∃ ticket, runs.accepted[delivery.run]? = some ticket ∧
    delivery.ticket.metadata = ticket.metadata
  asked : ∃ asked, delivery.sent = delivery.earlier ++ asked ∧ asked.getLast? =
    some ((config.client delivery.ticket.baseUrl).viewRequest delivery.result.image)
  body : config.backend.lastBody? delivery.sent = some delivery.content
  drawn : ∃ draw, start < draw ∧ draw ≤ runs.world.drawn ∧ stamp.nameId = config.newId draw
  stored : config.NamesApart start runs.world.drawn → runs.world.disk.artifact?
    (HistoryStore.storedName stamp (HistoryStore.givenName (some delivery.result.image.filename))) =
      some delivery.content

/-- The time between any two of these readings of the clock can be rounded. -/
def RoundsBetween {τ : Type} [TimeScale τ] (readings : List τ) : Prop :=
  ∀ first ∈ readings, ∀ second ∈ readings, ∃ millis,
    TimeScale.rounded (TimeScale.minus first second) = .ok millis

/-- What no poll changes of a ticket, as far as its record goes. -/
def RunTicket.fixed {τ : Type} (ticket : RunTicket τ) : RunMetadata × τ :=
  (ticket.metadata, ticket.startedAt)

/-- A poll leaves that of the ticket as it is. -/
theorem RunConfig.fixed_of_check {τ : Type} [TimeScale τ] {config : RunConfig τ}
    {ticket : RunTicket τ} {world after : World τ} {status : RunStatus τ}
    (h : config.check ticket world = (.ok status, after)) :
    (status.ticket?.getD ticket).fixed = ticket.fixed := by
  cases hnext : status.ticket? with
  | none => rfl
  | some next => exact Prod.ext ((keeps_of_check h).ticket next hnext) (startedAt_of_check h hnext)

/-- The file holds the records of the ledger before those that it held at first, every delivery was
made as it should be, and every run can still be recorded. -/
structure Runs.Kept {τ : Type} (config : RunConfig τ) (readings : List τ) (origin : World τ)
    (runs : Runs τ) : Prop where
  reads : HistoryStore.readAll runs.world.disk =
    (HistoryStore.readAll origin.disk).map (runs.delivered.map Delivery.record ++ ·)
  made : ∀ delivery ∈ runs.delivered, ∃ stamp, delivery.Made config origin.drawn runs stamp
  same : runs.tickets.map RunTicket.fixed = runs.accepted.map RunTicket.fixed
  started : ∀ ticket ∈ runs.accepted, ticket.startedAt ∈ readings
  spelled : ∀ ticket ∈ runs.accepted, ∃ limit, (Json.obj ticket.metadata.toFields).Spelled limit
  drawn : origin.drawn ≤ runs.world.drawn

namespace Delivery.Made

variable {τ : Type} {config : RunConfig τ} {start : Nat} {runs later : Runs τ}
  {delivery : Delivery τ} {stamp : HistoryStore.Stamp}

/-- A delivery stays as it was made while its image stands under its name. -/
theorem mono (h : delivery.Made config start runs stamp)
    (haccepted : runs.accepted <+: later.accepted) (hdrawn : runs.world.drawn ≤ later.world.drawn)
    (hdisk : config.NamesApart start later.world.drawn → later.world.disk.artifact?
      (HistoryStore.storedName stamp
        (HistoryStore.givenName (some delivery.result.image.filename))) =
          runs.world.disk.artifact? (HistoryStore.storedName stamp
            (HistoryStore.givenName (some delivery.result.image.filename)))) :
    delivery.Made config start later stamp where
  record_eq := h.record_eq
  answered := h.answered
  own := by
    obtain ⟨ticket, hticket, hmetadata⟩ := h.own
    obtain ⟨more, hmore⟩ := haccepted
    refine ⟨ticket, ?_, hmetadata⟩
    have hlt : delivery.run < runs.accepted.length := (List.getElem?_eq_some_iff.mp hticket).1
    rw [← hmore, List.getElem?_append_left hlt, hticket]
  asked := h.asked
  body := h.body
  drawn := by
    obtain ⟨draw, hafter, hupto, hname⟩ := h.drawn
    exact ⟨draw, hafter, hupto.trans hdrawn, hname⟩
  stored hapart := by
    rw [hdisk hapart]
    refine h.stored fun m n hm hmn hn => ?_
    exact hapart m n hm hmn (hn.trans hdrawn)

end Delivery.Made

namespace RunConfig

variable {τ : Type} [TimeScale τ] {config : RunConfig τ} {ticket : RunTicket τ}
  {before after : World τ}

/-- An image that did not come is no delivery. -/
theorem delivery?_of_rests {status : RunStatus τ}
    (h : ∀ result, status.result? = some result →
      result.record = none ∧ config.backend.lastBody? after.sent = none) (run : Nat) :
    config.delivery? run ticket before after status = none := by
  unfold delivery?
  cases hresult : status.result? with
  | none => rfl
  | some result =>
      rw [(h result hresult).2]
      rfl

/-- An image that came is a delivery if storing it made a record. -/
theorem delivery?_of_stores {image : ImageRef} {content : Bytes}
    (h : config.Stores ticket image content before after) (run : Nat) (later : RunTicket τ)
    (elapsed : τ) {result : RunResult} (himage : result.image = image) :
    config.delivery? run ticket before after (.done later elapsed result) =
      (config.saveOf ticket image content before).answer.toOption.map fun record =>
        ⟨run, ticket, result, content, record, before.sent, after.sent⟩ := by
  obtain rfl := himage
  unfold delivery?
  rw [h.body]
  change ((config.saveOf ticket result.image content before).answer.toOption.bind fun record =>
    some (Delivery.mk run ticket result content record before.sent after.sent)) = _
  rw [Option.map_eq_bind]
  rfl

end RunConfig

namespace Runs.Kept

variable {τ : Type} {config : RunConfig τ} {readings : List τ} {origin : World τ}
  {runs later : Runs τ}

theorem of_start : (Runs.start origin).Kept config readings origin where
  reads := by
    change HistoryStore.readAll origin.disk = (HistoryStore.readAll origin.disk).map ([] ++ ·)
    cases HistoryStore.readAll origin.disk with
    | error failure => rfl
    | ok old => rfl
  made := nofun
  same := rfl
  started := nofun
  spelled := nofun
  drawn := Nat.le_refl _

/-- What was delivered stays while directory and draws stay. -/
theorem made_of_rests (h : runs.Kept config readings origin)
    (haccepted : runs.accepted <+: later.accepted) (hdisk : later.world.disk = runs.world.disk)
    (hdrawn : later.world.drawn = runs.world.drawn) :
    ∀ delivery ∈ runs.delivered, ∃ stamp, delivery.Made config origin.drawn later stamp := by
  intro delivery hdelivery
  obtain ⟨stamp, hmade⟩ := h.made delivery hdelivery
  exact ⟨stamp, hmade.mono haccepted hdrawn.ge fun _ => by rw [hdisk]⟩

/-- The ticket of a run says of it what the ticket that was accepted says. -/
theorem exists_accepted (h : runs.Kept config readings origin) {run : Nat} {ticket : RunTicket τ}
    (hticket : runs.tickets[run]? = some ticket) :
    ∃ first, runs.accepted[run]? = some first ∧ ticket.metadata = first.metadata ∧
      ticket.startedAt = first.startedAt := by
  have hsame := congrArg (·[run]?) h.same
  simp only [List.getElem?_map, hticket, Option.map_some] at hsame
  obtain ⟨first, hfirst, hfixed⟩ := Option.map_eq_some_iff.mp hsame.symm
  obtain ⟨hmetadata, hstarted⟩ := Prod.mk.inj hfixed
  exact ⟨first, hfirst, hmetadata.symm, hstarted.symm⟩

theorem same_set (h : runs.Kept config readings origin) {run : Nat} {ticket next : RunTicket τ}
    (hticket : runs.tickets[run]? = some ticket) (hnext : next.fixed = ticket.fixed) :
    (runs.tickets.set run next).map RunTicket.fixed = runs.accepted.map RunTicket.fixed := by
  obtain ⟨hlt, hget⟩ := List.getElem?_eq_some_iff.mp hticket
  rw [List.map_set, hnext, ← hget, ← List.map_set, List.set_getElem_self, h.same]

/-- A step that stores nothing delivers nothing. -/
theorem of_rests (h : runs.Kept config readings origin) {world : World τ}
    {tickets : List (RunTicket τ)} (hdisk : world.disk = runs.world.disk)
    (hdrawn : world.drawn = runs.world.drawn)
    (hsame : tickets.map RunTicket.fixed = runs.accepted.map RunTicket.fixed) :
    (Runs.mk world runs.accepted tickets runs.delivered).Kept config readings origin where
  reads := by
    dsimp only
    rw [hdisk]
    exact h.reads
  made := h.made_of_rests (List.prefix_refl _) hdisk hdrawn
  same := hsame
  started := h.started
  spelled := h.spelled
  drawn := h.drawn.trans hdrawn.ge

/-- An accepted request is one more run that can be recorded, a refused one changes nothing. -/
theorem submit (h : runs.Kept config readings origin) {clock : τ} {request : RunRequest}
    {clientId : String} {drawnSeed : Int} (hclock : clock ∈ readings)
    (hseeds : (Move.submit clock request clientId drawnSeed).Spellable) :
    (runs.submit config clock request clientId drawnSeed).Kept config readings origin := by
  unfold Runs.submit
  generalize hcall : RunConfig.submit { config with clientId := clientId, drawnSeed := drawnSeed }
    request { runs.world with clock := clock } = called
  obtain ⟨answer, world⟩ := called
  have hrests := RunConfig.submit_rests.of_eq hcall
  have hdisk : world.disk = runs.world.disk := hrests.disk
  have hdrawn : world.drawn = runs.world.drawn := hrests.drawn
  have hkept := h.of_rests hdisk hdrawn h.same
  cases answer with
  | error failure => exact hkept
  | ok ticket =>
      have hspelled := RunConfig.spelled_of_submit hcall hseeds
      have hstarted : ticket.startedAt = clock := by
        obtain ⟨-, -, -, -, -, -, -, -, -, rfl⟩ := RunConfig.ticket_of_submit hcall
        rfl
      refine ⟨hkept.reads, h.made_of_rests (List.prefix_append _ _) hdisk hdrawn, ?_, ?_, ?_,
        hkept.drawn⟩
      · dsimp only
        rw [List.map_append, List.map_append, h.same]
      · intro other hother
        obtain hother | hother := List.mem_append.mp hother
        · exact h.started other hother
        · rw [List.mem_singleton.mp hother, hstarted]
          exact hclock
      · intro other hother
        obtain hother | hother := List.mem_append.mp hother
        · exact h.spelled other hother
        · rw [List.mem_singleton.mp hother]
          exact hspelled

variable [TimeScale τ]

section Storing

variable {clock : τ} {ticket : RunTicket τ} {image : ImageRef} {content : Bytes} {world : World τ}
  {tickets : List (RunTicket τ)} {result : RunResult}

/-- What was delivered stays when another image is stored, if the draws make names that differ. -/
theorem made_of_stores (h : runs.Kept config readings origin)
    (haccepted : runs.accepted <+: later.accepted)
    (hstores : config.Stores ticket image content { runs.world with clock := clock } later.world) :
    ∀ delivery ∈ runs.delivered, ∃ stamp, delivery.Made config origin.drawn later stamp := by
  intro delivery hdelivery
  obtain ⟨stamp, hmade⟩ := h.made delivery hdelivery
  have hdrawn : later.world.drawn = runs.world.drawn + 2 := hstores.drawn
  refine ⟨stamp, hmade.mono haccepted (hdrawn ▸ Nat.le_add_right _ 2) fun hapart => ?_⟩
  obtain ⟨draw, hafter, hupto, hname⟩ := hmade.drawn
  have hne : HistoryStore.storedName stamp
      (HistoryStore.givenName (some delivery.result.image.filename)) ≠
        config.nameOf { runs.world with clock := clock } image := by
    intro heq
    have hshort := HistoryStore.shortId_eq_of_storedName_eq heq
    rw [hname] at hshort
    exact hapart draw (runs.world.drawn + 2) hafter (by omega) hdrawn.ge hshort
  rw [hstores.disk, RunConfig.artifact?_saveOf_of_ne hne]

/-- An image that could not be stored is no delivery. -/
theorem of_unsaved (h : runs.Kept config readings origin)
    (hstores : config.Stores ticket image content { runs.world with clock := clock } world)
    {failure : Failure} (hfailed : (config.saveOf ticket image content
      { runs.world with clock := clock }).answer = .error failure)
    (hsame : tickets.map RunTicket.fixed = runs.accepted.map RunTicket.fixed) :
    (Runs.mk world runs.accepted tickets runs.delivered).Kept config readings origin where
  reads := by
    dsimp only
    rw [hstores.disk, RunConfig.readAll_saveOf_of_error hfailed]
    exact h.reads
  made := h.made_of_stores (List.prefix_refl _) hstores
  same := hsame
  started := h.started
  spelled := h.spelled
  drawn := h.drawn.trans (hstores.drawn ▸ Nat.le_add_right _ 2)

/-- An image that was stored is a delivery of the run whose ticket was polled. -/
theorem of_saved (h : runs.Kept config readings origin)
    (hids : ∀ n, HistoryStore.IsDrawnId (config.newId n)) {run : Nat}
    (hticket : runs.tickets[run]? = some ticket)
    (hstores : config.Stores ticket image content { runs.world with clock := clock } world)
    {record : RunRecord} (hsaved : (config.saveOf ticket image content
      { runs.world with clock := clock }).answer = .ok record)
    (himage : result.image = image) (hanswered : result.record = some record)
    (hsame : tickets.map RunTicket.fixed = runs.accepted.map RunTicket.fixed) :
    (Runs.mk world runs.accepted tickets (⟨run, ticket, result, content, record, runs.world.sent,
      world.sent⟩ :: runs.delivered)).Kept config readings origin := by
  obtain rfl := himage
  obtain ⟨first, hfirst, hmetadata, -⟩ := h.exists_accepted hticket
  obtain ⟨records, hreads, hrecord, hhistory, hartifact⟩ := RunConfig.saveOf_of_ok hsaved
  obtain ⟨limit, hspelled⟩ := h.spelled first (List.mem_of_getElem? hfirst)
  have hrecords : .ok records = (HistoryStore.readAll origin.disk).map
      (runs.delivered.map Delivery.record ++ ·) := hreads.symm.trans h.reads
  have hsound : record.Sound := by
    rw [hrecord]
    rw [← hmetadata] at hspelled
    exact HistoryStore.sound_recordOf ⟨hids _, hids _⟩ _ hspelled
  have hdrawn : world.drawn = runs.world.drawn + 2 := hstores.drawn
  refine ⟨?_, ?_, hsame, h.started, h.spelled, h.drawn.trans (hdrawn ▸ Nat.le_add_right _ 2)⟩
  · have hall : ∀ other ∈ record :: records, other.Sound :=
      List.forall_mem_cons.mpr ⟨hsound, HistoryStore.sound_of_readAll hreads⟩
    rw [← hstores.disk] at hhistory
    dsimp only
    rw [HistoryStore.readAll_of_toText hall hhistory]
    cases hold : HistoryStore.readAll origin.disk with
    | error failure =>
        rw [hold] at hrecords
        cases hrecords
    | ok old =>
        rw [hold] at hrecords
        rw [Except.ok.inj hrecords]
        rfl
  · intro delivery hdelivery
    obtain rfl | hdelivery := List.mem_cons.mp hdelivery
    · refine ⟨_, hrecord, hanswered, ⟨first, hfirst, hmetadata⟩, hstores.asked,
        hstores.body, ⟨runs.world.drawn + 2, ?_, hdrawn.ge, rfl⟩, fun _ => ?_⟩
      · have hstart := h.drawn
        omega
      · rw [hstores.disk]
        exact hartifact
    · have haccepted : runs.accepted <+: (Runs.mk world runs.accepted tickets
          (⟨run, ticket, result, content, record, runs.world.sent, world.sent⟩ ::
            runs.delivered)).accepted := List.prefix_refl _
      exact h.made_of_stores haccepted hstores delivery hdelivery

end Storing

/-- A poll adds what it stores, if anything, to what was delivered. -/
theorem poll (h : runs.Kept config readings origin)
    (hids : ∀ n, HistoryStore.IsDrawnId (config.newId n))
    (hrounds : RoundsBetween readings)
    {clock : τ} (hclock : clock ∈ readings) (run : Nat) :
    (runs.poll config clock run).Kept config readings origin := by
  unfold Runs.poll
  cases hticket : runs.tickets[run]? with
  | none => exact h
  | some ticket =>
      dsimp only
      generalize hcall : config.check ticket { runs.world with clock := clock } = called
      obtain ⟨answer, world⟩ := called
      have hsame : ∀ status, answer = .ok status →
          (runs.tickets.set run (status.ticket?.getD ticket)).map RunTicket.fixed =
            runs.accepted.map RunTicket.fixed := by
        rintro status rfl
        exact h.same_set hticket (RunConfig.fixed_of_check hcall)
      obtain ⟨hrests, hnone⟩ | ⟨image, content, hstores, hanswer, hrounded⟩ :=
        RunConfig.check_outcome hcall
      · cases answer with
        | error failure => exact h.of_rests hrests.disk hrests.drawn h.same
        | ok status =>
            dsimp only
            rw [RunConfig.delivery?_of_rests fun result => hnone status result rfl]
            exact h.of_rests hrests.disk hrests.drawn (hsame status rfl)
      · cases hsaved : (config.saveOf ticket image content
            { runs.world with clock := clock }).answer with
        | error failure =>
            cases answer with
            | error refused => exact h.of_unsaved hstores hsaved h.same
            | ok status =>
                have hset := hsame status rfl
                obtain ⟨next, elapsed, viewUrl, proxyUrl, rfl⟩ := hanswer status rfl
                dsimp only
                rw [RunConfig.delivery?_of_stores hstores run next elapsed rfl, hsaved]
                exact h.of_unsaved hstores hsaved hset
        | ok record =>
            obtain ⟨first, hfirst, -, hstarted⟩ := h.exists_accepted hticket
            have hround : ∃ millis, TimeScale.rounded (TimeScale.minus clock ticket.startedAt) =
                .ok millis := by
              rw [hstarted]
              exact hrounds _ hclock _ (h.started first (List.mem_of_getElem? hfirst))
            obtain ⟨status, rfl⟩ := hrounded record hsaved hround
            have hset := hsame status rfl
            obtain ⟨next, elapsed, viewUrl, proxyUrl, rfl⟩ := hanswer status rfl
            dsimp only
            rw [RunConfig.delivery?_of_stores hstores run next elapsed rfl, hsaved]
            exact h.of_saved hids hticket hstores hsaved rfl rfl hset

/-- Every step keeps the invariant. -/
theorem step (h : runs.Kept config readings origin)
    (hids : ∀ n, HistoryStore.IsDrawnId (config.newId n))
    (hrounds : RoundsBetween readings)
    {move : Move τ} (hclock : move.clock ∈ readings) (hseeds : move.Spellable) :
    (runs.step config move).Kept config readings origin := by
  cases move with
  | submit clock request clientId drawnSeed => exact h.submit hclock hseeds
  | poll clock run => exact h.poll hids hrounds hclock run

/-- Every sequence of steps keeps the invariant. -/
theorem after (hids : ∀ n, HistoryStore.IsDrawnId (config.newId n))
    (hrounds : RoundsBetween readings)
    (moves : List (Move τ)) {runs : Runs τ} (h : runs.Kept config readings origin)
    (hclocks : ∀ move ∈ moves, move.clock ∈ readings) (hseeds : ∀ move ∈ moves, move.Spellable) :
    (runs.after config moves).Kept config readings origin := by
  induction moves generalizing runs with
  | nil => exact h
  | cons move moves ih =>
      obtain ⟨hclock, hclocks⟩ := List.forall_mem_cons.mp hclocks
      obtain ⟨hseed, hseeds⟩ := List.forall_mem_cons.mp hseeds
      exact ih (h.step hids hrounds hclock hseed) hclocks hseeds

end Runs.Kept

/-! ### What is in the store -/

/-- The record of a delivery says what the ticket of its own run says, has the image's name and was
answered by the poll; the poll's last request was for that image, and the bytes that came are the
ones in the record's file. -/
structure Delivery.Own {τ : Type} (config : RunConfig τ) (runs : Runs τ)
    (delivery : Delivery τ) : Prop where
  metadata : delivery.record.metadata = delivery.ticket.metadata
  ticket : ∃ ticket, runs.accepted[delivery.run]? = some ticket ∧
    delivery.ticket.metadata = ticket.metadata
  givenFilename : delivery.record.givenFilename = .str
    (if (HistoryStore.givenName (some delivery.result.image.filename)).isEmpty then
      HistoryStore.defaultName
    else HistoryStore.givenName (some delivery.result.image.filename))
  answered : delivery.result.record = some delivery.record
  asked : ∃ asked, delivery.sent = delivery.earlier ++ asked ∧ asked.getLast? =
    some ((config.client delivery.ticket.baseUrl).viewRequest delivery.result.image)
  body : config.backend.lastBody? delivery.sent = some delivery.content
  file : ∃ name, delivery.record.storedFilename = .str name ∧
    runs.world.disk.artifact? name = some delivery.content

theorem Delivery.Made.toOwn {τ : Type} {config : RunConfig τ} {start : Nat} {runs : Runs τ}
    {delivery : Delivery τ} {stamp : HistoryStore.Stamp}
    (h : delivery.Made config start runs stamp)
    (hapart : config.NamesApart start runs.world.drawn) : delivery.Own config runs where
  metadata := by
    rw [h.record_eq]
    exact RunMetadata.ofFields_toFields delivery.ticket.metadata
  ticket := h.own
  givenFilename := by
    rw [h.record_eq]
    rfl
  answered := h.answered
  asked := h.asked
  body := h.body
  file := by
    refine ⟨_, ?_, h.stored hapart⟩
    rw [h.record_eq]
    rfl

namespace Runs

variable {τ : Type} [TimeScale τ] {config : RunConfig τ} {world : World τ} {moves : List (Move τ)}

theorem kept_start_after (hids : ∀ n, HistoryStore.IsDrawnId (config.newId n))
    (hseeds : ∀ move ∈ moves, move.Spellable) (hrounds : RoundsBetween (moves.map Move.clock)) :
    ((start world).after config moves).Kept config (moves.map Move.clock) world :=
  Kept.after hids hrounds moves Kept.of_start (fun _ hmove => List.mem_map_of_mem hmove) hseeds

/-- However the steps of any number of runs follow each other, the store gains one record for each
poll that ended with an image which came and could be stored, the newest first, and each is of its
own run and its own image, if the draws differ in their first eight digits. -/
theorem runs_keep_apart (hids : ∀ n, HistoryStore.IsDrawnId (config.newId n))
    (hseeds : ∀ move ∈ moves, move.Spellable) (hrounds : RoundsBetween (moves.map Move.clock))
    (hapart : config.NamesApart world.drawn ((start world).after config moves).world.drawn) :
    HistoryStore.readAll ((start world).after config moves).world.disk =
        (HistoryStore.readAll world.disk).map
          (((start world).after config moves).delivered.map Delivery.record ++ ·) ∧
      ∀ delivery ∈ ((start world).after config moves).delivered,
        delivery.Own config ((start world).after config moves) := by
  have hkept : ((start world).after config moves).Kept config (moves.map Move.clock) world :=
    kept_start_after hids hseeds hrounds
  refine ⟨hkept.reads, fun delivery hdelivery => ?_⟩
  obtain ⟨stamp, hmade⟩ := hkept.made delivery hdelivery
  exact hmade.toOwn hapart

end Runs

/-! ### A poll that stores an image -/

namespace Runs

variable {τ : Type} [TimeScale τ] {config : RunConfig τ} {runs : Runs τ}

omit [TimeScale τ] in
theorem works_submit (clock : τ) (request : RunRequest) (clientId : String) (drawnSeed : Int)
    (h : runs.world.disk.Works) :
    (runs.submit config clock request clientId drawnSeed).world.disk.Works := by
  unfold submit
  generalize hcall : RunConfig.submit { config with clientId, drawnSeed } request
    { runs.world with clock } = called
  obtain ⟨answer, world⟩ := called
  have hworks : world.disk.Works := by
    rw [(RunConfig.submit_rests.of_eq hcall).disk]
    exact h
  cases answer <;> exact hworks

theorem works_poll (clock : τ) (run : Nat) (h : runs.world.disk.Works) :
    (runs.poll config clock run).world.disk.Works := by
  unfold poll
  cases runs.tickets[run]? with
  | none => exact h
  | some ticket =>
      dsimp only
      generalize hcall : config.check ticket { runs.world with clock } = called
      obtain ⟨answer, world⟩ := called
      have hworks := RunConfig.works_of_check hcall h
      cases answer <;> exact hworks

theorem after_concat (moves : List (Move τ)) (move : Move τ) :
    runs.after config (moves ++ [move]) = (runs.after config moves).step config move := by
  unfold after
  rw [List.foldl_append]
  rfl

/-- Steps leave a directory that works as one that works. -/
theorem works_after (moves : List (Move τ)) (h : runs.world.disk.Works) :
    (runs.after config moves).world.disk.Works := by
  induction moves generalizing runs with
  | nil => exact h
  | cons move moves ih =>
      cases move with
      | submit clock request clientId drawnSeed =>
          exact ih (works_submit clock request clientId drawnSeed h)
      | poll clock run => exact ih (works_poll clock run h)

/-- A poll in time that finds an image delivers it, and it stands under its name whatever stood
there before. -/
theorem poll_of_image {clock : τ} {run : Nat} {ticket : RunTicket τ} {image : ImageRef}
    (hticket : runs.tickets[run]? = some ticket) (hwithin : config.Within ticket clock)
    (hround : ∃ millis, TimeScale.rounded (TimeScale.minus clock ticket.startedAt) = .ok millis)
    (hfound : RunConfig.Finds (config.pollAt ticket runs.world.sent) image)
    (hserves : ∀ sent request, (config.backend sent request).body? ≠ none)
    (hworks : runs.world.disk.Works) {records : List RunRecord}
    (hreads : HistoryStore.readAll runs.world.disk = .ok records)
    (hname : Disk.admitsName (config.nameOf { runs.world with clock } image) = true) :
    ∃ delivery, (runs.poll config clock run).delivered = delivery :: runs.delivered ∧
      delivery.run = run ∧
      (∃ earlier, (config.backend earlier
        ((config.client ticket.baseUrl).viewRequest image)).body? = some delivery.content) ∧
      (runs.poll config clock run).world.disk.artifact?
        (config.nameOf { runs.world with clock } image) = some delivery.content := by
  obtain ⟨content, world, later, viewUrl, proxyUrl, hcheck, hstores, hsaved, -⟩ :=
    RunConfig.exists_stores_of_image { runs.world with clock } hwithin hround hfound hserves
      hworks hreads hname
  unfold poll
  rw [hticket]
  dsimp only
  rw [hcheck]
  dsimp only
  rw [RunConfig.delivery?_of_stores hstores run later _ rfl, hsaved]
  refine ⟨_, rfl, rfl, ?_, ?_⟩
  · obtain ⟨asked, hsent, hlast⟩ := hstores.asked
    have hbody := hstores.body
    unfold Backend.lastBody? at hbody
    rw [hsent, List.getLast?_append, hlast] at hbody
    exact ⟨_, hbody⟩
  · obtain ⟨-, -, -, -, hartifact⟩ := RunConfig.saveOf_of_ok hsaved
    rw [hstores.disk]
    exact hartifact

end Runs

/-! ### Two runs -/

/-- The answer that a job is done and has this image in this folder. -/
def historyOf (job filename folder : String) : String :=
  String.join ["\x7b\"", job, "\":\x7b\"outputs\":\x7b\"9\":\x7b\"images\":[\x7b\"filename\":\"",
    filename, "\",\"subfolder\":\"", folder, "\"\x7d]\x7d\x7d\x7d\x7d"]

/-- A backend that accepts two jobs and has an image of each, with these names. -/
def twoJobs (firstName secondName : String) : Backend := fun sent request =>
  let text := match request.path with
    | "/prompt" =>
        if sent.isEmpty then "\x7b\"prompt_id\":\"first\"\x7d"
        else "\x7b\"prompt_id\":\"second\"\x7d"
    | "/history/first" => historyOf "first" firstName "cats"
    | "/history/second" => historyOf "second" secondName "dogs"
    | _ => if request.query.any fun field => field.2 = "cats" then "a cat" else "a dog"
  .response ⟨200, Bytes.encode text, none⟩

section TwoJobs

variable {firstName secondName : String} {sent : List Request} {request : Request}

theorem serves_twoJobs (sent : List Request) (request : Request) :
    (twoJobs firstName secondName sent request).body? ≠ none := nofun

/-- What is no request for a cat is answered with a dog. -/
theorem body?_twoJobs (hpath : request.path = "/view")
    (hfolder : (request.query.any fun field => field.2 = "cats") = false) :
    (twoJobs firstName secondName sent request).body? = some (Bytes.encode "a dog") := by
  have hanswer : twoJobs firstName secondName sent request =
      .response ⟨200, Bytes.encode "a dog", none⟩ := by
    unfold twoJobs
    rw [hpath, hfolder]
    simp
  rw [hanswer]
  rfl

end TwoJobs

/-- Draws that are letters, one more at each draw. -/
def letterDraws (letters n : Nat) : String := String.ofList (List.replicate (n + letters) 'a')

/-- Runs whose draws differ in length already in the first eight letters. -/
def drawingApart : RunConfig ℚ :=
  { RunConfig.tenSeconds (twoJobs "a.png" "b.png") with newId := letterDraws 1 }

/-- Runs whose images have one name, and whose draws begin with the same eight letters. -/
def drawingAlike : RunConfig ℚ :=
  { RunConfig.tenSeconds (twoJobs "a.png" "a.png") with newId := letterDraws 8 }

/-- A workflow of no nodes, as a file holds it. -/
def noNodes : String :=
  "[\x7b\"id\":\"w\",\"name\":\"w\",\"raw\":\x7b\"nodes\":[]\x7d\x7d]"

/-- A directory with that workflow. -/
def worldOfNoNodes : World ℚ :=
  { RunConfig.worldAtZero with disk := { Disk.empty with workflows := some noNodes } }

/-- Two requests, and polls of their runs at one time. -/
def twoRuns (polled : List Nat) : List (Move ℚ) :=
  .submit 0 ⟨.str "w", some "http://backend", .str "a cat", .null, .int 7, .null, none⟩ "one" 0 ::
  .submit 0 ⟨.str "w", some "http://backend", .str "a dog", .null, .int 8, .null, none⟩ "two" 0 ::
    polled.map (.poll 1)

theorem length_letterDraws (letters n : Nat) :
    (letterDraws letters n).toList.length = n + letters := by
  unfold letterDraws
  rw [String.toList_ofList, List.length_replicate]

theorem isDrawnId_letterDraws {letters : Nat} (h : 0 < letters) (n : Nat) :
    HistoryStore.IsDrawnId (letterDraws letters n) := by
  constructor
  · intro hempty
    have hlength := length_letterDraws letters n
    rw [hempty, String.toList_empty, List.length_nil] at hlength
    omega
  · intro c hc
    unfold letterDraws at hc
    rw [String.toList_ofList] at hc
    rw [List.eq_of_mem_replicate hc]
    decide

theorem letterDraws_injective (letters : Nat) : Function.Injective (letterDraws letters) := by
  intro m n heq
  have hlength := length_letterDraws letters m
  rw [heq, length_letterDraws] at hlength
  omega

theorem spellable_twoRuns (polled : List Nat) : ∀ move ∈ twoRuns polled, move.Spellable := by
  simp only [twoRuns, List.forall_mem_cons]
  refine ⟨?_, ?_, ?_⟩
  · intro seed hseed
    obtain rfl : 7 = seed := Except.ok.inj hseed
    decide
  · intro seed hseed
    obtain rfl : 8 = seed := Except.ok.inj hseed
    decide
  · intro move hmove
    obtain ⟨run, -, rfl⟩ := List.mem_map.mp hmove
    trivial

/-- The image that is stored is that of the second run, which alone is polled. -/
theorem Runs.runs_keep_apart_twoRuns :
    ((Runs.start worldOfNoNodes).after drawingApart (twoRuns [1])).delivered.map (fun delivery =>
        (delivery.run, delivery.result.image.filename, delivery.ticket.jobId)) =
      [(1, "b.png", "second")] ∧
    drawingApart.NamesApart 0
      ((Runs.start worldOfNoNodes).after drawingApart (twoRuns [1])).world.drawn ∧
    HistoryStore.readAll ((Runs.start worldOfNoNodes).after drawingApart (twoRuns [1])).world.disk =
      (HistoryStore.readAll worldOfNoNodes.disk).map
        (((Runs.start worldOfNoNodes).after drawingApart (twoRuns [1])).delivered.map
          Delivery.record ++ ·) ∧
    ∀ delivery ∈ ((Runs.start worldOfNoNodes).after drawingApart (twoRuns [1])).delivered,
      delivery.Own drawingApart ((Runs.start worldOfNoNodes).after drawingApart (twoRuns [1])) := by
  obtain ⟨hdelivered, hdrawn⟩ :
      ((Runs.start worldOfNoNodes).after drawingApart (twoRuns [1])).delivered.map (fun delivery =>
          (delivery.run, delivery.result.image.filename, delivery.ticket.jobId)) =
        [(1, "b.png", "second")] ∧
      ((Runs.start worldOfNoNodes).after drawingApart (twoRuns [1])).world.drawn = 2 := by
    decide +kernel
  have hapart : drawingApart.NamesApart 0
      ((Runs.start worldOfNoNodes).after drawingApart (twoRuns [1])).world.drawn := by
    rw [hdrawn]
    intro m n hm hmn hn
    obtain rfl : m = 1 := by omega
    obtain rfl : n = 2 := by omega
    decide +kernel
  exact ⟨hdelivered, hapart, Runs.runs_keep_apart
    (isDrawnId_letterDraws Nat.one_pos) (spellable_twoRuns [1])
    (fun first _ second _ => ExactTimeScale.rounded_ok _) hapart⟩

/-- The two runs after the poll of the first, whose image is of a cat. -/
def catStored : Runs ℚ := (Runs.start worldOfNoNodes).after drawingAlike (twoRuns [0])

/-- The name of that image, and of the one of the second run. -/
def nameOfBoth : String := "1-aaaaaaaa-a.png"

theorem catStored_eq :
    catStored.tickets.map (fun ticket => (ticket.jobId, ticket.baseUrl, ticket.startedAt)) =
      [("first", "http://backend", 0), ("second", "http://backend", 0)] ∧
    catStored.world.drawn = 2 ∧
    catStored.delivered.map (fun delivery =>
        (delivery.run, delivery.content, delivery.record.storedFilename)) =
      [(0, Bytes.encode "a cat", .str nameOfBoth)] ∧
    (((drawingAlike.client "http://backend").pollAt drawingAlike.backend "second"
      catStored.world.sent).toOption.bind Client.Snapshot.image) =
        some ⟨"a.png", some "dogs", none⟩ := by
  decide +kernel

/-- The image of the second run, of a dog, is stored under the same name at the same time. -/
theorem exists_dog : ∃ delivery, (catStored.poll drawingAlike 1 1).delivered =
      delivery :: catStored.delivered ∧
    delivery.run = 1 ∧ delivery.content = Bytes.encode "a dog" ∧
    (catStored.poll drawingAlike 1 1).world.disk.artifact? nameOfBoth =
      some (Bytes.encode "a dog") := by
  obtain ⟨htickets, hdrawn, -, himage⟩ := catStored_eq
  obtain ⟨ticket, hticket, hfacts⟩ : ∃ ticket, catStored.tickets[1]? = some ticket ∧
      (ticket.jobId, ticket.baseUrl, ticket.startedAt) = ("second", "http://backend", (0 : ℚ)) := by
    have hsecond := congrArg (·[1]?) htickets
    simp only [List.getElem?_map] at hsecond
    exact Option.map_eq_some_iff.mp hsecond
  obtain ⟨hjob, hfacts⟩ := Prod.mk.inj hfacts
  obtain ⟨hbase, hstarted⟩ := Prod.mk.inj hfacts
  have hname : drawingAlike.nameOf { catStored.world with clock := 1 }
      ⟨"a.png", some "dogs", none⟩ = nameOfBoth := by
    unfold RunConfig.nameOf RunConfig.stampOf
    dsimp only
    rw [hdrawn]
    decide +kernel
  have hwithin : drawingAlike.Within ticket 1 := by
    unfold RunConfig.Within
    rw [hstarted]
    decide +kernel
  have hfound : RunConfig.Finds (drawingAlike.pollAt ticket catStored.world.sent)
      ⟨"a.png", some "dogs", none⟩ := by
    unfold RunConfig.pollAt
    rw [hjob, hbase]
    obtain ⟨snapshot, hsnapshot, hfind⟩ := Option.bind_eq_some_iff.mp himage
    exact ⟨snapshot, eq_ok_of_toOption hsnapshot, hfind⟩
  have hids : ∀ n, HistoryStore.IsDrawnId (drawingAlike.newId n) :=
    isDrawnId_letterDraws (by decide)
  have hkept : catStored.Kept drawingAlike ((twoRuns [0]).map Move.clock) worldOfNoNodes :=
    Runs.kept_start_after hids (spellable_twoRuns [0])
      fun first _ second _ => ExactTimeScale.rounded_ok _
  have hreads : HistoryStore.readAll catStored.world.disk =
      .ok (catStored.delivered.map Delivery.record ++ []) := hkept.reads
  have hstart : (Runs.start worldOfNoNodes).world.disk.Works := fun _ => rfl
  have hworks : catStored.world.disk.Works := by
    unfold catStored
    exact Runs.works_after (twoRuns [0]) hstart
  obtain ⟨delivery, hdelivered, hrun, ⟨earlier, hcontent⟩, hfile⟩ :=
    Runs.poll_of_image hticket hwithin (ExactTimeScale.rounded_ok _) hfound
      serves_twoJobs hworks hreads (by rw [hname]; decide +kernel)
  have hbackend : drawingAlike.backend = twoJobs "a.png" "a.png" := rfl
  have hserved : (twoJobs "a.png" "a.png" earlier
      ((drawingAlike.client "http://backend").viewRequest ⟨"a.png", some "dogs", none⟩)).body? =
        some (Bytes.encode "a dog") :=
    body?_twoJobs (by decide +kernel) (by decide +kernel)
  rw [hbase, hbackend, hserved] at hcontent
  have hdog : delivery.content = Bytes.encode "a dog" := (Option.some.inj hcontent).symm
  rw [hname, hdog] at hfile
  exact ⟨delivery, hdelivered, hrun, hdog, hfile⟩

/-- The draws of two polls at one time differ, but begin with the same eight digits: the file of the
first record, that of a cat, holds the image of the second, that of a dog. -/
theorem Runs.images_collide :
    (∀ n, HistoryStore.IsDrawnId (drawingAlike.newId n)) ∧ Function.Injective drawingAlike.newId ∧
    ((Runs.start worldOfNoNodes).after drawingAlike (twoRuns [0, 1])).delivered.map
        (fun delivery => (delivery.run, delivery.content)) =
      [(1, Bytes.encode "a dog"), (0, Bytes.encode "a cat")] ∧
    ¬ ∀ delivery ∈ ((Runs.start worldOfNoNodes).after drawingAlike (twoRuns [0, 1])).delivered,
      ∃ name, delivery.record.storedFilename = .str name ∧
        ((Runs.start worldOfNoNodes).after drawingAlike (twoRuns [0, 1])).world.disk.artifact?
          name = some delivery.content := by
  have hafter : (Runs.start worldOfNoNodes).after drawingAlike (twoRuns [0, 1]) =
      catStored.poll drawingAlike 1 1 :=
    Runs.after_concat (twoRuns [0]) (.poll 1 1)
  obtain ⟨-, -, hcat, -⟩ := catStored_eq
  obtain ⟨dog, hdelivered, hrun, hcontent, hfile⟩ := exists_dog
  obtain ⟨cat, hone, hfacts⟩ := List.map_eq_singleton_iff.mp hcat
  obtain ⟨hfirst, hfacts⟩ := Prod.mk.inj hfacts
  obtain ⟨hbytes, hstored⟩ := Prod.mk.inj hfacts
  rw [hafter, hdelivered, hone]
  refine ⟨isDrawnId_letterDraws (by decide), letterDraws_injective 8, ?_, fun h => ?_⟩
  · rw [List.map_cons, List.map_singleton, hrun, hcontent, hfirst, hbytes]
  · obtain ⟨name, hname, hown⟩ := h cat (List.mem_cons_of_mem _ List.mem_cons_self)
    obtain rfl : nameOfBoth = name := Json.str.inj (hstored.symm.trans hname)
    rw [hfile, hbytes] at hown
    exact absurd (Option.some.inj hown) (by decide +kernel)

end RenderRelay
