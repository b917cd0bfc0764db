import Mathlib.Data.List.ReduceOption
import RenderRelay.Proofs.Api.StatusCall
import RenderRelay.Proofs.Run.Checkpoint
import RenderRelay.Proofs.Run.Interleaved
import RenderRelay.Proofs.Run.Transient

/-! # A run that is checked again

A ticket is all that is kept of a run between two calls of `check`.  Nothing tells a call that an
earlier one has recorded the run, so a run is recorded as often as a call completes it.

* `RunConfig.TicketOf`: the tickets of one run that a caller can hold; a record says the same
  whichever of them is used (`TicketOf.fixed_eq`).
* `RunConfig.exists_adds_of_check`: one call adds nothing to the store, or one record of the run,
  which is the one that it answers.
* `RunConfig.exists_record_of_image`: a call that finds an image and can store it adds one, whatever
  was recorded before.
* `RunConfig.records_of_checks`: any sequence of calls adds what its calls add, the newest first; if
  all calls but the last leave the run open, it adds at most one record. -/

namespace RenderRelay

open Number

/-! ### Calls -/

/-- A call of `check`: when it is made, and with which ticket. -/
structure CheckCall (τ : Type) where
  clock : τ
  ticket : RunTicket τ

/-- A call that was made, and what it answered. -/
structure CheckMade (τ : Type) where
  clock : τ
  answer : Except Failure (RunStatus τ)

/-- The call left the run open. -/
def CheckMade.IsOpen {τ : Type} (made : CheckMade τ) : Prop :=
  ∃ ticket elapsed, made.answer = .ok (.polling ticket elapsed)

/-- What a call has added to the store: nothing, or one record of the run.  If it answered a state,
that has the record; if it added one, it answered a state, provided that the time since the start of
the run can be rounded. -/
structure CheckMade.Adds {τ : Type} [TimeScale τ] (ticket : RunTicket τ) (made : CheckMade τ)
    (record : Option RunRecord) : Prop where
  own : ∀ added, record = some added → added.metadata = ticket.metadata
  answered : ∀ status, made.answer = .ok status → status.record? = record
  answers : ∀ added, record = some added →
    (∃ millis, TimeScale.rounded (TimeScale.minus made.clock ticket.startedAt) = .ok millis) →
      ∃ status, made.answer = .ok status

namespace RunConfig

section Calls

variable {τ : Type} [TimeScale τ]

/-- Calls, one after another: what they answer, and the world that they leave. -/
def checks (config : RunConfig τ) : List (CheckCall τ) → World τ → List (CheckMade τ) × World τ
  | [], world => ([], world)
  | call :: calls, world =>
      let (answer, middle) := config.check call.ticket { world with clock := call.clock }
      let (made, after) := checks config calls middle
      (⟨call.clock, answer⟩ :: made, after)

variable {config : RunConfig τ} {ticket : RunTicket τ} {world after : World τ}

/-- A call adds nothing to the store, or one record. -/
theorem exists_adds_of_check (hids : ∀ n, HistoryStore.IsDrawnId (config.newId n)) {limit : Nat}
    (hspelled : (Json.obj ticket.metadata.toFields).Spelled limit)
    {answer : Except Failure (RunStatus τ)} (h : config.check ticket world = (answer, after)) :
    ∃ record, CheckMade.Adds ticket ⟨world.clock, answer⟩ record ∧
      HistoryStore.readAll after.disk =
        (HistoryStore.readAll world.disk).map (record.toList ++ ·) := by
  have hnothing : (HistoryStore.readAll world.disk).map (Option.toList none ++ ·) =
      HistoryStore.readAll world.disk := by
    cases HistoryStore.readAll world.disk <;> rfl
  obtain ⟨hrests, hnone⟩ | ⟨image, content, hstores, hanswer, hrounded⟩ := check_outcome h
  · refine ⟨none, ⟨nofun, ?_, nofun⟩, ?_⟩
    · intro status hstatus
      cases status with
      | done later elapsed result => exact (hnone _ result hstatus rfl).1
      | _ => rfl
    · rw [hnothing, hrests.disk]
  · have hstatus : ∀ status, answer = .ok status →
        status.record? = (config.saveOf ticket image content world).answer.toOption := by
      intro status hstatus
      obtain ⟨later, elapsed, viewUrl, proxyUrl, rfl⟩ := hanswer status hstatus
      rfl
    cases hsaved : (config.saveOf ticket image content world).answer with
    | error failure =>
        rw [hsaved] at hstatus
        refine ⟨none, ⟨nofun, hstatus, nofun⟩, ?_⟩
        rw [hnothing, hstores.disk, readAll_saveOf_of_error hsaved]
    | ok record =>
        rw [hsaved] at hstatus
        obtain ⟨records, hreads, hrecord, hhistory, -⟩ := saveOf_of_ok hsaved
        refine ⟨some record, ⟨?_, hstatus, fun _ _ => hrounded record hsaved⟩, ?_⟩
        · rintro _ ⟨⟩
          rw [hrecord]
          exact RunMetadata.ofFields_toFields ticket.metadata
        · have hsound : record.Sound := by
            rw [hrecord]
            exact HistoryStore.sound_recordOf ⟨hids _, hids _⟩ _ hspelled
          have hall : ∀ other ∈ record :: records, other.Sound :=
            List.forall_mem_cons.mpr ⟨hsound, HistoryStore.sound_of_readAll hreads⟩
          rw [← hstores.disk] at hhistory
          rw [HistoryStore.readAll_of_toText hall hhistory, hreads]
          rfl

/-- A call in time that finds an image, of a backend that serves every request, records the run,
whatever was recorded before. -/
theorem exists_record_of_image {image : ImageRef} (hwithin : config.Within ticket world.clock)
    (hround : ∃ millis, TimeScale.rounded (TimeScale.minus world.clock ticket.startedAt) =
      .ok millis)
    (hfound : Finds (config.pollAt ticket world.sent) image)
    (hserves : ∀ sent request, (config.backend sent request).body? ≠ none)
    (hworks : world.disk.Works) {records : List RunRecord}
    (hreads : HistoryStore.readAll world.disk = .ok records)
    (hname : Disk.admitsName (config.nameOf world image) = true) :
    ∃ status after record, config.check ticket world = (.ok status, after) ∧
      status.record? = some record ∧ after.disk.Works ∧ after.drawn = world.drawn + 2 := by
  obtain ⟨content, after, later, viewUrl, proxyUrl, hcheck, hstores, -, hstays⟩ :=
    exists_stores_of_image world hwithin hround hfound hserves hworks hreads hname
  refine ⟨_, after, _, hcheck, rfl, ?_, hstores.drawn⟩
  rw [hstores.disk]
  exact hstays

/-- What counts for a record is the same of all tickets of a run. -/
theorem adds_of_fixed {held : RunTicket τ} (hfixed : held.fixed = ticket.fixed) {made : CheckMade τ}
    {record : Option RunRecord} (h : CheckMade.Adds held made record) :
    CheckMade.Adds ticket made record := by
  obtain ⟨hmetadata, hstarted⟩ := Prod.mk.inj hfixed
  exact ⟨fun added hadded => (h.own added hadded).trans hmetadata, h.answered, hstarted ▸ h.answers⟩

/-- Calls add what each of them adds, the newest first. -/
theorem exists_adds_of_checks (hids : ∀ n, HistoryStore.IsDrawnId (config.newId n)) {limit : Nat}
    (hspelled : (Json.obj ticket.metadata.toFields).Spelled limit) (calls : List (CheckCall τ))
    (hcalls : ∀ call ∈ calls, call.ticket.fixed = ticket.fixed) (world : World τ) :
    ∃ records, List.Forall₂ (CheckMade.Adds ticket) (config.checks calls world).1 records ∧
      HistoryStore.readAll (config.checks calls world).2.disk =
        (HistoryStore.readAll world.disk).map (records.reduceOption.reverse ++ ·) := by
  induction calls generalizing world with
  | nil =>
      refine ⟨[], List.Forall₂.nil, ?_⟩
      change HistoryStore.readAll world.disk = _
      cases HistoryStore.readAll world.disk <;> rfl
  | cons call calls ih =>
      obtain ⟨hcall, hcalls⟩ := List.forall_mem_cons.mp hcalls
      unfold checks
      generalize hcheck : config.check call.ticket { world with clock := call.clock } = called
      obtain ⟨answer, middle⟩ := called
      have hown : (Json.obj call.ticket.metadata.toFields).Spelled limit := by
        rw [(Prod.mk.inj hcall).1]
        exact hspelled
      obtain ⟨record, hadds, hreads⟩ := exists_adds_of_check hids hown hcheck
      obtain ⟨records, hmade, hrest⟩ := ih hcalls middle
      refine ⟨record :: records, .cons (adds_of_fixed hcall hadds) hmade, ?_⟩
      dsimp only at hreads ⊢
      rw [hrest, hreads]
      cases HistoryStore.readAll world.disk with
      | error failure => rfl
      | ok old =>
          cases record with
          | none => rfl
          | some record =>
              simp only [Except.map, Option.toList_some, List.reduceOption_cons_of_some,
                List.reverse_cons, List.append_assoc]

/-- Calls of which only the last can have ended the run add at most one record. -/
theorem length_records_le_one {made : List (CheckMade τ)} {records : List (Option RunRecord)}
    (h : List.Forall₂ (CheckMade.Adds ticket) made records)
    (hopen : ∀ call ∈ made.dropLast, call.IsOpen) : records.reduceOption.length ≤ 1 := by
  induction h with
  | nil => exact Nat.zero_le 1
  | @cons call record made records hadds hrest ih =>
      cases made with
      | nil =>
          cases hrest
          exact List.reduceOption_length_le [record]
      | cons next made =>
          rw [List.dropLast_cons_cons] at hopen
          obtain ⟨⟨later, elapsed, hpolling⟩, hopen⟩ := List.forall_mem_cons.mp hopen
          obtain rfl : none = record := hadds.answered _ hpolling
          rw [List.reduceOption_cons_of_none]
          exact ih hopen

end Calls

/-! ### The tickets of a run -/

/-- A ticket of a run that a caller can hold: the one that the submission has answered, one that a
call with such a ticket has answered, or one that is made again from the fields of such a ticket. -/
inductive TicketOf (config : RunConfig Double) (ticket : RunTicket Double) :
    RunTicket Double → Prop where
  | submitted : TicketOf config ticket ticket
  | answered (held : RunTicket Double) (hheld : TicketOf config ticket held)
      (before after : World Double) (status : RunStatus Double)
      (hcheck : config.check held before = (.ok status, after)) (later : RunTicket Double)
      (hlater : status.ticket? = some later) : TicketOf config ticket later
  | rebuilt (held : RunTicket Double) (hheld : TicketOf config ticket held)
      (later : RunTicket Double) (hlater : RunTicket.ofFields held.toFields = .ok later) :
      TicketOf config ticket later

theorem TicketOf.fixed_eq {config : RunConfig Double} {ticket held : RunTicket Double}
    (h : config.TicketOf ticket held) : held.fixed = ticket.fixed := by
  induction h with
  | submitted => rfl
  | answered held _ before after status hcheck later hlater ih =>
      have hsame := fixed_of_check hcheck
      rw [hlater, Option.getD_some] at hsame
      exact hsame.trans ih
  | rebuilt held _ later hlater ih =>
      rw [RunTicket.ofFields_toFields] at hlater
      obtain rfl := Except.ok.inj hlater
      exact ih

/-- Whatever the calls on the tickets of a submitted run, whenever they are made and whatever the
backend answers, the store gains what each of them adds: nothing or one record of the run, which is
the one that the call answers.  It gains at most one if all calls but the last leave the run
open. -/
theorem records_of_checks {config : RunConfig Double} {request : RunRequest}
    {world start : World Double} {ticket : RunTicket Double}
    (hids : ∀ n, HistoryStore.IsDrawnId (config.newId n))
    (hseeds : ∀ seed, chooseSeedOf config.drawnSeed request.seed = .ok seed →
      digitCount seed.natAbs ≤ maxDigits)
    (hsubmit : config.submit request world = (.ok ticket, start))
    (calls : List (CheckCall Double))
    (hcalls : ∀ call ∈ calls, config.TicketOf ticket call.ticket) :
    ∃ records, List.Forall₂ (CheckMade.Adds ticket) (config.checks calls start).1 records ∧
      HistoryStore.readAll (config.checks calls start).2.disk =
        (HistoryStore.readAll start.disk).map (records.reduceOption.reverse ++ ·) ∧
      ((∀ made ∈ (config.checks calls start).1.dropLast, made.IsOpen) →
        records.reduceOption.length ≤ 1) := by
  obtain ⟨limit, hspelled⟩ := spelled_of_submit hsubmit hseeds
  obtain ⟨records, hmade, hreads⟩ := exists_adds_of_checks hids hspelled calls
    (fun call hcall => (hcalls call hcall).fixed_eq) start
  exact ⟨records, hmade, hreads, length_records_le_one hmade⟩

/-! ### A job that is done before it is polled -/

/-- What the backend answers: that it has accepted the job, and the history of it. -/
def doneText : String :=
  "\x7b\"prompt_id\":\"job\",\"job\":\x7b\"outputs\":\x7b\"9\":\x7b\"images\":" ++
    "[\x7b\"filename\":\"a.png\"\x7d]\x7d\x7d\x7d\x7d"

/-- The value of that text. -/
def doneReply : Json :=
  .obj [("prompt_id", .str "job"), ("job", .obj [("outputs", .obj [("9", .obj [("images",
    .arr [.obj [("filename", .str "a.png")]])])])])]

/-- Runs on a backend that answers so whatever it is asked; their draws differ in length. -/
def atOnce : RunConfig Double :=
  { followed (answering doneText) with newId := letterDraws 1 }

theorem pollCarries_atOnce (ticket : RunTicket Double) (sent : List Request) :
    atOnce.PollCarries ticket sent doneReply doneReply := by
  have hcarries : (Reply.response ⟨200, Bytes.encode doneText, none⟩).Carries doneReply :=
    .json _ doneText _ rfl (by decide +kernel) (by decide +kernel)
  exact ⟨hcarries, hcarries⟩

theorem finds_atOnce {ticket : RunTicket Double} (hid : ticket.jobId = "job")
    (sent : List Request) : Finds (atOnce.pollAt ticket sent) ⟨"a.png", none, none⟩ := by
  refine ⟨_, (pollCarries_atOnce ticket sent).pollAt_eq, ?_⟩
  rw [hid]
  decide +kernel

/-- The run is accepted with this ticket, and nothing is recorded yet. -/
structure BeginsAtOnce (ticket : RunTicket Double) (start : World Double) : Prop where
  submitted : atOnce.submit padded followedWorld = (.ok ticket, start)
  jobId_eq : ticket.jobId = "job"
  startedAt_eq : ticket.startedAt = .zero false
  works : start.disk.Works
  reads : HistoryStore.readAll start.disk = .ok []
  drawn_eq : start.drawn = 0

theorem exists_beginsAtOnce : ∃ ticket start, BeginsAtOnce ticket start := by
  have hjob : Client.submittedId ⟨200, Bytes.encode doneText, none⟩ = .ok "job" := by decide +kernel
  obtain ⟨ticket, start, hsubmit, hid, -, hstart, -⟩ := submit_padded hjob
  have hsame : atOnce.submit padded followedWorld = (.ok ticket, start) := hsubmit
  have hrests := submit_rests.of_eq hsame
  refine ⟨ticket, start, hsame, hid, hstart, ?_, ?_, hrests.drawn⟩
  · rw [hrests.disk]
    exact fun _ => rfl
  · rw [hrests.disk]
    rfl

theorem seed_padded (seed : Int) (h : chooseSeedOf atOnce.drawnSeed padded.seed = .ok seed) :
    digitCount seed.natAbs ≤ maxDigits := by
  obtain rfl : 7 = seed := Except.ok.inj h
  decide

theorem isDrawnId_atOnce (n : Nat) : HistoryStore.IsDrawnId (atOnce.newId n) :=
    isDrawnId_letterDraws Nat.one_pos n

/-- A call after one second or after two records the run, with the first draws or the next ones. -/
theorem exists_record_atOnce {ticket : RunTicket Double} {limit : Nat}
    (hspelled : (Json.obj ticket.metadata.toFields).Spelled limit) (hid : ticket.jobId = "job")
    (hstart : ticket.startedAt = .zero false) (world : World Double) (hworks : world.disk.Works)
    {records : List RunRecord} (hreads : HistoryStore.readAll world.disk = .ok records)
    (hmoment : world.clock = .ofInt 1000 ∧ world.drawn = 0 ∨
      world.clock = .ofInt 2000 ∧ world.drawn = 2) :
    ∃ answer after record, atOnce.check ticket world = (answer, after) ∧
      record.metadata = ticket.metadata ∧
      HistoryStore.readAll after.disk = .ok (record :: records) ∧ after.disk.Works ∧
      after.drawn = world.drawn + 2 := by
  have hserves : ∀ sent request, (atOnce.backend sent request).body? ≠ none := by
    intro sent request hnone
    cases hnone
  have hfacts : atOnce.Within ticket world.clock ∧
      (∃ millis, TimeScale.rounded (TimeScale.minus world.clock ticket.startedAt) = .ok millis) ∧
      Disk.admitsName (atOnce.nameOf world ⟨"a.png", none, none⟩) = true := by
    unfold Within nameOf stampOf
    rw [hstart]
    obtain ⟨hclock, hdrawn⟩ | ⟨hclock, hdrawn⟩ := hmoment
    · rw [hclock, hdrawn]
      exact ⟨by decide +kernel, ⟨1000, by decide +kernel⟩, by decide +kernel⟩
    · rw [hclock, hdrawn]
      exact ⟨by decide +kernel, ⟨2000, by decide +kernel⟩, by decide +kernel⟩
  obtain ⟨hwithin, hround, hname⟩ := hfacts
  obtain ⟨status, after, record, hcheck, hrecord, hafter, hdrawn⟩ :=
    exists_record_of_image hwithin hround (finds_atOnce hid _) hserves hworks hreads hname
  obtain ⟨added, hadds, hrest⟩ := exists_adds_of_check isDrawnId_atOnce hspelled hcheck
  obtain rfl : some record = added := hrecord.symm.trans (hadds.answered status rfl)
  rw [hreads] at hrest
  exact ⟨_, after, record, hcheck, hadds.own record rfl, hrest, hafter, hdrawn⟩

/-- Two calls, a second apart. -/
def secondApart (ticket held : RunTicket Double) : List (CheckCall Double) :=
  [⟨.ofInt 1000, ticket⟩, ⟨.ofInt 2000, held⟩]

/-- Both of them record the run. -/
theorem BeginsAtOnce.exists_records {ticket : RunTicket Double} {start : World Double}
    (h : BeginsAtOnce ticket start) (held : RunTicket Double)
    (hfixed : held.fixed = ticket.fixed) :
    ∃ first second, first.metadata = ticket.metadata ∧ second.metadata = ticket.metadata ∧
      HistoryStore.readAll (atOnce.checks (secondApart ticket held) start).2.disk =
        .ok [second, first] := by
  obtain ⟨limit, hspelled⟩ := spelled_of_submit h.submitted seed_padded
  obtain ⟨hmetadata, hstart⟩ := Prod.mk.inj hfixed
  have hid : held.jobId = "job" := by
    rw [← h.jobId_eq]
    exact Json.str.inj (congrArg RunMetadata.jobId hmetadata)
  obtain ⟨answer, middle, first, hfirst, hown, hone, hmiddle, hdraws⟩ :=
    exists_record_atOnce hspelled h.jobId_eq h.startedAt_eq { start with clock := .ofInt 1000 }
      h.works h.reads (Or.inl ⟨rfl, h.drawn_eq⟩)
  rw [← hmetadata] at hspelled
  obtain ⟨_, after, second, hsecond, hagain, htwo, -, -⟩ :=
    exists_record_atOnce hspelled hid (hstart.trans h.startedAt_eq)
      { middle with clock := .ofInt 2000 } hmiddle hone
      (Or.inr ⟨rfl, hdraws.trans (congrArg (· + 2) h.drawn_eq)⟩)
  refine ⟨first, second, hown, hagain.trans hmetadata, ?_⟩
  unfold secondApart checks checks checks
  rw [hfirst]
  dsimp only
  rw [hsecond]
  exact htwo

/-- The store that was empty holds two records of the job. -/
theorem records_atOnce : ∃ ticket start,
    atOnce.submit padded followedWorld = (.ok ticket, start) ∧
      HistoryStore.readAll start.disk = .ok [] ∧
      ∃ first second, first.metadata.jobId = .str ticket.jobId ∧
        second.metadata.jobId = .str ticket.jobId ∧
        HistoryStore.readAll (atOnce.checks (secondApart ticket ticket) start).2.disk =
          .ok [second, first] := by
  obtain ⟨ticket, start, h⟩ := exists_beginsAtOnce
  obtain ⟨first, second, hfirst, hsecond, htwo⟩ := h.exists_records ticket rfl
  exact ⟨ticket, start, h.submitted, h.reads, first, second, congrArg RunMetadata.jobId hfirst,
    congrArg RunMetadata.jobId hsecond, htwo⟩

/-- The same with the second call on the ticket that is made again from its fields: the first call
has not left the run open. -/
theorem records_of_checks_atOnce : ∃ ticket start,
    atOnce.submit padded followedWorld = (.ok ticket, start) ∧
      RunTicket.ofFields ticket.toFields = .ok ticket.forget ∧
      ∃ records, List.Forall₂ (CheckMade.Adds ticket)
          (atOnce.checks (secondApart ticket ticket.forget) start).1 records ∧
        HistoryStore.readAll (atOnce.checks (secondApart ticket ticket.forget) start).2.disk =
          .ok records.reduceOption.reverse ∧
        records.reduceOption.length = 2 ∧
        ¬ ∀ made ∈ (atOnce.checks (secondApart ticket ticket.forget) start).1.dropLast,
          made.IsOpen := by
  obtain ⟨ticket, start, h⟩ := exists_beginsAtOnce
  obtain ⟨first, second, -, -, htwo⟩ := h.exists_records ticket.forget rfl
  have hrebuilt := RunTicket.ofFields_toFields ticket
  have hcalls : ∀ call ∈ secondApart ticket ticket.forget, atOnce.TicketOf ticket call.ticket := by
    simp only [secondApart, List.forall_mem_cons]
    exact ⟨.submitted, .rebuilt ticket .submitted ticket.forget hrebuilt, List.forall_mem_nil _⟩
  obtain ⟨records, hmade, hrest, hopen⟩ :=
    records_of_checks isDrawnId_atOnce seed_padded h.submitted _ hcalls
  rw [h.reads] at hrest
  have hall := hrest.trans (congrArg Except.ok (List.append_nil records.reduceOption.reverse))
  have hlength : records.reduceOption.length = 2 := by
    rw [← List.length_reverse, Except.ok.inj (hall.symm.trans htwo)]
    rfl
  refine ⟨ticket, start, h.submitted, hrebuilt, records, hmade, hall, hlength, fun hleft => ?_⟩
  have hone := hopen hleft
  rw [hlength] at hone
  exact absurd hone (by decide)

end RunConfig

end RenderRelay
