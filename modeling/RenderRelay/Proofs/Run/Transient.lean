import RenderRelay.Proofs.Run.Record
import RenderRelay.Proofs.Run.Replies

/-! # Polls that fail

A poll that fails has seen nothing, and the run goes on.

* `Reply.Fails` lists the failures: on the way, by status, by a body that is no JSON.
  `Reply.Carries` is the value that a poll takes from a reply; it takes null from one that fails.
  Every reply but one that cannot be read carries a value (`Reply.exists_carries`), and only one.
* `Client.fetchStatus_of_carries`: a poll answers what its two replies carry, and makes its second
  request only if the first reply has no image of the job.
* `RunConfig.isPolling_check_iff`: within the time of the run, a poll leaves it open exactly if it
  finds no image.
* `RunConfig.poll_transient` puts these together, for single polls and for runs of them. -/

namespace RenderRelay

/-! ### What a reply carries -/

namespace Reply

/-- A reply that gives a poll nothing: a failure on the way, a response without success, or one
whose body is no JSON.  A body with an integer of more digits than are read is none of these. -/
inductive Fails : Reply → Prop where
  | transport (failure : TransportFailure) : Fails (.failure failure)
  | refused (response : Response) (h : response.isSuccess = false) : Fails (.response response)
  | noText (response : Response) (h : Bytes.decodeJsonText? response.body = none) :
      Fails (.response response)
  | noJson (response : Response) (text : String) (e : Json.ReadError)
      (htext : Bytes.decodeJsonText? response.body = some text) (hread : Json.read text = .error e)
      (hcause : e.cause ≠ .integerTooLong) : Fails (.response response)

/-- The value that a poll takes from a reply. -/
inductive Carries : Reply → Json → Prop where
  | nothing (reply : Reply) (h : reply.Fails) : Carries reply .null
  | json (response : Response) (text : String) (value : Json) (h : response.isSuccess = true)
      (htext : Bytes.decodeJsonText? response.body = some text)
      (hread : Json.read text = .ok value) : Carries (.response response) value

/-- The replies are one, or neither of them carries anything. -/
def Alike (reply other : Reply) : Prop :=
  reply = other ∨ (reply.Carries .null ∧ other.Carries .null)

variable {reply other : Reply} {value more : Json}

/-- What a poll makes of a response. -/
theorem Carries.json_eq {response : Response} (h : Carries (.response response) value) :
    (if response.isSuccess then response.json else .ok .null) = .ok value := by
  unfold Response.json
  cases h with
  | json _ text _ hsuccess htext hread =>
      rw [if_pos hsuccess, htext]
      dsimp only
      rw [hread]
  | nothing _ hfails =>
      cases hfails with
      | refused _ hstatus => rw [if_neg (by rw [hstatus]; exact Bool.false_ne_true)]
      | noText _ htext => rw [htext, ite_self]
      | noJson _ text e htext hread hcause =>
          rw [htext]
          dsimp only
          rw [hread]
          dsimp only
          rw [if_neg hcause, ite_self]

/-- Every reply carries a value, unless it cannot be read. -/
theorem exists_carries (h : ¬ reply.Unreadable) : ∃ value, reply.Carries value := by
  cases reply with
  | failure failure => exact ⟨.null, .nothing _ (.transport failure)⟩
  | response response =>
      cases hsuccess : response.isSuccess with
      | false => exact ⟨.null, .nothing _ (.refused response hsuccess)⟩
      | true =>
          cases htext : Bytes.decodeJsonText? response.body with
          | none => exact ⟨.null, .nothing _ (.noText response htext)⟩
          | some text =>
              cases hread : Json.read text with
              | ok value => exact ⟨value, .json response text value hsuccess htext hread⟩
              | error e =>
                  refine ⟨.null, .nothing _ (.noJson response text e htext hread fun hcause => ?_)⟩
                  refine h ⟨response, rfl, hsuccess, ?_⟩
                  unfold Response.json
                  rw [htext]
                  dsimp only
                  rw [hread]
                  exact if_pos hcause

theorem Carries.not_unreadable (h : reply.Carries value) : ¬ reply.Unreadable := by
  rintro ⟨response, rfl, hsuccess, hjson⟩
  have hread := h.json_eq
  rw [if_pos hsuccess] at hread
  cases hjson.symm.trans hread

theorem Carries.unique (h : reply.Carries value) (h' : reply.Carries more) : value = more := by
  cases reply with
  | response response => exact Except.ok.inj (h.json_eq.symm.trans h'.json_eq)
  | failure failure =>
      cases h
      cases h'
      rfl

theorem Alike.carries (h : Alike reply other) (hvalue : reply.Carries value) :
    other.Carries value := by
  obtain rfl | ⟨hnull, hother⟩ := h
  · exact hvalue
  · rw [hvalue.unique hnull]
    exact hother

end Reply

/-! ### Polling the backend -/

namespace Client

variable (client : Client) (backend : Backend) (jobId : String) (sent : List Request)

/-- The request for the history of a job. -/
def ownRequest : Request := client.historyRequest ("/history/" ++ jobId)

/-- The request for the whole history. -/
def wholeRequest : Request := client.historyRequest "/history"

/-- What a poll has seen in the history of the job and in the whole one, which it does not look at
if the first has an image of the job. -/
def snapshotOf (own whole : Json) : Snapshot :=
  match ImageRef.find? own (some jobId) with
  | some image => ⟨some image, own, .null⟩
  | none => ⟨ImageRef.find? whole (some jobId), own, whole⟩

/-- The requests of a poll that has seen this in the history of the job. -/
def askedAfter (own : Json) : List Request :=
  client.ownRequest jobId ::
    if (ImageRef.find? own (some jobId)).isSome then [] else [client.wholeRequest]

variable {client backend jobId sent} {own whole : Json}

theorem image_snapshotOf : (snapshotOf jobId own whole).image =
    (ImageRef.find? own (some jobId)).or (ImageRef.find? whole (some jobId)) := by
  unfold snapshotOf
  cases ImageRef.find? own (some jobId) <;> rfl

theorem fetchHistory_of_carries {endpoint : String} {value : Json}
    (h : (backend sent (client.historyRequest endpoint)).Carries value) :
    client.fetchHistory backend endpoint ⟨sent, []⟩ =
      (.ok value, ⟨sent ++ [client.historyRequest endpoint], []⟩) := by
  unfold historyRequest at h ⊢
  unfold fetchHistory call Traffic.send
  dsimp only
  cases hreply : backend sent (client.request .get endpoint [] .none) with
  | failure failure =>
      rw [hreply] at h
      obtain ⟨-, -⟩ := h
      rfl
  | response response =>
      rw [hreply] at h
      dsimp only
      rw [h.json_eq]

/-- A poll answers what its replies carry. -/
theorem fetchStatus_of_carries (hown : (backend sent (client.ownRequest jobId)).Carries own)
    (hwhole : (backend (sent ++ [client.ownRequest jobId]) client.wholeRequest).Carries whole) :
    client.fetchStatus backend jobId ⟨sent, []⟩ =
      (.ok (snapshotOf jobId own whole), ⟨sent ++ client.askedAfter jobId own, []⟩) := by
  unfold fetchStatus snapshotOf askedAfter
  rw [bind_ok (fetchHistory_of_carries hown)]
  cases ImageRef.find? own (some jobId) with
  | some image => rfl
  | none =>
      have hall : client.fetchHistory backend "/history" ⟨sent ++ [client.ownRequest jobId], []⟩ =
          (.ok whole, ⟨sent ++ ([client.ownRequest jobId] ++ [client.wholeRequest]), []⟩) :=
        List.append_assoc sent _ _ ▸ fetchHistory_of_carries hwhole
      exact bind_ok hall

end Client

namespace RunConfig

/-! ### Polling a run -/

section Polling

variable {τ : Type} {config : RunConfig τ} {ticket : RunTicket τ} {sent : List Request}
  {own whole : Json}

/-- The request for the history of the job of a ticket. -/
def ownRequest (config : RunConfig τ) (ticket : RunTicket τ) : Request :=
  (config.client ticket.baseUrl).ownRequest ticket.jobId

/-- The request for the whole history of the backend of a ticket. -/
def wholeRequest (config : RunConfig τ) (ticket : RunTicket τ) : Request :=
  (config.client ticket.baseUrl).wholeRequest

/-- What the two replies to the poll of a ticket carry, after these requests. -/
structure PollCarries (config : RunConfig τ) (ticket : RunTicket τ) (sent : List Request)
    (own whole : Json) : Prop where
  own : (config.backend sent (config.ownRequest ticket)).Carries own
  whole : (config.backend (sent ++ [config.ownRequest ticket])
    (config.wholeRequest ticket)).Carries whole

/-- Both replies to the poll of a ticket fail, after these requests. -/
structure PollFails (config : RunConfig τ) (ticket : RunTicket τ) (sent : List Request) :
    Prop where
  own : (config.backend sent (config.ownRequest ticket)).Fails
  whole : (config.backend (sent ++ [config.ownRequest ticket]) (config.wholeRequest ticket)).Fails

theorem PollFails.carries (h : config.PollFails ticket sent) :
    config.PollCarries ticket sent .null .null :=
  ⟨.nothing _ h.own, .nothing _ h.whole⟩

/-- The two replies to the poll of a ticket can be read, after these requests. -/
structure PollReads (config : RunConfig τ) (ticket : RunTicket τ) (sent : List Request) :
    Prop where
  own : ¬ (config.backend sent (config.ownRequest ticket)).Unreadable
  whole : ¬ (config.backend (sent ++ [config.ownRequest ticket])
    (config.wholeRequest ticket)).Unreadable

theorem PollCarries.reads (h : config.PollCarries ticket sent own whole) :
    config.PollReads ticket sent :=
  ⟨h.own.not_unreadable, h.whole.not_unreadable⟩

theorem PollCarries.pollAt_eq (h : config.PollCarries ticket sent own whole) :
    config.pollAt ticket sent = .ok (Client.snapshotOf ticket.jobId own whole) := by
  unfold pollAt Client.pollAt
  rw [Client.fetchStatus_of_carries h.own h.whole]

theorem PollFails.leavesOpen (h : config.PollFails ticket sent) :
    LeavesOpen (config.pollAt ticket sent) :=
  ⟨_, h.carries.pollAt_eq, rfl⟩

end Polling

variable {τ : Type} [TimeScale τ] {config : RunConfig τ} {ticket : RunTicket τ} {world : World τ}

/-- The run goes on. -/
def IsPolling (answer : Except Failure (RunStatus τ)) : Prop :=
  ∃ later elapsed, answer = .ok (.polling later elapsed)

/-- Within the time of a run, a poll leaves it open exactly if it finds no image. -/
theorem isPolling_check_iff (h : config.Within ticket world.clock) :
    IsPolling (config.check ticket world).1 ↔ LeavesOpen (config.pollAt ticket world.sent) := by
  constructor
  · rintro ⟨later, elapsed, hpolling⟩
    obtain ⟨asked, hexchange, -, -⟩ := config.exchange_poll ticket world
    rw [check_of_within h] at hpolling
    cases hpoll : config.pollAt ticket world.sent with
    | error failure =>
        rw [hpoll] at hexchange
        rw [bind_error hexchange] at hpolling
        cases hpolling
    | ok snapshot =>
        refine ⟨snapshot, rfl, ?_⟩
        rw [hpoll] at hexchange
        rw [bind_ok hexchange] at hpolling
        cases himage : snapshot.image with
        | none => rfl
        | some image =>
            rw [himage] at hpolling
            obtain ⟨result, hdone⟩ := done_of_complete (Prod.ext hpolling rfl)
            cases hdone
  · intro hopen
    obtain ⟨history, fullHistory, hcheck⟩ := check_of_open h hopen
    rw [hcheck]
    exact ⟨_, _, rfl⟩

/-- Polls that fail leave the run open as long as its time has not passed. -/
theorem isPolling_waitFor_of_fails (polls : Nat)
    (hwithin : ∀ i ≤ polls, config.Within ticket (config.afterPolls ticket world i).clock)
    (hfails : ∀ i ≤ polls, config.PollFails ticket (config.afterPolls ticket world i).sent) :
    IsPolling (config.waitFor polls ticket world).1 := by
  obtain ⟨history, fullHistory, hskip⟩ := waitFor_afterPolls 0 polls
    (fun i hi => hwithin i (Nat.le_of_lt hi)) (fun i hi => (hfails i (Nat.le_of_lt hi)).leavesOpen)
  have hlast : config.Within (ticket.seen history fullHistory)
      (config.afterPolls ticket world polls).clock := hwithin polls (Nat.le_refl polls)
  rw [Nat.zero_add] at hskip
  rw [hskip]
  exact (isPolling_check_iff hlast).mpr (hfails polls (Nat.le_refl polls)).leavesOpen

/-- A poll answers a snapshot, whatever its replies carry, and failures carry as little as null: it
asks for the whole history exactly if the history of the job has no image of it, takes the first
image, and does not see one failure put in the place of another.  Within the time of the run it
leaves the run open exactly if there is no image, and polls that fail leave it open however many
they are. -/
theorem poll_transient (hreads : config.PollReads ticket world.sent) :
    ∃ own whole snapshot asked, config.PollCarries ticket world.sent own whole ∧
      (config.client ticket.baseUrl).fetchStatus config.backend ticket.jobId ⟨world.sent, []⟩ =
        (.ok snapshot, ⟨world.sent ++ asked, []⟩) ∧
      asked = config.ownRequest ticket ::
        (if ImageRef.find? own (some ticket.jobId) = none then [config.wholeRequest ticket]
          else []) ∧
      snapshot.image = (ImageRef.find? own (some ticket.jobId)).or
        (ImageRef.find? whole (some ticket.jobId)) ∧
      (∀ other : Backend,
        (config.backend world.sent (config.ownRequest ticket)).Alike
          (other world.sent (config.ownRequest ticket)) →
        (config.backend (world.sent ++ [config.ownRequest ticket])
          (config.wholeRequest ticket)).Alike
            (other (world.sent ++ [config.ownRequest ticket]) (config.wholeRequest ticket)) →
        (config.client ticket.baseUrl).fetchStatus other ticket.jobId ⟨world.sent, []⟩ =
          (.ok snapshot, ⟨world.sent ++ asked, []⟩)) ∧
      (config.Within ticket world.clock →
        (IsPolling (config.check ticket world).1 ↔ snapshot.image = none)) ∧
      ∀ polls,
        (∀ i ≤ polls, config.Within ticket (config.afterPolls ticket world i).clock) →
        (∀ i ≤ polls, config.PollFails ticket (config.afterPolls ticket world i).sent) →
          IsPolling (config.waitFor polls ticket world).1 := by
  obtain ⟨own, hown⟩ := Reply.exists_carries hreads.own
  obtain ⟨whole, hwhole⟩ := Reply.exists_carries hreads.whole
  have h : config.PollCarries ticket world.sent own whole := ⟨hown, hwhole⟩
  refine ⟨own, whole, Client.snapshotOf ticket.jobId own whole,
    (config.client ticket.baseUrl).askedAfter ticket.jobId own, h,
    Client.fetchStatus_of_carries h.own h.whole, ?_, Client.image_snapshotOf, ?_, ?_,
    fun polls => isPolling_waitFor_of_fails polls⟩
  · unfold Client.askedAfter
    cases ImageRef.find? own (some ticket.jobId) <;> rfl
  · intro other hown hwhole
    exact Client.fetchStatus_of_carries (hown.carries h.own) (hwhole.carries h.whole)
  · intro hwithin
    rw [isPolling_check_iff hwithin, LeavesOpen, h.pollAt_eq]
    constructor
    · rintro ⟨snapshot, hsnapshot, himage⟩
      rw [Except.ok.inj hsnapshot]
      exact himage
    · intro himage
      exact ⟨_, rfl, himage⟩

/-! ### A poll of two replies -/

/-- What a whole history says of a job that is done. -/
def historyOfJob : Json :=
  .obj [("job", .obj [("outputs", .obj [("9", .obj [("images",
    .arr [.obj [("filename", .str "a.png")]])])])])]

/-- The text of that history. -/
def historyText : String :=
  "\x7b\"job\":\x7b\"outputs\":\x7b\"9\":\x7b\"images\":" ++
    "[\x7b\"filename\":\"a.png\"\x7d]\x7d\x7d\x7d\x7d"

/-- A backend that fails on its first request and then answers with the history. -/
def recovering : Backend
  | [], _ => .response ⟨500, [], none⟩
  | _ :: _, _ => .response ⟨200, Bytes.encode historyText, none⟩

theorem pollCarries_recovering :
    (tenSeconds recovering).PollCarries ticketAtZero worldAtZero.sent .null historyOfJob :=
  ⟨.nothing _ (.refused _ rfl),
    .json _ historyText _ rfl (by decide +kernel) (by decide +kernel)⟩

theorem pollFails_unreachable (sent : List Request) :
    (tenSeconds unreachable).PollFails ticketAtZero sent :=
  ⟨.transport _, .transport _⟩

/-- The failure of the first request does not keep the second from finding the image; seven polls of
an unreachable backend leave a run of ten seconds open. -/
theorem poll_transient_recovering :
    (tenSeconds recovering).PollReads ticketAtZero worldAtZero.sent ∧
      ((tenSeconds recovering).pollAt ticketAtZero worldAtZero.sent).toOption.map
        Client.Snapshot.image = some (some ⟨"a.png", none, none⟩) ∧
      ¬ IsPolling ((tenSeconds recovering).check ticketAtZero worldAtZero).1 ∧
      IsPolling ((tenSeconds unreachable).waitFor 6 ticketAtZero worldAtZero).1 := by
  have hcarries := pollCarries_recovering
  have hfails := pollFails_unreachable worldAtZero.sent
  have hwithin : (tenSeconds recovering).Within ticketAtZero worldAtZero.clock := by
    unfold Within
    decide +kernel
  obtain ⟨own, whole, snapshot, asked, hseen, hpoll, -, himage, -, hchecked, -⟩ :=
    poll_transient hcarries.reads
  obtain ⟨-, -, -, -, -, -, -, -, -, -, hfailing⟩ := poll_transient hfails.carries.reads
  obtain rfl := hseen.own.unique hcarries.own
  obtain rfl := hseen.whole.unique hcarries.whole
  have hfound : snapshot.image = some ⟨"a.png", none, none⟩ := himage
  refine ⟨hcarries.reads, ?_, ?_, ?_⟩
  · unfold pollAt Client.pollAt
    rw [hpoll, ← hfound]
    rfl
  · rw [hchecked hwithin, hfound]
    exact Option.some_ne_none _
  · refine hfailing 6 (fun i hi => ?_) (fun i hi => pollFails_unreachable _)
    rw [within_afterPolls_iff (by norm_num [tenSeconds]) (by norm_num [tenSeconds]) rfl,
      lastPoll_tenSeconds]
    exact hi

end RunConfig

end RenderRelay
