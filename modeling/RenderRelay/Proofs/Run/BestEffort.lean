import RenderRelay.Proofs.Run.Repeated

/-! # A found image ends the run

When a poll finds the image of a run, the image is fetched and stored as well as that goes.

* `RunConfig.Kept` lists what may be left of it: nothing was fetched, nothing was stored, or a
  record heads the history and the artifact of its name holds what was fetched.
* `RunConfig.Ends` lists how the run may end: it is done, whatever is left, unless its time cannot
  be rounded or the history that the record goes to cannot be read.
* `kept_complete` says that nothing else happens, whatever the backend answers and whichever
  operations on the directory fail; `check_bestEffort` says it of a poll.
* `check_endless`: the time of a run that started at no finite moment cannot be rounded, and its
  record is written nevertheless. -/

namespace RenderRelay

namespace RunConfig

section BestEffort

variable {τ : Type} [TimeScale τ]

/-- What is left of an image that a poll has found: no record, for nothing was fetched or nothing
could be stored, and then the history is as it was; or a record that heads the history. -/
inductive Kept (config : RunConfig τ) (ticket : RunTicket τ) (image : ImageRef)
    (before after : World τ) : Option RunRecord → Prop where
  | notFetched (hbody : config.backend.lastBody? after.sent = none)
      (hdisk : after.disk = before.disk) : Kept config ticket image before after none
  | notStored (content : Bytes) (failure : Failure)
      (hbody : config.backend.lastBody? after.sent = some content)
      (hsave : (config.saveOf ticket image content before).answer = .error failure)
      (hhistory : after.disk.history = before.disk.history) :
      Kept config ticket image before after none
  | stored (content : Bytes) (record : RunRecord) (records : List RunRecord)
      (hbody : config.backend.lastBody? after.sent = some content)
      (hsave : (config.saveOf ticket image content before).answer = .ok record)
      (hreads : HistoryStore.readAll before.disk = .ok records)
      (hhistory : after.disk.history = some (HistoryStore.toText (record :: records)))
      (hname : record.storedFilename = .str (config.nameOf before image))
      (hartifact : after.disk.artifact? (config.nameOf before image) = some content) :
      Kept config ticket image before after (some record)

/-- How a run ends whose image is found: it is done with what is left of the image, unless the time
that it took cannot be rounded, or something was fetched and the history cannot be read. -/
inductive Ends (config : RunConfig τ) (ticket : RunTicket τ) (image : ImageRef) (elapsed : τ)
    (before after : World τ) (record : Option RunRecord) :
    Except Failure (RunStatus τ) → Prop where
  | done (millis : Int) (hround : TimeScale.rounded elapsed = .ok millis) :
      Ends config ticket image elapsed before after record (.ok (.done ticket elapsed
        ⟨image, image.viewUrl ticket.baseUrl, config.proxyUrl ticket.baseUrl image, record⟩))
  | unrounded (failure : Failure) (hround : TimeScale.rounded elapsed = .error failure) :
      Ends config ticket image elapsed before after record (.error failure)
  | unread (content : Bytes) (failure : Failure)
      (hbody : config.backend.lastBody? after.sent = some content)
      (hreads : HistoryStore.readAll before.disk = .error failure) :
      Ends config ticket image elapsed before after record (.error failure)

variable {config : RunConfig τ} {ticket : RunTicket τ} {image : ImageRef} {elapsed : τ}
  {world before after : World τ} {record : Option RunRecord} {content : Bytes}

/-- Storing what was fetched leaves its record, or the history as it was. -/
theorem kept_saveOf (hbody : config.backend.lastBody? after.sent = some content)
    (hdisk : after.disk = (config.saveOf ticket image content before).disk) :
    config.Kept ticket image before after
      (config.saveOf ticket image content before).answer.toOption := by
  cases hsave : (config.saveOf ticket image content before).answer with
  | ok record =>
      obtain ⟨records, hreads, hrecord, hhistory, hartifact⟩ := saveOf_of_ok hsave
      rw [← hdisk] at hhistory hartifact
      refine .stored content record records hbody hsave hreads hhistory ?_ hartifact
      rw [hrecord]
      rfl
  | error failure =>
      refine .notStored content failure hbody hsave ?_
      rw [hdisk]
      exact history_saveOf_of_error hsave

/-- The last step of a run whose image is found. -/
theorem ends_rounded (config : RunConfig τ) (ticket : RunTicket τ) (image : ImageRef) (elapsed : τ)
    (before after : World τ) (record : Option RunRecord) :
    ∃ answer, (Act.ofExcept (TimeScale.rounded elapsed) >>= fun _ => pure (.done ticket elapsed
        ⟨image, image.viewUrl ticket.baseUrl, config.proxyUrl ticket.baseUrl image, record⟩))
          after = (answer, after) ∧
      config.Ends ticket image elapsed before after record answer := by
  cases hround : TimeScale.rounded elapsed with
  | error failure =>
      rw [bind_error (Act.ofExcept_apply after _)]
      exact ⟨_, rfl, .unrounded failure hround⟩
  | ok millis =>
      rw [bind_ok (Act.ofExcept_apply after _)]
      exact ⟨_, rfl, .done millis hround⟩

/-- A run whose image is found asks for it, keeps what it can, and is done, whatever comes of
that. -/
theorem kept_complete (config : RunConfig τ) (client : Client) (ticket : RunTicket τ)
    (image : ImageRef) (elapsed : τ) (world : World τ) :
    ∃ record answer after, config.complete client ticket image elapsed world = (answer, after) ∧
      world.Settles after (client.viewRequest image) ∧
      after.sent.getLast? = some (client.viewRequest image) ∧
      config.Kept ticket image world after record ∧
      config.Ends ticket image elapsed world after record answer := by
  obtain ⟨content, fetched, hfetch, hsettles, hdisk⟩ := config.fetchImage_settles client image world
  obtain ⟨hlast, hbody⟩ := fetchImage_body hfetch
  have hrests := (fetchImage_rests client image).of_eq hfetch
  unfold complete
  rw [bind_ok hfetch]
  cases content with
  | none =>
      obtain ⟨answer, hround, hends⟩ :=
        config.ends_rounded ticket image elapsed world fetched none
      exact ⟨none, answer, fetched, hround, hsettles, hlast, .notFetched hbody hdisk, hends⟩
  | some content =>
      obtain ⟨recorded, saved, hrecord, hsaved, hfails⟩ :=
        config.recordImage_settles ticket image content fetched (client.viewRequest image)
      obtain ⟨-, hsame, -, hstored, hanswer, hkept⟩ := recordImage_outcome hrecord
      rw [saveOf_of_rests hrests] at hstored hanswer hkept
      rw [← hsame] at hlast hbody
      have hleft := kept_saveOf hbody hstored
      dsimp only
      cases recorded with
      | error failure =>
          rw [bind_error hrecord]
          have hreads : HistoryStore.readAll world.disk = .error failure := by
            rw [← hdisk]
            exact hfails failure rfl
          exact ⟨_, _, saved, rfl, hsettles.trans hsaved, hlast, hleft,
            .unread content failure hbody hreads⟩
      | ok record =>
          rw [← hanswer record rfl] at hleft
          rw [bind_ok hrecord]
          obtain ⟨answer, hround, hends⟩ :=
            config.ends_rounded ticket image elapsed world saved record
          exact ⟨record, answer, saved, hround, hsettles.trans hsaved, hlast, hleft, hends⟩

/-- What is left depends on the metadata of the ticket, the clock, the directory and the draws. -/
theorem Kept.of_rests {later : RunTicket τ} {middle : World τ}
    (h : config.Kept later image middle after record) (hrests : world.Rests middle)
    (hmetadata : later.metadata = ticket.metadata) :
    config.Kept ticket image world after record := by
  have hsave : ∀ content, config.saveOf later image content middle =
      config.saveOf ticket image content world := by
    intro content
    rw [saveOf_of_rests hrests]
    unfold saveOf
    rw [hmetadata]
  have hname : config.nameOf middle image = config.nameOf world image := by
    unfold nameOf stampOf
    rw [hrests.clock, hrests.drawn]
  cases h with
  | notFetched hbody hdisk => exact .notFetched hbody (hdisk.trans hrests.disk)
  | notStored content failure hbody hfailed hhistory =>
      rw [hsave] at hfailed
      rw [hrests.disk] at hhistory
      exact .notStored content failure hbody hfailed hhistory
  | stored content record records hbody hstored hreads hhistory hnamed hartifact =>
      rw [hsave] at hstored
      rw [hrests.disk] at hreads
      rw [hname] at hnamed hartifact
      exact .stored content record records hbody hstored hreads hhistory hnamed hartifact

/-- What a poll that finds an image does and answers: it asks for the image, keeps of it what it
can, and ends the run. -/
structure EndsKept (config : RunConfig τ) (ticket : RunTicket τ) (image : ImageRef)
    (before after : World τ) (record : Option RunRecord)
    (answer : Except Failure (RunStatus τ)) : Prop where
  asked : ∃ asked, config.IsPoll ticket asked ∧
    ({ before with sent := before.sent ++ asked } : World τ).Settles after
      ((config.client ticket.baseUrl).viewRequest image)
  last : after.sent.getLast? = some ((config.client ticket.baseUrl).viewRequest image)
  kept : config.Kept ticket image before after record
  ends : ∃ history fullHistory, config.Ends (ticket.seen history fullHistory) image
    (TimeScale.minus before.clock ticket.startedAt) before after record answer

theorem endsKept_check (hwithin : config.Within ticket world.clock)
    (hfound : Finds (config.pollAt ticket world.sent) image) :
    ∃ record answer after, config.check ticket world = (answer, after) ∧
      config.EndsKept ticket image world after record answer := by
  obtain ⟨asked, hexchange, hasked, -⟩ := config.exchange_poll ticket world
  obtain ⟨snapshot, hsnapshot, himage⟩ := hfound
  obtain ⟨record, answer, after, hcomplete, hsettles, hlast, hkept, hends⟩ :=
    config.kept_complete (config.client ticket.baseUrl)
      (ticket.seen snapshot.history snapshot.fullHistory) image
      (TimeScale.minus world.clock ticket.startedAt) { world with sent := world.sent ++ asked }
  refine ⟨record, answer, after, ?_, ⟨asked, hasked, hsettles⟩, hlast,
    hkept.of_rests ⟨rfl, rfl, rfl⟩ rfl, snapshot.history, snapshot.fullHistory, ?_⟩
  · rw [hsnapshot] at hexchange
    rw [check_of_within hwithin, bind_ok hexchange, himage]
    exact hcomplete
  · cases hends with
    | done millis hround => exact .done millis hround
    | unrounded failure hround => exact .unrounded failure hround
    | unread content failure hbody hreads => exact .unread content failure hbody hreads

namespace Kept

variable (h : config.Kept ticket image world after record)
include h

/-- There is no record exactly if nothing was fetched or storing it failed. -/
theorem eq_none_iff : record = none ↔ config.backend.lastBody? after.sent = none ∨
    ∃ content failure, config.backend.lastBody? after.sent = some content ∧
      (config.saveOf ticket image content world).answer = .error failure := by
  cases h with
  | notFetched hbody _ => exact iff_of_true rfl (Or.inl hbody)
  | notStored content failure hbody hsave _ =>
      exact iff_of_true rfl (Or.inr ⟨content, failure, hbody, hsave⟩)
  | stored content record records hbody hsave _ _ _ _ =>
      refine iff_of_false (Option.some_ne_none record) ?_
      rintro (hnone | ⟨other, failure, hother, hfailed⟩)
      · rw [hnone] at hbody
        cases hbody
      · obtain rfl := Option.some.inj (hbody.symm.trans hother)
        rw [hsave] at hfailed
        cases hfailed

/-- Without a record the file is as it was. -/
theorem history_of_none (hnone : record = none) : after.disk.history = world.disk.history := by
  cases h with
  | notFetched _ hdisk => rw [hdisk]
  | notStored _ _ _ _ hhistory => exact hhistory
  | stored => cases hnone

/-- The record is read back before the others. -/
theorem readAll_eq (hids : ∀ n, HistoryStore.IsDrawnId (config.newId n)) {limit : Nat}
    (hspelled : (Json.obj ticket.metadata.toFields).Spelled limit) :
    HistoryStore.readAll after.disk =
      (HistoryStore.readAll world.disk).map (record.toList ++ ·) := by
  have hnothing : (HistoryStore.readAll world.disk).map (Option.toList none ++ ·) =
      HistoryStore.readAll world.disk := by
    cases HistoryStore.readAll world.disk <;> rfl
  cases h with
  | notFetched _ hdisk => rw [hnothing, hdisk]
  | notStored _ _ _ _ hhistory =>
      rw [hnothing]
      unfold HistoryStore.readAll
      rw [hhistory]
  | stored content record records _ hsave hreads hhistory _ _ =>
      have hsound : record.Sound := by
        rw [HistoryStore.record_of_append hsave]
        exact HistoryStore.sound_recordOf ⟨hids _, hids _⟩ _ hspelled
      have hall : ∀ other ∈ record :: records, other.Sound :=
        List.forall_mem_cons.mpr ⟨hsound, HistoryStore.sound_of_readAll hreads⟩
      rw [HistoryStore.readAll_of_toText hall hhistory, hreads]
      rfl

end Kept

/-- A run whose time can be rounded is done, if the history can be read. -/
theorem Ends.eq_done {answer : Except Failure (RunStatus τ)}
    (h : config.Ends ticket image elapsed before after record answer)
    (hround : ∃ millis, TimeScale.rounded elapsed = .ok millis)
    (hreads : ∃ records, HistoryStore.readAll before.disk = .ok records) :
    answer = .ok (.done ticket elapsed
      ⟨image, image.viewUrl ticket.baseUrl, config.proxyUrl ticket.baseUrl image, record⟩) := by
  obtain ⟨millis, hround⟩ := hround
  obtain ⟨records, hreads⟩ := hreads
  cases h with
  | done => rfl
  | unrounded failure hfailed =>
      rw [hround] at hfailed
      cases hfailed
  | unread content failure _ hfailed =>
      rw [hreads] at hfailed
      cases hfailed

/-- **A found image ends the run.**  Whatever comes back for the image and whichever operations on
the directory fail, a poll in time that finds an image answers that the run is done, with the image
and its two addresses, if the time that the run took can be rounded and the history can be read.
There is no record exactly if the last reply was no success or storing what it brought failed, and
then the file is as it was; otherwise the record heads the history, and the artifact of its name
holds what was fetched. -/
theorem check_bestEffort (hwithin : config.Within ticket world.clock)
    (hfound : Finds (config.pollAt ticket world.sent) image) :
    ∃ record answer after, config.check ticket world = (answer, after) ∧
      config.EndsKept ticket image world after record answer ∧
      ((∃ millis, TimeScale.rounded (TimeScale.minus world.clock ticket.startedAt) = .ok millis) →
        (∃ records, HistoryStore.readAll world.disk = .ok records) →
        ∃ history fullHistory, answer = .ok (.done (ticket.seen history fullHistory)
          (TimeScale.minus world.clock ticket.startedAt)
          ⟨image, image.viewUrl ticket.baseUrl, config.proxyUrl ticket.baseUrl image, record⟩)) ∧
      (record = none ↔ config.backend.lastBody? after.sent = none ∨
        ∃ content failure, config.backend.lastBody? after.sent = some content ∧
          (config.saveOf ticket image content world).answer = .error failure) ∧
      (record = none → after.disk.history = world.disk.history) ∧
      ((∀ n, HistoryStore.IsDrawnId (config.newId n)) → ∀ limit,
        (Json.obj ticket.metadata.toFields).Spelled limit →
          HistoryStore.readAll after.disk =
            (HistoryStore.readAll world.disk).map (record.toList ++ ·)) := by
  obtain ⟨record, answer, after, hcheck, hended⟩ := endsKept_check hwithin hfound
  obtain ⟨history, fullHistory, hends⟩ := hended.ends
  refine ⟨record, answer, after, hcheck, hended, ?_, hended.kept.eq_none_iff,
    hended.kept.history_of_none, ?_⟩
  · exact fun hround hreads => ⟨history, fullHistory, hends.eq_done hround hreads⟩
  · exact fun hids limit hspelled => hended.kept.readAll_eq hids hspelled

end BestEffort

/-! ### A run on a backend that is done at once -/

/-- The ticket of a job that was accepted then. -/
def ticketFrom (start : Double) : RunTicket Double :=
  ⟨"job", "http://backend", start, .null, RunParameters.ofFields [], none, [], .null, .null⟩

/-- A directory after one second. -/
def worldOn (disk : Disk) : World Double := ⟨.ofInt 1000, disk, [], [], 0⟩

/-- The image that the backend tells of. -/
def foundImage : ImageRef := ⟨"a.png", none, none⟩

/-- A run is done though nothing can be written. -/
theorem check_bestEffort_blocked :
    atOnce.Within (ticketFrom (.zero false)) (worldOn Disk.empty.blocked).clock ∧
      Finds (atOnce.pollAt (ticketFrom (.zero false)) (worldOn Disk.empty.blocked).sent)
        foundImage ∧
      ∃ status after, atOnce.check (ticketFrom (.zero false)) (worldOn Disk.empty.blocked) =
          (.ok status, after) ∧
        status.result? = some ⟨foundImage, foundImage.viewUrl "http://backend",
          ImageRef.proxyPath, none⟩ ∧
        after.disk.history = none := by
  have hwithin : atOnce.Within (ticketFrom (.zero false)) (worldOn Disk.empty.blocked).clock := by
    unfold Within
    decide +kernel
  have hfound : Finds (atOnce.pollAt (ticketFrom (.zero false)) (worldOn Disk.empty.blocked).sent)
      foundImage := finds_atOnce rfl _
  obtain ⟨record, answer, after, hcheck, -, hdone, hnone, hsame, -⟩ :=
    check_bestEffort hwithin hfound
  obtain ⟨history, fullHistory, rfl⟩ := hdone ⟨1000, by decide +kernel⟩ ⟨[], rfl⟩
  obtain rfl : record = none := by
    rw [hnone]
    cases hbody : atOnce.backend.lastBody? after.sent with
    | none => exact Or.inl rfl
    | some content => exact Or.inr ⟨content, _, rfl, rfl⟩
  exact ⟨hwithin, hfound, _, after, hcheck, rfl, hsame rfl⟩

/-- The time since no finite moment cannot be rounded: a poll that has found and recorded the image
fails. -/
theorem check_endless :
    atOnce.Within (ticketFrom (.infinite false)) (worldOn Disk.empty).clock ∧
      Finds (atOnce.pollAt (ticketFrom (.infinite false)) (worldOn Disk.empty).sent) foundImage ∧
      ∃ after, atOnce.check (ticketFrom (.infinite false)) (worldOn Disk.empty) =
          (.error .outOfRange, after) ∧
        ∃ record, HistoryStore.readAll after.disk = .ok [record] := by
  have hwithin : atOnce.Within (ticketFrom (.infinite false)) (worldOn Disk.empty).clock := by
    unfold Within
    decide +kernel
  have hfound : Finds (atOnce.pollAt (ticketFrom (.infinite false)) (worldOn Disk.empty).sent)
      foundImage := finds_atOnce rfl _
  obtain ⟨record, answer, after, hcheck, hended⟩ := endsKept_check hwithin hfound
  obtain rfl : answer = .error .outOfRange := by
    obtain ⟨history, fullHistory, hends⟩ := hended.ends
    cases hends with
    | done millis hround => cases hround
    | unrounded failure hround => exact congrArg Except.error (Except.error.inj hround).symm
    | unread content failure _ hreads => cases hreads
  obtain ⟨record, rfl⟩ : ∃ stored, record = some stored := by
    have hsent : after.sent ≠ [] := by
      intro hnil
      have hlast := hended.last
      rw [hnil] at hlast
      cases hlast
    rw [← Option.ne_none_iff_exists', Ne, hended.kept.eq_none_iff]
    rintro (hnone | ⟨content, failure, -, hfailed⟩)
    · refine Backend.lastBody?_ne_none (fun sent request hbody => ?_) hsent hnone
      cases hbody
    · cases hfailed
  have hspelled : (Json.obj (ticketFrom (.infinite false)).metadata.toFields).Spelled 0 := by
    refine .obj _ (by decide) ?_
    simp only [RunMetadata.toFields, RunParameters.toFields, List.forall_mem_cons]
    exact ⟨.str _, .null, .null, .null, .null, .null, .null, .null, List.forall_mem_nil _⟩
  exact ⟨hwithin, hfound, after, hcheck, record, hended.kept.readAll_eq isDrawnId_atOnce hspelled⟩

end RunConfig

end RenderRelay
