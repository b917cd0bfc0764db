import RenderRelay.Proofs.Run.Submit

/-! # What comes of a reply

* `Faults` says that an answer is a value or a fault, and no other failure.
* `Reply.Judged` says what a client makes of a reply: a value, a fault, or the failure of a body
  that cannot be read.
* `Client.judged_upload`, `Client.judged_prompt`: the two requests of a submission are judged so; an
  uploaded image by its name (`Client.Names`), a job by its id (`Client.Queues`). -/

namespace RenderRelay

/-! ### Faults -/

/-- The answer is no failure but a fault. -/
def Faults {α : Type} (answer : Except Failure α) : Prop :=
  ∀ failure, answer = .error failure → ∃ fault, failure = .fault fault

section Faults

variable {α β : Type}

theorem faults_ok (value : α) : Faults (.ok value : Except Failure α) := by
  intro failure h
  cases h

theorem faults_fault (fault : Fault) : Faults (.error (.fault fault) : Except Failure α) := by
  rintro _ ⟨⟩
  exact ⟨fault, rfl⟩

theorem Faults.bind {act : Except Failure α} {next : α → Except Failure β} (h : Faults act)
    (hnext : ∀ value, act = .ok value → Faults (next value)) : Faults (act >>= next) := by
  cases act with
  | error failure =>
      rintro _ ⟨⟩
      exact h failure rfl
  | ok value => exact hnext value rfl

end Faults

/-! ### What comes of a reply -/

theorem Response.unreadable_of_json {response : Response} {failure : Failure}
    (h : response.json = .error failure) : failure = .unreadable := by
  unfold Response.json at h
  split at h
  · cases h
  · split at h
    · cases h
    · split_ifs at h
      exact (Except.error.inj h).symm

namespace Reply

/-- A successful response with a body that cannot be read: JSON with an integer of too many
digits. -/
def Unreadable (reply : Reply) : Prop :=
  ∃ response, reply = .response response ∧ response.isSuccess = true ∧
    response.json = .error .unreadable

/-- A request comes to a value if its reply is a response that accepts it with the value, to the
failure of a body that cannot be read, or to a fault. -/
structure Judged {α : Type} (accepts : Response → α → Prop) (reply : Reply)
    (answer : Except Failure α) : Prop where
  ok_iff : ∀ value, answer = .ok value ↔ ∃ response, reply = .response response ∧
    accepts response value
  unreadable_iff : answer = .error .unreadable ↔ reply.Unreadable
  failed : ∀ failure, answer = .error failure →
    failure = .unreadable ∨ ∃ fault, failure = .fault fault

variable {α : Type} {accepts : Response → α → Prop}

theorem judged_failure (failure : TransportFailure) (fault : Fault) :
    Judged accepts (.failure failure) (.error (.fault fault)) where
  ok_iff value := iff_of_false nofun (by rintro ⟨response, ⟨⟩, -⟩)
  unreadable_iff := iff_of_false nofun (by rintro ⟨response, ⟨⟩, -⟩)
  failed := by
    rintro _ ⟨⟩
    exact Or.inr ⟨fault, rfl⟩

/-- A response is judged by its status, then by its body, then by the JSON in it. -/
theorem judged_response {response : Response} {answer : Except Failure α}
    (haccepts : ∀ value, accepts response value →
      response.isSuccess = true ∧ ∃ data, response.json = .ok data)
    (hrefused : response.isSuccess = false → ∃ fault, answer = .error (.fault fault))
    (hunreadable : response.isSuccess = true → response.json = .error .unreadable →
      answer = .error .unreadable)
    (hread : ∀ data, response.isSuccess = true → response.json = .ok data →
      (∃ fault, answer = .error (.fault fault) ∧ ∀ value, ¬ accepts response value) ∨
        ∃ made, answer = .ok made ∧ ∀ value, accepts response value ↔ value = made) :
    Judged accepts (.response response) answer := by
  have hok : ∀ value, (∃ other, Reply.response response = .response other ∧ accepts other value) ↔
      accepts response value := by
    intro value
    constructor
    · rintro ⟨other, ⟨⟩, h⟩
      exact h
    · exact fun h => ⟨response, rfl, h⟩
  have hbody : (Reply.response response).Unreadable ↔
      response.isSuccess = true ∧ response.json = .error .unreadable := by
    constructor
    · rintro ⟨other, ⟨⟩, h⟩
      exact h
    · exact fun h => ⟨response, rfl, h⟩
  cases hsuccess : response.isSuccess with
  | false =>
      obtain ⟨fault, rfl⟩ := hrefused hsuccess
      refine ⟨fun value => ?_, ?_, fun failure h => Or.inr (faults_fault fault failure h)⟩
      · rw [hok]
        refine iff_of_false nofun fun h => ?_
        rw [(haccepts value h).1] at hsuccess
        cases hsuccess
      · rw [hbody, hsuccess]
        exact iff_of_false nofun nofun
  | true =>
      cases hjson : response.json with
      | error failure =>
          obtain rfl := Response.unreadable_of_json hjson
          obtain rfl := hunreadable hsuccess hjson
          refine ⟨fun value => ?_, iff_of_true rfl (hbody.mpr ⟨hsuccess, hjson⟩), ?_⟩
          · rw [hok]
            refine iff_of_false nofun fun h => ?_
            obtain ⟨-, data, hdata⟩ := haccepts value h
            cases hjson.symm.trans hdata
          · rintro _ ⟨⟩
            exact Or.inl rfl
      | ok data =>
          have hreadable : ¬ (Reply.response response).Unreadable := by
            rw [hbody, hjson]
            nofun
          obtain ⟨fault, rfl, hnone⟩ | ⟨made, rfl, hmade⟩ := hread data hsuccess hjson
          · refine ⟨fun value => ?_, iff_of_false nofun hreadable,
              fun failure h => Or.inr (faults_fault fault failure h)⟩
            rw [hok]
            exact iff_of_false nofun (hnone value)
          · refine ⟨fun value => ?_, iff_of_false nofun hreadable, fun failure h => ?_⟩
            · rw [hok, hmade]
              exact ⟨fun h => (Except.ok.inj h).symm, fun h => congrArg Except.ok h.symm⟩
            · cases h

end Reply

namespace Client

variable (client : Client) (backend : Backend)

/-- The response gives an uploaded image a name that can be used: it is a successful one with an
object, whose name, or else file name, or else the name that was sent, is a text and not empty. -/
def Names (filename : String) (response : Response) (name : String) : Prop :=
  response.isSuccess = true ∧ ∃ (fields : Fields) (base : String),
    response.json = .ok (.obj fields) ∧
    orElse (fields.get "name") (orElse (fields.get "filename") (.str filename)) = .str base ∧
    base ≠ "" ∧ name = nameInFolder (fields.get "subfolder") base

/-- The response accepts a job under an id: it is a successful one with an object, whose prompt id
is neither null nor empty. -/
def Queues (response : Response) (jobId : String) : Prop :=
  response.isSuccess = true ∧ ∃ fields : Fields, response.json = .ok (.obj fields) ∧
    fields.get "prompt_id" ≠ .null ∧ fields.get "prompt_id" ≠ .str "" ∧
    jobId = (fields.get "prompt_id").display

/-- The request that uploads an input image. -/
def uploadRequest (image : InputImage) : Request :=
  client.request .post "/upload/image" []
    (.file ⟨"image", image.filename, uploadMedia image.filename image.contentType, image.content⟩)

/-- The request that uploads the input image, if there is one. -/
def uploads (image : Option InputImage) : List Request := (image.map client.uploadRequest).toList

/-- What the reply to an uploaded image comes to. -/
def uploadAnswer (image : InputImage) : Reply → Except Failure String
  | .response response => uploadedName image.filename response
  | .failure failure =>
      .error (.fault (client.transportFault "/upload/image" client.timeouts.upload failure))

/-- Uploading an image sends one request and answers what its reply comes to. -/
theorem upload_apply (image : InputImage) (traffic : Traffic) :
    client.upload backend image.filename image.content image.contentType traffic =
      (client.uploadAnswer image (backend traffic.sent (client.uploadRequest image)),
        ⟨traffic.sent ++ [client.uploadRequest image], traffic.waits⟩) := by
  unfold uploadRequest upload
  cases hreply : backend traffic.sent (client.request .post "/upload/image" []
    (.file ⟨"image", image.filename, uploadMedia image.filename image.contentType,
      image.content⟩)) with
  | response response =>
      refine bind_ok ?_
      unfold exchange call Traffic.send
      rw [hreply]
      rfl
  | failure failure =>
      refine bind_error ?_
      unfold exchange call Traffic.send
      rw [hreply]
      rfl

theorem queues_iff {response : Response} {data : Json} (hsuccess : response.isSuccess = true)
    (hjson : response.json = .ok data) (jobId : String) :
    Queues response jobId ↔ data.get "prompt_id" ≠ .null ∧ data.get "prompt_id" ≠ .str "" ∧
      jobId = (data.get "prompt_id").display := by
  constructor
  · rintro ⟨-, fields, hfields, h⟩
    obtain rfl := Except.ok.inj (hjson.symm.trans hfields)
    exact h
  · intro h
    cases data with
    | obj fields => exact ⟨hsuccess, fields, hjson, h⟩
    | _ => exact absurd rfl h.1

theorem judged_prompt (reply : Reply) : reply.Judged Queues (client.promptAnswer reply) := by
  cases reply with
  | failure failure => exact Reply.judged_failure failure _
  | response response =>
      change Reply.Judged Queues (.response response) (submittedId response)
      unfold submittedId
      refine Reply.judged_response ?_ ?_ ?_ ?_
      · rintro jobId ⟨hsuccess, fields, hjson, -⟩
        exact ⟨hsuccess, _, hjson⟩
      · intro hsuccess
        rw [hsuccess]
        exact ⟨_, rfl⟩
      · intro hsuccess hjson
        rw [hsuccess, hjson]
        rfl
      · intro data hsuccess hjson
        have hqueues := queues_iff hsuccess hjson
        rw [hsuccess, hjson, if_neg (by decide)]
        dsimp only [bind, Except.bind]
        split
        · rename_i hnull
          exact Or.inl ⟨_, rfl, fun jobId h => ((hqueues jobId).mp h).1 hnull⟩
        · rename_i hempty
          exact Or.inl ⟨_, rfl, fun jobId h => ((hqueues jobId).mp h).2.1 hempty⟩
        · rename_i hnull hempty
          refine Or.inr ⟨_, rfl, fun jobId => (hqueues jobId).trans ?_⟩
          exact ⟨fun h => h.2.2, fun h => ⟨hnull, hempty, h⟩⟩

theorem names_iff (filename : String) {response : Response} {fields : Fields}
    (hsuccess : response.isSuccess = true) (hjson : response.json = .ok (.obj fields))
    (name : String) : Names filename response name ↔ ∃ base : String,
      orElse (fields.get "name") (orElse (fields.get "filename") (.str filename)) = .str base ∧
      base ≠ "" ∧ name = nameInFolder (fields.get "subfolder") base := by
  constructor
  · rintro ⟨-, others, base, hothers, h⟩
    obtain rfl := Json.obj.inj (Except.ok.inj (hjson.symm.trans hothers))
    exact ⟨base, h⟩
  · rintro ⟨base, h⟩
    exact ⟨hsuccess, fields, base, hjson, h⟩

theorem judged_upload (image : InputImage) (reply : Reply) :
    reply.Judged (Names image.filename) (client.uploadAnswer image reply) := by
  cases reply with
  | failure failure => exact Reply.judged_failure failure _
  | response response =>
      change Reply.Judged (Names image.filename) (.response response)
        (uploadedName image.filename response)
      unfold uploadedName
      refine Reply.judged_response ?_ ?_ ?_ ?_
      · rintro name ⟨hsuccess, fields, base, hjson, -⟩
        exact ⟨hsuccess, _, hjson⟩
      · intro hsuccess
        rw [hsuccess]
        exact ⟨_, rfl⟩
      · intro hsuccess hjson
        rw [hsuccess, hjson]
        rfl
      · intro data hsuccess hjson
        rw [hsuccess, hjson, if_neg (by decide)]
        dsimp only [bind, Except.bind]
        cases data with
        | obj fields =>
            have hnames := names_iff image.filename hsuccess hjson
            have hobject : ¬ (Json.obj fields).fields?.isNone = true := Bool.false_ne_true
            rw [if_neg hobject]
            split
            · rename_i base hbase
              have hsame : ∀ other : String, orElse (Fields.get fields "name")
                  (orElse (Fields.get fields "filename") (.str image.filename)) = .str other →
                    other = base := fun other hother => Json.str.inj (hother.symm.trans hbase)
              split_ifs with hempty
              · refine Or.inl ⟨_, rfl, fun name h => ?_⟩
                obtain ⟨other, hother, hne, -⟩ := (hnames name).mp h
                obtain rfl := hsame other hother
                exact hne (String.isEmpty_iff.mp hempty)
              · refine Or.inr ⟨_, rfl, fun name => (hnames name).trans ?_⟩
                constructor
                · rintro ⟨other, hother, -, rfl⟩
                  obtain rfl := hsame other hother
                  rfl
                · exact fun h => ⟨base, hbase, fun h => hempty (String.isEmpty_iff.mpr h), h⟩
            · rename_i hother
              refine Or.inl ⟨_, rfl, fun name h => ?_⟩
              obtain ⟨base, hbase, -⟩ := (hnames name).mp h
              exact hother base hbase
        | _ =>
            refine Or.inl ⟨_, rfl, ?_⟩
            rintro name ⟨-, fields, base, hfields, -⟩
            cases hjson.symm.trans hfields

end Client

end RenderRelay
