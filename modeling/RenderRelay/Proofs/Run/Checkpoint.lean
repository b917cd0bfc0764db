import RenderRelay.Proofs.Run.Poll

/-! # Runs that are followed from checkpoints

A run can be followed by one loop that keeps its ticket, or by one that keeps only the fields
of the ticket between two polls and makes the ticket again from them.

* `RunTicket.forget` drops what the polls have seen, which is all that the fields leave out:
  `RunTicket.ofFields_toFields`.
* `RunConfig.check_agree`: what the polls have seen has no influence on a call of `check`.
* `RunConfig.follow` is the loop that keeps fields.
* `RunConfig.follow_agrees_with_wait`: both loops do the same to the world, and their answers
  differ at most in what the polls have seen. -/

namespace RenderRelay

/-- The ticket without what the polls have seen. -/
def RunTicket.forget {τ : Type} (ticket : RunTicket τ) : RunTicket τ :=
  { ticket with lastHistory := .null, lastFullHistory := .null }

/-- The state without what the polls have seen. -/
def RunStatus.forget {τ : Type} : RunStatus τ → RunStatus τ
  | .polling ticket elapsed => .polling ticket.forget elapsed
  | .done ticket elapsed result => .done ticket.forget elapsed result
  | .timedOut ticket elapsed fault => .timedOut ticket.forget elapsed fault
  | .failed fault => .failed fault

namespace RunTicket

theorem exists_of_forget_eq {τ : Type} {ticket other : RunTicket τ}
    (h : ticket.forget = other.forget) : ∃ history fullHistory,
      ticket = { other with lastHistory := history, lastFullHistory := fullHistory } := by
  refine ⟨ticket.lastHistory, ticket.lastFullHistory, ?_⟩
  obtain ⟨⟩ := ticket
  obtain ⟨⟩ := other
  simp only [forget, RunTicket.mk.injEq] at h ⊢
  simp [h]

/-- The fields of a ticket hold all of it but what the polls have seen. -/
theorem ofFields_toFields (ticket : RunTicket Double) :
    ofFields ticket.toFields = .ok ticket.forget := by
  obtain ⟨jobId, baseUrl, startedAt, clientId, parameters, summary, warnings, history, full⟩ :=
    ticket
  cases summary with
  | none => rfl
  | some fields => rfl

end RunTicket

/-! ### What the polls have seen has no influence -/

/-- Two ends of a step: the same world, and the same state but for what the polls have seen. -/
def Agree {τ : Type} (first second : Except Failure (RunStatus τ) × World τ) : Prop :=
  first.1.map RunStatus.forget = second.1.map RunStatus.forget ∧ first.2 = second.2

theorem agree_refl {τ : Type} (last : Except Failure (RunStatus τ) × World τ) : Agree last last :=
  ⟨rfl, rfl⟩

theorem agree_ok {τ : Type} {first second : RunStatus τ} (h : first.forget = second.forget)
    (after : World τ) : Agree (.ok first, after) (.ok second, after) :=
  ⟨congrArg Except.ok h, rfl⟩

theorem agree_bind {τ α : Type} {act : Act τ α} {next next' : α → Act τ (RunStatus τ)}
    (h : ∀ value after, Agree (next value after) (next' value after)) (world : World τ) :
    Agree ((act >>= next) world) ((act >>= next') world) :=
  bind_alike agree_refl h

namespace RunConfig

variable {τ : Type} [TimeScale τ] {config : RunConfig τ} {ticket other : RunTicket τ}
  {world : World τ}

theorem complete_agree (h : ticket.forget = other.forget) (client : Client) (image : ImageRef)
    (elapsed : τ) (world : World τ) :
    Agree (config.complete client ticket image elapsed world)
      (config.complete client other image elapsed world) := by
  obtain ⟨history, fullHistory, rfl⟩ := RunTicket.exists_of_forget_eq h
  unfold complete
  refine agree_bind (fun content after => ?_) world
  cases content with
  | none =>
      refine agree_bind (fun record last => ?_) after
      refine agree_bind (fun millis last => ?_) last
      exact agree_ok rfl last
  | some content =>
      refine agree_bind (fun record last => ?_) after
      refine agree_bind (fun millis last => ?_) last
      exact agree_ok rfl last

/-- What the polls have seen has no influence on a call of `check`. -/
theorem check_agree (h : ticket.forget = other.forget) (world : World τ) :
    Agree (config.check ticket world) (config.check other world) := by
  obtain ⟨history, fullHistory, rfl⟩ := RunTicket.exists_of_forget_eq h
  unfold check
  refine agree_bind (fun clock after => ?_) world
  dsimp only
  split_ifs with hexceeds
  · refine agree_bind (fun millis last => ?_) after
    exact agree_ok rfl last
  · refine agree_bind (fun snapshot last => ?_) after
    cases snapshot.image with
    | none => exact agree_ok rfl last
    | some image =>
        refine complete_agree ?_ (config.client other.baseUrl) image
          (TimeScale.minus clock other.startedAt) last
        rfl

/-! ### The loop that keeps fields -/

/-- One attempt of the loop that keeps fields: makes the ticket again and calls `check`. -/
def recheck (config : RunConfig τ) (saved : Fields) : Act τ (RunStatus τ) := do
  config.check (← Act.ofExcept (RunTicket.ofFields saved))

/-- Polls until the run has ended, at most `fuel` more times after this one, and keeps only the
fields of its ticket from one poll to the next. -/
def followFor (config : RunConfig τ) : (fuel : Nat) → Fields → Act τ (RunStatus τ)
  | 0, saved => config.recheck saved
  | fuel + 1, saved => do
      match ← config.recheck saved with
      | .polling ticket _ => do
          Act.pause config.pollInterval
          followFor config fuel ticket.toFields
      | status => return status

/-- Follows a run to its end and keeps only the fields of its ticket from one poll to the next. -/
def follow (config : RunConfig τ) (ticket : RunTicket τ) : Act τ (RunStatus τ) := do
  config.followFor (config.pollLimit ticket (← Act.clock)) ticket.toFields

end RunConfig

namespace RunConfig

variable (config : RunConfig Double)

theorem recheck_toFields (ticket : RunTicket Double) :
    config.recheck ticket.toFields = config.check ticket.forget := by
  unfold recheck
  rw [RunTicket.ofFields_toFields]
  rfl

theorem recheck_agree {ticket other : RunTicket Double} (h : ticket.forget = other.forget)
    (world : World Double) :
    Agree (config.recheck ticket.toFields world) (config.check other world) := by
  rw [recheck_toFields]
  have hforget : ticket.forget.forget = other.forget := h
  exact check_agree hforget world

/-- Both loops do the same to the world, and end in the same state but for what the polls have
seen. -/
theorem followFor_agree (fuel : Nat) {ticket other : RunTicket Double}
    (h : ticket.forget = other.forget) (world : World Double) :
    Agree (config.followFor fuel ticket.toFields world) (config.waitFor fuel other world) := by
  induction fuel generalizing ticket other world with
  | zero => exact config.recheck_agree h world
  | succ fuel ih =>
      have hcheck := config.recheck_agree h world
      unfold followFor waitFor
      generalize hfirst : config.recheck ticket.toFields world = first at hcheck
      generalize hsecond : config.check other world = second at hcheck
      obtain ⟨answer, after⟩ := first
      obtain ⟨answer', after'⟩ := second
      obtain ⟨hanswer, rfl : after = after'⟩ := hcheck
      cases answer with
      | error failure =>
          cases answer' with
          | error failure' =>
              rw [bind_error hfirst, bind_error hsecond]
              exact ⟨hanswer, rfl⟩
          | ok status' => cases hanswer
      | ok status =>
          cases answer' with
          | error failure' => cases hanswer
          | ok status' =>
              have hstatus : status.forget = status'.forget := Except.ok.inj hanswer
              rw [bind_ok hfirst, bind_ok hsecond]
              cases status with
              | polling next elapsed =>
                  cases status' with
                  | polling next' elapsed' =>
                      have hnext : next.forget = next'.forget := (RunStatus.polling.inj hstatus).1
                      dsimp only
                      rw [bind_ok (Act.pause_apply after config.pollInterval),
                        bind_ok (Act.pause_apply after config.pollInterval)]
                      exact ih hnext _
                  | _ => cases hstatus
              | _ =>
                  cases status' with
                  | polling next' elapsed' => cases hstatus
                  | _ => exact ⟨hanswer, rfl⟩

/-- A run that is followed from checkpoints goes as one that is waited for: the same requests,
pauses and writes, and the same end but for what the polls have seen.  The same holds of every
first part of the two loops. -/
theorem follow_agrees_with_wait (ticket : RunTicket Double) (world : World Double) :
    Agree (config.follow ticket world) (config.wait ticket world) ∧
      ∀ polls, Agree (config.followFor polls ticket.toFields world)
        (config.waitFor polls ticket world) := by
  refine ⟨?_, fun polls => config.followFor_agree polls rfl world⟩
  unfold follow wait
  exact agree_bind (fun clock after => config.followFor_agree _ rfl after) world

end RunConfig

end RenderRelay
