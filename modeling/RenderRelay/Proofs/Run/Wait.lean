import RenderRelay.Proofs.Backend.Body
import RenderRelay.Proofs.Run.Poll
import RenderRelay.Proofs.Time.Exact

/-! # How long a wait takes

What `wait` answers in exact time, after how many polls and pauses, for every backend.

* `RunConfig.pollOf` is what the poll of number `i` finds, counted from zero, if all polls before
  it have left the run open.
* `RunConfig.waitFor_afterPolls`: polls that leave the run open, each with a pause, only move
  the world on.
* `RunConfig.lastPoll` is the number of the last poll that the time of a run admits; a poll at
  the very end of that time is made.
* `RunConfig.wait_ends`: the run ends with the first poll that finds an image, or fails with the
  first that cannot be read, or its time is up. -/

namespace RenderRelay

namespace RunTicket

variable {τ : Type} (ticket : RunTicket τ)

theorem seen_null : ticket.seen .null .null = ticket := rfl

theorem seen_seen (history fullHistory history' fullHistory' : Json) :
    (ticket.seen history fullHistory).seen history' fullHistory' =
      ticket.seen (if history' = .null then history else history')
        (if fullHistory' = .null then fullHistory else fullHistory') := by
  unfold seen
  by_cases h : history' = .null <;> by_cases hfull : fullHistory' = .null <;> simp [h, hfull]

end RunTicket

namespace RunConfig

/-! ### Polls that leave the run open -/

section Steps

variable {τ : Type} [TimeScale τ] (config : RunConfig τ) (ticket : RunTicket τ) (world : World τ)

/-- What the poll of number `i` finds if those before it have left the run open. -/
def pollOf (i : Nat) : Except Failure Client.Snapshot :=
  config.pollAt ticket (world.sent ++ (List.replicate i (config.pollRequests ticket)).flatten)

/-- The world after `n` polls that have left the run open, each with a pause after it. -/
def afterPolls (n : Nat) : World τ :=
  { world with
    clock := (fun clock => TimeScale.later clock config.pollInterval)^[n] world.clock
    sent := world.sent ++ (List.replicate n (config.pollRequests ticket)).flatten
    pauses := world.pauses ++ List.replicate n (.poll config.pollInterval) }

theorem afterPolls_zero : config.afterPolls ticket world 0 = world := by
  simp [afterPolls]

theorem afterPolls_succ (n : Nat) : config.afterPolls ticket world (n + 1) =
    { config.afterPolls ticket world n with
      clock := TimeScale.later (config.afterPolls ticket world n).clock config.pollInterval
      sent := (config.afterPolls ticket world n).sent ++ config.pollRequests ticket
      pauses := (config.afterPolls ticket world n).pauses ++ [.poll config.pollInterval] } := by
  simp only [afterPolls, Function.iterate_succ_apply', List.replicate_succ', List.flatten_append,
    List.flatten_cons, List.flatten_nil, List.append_nil, List.append_assoc]

omit [TimeScale τ] in
/-- The polls up to a number leave the run open, or there is a first one that does not. -/
theorem leavesOpen_or_first (n : Nat) : (∀ i < n, LeavesOpen (config.pollOf ticket world i)) ∨
    ∃ k < n, (∀ i < k, LeavesOpen (config.pollOf ticket world i)) ∧
      ((∃ image, Finds (config.pollOf ticket world k) image) ∨
        ∃ failure, config.pollOf ticket world k = .error failure) := by
  induction n with
  | zero => exact Or.inl nofun
  | succ n ih =>
      obtain hopen | ⟨k, hk, hfirst⟩ := ih
      · cases hpoll : config.pollOf ticket world n with
        | error failure => exact Or.inr ⟨n, Nat.lt_succ_self n, hopen, Or.inr ⟨failure, hpoll⟩⟩
        | ok snapshot =>
            cases himage : snapshot.image with
            | some image =>
                exact Or.inr ⟨n, Nat.lt_succ_self n, hopen,
                  Or.inl ⟨image, snapshot, hpoll, himage⟩⟩
            | none =>
                refine Or.inl fun i hi => ?_
                obtain hlt | rfl := Nat.lt_succ_iff_lt_or_eq.mp hi
                · exact hopen i hlt
                · exact ⟨snapshot, hpoll, himage⟩
      · exact Or.inr ⟨k, Nat.lt_succ_of_lt hk, hfirst⟩

variable {config ticket world}

theorem waitFor_of_terminal {status : RunStatus τ} {after : World τ}
    (hcheck : config.check ticket world = (.ok status, after)) (hterminal : status.isTerminal) :
    ∀ fuel, config.waitFor fuel ticket world = (.ok status, after)
  | 0 => hcheck
  | fuel + 1 => by
      unfold waitFor
      rw [bind_ok hcheck]
      cases status with
      | polling ticket elapsed => cases hterminal
      | _ => rfl

theorem waitFor_of_error {failure : Failure} {after : World τ}
    (hcheck : config.check ticket world = (.error failure, after)) :
    ∀ fuel, config.waitFor fuel ticket world = (.error failure, after)
  | 0 => hcheck
  | fuel + 1 => by
      unfold waitFor
      rw [bind_error hcheck]

/-- A wait that has ended does not change with the number of polls that it may make. -/
theorem waitFor_add (more : Nat) : ∀ {fuel : Nat} {ticket : RunTicket τ} {world : World τ},
    (∀ later elapsed, (config.waitFor fuel ticket world).1 ≠ .ok (.polling later elapsed)) →
      config.waitFor (fuel + more) ticket world = config.waitFor fuel ticket world := by
  intro fuel
  induction fuel with
  | zero =>
      intro ticket world h
      unfold waitFor at h
      generalize hcheck : config.check ticket world = called at h
      obtain ⟨answer, after⟩ := called
      cases answer with
      | error failure => rw [waitFor_of_error hcheck, waitFor_of_error hcheck]
      | ok status =>
          have hterminal : status.isTerminal := by
            cases status with
            | polling later elapsed => exact absurd rfl (h later elapsed)
            | _ => rfl
          rw [waitFor_of_terminal hcheck hterminal, waitFor_of_terminal hcheck hterminal]
  | succ fuel ih =>
      intro ticket world h
      rw [Nat.add_right_comm]
      generalize hcheck : config.check ticket world = called
      obtain ⟨answer, after⟩ := called
      cases answer with
      | error failure => rw [waitFor_of_error hcheck, waitFor_of_error hcheck]
      | ok status =>
          cases status with
          | polling later elapsed =>
              unfold waitFor at h ⊢
              rw [bind_ok hcheck] at h ⊢
              rw [bind_ok hcheck]
              dsimp only at h ⊢
              rw [bind_ok (Act.pause_apply after config.pollInterval)] at h ⊢
              rw [bind_ok (Act.pause_apply after config.pollInterval)]
              exact ih h
          | _ => rw [waitFor_of_terminal hcheck rfl, waitFor_of_terminal hcheck rfl]

/-- Polls that leave the run open move the world on and change what the ticket has seen. -/
theorem waitFor_afterPolls (fuel : Nat) : ∀ n,
    (∀ i < n, config.Within ticket (config.afterPolls ticket world i).clock) →
    (∀ i < n, LeavesOpen (config.pollOf ticket world i)) →
      ∃ history fullHistory, config.waitFor (fuel + n) ticket world =
        config.waitFor fuel (ticket.seen history fullHistory) (config.afterPolls ticket world n)
  | 0, _, _ => ⟨.null, .null, by rw [afterPolls_zero, RunTicket.seen_null, Nat.add_zero]⟩
  | n + 1, hwithin, hopen => by
      obtain ⟨history, fullHistory, hskip⟩ := waitFor_afterPolls (fuel + 1) n
        (fun i hi => hwithin i (Nat.lt_succ_of_lt hi)) (fun i hi => hopen i (Nat.lt_succ_of_lt hi))
      have hwithin' : config.Within (ticket.seen history fullHistory)
          (config.afterPolls ticket world n).clock := hwithin n (Nat.lt_succ_self n)
      obtain ⟨history', fullHistory', hcheck⟩ :=
        check_of_open hwithin' (hopen n (Nat.lt_succ_self n))
      rw [RunTicket.seen_seen] at hcheck
      have hfuel : fuel + (n + 1) = fuel + 1 + n := by omega
      refine ⟨if history' = .null then history else history',
        if fullHistory' = .null then fullHistory else fullHistory', ?_⟩
      rw [hfuel, hskip, waitFor, bind_ok hcheck]
      dsimp only
      rw [bind_ok (Act.pause_apply _ config.pollInterval), afterPolls_succ]
      rfl

end Steps

/-! ### Exact time -/

section Exact

variable {τ : Type} [Field τ] [LinearOrder τ] [IsStrictOrderedRing τ] [FloorSemiring τ]
  [TimeScale τ]

/-- The number of the last poll that the time of a run admits, counted from zero. -/
def lastPoll (config : RunConfig τ) : Nat := ⌊config.maxWait / (1000 * config.pollInterval)⌋₊

/-- What `polls` polls that leave the run open and the pauses after them leave, and then the
requests `last` and some waits between attempts. -/
structure Polled (config : RunConfig τ) (ticket : RunTicket τ) (world after : World τ)
    (polls : Nat) (last : List Request) (waits : List Double) : Prop where
  clock : after.clock = world.clock + 1000 * polls * config.pollInterval
  sent : after.sent =
    world.sent ++ (List.replicate polls (config.pollRequests ticket)).flatten ++ last
  pauses : after.pauses =
    world.pauses ++ List.replicate polls (.poll config.pollInterval) ++ waits.map Pause.attempt

variable (config : RunConfig τ) (ticket : RunTicket τ) (world : World τ)

/-- The wait ends with the poll of number `k`, which has found an image: the run is done, unless
the records beside the image cannot be read. -/
def EndsWithImage (k : Nat) (image : ImageRef) : Prop :=
  ∃ asked tries waits, config.IsPoll ticket asked ∧
    config.Polled ticket world (config.wait ticket world).2 k
      (asked ++ List.replicate tries ((config.client ticket.baseUrl).viewRequest image)) waits ∧
    ((∃ history fullHistory record, (config.wait ticket world).1 =
        .ok (.done (ticket.seen history fullHistory) (1000 * k * config.pollInterval)
          ⟨image, image.viewUrl ticket.baseUrl, config.proxyUrl ticket.baseUrl image, record⟩)) ∨
      ∃ failure, HistoryStore.readAll world.disk = .error failure ∧
        (config.wait ticket world).1 = .error failure)

/-- The wait ends with the poll of number `k`, by a failure. -/
def EndsWithFailure (k : Nat) (failure : Failure) : Prop :=
  ∃ asked, config.IsPoll ticket asked ∧
    config.Polled ticket world (config.wait ticket world).2 k asked [] ∧
    (config.wait ticket world).1 = .error failure

/-- The wait ends after `polls` polls and as many pauses, and asks for nothing more. -/
def EndsByTime (polls : Nat) : Prop :=
  config.Polled ticket world (config.wait ticket world).2 polls [] [] ∧
    ∃ history fullHistory millis, (config.wait ticket world).1 =
      .ok (.timedOut (ticket.seen history fullHistory) (1000 * polls * config.pollInterval)
        (timeoutFault ticket millis))

variable [ExactTimeScale τ]

omit [IsStrictOrderedRing τ] [FloorSemiring τ] in
theorem clock_afterPolls (n : Nat) : (config.afterPolls ticket world n).clock =
    world.clock + 1000 * n * config.pollInterval := by
  induction n with
  | zero => simp [afterPolls_zero]
  | succ n ih =>
      rw [afterPolls_succ]
      dsimp only
      rw [ExactTimeScale.later_eq, ih]
      push_cast
      ring

omit [IsStrictOrderedRing τ] [FloorSemiring τ] in
theorem polled_afterPolls (n : Nat) :
    config.Polled ticket world (config.afterPolls ticket world n) n [] [] :=
  ⟨clock_afterPolls config ticket world n, (List.append_nil _).symm, (List.append_nil _).symm⟩

variable {config ticket world}

omit [IsStrictOrderedRing τ] [FloorSemiring τ] in
theorem elapsed_afterPolls (hstart : ticket.startedAt = world.clock) (n : Nat) :
    TimeScale.minus (config.afterPolls ticket world n).clock ticket.startedAt =
      1000 * n * config.pollInterval := by
  rw [ExactTimeScale.minus_eq, clock_afterPolls, hstart]
  ring

/-- A poll is made exactly up to the number `lastPoll`. -/
theorem within_afterPolls_iff (hinterval : 0 < config.pollInterval) (hmax : 0 ≤ config.maxWait)
    (hstart : ticket.startedAt = world.clock) (n : Nat) :
    config.Within ticket (config.afterPolls ticket world n).clock ↔ n ≤ config.lastPoll := by
  have hunit : 0 < 1000 * config.pollInterval := by positivity
  unfold Within lastPoll
  rw [elapsed_afterPolls hstart, ← Bool.not_eq_true, ExactTimeScale.exceeds_iff, not_lt,
    Nat.le_floor_iff (by positivity), le_div_iff₀ hunit, mul_left_comm, mul_assoc]

/-- A wait allows more polls than the time of the run admits. -/
theorem lastPoll_lt_pollLimit (hinterval : 0 < config.pollInterval) (hmax : 0 ≤ config.maxWait)
    (hstart : ticket.startedAt = world.clock) :
    config.lastPoll < config.pollLimit ticket world.clock := by
  have hunit : 0 < 1000 * config.pollInterval := by positivity
  have hpauses := ExactTimeScale.lt_pauses config.maxWait config.pollInterval hinterval
  unfold lastPoll pollLimit
  rw [hstart, ExactTimeScale.minus_eq, ExactTimeScale.minus_eq, sub_self, sub_zero,
    Nat.floor_lt (by positivity), div_lt_iff₀ hunit, mul_comm]
  exact hpauses

/-- A wait goes on while its polls leave the run open. -/
theorem wait_afterPolls (hinterval : 0 < config.pollInterval) (hmax : 0 ≤ config.maxWait)
    (hstart : ticket.startedAt = world.clock) {k : Nat} (hk : k ≤ config.lastPoll + 1)
    (hopen : ∀ i < k, LeavesOpen (config.pollOf ticket world i)) :
    ∃ fuel history fullHistory, config.wait ticket world =
      config.waitFor fuel (ticket.seen history fullHistory)
        (config.afterPolls ticket world k) := by
  have hlimit := lastPoll_lt_pollLimit hinterval hmax hstart
  have hwithin : ∀ i < k, config.Within ticket (config.afterPolls ticket world i).clock := by
    intro i hi
    rw [within_afterPolls_iff hinterval hmax hstart]
    omega
  obtain ⟨history, fullHistory, hskip⟩ :=
    waitFor_afterPolls (config.pollLimit ticket world.clock - k) k hwithin hopen
  refine ⟨config.pollLimit ticket world.clock - k, history, fullHistory, ?_⟩
  rw [← hskip, Nat.sub_add_cancel (by omega)]
  unfold wait
  rw [bind_ok (Act.clock_apply world)]

theorem endsWithImage_of_finds (hinterval : 0 < config.pollInterval)
    (hmax : 0 ≤ config.maxWait) (hstart : ticket.startedAt = world.clock) {k : Nat}
    (hk : k ≤ config.lastPoll) {image : ImageRef}
    (hopen : ∀ i < k, LeavesOpen (config.pollOf ticket world i))
    (hfound : Finds (config.pollOf ticket world k) image) :
    config.EndsWithImage ticket world k image := by
  obtain ⟨fuel, history, fullHistory, hwait⟩ :=
    wait_afterPolls hinterval hmax hstart (Nat.le_succ_of_le hk) hopen
  have hwithin : config.Within (ticket.seen history fullHistory)
      (config.afterPolls ticket world k).clock :=
    (within_afterPolls_iff hinterval hmax hstart k).mpr hk
  obtain ⟨answer, asked, after, later, hcheck, hasked, hsettles, ⟨history', fullHistory', rfl⟩,
    hanswer⟩ := check_of_image hwithin (ExactTimeScale.rounded_ok _) hfound
  have helapsed : TimeScale.minus (config.afterPolls ticket world k).clock
      (ticket.seen history fullHistory).startedAt = 1000 * k * config.pollInterval :=
    elapsed_afterPolls hstart k
  rw [helapsed, RunTicket.seen_seen] at hanswer
  have hends : config.wait ticket world = (answer, after) := by
    rw [hwait]
    obtain ⟨record, rfl⟩ | ⟨failure, -, rfl⟩ := hanswer
    · exact waitFor_of_terminal hcheck rfl fuel
    · exact waitFor_of_error hcheck fuel
  obtain ⟨tries, hsent⟩ := hsettles.sent
  obtain ⟨waits, hpauses⟩ := hsettles.pauses
  unfold EndsWithImage
  rw [hends]
  refine ⟨asked, tries, waits, hasked, ⟨?_, ?_, hpauses⟩, ?_⟩
  · exact hsettles.clock.trans (clock_afterPolls config ticket world k)
  · rw [← List.append_assoc]
    exact hsent
  · obtain ⟨record, rfl⟩ | hfailed := hanswer
    · exact Or.inl ⟨_, _, record, rfl⟩
    · exact Or.inr hfailed

theorem endsWithFailure_of_error (hinterval : 0 < config.pollInterval)
    (hmax : 0 ≤ config.maxWait) (hstart : ticket.startedAt = world.clock) {k : Nat}
    (hk : k ≤ config.lastPoll) {failure : Failure}
    (hopen : ∀ i < k, LeavesOpen (config.pollOf ticket world i))
    (hpoll : config.pollOf ticket world k = .error failure) :
    config.EndsWithFailure ticket world k failure := by
  obtain ⟨fuel, history, fullHistory, hwait⟩ :=
    wait_afterPolls hinterval hmax hstart (Nat.le_succ_of_le hk) hopen
  have hwithin : config.Within (ticket.seen history fullHistory)
      (config.afterPolls ticket world k).clock :=
    (within_afterPolls_iff hinterval hmax hstart k).mpr hk
  obtain ⟨asked, hasked, hcheck⟩ := check_of_unreadable hwithin hpoll
  unfold EndsWithFailure
  rw [hwait, waitFor_of_error hcheck fuel]
  exact ⟨asked, hasked, ⟨clock_afterPolls config ticket world k, rfl,
    (List.append_nil _).symm⟩, rfl⟩

theorem endsByTime_of_open (hinterval : 0 < config.pollInterval) (hmax : 0 ≤ config.maxWait)
    (hstart : ticket.startedAt = world.clock)
    (hopen : ∀ i ≤ config.lastPoll, LeavesOpen (config.pollOf ticket world i)) :
    config.EndsByTime ticket world (config.lastPoll + 1) := by
  obtain ⟨fuel, history, fullHistory, hwait⟩ := wait_afterPolls hinterval hmax hstart
    (Nat.le_refl _) (fun i hi => hopen i (Nat.le_of_lt_succ hi))
  have hbeyond : ¬ config.Within (ticket.seen history fullHistory)
      (config.afterPolls ticket world (config.lastPoll + 1)).clock := by
    intro hwithin
    have hle := (within_afterPolls_iff hinterval hmax hstart _).mp hwithin
    omega
  have hcheck := check_of_exceeds hbeyond
  have helapsed : TimeScale.minus (config.afterPolls ticket world (config.lastPoll + 1)).clock
      (ticket.seen history fullHistory).startedAt =
        1000 * ↑(config.lastPoll + 1) * config.pollInterval :=
    elapsed_afterPolls hstart _
  rw [helapsed] at hcheck
  obtain ⟨millis, hmillis⟩ :=
    ExactTimeScale.rounded_ok (1000 * ↑(config.lastPoll + 1) * config.pollInterval)
  rw [hmillis] at hcheck
  unfold EndsByTime
  rw [hwait, waitFor_of_terminal hcheck rfl fuel]
  exact ⟨polled_afterPolls config ticket world _, history, fullHistory, millis, rfl⟩

theorem wait_ne_polling (hinterval : 0 < config.pollInterval) (hmax : 0 ≤ config.maxWait)
    (hstart : ticket.startedAt = world.clock) (later : RunTicket τ) (elapsed : τ) :
    (config.wait ticket world).1 ≠ .ok (.polling later elapsed) := by
  obtain hopen | ⟨k, hk, hopen, ⟨image, hfound⟩ | ⟨failure, hpoll⟩⟩ :=
    config.leavesOpen_or_first ticket world (config.lastPoll + 1)
  · obtain ⟨-, history, fullHistory, millis, hanswer⟩ := endsByTime_of_open hinterval hmax hstart
      fun i hi => hopen i (Nat.lt_succ_of_le hi)
    simp [hanswer]
  · obtain ⟨_, _, _, -, -, ⟨_, _, record, hanswer⟩ | ⟨failure, -, hanswer⟩⟩ :=
      endsWithImage_of_finds hinterval hmax hstart (Nat.le_of_lt_succ hk) hopen hfound
    · simp [hanswer]
    · simp [hanswer]
  · obtain ⟨_, -, -, hanswer⟩ :=
      endsWithFailure_of_error hinterval hmax hstart (Nat.le_of_lt_succ hk) hopen hpoll
    simp [hanswer]

/-- How a wait ends, for every backend: with the first poll that finds an image or cannot be
read, or, if no poll up to `lastPoll` is one of these, after all of them.  No greater bound on
the number of polls changes that.  The job's id is taken to be one that a URL can hold: a poll that
cannot even be asked ends no wait here. -/
theorem wait_ends (hinterval : 0 < config.pollInterval) (hmax : 0 ≤ config.maxWait)
    (hstart : ticket.startedAt = world.clock) :
    (∀ k ≤ config.lastPoll, (∀ i < k, LeavesOpen (config.pollOf ticket world i)) →
      (∀ image, Finds (config.pollOf ticket world k) image →
        config.EndsWithImage ticket world k image) ∧
      (∀ failure, config.pollOf ticket world k = .error failure →
        config.EndsWithFailure ticket world k failure)) ∧
    ((∀ i ≤ config.lastPoll, LeavesOpen (config.pollOf ticket world i)) →
      config.EndsByTime ticket world (config.lastPoll + 1)) ∧
    ∀ more, config.waitFor (config.pollLimit ticket world.clock + more) ticket world =
      config.wait ticket world := by
  refine ⟨?_, endsByTime_of_open hinterval hmax hstart, ?_⟩
  · intro k hk hopen
    refine ⟨?_, ?_⟩
    · intro image hfound
      exact endsWithImage_of_finds hinterval hmax hstart hk hopen hfound
    · intro failure hpoll
      exact endsWithFailure_of_error hinterval hmax hstart hk hopen hpoll
  · intro more
    have hends := wait_ne_polling hinterval hmax hstart
    unfold wait at hends ⊢
    rw [bind_ok (Act.clock_apply world)] at hends ⊢
    exact waitFor_add more hends

end Exact

/-! ### A run of ten seconds -/

/-- A run that is polled every second and a half for ten seconds, in exact time. -/
def tenSeconds (backend : Backend) : RunConfig ℚ where
  backend := backend
  timeouts := .standard
  patience := ⟨.standard, fun _ => .zero false⟩
  production := false
  proxyUrl := fun _ _ => ImageRef.proxyPath
  clientId := "client"
  drawnSeed := 0
  newId := fun _ => "id"
  pollInterval := 3 / 2
  maxWait := 10000

/-- A job that the backend accepts at zero. -/
def ticketAtZero : RunTicket ℚ where
  jobId := "job"
  baseUrl := "http://backend"
  startedAt := 0
  clientId := .null
  parameters := RunParameters.ofFields []
  summary := none
  warnings := []
  lastHistory := .null
  lastFullHistory := .null

/-- An empty directory at zero. -/
def worldAtZero : World ℚ := ⟨0, .empty, [], [], 0⟩

/-- A backend that cannot be reached. -/
def unreachable : Backend := fun _ _ => .failure ⟨.connect, "ConnectError", ""⟩

theorem lastPoll_tenSeconds (backend : Backend) : (tenSeconds backend).lastPoll = 6 := by
  unfold lastPoll tenSeconds
  rw [Nat.floor_eq_iff (by norm_num)]
  norm_num

theorem leavesOpen_unreachable (i : Nat) :
    LeavesOpen ((tenSeconds unreachable).pollOf ticketAtZero worldAtZero i) :=
  ⟨⟨none, .null, .null⟩, rfl, rfl⟩

/-- An unreachable backend is polled seven times, the last time after nine seconds. -/
theorem wait_ends_unreachable :
    0 < (tenSeconds unreachable).pollInterval ∧ 0 ≤ (tenSeconds unreachable).maxWait ∧
      ticketAtZero.startedAt = worldAtZero.clock ∧
      (tenSeconds unreachable).EndsByTime ticketAtZero worldAtZero 7 := by
  have hinterval : 0 < (tenSeconds unreachable).pollInterval := by norm_num [tenSeconds]
  have hmax : 0 ≤ (tenSeconds unreachable).maxWait := by norm_num [tenSeconds]
  refine ⟨hinterval, hmax, rfl, ?_⟩
  have hends := (wait_ends hinterval hmax (rfl : ticketAtZero.startedAt = worldAtZero.clock)).2.1
    (fun i _ => leavesOpen_unreachable i)
  rwa [lastPoll_tenSeconds] at hends

/-- A backend that answers every request with an integer of one digit more than is read. -/
def longInteger : Backend := fun _ _ =>
  .response ⟨200, Bytes.encode (String.ofList (Number.natDigits (10 ^ Number.maxDigits))), none⟩

theorem json_longInteger : Response.json
    ⟨200, Bytes.encode (String.ofList (Number.natDigits (10 ^ Number.maxDigits))), none⟩ =
      .error .unreadable := by
  refine Response.json_of_long_integer (Nat.lt_of_not_le fun hle => ?_) 200 none
  rw [Number.digitCount_le_iff (by decide)] at hle
  exact Nat.lt_irrefl _ hle

/-- One body that cannot be read ends a wait, although no poll has found an image. -/
theorem wait_unreadable_body :
    ((tenSeconds longInteger).wait ticketAtZero worldAtZero).1 = .error .unreadable := by
  have hpoll : (tenSeconds longInteger).pollOf ticketAtZero worldAtZero 0 = .error .unreadable :=
    Client.pollAt_of_unreadable _ _ _ rfl rfl json_longInteger
  have hinterval : 0 < (tenSeconds longInteger).pollInterval := by norm_num [tenSeconds]
  have hmax : 0 ≤ (tenSeconds longInteger).maxWait := by norm_num [tenSeconds]
  obtain ⟨-, -, -, hanswer⟩ := endsWithFailure_of_error hinterval hmax
    (rfl : ticketAtZero.startedAt = worldAtZero.clock) (Nat.zero_le _) nofun hpoll
  exact hanswer

end RunConfig

end RenderRelay
