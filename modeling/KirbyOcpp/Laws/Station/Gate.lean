import KirbyOcpp.Ledger.Runs

/-!
# The registration gate

The gate is passed once, when a CALL is made. Its task may hand attempts to the connection as long as the
CALL is pending, so an attempt is out of order as soon as the registration has changed in between.

**The law** `attempts_registered`: every attempt of a CALL whose registration was not taken away while it
was in flight finds the station registered.
-/

namespace KirbyOcpp

open Paths Relation

/-! ## What the gate lets through -/

/-- What a registration without `Accepted` lets through, a better one lets through. -/
theorem PendingCall.passes_accepted (call : PendingCall) : call.passes (some .accepted) = true := by
  unfold PendingCall.passes
  cases call.origin <;> rfl

/-- The gate finds the station registered at an attempt. -/
def Attempt.Registered (attempt : Attempt) : Prop :=
  (attempt.call.origin = .station → attempt.call.request.isBoot = false →
    attempt.registration = some .accepted) ∧
  (attempt.call.origin = .triggered →
    attempt.registration = some .accepted ∨ attempt.registration = some .pending)

theorem Attempt.registered_of_passes {attempt : Attempt}
    (boot : attempt.call.request.isBoot = true → attempt.call.origin = .station)
    (passes : attempt.call.passes attempt.registration = true) : attempt.Registered := by
  unfold PendingCall.passes at passes
  constructor
  · intro station other
    rw [station, other] at passes
    cases known : attempt.registration with
    | none => simp [known] at passes
    | some status => cases status <;> simp_all
  · intro triggered
    have other : attempt.call.request.isBoot = false := by
      by_contra isBoot
      have station := boot (by simpa using isBoot)
      rw [triggered] at station
      cases station
    rw [triggered, other] at passes
    cases known : attempt.registration with
    | none => simp [known] at passes
    | some status => cases status <;> simp_all

/-! ## The CALLs in flight -/

/-- A CALL in flight was in flight before, or it has just been sent. -/
theorem Trans.calls {allow : Allow} {l l' : Ledger} (step : Trans allow l l') :
    ∀ call ∈ l'.calls, call ∈ l.calls ∨ l.Sends call := by
  intro call mem
  have sent (new : PendingCall) (sends : l.Sends new) (mem : call ∈ l.calls ++ [new]) :
      call ∈ l.calls ∨ l.Sends call := by
    rcases List.mem_append.mp mem with old | fresh
    · exact .inl old
    · obtain rfl : call = new := by simpa using fresh
      exact .inr sends
  cases step with
  | quiet step =>
    cases step with
    | send new sends => exact sent new sends mem
    | sendEvent new sends => exact sent new sends mem
    | _ => exact .inl mem
  | sendStart _ _ new _ _ sends => exact sent new sends mem
  | sendClose _ _ new _ sends => exact sent new sends mem
  | sendStop _ _ _ _ _ _ _ new _ _ sends => exact sent new sends mem
  | sendNext _ _ _ _ _ new _ _ sends => exact sent new sends mem
  | sendReady _ _ _ _ new _ sends => exact sent new sends mem
  | takeCall => exact .inl (List.mem_filter.mp mem).1
  | abandon => exact .inl (List.mem_filter.mp mem).1
  | dropLink => cases mem
  | drain => cases mem
  | _ => exact .inl mem

/-- Without a loss of registration it stays, it is accepted, or nothing is in flight. -/
theorem Trans.registration {allow : Allow} (keeps : allow.lowers = false) (finishes : allow.abandon = false)
    {l l' : Ledger} (step : Trans allow l l') :
    l'.registration = l.registration ∨ l'.registration = some .accepted ∨ l'.calls = [] := by
  cases step with
  | quiet step => exact .inl step.frame.registration
  | register _ _ lowers => simp [keeps] at lowers
  | acceptBoot => exact .inr (.inl rfl)
  | dropLink => exact .inr (.inr rfl)
  | halt _ _ _ done => exact .inr (.inr (by simpa [finishes] using done))
  | _ => exact .inl rfl

/-- Only the station itself sends `BootNotification`. -/
def BootOfStation (l : Ledger) : Prop :=
  ∀ call ∈ l.calls, call.request.isBoot = true → call.origin = .station

theorem bootOfStation_preserved (allow : Allow) : Preserves (Trans allow) BootOfStation := by
  intro l l' step h call mem
  rcases step.calls call mem with old | sends
  · exact h call old
  · exact sends.boot

/-- The CALLs in flight that satisfy `P` are let through. -/
def Gated (P : PendingCall → Prop) (l : Ledger) : Prop :=
  ∀ call ∈ l.calls, P call → call.passes l.registration = true

theorem gated_preserved {allow : Allow} (keeps : allow.lowers = false) (finishes : allow.abandon = false)
    (P : PendingCall → Prop) : Preserves (Trans allow) (Gated P) := by
  intro l l' step h call mem holds
  have before : call.passes l.registration = true := by
    rcases step.calls call mem with old | sends
    · exact h call old holds
    · exact sends.passes
  rcases step.registration keeps finishes with same | accepted | nothing
  · rw [same]
    exact before
  · rw [accepted]
    exact call.passes_accepted
  · rw [nothing] at mem
    cases mem

/-! ## Iterations that lower the registration -/

namespace Actor

/-- All that a run may do, a loss of registration included or not. -/
def losing (loses : Bool) : Allow := { lowers := loses, abandon := loses }

/-- The completions that need no permission: a boot is accepted, or the registration may be lost. -/
theorem mayComplete_losing {loses : Bool} (a : Actor) (continuation : Cont) (result : CallResult)
    (accepted : loses = true ∨ ∀ generation reply response, continuation = .boot generation reply →
      decodeBoot result = .ok response → response.status = .accepted) :
    MayComplete (losing loses) a continuation result := by
  cases continuation with
  | startResult => exact fun _ _ _ => ⟨.inl rfl, .inl rfl, rfl⟩
  | stopResult => exact ⟨.inl rfl, fun _ => .inl rfl⟩
  | syncStart =>
    intro response e _ _
    unfold MayDeliver
    split
    · exact ⟨.inl rfl, .inl rfl⟩
    · exact ⟨rfl, .inl rfl, .inl rfl⟩
  | authorize _ done =>
    cases done with
    | reply => trivial
    | remoteStart => exact fun _ _ _ _ => ⟨rfl, fun _ => .inl rfl⟩
  | meterValues => exact fun _ => rfl
  | boot generation reply =>
    intro response decoded
    split
    · exact .inl rfl
    · rename_i other
      exact accepted.resolve_right fun accepted => other (accepted _ _ _ rfl decoded)
  | _ => trivial

/-- What does not lower the registration needs no permission to. -/
theorem permits_losing {loses : Bool} (a : Actor) (input : Input)
    (may : loses = true ∨ (a.stopped = false ∧ a.lowers input = none)) :
    Permits (losing loses) a input := by
  have closes : (losing loses).Closes a.limited := ⟨rfl, rfl, .inl fun _ => rfl⟩
  cases input with
  | shutdown =>
    obtain rfl : loses = true := may.resolve_right fun ⟨running, same⟩ => by simp [lowers, running] at same
    exact ⟨closes, .inl rfl⟩
  | command command reply =>
    cases command with
    | startTransaction => exact ⟨rfl, fun _ => .inl rfl⟩
    | stopTransaction => rfl
    | meterValues => exact fun _ => rfl
    | plugIn => exact .inl rfl
    | fault => exact ⟨rfl, rfl⟩
    | clearFault => exact ⟨.inl rfl, .inl rfl⟩
    | unplug => exact ⟨.inl rfl, .inl rfl, .inl rfl⟩
    | setConnectorStatus => exact ⟨rfl, rfl, rfl⟩
    | cycleConnectorStatus => exact ⟨rfl, rfl, rfl⟩
    | disconnect => exact closes
    | reconnect => exact closes
    | _ => trivial
  | incoming call =>
    intro conn
    cases call with
    | remoteStart connectorId idTag profile =>
      intro id _
      split
      · exact fun _ _ _ => ⟨rfl, fun _ => .inl rfl⟩
      · exact ⟨rfl, fun _ => .inl rfl⟩
    | remoteStop => exact fun _ _ _ => rfl
    | unlockConnector => rfl
    | changeAvailability => rfl
    | reserveNow => exact .inl rfl
    | cancelReservation => exact .inl rfl
    | reset kind =>
      refine ⟨?_, fun _ _ _ => rfl, .inl rfl, .inl rfl⟩
      exact may.resolve_right fun ⟨running, same⟩ => by simp [lowers, running, conn] at same
    | _ => trivial
  | closed => exact closes
  | connected => rfl
  | callDone token generation result =>
    intro current call found
    refine a.mayComplete_losing _ _ (may.imp_right fun ⟨running, same⟩ g reply response isBoot decoded => ?_)
    by_contra other
    unfold lowers at same
    dsimp only at same
    rw [if_neg (by simp [running]), if_neg (by simpa using current), found] at same
    cases call
    dsimp only at isBoot
    subst isBoot
    simp [decoded, other] at same
  | saved => trivial
  | timer key =>
    cases key with
    | meterPeriodic => exact fun _ => rfl
    | meterAligned => exact .inl fun _ => rfl
    | reservationExpiry => exact .inl rfl
    | hardReset => exact closes
    | _ => trivial
  | maintenance => trivial

/-- An iteration is a path. -/
theorem step_path_losing (a : Actor) (wake : Wake) (ids : Ids (a.ledger [] .none)) :
    Path (losing true) (a.ledger [] .none) ((a.step wake).ledger [] .none) :=
  a.step_path wake ids (permits_losing _ _ (.inl rfl))

/-! ## What is left of a registration -/

theorem performReset_registration (a : Actor) (kind : ResetType) : (a.performReset kind).registration = none := by
  unfold performReset
  dsimp only
  rw [(flushNow_quiet _).registration]
  split
  · cases kind <;> rfl
  · rfl

theorem replyIf_registration (a : Actor) (reply : Option Reply) (result : Except StationError Outcome) :
    (a.replyIf reply result).registration = a.registration := (a.replyIf_quiet reply result).registration

theorem onBootDone_registration (generation : Nat) (reply : Option Reply) (response : BootNotificationResponse)
    (other : response.status ≠ .accepted) (a : Actor) :
    (onBootDone generation reply (.ok response) a).registration = some response.status := by
  unfold onBootDone onBootResult
  dsimp only
  rw [replyIf_registration]
  cases known : response.status with
  | accepted => exact absurd known other
  | pending =>
    dsimp only
    split <;> split <;> rfl
  | rejected =>
    dsimp only
    split <;> split <;> rfl

theorem shutdown_registration (a : Actor) (reply : Option Reply) : (a.shutdown reply).registration = none := by
  unfold shutdown finishPersistence
  dsimp only
  rw [replyIf_registration]
  split <;> rfl

theorem handle_registration (a : Actor) (input : Input) {lowered : Option RegistrationStatus}
    (h : a.lowers input = some lowered) : (a.handle input).registration = lowered := by
  unfold lowers at h
  split at h
  · cases h
  · cases input with
    | shutdown reply =>
      obtain rfl := Option.some.inj h
      exact a.shutdown_registration reply
    | incoming call =>
      cases call with
      | reset kind =>
        dsimp only at h
        split at h
        · rename_i conn
          obtain rfl := Option.some.inj h
          unfold handle
          dsimp only
          rw [if_pos conn]
          exact performReset_registration _ kind
        · cases h
      | _ => cases h
    | callDone token generation result =>
      dsimp only at h
      split at h
      · cases h
      · rename_i current
        split at h
        · rename_i token' generation' origin request bootGeneration reply attempts found
          split at h
          · rename_i response decoded
            split at h
            · cases h
            · rename_i other
              obtain rfl := Option.some.inj h
              unfold handle onCallDone complete runCont
              dsimp only
              rw [if_neg current, found]
              dsimp only
              rw [decoded]
              exact onBootDone_registration _ _ _ other _
          · cases h
        · cases h
    | _ => cases h

/-- An iteration that lowers the registration leaves what it says. -/
theorem step_registration (a : Actor) (wake : Wake) {lowered : Option RegistrationStatus}
    (h : a.lowers wake.input = some lowered) : (a.step wake).registration = lowered := by
  have running : a.stopped = false := by
    by_contra stopped
    unfold lowers at h
    rw [if_pos (by simpa using stopped)] at h
    cases h
  have handled := (a.woken wake).handle_registration wake.input h
  unfold step
  rw [if_neg (by simp [running])]
  dsimp only
  split
  · exact handled
  · exact (settleMeters_quiet _).registration.trans handled

/-- The CALLs that the gate lets through after an iteration. -/
theorem step_gated (a : Actor) (wake : Wake) (ids : Ids (a.ledger [] .none)) {call : PendingCall}
    (mem : call ∈ (a.step wake).calls) (before : call ∈ a.calls → call.passes a.registration = true)
    (kept : ∀ lowered, a.lowers wake.input = some lowered → call.passes lowered = true) :
    call.passes (a.step wake).registration = true := by
  cases lowers : a.lowers wake.input with
  | some lowered =>
    rw [a.step_registration wake lowers]
    exact kept lowered lowers
  | none =>
    by_cases running : a.stopped = true
    · have same : a.step wake = a := by
        unfold step
        rw [if_pos running]
      rw [same] at mem ⊢
      exact before mem
    · have path : Path (losing false) (a.ledger [] .none) ((a.step wake).ledger [] .none) :=
        a.step_path wake ids (permits_losing _ _ (.inr ⟨(by simpa using running : a.stopped = false), lowers⟩))
      have gated := (gated_preserved rfl rfl fun call => call ∈ a.calls → call.passes a.registration = true).path
        path fun call mem before => before mem
      exact gated call mem before

end Actor

/-! ## Runs of the system -/

namespace StationTasks

/-- The invariant of the system. -/
structure Sound (s : StationTasks) : Prop where
  ids : Ids (s.actor.ledger [] .none)
  boot : BootOfStation (s.actor.ledger [] .none)
  pending : ∀ task ∈ s.tasks, task.call ∈ s.actor.calls
  passes : ∀ task ∈ s.tasks, task.exposed = false → task.call.passes s.actor.registration = true
  handed : ∀ attempt ∈ s.handed, attempt.exposed = false → attempt.Registered

theorem loaded_calls (config : StationConfig) (registry : ConfigRegistry) (now : Instant) (mono : Int)
    (saved : Option PersistedStation) : (Actor.loaded config registry now mono saved).calls = [] := by
  cases saved <;> rfl

/-- A system in which no task has been spawned. -/
theorem sound_of_idle {a : Actor} (ids : Ids (a.ledger [] .none)) (boot : BootOfStation (a.ledger [] .none)) :
    Sound { actor := a } where
  ids := ids
  boot := boot
  pending _ mem := absurd mem List.not_mem_nil
  passes _ mem := absurd mem List.not_mem_nil
  handed _ mem := absurd mem List.not_mem_nil

theorem start_sound (config : StationConfig) (registry : ConfigRegistry) (now : Instant) (mono : Int)
    (saved : Option PersistedStation) : (start config registry now mono saved).Sound := by
  refine sound_of_idle (Actor.start_ids config registry now mono saved) ?_
  refine (bootOfStation_preserved {}).path (Actor.start_path config registry now mono saved (.inl rfl)) ?_
  intro call mem
  have mem : call ∈ (Actor.loaded config registry now mono saved).calls := mem
  rw [loaded_calls] at mem
  cases mem

/-- The tasks after an iteration: each has a pending CALL, and one that ran before or a new one. -/
theorem wake_tasks {s : StationTasks} {wake : Wake} {task : CallTask} (mem : task ∈ (s.wake wake).tasks) :
    ∃ before : CallTask, task = exposeTo (s.actor.lowers wake.input) before ∧
      before.call ∈ (s.actor.step wake).calls ∧
      (before ∈ s.tasks ∨ (before.call ∉ s.actor.calls ∧ before.exposed = false)) := by
  obtain ⟨before, mem', rfl⟩ := List.mem_map.mp mem
  refine ⟨before, rfl, ?_⟩
  rcases List.mem_append.mp mem' with kept | spawned
  · obtain ⟨known, pending⟩ := List.mem_filter.mp kept
    exact ⟨by simpa using pending, .inl known⟩
  · obtain ⟨call, new, rfl⟩ := List.mem_map.mp spawned
    obtain ⟨pending, fresh⟩ := List.mem_filter.mp new
    exact ⟨pending, .inr ⟨by simpa using fresh, rfl⟩⟩

theorem exposeTo_unexposed {lowered : Option (Option RegistrationStatus)} {task : CallTask}
    (h : (exposeTo lowered task).exposed = false) :
    task.exposed = false ∧ ∀ registration, lowered = some registration →
      task.call.passes registration = true := by
  unfold exposeTo at h
  cases lowered <;> simp_all

theorem wake_sound {s : StationTasks} (h : s.Sound) (wake : Wake) : (s.wake wake).Sound := by
  have path := s.actor.step_path_losing wake h.ids
  refine ⟨(ids_preserved _).path path h.ids, (bootOfStation_preserved _).path path h.boot, ?_, ?_, h.handed⟩
  · intro task mem
    obtain ⟨before, rfl, pending, -⟩ := wake_tasks mem
    exact pending
  · intro task mem unexposed
    obtain ⟨before, rfl, pending, origin⟩ := wake_tasks mem
    obtain ⟨unexposed, kept⟩ := exposeTo_unexposed unexposed
    refine s.actor.step_gated wake h.ids pending (fun old => ?_) kept
    rcases origin with known | ⟨fresh, -⟩
    · exact h.passes before known unexposed
    · exact absurd old fresh

/-- The tasks of `s` with the phase of one changed. -/
theorem set_task {s : StationTasks} {index : Nat} {task : CallTask} (task' : CallTask)
    (found : s.tasks[index]? = some task) (call : task'.call = task.call)
    (exposed : task'.exposed = task.exposed) (P : PendingCall → Bool → Prop)
    (h : ∀ task ∈ s.tasks, P task.call task.exposed) :
    ∀ task ∈ s.tasks.set index task', P task.call task.exposed := by
  intro other mem
  rcases List.mem_or_eq_of_mem_set mem with old | rfl
  · exact h other old
  · rw [call, exposed]
    exact h task (List.mem_of_getElem? found)

theorem hand_sound {s : StationTasks} (h : s.Sound) (index : Nat) : (s.hand index).Sound := by
  unfold hand
  split
  · rename_i task found
    split
    · have pending := set_task { task with phase := .awaiting, attempt := task.attempt + 1 }
        found rfl rfl (fun call _ => call ∈ s.actor.calls) h.pending
      have passes := set_task { task with phase := .awaiting, attempt := task.attempt + 1 }
        found rfl rfl (fun call exposed => exposed = false → call.passes s.actor.registration = true)
        h.passes
      refine ⟨h.ids, h.boot, pending, passes, ?_⟩
      · intro attempt mem unexposed
        rcases List.mem_cons.mp mem with rfl | mem
        · have known := List.mem_of_getElem? found
          exact Attempt.registered_of_passes (h.boot _ (h.pending task known)) (h.passes task known unexposed)
        · exact h.handed attempt mem unexposed
    · exact h
  · exact h

theorem outcome_sound {s : StationTasks} (h : s.Sound) (index : Nat) (result : CallResult) :
    (s.outcome index result).Sound := by
  unfold outcome
  split
  · rename_i task found
    have pending (phase : TaskPhase) :=
      set_task { task with phase } found rfl rfl (fun call _ => call ∈ s.actor.calls) h.pending
    have passes (phase : TaskPhase) := set_task { task with phase } found rfl rfl
      (fun call exposed => exposed = false → call.passes s.actor.registration = true) h.passes
    split
    · split
      · exact ⟨h.ids, h.boot, pending .ready, passes .ready, h.handed⟩
      · exact ⟨h.ids, h.boot, pending .finished, passes .finished, h.handed⟩
    · exact h
  · exact h

theorem move_sound {s : StationTasks} (h : s.Sound) (move : Move) : (s.move move).Sound := by
  cases move with
  | wake wake =>
    unfold StationTasks.move
    split
    · exact h
    · rename_i eq
      cases eq
      exact wake_sound h _
    all_goals rename_i eq; cases eq
  | receive now mono =>
    unfold StationTasks.move receive
    dsimp only
    split
    · exact h
    · rename_i done inbox _
      have taken : Sound { s with inbox } := ⟨h.ids, h.boot, h.pending, h.passes, h.handed⟩
      exact wake_sound taken _
  | hand index => exact hand_sound h index
  | outcome index result => exact outcome_sound h index result

theorem run_sound {s : StationTasks} (h : s.Sound) (moves : List Move) : (s.run moves).Sound := by
  induction moves generalizing s with
  | nil => exact h
  | cons move moves ih => exact ih (move_sound h move)

/-- What exposes a CALL closes the gate to it, until the next boot: an attempt right now finds the station
unregistered. -/
theorem exposed_refused {s : StationTasks} {wake : Wake} {task : CallTask} (mem : task ∈ (s.wake wake).tasks)
    (exposed : task.exposed = true) (before : ∀ task ∈ s.tasks, task.exposed = false) :
    task.call.passes (s.wake wake).actor.registration = false := by
  obtain ⟨earlier, rfl, -, origin⟩ := wake_tasks mem
  have unexposed : earlier.exposed = false := by
    rcases origin with known | ⟨-, unexposed⟩
    · exact before earlier known
    · exact unexposed
  cases lowered : s.actor.lowers wake.input with
  | none => simp [exposeTo, lowered, unexposed] at exposed
  | some registration =>
    have left : (s.wake wake).actor.registration = registration :=
      s.actor.step_registration wake lowered
    rw [left]
    simpa [exposeTo, lowered, unexposed] using exposed

end StationTasks

open StationTasks

/-- **The registration gate.** In every run of the actor and its call tasks, an attempt of a CALL finds the
station registered for its origin, unless a reset, a boot that was not accepted or the end of the station
took the registration away while the CALL was in flight. -/
theorem attempts_registered (config : StationConfig) (registry : ConfigRegistry) (now : Instant) (mono : Int)
    (saved : Option PersistedStation) (moves : List Move) :
    ∀ attempt ∈ ((start config registry now mono saved).run moves).handed,
      attempt.exposed = false → attempt.Registered :=
  (run_sound (start_sound config registry now mono saved) moves).handed

/-! ### A soft reset while a start is tried again -/

/-- The station connects, boots and starts a transaction whose first attempt times out after a reset. -/
def resetDuringRetry : List Move :=
  let wake (input : Input) : Move := .wake { input, now := 1000000000000, mono := 0 }
  [wake (.command .connect 0), wake (.connected 1 true none), .hand 0,
    .outcome 0 (.ok (.boot .accepted 1000000000000 300)), .receive 1000000000000 0,
    wake (.command (.startTransaction 1 { chars := "TAG".toList }) 1), .hand 4,
    wake (.incoming (.reset .soft)), .outcome 4 (.error .timeout), .hand 4]

/-- The first attempt of the start comes in time. -/
theorem attempts_registered_start :
    ∃ attempt ∈ ((start { connectorCount := 1 } { transactionMessageAttempts := 3 } 1000000000000 0 none).run
        (resetDuringRetry.take 7)).handed,
      attempt.call.request.isTransactionMessage = true ∧ attempt.Registered := by
  have unexposed :
      ((start { connectorCount := 1 } { transactionMessageAttempts := 3 } 1000000000000 0 none).run
        (resetDuringRetry.take 7)).handed.head?.map
        (fun attempt => (attempt.call.request.isTransactionMessage, attempt.exposed)) =
      some (true, false) := by decide +kernel
  obtain ⟨attempt, head, eq⟩ := Option.map_eq_some_iff.mp unexposed
  obtain ⟨retried, unexposed⟩ : attempt.call.request.isTransactionMessage = true ∧ attempt.exposed = false := by
    simpa using eq
  have mem := List.mem_of_head? head
  exact ⟨attempt, mem, retried, attempts_registered _ _ _ _ none _ attempt mem unexposed⟩

/-- The second attempt of a `StartTransaction` is handed to the connection without a registration. -/
theorem retry_unregistered :
    ¬∀ attempt ∈ ((start { connectorCount := 1 } { transactionMessageAttempts := 3 } 1000000000000 0 none).run
        resetDuringRetry).handed, attempt.Registered := by
  intro registered
  have unregistered :
      ((start { connectorCount := 1 } { transactionMessageAttempts := 3 } 1000000000000 0 none).run
        resetDuringRetry).handed.head?.map
        (fun attempt => (attempt.call.origin, attempt.call.request.isBoot, attempt.registration)) =
      some (.station, false, none) := by decide +kernel
  obtain ⟨attempt, head, eq⟩ := Option.map_eq_some_iff.mp unregistered
  obtain ⟨station, boot, none⟩ : attempt.call.origin = .station ∧ attempt.call.request.isBoot = false ∧
      attempt.registration = none := by simpa using eq
  have accepted := (registered attempt (List.mem_of_head? head)).1 station boot
  rw [none] at accepted
  cases accepted

end KirbyOcpp
