import KirbyOcpp.Ledger.Sync
import KirbyOcpp.Laws.Station.Metering
import KirbyOcpp.Station.Notifier

/-!
# The notifier of a connector

Each operation of `status.rs` does to the notifier of its connector what the operation of the same name does here,
and nothing to the notifiers of the others, as long as the station can send.
-/

namespace KirbyOcpp

open Actor

namespace Notifier

variable (n : Notifier)

/-- A notification goes out. -/
def send (call : PendingCall) (key : StatusKey) : Notifier :=
  { n with
    tracker := { n.tracker with lastSent := some key }
    notices := { call, key, failed := false } :: n.notices }

/-- `status_changed` in the state `key`; `call` makes the CALL. -/
def changed (key : StatusKey) (now : Instant) (minimum : Nat) (call : StatusKey → Instant → PendingCall) : Notifier :=
  match planChange n.tracker key now minimum with
  | (tracker, .nothing) => { n with tracker }
  | (tracker, .cancel) => { n with tracker, armed := false }
  | (tracker, .send timestamp) => ({ n with tracker, armed := false }).send (call key timestamp) key
  | (tracker, .defer) => { n with tracker, armed := true }

/-- `status_timer_fired`, whose timer was disarmed. -/
def fired (key : StatusKey) (call : StatusKey → Instant → PendingCall) : Notifier :=
  match takeDue n.tracker key with
  | (tracker, none) => { n with tracker, armed := false }
  | (tracker, some timestamp) => ({ n with tracker, armed := false }).send (call key timestamp) key

/-- `send_status_forced`. -/
def forced (key : StatusKey) (now : Instant) (call : StatusKey → Instant → PendingCall) : Notifier :=
  ({ n with tracker := { n.tracker with pending := none }, armed := false }).send (call key now) key

/-- The notification `call` of `key` failed. -/
def fail (call : PendingCall) (key : StatusKey) : Notifier :=
  { n with
    tracker := markFailed n.tracker key
    notices := n.notices.map fun notice => { notice with failed := notice.failed || decide (call = notice.call) } }

end Notifier

/-- The station can send, and every CALL it knows has its token. -/
structure Ready (minimum : Nat) (a : Actor) : Prop where
  talks : a.canTalk = true
  minimum : a.registry.minimumStatusDuration = minimum
  completed : ∀ call result, .completed call result ∈ a.history → call.token < a.nextCallToken
  calls : ∀ call ∈ a.calls, call.token < a.nextCallToken

namespace Actor

/-- The CALL of a notification. -/
def statusCall (a : Actor) (id : ConnectorId) (origin : Origin) (reply : Option Reply) (key : StatusKey)
    (timestamp : Instant) : PendingCall :=
  a.newCall origin (.statusNotification (key.request id timestamp)) (.status id key reply)

/-! ## The notices in a history -/

private theorem notice_cons (history : List Event) (id : ConnectorId) {event : Event}
    (neutral : ∀ call, event.fails call = false) : Event.notice (event :: history) id = Event.notice history id := by
  funext other
  cases other with
  | called call =>
    unfold Event.notice
    simp only [List.any_cons, neutral, Bool.false_or]
  | _ => rfl

/-- The fates of the CALLs of another connector do not show. -/
theorem notice_completed_other (history : List Event) {id other : ConnectorId} (distinct : other ≠ id)
    {call : PendingCall} {key : StatusKey} {reply : Option Reply} (status : call.continuation = .status id key reply)
    (result : CallResult) : Event.notice (.completed call result :: history) other = Event.notice history other := by
  funext event
  cases event with
  | called sent =>
    dsimp only [Event.notice]
    split
    · rename_i target _ _ continuation
      split
      · rename_i same
        have foreign : call ≠ sent := by
          rintro rfl
          cases status.symm.trans continuation
          exact distinct same.symm
        simp [Event.fails, foreign]
      · rfl
    · rfl
  | _ => rfl

private theorem notice_completed (history : List Event) (id : ConnectorId) (call : PendingCall) (result : CallResult)
    (event : Event) :
    Event.notice (.completed call result :: history) id event =
      (Event.notice history id event).map fun notice =>
        { notice with failed := decide (call = notice.call) && !(decodeAny result).toBool || notice.failed } := by
  cases event with
  | called sent =>
    dsimp only [Event.notice]
    split
    · split <;> rfl
    · rfl
  | _ => rfl

/-! ## What leaves the notifiers alone -/

/-- `b` treats the status of its connectors like `a`. -/
structure Akin (a b : Actor) : Prop where
  notifier : b.notifier = a.notifier
  link : b.link = a.link
  registration : b.registration = a.registration
  registry : b.registry = a.registry
  now : b.now = a.now
  calls : b.calls = a.calls
  history : b.history = a.history
  nextCallToken : b.nextCallToken = a.nextCallToken

namespace Akin

variable {a b c : Actor}

private theorem of_notifier (notifier : b.notifier = a.notifier := by rfl) (link : b.link = a.link := by rfl)
    (registration : b.registration = a.registration := by rfl) (registry : b.registry = a.registry := by rfl)
    (now : b.now = a.now := by rfl) (calls : b.calls = a.calls := by rfl)
    (history : b.history = a.history := by rfl) (token : b.nextCallToken = a.nextCallToken := by rfl) : Akin a b :=
  ⟨notifier, link, registration, registry, now, calls, history, token⟩

/-- Nothing happens. -/
theorem refl : Akin a a := .of_notifier

/-- Kinship goes on. -/
theorem trans (first : Akin a b) (second : Akin b c) : Akin a c where
  notifier := second.notifier.trans first.notifier
  link := second.link.trans first.link
  registration := second.registration.trans first.registration
  registry := second.registry.trans first.registry
  now := second.now.trans first.now
  calls := second.calls.trans first.calls
  history := second.history.trans first.history
  nextCallToken := second.nextCallToken.trans first.nextCallToken

/-- What is akin to a ready actor is ready. -/
theorem ready {minimum : Nat} (akin : Akin a b) (ready : Ready minimum a) : Ready minimum b where
  talks := by
    unfold canTalk
    rw [akin.link, akin.registration]
    exact ready.talks
  minimum := by
    rw [akin.registry]
    exact ready.minimum
  completed := by
    rw [akin.history, akin.nextCallToken]
    exact ready.completed
  calls := by
    rw [akin.calls, akin.nextCallToken]
    exact ready.calls

end Akin

private theorem setTimer_akin (a : Actor) {key : TimerKey} (other : ∀ id, key ≠ .statusDebounce id) :
    Akin a (a.setTimer key) := by
  refine .of_notifier ?_
  funext id
  unfold notifier setTimer
  congr 1
  simp [Ne.symm (other id)]

private theorem cancelTimer_akin (a : Actor) {key : TimerKey} (other : ∀ id, key ≠ .statusDebounce id) :
    Akin a (a.cancelTimer key) := by
  refine .of_notifier ?_
  funext id
  unfold notifier cancelTimer
  congr 1
  simp [Ne.symm (other id)]

private theorem markDirty_akin (a : Actor) : Akin a a.markDirty := by
  unfold markDirty setTimerIfIdle
  split
  · exact .refl
  · split
    · exact .of_notifier
    · exact .trans .of_notifier (setTimer_akin _ fun _ => nofun)

/-- A flush changes the registers, which are not reported. -/
theorem flushMeters_akin (a : Actor) : Akin a a.flushMeters := by
  have registers (f : ConnectorSnapshot → Nat) (meters : List (ConnectorId × MeterRuntime))
      (settlements : List Settlement) :
      Akin a { a with connectors := a.connectors.map fun c => { c with meterWh := f c }, meters, settlements } := by
    refine .of_notifier ?_
    funext id
    unfold notifier
    congr 1
    unfold findConnector
    split
    · rfl
    · dsimp only
      induction a.connectors with
      | nil => rfl
      | cons c connectors ih =>
        rw [List.map_cons, List.find?_cons, List.find?_cons]
        cases c.id == id with
        | false => exact ih
        | true => rfl
  unfold flushMeters
  dsimp only
  split
  · exact (registers _ _ _).trans (markDirty_akin _)
  · exact registers _ _ _

/-- A write concerns no notifier. -/
theorem flushNow_akin (a : Actor) : Akin a a.flushNow := by
  have written (b : Actor) : Akin b b.flushPersistence := by
    refine b.flushMeters_akin.trans ?_
    unfold flushPersistence
    dsimp only
    split
    · exact .refl
    · split <;> exact .of_notifier
  exact (a.markDirty_akin.trans (cancelTimer_akin _ (by simp))).trans (written _)

/-! ## The operations -/

variable {a : Actor} {minimum : Nat}

private theorem ready_setTracker (ready : Ready minimum a) (id : ConnectorId) (tracker : StatusTracker) :
    Ready minimum (a.setTracker id tracker) := ⟨ready.talks, ready.minimum, ready.completed, ready.calls⟩

private theorem ready_setTimer (ready : Ready minimum a) (key : TimerKey) : Ready minimum (a.setTimer key) :=
  ⟨ready.talks, ready.minimum, ready.completed, ready.calls⟩

/-- A timer may be cancelled at any time. -/
theorem ready_cancelTimer (ready : Ready minimum a) (key : TimerKey) : Ready minimum (a.cancelTimer key) :=
  ⟨ready.talks, ready.minimum, ready.completed, ready.calls⟩

private theorem notifier_setTracker (id : ConnectorId) (tracker : StatusTracker) (other : ConnectorId) :
    (a.setTracker id tracker).notifier other =
      if other = id then { a.notifier id with tracker } else a.notifier other := by
  have read : (a.setTracker id tracker).tracker other = if other = id then tracker else a.tracker other := by
    unfold Actor.tracker setTracker
    rw [Metering.lookup_insertAt]
    split <;> rfl
  split
  · rename_i same
    subst same
    rw [if_pos rfl] at read
    simp only [notifier, read]
    rfl
  · rename_i distinct
    rw [if_neg distinct] at read
    simp only [notifier, read]
    rfl

/-- The debounce timer belongs to one notifier. -/
theorem notifier_cancelTimer (id other : ConnectorId) :
    (a.cancelTimer (.statusDebounce id)).notifier other =
      if other = id then { a.notifier id with armed := false } else a.notifier other := by
  split
  · rename_i same
    subst same
    unfold notifier cancelTimer
    congr 1
    simp
  · rename_i distinct
    unfold notifier cancelTimer
    congr 1
    simp [distinct]

private theorem notifier_setTimer (id other : ConnectorId) :
    (a.setTimer (.statusDebounce id)).notifier other =
      if other = id then { a.notifier id with armed := true } else a.notifier other := by
  split
  · rename_i same
    subst same
    unfold notifier setTimer
    congr 1
    simp
  · rename_i distinct
    unfold notifier setTimer
    congr 1
    simp [distinct]

private theorem notifier_accept (ready : Ready minimum a) (id : ConnectorId) (key : StatusKey) (timestamp : Instant)
    (origin : Origin) (reply : Option Reply) (other : ConnectorId) :
    (a.accept origin (.statusNotification (key.request id timestamp)) (.status id key reply)).notifier other =
      if other = id then
        { a.notifier id with
          notices := { call := a.statusCall id origin reply key timestamp, key, failed := false } ::
            (a.notifier id).notices }
      else a.notifier other := by
  have fresh : a.history.any (Event.fails (a.statusCall id origin reply key timestamp)) = false := by
    rw [List.any_eq_false]
    intro event mem
    cases event with
    | completed call result =>
      have known := ready.completed call result mem
      have other : call ≠ a.statusCall id origin reply key timestamp := by
        rintro rfl
        exact lt_irrefl _ known
      simp [Event.fails, other]
    | _ => simp [Event.fails]
  have sent : Event.notice a.history other (.called (a.statusCall id origin reply key timestamp)) =
      if id = other then some { call := a.statusCall id origin reply key timestamp, key, failed := false }
      else none := by
    dsimp only [Event.notice, statusCall, newCall]
    split
    · exact congrArg some (congrArg _ fresh)
    · rfl
  have history : (a.accept origin (.statusNotification (key.request id timestamp)) (.status id key reply)).history =
      .called (a.statusCall id origin reply key timestamp) :: a.history := rfl
  have notices : (a.accept origin (.statusNotification (key.request id timestamp))
      (.status id key reply)).history.filterMap
        (Event.notice (a.accept origin (.statusNotification (key.request id timestamp))
          (.status id key reply)).history other) =
      ((.called (a.statusCall id origin reply key timestamp)) :: a.history).filterMap (Event.notice a.history other) := by
    rw [history, notice_cons _ _ fun _ => rfl]
  split
  · rename_i same
    subst same
    rw [List.filterMap_cons, sent, if_pos rfl] at notices
    simp only [notifier]
    rw [notices]
    rfl
  · rename_i distinct
    rw [List.filterMap_cons, sent, if_neg (Ne.symm distinct)] at notices
    simp only [notifier]
    rw [notices]
    rfl

private theorem notifier_dispatchStatus (ready : Ready minimum a) (id : ConnectorId) (key : StatusKey)
    (timestamp : Instant) (origin : Origin) (reply : Option Reply) (other : ConnectorId) :
    (a.dispatchStatus id key timestamp origin reply).notifier other =
      if other = id then (a.notifier id).send (a.statusCall id origin reply key timestamp) key
      else a.notifier other := by
  have marked := ready_setTracker ready id { a.tracker id with lastSent := some key }
  unfold dispatchStatus
  rw [call_of_canTalk _ marked.talks]
  refine (notifier_accept marked id key timestamp origin reply other).trans ?_
  split
  · rw [notifier_setTracker, if_pos rfl]
    rfl
  · rename_i distinct
    rw [notifier_setTracker, if_neg distinct]

private theorem ready_dispatchStatus (ready : Ready minimum a) (id : ConnectorId) (key : StatusKey)
    (timestamp : Instant)
    (origin : Origin) (reply : Option Reply) : Ready minimum (a.dispatchStatus id key timestamp origin reply) := by
  unfold dispatchStatus
  dsimp only
  rw [call_of_canTalk _ (show (a.setTracker id _).canTalk = true from ready.talks)]
  refine ⟨ready.talks, ready.minimum, fun call result mem => ?_, fun call mem => ?_⟩
  · rcases List.mem_cons.mp mem with same | mem
    · cases same
    · exact (ready.completed call result mem).trans (Nat.lt_succ_self _)
  · rcases List.mem_append.mp mem with mem | mem
    · exact (ready.calls call mem).trans (Nat.lt_succ_self _)
    · obtain rfl := List.mem_singleton.mp mem
      exact Nat.lt_succ_self _

private theorem canSendStatus_of_ready (ready : Ready minimum a) (origin : Origin) : a.canSendStatus origin = true := by
  have conn : a.link.conn = true := (Bool.and_eq_true_iff.mp ready.talks).1
  simp [canSendStatus, conn, a.maySend_of_canTalk ready.talks]

/-- `status_changed` is the step `changed` of one notifier. -/
theorem notifier_statusChanged (ready : Ready minimum a) {id : ConnectorId} {key : StatusKey}
    (found : (a.notifier id).key = some key) (other : ConnectorId) :
    (a.statusChanged id).notifier other =
      if other = id then
        (a.notifier id).changed key a.now minimum (a.statusCall id .station none)
      else a.notifier other := by
  have found : (a.findConnector id).map statusKeyOf = some key := found
  unfold statusChanged
  rw [if_neg (by simp [canSendStatus_of_ready ready]), found]
  unfold Notifier.changed
  rw [show (a.notifier id).tracker = a.tracker id from rfl]
  dsimp only
  rw [ready.minimum]
  generalize planChange (a.tracker id) key a.now minimum = planned
  obtain ⟨tracker, plan⟩ := planned
  cases plan with dsimp only
  | nothing => exact notifier_setTracker id tracker other
  | cancel =>
    refine (notifier_cancelTimer id other).trans ?_
    simp only [notifier_setTracker, if_true]
    split <;> rfl
  | send timestamp =>
    have before := ready_cancelTimer (ready_setTracker ready id tracker) (.statusDebounce id)
    refine (notifier_dispatchStatus before _ _ _ _ _ _).trans ?_
    simp only [notifier_cancelTimer, notifier_setTracker, if_true]
    split <;> rfl
  | defer =>
    refine (notifier_setTimer id other).trans ?_
    simp only [notifier_setTracker, if_true]
    split <;> rfl

/-- A connector that is not there has no notifier. -/
theorem statusChanged_missing {id : ConnectorId} (missing : (a.notifier id).key = none) : a.statusChanged id = a := by
  have missing : (a.findConnector id).map statusKeyOf = none := missing
  unfold statusChanged
  rw [missing]
  split <;> rfl

/-- An actor stays ready when a status changes. -/
theorem ready_statusChanged (ready : Ready minimum a) (id : ConnectorId) : Ready minimum (a.statusChanged id) := by
  unfold statusChanged
  split
  · exact ready
  · split
    · exact ready
    · have tracked := ready_setTracker ready id
      dsimp only
      split
      · exact tracked _
      · exact ready_cancelTimer (tracked _) _
      · exact ready_dispatchStatus (ready_cancelTimer (tracked _) _) _ _ _ _ _
      · exact ready_setTimer (tracked _) _

/-- The debounce timer of `id` is disarmed before its handler runs. -/
theorem notifier_statusTimerFired (ready : Ready minimum a) {id : ConnectorId} {key : StatusKey}
    (found : (a.notifier id).key = some key) (other : ConnectorId) :
    ((a.cancelTimer (.statusDebounce id)).statusTimerFired id).notifier other =
      if other = id then (a.notifier id).fired key (a.statusCall id .station none) else a.notifier other := by
  have found : ((a.cancelTimer (.statusDebounce id)).findConnector id).map statusKeyOf = some key := found
  have disarmed := ready_cancelTimer ready (.statusDebounce id)
  unfold statusTimerFired
  rw [found]
  dsimp only
  rw [if_neg (by simp [canSendStatus_of_ready disarmed])]
  unfold Notifier.fired
  rw [show (a.cancelTimer (.statusDebounce id)).tracker id = a.tracker id from rfl,
    show (a.notifier id).tracker = a.tracker id from rfl]
  generalize takeDue (a.tracker id) key = taken
  obtain ⟨tracker, due⟩ := taken
  cases due with dsimp only
  | none =>
    refine (notifier_setTracker id tracker other).trans ?_
    simp only [notifier_cancelTimer, if_true]
    split <;> rfl
  | some timestamp =>
    refine (notifier_dispatchStatus (ready_setTracker disarmed id tracker) _ _ _ _ _ _).trans ?_
    simp only [notifier_setTracker, notifier_cancelTimer, if_true]
    split <;> rfl

/-- An actor stays ready when a debounce timer fires. -/
theorem ready_statusTimerFired (ready : Ready minimum a) (id : ConnectorId) :
    Ready minimum ((a.cancelTimer (.statusDebounce id)).statusTimerFired id) := by
  have disarmed := ready_cancelTimer ready (.statusDebounce id)
  unfold statusTimerFired
  split
  · exact disarmed
  · split
    · exact ready_setTracker disarmed _ _
    · dsimp only
      split
      · exact ready_setTracker disarmed _ _
      · exact ready_dispatchStatus (ready_setTracker disarmed _ _) _ _ _ _ _

/-- A forced notification is a step of one notifier. -/
theorem notifier_sendStatusForced (ready : Ready minimum a) {id : ConnectorId} {key : StatusKey}
    (found : (a.notifier id).key = some key) (origin : Origin) (reply : Option Reply) (other : ConnectorId) :
    (a.sendStatusForced id origin reply).notifier other =
      if other = id then (a.notifier id).forced key a.now (a.statusCall id origin reply) else a.notifier other := by
  have found : (a.findConnector id).map statusKeyOf = some key := found
  unfold sendStatusForced
  rw [found]
  have cleared := ready_setTracker (ready_cancelTimer ready (.statusDebounce id)) id
    { a.tracker id with pending := none }
  refine (notifier_dispatchStatus cleared _ _ _ _ _ _).trans ?_
  simp only [notifier_setTracker, notifier_cancelTimer, if_true]
  split <;> rfl

/-- An actor stays ready when a notification is forced. -/
theorem ready_sendStatusForced (ready : Ready minimum a) {id : ConnectorId} {key : StatusKey}
    (found : (a.notifier id).key = some key) (origin : Origin) (reply : Option Reply) :
    Ready minimum (a.sendStatusForced id origin reply) := by
  have found : (a.findConnector id).map statusKeyOf = some key := found
  unfold sendStatusForced
  rw [found]
  exact ready_dispatchStatus (ready_setTracker (ready_cancelTimer ready _) _ _) _ _ _ _ _

/-! ## Replies and answers -/

/-- A reply concerns no notifier. -/
theorem notifier_reply (reply : Option Reply) (result : Except StationError Outcome) :
    (a.replyIf reply result).notifier = a.notifier := by
  cases reply with
  | none => rfl
  | some reply =>
    have same (id : ConnectorId) : Event.notice (.replied reply result :: a.history) id = Event.notice a.history id :=
      notice_cons _ _ fun _ => rfl
    funext id
    have notices : (Event.replied reply result :: a.history).filterMap
        (Event.notice (.replied reply result :: a.history) id) =
        a.history.filterMap (Event.notice a.history id) := by
      rw [same]
      rfl
    exact congrArg (fun notices => ({ a.notifier id with notices } : Notifier)) notices

/-- An actor stays ready when it replies. -/
theorem ready_reply (ready : Ready minimum a) (reply : Option Reply) (result : Except StationError Outcome) :
    Ready minimum (a.replyIf reply result) := by
  cases reply with
  | none => exact ready
  | some reply =>
    refine ⟨ready.talks, ready.minimum, fun call other mem => ?_, ready.calls⟩
    rcases List.mem_cons.mp mem with same | mem
    · cases same
    · exact ready.completed call other mem

private theorem notifier_completed {call : PendingCall} {id : ConnectorId} {key : StatusKey} {reply : Option Reply}
    (status : call.continuation = .status id key reply) (result : CallResult) (other : ConnectorId) :
    (a.record (.completed call result)).notifier other =
      if other = id ∧ (decodeAny result).toBool = false then
        { a.notifier id with
          notices := (a.notifier id).notices.map fun notice =>
            { notice with failed := notice.failed || decide (call = notice.call) } }
      else a.notifier other := by
  have history : (a.record (.completed call result)).history.filterMap
      (Event.notice (a.record (.completed call result)).history other) =
      a.history.filterMap (Event.notice (.completed call result :: a.history) other) := rfl
  have read : (a.record (.completed call result)).notifier other =
      { a.notifier other with
        notices := a.history.filterMap (Event.notice (.completed call result :: a.history) other) } := rfl
  rw [read]
  by_cases distinct : other = id
  · subst distinct
    have marked := funext (notice_completed a.history other call result)
    rw [marked, ← List.map_filterMap]
    split
    · rename_i failed
      rw [failed.2]
      simp only [Bool.not_false, Bool.and_true, Bool.or_comm]
      rfl
    · rename_i succeeded
      have succeeded : (decodeAny result).toBool = true := by simpa using succeeded
      rw [succeeded]
      simp only [Bool.not_true, Bool.and_false, Bool.false_or, List.map_id_fun', id_eq]
      rfl
  · rw [notice_completed_other _ distinct status, if_neg fun both => distinct both.1]
    rfl

/-- The end of a CALL is a step of the notifier that placed it. -/
theorem notifier_complete {call : PendingCall} {id : ConnectorId} {key : StatusKey} {reply : Option Reply}
    (status : call.continuation = .status id key reply) (result : CallResult) (other : ConnectorId) :
    (complete call result a).notifier other =
      if other = id ∧ (decodeAny result).toBool = false then (a.notifier id).fail call key
      else a.notifier other := by
  have completed := notifier_completed (a := a) status result
  unfold complete
  rw [status]
  dsimp only [runCont]
  generalize a.record (.completed call result) = b at completed ⊢
  cases decoded : decodeAny result with
  | ok _ =>
    rw [decoded] at completed
    dsimp only [onStatusResult]
    rw [notifier_reply, completed, if_neg (by simp [Except.toBool]), if_neg (by simp [Except.toBool])]
  | error error =>
    rw [decoded] at completed
    dsimp only [onStatusResult]
    rw [notifier_reply, notifier_setTracker]
    have failed : (Except.error error : Except CallError Unit).toBool = false := rfl
    by_cases same : other = id
    · rw [if_pos same, if_pos ⟨same, failed⟩, completed, if_pos ⟨rfl, failed⟩]
      have tracker : b.tracker id = a.tracker id := by
        have read := congrArg Notifier.tracker (completed id)
        rw [if_pos ⟨rfl, failed⟩] at read
        exact read
      rw [tracker]
      rfl
    · rw [if_neg same, if_neg fun both => same both.1, completed, if_neg fun both => same both.1]

/-- An actor stays ready when a notification ends. -/
theorem ready_complete (ready : Ready minimum a) {call : PendingCall} (drawn : call.token < a.nextCallToken)
    (status : call.isStatus = true) (result : CallResult) : Ready minimum (complete call result a) := by
  have recorded : Ready minimum (a.record (.completed call result)) := by
    refine ⟨ready.talks, ready.minimum, fun other answer mem => ?_, ready.calls⟩
    rcases List.mem_cons.mp mem with same | mem
    · cases same
      exact drawn
    · exact ready.completed other answer mem
  unfold complete
  unfold PendingCall.isStatus at status
  split at status
  · rename_i continuation
    rw [continuation]
    dsimp only [runCont]
    unfold onStatusResult
    split
    · exact ready_reply recorded _ _
    · exact ready_reply (ready_setTracker recorded _ _) _ _
  · cases status

end Actor

end KirbyOcpp
