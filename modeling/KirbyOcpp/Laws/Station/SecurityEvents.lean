import KirbyOcpp.Laws.Station.Gate
import KirbyOcpp.Laws.Station.Unheard

/-!
# Where a security event is: `security_event`, `flush_security_events`

An event is reported, waits in the queue, travels in the continuation of one `SecurityEventNotification`,
comes back when the link is lost, and ends when its CALL does or when the full queue drops it. The books
count each event in each place, so that two events that look alike are told apart by their number.

**The law** `security_events_kept`: in every run of a process the events that its state file held and those
that were reported are the ones in the queue, in flight, ended or dropped; the queue is bounded, and what it drops is
no newer than what it keeps, a returned event apart; and the state file of a graceful stop holds all that have not
ended.

* A transition reports an event, sends one, completes a CALL, takes an event back, or concerns none (`EventMove`).
* A CALL that is abandoned carries no event (`Fates.samples`): only samples are.
* A write brings the file up to date, and whatever touches the queue marks it as behind.
-/

namespace KirbyOcpp

open Paths Relation

/-! ## What the history tells about security events -/

def Event.raised? : Event → Option PendingSecurityEvent
  | .raised event => some event
  | _ => none

/-- The event whose CALL was answered, or failed for good. -/
def Event.ended? : Event → Option PendingSecurityEvent
  | .completed call result =>
    match decodeAny result with
    | .ok _ => call.event?
    | .error error => if error.isLinkError then none else call.event?
  | _ => none

/-- The event whose CALL failed with the link. -/
def Event.returned? : Event → Option PendingSecurityEvent
  | .completed call result =>
    match decodeAny result with
    | .ok _ => none
    | .error error => if error.isLinkError then call.event? else none
  | _ => none

/-- The event that joined the queue, with the queue as it was. -/
def Event.pushed? : Event → Option (List PendingSecurityEvent × PendingSecurityEvent)
  | .pushed queue event => some (queue, event)
  | _ => none

/-- The events that were reported. -/
def raisedOf (history : List Event) : List PendingSecurityEvent := history.filterMap Event.raised?

/-- The events whose CALL was answered, or failed for good. -/
def endedOf (history : List Event) : List PendingSecurityEvent := history.filterMap Event.ended?

/-- The events that came back from a lost link. -/
def returnedOf (history : List Event) : List PendingSecurityEvent := history.filterMap Event.returned?

/-- The events that joined the queue. -/
def pushesOf (history : List Event) : List (List PendingSecurityEvent × PendingSecurityEvent) :=
  history.filterMap Event.pushed?

/-- The events that the full queue dropped. -/
def shedOf (history : List Event) : List PendingSecurityEvent :=
  (pushesOf history).flatMap fun push => Actor.shedBy push.1 push.2

/-- The event that is on its way back. -/
def Hand.event? : Hand → Option PendingSecurityEvent
  | .returned event => some event
  | _ => Option.none

/-! ## One transition -/

variable {initial : List PendingSecurityEvent} {allow : Allow} {l l' : Ledger}

/-- What a transition does to the security events. -/
inductive EventMove (l l' : Ledger) : Prop
  /-- Nothing. -/
  | aside (raised : raisedOf l'.history = raisedOf l.history) (ended : endedOf l'.history = endedOf l.history)
      (returned : returnedOf l'.history = returnedOf l.history) (pushes : pushesOf l'.history = pushesOf l.history)
      (queue : l'.securityEvents = l.securityEvents) (calls : (eventsOf l'.open).Perm (eventsOf l.open))
      (hand : l'.hand.event? = l.hand.event?)
  /-- One is reported, and joins the queue. -/
  | raise (event : PendingSecurityEvent)
      (history : l'.history = .pushed l.securityEvents event :: .raised event :: l.history)
      (queue : l'.securityEvents = Actor.pushBounded l.securityEvents event)
      (calls : eventsOf l'.open = eventsOf l.open) (hand : l'.hand = l.hand)
  /-- The first of the queue goes out. -/
  | send (event : PendingSecurityEvent) (call : PendingCall) (history : l'.history = .called call :: l.history)
      (queue : l.securityEvents = event :: l'.securityEvents) (calls : eventsOf l'.open = eventsOf l.open ++ [event])
      (hand : l'.hand = l.hand)
  /-- A CALL ends, and gives its event up. -/
  | complete (call : PendingCall) (result : CallResult) (idle : l.hand = .none)
      (history : l'.history = .completed call result :: l.history) (queue : l'.securityEvents = l.securityEvents)
      (calls : (eventsOf l.open).Perm (call.event?.toList ++ eventsOf l'.open))
      (hand : l'.hand = .ofResult call.continuation result)
  /-- The event of a CALL that failed with the link is back in the queue. -/
  | requeue (event : PendingSecurityEvent) (held : l.hand = .returned event)
      (history : l'.history = .pushed l.securityEvents event :: l.history)
      (queue : l'.securityEvents =
        (Actor.pushBounded l.securityEvents event).insertionSort fun e f => e.timestamp ≤ f.timestamp)
      (calls : eventsOf l'.open = eventsOf l.open) (hand : l'.hand = .none)

/-- A CALL that reports no event goes out. -/
theorem eventsOf_accept {call : PendingCall} (plain : call.continuation.event? = none) :
    eventsOf (l.accept call).open = eventsOf l.open := by
  have plain : call.event? = none := plain
  change eventsOf (l.rest ++ (l.calls ++ [call])) = eventsOf (l.rest ++ l.calls)
  unfold eventsOf
  rw [List.filterMap_append, List.filterMap_append, List.filterMap_append]
  simp [plain]

theorem event_of_isNeutral {continuation : Cont} (neutral : continuation.isNeutral = true) :
    continuation.event? = none := by
  cases continuation with
  | securityEvent => cases neutral
  | _ => rfl

/-- The events of a CALL and of others. -/
theorem eventsOf_cons (call : PendingCall) (calls : List PendingCall) :
    eventsOf (call :: calls) = call.event?.toList ++ eventsOf calls := by
  unfold eventsOf
  rw [List.filterMap_cons]
  cases call.event? <;> rfl

/-- Taking a CALL takes its event. -/
theorem eventsOf_take (rest : List PendingCall) {calls : List PendingCall} (nodup : (calls.map (·.token)).Nodup)
    {call : PendingCall} (found : (calls.find? fun c => c.token == call.token) = some call) :
    (eventsOf (rest ++ calls)).Perm
      (call.event?.toList ++ eventsOf (rest ++ calls.filter fun c => !(c.token == call.token))) := by
  have taken := ((perm_take nodup found).append_left rest).trans List.perm_middle
  rw [← eventsOf_cons]
  exact taken.filterMap PendingCall.event?

/-- A transition whose event tells nothing about security events. -/
theorem EventMove.note {event : Event} (raised : event.raised? = none) (ended : event.ended? = none)
    (returned : event.returned? = none) (pushed : event.pushed? = none) (history : l'.history = event :: l.history)
    (queue : l'.securityEvents = l.securityEvents) (calls : eventsOf l'.open = eventsOf l.open)
    (hand : l'.hand.event? = l.hand.event?) : EventMove l l' := by
  refine .aside ?_ ?_ ?_ ?_ queue (.of_eq calls) hand <;> rw [history]
  · exact List.filterMap_cons_none raised
  · exact List.filterMap_cons_none ended
  · exact List.filterMap_cons_none returned
  · exact List.filterMap_cons_none pushed

/-- The history stays as it is. -/
theorem EventMove.quiet (history : l'.history = l.history) (queue : l'.securityEvents = l.securityEvents)
    (calls : eventsOf l'.open = eventsOf l.open) (hand : l'.hand.event? = l.hand.event?) : EventMove l l' := by
  refine .aside ?_ ?_ ?_ ?_ queue (.of_eq calls) hand <;> rw [history]

/-- A CALL without an event goes out. -/
theorem EventMove.accept {call : PendingCall} (plain : call.continuation.event? = none)
    (history : l'.history = .called call :: l.history) (queue : l'.securityEvents = l.securityEvents)
    (calls : l'.open = (l.accept call).open) (hand : l'.hand.event? = l.hand.event?) : EventMove l l' :=
  .note rfl rfl rfl rfl history queue ((congrArg eventsOf calls).trans (eventsOf_accept plain)) hand

/-- An entry joins the queue of transactions. -/
theorem EventMove.push {m : Ledger} (history : m.history = l.history) (entry : OfflineTx)
    (pushed : l'.history = (m.push entry).history) (queue : l'.securityEvents = l.securityEvents)
    (calls : eventsOf l'.open = eventsOf l.open) (hand : l'.hand.event? = l.hand.event?) : EventMove l l' := by
  unfold Ledger.push at pushed
  rw [history] at pushed
  cases dropped : (OfflineQueue.push m.queue entry).2 with
  | none =>
    rw [dropped] at pushed
    exact .quiet pushed queue calls hand
  | some entry =>
    rw [dropped] at pushed
    exact .note rfl rfl rfl rfl pushed queue calls hand

theorem Trans.eventMove (step : Trans allow l l') (fates : Fates l) : EventMove l l' := by
  cases step with
  | quiet step =>
    cases step with
    | note event neutral =>
      cases event with
      | replied => exact .note rfl rfl rfl rfl rfl rfl rfl rfl
      | responded => exact .note rfl rfl rfl rfl rfl rfl rfl rfl
      | _ => cases neutral
    | send call sends neutral => exact .accept (event_of_isNeutral neutral) rfl rfl rfl rfl
    | raise event => exact .raise event rfl rfl rfl rfl
    | sendEvent call sends event events queue cont =>
      refine .send event call rfl queue ?_ rfl
      have reports : call.event? = some event := by
        unfold PendingCall.event?
        rw [cont]
        rfl
      change eventsOf (l.rest ++ (l.calls ++ [call])) = _
      rw [← List.append_assoc]
      unfold eventsOf
      rw [List.filterMap_append]
      simp [reports, Ledger.open]
    | _ => exact .quiet rfl rfl rfl rfl
  | takeCall call result hand rest running found =>
    exact .complete call result hand rfl rfl (eventsOf_take l.rest fates.calls_tokens found) rfl
  | takeRest call rest error hand head =>
    refine .complete call (.error error) hand rfl rfl ?_ rfl
    unfold Ledger.open
    rw [head, List.cons_append, eventsOf_cons]
    exact .refl _
  | requeue event hand => exact .requeue event hand rfl rfl rfl rfl
  | abandon call found sample =>
    have mem : call ∈ calledOf l.history :=
      fates.mem_called (List.mem_append_right _ (List.mem_of_find?_eq_some found))
    obtain ⟨id, cont⟩ := fates.samples call mem sample
    have taken := eventsOf_take l.rest fates.calls_tokens found
    have plain : call.event? = none := by
      unfold PendingCall.event?
      rw [cont]
      rfl
    rw [plain] at taken
    exact .aside rfl rfl rfl rfl rfl taken.symm rfl
  | sendStart id pending call done hand sends cont =>
    exact .accept (by rw [cont]; rfl) rfl rfl rfl (by rw [hand]; rfl)
  | sendClose session sync call hand sends cont =>
    exact .accept (by rw [cont]; rfl) rfl rfl rfl (by rw [hand]; cases sync <;> rfl)
  | skipClose session sync hand => exact .quiet rfl rfl rfl (by rw [hand]; cases sync <;> rfl)
  | sendStop id tx tag startedAt meterStartWh info done call wire hand sends cont request sent =>
    exact .accept (by rw [cont]; rfl) rfl rfl rfl (by rw [hand]; rfl)
  | sendNext key keys e request cont call hand next sends found message sent continuation =>
    refine .accept ?_ rfl rfl rfl (by rw [hand]; rfl)
    rw [continuation]
    rcases message with ⟨-, start⟩ | ⟨-, stop⟩
    · rw [← (Prod.mk.inj start).2]
      rfl
    · exact stopOf_event stop
  | sendReady key e request cont call hand sends found message sent continuation =>
    exact .accept (continuation ▸ stopOf_event message) rfl rfl rfl (by rw [hand]; rfl)
  | queueStart id pending entry hand => exact .push rfl entry rfl rfl rfl (by rw [hand]; rfl)
  | queueStop id tx info e hand =>
    refine .quiet rfl rfl rfl ?_
    rcases hand with hand | hand <;> rw [hand] <;> rfl
  | queueNewStop id tx info entry hand =>
    refine .push (m := l.update id (Actor.forgetTransaction tx)) rfl entry rfl rfl rfl ?_
    rcases hand with hand | hand <;> rw [hand] <;> rfl
  | release key hand =>
    refine .quiet rfl rfl rfl ?_
    rcases hand with hand | hand <;> rw [hand] <;> rfl
  | beginSync boot keys hand => exact .note rfl rfl rfl rfl rfl rfl rfl (by rw [hand]; cases boot <;> rfl)
  | finishSync hand =>
    refine .quiet rfl rfl rfl ?_
    rw [hand]
    dsimp only
    split <;> rfl
  | dropLink hand rest => exact .quiet rfl rfl (by simp [Ledger.open, Ledger.dropLink, rest]) rfl
  | drain hand rest => exact .quiet rfl rfl (by simp [Ledger.open, rest]) rfl
  | _ =>
    first
      | exact .quiet rfl rfl rfl rfl
      | exact .quiet rfl rfl rfl (by simp only [Hand.event?, *])
      | exact .note rfl rfl rfl rfl rfl rfl rfl rfl
      | exact .note rfl rfl rfl rfl rfl rfl rfl (by simp only [Hand.event?, *])

/-! ## The books -/

/-- Every event that was there or was reported is in one place. -/
def Placed (initial : List PendingSecurityEvent) (l : Ledger) : Prop :=
  ∀ event, initial.count event + (raisedOf l.history).count event =
    l.securityEvents.count event + (eventsOf l.open).count event + l.hand.event?.toList.count event +
      (endedOf l.history).count event + (shedOf l.history).count event

/-- `push_bounded` keeps what it does not drop. -/
theorem count_pushBounded (queue : List PendingSecurityEvent) (event e : PendingSecurityEvent) :
    (Actor.pushBounded queue event).count e + (Actor.shedBy queue event).count e =
      queue.count e + [event].count e := by
  unfold Actor.pushBounded Actor.shedBy
  dsimp only
  rw [Nat.add_comm, ← List.count_append, List.take_append_drop, List.count_append]

theorem ended_completed (call : PendingCall) (result : CallResult) :
    (Event.completed call result).ended? =
      match decodeAny result with
      | .ok _ => call.continuation.event?
      | .error error => if error.isLinkError then none else call.continuation.event? := rfl

/-- What the completion of a CALL makes of its event. -/
theorem count_completed (call : PendingCall) (result : CallResult) (e : PendingSecurityEvent) :
    (Hand.ofResult call.continuation result).event?.toList.count e +
      (Event.completed call result).ended?.toList.count e = call.event?.toList.count e := by
  rw [ended_completed]
  unfold PendingCall.event? Hand.ofResult
  generalize call.continuation = continuation
  cases continuation with
  | securityEvent event =>
    cases decodeAny result with
    | ok _ => simp [Hand.event?, Cont.event?]
    | error error => cases link : error.isLinkError <;> simp [Hand.event?, Cont.event?, link]
  | startResult => cases decodeStart result <;> cases decodeAny result <;> simp [Hand.event?, Cont.event?]
  | stopResult => cases decodeAny result <;> simp [Hand.event?, Cont.event?]
  | syncStart => cases decodeStart result <;> cases decodeAny result <;> simp [Hand.event?, Cont.event?]
  | syncStop => cases decodeAny result <;> simp [Hand.event?, Cont.event?]
  | boot =>
    cases decodeBoot result with
    | ok response =>
      by_cases accepted : response.status = .accepted <;> cases decodeAny result <;>
        simp [Hand.event?, Cont.event?, accepted]
    | error => cases decodeAny result <;> simp [Hand.event?, Cont.event?]
  | _ => cases decodeAny result <;> simp [Hand.event?, Cont.event?]

/-- What is on its way back is the event of the CALL, whose failure is that of the link. -/
theorem returned_completed {call : PendingCall} {result : CallResult} {event : PendingSecurityEvent}
    (held : (Hand.ofResult call.continuation result).event? = some event) :
    (Event.completed call result).returned? = some event := by
  have given := count_completed call result event
  have one : (some event).toList.count event = 1 := by simp
  rw [held, one] at given
  have own : call.event? = some event := by
    cases reported : call.event? with
    | none => simp [reported] at given
    | some other =>
      have mem : event ∈ (some other).toList := List.count_pos_iff.mp (by rw [← reported]; omega)
      rw [List.mem_singleton.mp mem]
  have gone : (Event.completed call result).ended? ≠ some event := by
    intro ended
    rw [ended, own, one] at given
    cases given
  unfold Event.ended? at gone
  unfold Event.returned?
  cases decoded : decodeAny result with
  | ok => simp [decoded, own] at gone
  | error error =>
    cases link : error.isLinkError with
    | false => simp [decoded, link, own] at gone
    | true => simpa [decoded, link] using own

theorem sorted_by_time (events : List PendingSecurityEvent) :
    (events.insertionSort fun e f => e.timestamp ≤ f.timestamp).Pairwise fun e f => e.timestamp ≤ f.timestamp := by
  have total : Std.Total fun e f : PendingSecurityEvent => e.timestamp ≤ f.timestamp := ⟨fun _ _ => le_total _ _⟩
  have trans : IsTrans PendingSecurityEvent fun e f => e.timestamp ≤ f.timestamp := ⟨fun _ _ _ => le_trans⟩
  exact List.pairwise_insertionSort _ events

theorem placed_preserved (move : EventMove l l') (h : Placed initial l) : Placed initial l' := by
  intro e
  have before := h e
  cases move with
  | aside raised ended returned pushes queue calls hand =>
    unfold shedOf at before ⊢
    rw [raised, ended, pushes, queue, calls.count_eq, hand]
    exact before
  | raise event history queue calls hand =>
    have bounded := count_pushBounded l.securityEvents event e
    rw [history, queue, calls, hand]
    change initial.count e + ([event] ++ raisedOf l.history).count e =
      (Actor.pushBounded l.securityEvents event).count e + (eventsOf l.open).count e +
        l.hand.event?.toList.count e + (endedOf l.history).count e +
        (Actor.shedBy l.securityEvents event ++ shedOf l.history).count e
    rw [List.count_append, List.count_append]
    omega
  | send event call history queue calls hand =>
    have queued : l.securityEvents.count e = [event].count e + l'.securityEvents.count e := by
      rw [queue, ← List.count_append]
      rfl
    rw [history, calls, hand, List.count_append]
    change initial.count e + (raisedOf l.history).count e = _ + _ + _ + (endedOf l.history).count e +
      (shedOf l.history).count e
    omega
  | complete call result idle history queue calls hand =>
    have given := count_completed call result e
    have taken : (eventsOf l.open).count e = call.event?.toList.count e + (eventsOf l'.open).count e := by
      rw [calls.count_eq, List.count_append]
    have ended : (endedOf l'.history).count e =
        (Event.completed call result).ended?.toList.count e + (endedOf l.history).count e := by
      rw [history]
      unfold endedOf
      rw [List.filterMap_cons]
      cases (Event.completed call result).ended? with
      | none => simp
      | some e => rw [← List.count_append]; rfl
    have nothing : l.hand.event?.toList.count e = 0 := by rw [idle]; rfl
    rw [queue, hand, ended, history]
    change initial.count e + (raisedOf l.history).count e = _ + _ + _ + _ + (shedOf l.history).count e
    rw [taken, nothing] at before
    omega
  | requeue event held history queue calls hand =>
    have bounded := count_pushBounded l.securityEvents event e
    have sorted := (List.perm_insertionSort (fun e f : PendingSecurityEvent => e.timestamp ≤ f.timestamp)
      (Actor.pushBounded l.securityEvents event)).count_eq e
    have holds : l.hand.event?.toList = [event] := by
      rw [held]
      rfl
    rw [holds] at before
    rw [history, queue, calls, hand, sorted]
    change initial.count e + (raisedOf l.history).count e = _ + (eventsOf l.open).count e + 0 +
      (endedOf l.history).count e + (Actor.shedBy l.securityEvents event ++ shedOf l.history).count e
    rw [List.count_append]
    omega

/-- What waits was in the file or was reported. -/
theorem Placed.known (h : Placed initial l) {event : PendingSecurityEvent} (waits : event ∈ l.securityEvents) :
    event ∈ initial ∨ event ∈ raisedOf l.history := by
  have counted := h event
  have some := List.count_pos_iff.mpr waits
  rw [← List.count_pos_iff, ← List.count_pos_iff]
  omega

/-! ## What the full queue drops -/

/-- The events of the file and those reported since come in the order of their times: the clock is not set back
between them. -/
def Timely (initial : List PendingSecurityEvent) (history : List Event) : Prop :=
  (initial ++ (raisedOf history).reverse).Pairwise fun e f => e.timestamp ≤ f.timestamp

/-- What is dropped for `event` is no newer than what is kept, unless that is `event` and came back from a lost link. -/
def DropsOldest (past : List Event) (queue : List PendingSecurityEvent) (event : PendingSecurityEvent) : Prop :=
  ∀ old ∈ Actor.shedBy queue event, ∀ kept ∈ Actor.pushBounded queue event,
    old.timestamp ≤ kept.timestamp ∨ kept = event ∧ event ∈ returnedOf past

/-- The queue is in order, and has dropped the oldest. -/
structure KeepsNewest (initial : List PendingSecurityEvent) (l : Ledger) : Prop where
  returned : ∀ event, l.hand.event? = some event → event ∈ returnedOf l.history
  sorted : Timely initial l.history → l.securityEvents.Pairwise fun e f => e.timestamp ≤ f.timestamp
  dropped : Timely initial l.history → ∀ queue event past, .pushed queue event :: past <:+ l.history →
    DropsOldest past queue event

theorem Timely.raised {history : List Event} {event : PendingSecurityEvent} {raised : List PendingSecurityEvent}
    (timely : Timely initial history) (latest : raisedOf history = event :: raised) :
    (initial ++ raised.reverse).Pairwise (fun e f => e.timestamp ≤ f.timestamp) ∧
      ∀ earlier, earlier ∈ initial ∨ earlier ∈ raised → earlier.timestamp ≤ event.timestamp := by
  unfold Timely at timely
  rw [latest, List.reverse_cons, ← List.append_assoc, List.pairwise_append] at timely
  refine ⟨timely.1, fun earlier known => timely.2.2 earlier ?_ event (List.mem_singleton_self _)⟩
  rw [List.mem_append, List.mem_reverse]
  exact known

/-- The queue drops its front. -/
theorem dropsOldest_of_sorted {past : List Event} {queue : List PendingSecurityEvent} {event : PendingSecurityEvent}
    (sorted : queue.Pairwise fun e f => e.timestamp ≤ f.timestamp)
    (last : (∀ e ∈ queue, e.timestamp ≤ event.timestamp) ∨ event ∈ returnedOf past) : DropsOldest past queue event := by
  intro old dropped kept stays
  unfold Actor.shedBy at dropped
  unfold Actor.pushBounded at stays
  dsimp only at dropped stays
  generalize (queue ++ [event]).length - Actor.maxQueuedEvents = n at dropped stays
  by_cases within : n ≤ queue.length
  · rw [List.take_append_of_le_length within] at dropped
    rw [List.drop_append_of_le_length within, List.mem_append, List.mem_singleton] at stays
    rcases stays with waits | rfl
    · rw [← List.take_append_drop n queue, List.pairwise_append] at sorted
      exact .inl (sorted.2.2 old dropped kept waits)
    · exact last.imp (fun newest => newest old (List.mem_of_mem_take dropped)) fun back => ⟨rfl, back⟩
  · rw [List.drop_eq_nil_of_le (by rw [List.length_append, List.length_singleton]; omega)] at stays
    cases stays

/-- A transition that pushes nothing. -/
theorem pushed_suffix {history history' : List Event} (more : history <:+ history')
    (same : pushesOf history' = pushesOf history) {queue : List PendingSecurityEvent} {event : PendingSecurityEvent}
    {past : List Event} (suffix : .pushed queue event :: past <:+ history') :
    .pushed queue event :: past <:+ history := by
  rcases List.suffix_or_suffix_of_suffix suffix more with earlier | later
  · exact earlier
  · rcases List.suffix_cons_iff.mp later with whole | inside
    · exact whole ▸ List.suffix_rfl
    · obtain ⟨front, rfl⟩ := inside
      obtain ⟨first, rfl⟩ := suffix
      have split : pushesOf (first ++ .pushed queue event :: (front ++ history)) =
          pushesOf first ++ (queue, event) :: (pushesOf front ++ pushesOf history) := by
        simp [pushesOf, Event.pushed?]
      have length := congrArg List.length (split.symm.trans same)
      simp only [List.length_append, List.length_cons] at length
      omega

theorem keepsNewest_preserved (more : l.history <:+ l'.history) (move : EventMove l l') (placed : Placed initial l)
    (h : KeepsNewest initial l) : KeepsNewest initial l' := by
  -- a history without a new event is as timely as before
  have before {history : List Event} (raised : raisedOf history = raisedOf l.history)
      (timely : Timely initial history) : Timely initial l.history := by
    unfold Timely at timely ⊢
    rwa [raised] at timely
  cases move with
  | aside raised ended returned pushes queue calls hand =>
    refine ⟨fun event held => ?_, fun timely => queue ▸ h.sorted (before raised timely),
      fun timely _ _ _ suffix => h.dropped (before raised timely) _ _ _ (pushed_suffix more pushes suffix)⟩
    rw [returned]
    exact h.returned event (hand ▸ held)
  | raise event history queue calls hand =>
    have latest : raisedOf l'.history = event :: raisedOf l.history := by
      rw [history]
      rfl
    have order (timely : Timely initial l'.history) : Timely initial l.history ∧
        ∀ e ∈ l.securityEvents, e.timestamp ≤ event.timestamp := by
      obtain ⟨earlier, newest⟩ := timely.raised latest
      exact ⟨earlier, fun e waits => newest e (placed.known waits)⟩
    refine ⟨fun other held => ?_, fun timely => ?_, fun timely queue' event' past suffix => ?_⟩
    · rw [history]
      exact h.returned other (hand ▸ held)
    · obtain ⟨earlier, newest⟩ := order timely
      rw [queue]
      refine List.Pairwise.sublist (List.drop_sublist _ _) (List.pairwise_append.mpr
        ⟨h.sorted earlier, List.pairwise_singleton _ _, fun e waits last same => ?_⟩)
      exact List.mem_singleton.mp same ▸ newest e waits
    · obtain ⟨earlier, newest⟩ := order timely
      rw [history] at suffix
      rcases List.suffix_cons_iff.mp suffix with here | older
      · cases here
        exact dropsOldest_of_sorted (h.sorted earlier) (.inl newest)
      · exact h.dropped earlier _ _ _ (pushed_suffix (List.suffix_cons _ _) rfl older)
  | send event call history queue calls hand =>
    have raised : raisedOf l'.history = raisedOf l.history := by
      rw [history]
      rfl
    refine ⟨fun other held => ?_, fun timely => ?_, fun timely _ _ _ suffix => ?_⟩
    · rw [history]
      exact h.returned other (hand ▸ held)
    · have sorted := h.sorted (before raised timely)
      rw [queue] at sorted
      exact (List.pairwise_cons.mp sorted).2
    · exact h.dropped (before raised timely) _ _ _ (pushed_suffix more (by rw [history]; rfl) suffix)
  | complete call result idle history queue calls hand =>
    have raised : raisedOf l'.history = raisedOf l.history := by
      rw [history]
      rfl
    refine ⟨fun other held => ?_, fun timely => queue ▸ h.sorted (before raised timely),
      fun timely _ _ _ suffix => h.dropped (before raised timely) _ _ _
        (pushed_suffix more (by rw [history]; rfl) suffix)⟩
    rw [hand] at held
    rw [history]
    refine List.mem_filterMap.mpr ⟨_, List.mem_cons_self, ?_⟩
    exact returned_completed held
  | requeue event held history queue calls hand =>
    have raised : raisedOf l'.history = raisedOf l.history := by
      rw [history]
      rfl
    refine ⟨fun other mine => ?_, fun timely => ?_, fun timely queue' event' past suffix => ?_⟩
    · rw [hand] at mine
      cases mine
    · rw [queue]
      exact sorted_by_time _
    · rw [history] at suffix
      rcases List.suffix_cons_iff.mp suffix with here | older
      · cases here
        exact dropsOldest_of_sorted (h.sorted (before raised timely)) (.inr (h.returned event (by rw [held]; rfl)))
      · exact h.dropped (before raised timely) _ _ _ older

/-! ## The queue and the file -/

/-- The queue and those that were saved are bounded. -/
structure Bounded (l : Ledger) : Prop where
  queue : l.securityEvents.length ≤ Actor.maxQueuedEvents
  written : ∀ data ∈ l.written, data.securityEvents.length ≤ Actor.maxQueuedEvents

theorem pushBounded_length (queue : List PendingSecurityEvent) (event : PendingSecurityEvent) :
    (Actor.pushBounded queue event).length ≤ Actor.maxQueuedEvents := by
  unfold Actor.pushBounded
  dsimp only
  rw [List.length_drop]
  omega

theorem bounded_preserved (allow : Allow) : Preserves (Trans allow) Bounded := by
  intro l l' step h
  cases step with
  | quiet step =>
    cases step with
    | save data queue connectors events =>
      refine ⟨h.queue, fun other mem => ?_⟩
      rcases List.mem_cons.mp mem with rfl | old
      · rw [events]
        exact h.queue
      · exact h.written other old
    | raise event => exact ⟨pushBounded_length _ _, h.written⟩
    | sendEvent call sends event events queue =>
      refine ⟨?_, h.written⟩
      have := h.queue
      rw [queue, List.length_cons] at this
      exact (Nat.le_succ _).trans this
    | _ => exact ⟨h.queue, h.written⟩
  | requeue event hand =>
    refine ⟨?_, h.written⟩
    change (List.insertionSort _ (Actor.pushBounded l.securityEvents event)).length ≤ _
    rw [List.length_insertionSort]
    exact pushBounded_length _ _
  | _ => exact ⟨h.queue, h.written⟩

/-- The security events in the state file: those of the last write, or those the process found. -/
def savedEvents (initial : List PendingSecurityEvent) (written : List PersistedStation) :
    List PendingSecurityEvent := ((written.head?).map (·.securityEvents)).getD initial

/-- The file has the queue, or it is marked as behind. -/
def UpToDate (initial : List PendingSecurityEvent) (l : Ledger) : Prop :=
  l.unsaved = true ∨ savedEvents initial l.written = l.securityEvents

theorem upToDate_preserved (initial : List PendingSecurityEvent) (allow : Allow) :
    Preserves (Trans allow) (UpToDate initial) := by
  intro l l' step h
  cases step with
  | quiet step =>
    cases step with
    | save data queue connectors events => exact .inr events
    | touch => exact .inl rfl
    | raise => exact .inl rfl
    | sendEvent _ _ _ _ _ _ unsaved => exact .inl unsaved
    | _ => exact h
  | requeue => exact .inl rfl
  | _ => exact h

/-! ## Runs of a process -/

/-- The books of the security events. -/
structure EventBooks (initial : List PendingSecurityEvent) (l : Ledger) : Prop where
  fates : Fates l
  counted : Counted l
  placed : Placed initial l
  newest : KeepsNewest initial l
  bounded : Bounded l
  upToDate : UpToDate initial l

theorem eventBooks_preserved (initial : List PendingSecurityEvent) (allow : Allow) :
    Preserves (Trans allow) (EventBooks initial) := by
  intro l l' step h
  obtain ⟨fates, counted⟩ := fates_counted allow step ⟨h.fates, h.counted⟩
  have move := step.eventMove h.fates
  exact ⟨fates, counted, placed_preserved move h.placed, keepsNewest_preserved step.history move h.placed h.newest,
    bounded_preserved allow step h.bounded, upToDate_preserved initial allow step h.upToDate⟩

namespace Actor

variable {a b : Actor}

/-- A process whose state file held the security events `initial` is in the state `a`. -/
inductive Serves : List PendingSecurityEvent → Actor → Prop
  | fresh {a : Actor} (config : StationConfig) (registry : ConfigRegistry) (now : Instant) (mono : Int)
      (run : Runs (fun _ _ => True) (.start config registry now mono none) a) : Serves [] a
  | restarted {a b : Actor} {initial : List PendingSecurityEvent} (earlier : Serves initial b)
      (config : StationConfig) (registry : ConfigRegistry) (now : Instant) (mono : Int)
      (saved : PersistedStation) (written : saved ∈ b.written)
      (run : Runs (fun _ _ => True) (.start config registry now mono (some saved)) a) :
      Serves saved.securityEvents a

/-- A new process has the events of its file. -/
theorem loaded_eventBooks (config : StationConfig) (registry : ConfigRegistry) (now : Instant) (mono : Int)
    (saved : Option PersistedStation)
    (bounded : ∀ data, saved = some data → data.securityEvents.length ≤ maxQueuedEvents) :
    EventBooks ((saved.map (·.securityEvents)).getD [])
      ((loaded config registry now mono saved).ledger [] .none) := by
  have queue : (loaded config registry now mono saved).securityEvents =
      (saved.map (·.securityEvents)).getD [] := by
    cases saved <;> rfl
  have calls : (loaded config registry now mono saved).calls = [] := by cases saved <;> rfl
  have history : (loaded config registry now mono saved).history = [] := by cases saved <;> rfl
  have written : (loaded config registry now mono saved).written = [] := by cases saved <;> rfl
  have fates := loaded_fates config registry now mono saved
  have counted := loaded_counted config registry now mono saved
  generalize loaded config registry now mono saved = a at queue calls history written fates counted
  have newest : KeepsNewest ((saved.map (·.securityEvents)).getD []) (a.ledger [] .none) := by
    have none : (a.ledger [] .none).history = [] := history
    refine ⟨fun event held => ?_, fun timely => ?_, fun _ _ _ _ suffix => ?_⟩
    · cases held
    · rw [none] at timely
      change a.securityEvents.Pairwise _
      rw [queue]
      exact (List.pairwise_append.mp timely).1
    · rw [none, List.suffix_nil] at suffix
      cases suffix
  refine ⟨fates, counted, fun event => ?_, newest, ⟨?_, fun data mem => ?_⟩, .inr ?_⟩
  · simp [ledger, calls, history, Ledger.open, raisedOf, endedOf, shedOf, pushesOf, eventsOf, Hand.event?, queue]
  · change a.securityEvents.length ≤ maxQueuedEvents
    rw [queue]
    cases saved with
    | none => exact Nat.zero_le _
    | some data => exact bounded data rfl
  · have mem : data ∈ a.written := mem
    rw [written] at mem
    cases mem
  · change savedEvents _ a.written = a.securityEvents
    rw [written, queue]
    rfl

theorem Runs.eventBooks {a b : Actor} (run : Runs (fun _ _ => True) a b) (ids : Ids (a.ledger [] .none))
    (books : EventBooks initial (a.ledger [] .none)) : EventBooks initial (b.ledger [] .none) := by
  have permitted : Runs (Permitted (losing true)) a b :=
    ReflTransGen.mono (fun _ _ ⟨wake, _, same⟩ => ⟨wake, permits_losing _ _ (.inl rfl), same⟩) _ _ run
  exact permitted.invariant ids (eventBooks_preserved initial _) books

theorem started_eventBooks (config : StationConfig) (registry : ConfigRegistry) (now : Instant) (mono : Int)
    (saved : Option PersistedStation)
    (bounded : ∀ data, saved = some data → data.securityEvents.length ≤ maxQueuedEvents) {a : Actor}
    (run : Runs (fun _ _ => True) (.start config registry now mono saved) a) :
    EventBooks ((saved.map (·.securityEvents)).getD []) (a.ledger [] .none) := by
  refine Runs.eventBooks run (start_ids config registry now mono saved) ?_
  exact (eventBooks_preserved _ {}).path (start_path config registry now mono saved (.inl rfl))
    (loaded_eventBooks config registry now mono saved bounded)

theorem Serves.eventBooks (h : Serves initial a) : EventBooks initial (a.ledger [] .none) := by
  induction h with
  | fresh config registry now mono run =>
    exact started_eventBooks config registry now mono none (fun _ nothing => nomatch nothing) run
  | restarted earlier config registry now mono saved written run ih =>
    refine started_eventBooks config registry now mono (some saved) (fun data same => ?_) run
    obtain rfl := Option.some.inj same
    exact ih.bounded.written _ written

theorem Serves.step (h : Serves initial a) (wake : Wake) : Serves initial (a.step wake) := by
  cases h with
  | fresh config registry now mono run =>
    exact .fresh config registry now mono (run.tail ⟨wake, trivial, rfl⟩)
  | restarted earlier config registry now mono saved written run =>
    exact .restarted earlier config registry now mono saved written (run.tail ⟨wake, trivial, rfl⟩)

/-- What becomes of the events. -/
structure EventsKept (initial : List PendingSecurityEvent) (a : Actor) : Prop where
  /-- An event waits, is in flight, has ended, or was dropped: each one in one place. -/
  places : ∀ event, initial.count event + (raisedOf a.history).count event =
    a.securityEvents.count event + (eventsOf a.calls).count event + (endedOf a.history).count event +
      (shedOf a.history).count event
  bounded : a.securityEvents.length ≤ maxQueuedEvents
  /-- While the clock is not set back, what the full queue drops is no newer than what it keeps, an event that comes
  back from a lost link apart. -/
  newest : Timely initial a.history → ∀ queue event past, .pushed queue event :: past <:+ a.history →
    DropsOldest past queue event
  /-- After a graceful stop the state file holds the queue, and that is each event that has neither ended nor been
  dropped, unless the stop ended the sync of a boot. -/
  stopped : ∀ reply now mono, a.stopped = false →
    let wake : Wake := { input := .shutdown reply, now, mono }
    let b := a.step wake
    b.stopped = true ∧ (b.persistence.store = true → savedEvents initial b.written = b.securityEvents) ∧
      (¬(a.woken wake).EndsResend → ∀ event, initial.count event + (raisedOf b.history).count event =
        b.securityEvents.count event + (endedOf b.history).count event + (shedOf b.history).count event)

/-- A graceful stop leaves nothing unsaved, and no CALL but those that the failing ones made. -/
theorem shutdown_saves (a : Actor) (reply : Option Reply) :
    (a.shutdown reply).stopped = true ∧ (a.shutdown reply).calls = a.drain.calls ∧
      ((a.shutdown reply).persistence.store = true → (a.shutdown reply).persistence.dirty = false) := by
  unfold shutdown
  generalize a.drain = drained
  have replies (b : Actor) : (b.replyIf reply (.ok .done)).stopped = b.stopped ∧
      (b.replyIf reply (.ok .done)).calls = b.calls ∧
      (b.replyIf reply (.ok .done)).persistence = b.persistence := by
    cases reply <;> exact ⟨rfl, rfl, rfl⟩
  rw [(replies _).1, (replies _).2.1, (replies _).2.2]
  unfold finishPersistence
  dsimp only
  split
  · exact ⟨rfl, rfl, fun _ => rfl⟩
  · rename_i clean
    refine ⟨rfl, rfl, fun store => ?_⟩
    have store : (drained.halted.cancelTimer .persistFlush).persistence.store = true := store
    rw [store, Bool.true_and] at clean
    simp only [Bool.or_eq_true, not_or, Bool.not_eq_true] at clean
    exact clean.1.1.1

/-- **No security event is lost.** In every run of a process each event is in one place, the queue is bounded and drops
the oldest, and a graceful stop saves what has not ended. -/
theorem security_events_kept (h : Serves initial a) : EventsKept initial a := by
  have books := h.eventBooks
  refine ⟨fun event => ?_, books.bounded.queue, books.newest.dropped, fun reply now mono running => ?_⟩
  · exact books.placed event
  · intro wake b
    obtain ⟨ended, calls, clean⟩ := shutdown_saves (a.woken wake) reply
    have last : b = (a.woken wake).shutdown reply := by
      change a.step wake = _
      unfold step
      rw [if_neg (by simp [running])]
      exact if_pos ended
    have after := (h.step wake).eventBooks
    change EventBooks initial (b.ledger [] .none) at after
    rw [last] at after ⊢
    refine ⟨ended, fun store => after.upToDate.resolve_left fun unsaved => ?_, fun stays event => ?_⟩
    · simp [ledger, clean store, store] at unsaved
    · have woken : Path {} (a.ledger [] .none) ((a.woken wake).ledger [] .none) := (a.woken_quiet wake).path [] .none
      have counted := ((fates_counted {}).path woken ⟨books.fates, books.counted⟩).2
      have silent : eventsOf ((a.woken wake).shutdown reply).calls = [] := by
        rw [calls]
        exact drain_unheard _ counted stays
      have placed := after.placed event
      change _ = ((a.woken wake).shutdown reply).securityEvents.count event +
        (eventsOf ((a.woken wake).shutdown reply).calls).count event + 0 + _ + _ at placed
      rw [silent] at placed
      exact placed

/-- The startup event of a station whose boot was accepted is in flight when the station is stopped, with a state
directory: the event is in the state file. -/
theorem security_events_kept_startup :
    let a := (start { connectorCount := 1, persist := true } {} 1000000000000 0 none).replay 1000000000000 0
      [.command .connect 0, .connected 1 true none, .callDone 0 1 (.ok (.boot .accepted 0 0))]
    let b := a.step { input := .shutdown none, now := 1000000000000, mono := 0 }
    let startup : PendingSecurityEvent :=
      { eventType := "StartupOfTheDevice", timestamp := 1000000000000, techInfo := none }
    eventsOf a.calls = [startup] ∧ savedEvents [] b.written = [startup] ∧
      1 = (savedEvents [] b.written).count startup + (endedOf b.history).count startup +
        (shedOf b.history).count startup := by
  intro a b startup
  let wake : Wake := { input := .shutdown none, now := 1000000000000, mono := 0 }
  have kept : EventsKept [] a :=
    security_events_kept (.fresh { connectorCount := 1, persist := true } {} 1000000000000 0
      (.replay _ 1000000000000 0 _ fun _ _ _ => trivial))
  obtain ⟨-, saved, books⟩ := kept.stopped none 1000000000000 0 (by decide +kernel)
  have stays : ¬(a.woken wake).EndsResend := fun ends => absurd ends.2.1 (by decide +kernel)
  have file := saved (by decide +kernel)
  have one : (raisedOf b.history).count startup = 1 := by decide +kernel
  refine ⟨by decide +kernel, by decide +kernel, ?_⟩
  have books := books stays startup
  rw [List.count_nil, Nat.zero_add, ← file] at books
  exact one.symm.trans books

/-- An answer of the CSMS to the report of an event: a CALLRESULT or a CALLERROR. -/
def answeredOf (history : List Event) : List PendingSecurityEvent :=
  history.filterMap fun
    | .completed call (.ok _) => call.event?
    | .completed call (.error .rpc) => call.event?
    | _ => none

/-- The report of the startup event times out: the event is neither answered nor kept. And once the clock is set back,
the full queue drops an event that is newer than the one it takes. -/
theorem security_events_lost :
    (let a := (start { connectorCount := 1 } {} 1000000000000 0 none).replay 1000000000000 0
        [.command .connect 0, .connected 1 true none, .callDone 0 1 (.ok (.boot .accepted 0 0)),
          .callDone 3 1 (.error .timeout)]
     Serves [] a ∧ ∃ event ∈ raisedOf a.history, event ∉ answeredOf a.history ∧ event ∉ a.securityEvents ∧
        event ∉ eventsOf a.calls ∧ shedOf a.history = []) ∧
    (let full := (start { connectorCount := 1 } {} 1000000000000 0 none).replay 1000000000000 0
        (List.replicate maxQueuedEvents (.command (.sendSecurityEvent "SettingSystemTime") 0))
     let b := full.replay 0 0 [.command (.sendSecurityEvent "SettingSystemTime") 0]
     Serves [] b ∧ ∃ old ∈ shedOf b.history, ∃ kept ∈ b.securityEvents, kept.timestamp < old.timestamp) := by
  constructor
  · refine ⟨.fresh _ _ _ _ (.replay _ _ _ _ fun _ _ _ => trivial), ?_⟩
    decide +kernel
  · intro full b
    have filled : Runs (fun _ _ => True) _ full := .replay _ _ _ _ fun _ _ _ => trivial
    refine ⟨.fresh _ _ _ _ (filled.trans (Runs.replay _ _ _ _ fun _ _ _ => trivial)), ?_⟩
    decide +kernel

end Actor

end KirbyOcpp
