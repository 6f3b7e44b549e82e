import KirbyOcpp.Laws.Station.Face
import KirbyOcpp.Laws.Station.Recovery
import KirbyOcpp.Laws.Station.Sync

/-!
# What a failing CALL reports

The continuations of the CALLs that `shutdown` fails may place new ones, while the connection is still there. They
end transactions, tell statuses and go on with the sync; none of this reports a security event. Only the end of a
sync that follows a boot does, since `finish_boot_accepted` flushes the queue (`EndsResend`).

* What such a continuation keeps is a predicate on the CALLs, the link and the books of the sync (`Bears`), so that
  one walk serves a station that cannot talk (`Mute`) and the three states that its sync can be in.
-/

namespace KirbyOcpp

/-- The event that a continuation holds. -/
def Cont.event? : Cont → Option PendingSecurityEvent
  | .securityEvent event => some event
  | _ => none

/-- The event that a CALL reports. -/
def PendingCall.event? (call : PendingCall) : Option PendingSecurityEvent := call.continuation.event?

/-- The events in flight. -/
def eventsOf (calls : List PendingCall) : List PendingSecurityEvent := calls.filterMap PendingCall.event?

/-- A queued stop reports no event. -/
theorem stopOf_event {entry : OfflineTx} {request : Request} {cont : Cont}
    (stop : Actor.stopOf entry = some (request, cont)) : cont.event? = none := by
  unfold Actor.stopOf at stop
  split at stop
  · cases stop
    rfl
  · cases stop

namespace Actor

variable {P Q : Dealings → Prop} {a b : Actor} {d : Dealings}

/-! ## CALLs without an event -/

/-- `P` stays true when a CALL that reports no event goes out. -/
def Lets (P : Dealings → Prop) : Prop :=
  ∀ d call, P d → d.talk = true → call.continuation.event? = none → P { d with calls := d.calls ++ [call] }

namespace Lets

/-- A CALL that reports no event is let through. -/
theorem call (lets : Lets P) (h : P a.dealings) {request : Request} (plain : request.isBoot = false)
    {continuation : Cont} (unheard : continuation.event? = none) {onFail : CallError → Actor → Actor}
    (fails : ∀ error, P (onFail error a).dealings) : P (a.call .station request continuation onFail).dealings := by
  rcases a.call_cases .station request continuation onFail with ⟨error, eq⟩ | ⟨conn, may, eq⟩
  · rw [eq]
    exact fails error
  · have talk : a.canTalk = true := by
      unfold canTalk
      rw [plain] at may
      unfold maySend at may
      split at may <;> simp_all
    rw [eq]
    exact lets _ _ h talk unheard

/-- A status notification is let through. -/
theorem dispatchStatus (lets : Lets P) (h : P a.dealings) (id : ConnectorId) (key : StatusKey) (timestamp : Instant)
    (reply : Option Reply) : P (a.dispatchStatus id key timestamp .station reply).dealings := by
  have told : P (a.setTracker id { a.tracker id with lastSent := some key }).dealings := h
  unfold Actor.dispatchStatus
  refine lets.call told (by rfl) (by rfl) fun error => ?_
  unfold onStatusResult
  rw [replyIf_dealings]
  exact h

/-- A status that changes is let through. -/
theorem statusChanged (lets : Lets P) (h : P a.dealings) (id : ConnectorId) : P (a.statusChanged id).dealings := by
  unfold Actor.statusChanged
  split
  · exact h
  · split
    · exact h
    · generalize planChange _ _ _ _ = planned
      obtain ⟨tracker, plan⟩ := planned
      cases plan with
      | nothing => exact h
      | cancel => exact h
      | send timestamp =>
        exact lets.dispatchStatus (a := (a.setTracker id tracker).cancelTimer (.statusDebounce id)) h _ _ _ _
      | defer => exact h

/-- A change of availability reports a status at most. -/
theorem applyPendingAvailability (lets : Lets P) (h : P a.dealings) (id : ConnectorId) :
    P (a.applyPendingAvailability id).dealings := by
  unfold Actor.applyPendingAvailability
  split
  · exact h
  · exact lets.statusChanged (by simpa using h) id

/-- A failed start reports a status at most. -/
theorem abandonStart (lets : Lets P) (h : P a.dealings) (id : ConnectorId) : P (a.abandonStart id).dealings :=
  lets.statusChanged (lets.applyPendingAvailability (by simpa using h) id) id

/-- A stop that ends reports a status at most. -/
theorem finishStop (lets : Lets P) (h : P a.dealings) (id : ConnectorId) (tx : TxId) :
    P (a.finishStop id tx).dealings := by
  have ended : P (((a.withConnector id (forgetTransaction tx)).endProfiles tx).applyPendingAvailability id).dealings :=
    lets.applyPendingAvailability (by simpa using h) id
  exact lets.statusChanged (by simpa using ended) id

end Lets

/-! ## Continuations outside the sync -/

/-- A continuation outside the sync leads from `P` to `Q`: it places CALLs without an event, queues one stop at most,
and may arm the retries or start a sync that follows no boot. -/
structure Bears (P Q : Dealings → Prop) : Prop where
  before : Lets P
  after : Lets Q
  fewer : ∀ {d}, P d → Q d
  stop : ∀ {a : Actor} id tx tag startedAt meterStartWh info, P a.dealings →
    Q (a.queueStop id tx tag startedAt meterStartWh info).2.dealings
  retry : ∀ {a : Actor}, Q a.dealings → Q a.armSyncRetryIfIdle.dealings
  resend : ∀ {a : Actor}, Q a.dealings → Q (a.startOfflineSync false).2.dealings

namespace Bears

/-- A stop that fails is queued, and reports a status. -/
theorem onStopResult (bears : Bears P Q) (h : P a.dealings) (id : ConnectorId) (tx : TxId) (tag : IdTag)
    (startedAt : Instant) (meterStartWh : Nat) (info : StopInfo) (done : Done) (error : CallError) :
    Q (onStopResult id tx tag startedAt meterStartWh info done (.error error) a).dealings := by
  have queued := bears.stop id tx tag startedAt meterStartWh info h
  unfold Actor.onStopResult
  dsimp only
  rw [runDone_dealings]
  refine bears.retry ?_
  rw [recordSyncFailure_dealings]
  exact bears.after.finishStop queued id tx

/-- A stop without a link is queued. -/
theorem stopOffline (bears : Bears P Q) (h : P a.dealings) (id : ConnectorId) (target : StopTarget) (info : StopInfo) :
    Q (a.stopOffline id target info .ignore).dealings := by
  have finished := bears.after.finishStop
    (bears.stop id target.tx target.tag target.startedAt target.meterStartWh info h) id target.tx
  unfold Actor.stopOffline runDone
  dsimp only
  split
  · exact bears.resend finished
  · exact finished

/-- A stop with a link is a CALL. -/
theorem stopOnline (bears : Bears P Q) (h : P a.dealings) (id : ConnectorId) (target : StopTarget) (info : StopInfo) :
    Q (a.stopOnline id target info .ignore).dealings := by
  have told (f : ConnectorSnapshot → ConnectorSnapshot) : P ((a.withConnector id f).statusChanged id).dealings :=
    bears.before.statusChanged (by simpa using h) id
  unfold Actor.stopOnline
  dsimp only
  split
  · exact bears.fewer (told _)
  · exact bears.after.call (bears.fewer (told _)) rfl rfl fun error => bears.onStopResult (told _) ..

/-- A stop takes one of the two ways. -/
theorem stopChecked (bears : Bears P Q) (h : P a.dealings) (id : ConnectorId) (c : ConnectorSnapshot)
    (target : StopTarget) (reason : StopReason) (idTag : Option IdTag) :
    Q (a.stopChecked id c target reason idTag .ignore).dealings := by
  have noted (info : StopInfo) (plugged : Bool) (status : ConnectorStatus) :
      P ((a.meterReading id false).1.noteStop id info plugged status).dealings := by
    rw [noteStop_dealings]
    exact a.flushMeters_dealings ▸ h
  unfold Actor.stopChecked
  dsimp only
  split
  · exact bears.stopOffline (noted _ _ _) ..
  · exact bears.stopOnline (noted _ _ _) ..

/-- A transaction that has used up its energy is stopped. -/
theorem checkEnergyLimit (bears : Bears P Q) (h : P a.dealings) (id : ConnectorId) :
    Q (a.checkEnergyLimit id).dealings := by
  unfold Actor.checkEnergyLimit
  split
  · split
    · have cleared : P ({ a with invalidLimits := removeAt id a.invalidLimits } : Actor).flushMeters.dealings := by
        rw [flushMeters_dealings]
        exact h
      unfold stopTransaction
      dsimp only
      generalize ({ a with invalidLimits := removeAt id a.invalidLimits } : Actor).flushMeters = b at cleared ⊢
      split
      · exact bears.fewer cleared
      · split
        · exact bears.fewer cleared
        · exact bears.stopChecked cleared ..
    · exact bears.fewer h
  · exact bears.fewer h

/-- A CALL outside the sync fails. -/
theorem complete (bears : Bears P Q) (h : P a.dealings) {call : PendingCall}
    (aside : call.continuation.syncKey? = none) : Q (complete call (.error (.closed none)) a).dealings := by
  have recorded : P (a.record (.completed call (.error (.closed none)))).dealings := h
  unfold Actor.complete
  generalize a.record (.completed call (.error (.closed none))) = a at recorded
  have kept {b : Actor} (same : b.face = a.face ∧ b.books = a.books) : Q b.dealings := by
    rw [dealings_of_face same]
    exact bears.fewer recorded
  cases cont : call.continuation with
  | startResult id localId pending done =>
    change Q (runDone done (.error (callFailure (.closed none)))
      (if decide ((a.findConnector id).bind (·.txId) = some localId) then a.abandonStart id else a)).dealings
    rw [runDone_dealings]
    split
    · exact bears.fewer (bears.before.abandonStart recorded id)
    · exact bears.fewer recorded
  | stopResult id tx tag startedAt meterStartWh info done => exact bears.onStopResult recorded ..
  | syncStart key =>
    rw [cont] at aside
    cases aside
  | syncStop key info =>
    rw [cont] at aside
    cases aside
  | authorize idTag done => cases done <;> exact bears.fewer recorded
  | boot generation reply => exact kept (onBootDone_face generation reply (.closed none) a)
  | heartbeat reply => exact kept (replyIf_face a reply _)
  | status id key reply =>
    have told : (runCont (.status id key reply) (.error (.closed none)) a).dealings = a.dealings :=
      replyIf_dealings (a.setTracker id _) reply _
    rw [told]
    exact bears.fewer recorded
  | meterValues id reply =>
    change Q ((a.replyIf reply (.error (callFailure (.closed none)))).checkEnergyLimit id).dealings
    refine bears.checkEnergyLimit ?_ id
    rw [replyIf_dealings]
    exact recorded
  | securityEvent event => exact kept (onSecurityEventResult_face event (.closed none) a)
  | signCertificate series key previous reply =>
    exact kept (onSignResult_face series key previous reply (.closed none) a)
  | closeRefused session => exact bears.fewer recorded
  | userCall reply => exact bears.fewer recorded
  | ignore => exact bears.fewer recorded

end Bears

/-! ## The sync -/

private theorem syncCallOf_plain {key : Nat} {request : Request} {cont : Cont}
    (sends : a.syncCallOf key = some (request, cont)) : request.isBoot = false ∧ cont.event? = none := by
  obtain ⟨e, -, made⟩ := Option.bind_eq_some_iff.mp sends
  split at made
  · cases made
    exact ⟨rfl, rfl⟩
  · refine ⟨?_, stopOf_event made⟩
    unfold stopOf at made
    split at made
    · cases made
      rfl
    · cases made

/-- A sync goes through its keys, and ends. -/
theorem Lets.runSyncWith (lets : Lets P)
    (rest : ∀ {d} keys outstanding, P d → P { d with books := { d.books with keys, outstanding } })
    (ends : ∀ {a : Actor}, P a.dealings → P a.syncFinished.dealings) (keys : List Nat) (h : P a.dealings) :
    P (runSyncWith keys a).dealings := by
  induction keys generalizing a with
  | nil =>
    have last : P ({ a with syncKeys := [] } : Actor).dealings := rest [] a.syncOutstanding h
    exact ends last
  | cons key keys ih =>
    have next : P ({ a with syncKeys := keys } : Actor).dealings := rest keys a.syncOutstanding h
    unfold Actor.runSyncWith
    dsimp only
    split
    · rename_i request continuation sends
      obtain ⟨plain, unheard⟩ := syncCallOf_plain sends
      refine lets.call next plain unheard fun error => ih ?_
      have skipped : P ({ a with syncKeys := keys, syncOutstanding := a.syncOutstanding - 1 } : Actor).dealings :=
        rest keys (a.syncOutstanding - 1) h
      unfold recordSyncFailure
      split <;> exact skipped
    · exact ih (rest keys (a.syncOutstanding - 1) h)

/-! ## A station that cannot talk -/

/-- Nothing is in flight, and nothing can be sent. -/
structure Mute (d : Dealings) : Prop where
  calls : d.calls = []
  talk : d.talk = false

private theorem mute_lets : Lets Mute := by
  intro d call mute talk
  rw [mute.talk] at talk
  cases talk

/-- An actor with the face of a mute one is mute. -/
theorem Mute.same (mute : Mute a.dealings) (same : b.face = a.face) : Mute b.dealings :=
  ⟨(congrArg Face.calls same).trans mute.calls, (talk_of_face same).trans mute.talk⟩

/-- A mute actor may arm the timer of the sync. -/
theorem Mute.armSyncRetryIfIdle (mute : Mute a.dealings) : Mute a.armSyncRetryIfIdle.dealings := by
  have silent : ({ a with syncFailed := false } : Actor).canTalk = false := mute.talk
  unfold Actor.armSyncRetryIfIdle
  split
  · split
    · unfold armSyncRetry
      dsimp only
      rw [if_pos (by rw [silent]; rfl)]
      exact mute
    · exact mute
  · exact mute

/-- A mute actor reports no status. -/
theorem Mute.resendAllStatuses (mute : Mute a.dealings) : Mute a.resendAllStatuses.dealings := by
  unfold Actor.resendAllStatuses
  refine List.foldlRecOn (motive := fun b : Actor => Mute b.dealings) _ _ mute fun b mute id _ => ?_
  unfold sendStatusForced
  split
  · rwa [replyIf_dealings]
  · exact mute_lets.dispatchStatus (a := (b.cancelTimer (.statusDebounce id)).setTracker id _) mute ..

/-- A mute actor may arm the timers of the samples. -/
theorem Mute.rescheduleMetering (mute : Mute a.dealings) : Mute a.rescheduleMetering.dealings := by
  unfold Actor.rescheduleMetering
  dsimp only
  generalize folded : List.foldl _ a a.connectors = b
  have timers : Mute b.dealings := by
    rw [← folded]
    refine List.foldlRecOn (motive := fun b : Actor => Mute b.dealings) _ _ mute fun b mute c _ => ?_
    split
    · rwa [setTimerIfIdle_dealings]
    · exact mute
  split
  · rwa [setTimerIfIdle_dealings]
  · exact timers

/-- A mute actor keeps its events. -/
theorem Mute.flushSecurityEvents (mute : Mute a.dealings) : Mute a.flushSecurityEvents.dealings := by
  have silent : a.canTalk = false := mute.talk
  unfold Actor.flushSecurityEvents
  rw [if_pos (by rw [silent]; rfl)]
  exact mute

/-- A mute actor may finish a boot. -/
theorem Mute.finishBootAccepted (mute : Mute a.dealings) : Mute a.finishBootAccepted.dealings := by
  unfold Actor.finishBootAccepted
  split
  · exact mute
  · have resent := mute.rescheduleMetering.resendAllStatuses
    generalize a.rescheduleMetering.resendAllStatuses = b at resent
    dsimp only
    split
    · unfold securityEvent
      refine Mute.flushSecurityEvents ?_
      rw [markDirty_dealings]
      exact resent
    · exact Mute.flushSecurityEvents (a := b.record .bootFinished) resent

/-- A mute actor may finish a sync. -/
theorem Mute.syncFinished (mute : Mute a.dealings) : Mute a.syncFinished.dealings := by
  have ended : Mute ({ a with syncOutstanding := 0, syncBoot := false } : Actor).dealings := ⟨mute.calls, mute.talk⟩
  unfold Actor.syncFinished
  dsimp only
  split
  · exact ended.finishBootAccepted.armSyncRetryIfIdle
  · exact ended.armSyncRetryIfIdle

/-- A mute actor sends nothing in a sync. -/
theorem Mute.runSync (mute : Mute a.dealings) : Mute a.runSync.dealings :=
  mute_lets.runSyncWith (fun _ _ mute => ⟨mute.calls, mute.talk⟩) Mute.syncFinished a.syncKeys mute

private theorem mute_bears : Bears Mute Mute where
  before := mute_lets
  after := mute_lets
  fewer mute := mute
  stop id tx tag startedAt meterStartWh info mute := mute.same (queueStop_face _ id tx tag startedAt meterStartWh info)
  retry := Mute.armSyncRetryIfIdle
  resend mute := by
    unfold startOfflineSync
    split
    · exact mute
    · dsimp only
      split
      · exact mute
      · exact Mute.runSync ⟨mute.calls, mute.talk⟩

/-- A CALL of the sync fails. -/
theorem complete_sync {call : PendingCall} {key : Nat} (own : call.continuation.syncKey? = some key) (b : Actor) :
    complete call (.error (.closed none)) b = (b.record (.completed call (.error (.closed none)))).syncDone := by
  unfold complete
  cases cont : call.continuation with
  | syncStart => rfl
  | syncStop => rfl
  | _ =>
    rw [cont] at own
    cases own

/-- A continuation that fails finds nobody to talk to. -/
theorem complete_mute (mute : Mute b.dealings) (call : PendingCall) :
    Mute (complete call (.error (.closed none)) b).dealings := by
  cases own : call.continuation.syncKey? with
  | none => exact mute_bears.complete mute own
  | some key =>
    rw [complete_sync own]
    exact Mute.runSync ⟨mute.calls, mute.talk⟩

/-! ## No event in flight -/

private theorem eventsOf_append {calls : List PendingCall} {call : PendingCall} (quiet : eventsOf calls = [])
    (unheard : call.continuation.event? = none) : eventsOf (calls ++ [call]) = [] := by
  have unheard : call.event? = none := unheard
  unfold eventsOf at quiet ⊢
  rw [List.filterMap_append, quiet]
  simp [unheard]

/-- No event is in flight. -/
def Eventless (d : Dealings) : Prop := eventsOf d.calls = []

private theorem eventless_lets : Lets Eventless := fun _ _ quiet _ unheard => eventsOf_append quiet unheard

/-- No event is in flight, and the sync follows no boot. -/
structure Bootless (d : Dealings) : Prop where
  quiet : Eventless d
  boot : d.books.boot = false

private theorem bootless_lets : Lets Bootless :=
  fun _ _ bootless _ unheard => ⟨eventsOf_append bootless.quiet unheard, bootless.boot⟩

/-- The retries of the queue place no CALL. -/
theorem armSyncRetryIfIdle_keeps (a : Actor) :
    a.armSyncRetryIfIdle.calls = a.calls ∧ a.armSyncRetryIfIdle.syncBoot = a.syncBoot := by
  have gaveUp (b : Actor) (key : Nat) : (b.giveUp key).calls = b.calls ∧ (b.giveUp key).syncBoot = b.syncBoot := by
    have kept (c : Actor) : c.flushNow.calls = c.calls ∧ c.flushNow.syncBoot = c.syncBoot :=
      ⟨c.flushNow_calls, congrArg QueueBooks.boot c.flushNow_books⟩
    unfold giveUp
    split <;> exact kept _
  unfold armSyncRetryIfIdle
  split
  · split
    · unfold armSyncRetry
      dsimp only
      split
      · exact ⟨rfl, rfl⟩
      · generalize (List.map _ _ : List Nat) = keys
        generalize folded : keys.foldl giveUp { a with syncFailed := false } = b
        have kept : b.calls = a.calls ∧ b.syncBoot = a.syncBoot := by
          rw [← folded]
          refine List.foldlRecOn (motive := fun b : Actor => b.calls = a.calls ∧ b.syncBoot = a.syncBoot) _ _
            ⟨rfl, rfl⟩ fun b kept key _ => ?_
          exact ⟨(gaveUp b key).1.trans kept.1, (gaveUp b key).2.trans kept.2⟩
        split <;> exact kept
    · exact ⟨rfl, rfl⟩
  · exact ⟨rfl, rfl⟩

/-- The timer of the sync places no CALL. -/
theorem Eventless.armSyncRetryIfIdle (quiet : Eventless a.dealings) : Eventless a.armSyncRetryIfIdle.dealings :=
  (congrArg eventsOf a.armSyncRetryIfIdle_keeps.1).trans quiet

/-- The timer of the sync does not follow a boot. -/
theorem Bootless.armSyncRetryIfIdle (bootless : Bootless a.dealings) : Bootless a.armSyncRetryIfIdle.dealings :=
  ⟨bootless.quiet.armSyncRetryIfIdle, a.armSyncRetryIfIdle_keeps.2.trans bootless.boot⟩

/-- A sync that does not follow a boot stays such. -/
theorem Bootless.runSync (bootless : Bootless a.dealings) : Bootless a.runSync.dealings := by
  refine bootless_lets.runSyncWith (fun _ _ bootless => ⟨bootless.quiet, bootless.boot⟩) (fun {b} bootless => ?_)
    a.syncKeys bootless
  have follows : b.syncBoot = false := bootless.boot
  have ended : Bootless ({ b with syncOutstanding := 0, syncBoot := false } : Actor).dealings := ⟨bootless.quiet, rfl⟩
  unfold syncFinished
  dsimp only
  rw [if_neg (by rw [follows]; exact Bool.false_ne_true)]
  exact ended.armSyncRetryIfIdle

/-- A sync of its own follows no boot. -/
theorem Eventless.startOfflineSync (quiet : Eventless a.dealings) :
    Eventless (a.startOfflineSync false).2.dealings ∧
      (a.syncBoot = false → Bootless (a.startOfflineSync false).2.dealings) := by
  unfold Actor.startOfflineSync
  split
  · exact ⟨quiet, fun follows => ⟨quiet, follows⟩⟩
  · dsimp only
    split
    · exact ⟨quiet, fun follows => ⟨quiet, follows⟩⟩
    · have begun : Bootless ((a.cancelTimer .syncRetry).beginSync false
          (a.cancelTimer .syncRetry).syncable).dealings := ⟨quiet, rfl⟩
      exact ⟨begun.runSync.quiet, fun _ => begun.runSync⟩

private theorem queueStop_boot (a : Actor) (id : ConnectorId) (tx : TxId) (tag : IdTag) (startedAt : Instant)
    (meterStartWh : Nat) (info : StopInfo) :
    (a.queueStop id tx tag startedAt meterStartWh info).2.syncBoot = a.syncBoot := by
  unfold queueStop
  split
  · rfl
  · unfold nextKey pushQueue
    dsimp only
    split <;> rfl

/-- A queued stop places no CALL. -/
theorem Eventless.queueStop (quiet : Eventless a.dealings) (id : ConnectorId) (tx : TxId) (tag : IdTag)
    (startedAt : Instant) (meterStartWh : Nat) (info : StopInfo) :
    Eventless (a.queueStop id tx tag startedAt meterStartWh info).2.dealings := by
  have calls := congrArg Face.calls (queueStop_face a id tx tag startedAt meterStartWh info)
  exact (congrArg eventsOf calls).trans quiet

private theorem eventless_bears : Bears Eventless Eventless where
  before := eventless_lets
  after := eventless_lets
  fewer quiet := quiet
  stop _ _ _ _ _ _ quiet := quiet.queueStop ..
  retry quiet := quiet.armSyncRetryIfIdle
  resend quiet := quiet.startOfflineSync.1

private theorem bootless_bears : Bears Bootless Bootless where
  before := bootless_lets
  after := bootless_lets
  fewer bootless := bootless
  stop _ _ _ _ _ _ bootless := ⟨bootless.quiet.queueStop .., (queueStop_boot ..).trans bootless.boot⟩
  retry bootless := bootless.armSyncRetryIfIdle
  resend bootless := bootless.quiet.startOfflineSync.2 bootless.boot

/-! ## A sync with more to send -/

/-- `key` is that of an entry with a message to send. -/
def Sends (queue : OfflineQueue) (key : Nat) : Prop :=
  ∃ e, OfflineQueue.get queue key = some e ∧ (e.startPending = true ∨ (stopOf e).isSome = true)

private theorem syncCallOf_isSome {key : Nat} : (a.syncCallOf key).isSome = true ↔ Sends a.queue key := by
  unfold syncCallOf Sends
  cases OfflineQueue.get a.queue key with
  | none => simp
  | some e => cases sent : e.startPending <;> simp [sent]

/-- No event is in flight, and a sync runs that has more to send. The queue has room for `n` stops. -/
structure Left (n : Nat) (d : Dealings) : Prop where
  quiet : Eventless d
  talk : d.talk = true
  running : 0 < d.books.outstanding
  room : d.books.queue.length + n ≤ maxQueuedTransactions
  next : ∃ key ∈ d.books.keys, Sends d.books.queue key

variable {n : Nat}

private theorem left_lets (n : Nat) : Lets (Left n) := fun _ _ left _ unheard =>
  ⟨eventsOf_append left.quiet unheard, left.talk, left.running, left.room, left.next⟩

/-- An entry that gets its stop, and one that is added, take no message away. -/
theorem Left.queueStop (left : Left (n + 1) a.dealings) (id : ConnectorId) (tx : TxId) (tag : IdTag)
    (startedAt : Instant) (meterStartWh : Nat) (info : StopInfo) :
    Left n (a.queueStop id tx tag startedAt meterStartWh info).2.dealings := by
  have room : a.queue.length + (n + 1) ≤ maxQueuedTransactions := left.room
  obtain ⟨key, mem, e, found, sends⟩ := left.next
  have found : OfflineQueue.get a.queue key = some e := found
  unfold Actor.queueStop
  split
  · refine ⟨left.quiet, left.talk, left.running, ?_, key, mem, ?_⟩
    · change (OfflineQueue.updateFirst _ _ a.queue).length + n ≤ _
      rw [OfflineQueue.updateFirst_length]
      omega
    · rcases OfflineQueue.get_updateFirst (p := OfflineQueue.isTxOn id tx)
        (f := fun entry => { entry with stop := some info }) (fun _ => rfl) found with kept | stopped
      · exact ⟨e, kept, sends⟩
      · refine ⟨_, stopped, sends.imp_right fun some => ?_⟩
        unfold stopOf at some ⊢
        split at some
        · rename_i wire
          simp [wire]
        · cases some
  · have pushed (entry : OfflineTx) : OfflineQueue.push a.queue entry = (a.queue ++ [entry], none) := by
      unfold OfflineQueue.push
      dsimp only
      rw [if_pos]
      rw [List.length_append, List.length_singleton]
      omega
    unfold nextKey pushQueue
    dsimp only
    rw [pushed]
    refine ⟨left.quiet, left.talk, left.running, ?_, key, mem, e, ?_, sends⟩
    · change (a.queue ++ [_]).length + n ≤ _
      rw [List.length_append, List.length_singleton]
      omega
    · change (a.queue ++ [_]).find? _ = some e
      have found : a.queue.find? (fun entry => entry.key == key) = some e := found
      rw [List.find?_append, found, Option.some_or]

private theorem left_bears (n : Nat) : Bears (Left (n + 1)) (Left n) where
  before := left_lets (n + 1)
  after := left_lets n
  fewer left := ⟨left.quiet, left.talk, left.running, (Nat.le_succ _).trans left.room, left.next⟩
  stop _ _ _ _ _ _ left := left.queueStop ..
  retry {a} left := by
    have running : 0 < a.syncOutstanding := left.running
    unfold armSyncRetryIfIdle
    rw [if_neg running.ne']
    exact left
  resend {a} left := by
    have running : 0 < a.syncOutstanding := left.running
    unfold startOfflineSync
    rw [if_pos running]
    exact left

/-- The sync goes on with a message. -/
theorem runSyncWith_sends (keys : List Nat) (talk : a.canTalk = true) (quiet : Eventless a.dealings)
    (next : ∃ key ∈ keys, Sends a.queue key) : Eventless (runSyncWith keys a).dealings := by
  induction keys generalizing a with
  | nil => simp at next
  | cons key keys ih =>
    unfold runSyncWith
    dsimp only
    split
    · rename_i request continuation sends
      have talk : ({ a with syncKeys := keys } : Actor).canTalk = true := talk
      rw [call_of_canTalk _ talk]
      exact eventsOf_append quiet (syncCallOf_plain sends).2
    · rename_i silent
      refine ih talk quiet ?_
      obtain ⟨other, mem, sends⟩ := next
      rcases List.mem_cons.mp mem with rfl | later
      · have some := syncCallOf_isSome.mpr sends
        have none : a.syncCallOf other = none := silent
        rw [none] at some
        cases some
      · exact ⟨other, later, sends⟩

/-! ## The CALLs in flight fail -/

/-- The continuations of the CALLs fail one after the other. -/
def failing (a : Actor) (calls : List PendingCall) : Actor :=
  calls.foldl (fun a call => complete call (.error (.closed none)) a) a

private theorem failing_eventless (calls : List PendingCall) (aside : ∀ call ∈ calls, call.continuation.syncKey? = none)
    (quiet : Eventless a.dealings) : Eventless (a.failing calls).dealings :=
  List.foldlRecOn (motive := fun b : Actor => Eventless b.dealings) _ _ quiet fun _ quiet call mem =>
    eventless_bears.complete quiet (aside call mem)

private theorem failing_bootless (calls : List PendingCall) (bootless : Bootless a.dealings) :
    Bootless (a.failing calls).dealings := by
  refine List.foldlRecOn (motive := fun b : Actor => Bootless b.dealings) _ _ bootless fun b bootless call _ => ?_
  cases own : call.continuation.syncKey? with
  | none => exact bootless_bears.complete bootless own
  | some key =>
    rw [complete_sync own]
    exact Bootless.runSync ⟨bootless.quiet, bootless.boot⟩

/-- The only CALL of the sync is followed by another one. -/
theorem failing_left (calls : List PendingCall) (left : Left calls.length a.dealings)
    (one : (calls.filterMap fun call => call.continuation.syncKey?).length ≤ 1) :
    Eventless (a.failing calls).dealings := by
  induction calls generalizing a with
  | nil => exact left.quiet
  | cons call calls ih =>
    cases own : call.continuation.syncKey? with
    | none =>
      rw [List.filterMap_cons, own] at one
      exact ih ((left_bears calls.length).complete left own) one
    | some key =>
      have aside : ∀ other ∈ calls, other.continuation.syncKey? = none := by
        rw [List.filterMap_cons, own, List.length_cons] at one
        exact List.filterMap_eq_nil_iff.mp (List.eq_nil_of_length_eq_zero (by omega))
      have sent : Eventless (complete call (.error (.closed none)) a).dealings := by
        rw [complete_sync own]
        exact runSyncWith_sends a.syncKeys left.talk left.quiet left.next
      exact failing_eventless calls aside sent

/-- A CALL of a sync that follows a boot is in flight, on a link that can be used, and nothing more is to be sent, or
the stops in flight may push it out of the full queue: the failure of the CALL ends the sync, and with it the boot. -/
def EndsResend (a : Actor) : Prop :=
  a.canTalk = true ∧ a.syncBoot = true ∧ (∃ call ∈ a.calls, call.continuation.syncKey?.isSome = true) ∧
    ((∀ key ∈ a.syncKeys, a.syncCallOf key = none) ∨ maxQueuedTransactions < a.queue.length + a.calls.length)

/-- Of the CALLs that a shutdown leaves behind none reports an event, unless it ends the sync of a boot. -/
theorem drain_unheard (a : Actor) (counted : Counted (a.ledger [] .none)) (stays : ¬a.EndsResend) :
    eventsOf a.drain.calls = [] := by
  have same := a.flushMeters_dealings
  unfold drain failPendingCalls
  dsimp only
  generalize a.flushMeters = b at same ⊢
  have calls : b.calls = a.calls := congrArg Dealings.calls same
  have talk : b.canTalk = a.canTalk := congrArg Dealings.talk same
  have books : b.books = a.books := congrArg Dealings.books same
  let empty : Actor := { b with link := { b.link with wanted := false }, timers := [], calls := [] }
  change Eventless (empty.failing b.calls).dealings
  have quiet : Eventless empty.dealings := rfl
  cases talks : a.canTalk with
  | false =>
    have mute : Mute (empty.failing b.calls).dealings :=
      List.foldlRecOn (motive := fun c : Actor => Mute c.dealings) _ _ ⟨rfl, talk.trans talks⟩ fun _ mute call _ =>
        complete_mute mute call
    exact congrArg eventsOf mute.calls
  | true =>
    cases boot : a.syncBoot with
    | false => exact (failing_bootless b.calls ⟨quiet, (congrArg QueueBooks.boot books).trans boot⟩).quiet
    | true =>
      by_cases syncs : ∃ call ∈ a.calls, call.continuation.syncKey?.isSome = true
      · obtain ⟨next, room⟩ : (∃ key ∈ a.syncKeys, Sends a.queue key) ∧
            a.queue.length + a.calls.length ≤ maxQueuedTransactions := by
          refine ⟨by_contra fun none => stays ⟨talks, boot, syncs, .inl fun key mem => ?_⟩,
            not_lt.mp fun full => stays ⟨talks, boot, syncs, .inr full⟩⟩
          refine Option.not_isSome_iff_eq_none.mp fun some => none ⟨key, mem, syncCallOf_isSome.mp some⟩
        have one : (a.calls.filterMap fun call => call.continuation.syncKey?).length ≤ 1 := counted.one
        have running : 0 < a.syncOutstanding := by
          have count : a.syncOutstanding =
              a.syncKeys.length + (a.calls.filterMap fun call => call.continuation.syncKey?).length :=
            counted.count (.inl (Bool.and_eq_true_iff.mp talks).1)
          obtain ⟨key, mem, -⟩ := next
          have := List.length_pos_of_mem mem
          omega
        rw [calls]
        refine failing_left a.calls ⟨quiet, talk.trans talks, ?_, ?_, ?_⟩ one
        · exact (congrArg QueueBooks.outstanding books).symm ▸ running
        · exact (congrArg QueueBooks.queue books).symm ▸ room
        · change ∃ key ∈ b.syncKeys, Sends b.queue key
          rw [show b.syncKeys = a.syncKeys from congrArg QueueBooks.keys books,
            show b.queue = a.queue from congrArg QueueBooks.queue books]
          exact next
      · refine failing_eventless b.calls (fun call mem => ?_) quiet
        exact Option.not_isSome_iff_eq_none.mp fun some => syncs ⟨call, calls ▸ mem, some⟩

end Actor

end KirbyOcpp
