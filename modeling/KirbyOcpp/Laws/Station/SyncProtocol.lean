import KirbyOcpp.Laws.Station.Permissions
import KirbyOcpp.Ledger.TieSteps
import KirbyOcpp.Laws.Station.Recovery
import KirbyOcpp.Laws.Station.StartReservations
import KirbyOcpp.Laws.Station.SyncOrder

/-!
# The ids of queued stops, and the protocol of the offline sync

A stop that was queued goes out with the id that the Central System gave its transaction. The id travels from the
answer of a `StartTransaction` to the connector, to the stop in the hand, and to the queue entry, in one process or
through the state file into the next one, so it was answered before the stop is sent (`Traced`).

**The law** `sync_protocol` adds the counter of the sync (`Counted`) and the order of its messages (`Sequenced`).
-/

namespace KirbyOcpp

open Paths Relation

variable {allow : Allow} {l l' : Ledger} {session : Nat} {transactionId : Int}

/-! ## Where an id is -/

/-- The Central System gave the start `session` its id. -/
def AnsweredStart (history : List Event) (session : Nat) (transactionId : Int) : Prop :=
  ∃ call result response, .completed call result ∈ history ∧ call.continuation.startKey? = some session ∧
    decodeStart result = .ok response ∧ response.transactionId = transactionId

theorem AnsweredStart.later {earlier history : List Event} (h : AnsweredStart earlier session transactionId)
    (suffix : earlier <:+ history) : AnsweredStart history session transactionId := by
  obtain ⟨call, result, response, mem, answered⟩ := h
  exact ⟨call, result, response, suffix.subset mem, answered⟩

/-- The transaction has the id in the session. -/
def TransactionState.Carries : TransactionState → Nat → Int → Prop
  | .active t, session, transactionId => session = t.session ∧ t.txId = .csms transactionId
  | .stopping t, session, transactionId => session = t.session ∧ t.txId = .csms transactionId
  | _, _, _ => False

/-- The running operation has the id for the session. -/
def Hand.Carries : Hand → Nat → Int → Prop
  | .opened _ localId _ answered, session, transactionId => session = localId.localKey ∧ answered = transactionId
  | .slotOpened key answered, session, transactionId => session = key ∧ answered = transactionId
  | .stop _ tx info, session, transactionId => session = info.session ∧ tx = .csms transactionId
  | .stopping _ tx info, session, transactionId => session = info.session ∧ tx = .csms transactionId
  | _, _, _ => False

/-- The CALL of a stop in flight has the id for the session. -/
def Cont.Carries : Cont → Nat → Int → Prop
  | .stopResult _ tx _ _ _ info _, session, transactionId => session = info.session ∧ tx = .csms transactionId
  | _, _, _ => False

/-- The id of the entry is that of its own start, or of the session whose stop it keeps. -/
def OfflineTx.Assigned (e : OfflineTx) (known : Nat → Int → Prop) : Prop :=
  ∀ transactionId, e.txId = .csms transactionId →
    known e.key transactionId ∨ ∃ info, e.stop = some info ∧ known info.session transactionId

/-- What the CALL of a queued stop asks for: the stop of its session, with an id that is known for it. -/
def PendingCall.Delivers (call : PendingCall) (known : Nat → Int → Prop) : Prop :=
  ∀ key info, call.continuation = .syncStop key info → ∃ wire,
    call.request = .stopTransaction (stopRequest info wire) ∧ (known key wire ∨ known info.session wire)

theorem OfflineTx.Assigned.mono {e : OfflineTx} {known known' : Nat → Int → Prop} (h : e.Assigned known)
    (more : ∀ session transactionId, known session transactionId → known' session transactionId) :
    e.Assigned known' := by
  intro transactionId tx
  rcases h transactionId tx with own | ⟨info, stop, other⟩
  · exact .inl (more _ _ own)
  · exact .inr ⟨info, stop, more _ _ other⟩

/-- An entry whose id is the station's has none of the Central System. -/
theorem OfflineTx.assigned_of_local {e : OfflineTx} {key : Nat} (tx : e.txId = .loc key) (known : Nat → Int → Prop) :
    e.Assigned known := by
  intro transactionId own
  rw [tx] at own
  cases own

theorem carries_of_neutral {continuation : Cont} (neutral : continuation.isNeutral = true) :
    ¬ continuation.Carries session transactionId := by
  intro carries
  cases continuation with
  | stopResult => cases neutral
  | _ => exact carries

theorem carries_of_stopOf {e : OfflineTx} {request : Request} {cont : Cont}
    (message : Actor.stopOf e = some (request, cont)) : ¬ cont.Carries session transactionId := by
  intro carries
  unfold Actor.stopOf at message
  split at message
  · obtain ⟨-, rfl⟩ := Prod.mk.inj (Option.some.inj message)
    exact carries
  · cases message

/-- `sync_stop` sends the stop that the entry keeps, with the id of the entry. -/
theorem delivers_of_stopOf {e : OfflineTx} {call : PendingCall} {request : Request} {cont : Cont}
    {known : Nat → Int → Prop} (assigned : e.Assigned known) (message : Actor.stopOf e = some (request, cont))
    (sent : call.request = request) (continuation : call.continuation = cont) : call.Delivers known := by
  intro key info stops
  rw [continuation] at stops
  rw [sent]
  unfold Actor.stopOf at message
  split at message
  · rename_i stop wire kept has
    obtain ⟨rfl, rfl⟩ := Prod.mk.inj (Option.some.inj message)
    obtain ⟨rfl, rfl⟩ := Cont.syncStop.inj stops
    have tx : e.txId = .csms wire := by
      cases tx : e.txId with
      | loc key =>
        rw [tx] at has
        cases has
      | csms id =>
        rw [tx] at has
        rw [Option.some.inj has]
    refine ⟨wire, rfl, ?_⟩
    rcases assigned wire tx with own | ⟨other, same, theirs⟩
    · exact .inl own
    · rw [kept] at same
      cases same
      exact .inr theirs
  · cases message

/-! ## What a transition does to the ids -/

/-- An id gets to a connector from the hand. -/
theorem Trans.connectors_carry (step : Trans allow l l') {c' : ConnectorSnapshot} (mem : c' ∈ l'.connectors)
    (carries : c'.transaction.Carries session transactionId) :
    (∃ c ∈ l.connectors, c.transaction.Carries session transactionId) ∨ l.hand.Carries session transactionId := by
  have update (id : ConnectorId) (f : ConnectorSnapshot → ConnectorSnapshot)
      (connectors : l'.connectors = (l.update id f).connectors)
      (h : ∀ c ∈ l.connectors, c.id = id → (f c).transaction.Carries session transactionId →
        c.transaction.Carries session transactionId ∨ l.hand.Carries session transactionId) :
      (∃ c ∈ l.connectors, c.transaction.Carries session transactionId) ∨ l.hand.Carries session transactionId := by
    rw [connectors, l.update_connectors] at mem
    obtain ⟨c, old, rfl⟩ := List.mem_map.mp mem
    unfold updated at carries
    split at carries
    · rename_i same
      rcases h c old same.2 carries with kept | held
      · exact .inl ⟨c, old, kept⟩
      · exact .inr held
    · exact .inl ⟨c, old, carries⟩
  have forget (id : ConnectorId) (tx : TxId) (pending : Option AvailabilityType)
      (connectors : l'.connectors = (l.update id fun c => (Actor.forgetTransaction tx c).applied pending).connectors) :
      (∃ c ∈ l.connectors, c.transaction.Carries session transactionId) ∨ l.hand.Carries session transactionId := by
    refine update id _ connectors fun c _ _ carries => .inl ?_
    rw [applied_transaction] at carries
    unfold Actor.forgetTransaction at carries
    split at carries
    · exact carries.elim
    · exact carries
  have leave (id : ConnectorId) (pending : Option AvailabilityType)
      (connectors : l'.connectors = (l.update id fun c => (Actor.abandonedConnector c).applied pending).connectors) :
      (∃ c ∈ l.connectors, c.transaction.Carries session transactionId) ∨ l.hand.Carries session transactionId := by
    refine update id _ connectors fun c _ _ carries => ?_
    rw [applied_transaction] at carries
    exact carries.elim
  cases step with
  | quiet step =>
    cases step with
    | reshape f h =>
      obtain ⟨c, old, rfl⟩ := List.mem_map.mp mem
      rw [(h c old).transaction] at carries
      exact .inl ⟨c, old, carries⟩
    | _ => exact .inl ⟨c', mem, carries⟩
  | power f h =>
    obtain ⟨c, old, rfl⟩ := List.mem_map.mp mem
    rcases h c old with mild | powered
    · rw [mild.transaction] at carries
      exact .inl ⟨c, old, carries⟩
    · rw [powered.transaction] at carries
      exact .inl ⟨c, old, carries⟩
  | change id kind =>
    refine update id _ rfl fun c _ _ carries => .inl ?_
    unfold Actor.changedAvailability at carries
    dsimp only at carries
    split at carries <;> exact carries
  | grow id =>
    rcases List.mem_append.mp mem with old | new
    · exact .inl ⟨c', old, carries⟩
    · obtain rfl := List.mem_singleton.mp new
      exact carries.elim
  | openStart id => exact update id _ rfl fun c _ _ carries => carries.elim
  | charge id =>
    refine update id _ rfl fun c _ _ carries => .inl ?_
    change (clearReservation c).transaction.Carries _ _ at carries
    rwa [clearReservation_transaction] at carries
  | activate id localId answered c active hand found held tx own =>
    refine update id (fun c => Actor.chargingConnector active.idTag { c with transaction := .active active }) rfl
      fun d _ _ carries => .inr ?_
    change (clearReservation { d with transaction := .active active }).transaction.Carries _ _ at carries
    rw [clearReservation_transaction] at carries
    obtain ⟨rfl, same⟩ := carries
    rw [tx] at same
    rw [hand]
    exact ⟨own, TxId.csms.inj same⟩
  | abandonStart id => exact leave id _ rfl
  | refuseOpened id => exact leave id _ rfl
  | beginStop id c tx info f hand found target kept =>
    refine update id f rfl fun c old same carries => .inl ?_
    rwa [(kept c old same).transaction] at carries
  | markStopping id tx info stopping c hand found held stops own =>
    refine update id (fun c => { c with transaction := .stopping stopping }) rfl fun d _ _ carries => .inr ?_
    obtain ⟨rfl, same⟩ := carries
    rw [hand]
    exact ⟨own, stops.symm.trans same⟩
  | queueStop id tx => exact forget id tx _ rfl
  | queueNewStop id tx => exact forget id tx _ rfl
  | confirmStop id tx => exact forget id tx _ rfl
  | assign key answered e hand found =>
    refine update e.connector _ rfl fun c _ _ carries => ?_
    unfold Actor.activatedConnector at carries
    dsimp only at carries
    split at carries
    · obtain ⟨rfl, same⟩ := carries
      have own : e.key = key := by simpa using List.find?_some found
      rw [hand]
      exact .inr ⟨own, TxId.csms.inj same⟩
    · exact .inl carries
  | refuseQueued key answered e =>
    refine update e.connector (fun c => (Actor.droppedConnector e.txId c).applied (l.scheduled e.connector)) rfl
      fun c _ _ carries => .inl ?_
    rw [applied_transaction] at carries
    unfold Actor.droppedConnector at carries
    split at carries
    · exact carries.elim
    · exact carries
  | _ => exact .inl ⟨c', mem, carries⟩

/-- An id gets into the queue from the hand. -/
theorem Trans.queue_assigned (step : Trans allow l l') {e' : OfflineTx} (mem : e' ∈ l'.queue) :
    e' ∈ l.queue ∨ e'.Assigned l.hand.Carries := by
  -- the stop in the hand knows the id of its transaction
  have stops {id : ConnectorId} {tx : TxId} {info : StopInfo}
      (hand : l.hand = .stop id tx info ∨ l.hand = .stopping id tx info) {e : OfflineTx} (own : e.txId = tx)
      (stop : e.stop = some info) : e.Assigned l.hand.Carries := by
    intro transactionId same
    refine .inr ⟨info, stop, ?_⟩
    rcases hand with hand | hand
    · rw [hand]
      exact ⟨rfl, own.symm.trans same⟩
    · rw [hand]
      exact ⟨rfl, own.symm.trans same⟩
  cases step with
  | quiet step =>
    cases step
    all_goals exact .inl mem
  | queueStart id pending entry hand key tx =>
    rcases mem_push mem with old | rfl
    · exact .inl old
    · exact .inr (OfflineTx.assigned_of_local (tx.trans key) _)
  | queueStop id tx info e hand =>
    rcases mem_updateFirst mem with old | ⟨d, -, holds, rfl⟩
    · exact .inl old
    · simp only [OfflineQueue.isTxOn, Bool.and_eq_true, decide_eq_true_eq] at holds
      exact .inr (stops hand holds.1 rfl)
  | queueNewStop id tx info entry hand missing key own connector starts stop =>
    rcases mem_push mem with old | rfl
    · exact .inl old
    · exact .inr (stops hand own stop)
  | assign key answered e hand =>
    rcases mem_updateFirst mem with old | ⟨d, -, holds, rfl⟩
    · exact .inl old
    · refine .inr fun transactionId same => .inl ?_
      rw [hand]
      exact ⟨by simpa using holds, TxId.csms.inj same⟩
  | refuseQueued => exact .inl (List.mem_of_mem_eraseP mem)
  | confirmQueued => exact .inl (List.mem_of_mem_eraseP mem)
  | giveUp => exact .inl (List.mem_of_mem_eraseP mem)
  | _ => exact .inl mem

/-- An id gets to a CALL of a stop from the hand. -/
theorem Trans.calls_carry (step : Trans allow l l') {call : PendingCall} (mem : call ∈ l'.rest ++ l'.calls)
    (carries : call.continuation.Carries session transactionId) :
    call ∈ l.rest ++ l.calls ∨ l.hand.Carries session transactionId := by
  have sent (new : PendingCall)
      (source : new.continuation.Carries session transactionId → l.hand.Carries session transactionId)
      (mem : call ∈ l.rest ++ (l.calls ++ [new])) :
      call ∈ l.rest ++ l.calls ∨ l.hand.Carries session transactionId := by
    rw [← List.append_assoc, List.mem_append] at mem
    rcases mem with old | fresh
    · exact .inl old
    · obtain rfl := List.mem_singleton.mp fresh
      exact .inr (source carries)
  have filtered (p : PendingCall → Bool) (mem : call ∈ l.rest ++ l.calls.filter p) : call ∈ l.rest ++ l.calls := by
    rcases List.mem_append.mp mem with rest | kept
    · exact List.mem_append_left _ rest
    · exact List.mem_append_right _ (List.mem_of_mem_filter kept)
  cases step with
  | quiet step =>
    cases step with
    | send new sends neutral => exact sent new (fun own => absurd own (carries_of_neutral neutral)) mem
    | sendEvent new sends event events queue cont =>
      refine sent new (fun own => ?_) mem
      rw [cont] at own
      exact own.elim
    | _ => exact .inl mem
  | sendStart id pending new done hand sends cont =>
    refine sent new (fun own => ?_) mem
    rw [cont] at own
    exact own.elim
  | sendClose session sync new hand sends cont =>
    refine sent new (fun own => ?_) mem
    rw [cont] at own
    exact own.elim
  | sendStop id tx tag startedAt meterStartWh info done new wire hand sends cont =>
    refine sent new (fun own => ?_) mem
    rw [cont] at own
    rw [hand]
    exact own
  | sendNext key keys e request cont new hand next sends found message asked continuation =>
    refine sent new (fun own => ?_) mem
    rw [continuation] at own
    rcases message with ⟨-, start⟩ | ⟨-, stop⟩
    · obtain ⟨-, rfl⟩ := Prod.mk.inj start
      exact own.elim
    · exact absurd own (carries_of_stopOf stop)
  | sendReady key e request cont new hand sends found message asked continuation =>
    refine sent new (fun own => ?_) mem
    rw [continuation] at own
    exact absurd own (carries_of_stopOf message)
  | takeCall => exact .inl (filtered _ mem)
  | takeRest call' rest error hand head =>
    rw [head]
    exact .inl (List.mem_cons_of_mem _ mem)
  | abandon => exact .inl (filtered _ mem)
  | dropLink hand rest =>
    rw [rest]
    exact .inl (by simpa [Ledger.dropLink] using mem)
  | drain hand rest =>
    rw [rest]
    exact .inl (by simpa using mem)
  | _ => exact .inl mem

/-- What completes brings its id along, or the id of the answer. -/
theorem carries_ofResult {call : PendingCall} {result : CallResult} {history : List Event}
    (mem : .completed call result ∈ history)
    (carries : (Hand.ofResult call.continuation result).Carries session transactionId) :
    call.continuation.Carries session transactionId ∨ AnsweredStart history session transactionId := by
  cases cont : call.continuation with
  | startResult id localId pending done =>
    rw [cont] at carries
    unfold Hand.ofResult at carries
    dsimp only at carries
    split at carries
    · rename_i response answered
      obtain ⟨rfl, same⟩ := carries
      exact .inr ⟨call, result, response, mem, by rw [cont]; rfl, answered, same⟩
    · exact carries.elim
  | syncStart key =>
    rw [cont] at carries
    unfold Hand.ofResult at carries
    dsimp only at carries
    split at carries
    · rename_i response answered
      obtain ⟨rfl, same⟩ := carries
      exact .inr ⟨call, result, response, mem, by rw [cont]; rfl, answered, same⟩
    · exact carries.elim
  | stopResult id tx tag startedAt meterStartWh info done =>
    rw [cont] at carries
    unfold Hand.ofResult at carries
    dsimp only at carries
    split at carries
    · exact carries.elim
    · exact .inl carries
  | _ =>
    rw [cont] at carries
    unfold Hand.ofResult at carries
    dsimp only at carries
    repeat' split at carries
    all_goals exact carries.elim

/-- An id gets into the hand with an answer, with the failure of a stop, or from the connector to be stopped. -/
theorem Trans.hand_carries (step : Trans allow l l') (worded : Worded l)
    (carries : l'.hand.Carries session transactionId) :
    l.hand.Carries session transactionId ∨ AnsweredStart l'.history session transactionId ∨
      (∃ call ∈ l.rest ++ l.calls, call.continuation.Carries session transactionId) ∨
        ∃ c ∈ l.connectors, c.transaction.Carries session transactionId := by
  have completed {call : PendingCall} {result : CallResult} (pending : call ∈ l.rest ++ l.calls)
      (history : l'.history = .completed call result :: l.history)
      (hand : l'.hand = .ofResult call.continuation result) :
      l.hand.Carries session transactionId ∨ AnsweredStart l'.history session transactionId ∨
        (∃ call ∈ l.rest ++ l.calls, call.continuation.Carries session transactionId) ∨
          ∃ c ∈ l.connectors, c.transaction.Carries session transactionId := by
    rw [hand] at carries
    rcases carries_ofResult (history ▸ List.mem_cons_self) carries with stop | answered
    · exact .inr (.inr (.inl ⟨call, pending, stop⟩))
    · exact .inr (.inl answered)
  cases step with
  | quiet step =>
    cases step
    all_goals exact .inl carries
  | takeCall call result hand rest running found =>
    exact completed (List.mem_append_right _ (List.mem_of_find?_eq_some found)) rfl rfl
  | takeRest call rest error hand head =>
    have pending : call ∈ l.rest ++ l.calls := by
      rw [head]
      exact List.mem_cons_self
    exact completed pending rfl rfl
  | beginStop id c tx info f hand found target =>
    obtain ⟨own, same⟩ := carries
    refine .inr (.inr (.inr ⟨c, (Ledger.mem_of_connector found).1, ?_⟩))
    rcases target with ⟨t, active, rfl, known⟩ | ⟨p, starting, rfl, -⟩
    · rw [active]
      exact ⟨own.trans known, same⟩
    · -- a transaction that is starting has an id of the station
      have wording := worded.connectors c ((Ledger.mem_of_connector found).1)
      rw [starting] at wording
      have local' : p.txId.isLocal = true := wording
      rw [same] at local'
      cases local'
  | markStopping id tx info stopping c hand =>
    rw [hand]
    exact .inl carries
  | sendClose session sync => cases sync <;> exact carries.elim
  | skipClose session sync => cases sync <;> exact carries.elim
  | finishSync =>
    dsimp only at carries
    split at carries <;> exact carries.elim
  | _ => first | exact .inl carries | exact carries.elim

/-! ## Every CALL of a queued stop -/

theorem called_suffix {event : Event} (other : event.called? = none) {call : PendingCall} {before history : List Event}
    (suffix : .called call :: before <:+ event :: history) : .called call :: before <:+ history := by
  rcases List.suffix_cons_iff.mp suffix with same | older
  · obtain ⟨rfl, -⟩ := List.cons.inj same
    cases other
  · exact older

/-- A CALL that a transition sends is neutral to the queue, or delivers the stop of an entry. -/
theorem Trans.sends_stop (step : Trans allow l l') {call : PendingCall} {before : List Event}
    (suffix : .called call :: before <:+ l'.history) {known : Nat → Int → Prop}
    (assigned : ∀ e ∈ l.queue, e.Assigned known) :
    .called call :: before <:+ l.history ∨ (before = l.history ∧ call.Delivers known) := by
  have sent (new : PendingCall) (delivers : new.Delivers known)
      (suffix : .called call :: before <:+ .called new :: l.history) :
      .called call :: before <:+ l.history ∨ (before = l.history ∧ call.Delivers known) := by
    rcases List.suffix_cons_iff.mp suffix with same | older
    · obtain ⟨called, rfl⟩ := List.cons.inj same
      cases called
      exact .inr ⟨rfl, delivers⟩
    · exact .inl older
  have foreign {new : PendingCall} (none : new.continuation.syncMessage? = none) : new.Delivers known := by
    intro key info stops
    rw [stops] at none
    cases none
  have pushed (l : Ledger) (entry : OfflineTx) (suffix : .called call :: before <:+ (l.push entry).history) :
      .called call :: before <:+ l.history := by
    unfold Ledger.push at suffix
    dsimp only at suffix
    cases dropped : (OfflineQueue.push l.queue entry).2 with
    | none =>
      rw [dropped] at suffix
      exact suffix
    | some e =>
      rw [dropped] at suffix
      exact called_suffix rfl suffix
  cases step with
  | quiet step =>
    cases step with
    | send new sends neutral => exact sent new (foreign (syncMessage?_of_neutral neutral)) suffix
    | sendEvent new sends event events queue cont => exact sent new (foreign (by rw [cont]; rfl)) suffix
    | note event neutral =>
      refine .inl (called_suffix ?_ suffix)
      cases event with
      | replied => rfl
      | responded => rfl
      | _ => cases neutral
    | raise event =>
      have suffix : .called call :: before <:+
        .pushed l.securityEvents event :: .raised event :: l.history := suffix
      exact .inl (called_suffix rfl (called_suffix rfl suffix))
    | _ => exact .inl suffix
  | sendStart id pending new done hand sends cont => exact sent new (foreign (by rw [cont]; rfl)) suffix
  | sendClose session sync new hand sends cont => exact sent new (foreign (by rw [cont]; rfl)) suffix
  | sendStop id tx tag startedAt meterStartWh info done new wire hand sends cont =>
    exact sent new (foreign (by rw [cont]; rfl)) suffix
  | sendNext key keys e request cont new hand next sends found message asked continuation =>
    refine sent new ?_ suffix
    rcases message with ⟨-, start⟩ | ⟨-, stop⟩
    · obtain ⟨-, rfl⟩ := Prod.mk.inj start
      intro key info stops
      rw [continuation] at stops
      cases stops
    · exact delivers_of_stopOf (assigned e (List.mem_of_find?_eq_some found)) stop asked continuation
  | sendReady key e request cont new hand sends found message asked continuation =>
    exact sent new
      (delivers_of_stopOf (assigned e (List.mem_of_find?_eq_some found)) message asked continuation) suffix
  | queueStart id pending entry => exact .inl (pushed l entry suffix)
  | queueNewStop id tx info entry => exact .inl (pushed (l.update id _) entry suffix)
  | _ => first | exact .inl suffix | exact .inl (called_suffix rfl suffix)

/-! ## The invariant -/

/-- The id is known in the session: this process began with it, or it was answered. -/
def Known (given : Nat → Int → Prop) (history : List Event) (session : Nat) (transactionId : Int) : Prop :=
  given session transactionId ∨ AnsweredStart history session transactionId

/-- The state file has the id for the session; a new process numbers the sessions of connectors with 0. -/
def PersistedStation.Gives (data : PersistedStation) (session : Nat) (transactionId : Int) : Prop :=
  (∃ e ∈ data.offlineQueue, e.key = session ∧ e.txId = .csms transactionId) ∨
    (session = 0 ∧ ∃ c ∈ data.connectors, c.transaction.txId = some (.csms transactionId))

/-- What a new process knows as `session`, the one that wrote the file knew as `own`: the entry or the stop of its
session, or the transaction of a connector. -/
def PersistedStation.Hands (data : PersistedStation) (session own : Nat) (transactionId : Int) : Prop :=
  (∃ e ∈ data.offlineQueue, e.key = session ∧ e.txId = .csms transactionId ∧
      (own = e.key ∨ ∃ info, e.stop = some info ∧ own = info.session)) ∨
    (session = 0 ∧ ∃ c ∈ data.connectors, c.transaction.Carries own transactionId)

/-- Every id is known where it is. -/
structure Traced (given : Nat → Int → Prop) (l : Ledger) : Prop where
  connectors : ∀ c ∈ l.connectors, ∀ session transactionId, c.transaction.Carries session transactionId →
    Known given l.history session transactionId
  queue : ∀ e ∈ l.queue, e.Assigned (Known given l.history)
  calls : ∀ call ∈ l.rest ++ l.calls, ∀ session transactionId, call.continuation.Carries session transactionId →
    Known given l.history session transactionId
  hand : ∀ session transactionId, l.hand.Carries session transactionId → Known given l.history session transactionId
  sent : ∀ call before, .called call :: before <:+ l.history → call.Delivers (Known given before)
  saved : ∀ data ∈ l.written, ∀ session transactionId, data.Gives session transactionId →
    ∃ own, data.Hands session own transactionId ∧ Known given l.history own transactionId

variable {given : Nat → Int → Prop}

theorem Known.later {earlier history : List Event} (h : Known given earlier session transactionId)
    (suffix : earlier <:+ history) : Known given history session transactionId := by
  rcases h with begun | answered
  · exact .inl begun
  · exact .inr (answered.later suffix)

/-- The state file has the ids of the connectors and of the queue. -/
theorem Traced.gives (h : Traced given l) (worded : Worded l) {data : PersistedStation}
    (queue : data.offlineQueue = l.queue) (connectors : data.connectors = l.connectors.map Actor.persistedConnector)
    (gives : data.Gives session transactionId) :
    ∃ own, data.Hands session own transactionId ∧ Known given l.history own transactionId := by
  rcases gives with ⟨e, mem, key, tx⟩ | ⟨first, pc, mem, tx⟩
  · rcases h.queue e (queue ▸ mem) transactionId tx with own | ⟨info, stop, other⟩
    · exact ⟨_, .inl ⟨e, mem, key, tx, .inl rfl⟩, own⟩
    · exact ⟨_, .inl ⟨e, mem, key, tx, .inr ⟨info, stop, rfl⟩⟩, other⟩
  · have kept := mem
    rw [connectors] at mem
    obtain ⟨c, old, rfl⟩ := List.mem_map.mp mem
    have carried (own : Nat) (carries : c.transaction.Carries own transactionId) :
        ∃ own, data.Hands session own transactionId ∧ Known given l.history own transactionId :=
      ⟨own, .inr ⟨first, _, kept, carries⟩, h.connectors c old own transactionId carries⟩
    have tx : c.transaction.txId = some (.csms transactionId) := tx
    have wording := worded.connectors c old
    cases state : c.transaction with
    | idle =>
      rw [state] at tx
      cases tx
    | pendingStart p =>
      rw [state] at tx wording
      have same : p.txId = .csms transactionId := Option.some.inj tx
      have own : p.txId.isLocal = true := wording
      rw [same] at own
      cases own
    | active t =>
      rw [state] at tx
      exact carried t.session (state ▸ ⟨rfl, Option.some.inj tx⟩)
    | stopping t =>
      rw [state] at tx
      exact carried t.session (state ▸ ⟨rfl, Option.some.inj tx⟩)

/-- The ids stay known. -/
theorem traced_preserved (allow : Allow) (given : Nat → Int → Prop) :
    Preserves (Trans allow) fun l => (Ids l ∧ Worded l) ∧ Traced given l := by
  refine (worded_preserved allow).and fun l l' step worded h => ?_
  have grows := step.history
  have held {session : Nat} {transactionId : Int} (carries : l.hand.Carries session transactionId) :
      Known given l'.history session transactionId := (h.hand _ _ carries).later grows
  refine ⟨fun c mem session id carries => ?_, fun e mem => ?_, fun call mem session id carries => ?_,
    fun session id carries => ?_, fun call before suffix => ?_, fun data mem session id gives => ?_⟩
  · rcases step.connectors_carry mem carries with ⟨d, old, kept⟩ | hand
    · exact (h.connectors d old _ _ kept).later grows
    · exact held hand
  · rcases step.queue_assigned mem with old | hand
    · exact (h.queue e old).mono fun _ _ known => known.later grows
    · exact hand.mono fun _ _ carries => held carries
  · rcases step.calls_carry mem carries with old | hand
    · exact (h.calls call old _ _ carries).later grows
    · exact held hand
  · rcases step.hand_carries worded.2 carries with hand | answered | ⟨call, old, kept⟩ | ⟨c, old, kept⟩
    · exact held hand
    · exact .inr answered
    · exact (h.calls call old _ _ kept).later grows
    · exact (h.connectors c old _ _ kept).later grows
  · rcases step.sends_stop suffix h.queue with older | ⟨rfl, delivers⟩
    · exact h.sent call before older
    · exact delivers
  · rcases step.saved mem with old | ⟨queue, connectors⟩
    · obtain ⟨own, hands, known⟩ := h.saved data old session id gives
      exact ⟨own, hands, known.later grows⟩
    · obtain ⟨own, hands, known⟩ := h.gives worded.2 queue connectors gives
      exact ⟨own, hands, known.later grows⟩

/-! ## The start of a process -/

namespace Actor

/-- Taking over the stop that was in flight on a connector keeps the ids known. -/
theorem queueLostStop_assigned {known : Nat → Int → Prop} {queue : OfflineQueue} {c : ConnectorSnapshot} (now : Instant)
    (assigned : ∀ e ∈ queue, e.Assigned known)
    (own : ∀ session transactionId, c.transaction.Carries session transactionId → known session transactionId) :
    ∀ e ∈ queueLostStop now queue c, e.Assigned known := by
  intro e mem
  cases state : c.transaction with
  | stopping s =>
    rw [queueLostStop_stopping state] at mem
    have stops {e : OfflineTx} (tx : e.txId = s.txId) (stop : e.stop = some (lostStop now c s)) : e.Assigned known :=
      fun transactionId same => .inr ⟨_, stop, own _ _ (state ▸ ⟨rfl, tx.symm.trans same⟩)⟩
    split at mem
    · rcases mem_updateFirst mem with old | ⟨d, -, holds, rfl⟩
      · exact assigned e old
      · simp only [OfflineQueue.isTxOn, Bool.and_eq_true, decide_eq_true_eq] at holds
        exact stops holds.1 rfl
    · rcases mem_push mem with old | rfl
      · exact assigned e old
      · exact stops rfl rfl
  | _ =>
    rw [queueLostStop_other (by rw [state]; rfl)] at mem
    exact assigned e mem

theorem queueLostStops_assigned {known : Nat → Int → Prop} (now : Instant) (connectors : List ConnectorSnapshot)
    (own : ∀ c ∈ connectors, ∀ session transactionId, c.transaction.Carries session transactionId →
      known session transactionId) {queue : OfflineQueue} (assigned : ∀ e ∈ queue, e.Assigned known) :
    ∀ e ∈ connectors.foldl (queueLostStop now) queue, e.Assigned known := by
  induction connectors generalizing queue with
  | nil => exact assigned
  | cons c rest ih =>
    exact ih (fun d mem => own d (List.mem_cons_of_mem c mem))
      (queueLostStop_assigned now assigned (own c List.mem_cons_self))

/-- A restored connector has the id that the file has of it. -/
theorem restoredConnectors_carry (config : StationConfig) {saved : PersistedStation}
    (nodup : (saved.connectors.map (·.id)).Nodup) {c : ConnectorSnapshot} (mem : c ∈ restoredConnectors config saved)
    (carries : c.transaction.Carries session transactionId) : saved.Gives session transactionId := by
  rcases restoredConnectors_cases config nodup mem with ⟨id, rfl⟩ | ⟨pc, known, rfl⟩
  · exact carries.elim
  · unfold restoredConnector at carries
    dsimp only at carries
    split at carries
    · rename_i t active
      obtain ⟨rfl, tx⟩ := carries
      exact .inr ⟨rfl, pc, known, by rw [active]; exact congrArg some tx⟩
    · rename_i t stopping
      obtain ⟨rfl, tx⟩ := carries
      exact .inr ⟨rfl, pc, known, by rw [stopping]; exact congrArg some tx⟩
    · rename_i active stopping
      cases state : pc.transaction with
      | active t => exact absurd state (active t)
      | stopping t => exact absurd state (stopping t)
      | idle => rw [state] at carries; exact carries.elim
      | pendingStart p => rw [state] at carries; exact carries.elim

theorem withoutLostStart_carries {queue : OfflineQueue} {c : ConnectorSnapshot}
    (carries : (withoutLostStart queue c).transaction.Carries session transactionId) :
    c.transaction.Carries session transactionId := by
  rcases withoutLostStart_transaction queue c with same | idle
  · rwa [same] at carries
  · rw [idle] at carries
    exact carries.elim

theorem loaded_traced (config : StationConfig) (registry : ConfigRegistry) (now : Instant) (mono : Int)
    {saved : Option PersistedStation} (nodup : ∀ data, saved = some data → (data.connectors.map (·.id)).Nodup) :
    Traced (fun session id => ∃ data, saved = some data ∧ data.Gives session id)
      ((loaded config registry now mono saved).ledger [] .none) := by
  have quiet : (loaded config registry now mono saved).history = [] ∧
      (loaded config registry now mono saved).calls = [] ∧
      (loaded config registry now mono saved).written = [] := by cases saved <;> exact ⟨rfl, rfl, rfl⟩
  refine ⟨fun c mem session id carries => ?_, fun e mem => ?_, fun call mem => ?_, fun _ _ => False.elim,
    fun call before suffix => ?_, fun data mem => ?_⟩
  · cases saved with
    | none =>
      obtain ⟨index, -, rfl⟩ := List.mem_map.mp mem
      exact carries.elim
    | some data =>
      obtain ⟨d, old, rfl⟩ := mem_restore mem
      rw [withAvailability_transaction, withoutLostStop_transaction] at carries
      split at carries
      · exact carries.elim
      · exact .inl ⟨data, rfl, restoredConnectors_carry config (nodup data rfl) old (withoutLostStart_carries carries)⟩
  · cases saved with
    | none => cases mem
    | some data =>
      refine queueLostStops_assigned now _ (fun c known session id carries => ?_) (fun e known => ?_) e mem
      · obtain ⟨d, old, rfl⟩ := List.mem_map.mp known
        exact .inl ⟨data, rfl, restoredConnectors_carry config (nodup data rfl) old (withoutLostStart_carries carries)⟩
      · obtain ⟨d, old, rfl⟩ := List.mem_map.mp known
        exact fun transactionId tx => .inl (.inl ⟨data, rfl, .inl ⟨d, old, rfl, tx⟩⟩)
  · have mem : call ∈ (loaded config registry now mono saved).calls := mem
    rw [quiet.2.1] at mem
    cases mem
  · have suffix : .called call :: before <:+ (loaded config registry now mono saved).history := suffix
    rw [quiet.1] at suffix
    cases List.suffix_nil.mp suffix
  · have mem : data ∈ (loaded config registry now mono saved).written := mem
    rw [quiet.2.2] at mem
    cases mem

/-! ## A chain of processes -/

/-- The station has come to `a` in the last process of a chain: the histories of the earlier ones, each with the file
that the next one began with. -/
inductive Lives : List (List Event × PersistedStation) → Actor → Prop
  | first {a : Actor} (config : StationConfig) (registry : ConfigRegistry) (now : Instant) (mono : Int)
      (run : Runs (fun _ _ => True) (start config registry now mono none) a) : Lives [] a
  | next {a b : Actor} {earlier : List (List Event × PersistedStation)} (lives : Lives earlier b)
      (config : StationConfig) (registry : ConfigRegistry) (now : Instant) (mono : Int) (data : PersistedStation)
      (written : data ∈ b.written) (run : Runs (fun _ _ => True) (start config registry now mono (some data)) a) :
      Lives ((b.history, data) :: earlier) a

variable {earlier : List (List Event × PersistedStation)} {a : Actor}

/-- Every reachable state is in a chain of processes. -/
theorem lives_of_reachable (h : Reachable (fun _ _ => True) a) : ∃ earlier, Lives earlier a := by
  induction h with
  | fresh config registry now mono run => exact ⟨_, .first config registry now mono run⟩
  | restarted _ config registry now mono data written _ run ih =>
    obtain ⟨earlier, lives⟩ := ih
    exact ⟨_, .next lives config registry now mono data written run⟩

theorem Lives.reachable (h : Lives earlier a) : Reachable (fun _ _ => True) a := by
  induction h with
  | first config registry now mono run => exact .fresh config registry now mono run
  | next _ config registry now mono data written run ih =>
    exact .restarted ih config registry now mono data written trivial run

/-- What the process knows as `session` got the id in an earlier process, and each file since has handed it on. -/
inductive HandedOn : List (List Event × PersistedStation) → Nat → Int → Prop
  | answered {history : List Event} {data : PersistedStation} {session own : Nat} {transactionId : Int}
      (earlier : List (List Event × PersistedStation)) (hands : data.Hands session own transactionId)
      (answer : AnsweredStart history own transactionId) : HandedOn ((history, data) :: earlier) session transactionId
  | carried {data : PersistedStation} {session own : Nat} {transactionId : Int}
      {earlier : List (List Event × PersistedStation)} (history : List Event)
      (hands : data.Hands session own transactionId) (before : HandedOn earlier own transactionId) :
      HandedOn ((history, data) :: earlier) session transactionId

/-- The books of a process whose ids are known. -/
def TracesIds (given : Nat → Int → Prop) (a : Actor) : Prop :=
  (Ids (a.ledger [] .none) ∧ Worded (a.ledger [] .none)) ∧ Traced given (a.ledger [] .none)

theorem runs_tracesIds {a b : Actor} (run : Runs (fun _ _ => True) a b) (h : TracesIds given a) :
    TracesIds given b := by
  refine Preserves.path (fun a b next h => ?_) run h
  obtain ⟨wake, -, rfl⟩ := next
  have permits : Permits (allowing true true true) (a.woken wake) wake.input :=
    permits_allowing _ (.inl rfl) (.inl rfl) (.inl rfl)
  exact (traced_preserved _ given).path (a.step_path wake h.1.1 permits) h

theorem start_tracesIds (config : StationConfig) (registry : ConfigRegistry) (now : Instant) (mono : Int)
    {saved : Option PersistedStation} (nodup : ∀ data, saved = some data → (data.connectors.map (·.id)).Nodup)
    (worded : ∀ data, saved = some data → ∀ c ∈ data.connectors, c.transaction.Worded) :
    TracesIds (fun session id => ∃ data, saved = some data ∧ data.Gives session id)
      (start config registry now mono saved) :=
  (traced_preserved {} _).path (start_path config registry now mono saved (.inl rfl))
    ⟨⟨loaded_ids config registry now mono saved, loaded_worded config registry now mono nodup worded⟩,
      loaded_traced config registry now mono nodup⟩

/-- Every id that a process begins with was answered to an earlier one. -/
theorem Lives.traced (h : Lives earlier a) : ∃ given, TracesIds given a ∧
    ∀ session transactionId, given session transactionId → HandedOn earlier session transactionId := by
  induction h with
  | first config registry now mono run =>
    have started : TracesIds _ (start config registry now mono none) :=
      start_tracesIds config registry now mono (by rintro data ⟨⟩) (by rintro data ⟨⟩)
    refine ⟨_, runs_tracesIds run started, ?_⟩
    rintro session id ⟨data, none, -⟩
    cases none
  | @next a b earlier lives config registry now mono data written run ih =>
    obtain ⟨given, ⟨⟨-, worded⟩, traced⟩, known⟩ := ih
    have file := worded.saved data written
    refine ⟨_, runs_tracesIds run (start_tracesIds config registry now mono ?_ ?_), fun session id gives => ?_⟩
    · rintro data' same
      obtain rfl := Option.some.inj same
      exact file.1
    · rintro data' same
      obtain rfl := Option.some.inj same
      exact file.2
    · obtain ⟨data', same, gives⟩ := gives
      obtain rfl := Option.some.inj same
      obtain ⟨own, hands, begun | answered⟩ := traced.saved _ written session id gives
      · exact .carried b.history hands (known own id begun)
      · exact .answered earlier hands answered

/-! ## The law -/

/-- The syncs of a process are in order between two iterations. -/
def SyncsInOrder (a : Actor) : Prop :=
  Ids (a.ledger [] .none) ∧ (Fates (a.ledger [] .none) ∧ Counted (a.ledger [] .none)) ∧ Sequenced (a.ledger [] .none)

theorem loaded_sequenced (config : StationConfig) (registry : ConfigRegistry) (now : Instant) (mono : Int)
    (saved : Option PersistedStation) : Sequenced ((loaded config registry now mono saved).ledger [] .none) := by
  have syncs : syncsOf ((loaded config registry now mono saved).ledger [] .none).history = [] := by cases saved <;> rfl
  have messages : ((loaded config registry now mono saved).ledger [] .none).messages = [] := by cases saved <;> rfl
  refine ⟨?_, ?_, by rintro ⟨⟩⟩
  · rw [syncs]
    rintro sync ⟨⟩
  · rw [messages]
    rintro message ⟨⟩

theorem start_syncsInOrder (config : StationConfig) (registry : ConfigRegistry) (now : Instant) (mono : Int)
    (saved : Option PersistedStation) : (start config registry now mono saved).SyncsInOrder :=
  ⟨start_ids config registry now mono saved,
    (sequenced_preserved {}).path (start_path config registry now mono saved (.inl rfl))
      ⟨⟨loaded_fates config registry now mono saved, loaded_counted config registry now mono saved⟩,
        loaded_sequenced config registry now mono saved⟩⟩

theorem step_syncsInOrder {a : Actor} (h : a.SyncsInOrder) (wake : Wake) : (a.step wake).SyncsInOrder := by
  have permits : Permits (allowing true true true) (a.woken wake) wake.input :=
    permits_allowing _ (.inl rfl) (.inl rfl) (.inl rfl)
  have path := a.step_path wake h.1 permits
  exact ⟨(ids_preserved _).path path h.1, (sequenced_preserved _).path path h.2⟩

theorem reachable_syncsInOrder {a : Actor} (h : Reachable (fun _ _ => True) a) : a.SyncsInOrder :=
  h.inductive (P := SyncsInOrder) (fun config registry now mono => start_syncsInOrder config registry now mono none)
    (fun config registry now mono _ saved _ _ _ => start_syncsInOrder config registry now mono (some saved))
    fun _ wake ordered _ => step_syncsInOrder ordered wake

/-- The loss of the link leaves nothing of a sync. -/
theorem linkDown_forgets {a : Actor} (running : a.stopped = false) (fates : Fates (a.ledger [] .none))
    (counted : Counted (a.ledger [] .none)) (code : Option Nat) :
    (a.linkDown code).syncOutstanding = 0 ∧ (a.linkDown code).syncKeys = [] := by
  have path : Path {} (a.ledger [] .none) ((a.linkDown code).ledger [] .none) :=
    a.linkDown_path code running ⟨rfl, rfl, .inl fun _ => rfl⟩
  have after := ((fates_counted {}).path path ⟨fates, counted⟩).2
  have up : (a.linkDown code).stopped = false := (congrArg Tie.stopped (linkDown_tie a code)).trans running
  exact ⟨(after.down (a.linkDown_closed code) up).1, (after.down (a.linkDown_closed code) up).2.1⟩

/-- One CALL of the sync is in flight at most, and the counter counts it and the keys that are left. A sync sends in the
order of the queue, and a stop after the answer of its start. The stop goes out with the id that the Central System
gave the transaction. The loss of the link ends the sync. -/
theorem sync_protocol (lives : Lives earlier a) :
    ((a.calls.filter fun call => call.continuation.syncKey?.isSome).length ≤ 1 ∧
      a.syncOutstanding = a.syncKeys.length + (a.calls.filter fun call => call.continuation.syncKey?.isSome).length) ∧
    (∀ sync ∈ syncsOf a.history, sync.InOrder) ∧
    (∀ call before, .called call :: before <:+ a.history → ∀ key info, call.continuation = .syncStop key info →
      ∃ wire, call.request = .stopTransaction (stopRequest info wire) ∧
        ∃ session, (session = key ∨ session = info.session) ∧
          (AnsweredStart before session wire ∨ HandedOn earlier session wire)) ∧
    ∀ (allow : Allow) (b : Actor) (code : Option Nat), Path allow (a.ledger [] .none) (b.ledger [] .none) →
      b.stopped = false →
      (b.linkDown code).syncOutstanding = 0 ∧ (b.linkDown code).syncKeys = [] := by
  obtain ⟨-, ⟨fates, counted⟩, sequenced⟩ := reachable_syncsInOrder lives.reachable
  obtain ⟨given, ⟨-, traced⟩, known⟩ := lives.traced
  have slots : (a.ledger [] .none).slots.length =
      (a.calls.filter fun call => call.continuation.syncKey?.isSome).length := by
    rw [← List.countP_eq_length_filter]
    exact List.length_filterMap_eq_countP
  refine ⟨⟨slots ▸ counted.one, ?_⟩, sequenced.all, fun call before suffix key info stops => ?_,
    fun allow b code path running => ?_⟩
  · by_cases up : a.link.conn = true ∨ a.stopped = true
    · rw [← slots]
      exact counted.count up
    · obtain ⟨conn, running⟩ : a.link.conn = false ∧ a.stopped = false := by simpa using up
      obtain ⟨none, keys, -⟩ := counted.down conn running
      have calls : a.calls = [] := fates.closed conn running
      have none : a.syncOutstanding = 0 := none
      have keys : a.syncKeys = [] := keys
      rw [none, keys, calls]
      rfl
  · obtain ⟨wire, request, source⟩ := traced.sent call before suffix key info stops
    refine ⟨wire, request, ?_⟩
    rcases source with (begun | answered) | begun | answered
    · exact ⟨key, .inl rfl, .inr (known _ _ begun)⟩
    · exact ⟨key, .inl rfl, .inl answered⟩
    · exact ⟨info.session, .inr rfl, .inr (known _ _ begun)⟩
    · exact ⟨info.session, .inr rfl, .inl answered⟩
  · obtain ⟨fates', counted'⟩ := (fates_counted allow).path path ⟨fates, counted⟩
    exact linkDown_forgets running fates' counted' code

/-- A station that was not connected queued a start and its stop. Its sync has delivered the start, and the stop is in
flight with the id of the answer. -/
theorem sync_protocol_offline :
    let inputs : List Input :=
      [.command (.startTransaction 1 (.single 'A')) 2, .command (.stopTransaction 1 .local none) 3, .command .connect 0,
        .connected 1 true none, .callDone 0 1 (.ok (.boot .accepted 0 0)),
        .callDone 1 1 (.ok (.startTransaction 7 { status := .accepted }))]
    let a := (start { connectorCount := 1 } {} 1000000000000 0 none).replay 1000000000000 0 inputs
    a.syncOutstanding = 1 ∧ a.syncKeys = [] ∧ (calledOf a.history).length = 3 ∧
    (∀ sync ∈ syncsOf a.history, sync.InOrder) ∧
    ∀ call before, .called call :: before <:+ a.history → ∀ key info, call.continuation = .syncStop key info →
      ∃ wire, call.request = .stopTransaction (stopRequest info wire) ∧
        ∃ session, (session = key ∨ session = info.session) ∧ AnsweredStart before session wire := by
  intro inputs a
  have lives : Lives [] a := .first _ _ _ _ (.replay _ _ _ inputs fun _ _ _ => trivial)
  obtain ⟨-, order, stops, -⟩ := sync_protocol lives
  refine ⟨by decide +kernel, by decide +kernel, by decide +kernel, order, fun call before suffix key info stop => ?_⟩
  obtain ⟨wire, request, session, own, answered | handed⟩ := stops call before suffix key info stop
  · exact ⟨wire, request, session, own, answered⟩
  · cases handed

end Actor

end KirbyOcpp
