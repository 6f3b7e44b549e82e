import KirbyOcpp.Ledger.Sync

/-!
# Starts, stops and samples as paths

What the remaining operations of `Station.Transactions` do to the ledger. Their premises are what the
permissions ask for.
-/

namespace KirbyOcpp

open Paths Relation

private theorem stateAfterStop_status (reason : StopReason) (evConnected : Bool) (availability : AvailabilityType) :
    (stateAfterStop reason evConnected availability).2.calm = true ∧
      (stateAfterStop reason evConnected availability).2 ≠ .faulted ∧
      (stateAfterStop reason evConnected availability).2 ≠ .reserved := by
  unfold stateAfterStop
  dsimp only
  repeat' split
  all_goals exact ⟨rfl, by decide, by decide⟩

namespace Actor

variable {allow : Allow} {rest : List PendingCall} {hand : Hand}

/-! ## Lookups -/

/-- A connector is not the station. -/
theorem physical_of_connector {a : Actor} {id : ConnectorId} {c : ConnectorSnapshot}
    (found : a.connector id = some c) : isStation id = false := by
  unfold connector at found
  split at found
  · cases found
  · simp_all

private theorem findConnector_physical (a : Actor) {id : ConnectorId} (physical : isStation id = false) :
    a.findConnector id = a.connector id := by
  simp [findConnector, connector, physical]

/-- Looking at the connector that was changed. -/
theorem connector_withConnector (a : Actor) {id : ConnectorId} {c : ConnectorSnapshot}
    {f : ConnectorSnapshot → ConnectorSnapshot} (keeps : ∀ c, (f c).id = c.id)
    (found : a.connector id = some c) : (a.withConnector id f).connector id = some (f c) := by
  have physical := physical_of_connector found
  rw [← findConnector_physical _ physical] at found ⊢
  rw [a.findConnector_withConnector id keeps, found]
  rfl

/-- A connector does not decide about talking. -/
theorem withConnector_canTalk (a : Actor) (id : ConnectorId)
    (f : ConnectorSnapshot → ConnectorSnapshot) : (a.withConnector id f).canTalk = a.canTalk := by
  unfold withConnector
  split <;> rfl

private theorem withConnector_now (a : Actor) (id : ConnectorId) (f : ConnectorSnapshot → ConnectorSnapshot) :
    (a.withConnector id f).now = a.now := by
  unfold withConnector
  split <;> rfl

/-! ## Charging begins -/

/-- `begin_charging` past the change of the connector. -/
theorem beginCharging_quiet (a : Actor) (id : ConnectorId) (pending : PendingStart) :
    Quiet ((a.record (.charged id pending ((a.findConnector id).bind (·.reservation)) a.now)).withConnector id
      (chargingConnector pending.idTag)) (a.beginCharging id pending) := by
  unfold beginCharging
  dsimp only
  exact (((cancelTimer_quiet _ _).trans (flushNow_quiet _)).trans (rescheduleMetering_quiet _)).trans
    (statusChanged_quiet _ _)

private theorem withConnector_queue (a : Actor) (id : ConnectorId) (f : ConnectorSnapshot → ConnectorSnapshot) :
    (a.withConnector id f).queue = a.queue := by
  unfold withConnector
  split <;> rfl

/-! ## Stop -/

/-- A stop is confirmed. -/
theorem onStopResult_ok_path (id : ConnectorId) (tx : TxId) (tag : IdTag) (startedAt : Instant)
    (meterStartWh : Nat) (info : StopInfo) (done : Done) (result : Unit) (a : Actor)
    (clean : allow.leave = true ∨ ¬delivered a.queue id tx) (ends : Ends allow a.findConnector id tx) :
    Path allow (a.ledger rest (.stopped id tx info))
      ((onStopResult id tx tag startedAt meterStartWh info done (.ok result) a).ledger rest .none) := by
  unfold onStopResult
  dsimp only
  refine .trans ?_ (((finishStop_quiet a id tx).trans (runDone_quiet _ _ _)).path rest .none)
  have step : Trans allow _ _ := .confirmStop (a.ledger rest _) id tx info rfl clean ends
  convert ReflTransGen.single step using 1
  rw [withConnector_ledger]
  unfold Ledger.update
  split <;> rfl

/-- A stop that fails is queued. -/
theorem onStopResult_error_path (id : ConnectorId) (tx : TxId) (tag : IdTag) (startedAt : Instant)
    (meterStartWh : Nat) (info : StopInfo) (done : Done) (error : CallError) (a : Actor)
    (ends : Ends allow a.findConnector id tx) :
    Path allow (a.ledger rest (.stopping id tx info))
      ((onStopResult id tx tag startedAt meterStartWh info done (.error error) a).ledger rest .none) := by
  unfold onStopResult
  dsimp only
  refine (a.queueStop_path id tx tag startedAt meterStartWh info (.inr rfl) ends).trans ?_
  rw [← recordSyncFailure_ledger _ (a.queueStop id tx tag startedAt meterStartWh info).1 error]
  exact (armSyncRetryIfIdle_path _).trans ((runDone_quiet _ _ _).path rest .none)

private theorem stopOffline_path (a : Actor) (id : ConnectorId) (target : StopTarget) (info : StopInfo)
    (done : Done) {c : ConnectorSnapshot} (found : a.connector id = some c) (held : c.txId = some target.tx) :
    Path allow (a.ledger rest (.stop id target.tx info))
      ((a.stopOffline id target info done).ledger rest .none) := by
  unfold stopOffline
  dsimp only
  refine .trans ?_ ((runDone_quiet _ _ _).path rest .none)
  have ends : Ends allow a.findConnector id target.tx := by
    refine .inr fun d same => .inl ?_
    rw [findConnector_physical a (physical_of_connector found), found] at same
    obtain rfl := Option.some.inj same
    exact held
  refine (a.queueStop_path id target.tx target.tag target.startedAt target.meterStartWh info
    (.inl rfl) ends).trans ?_
  split
  · rename_i talk
    refine startOfflineSync_path _ ?_
    simp only [canTalk, Bool.and_eq_true] at talk
    exact talk.1
  · exact .refl

private theorem stopOnline_path (a : Actor) (id : ConnectorId) (target : StopTarget) (info : StopInfo)
    (done : Done) (talk : a.canTalk = true) (wire : target.tx.isLocal = false) {c : ConnectorSnapshot}
    (found : a.connector id = some c) (held : c.txId = some target.tx) :
    Path allow (a.ledger rest (.stop id target.tx info))
      ((a.stopOnline id target info done).ledger rest .none) := by
  unfold stopOnline
  dsimp only
  set stopping : StoppingTransaction :=
    { txId := target.tx, idTag := info.idTag, reason := info.reason, stoppedAt := some info.timestamp
      meterStopWh := some info.meterStopWh, session := info.session }
  set marked := a.withConnector id fun c => { c with transaction := .stopping stopping } with hmarked
  have mark : Path allow (a.ledger rest (.stop id target.tx info))
      (marked.ledger rest (.stopping id target.tx info)) := by
    have step : Trans allow _ _ := .markStopping (a.ledger rest _) id target.tx info stopping c rfl
      found held rfl rfl wire
    convert ReflTransGen.single step using 1
    rw [hmarked, withConnector_ledger]
    unfold Ledger.update
    split <;> rfl
  refine mark.trans (.trans ((statusChanged_quiet marked id).path rest _) ?_)
  have talk' : (marked.statusChanged id).canTalk = true := by
    rw [(statusChanged_quiet marked id).canTalk, hmarked, withConnector_canTalk, talk]
  cases htx : target.tx with
  | loc key => simp [htx, TxId.isLocal] at wire
  | csms w =>
    simp only [TxId.wire]
    rw [call_of_canTalk _ talk']
    exact .single (.sendStop _ id (.csms w) target.tag target.startedAt target.meterStartWh info done _
      w rfl (newCall_sends_of_canTalk _ talk' (.inl rfl) _ _ _) rfl rfl rfl)

private theorem stopTarget_stoppable {a : Actor} {id : ConnectorId} {c : ConnectorSnapshot} {target : StopTarget}
    (h : a.stopTarget id c = .ok target) (rest : List PendingCall) (hand : Hand) :
    Stoppable (a.ledger rest hand) c target.tx target.session := by
  unfold stopTarget at h
  split at h
  · cases h
  · cases h
  · rename_i p hp
    split at h
    · cases h
    · rename_i queued
      obtain rfl := Except.ok.inj h
      have queued : ∃ e ∈ a.queue, e.txId = p.txId := by simpa using queued
      exact .inr ⟨p, hp, rfl, rfl, queued⟩
  · rename_i t ht
    obtain rfl := Except.ok.inj h
    exact .inl ⟨t, ht, rfl, rfl⟩

/-- The connector holds the transaction that is to be stopped. -/
theorem stopTarget_held {a : Actor} {id : ConnectorId} {c : ConnectorSnapshot} {target : StopTarget}
    (h : a.stopTarget id c = .ok target) : c.txId = some target.tx := by
  unfold ConnectorSnapshot.txId
  rcases stopTarget_stoppable h [] .none with ⟨t, active, tx, -⟩ | ⟨p, pending, tx, -⟩
  · rw [active, tx]
    rfl
  · rw [pending, tx]
    rfl

private theorem stopChecked_path (a : Actor) (id : ConnectorId) (c : ConnectorSnapshot) (target : StopTarget)
    (reason : StopReason) (idTag : Option IdTag) (done : Done) (found : a.connector id = some c)
    (checked : a.stopTarget id c = .ok target) (stops : allow.stops id = true) :
    Path allow (a.ledger rest .none)
      ((a.stopChecked id c target reason idTag done).ledger rest .none) := by
  unfold stopChecked
  have read := a.meterReading_quiet id false
  refine .trans (read.path rest .none) ?_
  generalize a.meterReading id false = reading at read ⊢
  obtain ⟨b, reading⟩ := reading
  dsimp only at read ⊢
  obtain ⟨c', found', mild⟩ := read.connector found
  set info := b.stopInfo c target reason idTag reading with hinfo
  have status := stateAfterStop_status reason c.evConnected c.availability
  generalize stateAfterStop reason c.evConnected c.availability = after at status
  have noted : Path allow (b.ledger rest .none)
      ((b.noteStop id info after.1 after.2).ledger rest (.stop id target.tx info)) := by
    have stoppable : Stoppable (b.ledger rest .none) c' target.tx info.session := by
      have stoppable : Stoppable (a.ledger rest .none) c target.tx target.session :=
        stopTarget_stoppable checked rest .none
      unfold Stoppable at stoppable ⊢
      rw [mild.transaction]
      change _ ∨ ∃ p, _ ∧ _ ∧ _ ∧ ∃ e ∈ b.queue, _
      rw [read.queue]
      exact stoppable
    have step : Trans allow _ _ := .beginStop (b.ledger rest .none) id c' target.tx info
      (fun c => { c with evConnected := after.1, status := after.2 }) rfl found' stoppable
      (fun c _ _ => ⟨rfl, rfl, rfl, status.1, rfl, rfl, rfl, status.2.1, status.2.2⟩) stops
    have noted : Path allow (b.ledger rest .none)
        (((b.record (.stopRequested id info)).withConnector id fun c =>
          { c with evConnected := after.1, status := after.2 }).ledger rest (.stop id target.tx info)) := by
      convert ReflTransGen.single step using 1
      unfold withConnector Ledger.update
      split <;> rfl
    exact noted.trans (removeLimit_path (((b.record (.stopRequested id info)).withConnector id fun c =>
      { c with evConnected := after.1, status := after.2 }).cancelTimer (.meterPeriodic id)) id)
  refine noted.trans ?_
  have noted' : (b.noteStop id info after.1 after.2).connector id =
      some { c' with evConnected := after.1, status := after.2 } :=
    connector_withConnector (b.record (.stopRequested id info))
      (f := fun c => { c with evConnected := after.1, status := after.2 }) (fun _ => rfl) found'
  have held : ({ c' with evConnected := after.1, status := after.2 } : ConnectorSnapshot).txId =
      some target.tx := by
    have held := stopTarget_held checked
    unfold ConnectorSnapshot.txId at held ⊢
    rw [← mild.transaction] at held
    exact held
  split
  · exact stopOffline_path _ id target info done noted' held
  · rename_i online
    simp only [Bool.or_eq_true, Bool.not_eq_true', not_or, Bool.not_eq_true, Bool.not_eq_false] at online
    exact stopOnline_path _ id target info done online.2 online.1 noted' held

/-- A stop is refused, sent or queued. -/
theorem stopTransaction_path (a : Actor) (id : ConnectorId) (reason : StopReason) (idTag : Option IdTag)
    (done : Done) (stops : allow.stops id = true) :
    Path allow (a.ledger rest .none) ((a.stopTransaction id reason idTag done).ledger rest .none) := by
  unfold stopTransaction
  refine .trans (a.flushMeters_quiet.path rest .none) ?_
  dsimp only
  split
  · exact (runDone_quiet _ _ _).path rest .none
  · rename_i c found
    split
    · exact (runDone_quiet _ _ _).path rest .none
    · rename_i target checked
      exact stopChecked_path _ id c target reason idTag done found checked stops

/-- A limit that is looked up is there. -/
theorem mem_of_lookup {id : ConnectorId} {limit : Nat} {limits : List (ConnectorId × Nat)}
    (h : limits.lookup id = some limit) : id ∈ limits.map (·.1) := by
  induction limits with
  | nil => cases h
  | cons entry limits ih =>
    rw [List.lookup_cons] at h
    split at h
    · rename_i same
      have same : id = entry.1 := by simpa using same
      exact same ▸ List.mem_cons_self
    · exact List.mem_cons_of_mem _ (ih h)

private theorem checkEnergyLimit_path (a : Actor) (id : ConnectorId)
    (stops : id ∈ a.limited → allow.stops id = true) :
    Path allow (a.ledger rest .none) ((a.checkEnergyLimit id).ledger rest .none) := by
  unfold checkEnergyLimit
  split
  · rename_i limit c limited _
    split
    · exact (removeLimit_path a id).trans
        (stopTransaction_path { a with invalidLimits := removeAt id a.invalidLimits } id _ _ _
          (stops (mem_of_lookup limited)))
    · exact .refl
  · exact .refl

/-! ## Start -/

/-- `abandon_start` once the connector has given up the transaction. -/
theorem abandonStart_quiet (a : Actor) (id : ConnectorId) :
    Quiet (a.withConnector id fun c => (abandonedConnector c).applied ((a.ledger [] .none).scheduled id))
      (a.abandonStart id) := by
  unfold abandonStart
  refine .trans ?_ (statusChanged_quiet _ _)
  exact applyPendingAvailability_quiet (fun _ => rfl) (fun _ => rfl) (.inl fun _ _ => rfl)

/-- A start failed: the connector that still waits for it gives it up. -/
theorem abandonStart_path (a : Actor) (id : ConnectorId) (localId : TxId)
    (ours : (a.findConnector id).bind (·.txId) = some localId) :
    Path allow (a.ledger rest (.startFailed id localId)) ((a.abandonStart id).ledger rest .none) := by
  refine .trans ?_ ((abandonStart_quiet a id).path rest .none)
  obtain ⟨c, found, held⟩ := Option.bind_eq_some_iff.mp ours
  have step : Trans allow _ _ := .abandonStart (a.ledger rest _) id localId c rfl found held
  convert ReflTransGen.single step using 1
  rw [withConnector_ledger]
  unfold Ledger.update
  split <;> rfl

/-- A start that was answered is not kept: the connector that still waits for it gives it up. -/
theorem refuseStart_path (a : Actor) (id : ConnectorId) (localId : TxId) (pending : PendingStart)
    (transactionId : Int) (ours : (a.findConnector id).bind (·.txId) = some localId) :
    Path allow (a.ledger rest (.opened id localId pending transactionId))
      ((a.abandonStart id).ledger rest (.refused localId.localKey false)) := by
  refine .trans ?_ ((abandonStart_quiet a id).path rest _)
  obtain ⟨c, found, held⟩ := Option.bind_eq_some_iff.mp ours
  have step : Trans allow _ _ :=
    .refuseOpened (a.ledger rest (.opened id localId pending transactionId)) id localId transactionId c rfl
      found held
  convert ReflTransGen.single step using 1
  rw [withConnector_ledger]
  unfold Ledger.update
  split <;> rfl

/-- No connector waits for the start any more. -/
theorem lost_of_not_ours {a : Actor} {id : ConnectorId} {localId : TxId}
    (h : (a.findConnector id).bind (·.txId) ≠ some localId) (c : ConnectorSnapshot)
    (found : a.findConnector id = some c) : c.txId ≠ some localId := by
  rw [found] at h
  exact h

/-- A start fails. -/
theorem onStartResult_error_path (id : ConnectorId) (localId : TxId) (pending : PendingStart)
    (done : Done) (error : CallError) (a : Actor) :
    Path allow (a.ledger rest (.startFailed id localId))
      ((onStartResult id localId pending done (.error error) a).ledger rest .none) := by
  unfold onStartResult
  dsimp only
  refine .trans ?_ ((runDone_quiet _ _ _).path rest .none)
  split
  · rename_i ours
    exact abandonStart_path a id localId (by simpa using ours)
  · rename_i lost
    exact .single (.loseStart _ id localId rfl (lost_of_not_ours (by simpa using lost)))

private theorem activateStart_path (a : Actor) (id : ConnectorId) (localId : TxId) (pending : PendingStart)
    (transactionId : Int) {c : ConnectorSnapshot} (found : a.findConnector id = some c)
    (held : c.txId = some localId) (usable : c.status ≠ .faulted)
    (unused : allow.reuse = true ∨ ¬stopQueued a.queue id (.csms transactionId))
    (plugged : allow.bare = true ∨ c.evConnected = true) (starts : allow.starts = true) :
    Path allow (a.ledger rest (.opened id localId pending transactionId))
      ((a.activateStart id localId pending transactionId).ledger rest .none) := by
  unfold activateStart
  dsimp only
  refine .trans ?_ ((beginCharging_quiet _ id _).path rest .none)
  have step : Trans allow _ _ := .activate
    (a.ledger rest (.opened id localId pending transactionId)) id localId transactionId c
    { txId := .csms transactionId, idTag := pending.idTag, startedAt := pending.startedAt
      meterStartWh := pending.meterStartWh, session := localId.localKey } rfl found held rfl rfl usable
      plugged starts unused a.now
  convert ReflTransGen.single step using 1
  rw [a.findConnector_withConnector id (by exact fun _ => rfl), found, withConnector_now, withConnector_ledger, record_ledger,
    withConnector_ledger, update_note, update_update _ id _ _ (by exact fun _ => rfl)]
  unfold Ledger.update
  split <;> rfl

/-- An answered start is taken over by its connector. -/
def takesOver (a : Actor) (id : ConnectorId) (localId : TxId) (accepted : Bool) : Bool :=
  (accepted || !a.registry.stopTransactionOnInvalidId) &&
    (a.findConnector id).any fun c => decide (c.txId = some localId) &&
      !decide (c.status = .faulted ∨ c.status = .unavailable)

/-- A start that is taken over: what the permissions ask for. -/
structure MayTakeOver (allow : Allow) (a : Actor) (id : ConnectorId) (transactionId : Int) : Prop where
  unused : allow.reuse = true ∨ ¬stopQueued a.queue id (.csms transactionId)
  plugged : allow.bare = true ∨ ∀ c, a.findConnector id = some c → c.evConnected = true
  starts : allow.starts = true

private theorem decidedStart_path (a : Actor) (id : ConnectorId) (localId : TxId) (pending : PendingStart)
    (done : Done) (transactionId : Int) (decision : AuthorizationDecision)
    (may : a.takesOver id localId decision.accepted = true → MayTakeOver allow a id transactionId) :
    Path allow (a.ledger rest (.opened id localId pending transactionId))
      ((a.decidedStart id localId pending done transactionId decision).ledger rest .none) := by
  unfold decidedStart
  by_cases ours : (a.findConnector id).bind (·.txId) = some localId
  · simp only [ours, decide_true, if_true, Bool.and_true, Bool.not_true, Bool.or_false]
    split
    · refine .trans ?_ ((runDone_quiet _ _ _).path rest .none)
      exact (refuseStart_path a id localId pending _ ours).trans (sendStopFor_path _ _ false _ _ _ _)
    · rename_i kept
      split
      · refine .trans ?_ ((runDone_quiet _ _ _).path rest .none)
        exact (refuseStart_path a id localId pending _ ours).trans (sendStopFor_path _ _ false _ _ _ _)
      · rename_i usable
        refine .trans ?_ ((runDone_quiet _ _ _).path rest .none)
        obtain ⟨c, found, held⟩ := Option.bind_eq_some_iff.mp ours
        have usable : ¬(c.status = .faulted ∨ c.status = .unavailable) := by
          simpa [found] using usable
        have may := may (by
          unfold takesOver
          rw [found]
          cases accepted : decision.accepted <;> simp_all)
        refine (activateStart_path a id localId pending _ found held (fun h => usable (.inl h)) may.unused
          (may.plugged.imp_right fun plugged => plugged c found) may.starts).trans ?_
        split
        · exact limitEnergyOnInvalidId_path _ _ may.starts
        · exact .refl
  · simp only [ours, decide_false, Bool.not_false, Bool.or_true, if_true]
    refine .trans ?_ ((runDone_quiet _ _ _).path rest .none)
    exact .head (.refuseLost (a.ledger rest (.opened id localId pending transactionId)) id localId transactionId
      rfl (lost_of_not_ours ours))
      (sendStopFor_path a _ false _ _ _ _)

/-- A start is answered. -/
theorem onStartResult_ok_path (id : ConnectorId) (localId : TxId) (pending : PendingStart)
    (done : Done) (response : StartTransactionResponse) (a : Actor)
    (may : a.takesOver id localId (applyOnlineIdTagInfo pending.idTag response.idTagInfo a.now a.authCache
      a.registry).2.accepted = true → MayTakeOver allow a id response.transactionId) :
    Path allow (a.ledger rest (.opened id localId pending response.transactionId))
      ((onStartResult id localId pending done (.ok response) a).ledger rest .none) := by
  unfold onStartResult
  dsimp only
  have same (hand : Hand) : (a.applyIdTagInfo pending.idTag response.idTagInfo).1.ledger rest hand =
      { a.ledger rest hand with unsaved := true } := applyIdTagInfo_ledger a _ _ rest hand
  have decision : (a.applyIdTagInfo pending.idTag response.idTagInfo).2 =
      (applyOnlineIdTagInfo pending.idTag response.idTagInfo a.now a.authCache a.registry).2 := rfl
  have registry : (a.applyIdTagInfo pending.idTag response.idTagInfo).1.registry = a.registry :=
    markDirty_registry _
  rw [← decision] at may
  generalize a.applyIdTagInfo pending.idTag response.idTagInfo = applied at same registry may
  have queue : applied.1.queue = a.queue := congrArg Ledger.queue (same .none)
  have find : applied.1.findConnector = a.findConnector := congrArg Ledger.find (same .none)
  refine .head (.quiet (.touch _)) ?_
  rw [← same]
  refine decidedStart_path _ id localId pending done _ _ fun takes => ?_
  have may := may (by
    unfold takesOver at takes ⊢
    rwa [find, registry] at takes)
  exact ⟨queue ▸ may.unused, find ▸ may.plugged, may.starts⟩

/-- A start passes the checks while the station cannot talk to the CSMS. -/
def startsOffline (a : Actor) (id : ConnectorId) (idTag : IdTag) : Bool :=
  !a.canTalk && (a.connector id).any fun c => (a.startRefusal id c idTag).isNone

/-- A start of `tag` at `id` may go into the queue: what the permissions ask for. -/
def MayStart (allow : Allow) (a : Actor) (id : ConnectorId) (tag : IdTag) : Prop :=
  allow.starts = true ∧
    (a.startsOffline id tag = true → allow.evict = true ∨ ¬evictsRunning a.queue)

/-- The same for a remote start that waits for `decision`. -/
def MayRemoteStart (allow : Allow) (a : Actor) (id : ConnectorId) (tag : IdTag)
    (decision : AuthorizationDecision) : Prop :=
  decision.accepted = true →
  canRemoteStart (a.connector id) tag
    (decision.idTagInfo.parentIdTag.or (knownParent tag a.now a.localList a.authCache)) a.now = true →
  MayStart allow a id tag

/-- What a flush leaves alone: everything but the registers. -/
theorem flushMeters_fields (a : Actor) : ∃ f : ConnectorSnapshot → ConnectorSnapshot,
    a.flushMeters.connectors = a.connectors.map f ∧
    (∀ c, f c = { c with meterWh := (f c).meterWh }) ∧
    a.flushMeters.localList = a.localList ∧ a.flushMeters.authCache = a.authCache ∧
    a.flushMeters.registry = a.registry ∧ a.flushMeters.now = a.now ∧
    a.flushMeters.link = a.link ∧ a.flushMeters.registration = a.registration := by
  refine ⟨fun c => { c with
    meterWh := saturatingAdd c.meterWh ((flushedWh a.settleMeters.meters c).getD 0) }, ?_⟩
  unfold flushMeters
  dsimp only
  split
  · unfold markDirty setTimerIfIdle
    repeat' split
    all_goals exact ⟨rfl, fun _ => rfl, rfl, rfl, rfl, rfl, rfl, rfl⟩
  · exact ⟨rfl, fun _ => rfl, rfl, rfl, rfl, rfl, rfl, rfl⟩

/-- The checks of a start do not see a flush. -/
theorem flushMeters_checks (a : Actor) : ∃ f : ConnectorSnapshot → ConnectorSnapshot,
    (∀ id, a.flushMeters.connector id = (a.connector id).map f) ∧
    (∀ c idTag, a.flushMeters.startRejection (f c) idTag = a.startRejection c idTag) ∧
    ∀ id c idTag, a.flushMeters.startRefusal id (f c) idTag = a.startRefusal id c idTag := by
  obtain ⟨f, connectors, meter, localList, authCache, registry, now, link, registration⟩ :=
    a.flushMeters_fields
  have rejection (c : ConnectorSnapshot) (idTag : IdTag) :
      a.flushMeters.startRejection (f c) idTag = a.startRejection c idTag := by
    rw [meter c]
    unfold startRejection
    rw [localList, authCache, now]
    rfl
  refine ⟨f, fun id => ?_, rejection, fun id c idTag => ?_⟩
  · have keeps (c : ConnectorSnapshot) : ((f c).id == id) = (c.id == id) := by rw [meter c]
    unfold connector
    rw [connectors, Lists.find?_map_keeps keeps]
    split <;> rfl
  · have talk : a.flushMeters.canTalk = a.canTalk := by simp only [canTalk, link, registration]
    unfold startRefusal
    rw [rejection, localList, authCache, registry, now, talk]

/-- A flush does not decide about a start. -/
theorem startsOffline_of_flushMeters {a : Actor} {id : ConnectorId} {idTag : IdTag}
    {c : ConnectorSnapshot} (found : a.flushMeters.connector id = some c)
    (passed : a.flushMeters.startRefusal id c idTag = none) (offline : a.flushMeters.canTalk = false) :
    a.startsOffline id idTag = true := by
  obtain ⟨-, -, -, -, -, -, -, link, registration⟩ := a.flushMeters_fields
  have talk : a.flushMeters.canTalk = a.canTalk := by simp only [canTalk, link, registration]
  obtain ⟨f, connector_eq, -, refusal⟩ := a.flushMeters_checks
  rw [connector_eq] at found
  obtain ⟨d, present, rfl⟩ := Option.map_eq_some_iff.mp found
  rw [refusal] at passed
  simp [startsOffline, ← talk, offline, present, passed]

private theorem startOnline_path (a : Actor) (id : ConnectorId) (pending : PendingStart) (done : Done)
    (talk : a.canTalk = true) :
    Path allow (a.ledger rest (.start id pending))
      ((a.startOnline id pending done).ledger rest .none) := by
  unfold startOnline
  refine .trans ((statusChanged_quiet a id).path rest _) ?_
  have talk' : (a.statusChanged id).canTalk = true := (statusChanged_quiet a id).canTalk.trans talk
  rw [call_of_canTalk _ talk']
  exact .single (.sendStart _ id pending _ done rfl (newCall_sends_of_canTalk _ talk' (.inl rfl) _ _ _) rfl)

private theorem startOffline_path (a : Actor) (id : ConnectorId) (pending : PendingStart) (done : Done)
    (key : Nat) (tx : pending.txId = .loc key) (room : allow.evict = true ∨ ¬evictsRunning a.queue)
    {c : ConnectorSnapshot} (found : a.connector id = some c) (held : c.txId = some pending.txId)
    (usable : c.status ≠ .faulted) (plugged : c.evConnected = true) (starts : allow.starts = true) :
    Path allow (a.ledger rest (.start id pending))
      ((a.startOffline id pending done).ledger rest .none) := by
  unfold startOffline
  dsimp only
  refine .trans ?_ (((flushNow_quiet _).trans (runDone_quiet _ _ _)).path rest .none)
  rw [pushQueue_ledger]
  have charging : Path allow (a.ledger rest (.start id pending))
      ((a.beginCharging id pending).ledger rest (.charging id pending)) := by
    refine .trans ?_ ((beginCharging_quiet a id _).path rest _)
    rw [withConnector_ledger, findConnector_physical _ (physical_of_connector found), found]
    exact .single (.charge (a.ledger rest _) id pending c rfl found held usable plugged starts a.now)
  have queue : (a.beginCharging id pending).queue = a.queue :=
    (beginCharging_quiet a id _).queue.trans (withConnector_queue _ id _)
  refine charging.trans (.single (.queueStart _ id pending _ rfl ?_ rfl rfl rfl rfl ?_ starts))
  · rw [tx]
    rfl
  · change allow.evict = true ∨ ¬evictsRunning (a.beginCharging id pending).queue
    rw [queue]
    exact room

/-- The checks passed: the connector is guarded and the session noted. -/
theorem openStart_path (a : Actor) (id : ConnectorId) (c : ConnectorSnapshot) (idTag : IdTag)
    (found : a.connector id = some c) (idle : c.transaction.isIdle = true) (usable : c.status ≠ .faulted)
    (operative : c.availability = .operative) (starts : allow.starts = true)
    (passes : ∀ r, c.reservation = some r → (a.openStart id c idTag).1.Passes r) :
    Path allow (a.ledger rest .none)
      ((a.openStart id c idTag).2.ledger rest (.start id (a.openStart id c idTag).1)) := by
  have step : Trans allow _ _ := .openStart (a.ledger rest .none) id c (a.openStart id c idTag).1 rfl
    found idle rfl usable operative starts passes
  have opened : Path allow (a.ledger rest .none)
      ((((a.nextKey).2.withConnector id (startedConnector (a.openStart id c idTag).1)).record
        (.sessionStarted id (a.nextLocal + 1))).ledger rest (.start id (a.openStart id c idTag).1)) := by
    convert ReflTransGen.single step using 1
    unfold nextKey withConnector record Ledger.update
    dsimp only
    split <;> rfl
  exact opened.trans (removeLimit_path _ id)

private theorem startChecked_path (a : Actor) (id : ConnectorId) (c : ConnectorSnapshot) (idTag : IdTag)
    (done : Done) (found : a.connector id = some c) (idle : c.transaction.isIdle = true)
    (usable : c.status ≠ .faulted) (operative : c.availability = .operative) (starts : allow.starts = true)
    (passes : ∀ r, c.reservation = some r → (a.openStart id c idTag).1.Passes r)
    (room : a.canTalk = false → allow.evict = true ∨ ¬evictsRunning a.queue) :
    Path allow (a.ledger rest .none) ((a.startChecked id c idTag done).ledger rest .none) := by
  have physical := physical_of_connector found
  unfold startChecked
  dsimp only
  have opened : Path allow (a.ledger rest .none) _ := a.openStart_path id c idTag found idle usable
    operative starts passes
  refine opened.trans ?_
  have tx : (a.openStart id c idTag).1.txId = .loc (a.nextLocal + 1) := rfl
  have talk : (a.openStart id c idTag).2.canTalk = a.canTalk := withConnector_canTalk _ _ _
  have queue : (a.openStart id c idTag).2.queue = a.queue := by
    unfold openStart nextKey withConnector record
    dsimp only
    split <;> rfl
  have found' : (a.openStart id c idTag).2.connector id =
      some (startedConnector (a.openStart id c idTag).1 c) :=
    connector_withConnector (a.nextKey).2 (fun _ => rfl) found
  generalize a.openStart id c idTag = started at tx talk queue found'
  obtain ⟨pending, b⟩ := started
  dsimp only at tx talk queue found' ⊢
  split
  · rename_i online
    exact startOnline_path b id pending done (talk.trans online)
  · rename_i offline
    refine startOffline_path b id pending done _ tx (queue ▸ room (by simpa using offline)) found' rfl ?_ rfl
      starts
    unfold startedConnector
    dsimp only
    split
    · exact nofun
    · exact usable

/-- What a start has been checked for. -/
theorem startRejection_none {a : Actor} {c : ConnectorSnapshot} {idTag : IdTag}
    (h : a.startRejection c idTag = none) :
    c.transaction.isIdle = true ∧ c.availability = .operative ∧ c.status ≠ .faulted := by
  unfold startRejection at h
  dsimp only at h
  split at h
  · cases h
  · rename_i idle
    split at h
    · cases h
    · rename_i available
      split at h
      · cases h
      · rename_i usable
        refine ⟨by simpa [TransactionState.blocksNewTransaction] using idle, ?_, usable⟩
        cases availability : c.availability with
        | operative => rfl
        | inoperative => exact absurd (.inl availability) available

/-- A start that is not refused may use the reservation of its connector. -/
theorem startRejection_passes {a : Actor} {id : ConnectorId} {c : ConnectorSnapshot} {idTag : IdTag}
    (h : a.startRejection c idTag = none) (r : Reservation) (held : c.reservation = some r) :
    (a.openStart id c idTag).1.Passes r := by
  have free : reservedForOther c idTag (knownParent idTag a.now a.localList a.authCache) a.now = false := by
    unfold startRejection at h
    dsimp only at h
    repeat' split at h
    all_goals try cases h
    simpa using ‹¬reservedForOther _ _ _ _ = true›
  unfold reservedForOther liveReservation at free
  rw [held] at free
  by_cases expired : r.isExpired a.now = true
  · exact .inr expired
  · have live : r.isExpired a.now = false := by simpa using expired
    left
    change r.accepts idTag (knownParent idTag a.now a.localList a.authCache) = true
    simpa [live] using free

/-- A start is refused, sent or queued. -/
theorem startTransaction_path (a : Actor) (id : ConnectorId) (idTag : IdTag) (done : Done)
    (may : MayStart allow a id idTag) :
    Path allow (a.ledger rest .none) ((a.startTransaction id idTag done).ledger rest .none) := by
  unfold startTransaction
  refine .trans (a.flushMeters_quiet.path rest .none) ?_
  dsimp only
  split
  · exact (runDone_quiet _ _ _).path rest .none
  · rename_i c found
    split
    · exact (runDone_quiet _ _ _).path rest .none
    · rename_i passed
      have passed' : a.flushMeters.startRejection c idTag = none := by
        unfold startRefusal at passed
        split at passed
        · cases passed
        · assumption
      obtain ⟨idle, operative, usable⟩ := startRejection_none passed'
      refine startChecked_path _ id c idTag done found idle usable operative may.1
        (startRejection_passes passed') fun offline => ?_
      rw [a.flushMeters_quiet.queue]
      exact may.2 (startsOffline_of_flushMeters found passed offline)

/-! ## Authorize -/

private theorem runAuthDone_path (done : AuthDone) (result : Except StationError AuthorizationDecision)
    (a : Actor)
    (may : ∀ id tag profile decision, done = .remoteStart id tag profile → result = .ok decision →
      MayRemoteStart allow a id tag decision) :
    Path allow (a.ledger rest .none) ((runAuthDone done result a).ledger rest .none) := by
  unfold runAuthDone
  split
  · exact (reply_quiet _ _ _).path rest .none
  · exact (reply_quiet _ _ _).path rest .none
  · rename_i id tag profile decision
    dsimp only
    split
    · rename_i accepted
      split
      · rename_i gate
        refine .trans ((record_quiet a (.responded (.remoteStart true)) rfl).path rest .none) ?_
        exact startTransaction_path _ id tag _ (may id tag profile decision rfl rfl accepted gate)
      · exact (record_quiet a _ rfl).path rest .none
    · exact (record_quiet a _ rfl).path rest .none
  · exact (record_quiet a _ rfl).path rest .none

/-- The answer to an `Authorize` is in the cache. -/
def cached (a : Actor) (idTag : IdTag) (info : IdTagInfo) : Actor :=
  { a with authCache := (applyOnlineIdTagInfo idTag info a.now a.authCache a.registry).1 }

/-- The decision about an answered `Authorize`. -/
def answered (a : Actor) (idTag : IdTag) (info : IdTagInfo) : AuthorizationDecision :=
  (applyOnlineIdTagInfo idTag info a.now a.authCache a.registry).2

/-- A write that is put off changes no permission. -/
theorem MayRemoteStart.markDirty {a : Actor} {id : ConnectorId} {tag : IdTag}
    {decision : AuthorizationDecision} (may : MayRemoteStart allow a id tag decision) :
    MayRemoteStart allow a.markDirty id tag decision := by
  unfold Actor.markDirty setTimerIfIdle
  repeat' split
  all_goals exact may

/-- An answer about an id tag may let a remote start begin. -/
theorem onAuthorizeResult_path (idTag : IdTag) (done : AuthDone) (result : Except CallError IdTagInfo)
    (a : Actor)
    (may : ∀ id tag profile info, done = .remoteStart id tag profile → result = .ok info →
      MayRemoteStart allow (a.cached idTag info) id tag (a.answered idTag info)) :
    Path allow (a.ledger rest .none) ((onAuthorizeResult idTag done result a).ledger rest .none) := by
  unfold onAuthorizeResult
  split
  · exact runAuthDone_path _ _ _ fun _ _ _ _ _ ok => by cases ok
  · rename_i info
    dsimp only
    refine .head (.quiet (.touch _)) ?_
    rw [← applyIdTagInfo_ledger a idTag info]
    refine runAuthDone_path _ _ _ fun id tag profile decision hdone ok => ?_
    obtain rfl := Except.ok.inj ok
    exact (may id tag profile info hdone rfl).markDirty

/-- An id tag that is looked up may let a remote start begin. -/
theorem authorize_path (a : Actor) (idTag : IdTag) (done : AuthDone)
    (may : ∀ id tag profile, done = .remoteStart id tag profile → a.canTalk = false →
      MayRemoteStart allow a id tag
        (authorizeOffline idTag a.now a.localList a.authCache a.registry)) :
    Path allow (a.ledger rest .none) ((a.authorize idTag done).ledger rest .none) := by
  unfold authorize
  split
  · rename_i offline
    refine runAuthDone_path _ _ _ fun id tag profile decision hdone ok => ?_
    obtain rfl := Except.ok.inj ok
    exact may id tag profile hdone (by simpa using offline)
  · rename_i talk
    have talk : a.canTalk = true := by simpa using talk
    rw [call_of_canTalk a talk]
    exact .single (.quiet (.send _ _ (newCall_sends_of_canTalk a talk (.inl rfl) _ _ _) rfl))

/-! ## Samples -/

private theorem abandonCall_path (a : Actor) (token : Nat) (sample : token ∈ a.sampleCalls) :
    Path allow (a.ledger rest hand) ((a.abandonCall token).ledger rest hand) := by
  unfold abandonCall
  split
  · exact .refl
  · rename_i call found
    obtain rfl : call.token = token := by simpa using List.find?_some found
    exact .single (.abandon (a.ledger rest hand) call found sample)

private theorem abandonCall_sampleCalls (a : Actor) (token : Nat) :
    (a.abandonCall token).sampleCalls = a.sampleCalls := by
  unfold abandonCall
  split <;> rfl

/-- Which tokens are remembered does not matter to an abandoned CALL. -/
theorem abandonCall_forgets (a : Actor) (token : Nat) (kept : List Nat) :
    ({ a with sampleCalls := kept } : Actor).abandonCall token =
      { a.abandonCall token with sampleCalls := kept } := by
  unfold abandonCall
  dsimp only
  split <;> rfl

private theorem abandonCalls_path (tokens : List Nat) (a : Actor) (samples : ∀ t ∈ tokens, t ∈ a.sampleCalls) :
    Path allow (a.ledger rest hand) ((tokens.foldl abandonCall a).ledger rest hand) := by
  induction tokens generalizing a with
  | nil => exact .refl
  | cons token tokens ih =>
    refine (abandonCall_path a token (samples token (by simp))).trans (ih _ fun t mem => ?_)
    rw [abandonCall_sampleCalls]
    exact samples t (by simp [mem])

private theorem abandonCalls_forget (tokens : List Nat) (a : Actor) (kept : List Nat) :
    tokens.foldl abandonCall ({ a with sampleCalls := kept } : Actor) =
      { tokens.foldl abandonCall a with sampleCalls := kept } := by
  induction tokens generalizing a with
  | nil => rfl
  | cons token tokens ih =>
    rw [List.foldl_cons, abandonCall_forgets, ih]
    rfl

private theorem abandonCalls_sampleCalls (tokens : List Nat) (a : Actor) :
    (tokens.foldl abandonCall a).sampleCalls = a.sampleCalls := by
  induction tokens generalizing a with
  | nil => rfl
  | cons token tokens ih => rw [List.foldl_cons, ih, abandonCall_sampleCalls]

private theorem makeRoomForSample_path (a : Actor) :
    Path allow (a.ledger rest hand) (a.makeRoomForSample.ledger rest hand) := by
  unfold makeRoomForSample
  dsimp only
  rw [abandonCalls_forget]
  refine .trans (abandonCalls_path _ a fun t mem => ?_) (.single (.trim _ _ fun t mem => ?_))
  · exact List.mem_of_mem_filter (List.mem_of_mem_take mem)
  · change t ∈ (List.foldl abandonCall a _).sampleCalls
    rw [abandonCalls_sampleCalls]
    exact List.mem_of_mem_filter (List.mem_of_mem_drop mem)

/-- Abandoned samples do not decide about talking. -/
theorem makeRoomForSample_canTalk (a : Actor) : a.makeRoomForSample.canTalk = a.canTalk := by
  have fold (tokens : List Nat) (b : Actor) : (tokens.foldl abandonCall b).canTalk = b.canTalk := by
    induction tokens generalizing b with
    | nil => rfl
    | cons token tokens ih =>
      rw [List.foldl_cons, ih]
      unfold abandonCall
      split <;> rfl
  unfold makeRoomForSample
  rw [fold]
  rfl

/-- The end of a sample may stop a transaction. -/
theorem onMeterValuesResult_path (id : ConnectorId) (reply : Option Reply)
    (result : Except CallError Unit) (a : Actor)
    (stops : id ∈ a.limited → allow.stops id = true) :
    Path allow (a.ledger rest .none) ((onMeterValuesResult id reply result a).ledger rest .none) := by
  unfold onMeterValuesResult
  have replied (outcome : Except StationError Outcome) (b : Actor)
      (limits : b.limited = a.limited) (same : b.ledger rest .none = a.ledger rest .none) :
      Path allow (a.ledger rest .none) (((b.replyIf reply outcome).checkEnergyLimit id).ledger rest .none) := by
    refine .trans ?_ (checkEnergyLimit_path _ id ?_)
    · rw [← same]
      exact (replyIf_quiet b reply outcome).path rest .none
    · rw [(replyIf_quiet b reply outcome).limits, limits]
      exact stops
  split
  · exact replied _ _ rfl rfl
  · exact replied _ _ rfl rfl

/-- The CALL of a sample goes out and its token is remembered if a timer asked for it. -/
theorem sendSample_path (a : Actor) (id : ConnectorId) (request : MeterValuesRequest)
    (reply : Option Reply) (talk : a.canTalk = true) :
    Path allow (a.ledger rest hand)
      ((a.sendSample id request reply).ledger rest hand) := by
  unfold sendSample
  rw [call_of_canTalk a talk]
  dsimp only
  have sent : Path allow (a.ledger rest hand)
      ((a.accept .station (.meterValues request) (.meterValues id reply)).ledger rest hand) :=
    .single (.quiet (.send _ _ (newCall_sends_of_canTalk a talk (.inl rfl) _ _ _) rfl))
  split
  · rename_i timer
    obtain rfl : reply = none := by simp_all
    refine sent.tail (.sample _ (a.newCall .station (.meterValues request) (.meterValues id none)) id
      ?_ rfl)
    change _ ∈ a.calls ++ [_]
    simp [newCall]
  · exact sent

/-- A sample may stop a transaction that has used up its energy. -/
theorem sampleMeter_path (a : Actor) (id : ConnectorId) (context : ReadingContext) (deltaWh : Nat)
    (measurands : List Measurand) (reply : Option Reply)
    (stops : id ∈ a.limited → allow.stops id = true) :
    Path allow (a.ledger rest .none)
      ((a.sampleMeter id context deltaWh measurands reply).ledger rest .none) := by
  unfold sampleMeter
  refine .trans (a.flushMeters_quiet.path rest .none) ?_
  rw [← a.flushMeters_quiet.limits] at stops
  generalize a.flushMeters = a at stops
  dsimp only
  split
  · exact (replyIf_quiet _ _ _).path rest .none
  · rename_i c _
    generalize hmetered : (if 0 < deltaWh then _ else _) = metered
    have quiet : Quiet a metered := by
      rw [← hmetered]
      have advanced : Quiet a
          (a.withConnector id fun c => { c with meterWh := saturatingAdd c.meterWh deltaWh }) :=
        withConnector_quiet a id (fun c => .of_same) fun _ => rfl
      split
      · exact advanced.trans (markDirty_quiet _)
      · exact advanced
    refine .trans (quiet.path rest .none) ?_
    split
    · refine .trans ((replyIf_quiet _ _ _).path rest .none) (checkEnergyLimit_path _ _ ?_)
      rw [(replyIf_quiet _ _ _).limits, quiet.limits]
      exact stops
    · rename_i sendable
      have talk : metered.canTalk = true := by
        simp only [Bool.not_eq_true, Bool.not_eq_false', Bool.and_eq_true] at sendable
        exact sendable.1
      have read := metered.meterReading_quiet id true
      refine .trans (read.path rest .none) ?_
      have talk' : (metered.meterReading id true).1.canTalk = true := read.canTalk.trans talk
      generalize metered.meterReading id true = reading at talk'
      obtain ⟨b, reading⟩ := reading
      dsimp only at talk' ⊢
      split
      · exact (makeRoomForSample_path b).trans
          (sendSample_path _ _ _ _ ((makeRoomForSample_canTalk b).trans talk'))
      · exact sendSample_path _ _ _ _ talk'

end Actor

end KirbyOcpp
