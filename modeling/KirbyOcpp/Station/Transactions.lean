import KirbyOcpp.Station.Calls

/-!
# Transactions: `transactions.rs` and `sampling.rs`

Start, stop, the offline sync, and the samples. Each continuation of a CALL is a function
`on…Result` of its result; `sync_entry` and `run_sync` are defined over the keys that are left, since
a CALL that cannot be sent runs its continuation, and with it the rest of the sync, at once.
-/

namespace KirbyOcpp

/-- A register on the wire: `i64::try_from(wh).unwrap_or(i64::MAX)`. -/
def wireMeter (wh : Nat) : Int := min wh 9223372036854775807

/-- `stop_request`. -/
def stopRequest (info : StopInfo) (wire : Int) : StopTransactionRequest :=
  { idTag := info.idTag, meterStop := wireMeter info.meterStopWh, timestamp := info.timestamp
    transactionId := wire, reason := some info.reason
    transactionData := if info.transactionData.isEmpty then none else some info.transactionData }

/-- `stop_transaction_data`. -/
def stopTransactionData (reading : MeterReading) (timestamp : Instant)
    (sampledData alignedData : List Measurand) : List MeterValue :=
  (if sampledData.isEmpty then []
    else [{ timestamp, reading, measurands := sampledData, context := .transactionEnd }]) ++
  (if alignedData.isEmpty then []
    else [{ timestamp, reading, measurands := alignedData, context := .sampleClock }])

/-- The key inside a local id: the key of the session. -/
def TxId.localKey : TxId → Nat
  | .loc key => key
  | .csms _ => 0

namespace Actor

/-! ## Completion of an operation -/

/-- `set_charging_profile`: stores a profile; persists when accepted. -/
def setChargingProfile (a : Actor) (connector : ConnectorId) (profile : ChargingProfile Rat) :
    Actor × ChargingProfileStatus :=
  let ctx : ProfileContext :=
    { now := a.now, connectorCount := a.connectors.length
      activeTx := (a.findConnector connector).bind (·.txId)
      limits :=
        { maxStackLevel := a.registry.chargeProfileMaxStackLevel
          maxInstalled := a.registry.maxChargingProfilesInstalled
          maxPeriods := a.registry.chargingScheduleMaxPeriods
          allowedUnits := [.A, .W] } }
  let (profiles, status) := ChargingProfileStore.set a.profiles connector profile ctx
  let a := { a with profiles }
  (if status = .accepted then a.markDirty else a, status)

/-- Runs a `Done`. -/
def runDone (done : Done) (result : Except StationError Outcome) (a : Actor) : Actor :=
  match done, result with
  | .reply reply, result => a.reply reply result
  | .ignore, _ => a
  | .remoteStart id (some profile), .ok (.transactionStarted _ tx) =>
    (a.setChargingProfile id { profile with transactionId := tx.wire }).1
  | .remoteStart _ _, _ => a

/-- `apply_online_id_tag_info` and `mark_dirty`: the decision about an answered idTag. -/
def applyIdTagInfo (a : Actor) (idTag : IdTag) (info : IdTagInfo) : Actor × AuthorizationDecision :=
  let (authCache, decision) := applyOnlineIdTagInfo idTag info a.now a.authCache a.registry
  (({ a with authCache }).markDirty, decision)

/-! ## Meter timers -/

/-- A periodic sample is due on this connector. -/
def isSampling (a : Actor) (id : ConnectorId) : Bool :=
  (a.findConnector id).any fun c =>
    match c.transaction with
    | .pendingStart _ | .active _ => true
    | _ => false

/-- (Re)arms the periodic timers of running transactions and the aligned timer. -/
def rescheduleMetering (a : Actor) : Actor :=
  let a := a.connectors.foldl (fun a' c =>
    if decide (0 < a.registry.meterValueSampleInterval) && a.isSampling c.id then
      a'.setTimerIfIdle (.meterPeriodic c.id)
    else a'.cancelTimer (.meterPeriodic c.id)) a
  if 0 < a.registry.clockAlignedDataInterval then a.setTimerIfIdle .meterAligned
  else a.cancelTimer .meterAligned

/-! ## Availability -/

/-- Applies an availability change that was waiting for the transaction on `id` to end. -/
def applyPendingAvailability (a : Actor) (id : ConnectorId) : Actor :=
  match (a.findConnector id).bind (·.pendingAvailability) with
  | none => a
  | some kind =>
    ((a.withConnector id fun c =>
      let c := { c with pendingAvailability := none, availability := kind }
      { c with status := statusAfterAvailabilityChange c kind }).flushNow).statusChanged id

/-! ## The queue -/

/-- `next_key`: the next number for local ids and queue keys, with the actor that has drawn it. -/
def nextKey (a : Actor) : Nat × Actor := (a.nextLocal + 1, { a with nextLocal := a.nextLocal + 1 })

/-- Adds an entry to the offline queue. -/
def pushQueue (a : Actor) (entry : OfflineTx) : Actor :=
  let (queue, dropped) := OfflineQueue.push a.queue entry
  let a := { a with queue }
  match dropped with
  | none => a
  | some dropped =>
    ({ a with syncFailures := removeAt dropped.key a.syncFailures }).record (.dropped dropped)

/-- Queues the stop of `tx`; with the key of its queue entry. -/
def queueStop (a : Actor) (id : ConnectorId) (tx : TxId) (idTag : IdTag) (startedAt : Instant)
    (meterStartWh : Nat) (info : StopInfo) : Nat × Actor :=
  match OfflineQueue.findByTxOn a.queue id tx with
  | some entry =>
    let queue := OfflineQueue.updateFirst (OfflineQueue.isTxOn id tx)
      (fun entry => { entry with stop := some info }) a.queue
    (entry.key, { a with queue })
  | none =>
    let (key, a) := a.nextKey
    (key, a.pushQueue
      { key, connector := id, txId := tx, idTag, startedAt, meterStartWh, reservationId := none
        startPending := false, stop := some info })

/-! ## Start and stop helpers -/

/-- What `begin_charging` makes of a connector: it charges and its reservation is consumed. -/
def chargingConnector (idTag : IdTag) (c : ConnectorSnapshot) : ConnectorSnapshot :=
  { clearReservation c with status := .charging, lastIdTag := some idTag }

/-- Connector goes `Charging`; reservation consumed; meters armed. -/
def beginCharging (a : Actor) (id : ConnectorId) (pending : PendingStart) : Actor :=
  let a := a.record (.charged id pending ((a.findConnector id).bind (·.reservation)) a.now)
  ((((a.withConnector id (chargingConnector pending.idTag)).cancelTimer
    (.reservationExpiry id)).flushNow).rescheduleMetering).statusChanged id

/-- What `abandon_start` makes of a connector. -/
def abandonedConnector (c : ConnectorSnapshot) : ConnectorSnapshot :=
  { c with
    transaction := .idle
    status := if c.status = .charging then (if c.evConnected then .preparing else .available)
              else c.status }

/-- A start that did not happen: no transaction, EV still connected. -/
def abandonStart (a : Actor) (id : ConnectorId) : Actor :=
  ((a.withConnector id abandonedConnector).applyPendingAvailability id).statusChanged id

/-- Fire-and-forget `StopTransaction` for a transaction the CSMS opened but we do not keep. -/
def sendStopFor (a : Actor) (session : Nat) (tx : Int) (meterStopWh : Nat) (idTag : Option IdTag)
    (reason : StopReason) : Actor :=
  a.call .station
    (.stopTransaction
      { idTag, meterStop := wireMeter meterStopWh, timestamp := a.now, transactionId := tx
        reason := some reason, transactionData := none })
    (.closeRefused session) fun _ a => a

/-- What `finish_stop` makes of a connector: it forgets the transaction. -/
def forgetTransaction (tx : TxId) (c : ConnectorSnapshot) : ConnectorSnapshot :=
  if c.txId = some tx then { c with transaction := .idle } else c

/-- The TxProfiles of `tx` are removed. -/
def endProfiles (a : Actor) (tx : TxId) : Actor :=
  let profiles := ChargingProfileStore.onTransactionEnded a.profiles tx
  if profiles.length < a.profiles.length then ({ a with profiles }).markDirty else { a with profiles }

/-- The transaction on `id` is over (delivered or queued). -/
def finishStop (a : Actor) (id : ConnectorId) (tx : TxId) : Actor :=
  (((((a.withConnector id (forgetTransaction tx)).endProfiles tx).applyPendingAvailability
    id).flushNow).statusChanged id)

/-- The Central System refused the idTag of a started transaction that goes on. -/
def limitEnergyOnInvalidId (a : Actor) (id : ConnectorId) : Actor :=
  let a := a.flushMeters
  match a.findConnector id with
  | none => a
  | some c =>
    if a.registry.maxEnergyOnInvalidId = 0 then a
    else
      let limit := saturatingAdd c.meterWh a.registry.maxEnergyOnInvalidId
      { a with invalidLimits := insertAt id limit a.invalidLimits }

/-! ## Offline sync -/

/-- Retry rounds an entry gets after its first failed round. -/
def syncRoundLimit (a : Actor) : Nat := max a.registry.transactionMessageAttempts 1

/-- Remembers that the CSMS did not process the queued message `key`. -/
def recordSyncFailure (a : Actor) (key : Nat) (error : CallError) : Actor :=
  if error.isLinkError then a
  else { a with syncFailures := insertAt key (a.failures key + 1) a.syncFailures, syncFailed := true }

/-- Drops the queued stop `key` after its last retry round. -/
def giveUp (a : Actor) (key : Nat) : Actor :=
  let a := match OfflineQueue.get a.queue key with
    | some entry => ({ a with queue := OfflineQueue.remove a.queue key }).record (.gaveUp entry)
    | none => a
  ({ a with syncFailures := removeAt key a.syncFailures }).flushNow

/-- While the link is up, queued messages the CSMS failed to process are tried again. -/
def armSyncRetry (a : Actor) : Actor :=
  if !a.canTalk then a
  else
    let rounds := a.syncRoundLimit
    let exhausted := (a.queue.filter fun e => !e.startPending && decide (rounds < a.failures e.key)).map
      (·.key)
    let a := exhausted.foldl giveUp a
    let retryable := a.queue.any fun e =>
      decide (0 < a.failures e.key) && decide (a.failures e.key ≤ rounds)
    if retryable then a.setTimer .syncRetry else a

def armSyncRetryIfIdle (a : Actor) : Actor :=
  if a.syncOutstanding = 0 then
    if a.syncFailed then ({ a with syncFailed := false }).armSyncRetry else a
  else a

/-- Meter timers and status re-send, once the offline sync is complete. -/
def finishBootAccepted (a : Actor) : Actor :=
  if a.registration ≠ some .accepted then a
  else
    let a := (a.rescheduleMetering.resendAllStatuses).record .bootFinished
    if a.startupEventPending then
      ({ a with startupEventPending := false }).securityEvent "StartupOfTheDevice" none
    else a.flushSecurityEvents

def syncFinished (a : Actor) : Actor :=
  let boot := a.syncBoot
  let a := { a with syncOutstanding := 0, syncBoot := false }
  (if boot then a.finishBootAccepted else a).armSyncRetryIfIdle

/-- What `sync_entry` and `sync_stop` have to send for `key`, with the continuation. -/
def startOf (entry : OfflineTx) : Request × Cont :=
  (.startTransaction
    { connectorId := entry.connector, idTag := entry.idTag, meterStart := wireMeter entry.meterStartWh
      reservationId := entry.reservationId, timestamp := entry.startedAt },
    .syncStart entry.key)

def stopOf (entry : OfflineTx) : Option (Request × Cont) :=
  match entry.stop, entry.txId.wire with
  | some info, some wire => some (.stopTransaction (stopRequest info wire), .syncStop entry.key info)
  | _, _ => none

/-- The CALL of `sync_entry` for `key`; `none` when there is nothing to send. -/
def syncCallOf (a : Actor) (key : Nat) : Option (Request × Cont) :=
  (OfflineQueue.get a.queue key).bind fun entry =>
    if entry.startPending then some (startOf entry) else stopOf entry

/-- `run_sync` with the keys that are left. A CALL that cannot be sent counts as a failure and
completes its entry at once (`on_sync_start` and the closure of `sync_stop` with an error). -/
def runSyncWith : List Nat → Actor → Actor
  | [], a => ({ a with syncKeys := [] }).syncFinished
  | key :: keys, a =>
    let a := { a with syncKeys := keys }
    match a.syncCallOf key with
    | some (request, continuation) =>
      a.call .station request continuation fun error a =>
        let a := a.recordSyncFailure key error
        runSyncWith keys { a with syncOutstanding := a.syncOutstanding - 1 }
    | none => runSyncWith keys { a with syncOutstanding := a.syncOutstanding - 1 }

/-- Starts the next entry that needs a CALL. -/
def runSync (a : Actor) : Actor := runSyncWith a.syncKeys a

/-- The CALL of one entry has completed. -/
def syncDone (a : Actor) : Actor := ({ a with syncOutstanding := a.syncOutstanding - 1 }).runSync

/-- The entries whose retry rounds are not used up. -/
def syncable (a : Actor) : List Nat :=
  (OfflineQueue.keys a.queue).filter fun key => decide (a.failures key ≤ a.syncRoundLimit)

/-- A sync of the entries `keys` begins. -/
def beginSync (a : Actor) (boot : Bool) (keys : List Nat) : Actor :=
  ({ a with syncOutstanding := keys.length, syncBoot := boot, syncKeys := keys }).record
    (.syncStarted boot keys (OfflineQueue.keys a.queue))

/-- Delivers the queued transactions; with the number of entries being synced. -/
def startOfflineSync (a : Actor) (boot : Bool) : Nat × Actor :=
  if 0 < a.syncOutstanding then (a.syncOutstanding, a)
  else
    let a := a.cancelTimer .syncRetry
    if a.syncable.isEmpty then (0, a)
    else (a.syncable.length, (a.beginSync boot a.syncable).runSync)

def onSyncRetryTimer (a : Actor) : Actor :=
  if a.canTalk then (a.startOfflineSync false).2 else a

/-- The continuation of the `StopTransaction` of a queue entry. -/
def onSyncStop (key : Nat) (result : Except CallError Unit) (a : Actor) : Actor :=
  match result with
  | .ok _ =>
    (({ a with
      queue := OfflineQueue.remove a.queue key
      syncFailures := removeAt key a.syncFailures }).flushNow).syncDone
  | .error error => (a.recordSyncFailure key error).syncDone

/-- Starts the `StopTransaction` CALL of an entry; `none` if there is nothing to send. -/
def syncStop (a : Actor) (key : Nat) : Option Actor :=
  ((OfflineQueue.get a.queue key).bind stopOf).map fun (request, continuation) =>
    a.call .station request continuation fun error => onSyncStop key (.error error)

/-- What `drop_local_transaction` makes of a connector. -/
def droppedConnector (localId : TxId) (c : ConnectorSnapshot) : ConnectorSnapshot :=
  if c.txId = some localId then
    { c with
      transaction := .idle
      status := if c.availability = .inoperative then .unavailable
                else if c.evConnected then .preparing else .available }
  else c

/-- A local transaction the CSMS refused: the connector forgets it. -/
def dropLocalTransaction (a : Actor) (id : ConnectorId) (localId : TxId) : Actor :=
  let a := (a.withConnector id (droppedConnector localId)).cancelTimer (.meterPeriodic id)
  let profiles := ChargingProfileStore.onTransactionEnded a.profiles localId
  (({ a with profiles }).applyPendingAvailability id).statusChanged id

/-- A start that the CSMS acknowledged: what becomes of the connector that holds it. -/
def activatedConnector (localId real : TxId) (entry : OfflineTx) (c : ConnectorSnapshot) :
    ConnectorSnapshot :=
  let active : ActiveTransaction :=
    { txId := real, idTag := entry.idTag, startedAt := entry.startedAt
      meterStartWh := entry.meterStartWh, session := entry.key }
  if c.txId = some localId then { c with transaction := .active active } else c

/-- `on_sync_start`: the CSMS refused the idTag of `entry`. -/
def refuseQueued (a : Actor) (key : Nat) (entry : OfflineTx) (transactionId : Int) : Actor :=
  let a := ({ a with queue := OfflineQueue.remove a.queue key }).record (.startRefused entry)
  let a := a.dropLocalTransaction entry.connector entry.txId
  let meter := (entry.stop.map (·.meterStopWh)).getD entry.meterStartWh
  ((a.sendStopFor key transactionId meter (some entry.idTag) .deAuthorized).flushNow).syncDone

/-- `on_sync_start`: `entry` and the connector that holds it take over the id of the CSMS. -/
def assignQueued (a : Actor) (key : Nat) (entry : OfflineTx) (transactionId : Int) : Actor :=
  let real := TxId.csms transactionId
  let a := { a with queue := OfflineQueue.modify a.queue key fun queued =>
    { queued with txId := real, startPending := false } }
  let a := a.withConnector entry.connector (activatedConnector entry.txId real entry)
  (a.endProfiles entry.txId).flushNow

/-- `on_sync_start` once the idTag is decided. -/
def decidedQueued (a : Actor) (key : Nat) (entry : OfflineTx) (transactionId : Int) (accepted : Bool) :
    Actor :=
  let lenient := !accepted && !a.registry.stopTransactionOnInvalidId
  if !accepted && !lenient then a.refuseQueued key entry transactionId
  else
    let a := a.assignQueued key entry transactionId
    let a := if lenient && entry.stop.isNone then a.limitEnergyOnInvalidId entry.connector else a
    if entry.stop.isSome then (a.syncStop key).getD a.syncDone else a.syncDone

/-- The continuation of the `StartTransaction` of a queue entry. -/
def onSyncStart (key : Nat) (result : Except CallError StartTransactionResponse) (a : Actor) : Actor :=
  match result with
  | .error error => (a.recordSyncFailure key error).syncDone
  | .ok response =>
    match OfflineQueue.get a.queue key with
    | none => a.syncDone
    | some entry =>
      let (a, decision) := a.applyIdTagInfo entry.idTag response.idTagInfo
      ({ a with syncFailures := removeAt key a.syncFailures }).decidedQueued key entry
        response.transactionId decision.accepted

/-! ## Stop -/

/-- The continuation of an online `StopTransaction`. -/
def onStopResult (id : ConnectorId) (tx : TxId) (tag : IdTag) (startedAt : Instant)
    (meterStartWh : Nat) (info : StopInfo) (done : Done) (result : Except CallError Unit) (a : Actor) :
    Actor :=
  match result with
  | .ok _ => runDone done (.ok .done) (a.finishStop id tx)
  | .error error =>
    let (key, a) := a.queueStop id tx tag startedAt meterStartWh info
    runDone done (.error (callFailure error))
      (((a.finishStop id tx).recordSyncFailure key error).armSyncRetryIfIdle)

/-- The transaction a stop is about. -/
structure StopTarget where
  tx : TxId
  startedAt : Instant
  meterStartWh : Nat
  tag : IdTag
  /-- Ghost: the key of the session. -/
  session : Nat

/-- The checks of `stop_transaction`. -/
def stopTarget (a : Actor) (id : ConnectorId) (c : ConnectorSnapshot) :
    Except StationError StopTarget :=
  match c.transaction with
  | .idle => .error (invalid id "has no transaction")
  | .stopping _ => .error (invalid id "transaction is already stopping")
  | .pendingStart p =>
    if !a.queue.any fun e => decide (e.txId = p.txId) then
      .error (invalid id "transaction start is still in progress")
    else .ok { tx := p.txId, startedAt := p.startedAt, meterStartWh := p.meterStartWh, tag := p.idTag
               session := p.txId.localKey }
  | .active t =>
    .ok { tx := t.txId, startedAt := t.startedAt, meterStartWh := t.meterStartWh, tag := t.idTag
          session := t.session }

/-- What a stop of `c` reports. -/
def stopInfo (a : Actor) (c : ConnectorSnapshot) (target : StopTarget) (reason : StopReason)
    (idTag : Option IdTag) (reading : MeterReading) : StopInfo :=
  { idTag := idTag.or c.lastIdTag, meterStopWh := c.meterWh, timestamp := a.now, reason
    transactionData := stopTransactionData reading a.now a.registry.stopTxnSampledData
      a.registry.stopTxnAlignedData
    session := target.session }

/-- A stop passed its checks: the connector leaves the charging states. -/
def noteStop (a : Actor) (id : ConnectorId) (info : StopInfo) (evConnected : Bool)
    (status : ConnectorStatus) : Actor :=
  let a := a.record (.stopRequested id info)
  let a := (a.withConnector id fun c => { c with evConnected, status }).cancelTimer (.meterPeriodic id)
  { a with invalidLimits := removeAt id a.invalidLimits }

/-- The stop goes into the queue. -/
def stopOffline (a : Actor) (id : ConnectorId) (target : StopTarget) (info : StopInfo) (done : Done) :
    Actor :=
  let (_, a) := a.queueStop id target.tx target.tag target.startedAt target.meterStartWh info
  let a := a.finishStop id target.tx
  runDone done (.ok .done) (if a.canTalk then (a.startOfflineSync false).2 else a)

/-- The stop goes to the CSMS. -/
def stopOnline (a : Actor) (id : ConnectorId) (target : StopTarget) (info : StopInfo) (done : Done) :
    Actor :=
  let stopping : StoppingTransaction :=
    { txId := target.tx, idTag := info.idTag, reason := info.reason, stoppedAt := some info.timestamp
      meterStopWh := some info.meterStopWh, session := info.session }
  let a := (a.withConnector id fun c => { c with transaction := .stopping stopping }).statusChanged id
  match target.tx.wire with
  | none => runDone done (.ok .done) a
  | some wire =>
    a.call .station (.stopTransaction (stopRequest info wire))
      (.stopResult id target.tx target.tag target.startedAt target.meterStartWh info done)
      fun error => onStopResult id target.tx target.tag target.startedAt target.meterStartWh info done
        (.error error)

/-- `stop_transaction` past its checks, for connector `c` as it was before. -/
def stopChecked (a : Actor) (id : ConnectorId) (c : ConnectorSnapshot) (target : StopTarget)
    (reason : StopReason) (idTag : Option IdTag) (done : Done) : Actor :=
  let (evConnected, status) := stateAfterStop reason c.evConnected c.availability
  let (a, reading) := a.meterReading id false
  let info := a.stopInfo c target reason idTag reading
  let a := a.noteStop id info evConnected status
  if target.tx.isLocal || !a.canTalk then a.stopOffline id target info done
  else a.stopOnline id target info done

def stopTransaction (a : Actor) (id : ConnectorId) (reason : StopReason) (idTag : Option IdTag)
    (done : Done) : Actor :=
  let a := a.flushMeters
  match a.connector id with
  | none => runDone done (.error (.unknownConnector id)) a
  | some c =>
    match a.stopTarget id c with
    | .error error => runDone done (.error error) a
    | .ok target => a.stopChecked id c target reason idTag done

/-- After the meter advanced: stop a transaction that used up its `MaxEnergyOnInvalidId`. -/
def checkEnergyLimit (a : Actor) (id : ConnectorId) : Actor :=
  match a.invalidLimits.lookup id, a.findConnector id with
  | some limit, some c =>
    if decide (limit ≤ c.meterWh) && !c.transaction.isIdle then
      ({ a with invalidLimits := removeAt id a.invalidLimits }).stopTransaction id .deAuthorized
        c.lastIdTag .ignore
    else a
  | _, _ => a

/-! ## Start -/

/-- The CSMS accepted a start: the transaction runs. -/
def activateStart (a : Actor) (id : ConnectorId) (localId : TxId) (pending : PendingStart)
    (transactionId : Int) : Actor :=
  let active : ActiveTransaction :=
    { txId := .csms transactionId, idTag := pending.idTag, startedAt := pending.startedAt
      meterStartWh := pending.meterStartWh, session := localId.localKey }
  (a.withConnector id fun c => { c with transaction := .active active }).beginCharging id pending

/-- `on_start_result` once the idTag is decided. -/
def decidedStart (a : Actor) (id : ConnectorId) (localId : TxId) (pending : PendingStart) (done : Done)
    (transactionId : Int) (decision : AuthorizationDecision) : Actor :=
  let stillOurs := decide ((a.findConnector id).bind (·.txId) = some localId)
  let lenient := !decision.accepted && stillOurs && !a.registry.stopTransactionOnInvalidId
  if (!decision.accepted && !lenient) || !stillOurs then
    let status := if decision.accepted then .invalid else decision.idTagInfo.status
    let a := if stillOurs then a.abandonStart id else a
    runDone done (.ok (.transactionRejected status))
      (a.sendStopFor localId.localKey transactionId pending.meterStartWh (some pending.idTag)
        .deAuthorized)
  else if (a.findConnector id).any fun c => decide (c.status = .faulted ∨ c.status = .unavailable) then
    runDone done (.error (invalid id "became unavailable while the start was in flight"))
      ((a.abandonStart id).sendStopFor localId.localKey transactionId pending.meterStartWh
        (some pending.idTag) .other)
  else
    let a := a.activateStart id localId pending transactionId
    runDone done (.ok (.transactionStarted id (.csms transactionId)))
      (if lenient then a.limitEnergyOnInvalidId id else a)

/-- The continuation of an online `StartTransaction`. -/
def onStartResult (id : ConnectorId) (localId : TxId) (pending : PendingStart) (done : Done)
    (result : Except CallError StartTransactionResponse) (a : Actor) : Actor :=
  match result with
  | .error error =>
    let stillOurs := decide ((a.findConnector id).bind (·.txId) = some localId)
    runDone done (.error (callFailure error)) (if stillOurs then a.abandonStart id else a)
  | .ok response =>
    let (a, decision) := a.applyIdTagInfo pending.idTag response.idTagInfo
    a.decidedStart id localId pending done response.transactionId decision

/-- Why a connector refuses a start. -/
def startRejection (a : Actor) (c : ConnectorSnapshot) (idTag : IdTag) : Option String :=
  let parent := knownParent idTag a.now a.localList a.authCache
  if c.transaction.blocksNewTransaction then some "already has a transaction"
  else if c.availability = .inoperative ∨ c.status = .unavailable then some "is unavailable"
  else if c.status = .faulted then some "is faulted"
  else if c.status = .finishing then some "is finishing; unplug before starting a new transaction"
  else if reservedForOther c idTag parent a.now then some "is reserved for another idTag"
  else none

/-- The checks of `start_transaction`: what it answers when it does not start. -/
def startRefusal (a : Actor) (id : ConnectorId) (c : ConnectorSnapshot) (idTag : IdTag) :
    Option (Except StationError Outcome) :=
  match a.startRejection c idTag with
  | some reason => some (.error (invalid id reason))
  | none =>
    match (preAuthorize idTag a.now a.localList a.authCache a.registry).filter fun d => !d.accepted with
    | some decision => some (.ok (.transactionRejected decision.idTagInfo.status))
    | none =>
      if a.canTalk then none
      else
        let decision := authorizeOffline idTag a.now a.localList a.authCache a.registry
        if decision.accepted then none
        else some (.ok (.transactionRejected decision.idTagInfo.status))

/-- Auto-plug, `Preparing` and the guard state of a start. -/
def startedConnector (pending : PendingStart) (c : ConnectorSnapshot) : ConnectorSnapshot :=
  { c with
    evConnected := true
    status := if c.status = .available then .preparing else c.status
    transaction := .pendingStart pending }

/-- A start passed its checks: a key is drawn and the connector guarded. -/
def openStart (a : Actor) (id : ConnectorId) (c : ConnectorSnapshot) (idTag : IdTag) :
    PendingStart × Actor :=
  let (key, a) := a.nextKey
  let pending : PendingStart :=
    { txId := .loc key, idTag, startedAt := a.now, meterStartWh := c.meterWh
      reservationId := c.reservation.map (·.id)
      parentIdTag := knownParent idTag a.now a.localList a.authCache }
  let a := (a.withConnector id (startedConnector pending)).record (.sessionStarted id key)
  (pending, { a with invalidLimits := removeAt id a.invalidLimits })

/-- The start goes into the queue. -/
def startOffline (a : Actor) (id : ConnectorId) (pending : PendingStart) (done : Done) : Actor :=
  let a := (a.beginCharging id pending).pushQueue
    { key := pending.txId.localKey, connector := id, txId := pending.txId, idTag := pending.idTag
      startedAt := pending.startedAt, meterStartWh := pending.meterStartWh
      reservationId := pending.reservationId, startPending := true, stop := none }
  runDone done (.ok (.transactionStarted id pending.txId)) a.flushNow

/-- The start goes to the CSMS. -/
def startOnline (a : Actor) (id : ConnectorId) (pending : PendingStart) (done : Done) : Actor :=
  (a.statusChanged id).call .station
    (.startTransaction
      { connectorId := id, idTag := pending.idTag, meterStart := wireMeter pending.meterStartWh
        reservationId := pending.reservationId, timestamp := pending.startedAt })
    (.startResult id pending.txId pending done)
    fun error => onStartResult id pending.txId pending done (.error error)

/-- `start_transaction` past its checks, for connector `c` as it was before. -/
def startChecked (a : Actor) (id : ConnectorId) (c : ConnectorSnapshot) (idTag : IdTag) (done : Done) :
    Actor :=
  let online := a.canTalk
  let (pending, a) := a.openStart id c idTag
  if online then a.startOnline id pending done else a.startOffline id pending done

def startTransaction (a : Actor) (id : ConnectorId) (idTag : IdTag) (done : Done) : Actor :=
  let a := a.flushMeters
  match a.connector id with
  | none => runDone done (.error (.unknownConnector id)) a
  | some c =>
    match a.startRefusal id c idTag with
    | some answer => runDone done answer a
    | none => a.startChecked id c idTag done

/-! ## Authorize -/

/-- Runs the completion of an `Authorize`. -/
def runAuthDone (done : AuthDone) (result : Except StationError AuthorizationDecision) (a : Actor) :
    Actor :=
  match done, result with
  | .reply reply, .ok decision => a.reply reply (.ok (.authorized decision))
  | .reply reply, .error error => a.reply reply (.error error)
  | .remoteStart id tag profile, .ok decision =>
    if decision.accepted then
      let parent := decision.idTagInfo.parentIdTag.or (knownParent tag a.now a.localList a.authCache)
      if canRemoteStart (a.connector id) tag parent a.now then
        (a.record (.responded (.remoteStart true))).startTransaction id tag (.remoteStart id profile)
      else a.record (.responded (.remoteStart false))
    else a.record (.responded (.remoteStart false))
  | .remoteStart _ _ _, .error _ => a.record (.responded (.remoteStart false))

/-- The continuation of an `Authorize`. -/
def onAuthorizeResult (idTag : IdTag) (done : AuthDone) (result : Except CallError IdTagInfo)
    (a : Actor) : Actor :=
  match result with
  | .error error => runAuthDone done (.error (callFailure error)) a
  | .ok info =>
    let (a, decision) := a.applyIdTagInfo idTag info
    runAuthDone done (.ok decision) a

def authorize (a : Actor) (idTag : IdTag) (done : AuthDone) : Actor :=
  if !a.canTalk then
    runAuthDone done (.ok (authorizeOffline idTag a.now a.localList a.authCache a.registry)) a
  else
    a.call .station (.authorize idTag) (.authorize idTag done)
      fun error => onAuthorizeResult idTag done (.error error)

/-! ## Samples -/

/-- Most timer-driven `MeterValues` calls that may await an answer at the same time. -/
def maxPendingSamples : Nat := 16

/-- The call with this token is pending. -/
def isPending (a : Actor) (token : Nat) : Bool := a.calls.any fun call => call.token == token

/-- Drops the call `token` with its continuation. -/
def abandonCall (a : Actor) (token : Nat) : Actor :=
  match a.calls.find? fun call => call.token == token with
  | none => a
  | some call =>
    ({ a with
      calls := a.calls.filter fun call => !(call.token == token)
      sampleOverflowWarned := true }).record (.abandoned call)

/-- Abandons the oldest in-flight timer-driven samples until one more fits. -/
def makeRoomForSample (a : Actor) : Actor :=
  let samples := a.sampleCalls.filter a.isPending
  let limit := max maxPendingSamples a.connectors.length
  let excess := samples.length + 1 - limit
  (samples.take excess).foldl abandonCall { a with sampleCalls := samples.drop excess }

/-- The continuation of a `MeterValues` of `sample_meter`. -/
def onMeterValuesResult (id : ConnectorId) (reply : Option Reply) (result : Except CallError Unit)
    (a : Actor) : Actor :=
  let a := match result with
    | .ok _ => { a with sampleOverflowWarned := false }
    | .error _ => a
  let answer : Except StationError Outcome := match result with
    | .ok _ => .ok .done
    | .error error => .error (callFailure error)
  (a.replyIf reply answer).checkEnergyLimit id

/-- The CALL of a sample; the token of a timer-driven one is remembered. -/
def sendSample (a : Actor) (id : ConnectorId) (request : MeterValuesRequest) (reply : Option Reply) :
    Actor :=
  let token := a.nextCallToken
  let a := a.call .station (.meterValues request) (.meterValues id reply)
    fun error => onMeterValuesResult id reply (.error error)
  if reply.isNone && a.isPending token then { a with sampleCalls := a.sampleCalls ++ [token] } else a

/-- Advances the meter of `id` by `deltaWh` and sends one sample, if it can be sent. -/
def sampleMeter (a : Actor) (id : ConnectorId) (context : ReadingContext) (deltaWh : Nat)
    (measurands : List Measurand) (reply : Option Reply) : Actor :=
  let a := a.flushMeters
  match a.findConnector id with
  | none => a.replyIf reply (.error (.unknownConnector id))
  | some c =>
    let a := a.withConnector id fun c => { c with meterWh := saturatingAdd c.meterWh deltaWh }
    let a := if 0 < deltaWh then a.markDirty else a
    if !(a.canTalk && !c.txId.any TxId.isLocal) then
      (a.replyIf reply (.ok .done)).checkEnergyLimit id
    else
      let (a, reading) := a.meterReading id true
      let request : MeterValuesRequest :=
        { connectorId := id, transactionId := c.txId.bind TxId.wire
          meterValue := [{ timestamp := a.now, reading, measurands, context }] }
      (if reply.isNone then a.makeRoomForSample else a).sendSample id request reply

end Actor

end KirbyOcpp
