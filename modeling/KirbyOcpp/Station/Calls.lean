import KirbyOcpp.Station.Actor

/-!
# Outbound CALLs, status notifications and the meters: `calls.rs`, `status.rs`, `power.rs`

`call` hands a CALL to the connection and keeps its continuation, or runs the continuation at once
with the reason why the CALL cannot be sent. The argument `onFail` is that continuation applied to an
error.
-/

namespace KirbyOcpp

namespace Actor

/-! ## CALLs -/

/-- Whether a message of `origin` may be sent in the current registration state. -/
def maySend (a : Actor) (isBoot : Bool) (origin : Origin) : Bool :=
  match origin, a.registration with
  | .raw, _ => true
  | _, some .accepted => true
  | .triggered, some .pending => true
  | _, _ => isBoot

/-- How often the task of a CALL tries at most. -/
def callAttempts (a : Actor) (origin : Origin) (request : Request) : Nat :=
  if decide (origin ≠ .raw) && request.isTransactionMessage then
    max a.registry.transactionMessageAttempts 1
  else 1

/-- `call_raw` past its checks: the CALL is pending. -/
def accept (a : Actor) (origin : Origin) (request : Request) (continuation : Cont) : Actor :=
  let call : PendingCall :=
    { token := a.nextCallToken, generation := a.link.generation, origin, request, continuation
      attempts := a.callAttempts origin request }
  { a with
    calls := a.calls ++ [call]
    nextCallToken := a.nextCallToken + 1
    history := .called call :: a.history }

/-- `call_raw`: sends a CALL. If it cannot be sent at all, the continuation runs immediately. -/
def call (a : Actor) (origin : Origin) (request : Request) (continuation : Cont)
    (onFail : CallError → Actor → Actor) : Actor :=
  if !a.link.conn then onFail .notConnected a
  else if !a.maySend request.isBoot origin then onFail .notRegistered a
  else a.accept origin request continuation

/-! ## Persistence -/

/-- Something worth persisting changed: write soon. -/
def markDirty (a : Actor) : Actor :=
  if !a.persistence.store then a
  else ({ a with persistence := { a.persistence with dirty := true } }).setTimerIfIdle .persistFlush

/-- A secret changed: write the secrets file soon. -/
def markSecretsDirty (a : Actor) : Actor :=
  ({ a with persistence := { a.persistence with secretsDirty := true } }).markDirty

/-- What `build_persisted` keeps of a connector. -/
def persistedConnector (c : ConnectorSnapshot) : PersistedConnector :=
  { id := c.id, status := c.status, availability := c.availability
    pendingAvailability := c.pendingAvailability, evConnected := c.evConnected
    meterWh := c.meterWh, lastIdTag := c.lastIdTag, reservation := c.reservation
    transaction := c.transaction }

/-- `build_persisted`. -/
def buildPersisted (a : Actor) : PersistedStation :=
  { chargePointAvailability := a.chargePoint.availability
    connectorCount := a.connectors.length
    connectors := a.connectors.map persistedConnector
    localAuthorizationList := a.localList
    authorizationCache := a.authCache
    chargingProfiles := a.profiles
    offlineQueue := a.queue
    configuration := a.registry
    securityEvents := a.securityEvents }

/-! ## Meters -/

def powerModel (a : Actor) : PowerModel Rat :=
  .fromConfig a.config.nominalPowerW a.config.voltageV a.config.phases

/-- The transaction of a connector and its start, as the power model sees them. -/
def transactionContext : TransactionState → Option TxId × Option Instant
  | .active t => (some t.txId, some t.startedAt)
  | .pendingStart t => (some t.txId, some t.startedAt)
  | _ => (none, none)

def chargingConnectors (a : Actor) : Nat :=
  (a.connectors.filter fun c => decide (c.status = .charging)).length

def powerRequest (a : Actor) (id : ConnectorId) : PowerRequest Rat :=
  let context := ((a.findConnector id).map fun c => transactionContext c.transaction).getD (none, none)
  { connector := id, activeTx := context.1, txStartedAt := context.2, model := a.powerModel
    chargingConnectors := a.chargingConnectors }

/-- The energy of the span since `runtime` was settled; `none` if it is not integrated. -/
def spanEnergy (a : Actor) (id : ConnectorId) (runtime : MeterRuntime) : Option Rat :=
  let elapsed := max (a.mono - runtime.last) 0
  if runtime.charging && decide (elapsed ≠ 0) then
    some (energyWh a.profiles (a.powerRequest id) runtime.lastUtc (runtime.lastUtc + elapsed))
  else none

/-- One turn of the loop in `settle_meters`: the new integration state of connector `c`. -/
def settledRuntime (a : Actor) (c : ConnectorSnapshot) : MeterRuntime :=
  let charging := decide (c.status = .charging)
  match a.meters.lookup c.id with
  | none =>
    { last := a.mono, lastUtc := a.now, charging, pendingWh := 0, carryWh := 0
      sampleBaseWh := c.meterWh }
  | some runtime =>
    let pendingWh := runtime.pendingWh + (a.spanEnergy c.id runtime).getD 0
    { last := a.mono, lastUtc := a.now, charging, pendingWh, carryWh := runtime.carryWh
      sampleBaseWh :=
        if charging && !runtime.charging then c.meterWh + runtime.carryWh + pendingWh
        else runtime.sampleBaseWh }

/-- Ghost: what a settlement does for connector `c`. -/
def settlementOf (a : Actor) (c : ConnectorSnapshot) : Settlement :=
  { connector := c.id, since := (a.meters.lookup c.id).map (·.last), «until» := a.mono
    energyWh := (a.meters.lookup c.id).bind (a.spanEnergy c.id)
    charging := decide (c.status = .charging) }

/-- Integrates the energy of every connector up to now. -/
def settleMeters (a : Actor) : Actor :=
  let settle := fun meters (c : ConnectorSnapshot) => insertAt c.id (a.settledRuntime c) meters
  { a with
    meters := a.connectors.foldl settle a.meters
    settlements := a.connectors.map a.settlementOf ++ a.settlements }

/-- `u64::MAX`. -/
def u64Max : Nat := 18446744073709551615

/-- `u64::saturating_add`. -/
def saturatingAdd (a b : Nat) : Nat := min (a + b) u64Max

/-- The whole Wh that a flush adds to the register of `c`, if there is energy to flush. -/
def flushedWh (meters : List (ConnectorId × MeterRuntime)) (c : ConnectorSnapshot) : Option Nat :=
  (meters.lookup c.id).bind fun runtime =>
    if runtime.pendingWh ≤ 0 then none
    else some ⌊runtime.carryWh + runtime.pendingWh⌋.toNat

/-- The integration state after a flush. -/
def flushedRuntime (runtime : MeterRuntime) : MeterRuntime :=
  if runtime.pendingWh ≤ 0 then runtime
  else
    let total := runtime.carryWh + runtime.pendingWh
    { runtime with pendingWh := 0, carryWh := total - ⌊total⌋ }

/-- Settles, then adds the integrated energy to the registers of the connectors. -/
def flushMeters (a : Actor) : Actor :=
  let a := a.settleMeters
  let changed := a.connectors.any fun c => (flushedWh a.meters c).any fun whole => decide (1 ≤ whole)
  let a := { a with
    connectors := a.connectors.map fun c =>
      { c with meterWh := saturatingAdd c.meterWh ((flushedWh a.meters c).getD 0) }
    meters := a.meters.map fun (id, runtime) =>
      (id, if a.connectors.any fun c => c.id == id then flushedRuntime runtime else runtime) }
  if changed then a.markDirty else a

/-- The reading of one connector, without a flush. -/
def connectorReading (a : Actor) (c : ConnectorSnapshot) : MeterReading :=
  let offered := a.powerModel.effectiveW (limitWAt a.profiles (a.powerRequest c.id) a.now)
  let charging := decide (c.status = .charging)
  let base : Rat := ((a.meters.lookup c.id).map (·.sampleBaseWh)).getD c.meterWh
  { energyWh := c.meterWh, charging, powerW := if charging then offered else 0, offeredW := offered
    intervalWh := max (c.meterWh - base) 0 }

/-- The sum of two readings. -/
def addReading (r s : MeterReading) : MeterReading :=
  { energyWh := r.energyWh + s.energyWh, charging := r.charging || s.charging
    powerW := r.powerW + s.powerW, offeredW := r.offeredW + s.offeredW
    intervalWh := r.intervalWh + s.intervalWh }

/-- The reading of connector `id` (`0` is the whole station) after a flush. With `advanceInterval`
the interval base moves to the current register. -/
def meterReading (a : Actor) (id : ConnectorId) (advanceInterval : Bool) : Actor × MeterReading :=
  let a := a.flushMeters
  let read := a.connectors.filter fun c => isStation id || c.id == id
  let reading := read.foldl (fun reading c => addReading reading (a.connectorReading c))
    { energyWh := 0, charging := false, powerW := 0, offeredW := 0, intervalWh := 0 }
  let advance (entry : ConnectorId × MeterRuntime) : ConnectorId × MeterRuntime :=
    match read.find? fun c => c.id == entry.1 with
    | some c => (entry.1, { entry.2 with sampleBaseWh := c.meterWh })
    | none => entry
  (if advanceInterval then { a with meters := a.meters.map advance } else a, reading)

/-! ## Writes -/

/-- The debounce timer fired, or a flush was requested: start a write if needed. -/
def flushPersistence (a : Actor) : Actor :=
  let a := a.flushMeters
  if !a.persistence.store || !a.persistence.dirty then a
  else if a.persistence.inFlight then
    { a with persistence := { a.persistence with queued := true } }
  else
    { a with
      persistence := { a.persistence with dirty := false, inFlight := true, secretsDirty := false }
      written := a.buildPersisted :: a.written }

/-- An important change: write now. -/
def flushNow (a : Actor) : Actor := (a.markDirty.cancelTimer .persistFlush).flushPersistence

/-- A state file write finished. -/
def onSaved (a : Actor) (ok : Bool) : Actor :=
  let a := { a with persistence :=
    { a.persistence with
      inFlight := false
      dirty := a.persistence.dirty || !ok
      secretsDirty := a.persistence.secretsDirty || !ok } }
  if a.persistence.queued then
    ({ a with persistence := { a.persistence with queued := false } }).flushPersistence
  else a

/-! ## Status notifications -/

/-- `StatusKey::of`. -/
def statusKeyOf (c : ConnectorSnapshot) : StatusKey :=
  { status := c.status, errorCode := c.errorCode, info := c.info, vendorId := c.vendorId
    vendorErrorCode := c.vendorErrorCode }

/-- What to do about a changed connector state. -/
inductive Plan where
  | nothing | cancel
  | send (timestamp : Instant)
  | defer
deriving DecidableEq

/-- `StatusTracker::plan_change`. -/
def planChange (tracker : StatusTracker) (current : StatusKey) (now : Instant) (minimum : Nat) :
    StatusTracker × Plan :=
  if tracker.lastSent = some current then ({ tracker with pending := none }, .cancel)
  else if minimum = 0 then ({ tracker with pending := none }, .send now)
  else if tracker.pending.any fun pending => decide (pending.1 = current) then (tracker, .nothing)
  else ({ tracker with pending := some (current, now) }, .defer)

/-- `StatusTracker::take_due`. -/
def takeDue (tracker : StatusTracker) (current : StatusKey) : StatusTracker × Option Instant :=
  match tracker.pending with
  | none => (tracker, none)
  | some pending =>
    ({ tracker with pending := none },
      if tracker.lastSent ≠ some current then some pending.2 else none)

/-- `StatusTracker::mark_failed`. -/
def markFailed (tracker : StatusTracker) (key : StatusKey) : StatusTracker :=
  if tracker.lastSent = some key then { tracker with lastSent := none } else tracker

/-- Whether a `StatusNotification` of `origin` may go out now. -/
def canSendStatus (a : Actor) (origin : Origin) : Bool := a.link.conn && a.maySend false origin

/-- The continuation of a `StatusNotification`. -/
def onStatusResult (id : ConnectorId) (key : StatusKey) (reply : Option Reply)
    (result : Except CallError Unit) (a : Actor) : Actor :=
  match result with
  | .ok _ => a.replyIf reply (.ok .done)
  | .error error =>
    (a.setTracker id (markFailed (a.tracker id) key)).replyIf reply (.error (callFailure error))

def dispatchStatus (a : Actor) (id : ConnectorId) (key : StatusKey) (timestamp : Instant)
    (origin : Origin) (reply : Option Reply) : Actor :=
  let request : StatusNotificationRequest :=
    { connectorId := id, errorCode := key.errorCode, info := key.info, status := key.status
      timestamp := some timestamp, vendorId := key.vendorId, vendorErrorCode := key.vendorErrorCode }
  (a.setTracker id { a.tracker id with lastSent := some key }).call origin
    (.statusNotification request) (.status id key reply)
    fun error => onStatusResult id key reply (.error error)

/-- The connector's reportable state may have changed: notify according to the discipline. -/
def statusChanged (a : Actor) (id : ConnectorId) : Actor :=
  if !a.canSendStatus .station then a
  else match (a.findConnector id).map statusKeyOf with
    | none => a
    | some key =>
      let (tracker, plan) := planChange (a.tracker id) key a.now a.registry.minimumStatusDuration
      let a := a.setTracker id tracker
      match plan with
      | .nothing => a
      | .cancel => a.cancelTimer (.statusDebounce id)
      | .send timestamp =>
        (a.cancelTimer (.statusDebounce id)).dispatchStatus id key timestamp .station none
      | .defer => a.setTimer (.statusDebounce id)

/-- The debounce timer of `id` fired. -/
def statusTimerFired (a : Actor) (id : ConnectorId) : Actor :=
  match (a.findConnector id).map statusKeyOf with
  | none => a
  | some key =>
    if !a.canSendStatus .station then a.setTracker id { a.tracker id with pending := none }
    else
      let (tracker, due) := takeDue (a.tracker id) key
      let a := a.setTracker id tracker
      match due with
      | none => a
      | some timestamp => a.dispatchStatus id key timestamp .station none

/-- Sends the current state of `id` regardless of debounce and last-sent value. -/
def sendStatusForced (a : Actor) (id : ConnectorId) (origin : Origin) (reply : Option Reply) : Actor :=
  match (a.findConnector id).map statusKeyOf with
  | none => a.replyIf reply (.error (.unknownConnector id))
  | some key =>
    let a := a.cancelTimer (.statusDebounce id)
    let a := a.setTracker id { a.tracker id with pending := none }
    a.dispatchStatus id key a.now origin reply

/-- After `BootNotification` was accepted: connector 0 first, then every connector. -/
def resendAllStatuses (a : Actor) : Actor :=
  (station :: a.connectors.map (·.id)).foldl (fun a id => a.sendStatusForced id .station none) a

/-- `MinimumStatusDuration` became 0: send what was waiting for its timer, in the order of the connectors. -/
def flushPendingStatuses (a : Actor) : Actor :=
  (((a.trackers.filter fun entry => entry.2.pending.isSome).map (·.1)).insertionSort (· ≤ ·)).foldl
    (fun a id => (a.cancelTimer (.statusDebounce id)).statusTimerFired id) a

/-- The connection is gone: drop debounce state. -/
def resetStatusTracking (a : Actor) : Actor :=
  let isDebounce : TimerKey → Bool
    | .statusDebounce _ => true
    | _ => false
  { a.cancelTimersWhere isDebounce with trackers := a.trackers.map fun entry => (entry.1, {}) }

/-! ## Security events -/

/-- Most security events kept while offline. -/
def maxQueuedEvents : Nat := 100

/-- Appends `event`, dropping the oldest entries beyond the bound. -/
def pushBounded (queue : List PendingSecurityEvent) (event : PendingSecurityEvent) :
    List PendingSecurityEvent :=
  let queue := queue ++ [event]
  queue.drop (queue.length - maxQueuedEvents)

/-- What `push_bounded` drops for `event`. -/
def shedBy (queue : List PendingSecurityEvent) (event : PendingSecurityEvent) : List PendingSecurityEvent :=
  let queue := queue ++ [event]
  queue.take (queue.length - maxQueuedEvents)

/-- `push_bounded` on the queue of the actor. -/
def queueEvent (a : Actor) (event : PendingSecurityEvent) : Actor :=
  ({ a with securityEvents := pushBounded a.securityEvents event }).record
    (.pushed a.securityEvents event)

/-- The continuation of a `SecurityEventNotification`. -/
def onSecurityEventResult (event : PendingSecurityEvent) (result : Except CallError Unit) (a : Actor) :
    Actor :=
  match result with
  | .ok _ => a
  | .error error =>
    if error.isLinkError then
      let a := a.queueEvent event
      ({ a with
        securityEvents := a.securityEvents.insertionSort fun e f => e.timestamp ≤ f.timestamp }).markDirty
    else a

/-- Sends the queued security events if the station is registered. -/
def flushSecurityEvents (a : Actor) : Actor :=
  if !a.canTalk || a.securityEvents.isEmpty then a
  else
    let send := fun (a : Actor) event =>
      a.call .station (.securityEventNotification event) (.securityEvent event)
        fun error => onSecurityEventResult event (.error error)
    a.securityEvents.foldl send ({ a with securityEvents := [] }).markDirty

/-- Reports a security event: queued, then sent as soon as the station is registered. -/
def securityEvent (a : Actor) (eventType : String) (techInfo : Option String) : Actor :=
  let event : PendingSecurityEvent := { eventType, timestamp := a.now, techInfo }
  ((a.record (.raised event)).queueEvent event).markDirty.flushSecurityEvents

end Actor

end KirbyOcpp
