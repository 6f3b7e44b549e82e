import KirbyOcpp.Station.Commands

/-!
# The actor loop: `actor.rs`, `persistence.rs`

One iteration of the loop, the graceful shutdown, and the start of a process with or without a state
file. Everything that wakes the actor is an `Input`; the outside world may send any input at any time.
-/

namespace KirbyOcpp

/-! ## Inputs -/

/-- A user command (`Shutdown` apart). -/
inductive Command where
  | connect | disconnect | reconnect
  | boot | heartbeat
  | statusNotification (connector : ConnectorId)
  /-- `DataTransfer`, `DiagnosticsStatusNotification`, `FirmwareStatusNotification`. -/
  | userCall (action : String)
  | sendRaw (action : String)
  | requestCertificate (key : Nat)
  | authorize (idTag : IdTag)
  | startTransaction (connector : ConnectorId) (idTag : IdTag)
  | stopTransaction (connector : ConnectorId) (reason : StopReason) (idTag : Option IdTag)
  | meterValues (connector : ConnectorId) (deltaWh : Nat) (measurands : Option (List Measurand))
  | addConnector
  | plugIn (connector : ConnectorId)
  | unplug (connector : ConnectorId)
  | setConnectorStatus (connector : ConnectorId) (status : ConnectorStatus)
  | cycleConnectorStatus (connector : ConnectorId)
  | fault (connector : ConnectorId) (code : ChargePointErrorCode) (info vendorCode : Option String)
  | clearFault (connector : ConnectorId)
  /-- The change the registry accepts, if it does. -/
  | setConfiguration (change : Option Actor.ConfigChange)
  /-- The three edits of the local list: the list they lead to, if they are accepted. -/
  | editLocalList (list : Option LocalAuthList)
  | installChargingProfile (connector : ConnectorId) (profile : ChargingProfile Rat)
  | clearChargingProfiles (id : Option Int)
  | sendSecurityEvent (eventType : String)
  /-- The commands about simulated outcomes and response rules. -/
  | simulation

/-- A CALL of the CSMS that its handler decides. -/
inductive Incoming where
  | remoteStart (connectorId : Option ConnectorId) (idTag : IdTag) (profile : Option (ChargingProfile Rat))
  | remoteStop (transactionId : Int)
  | reset (kind : ResetType)
  | changeAvailability (connector : ConnectorId) (kind : AvailabilityType)
  | unlockConnector (connector : ConnectorId)
  | reserveNow (request : ReserveNowRequest)
  | cancelReservation (id : ReservationId)
  | triggerMessage (message : Actor.MessageTrigger) (connector : Option ConnectorId)
  | setChargingProfile (connector : ConnectorId) (profile : ChargingProfile Rat)
  | clearChargingProfile (filter : ClearChargingProfileRequest)
  | getCompositeSchedule (connector : ConnectorId) (duration : Int) (unit : Option ChargingRateUnitType)
  | changeConfiguration (change : Option Actor.ConfigChange)
  | sendLocalList (list : Option LocalAuthList)
  | clearCache
  | certificateSigned (valid : Bool)
  /-- `InstallCertificate`, `DeleteCertificate`: whether the store changed. -/
  | editCertificates (changed : Bool)
  /-- A CALL that is answered, or ignored by a response rule, and changes nothing. -/
  | other

/-- What wakes the actor. -/
inductive Input where
  | command (command : Command) (reply : Reply)
  | shutdown (reply : Option Reply)
  | incoming (call : Incoming)
  | closed (code : Option Nat)
  /-- A connection attempt ended; `event` is the security event it gives rise to. -/
  | connected (generation : Nat) (ok : Bool) (event : Option String)
  | callDone (token generation : Nat) (result : CallResult)
  | saved (ok : Bool)
  | timer (key : TimerKey)
  /-- A step of the simulated maintenance: a notification, a security event. -/
  | maintenance (notification event : Option String)

/-- An input with the clocks of its iteration. -/
structure Wake where
  input : Input
  now : Instant
  mono : Int

namespace Actor

/-! ## Dispatch -/

/-- Answers a command that completes at once. -/
def answer (result : Actor × Except StationError Outcome) (reply : Reply) : Actor :=
  result.1.reply reply result.2

/-- The outcome of a local edit. -/
def edited (ok : Bool) (reason : String) : Except StationError Outcome :=
  if ok then .ok .done else .error (.invalidArgument reason)

def execute (a : Actor) (command : Command) (reply : Reply) : Actor :=
  match command with
  | .connect => a.connect.reply reply (.ok .done)
  | .disconnect => a.disconnect.reply reply (.ok .done)
  | .reconnect => a.disconnect.connect.reply reply (.ok .done)
  | .boot =>
    if !a.link.conn then a.reply reply (.error .notConnected) else a.sendBoot (some reply)
  | .heartbeat => a.sendHeartbeat .station (some reply)
  | .statusNotification id => a.sendStatusForced id .station (some reply)
  | .userCall action => a.userCall .station action reply
  | .sendRaw action => a.userCall .raw action reply
  | .requestCertificate key => a.requestCertificate key (some reply)
  | .authorize idTag => a.authorize idTag (.reply reply)
  | .startTransaction id idTag => a.startTransaction id idTag (.reply reply)
  | .stopTransaction id reason idTag => a.stopTransaction id reason idTag (.reply reply)
  | .meterValues id deltaWh measurands => a.meterValuesCommand id deltaWh measurands reply
  | .addConnector => let (a, outcome) := a.addConnector; a.reply reply (.ok outcome)
  | .plugIn id => answer (a.plugIn id) reply
  | .unplug id => a.unplug id (.reply reply)
  | .setConnectorStatus id status => answer (a.setStatus id status) reply
  | .cycleConnectorStatus id =>
    match a.findConnector id with
    | none => a.reply reply (.error (.unknownConnector id))
    | some c => answer (a.setStatus id (nextStatus c.status)) reply
  | .fault id code info vendorCode => a.fault id code info vendorCode (.reply reply)
  | .clearFault id => answer (a.clearFault id) reply
  | .setConfiguration change =>
    match change with
    | some change => (a.applyConfigurationChange change).reply reply (.ok .done)
    | none => a.reply reply (edited false "value rejected")
  | .editLocalList list =>
    match list with
    | some localList => (({ a with localList }).flushNow).reply reply (.ok .done)
    | none => a.reply reply (edited false "local list edit rejected")
  | .installChargingProfile id profile =>
    let (a, status) := a.setChargingProfile id profile
    if status = .accepted then a.flushNow.reply reply (.ok .done)
    else a.reply reply (edited false "charging profile not accepted")
  | .clearChargingProfiles id =>
    let (profiles, cleared) := ChargingProfileStore.clear a.profiles { id } a.now
    ({ a with profiles }).flushNow.reply reply (edited (cleared || id.isNone) "no such charging profile")
  | .sendSecurityEvent eventType => (a.securityEvent eventType none).reply reply (.ok .done)
  | .simulation => a.reply reply (.ok .done)

/-- `dispatch_incoming`. -/
def dispatchIncoming (a : Actor) (call : Incoming) : Actor :=
  match call with
  | .remoteStart connectorId idTag profile => a.remoteStart connectorId idTag profile
  | .remoteStop transactionId => a.remoteStop transactionId
  | .reset kind => (a.record (.responded .reset)).performReset kind
  | .changeAvailability id kind => a.changeAvailability id kind
  | .unlockConnector id => a.unlockConnector id
  | .reserveNow request => a.reserve request
  | .cancelReservation id => a.cancel id
  | .triggerMessage message connector => a.triggerMessage message connector
  | .setChargingProfile id profile =>
    let (a, status) := a.setChargingProfile id profile
    a.record (.responded (.chargingProfile status))
  | .clearChargingProfile filter =>
    let (profiles, cleared) := ChargingProfileStore.clear a.profiles filter a.now
    ({ a with profiles }).markDirty.record (.responded (.clearProfile cleared))
  | .getCompositeSchedule id duration unit => a.getCompositeSchedule id duration unit
  | .changeConfiguration change =>
    match change with
    | some change => (a.applyConfigurationChange change).record (.responded (.configuration true))
    | none => a.record (.responded (.configuration false))
  | .sendLocalList list =>
    match list with
    | some localList => (({ a with localList }).flushNow).record (.responded (.localList true))
    | none => a.record (.responded (.localList false))
  | .clearCache =>
    (({ a with authCache := a.authCache.clear }).flushNow).record (.responded .other)
  | .certificateSigned valid => a.certificateSigned valid
  | .editCertificates changed => (if changed then a.flushNow else a).record (.responded .other)
  | .other => a.record (.responded .other)

/-- `on_timer`. -/
def onTimer (a : Actor) (key : TimerKey) : Actor :=
  match key with
  | .heartbeat => a.onHeartbeatTimer
  | .reconnect => a.onReconnectTimer
  | .bootRetry => a.onBootRetryTimer
  | .statusDebounce id => a.statusTimerFired id
  | .persistFlush => a.flushPersistence
  | .meterPeriodic id => a.onMeterPeriodic id
  | .meterAligned => a.onMeterAligned
  | .reservationExpiry _ => a.onReservationTimer
  | .hardReset => a.onHardResetTimer
  | .syncRetry => a.onSyncRetryTimer
  | .certSigning => a.onCertSigningTimer

/-- A step of the simulated maintenance. -/
def onMaintenance (a : Actor) (notification event : Option String) : Actor :=
  let a := match notification with
    | some action => a.call .station (.notification action) .ignore fun _ a => a
    | none => a
  match event with
  | some event => a.securityEvent event none
  | none => a

/-! ## Shutdown -/

/-- Final write at shutdown. -/
def finishPersistence (a : Actor) : Actor :=
  let a := a.cancelTimer .persistFlush
  let p := a.persistence
  if p.store && (p.dirty || p.queued || p.inFlight || p.secretsDirty) then
    { a with persistence := { store := true }, written := a.buildPersisted :: a.written }
  else { a with persistence := { p with inFlight := false } }

/-- `shutdown` up to the failed CALLs: the connection is still there while the continuations run. -/
def drain (a : Actor) : Actor :=
  let a := a.flushMeters
  ({ a with link := { a.link with wanted := false }, timers := [] }).failPendingCalls (.closed none)

/-- `shutdown` past the failed CALLs: no connection, and nothing that runs. -/
def halted (a : Actor) : Actor :=
  { a with
    link := { a.link with connecting := false, generation := a.link.generation + 1, conn := false }
    connection := .disconnected
    registration := none
    stopped := true }

/-- Graceful stop: fail what is in flight, tear the link down, write the state file. -/
def shutdown (a : Actor) (reply : Option Reply) : Actor :=
  a.drain.halted.finishPersistence.replyIf reply (.ok .done)

/-! ## The loop -/

/-- Runs the handler of an input. -/
def handle (a : Actor) (input : Input) : Actor :=
  match input with
  | .command command reply => a.execute command reply
  | .shutdown reply => a.shutdown reply
  | .incoming call => if a.link.conn then a.dispatchIncoming call else a
  | .closed code => a.onClosed code
  | .connected generation ok event => a.onConnectResult generation ok event
  | .callDone token generation result => a.onCallDone token generation result
  | .saved ok => a.onSaved ok
  | .timer key => if key ∈ a.timers then (a.cancelTimer key).onTimer key else a
  | .maintenance notification event => a.onMaintenance notification event

/-- The state in which the handler of `wake` runs. -/
def woken (a : Actor) (wake : Wake) : Actor :=
  ({ a with now := wake.now, mono := wake.mono }).settleMeters

/-- One iteration of the loop. -/
def step (a : Actor) (wake : Wake) : Actor :=
  if a.stopped then a
  else
    let a := (a.woken wake).handle wake.input
    if a.stopped then a else a.settleMeters

/-! ## Start of a process -/

/-- Most connectors a state file may ask for. -/
def maxRestoredConnectors : Nat := 4096

/-- The highest key in the queue. -/
def maxKey (queue : OfflineQueue) : Nat := (OfflineQueue.keys queue).foldr max 0

/-- The saved state of a connector. -/
def restoredConnector (saved : PersistedConnector) (c : ConnectorSnapshot) : ConnectorSnapshot :=
  { c with
    availability := saved.availability
    pendingAvailability := saved.pendingAvailability
    meterWh := saved.meterWh
    lastIdTag := saved.lastIdTag
    evConnected := saved.evConnected
    reservation := saved.reservation
    transaction := match saved.transaction with
      | .active t => .active { t with session := 0 }
      | .stopping t => .stopping { t with session := 0 }
      | other => other
    status := if saved.availability = .inoperative ∧ saved.transaction.isIdle then .unavailable
              else saved.status
    errorCode := if saved.status = .faulted then .otherError else c.errorCode }

/-- A start whose CALL was in flight left no queue entry: it never happened. -/
def withoutLostStart (queue : OfflineQueue) (c : ConnectorSnapshot) : ConnectorSnapshot :=
  match c.transaction with
  | .pendingStart p =>
    if queue.any fun e => decide (e.txId = p.txId) then c
    else
      { c with
        transaction := .idle
        status := if c.availability = .inoperative then .unavailable
                  else if c.evConnected then .preparing else .available }
  | _ => c

/-- The connector whose stop was in flight, without it. -/
def withoutLostStop (c : ConnectorSnapshot) : ConnectorSnapshot :=
  match c.transaction with
  | .stopping _ => { c with transaction := .idle }
  | _ => c

/-- What the queue keeps of a stop that was in flight on `c`. -/
def queueLostStop (now : Instant) (queue : OfflineQueue) (c : ConnectorSnapshot) : OfflineQueue :=
  match c.transaction with
  | .stopping s =>
    let info : StopInfo :=
      { idTag := s.idTag, meterStopWh := s.meterStopWh.getD c.meterWh
        timestamp := s.stoppedAt.getD now, reason := s.reason, transactionData := []
        session := s.session }
    if queue.any (OfflineQueue.isTxOn c.id s.txId) then
      OfflineQueue.updateFirst (OfflineQueue.isTxOn c.id s.txId)
        (fun entry => { entry with stop := some info }) queue
    else
      (OfflineQueue.push queue
        { key := maxKey queue + 1, connector := c.id, txId := s.txId
          idTag := s.idTag.getD { chars := "UNKNOWN".toList }, startedAt := s.stoppedAt.getD now
          meterStartWh := 0, reservationId := none, startPending := false, stop := some info }).1
  | _ => queue

/-- A change that waited for a transaction which no longer exists. -/
def withAvailability (c : ConnectorSnapshot) : ConnectorSnapshot :=
  match c.pendingAvailability with
  | some kind =>
    if c.transaction.isIdle then
      let c := { c with pendingAvailability := none, availability := kind }
      { c with status := statusAfterAvailabilityChange c kind }
    else c
  | none => c

/-- The connectors of a station with `count` connectors. -/
def freshConnectors (count : Nat) : List ConnectorSnapshot :=
  (List.range count).map fun index => newConnector (index + 1)

/-- A queue entry as a new process takes it over: the ghosts are those of an earlier process. -/
def restoredEntry (entry : OfflineTx) : OfflineTx :=
  { entry with stop := entry.stop.map fun info => { info with session := 0 } }

/-- `Persistence::restore` of the connectors. -/
def restoredConnectors (config : StationConfig) (saved : PersistedStation) : List ConnectorSnapshot :=
  let highest := (saved.connectors.map (·.id)).foldr max 0
  let count := max (min (max saved.connectorCount highest) maxRestoredConnectors) config.connectorCount
  saved.connectors.foldl (fun connectors c => updateConnector connectors c.id (restoredConnector c))
    (freshConnectors count)

/-- `StationActor::new`, up to the loop, without a state file. -/
def fresh (config : StationConfig) (registry : ConfigRegistry) (now : Instant) (mono : Int) : Actor :=
  { config, now, mono, registry
    connectors := freshConnectors config.connectorCount
    chargePoint := newConnector station
    nextLocal := (max (numMilliseconds now) 1).toNat
    persistence := { store := config.persist } }

/-- The state `saved` put into the freshly built actor. -/
def restore (a : Actor) (saved : PersistedStation) : Actor :=
  let queue := saved.offlineQueue.map restoredEntry
  let connectors := (restoredConnectors a.config saved).map (withoutLostStart queue)
  let queue := connectors.foldl (queueLostStop a.now) queue
  { a with
    connectors := connectors.map fun c => withAvailability (withoutLostStop c)
    chargePoint := { a.chargePoint with
      availability := saved.chargePointAvailability
      status := chargePointStatus saved.chargePointAvailability .available }
    queue
    securityEvents := saved.securityEvents
    localList := saved.localAuthorizationList
    authCache := saved.authorizationCache
    profiles := ChargingProfileStore.backfillInstalledAt saved.chargingProfiles a.now
    -- a key still present in the restored queue is never reused
    nextLocal := max a.nextLocal (maxKey queue) }

/-- `after_restore`. -/
def afterRestore (a : Actor) : Actor :=
  let a := a.releaseExpiredReservations
  let reserved := (a.connectors.filter fun c => c.reservation.isSome).map (·.id)
  (reserved.foldl armReservation a).rescheduleMetering

/-- The actor when its loop begins. `registry` holds the configured and the restored values. -/
def start (config : StationConfig) (registry : ConfigRegistry) (now : Instant) (mono : Int)
    (saved : Option PersistedStation) : Actor :=
  let a := fresh config registry now mono
  let a := match saved with
    | some saved => a.restore saved
    | none => a
  a.afterRestore.settleMeters

end Actor

end KirbyOcpp
