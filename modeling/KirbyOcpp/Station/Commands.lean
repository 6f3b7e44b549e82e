import KirbyOcpp.Station.Link

/-!
# Commands, requests of the CSMS and timers: `commands.rs`, `handlers/`, `reservations.rs`

What the actor does for each user command, for each CALL of the CSMS and when a timer fires. How a
configuration text or a local list update is checked is not modelled: the command carries what the
check let through.
-/

namespace KirbyOcpp

namespace Actor

/-! ## Connector commands -/

/-- `AddConnector`. -/
def addConnector (a : Actor) : Actor × Outcome :=
  let id := (a.connectors.map (·.id)).foldr max 0 + 1
  let a := { a with connectors := a.connectors ++ [newConnector id] }
  (a.flushNow.statusChanged id, .connectorAdded id)

/-- What `PlugIn` makes of a connector: a suspended transaction resumes. -/
def pluggedConnector (c : ConnectorSnapshot) : ConnectorSnapshot :=
  { c with
    evConnected := true
    status := if !c.transaction.isIdle then .charging
              else if c.reservation.isSome then .reserved else .preparing }

def plugIn (a : Actor) (id : ConnectorId) : Actor × Except StationError Outcome :=
  match a.connector id with
  | none => (a, .error (.unknownConnector id))
  | some c =>
    if c.evConnected then (a, .error (invalid id "an EV is already connected"))
    else if c.availability = .inoperative ∨ c.status = .unavailable ∨ c.status = .faulted then
      (a, .error (invalid id "cannot accept an EV"))
    else
      let a := a.withConnector id pluggedConnector
      let a := if c.transaction.isIdle then a else a.rescheduleMetering
      (a.statusChanged id, .ok .done)

/-- What `Unplug` makes of a connector with a transaction that goes on. -/
def suspendedConnector (c : ConnectorSnapshot) : ConnectorSnapshot :=
  { c with evConnected := false, status := .suspendedEV }

/-- What `Unplug` makes of a connector without a transaction. -/
def unpluggedConnector (c : ConnectorSnapshot) : ConnectorSnapshot :=
  { c with evConnected := false, status := statusAfterUnplug c }

def unplug (a : Actor) (id : ConnectorId) (done : Done) : Actor :=
  match a.connector id with
  | none => runDone done (.error (.unknownConnector id)) a
  | some c =>
    if !c.transaction.isIdle then
      if a.registry.stopTransactionOnEvSideDisconnect then
        a.stopTransaction id .evDisconnected c.lastIdTag done
      else
        runDone done (.ok .done) ((a.withConnector id suspendedConnector).statusChanged id)
    else if !c.evConnected && decide (c.status ≠ .finishing) then
      runDone done (.error (invalid id "no EV is connected")) a
    else runDone done (.ok .done) ((a.withConnector id unpluggedConnector).statusChanged id)

/-- What `SetConnectorStatus` makes of a connector. -/
def manualConnector (vendor : String) (status : ConnectorStatus) (c : ConnectorSnapshot) :
    ConnectorSnapshot :=
  let fault := decide (status = .faulted)
  { c with
    status
    errorCode := if fault then .otherError else .noError
    info := if fault then some "Manual fault" else none
    vendorId := if fault then some vendor else none
    vendorErrorCode := none }

def setStatus (a : Actor) (id : ConnectorId) (status : ConnectorStatus) :
    Actor × Except StationError Outcome :=
  match a.findConnector id with
  | none => (a, .error (.unknownConnector id))
  | some _ =>
    ((a.withConnector id (manualConnector a.config.vendor status)).statusChanged id, .ok .done)

/-- What `Fault` makes of a connector. -/
def faultedConnector (vendor : String) (code : ChargePointErrorCode) (info vendorCode : Option String)
    (c : ConnectorSnapshot) : ConnectorSnapshot :=
  { c with
    status := .faulted
    errorCode := faultErrorCode code
    info := info.bind fun text => trimText text statusTextMax
    vendorId := some vendor
    vendorErrorCode := vendorCode.bind fun text => trimText text statusTextMax }

def fault (a : Actor) (id : ConnectorId) (code : ChargePointErrorCode) (info vendorCode : Option String)
    (done : Done) : Actor :=
  match a.findConnector id with
  | none => runDone done (.error (.unknownConnector id)) a
  | some c =>
    let a := if c.transaction.isIdle then a else a.stopTransaction id .other c.lastIdTag .ignore
    runDone done (.ok .done)
      ((a.withConnector id (faultedConnector a.config.vendor code info vendorCode)).statusChanged id)

/-- What `ClearFault` makes of a connector. -/
def clearedConnector (id : ConnectorId) (c : ConnectorSnapshot) : ConnectorSnapshot :=
  { c with
    status := if isStation id then chargePointStatus c.availability .available
              else statusAfterFaultClear c
    errorCode := .noError, info := none, vendorId := none, vendorErrorCode := none }

def clearFault (a : Actor) (id : ConnectorId) : Actor × Except StationError Outcome :=
  match a.findConnector id with
  | none => (a, .error (.unknownConnector id))
  | some _ => ((a.withConnector id (clearedConnector id)).statusChanged id, .ok .done)

/-- The `MeterValues` command. -/
def meterValuesCommand (a : Actor) (id : ConnectorId) (deltaWh : Nat)
    (measurands : Option (List Measurand)) (reply : Reply) : Actor :=
  match a.connector id with
  | none => a.reply reply (.error (.unknownConnector id))
  | some _ =>
    let measurands := (measurands.filter fun list => !list.isEmpty).getD
      a.registry.meterValuesSampledData
    a.sampleMeter id .samplePeriodic deltaWh measurands (some reply)

/-- A CALL of the user, answered with its response: `user_call`, `send_raw`. -/
def userCall (a : Actor) (origin : Origin) (action : String) (reply : Reply) : Actor :=
  a.call origin (.notification action) (.userCall reply)
    fun error => onUserCallResult (some reply) (.error error)

/-! ## Meter timers -/

def onMeterPeriodic (a : Actor) (id : ConnectorId) : Actor :=
  if !a.isSampling id || a.registry.meterValueSampleInterval == 0 then a
  else (a.setTimer (.meterPeriodic id)).sampleMeter id .samplePeriodic 0
    a.registry.meterValuesSampledData none

def onMeterAligned (a : Actor) : Actor :=
  let a := if 0 < a.registry.clockAlignedDataInterval then a.setTimer .meterAligned else a
  let measurands := a.registry.meterValuesAlignedData
  (a.connectors.map (·.id)).foldl (fun a id => a.sampleMeter id .sampleClock 0 measurands none) a

/-- `MeterValueSampleInterval` or `ClockAlignedDataInterval` changed. -/
def restartMetering (a : Actor) : Actor :=
  (a.cancelTimersWhere fun key => match key with
    | .meterPeriodic _ | .meterAligned => true
    | _ => false).rescheduleMetering

/-! ## Reservations -/

/-- `expire_due` plus notifications. -/
def releaseExpiredReservations (a : Actor) : Actor :=
  let (connectors, released) := expireDue a.connectors a.now
  let a := released.foldl (fun a id => (a.cancelTimer (.reservationExpiry id)).statusChanged id)
    { a with connectors }
  if released.isEmpty then a else a.flushNow

/-- Releases expired reservations (all connectors) and re-arms the live ones. -/
def onReservationTimer (a : Actor) : Actor :=
  let a := a.releaseExpiredReservations
  ((a.connectors.filter fun c => c.reservation.isSome).map (·.id)).foldl
    (fun a id => a.setTimer (.reservationExpiry id)) a

/-- Arms (or fires at once) the expiry timer of the reservation on `id`, if any. -/
def armReservation (a : Actor) (id : ConnectorId) : Actor :=
  match (a.findConnector id).bind (·.reservation) with
  | none => a.cancelTimer (.reservationExpiry id)
  | some reservation =>
    if reservation.isExpired a.now then a.onReservationTimer else a.setTimer (.reservationExpiry id)

/-- The trial copy of `reserve`: a reservation that moves is released, which only an accepted request
commits. -/
def trialConnectors (a : Actor) (id : ReservationId) (movedFrom : Option ConnectorId) :
    List ConnectorSnapshot :=
  match movedFrom with
  | some _ => ((cancelReservation a.connectors id).map (·.1)).getD a.connectors
  | none => a.connectors

/-- `ReserveNow`; a reservation with the same id moves. -/
def reserve (a : Actor) (request : ReserveNowRequest) : Actor :=
  let a := a.releaseExpiredReservations
  let movedFrom := (a.connectors.find? fun c =>
    holdsReservation c request.reservationId && c.id != request.connectorId).map (·.id)
  let trial := a.trialConnectors request.reservationId movedFrom
  match reserveNow trial request a.now a.registry.reserveConnectorZeroSupported with
  | .error status => a.record (.responded (.reservation status))
  | .ok (connectors, target) =>
    let a := ({ a with connectors }).record (.responded (.reservation .accepted))
    let a := match movedFrom with
      | some old => (a.cancelTimer (.reservationExpiry old)).statusChanged old
      | none => a
    ((a.armReservation target).flushNow).statusChanged target

/-- `CancelReservation`. -/
def cancel (a : Actor) (id : ReservationId) : Actor :=
  match cancelReservation a.connectors id with
  | none => a.record (.responded (.cancelReservation false))
  | some (connectors, released) =>
    let a := ({ a with connectors }).record (.responded (.cancelReservation true))
    ((a.cancelTimer (.reservationExpiry released)).flushNow).statusChanged released

/-! ## Availability -/

/-- What `ChangeAvailability` makes of connector 0. -/
def stationAvailability (kind : AvailabilityType) (c : ConnectorSnapshot) : ConnectorSnapshot :=
  { c with availability := kind, status := chargePointStatus kind c.status }

/-- What `ChangeAvailability` makes of a connector: a running transaction delays it. -/
def changedAvailability (kind : AvailabilityType) (c : ConnectorSnapshot) : ConnectorSnapshot :=
  if !c.transaction.isIdle then { c with pendingAvailability := some kind }
  else
    let c := { c with pendingAvailability := none, availability := kind }
    { c with status := statusAfterAvailabilityChange c kind }

def changeAvailability (a : Actor) (id : ConnectorId) (kind : AvailabilityType) : Actor :=
  if !isStation id && (a.connector id).isNone then a.record (.responded (.availability none))
  else
    let targets := if isStation id then a.connectors.map (·.id) else [id]
    let busy := targets.filter fun target =>
      (a.findConnector target).any fun c => !c.transaction.isIdle
    let idle := targets.filter fun target =>
      (a.findConnector target).any fun c => c.transaction.isIdle
    let changed := if isStation id then station :: idle else idle
    let a := if isStation id then { a with chargePoint := stationAvailability kind a.chargePoint } else a
    let a := targets.foldl (fun a target => a.withConnector target (changedAvailability kind)) a
    let a := (a.record (.responded (.availability (some !busy.isEmpty)))).flushNow
    changed.foldl statusChanged a

/-- `UnlockConnector`: a running transaction ends. -/
def unlockConnector (a : Actor) (id : ConnectorId) : Actor :=
  match a.connector id with
  | none => a.record (.responded (.unlock false))
  | some c =>
    let a := a.record (.responded (.unlock true))
    if c.transaction.isIdle then a else a.stopTransaction id .unlockCommand none .ignore

/-! ## Remote start and stop -/

/-- The connector a `RemoteStartTransaction` is about. -/
def remoteStartTarget (a : Actor) (connectorId : Option ConnectorId) : Option ConnectorId :=
  match connectorId.filter fun id => !isStation id with
  | some id => some id
  | none => (a.connectors.find? fun c => c.transaction.isIdle &&
      decide (c.availability = .operative) && decide (c.status = .available)).map (·.id)

/-- The checks of `remote_start`: the connector the transaction starts on. With
`AuthorizeRemoteTxRequests` the reservation is checked once, after the authorization. -/
def remoteStartChoice (a : Actor) (connectorId : Option ConnectorId) (idTag : IdTag)
    (profile : Option (ChargingProfile Rat)) : Option ConnectorId :=
  let parent := knownParent idTag a.now a.localList a.authCache
  let profileOk := profile.all fun p =>
    decide (p.chargingProfilePurpose = .txProfile) && p.transactionId.isNone
  let gate := fun (id : ConnectorId) =>
    if a.registry.authorizeRemoteTxRequests then (a.connector id).any remoteStartUsable
    else canRemoteStart (a.connector id) idTag parent a.now
  (a.remoteStartTarget connectorId).filter fun id => profileOk && gate id

/-- `RemoteStartTransaction`: the answer precedes the start. -/
def remoteStart (a : Actor) (connectorId : Option ConnectorId) (idTag : IdTag)
    (profile : Option (ChargingProfile Rat)) : Actor :=
  match a.remoteStartChoice connectorId idTag profile with
  | none => a.record (.responded (.remoteStart false))
  | some id =>
    if a.registry.authorizeRemoteTxRequests then a.authorize idTag (.remoteStart id idTag profile)
    else (a.record (.responded (.remoteStart true))).startTransaction id idTag (.remoteStart id profile)

/-- `RemoteStopTransaction`. -/
def remoteStop (a : Actor) (transactionId : Int) : Actor :=
  match a.connectors.find? fun c => decide (c.txId = some (.csms transactionId)) with
  | none => a.record (.responded (.remoteStop false))
  | some c =>
    (a.record (.responded (.remoteStop true))).stopTransaction c.id .remote none .ignore

/-! ## Triggered messages -/

/-- What `TriggerMessage` and `ExtendedTriggerMessage` ask for. -/
inductive MessageTrigger where
  | bootNotification | heartbeat | statusNotification | meterValues
  /-- The diagnostics, firmware and log status notifications. -/
  | notification (action : String)
  /-- With the key pair made for the request. -/
  | signChargePointCertificate (key : Nat)
deriving DecidableEq

/-- `decide_for`. -/
def triggerAccepted (a : Actor) (message : MessageTrigger) (connector : Option ConnectorId) : Bool :=
  let registered := decide (a.registration = some .accepted ∨ a.registration = some .pending)
  let known := connector.all fun id => (a.findConnector id).isSome
  match message with
  | .bootNotification => true
  | .statusNotification | .meterValues => registered && known
  | _ => registered

/-- One triggered `MeterValues` sample for `id` (`0` is the whole station). -/
def sendMeterValues (a : Actor) (id : ConnectorId) : Actor :=
  match a.findConnector id with
  | none => a
  | some c =>
    let tx := if isStation id then none else c.txId
    let (a, reading) := a.meterReading id false
    let request : MeterValuesRequest :=
      { connectorId := id, transactionId := tx.bind TxId.wire
        meterValue := [{ timestamp := a.now, reading
                         measurands := a.registry.meterValuesSampledData, context := .trigger }] }
    a.call .triggered (.meterValues request) .ignore fun _ a => a

/-- Starts the triggered message. -/
def startTriggered (a : Actor) (message : MessageTrigger) (connector : Option ConnectorId) : Actor :=
  match message with
  | .bootNotification => a.sendBoot none
  | .heartbeat => a.sendHeartbeat .triggered none
  | .notification action => a.call .triggered (.notification action) .ignore fun _ a => a
  | .signChargePointCertificate key => a.requestCertificate key none
  | .statusNotification =>
    let ids : List ConnectorId := match connector with
      | some id => [id]
      | none => station :: a.connectors.map (·.id)
    ids.foldl (fun a id => a.sendStatusForced id .triggered none) a
  | .meterValues =>
    let ids : List ConnectorId := match connector with
      | some id => [id]
      | none => a.connectors.map (·.id)
    ids.foldl sendMeterValues a

def triggerMessage (a : Actor) (message : MessageTrigger) (connector : Option ConnectorId) : Actor :=
  let accepted := a.triggerAccepted message connector
  let a := a.record (.responded (.trigger accepted))
  if accepted then a.startTriggered message connector else a

/-! ## Charging profiles -/

/-- `GetCompositeSchedule`. -/
def getCompositeSchedule (a : Actor) (id : ConnectorId) (duration : Int)
    (unit : Option ChargingRateUnitType) : Actor :=
  let context := ((a.findConnector id).map fun c => transactionContext c.transaction).getD (none, none)
  let profiles := ChargingProfileStore.pruneExpired a.profiles a.now
  let result := compositeSchedule profiles
    { connector := id, durationS := duration, unit, now := a.now, connectorCount := a.connectors.length
      activeTx := context.1, txStartedAt := context.2, model := a.powerModel }
  let pruned := decide (profiles.length ≠ a.profiles.length)
  let a := { a with profiles }
  (if pruned then a.markDirty else a).record (.responded (.composite result.toOption))

/-! ## Configuration -/

/-- The keys whose change has a side effect. -/
inductive ConfigKey where
  | heartbeatInterval | minimumStatusDuration
  /-- `MeterValueSampleInterval`, `ClockAlignedDataInterval`. -/
  | metering
  /-- `AuthorizationKey`, `SecurityProfile`. -/
  | security
  | other
deriving DecidableEq

/-- An accepted change: the new values and the key. -/
structure ConfigChange where
  registry : ConfigRegistry
  key : ConfigKey

/-- `apply_configuration_change` past its checks. -/
def applyConfigurationChange (a : Actor) (change : ConfigChange) : Actor :=
  let a := { a with registry := change.registry }
  let a := if change.key = .security then
      (a.markSecretsDirty.securityEvent "ReconfigurationOfSecurityParameters"
        none).reconnectForNewSecurityParameters
    else a
  let a := a.flushNow
  match change.key with
  | .heartbeatInterval => if a.registration = some .accepted then a.armHeartbeat else a
  | .minimumStatusDuration =>
    if a.registry.minimumStatusDuration = 0 then a.flushPendingStatuses else a
  | .metering => a.restartMetering
  | _ => a

/-- `CertificateSigned`: the new chain is adopted, or refused. -/
def certificateSigned (a : Actor) (valid : Bool) : Actor :=
  let adopted := a.pendingKey.isSome && valid
  let a := { a.cancelTimer .certSigning with signSeries := none }
  if adopted then
    ((({ a with pendingKey := none }).markSecretsDirty.flushNow).reconnectForNewSecurityParameters).record
      (.responded (.certificateSigned true))
  else
    (a.record (.responded (.certificateSigned false))).securityEvent "InvalidChargePointCertificate" none

end Actor

end KirbyOcpp
