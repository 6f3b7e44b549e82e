import KirbyOcpp.Ocpp.Messages
import KirbyOcpp.Ocpp.Text

/-!
# Connectors: `transaction.rs`, `connector.rs`, `snapshot.rs` and `reservation.rs`

The transaction state machine of one connector, the connector's state, its status rules and the
reservation rules. All functions are pure.

The `session` of a transaction is a ghost: the key that its start drew (`0`: a start of an earlier
process). Nothing computes with it; it tells sessions apart when the CSMS hands out an id twice. The
`parentIdTag` of a pending start is one too.
-/

namespace KirbyOcpp

/-! ## Transactions -/

/-- A start the CSMS has not acknowledged yet. -/
structure PendingStart where
  /-- Station-local id while unacknowledged. -/
  txId : TxId
  idTag : IdTag
  startedAt : Instant
  meterStartWh : Nat
  reservationId : Option ReservationId
  /-- Ghost: the parent of the idTag, as the check of the start knew it. -/
  parentIdTag : Option IdTag
deriving DecidableEq

/-- A running transaction with its CSMS id. -/
structure ActiveTransaction where
  txId : TxId
  idTag : IdTag
  startedAt : Instant
  meterStartWh : Nat
  /-- Ghost: the key of the session. -/
  session : Nat
deriving DecidableEq

/-- A transaction whose `StopTransaction` is in flight. -/
structure StoppingTransaction where
  txId : TxId
  idTag : Option IdTag
  reason : StopReason
  stoppedAt : Option Instant
  meterStopWh : Option Nat
  /-- Ghost: the key of the session. -/
  session : Nat
deriving DecidableEq

/-- State of the transaction on one connector. -/
inductive TransactionState where
  | idle
  | pendingStart (pending : PendingStart)
  | active (transaction : ActiveTransaction)
  | stopping (transaction : StoppingTransaction)
deriving DecidableEq

namespace TransactionState

def isIdle : TransactionState → Bool
  | .idle => true
  | _ => false

/-- The transaction id, whatever the phase. -/
def txId : TransactionState → Option TxId
  | .idle => none
  | .pendingStart t => some t.txId
  | .active t => some t.txId
  | .stopping t => some t.txId

/-- A new transaction may not start on this connector. -/
def blocksNewTransaction (state : TransactionState) : Bool := !state.isIdle

end TransactionState

/-! ## Connectors -/

/-- An active reservation on a connector. -/
structure Reservation where
  id : ReservationId
  idTag : IdTag
  parentIdTag : Option IdTag
  expiry : Instant
deriving DecidableEq

/-- State of one connector. -/
structure ConnectorSnapshot where
  id : ConnectorId
  status : ConnectorStatus := .available
  errorCode : ChargePointErrorCode := .noError
  info : Option String := none
  vendorId : Option String := none
  vendorErrorCode : Option String := none
  evConnected : Bool := false
  availability : AvailabilityType := .operative
  /-- Availability requested while a transaction was running; applied when it ends. -/
  pendingAvailability : Option AvailabilityType := none
  transaction : TransactionState := .idle
  lastIdTag : Option IdTag := none
  meterWh : Nat := 0
  reservation : Option Reservation := none
deriving DecidableEq

/-- A fresh connector. -/
def newConnector (id : ConnectorId) : ConnectorSnapshot := { id }

/-- Id of the running (or starting or stopping) transaction. -/
def ConnectorSnapshot.txId (connector : ConnectorSnapshot) : Option TxId := connector.transaction.txId

/-- `(ev_connected, status)` after a transaction stops. -/
def stateAfterStop (reason : StopReason) (evConnected : Bool) (availability : AvailabilityType) :
    Bool × ConnectorStatus :=
  let stillConnected := decide (reason ≠ .evDisconnected) && evConnected
  let status :=
    if stillConnected then .finishing
    else if availability = .inoperative then .unavailable
    else .available
  (stillConnected, status)

/-- The order the "cycle status" action walks through. -/
def nextStatus : ConnectorStatus → ConnectorStatus
  | .available => .preparing
  | .preparing => .charging
  | .charging => .suspendedEVSE
  | .suspendedEVSE => .suspendedEV
  | .suspendedEV => .finishing
  | .finishing => .reserved
  | .reserved => .unavailable
  | .unavailable => .faulted
  | .faulted => .available

/-- Longest text of a status notification. -/
def statusTextMax : Nat := 50

/-- `value` without the blanks around it, cut to `limit` characters; `none` if nothing is left. -/
def trimText (value : String) (limit : Nat) : Option String :=
  let trimmed := Text.trim value.toList
  if trimmed.isEmpty then none else some (String.ofList (trimmed.take limit))

/-- Error code to report for an injected fault. -/
def faultErrorCode (requested : ChargePointErrorCode) : ChargePointErrorCode :=
  if requested = .noError then .otherError else requested

/-- Status after a fault is cleared. -/
def statusAfterFaultClear (connector : ConnectorSnapshot) : ConnectorStatus :=
  if connector.availability = .inoperative then .unavailable
  else if !connector.transaction.isIdle then .charging
  else if connector.evConnected then .preparing
  else if connector.reservation.isSome then .reserved
  else .available

/-- Status after `ChangeAvailability` on a connector without a running transaction. -/
def statusAfterAvailabilityChange (connector : ConnectorSnapshot) (availability : AvailabilityType) :
    ConnectorStatus :=
  if connector.status = .faulted then .faulted
  else if availability = .inoperative then .unavailable
  else if connector.status = .finishing then .finishing
  else if connector.reservation.isSome then .reserved
  else if connector.evConnected then .preparing
  else .available

/-- Status after the EV is unplugged from a connector without a running transaction. -/
def statusAfterUnplug (connector : ConnectorSnapshot) : ConnectorStatus :=
  if connector.availability = .inoperative ∨ connector.status = .unavailable then .unavailable
  else if connector.reservation.isSome then .reserved
  else .available

/-- Status of connector 0 after its availability changed. -/
def chargePointStatus (availability : AvailabilityType) (current : ConnectorStatus) :
    ConnectorStatus :=
  match current, availability with
  | .faulted, _ => .faulted
  | _, .inoperative => .unavailable
  | _, .operative => .available

/-! ## Reservations -/

def Reservation.isExpired (reservation : Reservation) (now : Instant) : Bool :=
  decide (reservation.expiry ≤ now)

/-- Whether `idTag`, whose parent is `idTagParent`, may use this reservation. -/
def Reservation.accepts (reservation : Reservation) (idTag : IdTag) (idTagParent : Option IdTag) :
    Bool :=
  if reservation.idTag = idTag then true
  else match reservation.parentIdTag, idTagParent with
    | some reservedParent, some parent => decide (reservedParent = parent)
    | _, _ => false

/-- The reservation of `connector` if it is still live at `now`. -/
def liveReservation (connector : ConnectorSnapshot) (now : Instant) : Option Reservation :=
  connector.reservation.filter fun reservation => !reservation.isExpired now

/-- Whether a live reservation on `connector` rules out `idTag`. -/
def reservedForOther (connector : ConnectorSnapshot) (idTag : IdTag) (idTagParent : Option IdTag)
    (now : Instant) : Bool :=
  (liveReservation connector now).any fun reservation => !reservation.accepts idTag idTagParent

/-- The part of the `RemoteStartTransaction` gate that does not depend on the idTag. -/
def remoteStartUsable (connector : ConnectorSnapshot) : Bool :=
  connector.transaction.isIdle && decide (connector.availability = .operative) &&
    decide (connector.status ≠ .unavailable) && decide (connector.status ≠ .faulted)

/-- The `RemoteStartTransaction` gate. -/
def canRemoteStart (connector : Option ConnectorSnapshot) (idTag : IdTag) (idTagParent : Option IdTag)
    (now : Instant) : Bool :=
  match connector with
  | none => false
  | some connector =>
    if !remoteStartUsable connector then false
    else match liveReservation connector now with
      | some reservation => reservation.accepts idTag idTagParent
      | none => decide (connector.status ≠ .reserved)

/-- The status a `Reserved` connector has without its reservation. -/
def statusWithoutReservation (connector : ConnectorSnapshot) : ConnectorStatus :=
  if connector.availability = .inoperative ∨ connector.status = .unavailable then .unavailable
  else if connector.status = .faulted then .faulted
  else if !connector.transaction.isIdle then .charging
  else if connector.evConnected then .preparing
  else .available

/-- Empties the reservation slot of `connector`. -/
def clearReservation (connector : ConnectorSnapshot) : ConnectorSnapshot :=
  match connector.reservation with
  | none => connector
  | some _ =>
    let connector := { connector with reservation := none }
    if connector.status = .reserved then
      { connector with status := statusWithoutReservation connector }
    else connector

/-- `ReserveNow.req`. -/
structure ReserveNowRequest where
  connectorId : ConnectorId
  expiryDate : Instant
  idTag : IdTag
  parentIdTag : Option IdTag
  reservationId : ReservationId
deriving DecidableEq

inductive ReservationStatus where
  | accepted | faulted | occupied | rejected | unavailable
deriving DecidableEq, Repr

def occupied (connector : ConnectorSnapshot) (sameReservation : Bool) : Bool :=
  if !connector.transaction.isIdle then true
  else if connector.reservation.isSome && !sameReservation then true
  else match connector.status with
    | .preparing | .charging | .suspendedEV | .suspendedEVSE | .finishing => true
    | .reserved => !sameReservation
    | _ => false

/-- The connector a `ReserveNow` is about. -/
def reservationTarget (connectors : List ConnectorSnapshot) (requested : ConnectorId)
    (connectorZeroSupported : Bool) : Except ReservationStatus ConnectorSnapshot :=
  if isStation requested then
    if !connectorZeroSupported then .error .rejected
    else match connectors.find? fun connector => connector.transaction.isIdle &&
        decide (connector.availability = .operative) && decide (connector.status = .available) with
      | some connector => .ok connector
      | none => .error .unavailable
  else match connectors.find? fun connector => connector.id == requested with
    | some connector => .ok connector
    | none => .error .unavailable

/-- Whether `connector` holds the reservation `id`. -/
def holdsReservation (connector : ConnectorSnapshot) (id : ReservationId) : Bool :=
  connector.reservation.any fun reservation => reservation.id == id

/-- Applies `f` to the connector with this id. -/
def updateConnector (connectors : List ConnectorSnapshot) (id : ConnectorId)
    (f : ConnectorSnapshot → ConnectorSnapshot) : List ConnectorSnapshot :=
  connectors.map fun connector => if connector.id == id then f connector else connector

/-- Decides and applies a `ReserveNow`; the changed connectors and the reserved one. -/
def reserveNow (connectors : List ConnectorSnapshot) (request : ReserveNowRequest) (now : Instant)
    (connectorZeroSupported : Bool) :
    Except ReservationStatus (List ConnectorSnapshot × ConnectorId) :=
  match reservationTarget connectors request.connectorId connectorZeroSupported with
  | .error status => .error status
  | .ok connector =>
    if occupied connector (holdsReservation connector request.reservationId) then .error .occupied
    else if connector.status = .faulted then .error .faulted
    else if connector.availability = .inoperative ∨ connector.status = .unavailable then
      .error .unavailable
    else if request.expiryDate ≤ now then .error .rejected
    else if connectors.any fun other => other.id != connector.id &&
        holdsReservation other request.reservationId then
      .error .rejected
    else
      let reservation : Reservation :=
        { id := request.reservationId, idTag := request.idTag, parentIdTag := request.parentIdTag
          expiry := request.expiryDate }
      .ok (updateConnector connectors connector.id fun connector =>
        { connector with reservation := some reservation, status := .reserved }, connector.id)

/-- `CancelReservation`: the changed connectors and the released one. -/
def cancelReservation (connectors : List ConnectorSnapshot) (id : ReservationId) :
    Option (List ConnectorSnapshot × ConnectorId) :=
  (connectors.find? fun connector => holdsReservation connector id).map fun connector =>
    (updateConnector connectors connector.id clearReservation, connector.id)

/-- Whether the reservation of `connector` has expired at `now`. -/
def reservationExpired (connector : ConnectorSnapshot) (now : Instant) : Bool :=
  connector.reservation.any fun reservation => reservation.isExpired now

/-- Releases every expired reservation; the changed connectors and the released ones. -/
def expireDue (connectors : List ConnectorSnapshot) (now : Instant) :
    List ConnectorSnapshot × List ConnectorId :=
  (connectors.map fun connector =>
      if reservationExpired connector now then clearReservation connector else connector,
    (connectors.filter fun connector => reservationExpired connector now).map (·.id))

end KirbyOcpp
