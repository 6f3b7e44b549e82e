import KirbyOcpp.Ocpp.Types

/-!
# Messages of the station

The enumerations and records of `ocpp/types.rs` and `ocpp/messages/` that the station actor reads or
builds, and the outcome of a CALL (`error.rs`).

A request keeps the fields the station fills in. Requests whose content comes from configuration or
from the user and whose answer nothing reads are `notification`s. An answer is the CALLRESULT payload
as the typed layer sees it: a payload that does not decode into the response of its action gives
`CallError.decode`.
-/

namespace KirbyOcpp

/-! ## Enumerations -/

inductive RegistrationStatus where
  | accepted | pending | rejected
deriving DecidableEq, Repr

inductive ConnectorStatus where
  | available | preparing | charging | suspendedEVSE | suspendedEV | finishing | reserved
  | unavailable | faulted
deriving DecidableEq, Repr

inductive ChargePointErrorCode where
  | connectorLockFailure | evCommunicationError | groundFailure | highTemperature | internalError
  | localListConflict | noError | otherError | overCurrentFailure | powerMeterFailure
  | powerSwitchFailure | readerFailure | resetFailure | underVoltage | overVoltage | weakSignal
deriving DecidableEq, Repr

inductive AvailabilityType where
  | inoperative | operative
deriving DecidableEq, Repr

inductive AuthorizationStatus where
  | accepted | blocked | expired | invalid | concurrentTx
deriving DecidableEq, Repr

inductive StopReason where
  | emergencyStop | evDisconnected | hardReset | «local» | other | powerLoss | reboot | remote
  | softReset | unlockCommand | deAuthorized
deriving DecidableEq, Repr

inductive ResetType where
  | hard | soft
deriving DecidableEq, Repr

/-- The reading contexts the station uses. -/
inductive ReadingContext where
  | samplePeriodic | sampleClock | transactionEnd | trigger
deriving DecidableEq, Repr

/-- A measurand, by its place in the list of `Measurand`. -/
abbrev Measurand := Nat

/-! ## Records -/

/-- `IdTagInfo`. -/
structure IdTagInfo where
  status : AuthorizationStatus
  expiryDate : Option Instant := none
  parentIdTag : Option IdTag := none
deriving DecidableEq

/-- What the meter of one connector (or the station) shows at one instant. -/
structure MeterReading where
  energyWh : Rat
  charging : Bool
  powerW : Rat
  offeredW : Rat
  intervalWh : Rat
deriving DecidableEq

/-- A `MeterValue`, kept as what `meter_value` renders it from. -/
structure MeterValue where
  timestamp : Instant
  reading : MeterReading
  measurands : List Measurand
  context : ReadingContext
deriving DecidableEq

/-- `StartTransaction.req`. -/
structure StartTransactionRequest where
  connectorId : ConnectorId
  idTag : IdTag
  meterStart : Int
  reservationId : Option ReservationId
  timestamp : Instant
deriving DecidableEq

/-- `StopTransaction.req`. -/
structure StopTransactionRequest where
  idTag : Option IdTag
  meterStop : Int
  timestamp : Instant
  transactionId : Int
  reason : Option StopReason
  transactionData : Option (List MeterValue)
deriving DecidableEq

/-- `MeterValues.req`. -/
structure MeterValuesRequest where
  connectorId : ConnectorId
  transactionId : Option Int
  meterValue : List MeterValue
deriving DecidableEq

/-- `StatusNotification.req`. -/
structure StatusNotificationRequest where
  connectorId : ConnectorId
  errorCode : ChargePointErrorCode
  info : Option String
  status : ConnectorStatus
  timestamp : Option Instant
  vendorId : Option String
  vendorErrorCode : Option String
deriving DecidableEq

/-- A security event waiting to be reported. -/
structure PendingSecurityEvent where
  eventType : String
  timestamp : Instant
  techInfo : Option String
deriving DecidableEq

/-! ## CALLs -/

/-- Why a message is being sent; decides whether the registration gate lets it through. -/
inductive Origin where
  | station | triggered | raw
deriving DecidableEq, Repr

/-- An outbound CALL. -/
inductive Request where
  | bootNotification
  | heartbeat
  | authorize (idTag : IdTag)
  | startTransaction (request : StartTransactionRequest)
  | stopTransaction (request : StopTransactionRequest)
  | meterValues (request : MeterValuesRequest)
  | statusNotification (request : StatusNotificationRequest)
  | securityEventNotification (event : PendingSecurityEvent)
  | signCertificate (key : Nat)
  /-- Any other action: `DataTransfer`, the diagnostics, firmware and log notifications, `SendRaw`. -/
  | notification (action : String)
deriving DecidableEq

/-- The action is `BootNotification`. -/
def Request.isBoot : Request → Bool
  | .bootNotification => true
  | _ => false

/-- `is_transaction_message`: the actions that are retried. -/
def Request.isTransactionMessage : Request → Bool
  | .startTransaction _ | .stopTransaction _ | .meterValues _ => true
  | _ => false

/-- Why a CALL did not produce a usable CALLRESULT. -/
inductive CallError where
  | notConnected
  | notRegistered
  | closed (code : Option Nat)
  | timeout
  /-- The central system answered with a CALLERROR. -/
  | rpc
  /-- The response violates the schema. -/
  | schema
  /-- A schema-valid response that does not decode into the typed response. -/
  | decode
deriving DecidableEq, Repr

/-- The CALL was not processed because the link or the registration was missing. -/
def CallError.isLinkError : CallError → Bool
  | .notConnected | .closed _ | .notRegistered => true
  | _ => false

/-- `retryable`: a failed attempt of a transaction message should be tried again. -/
def CallError.retryable : CallError → Bool
  | .notConnected | .closed _ | .notRegistered => false
  | _ => true

/-- The payload of a CALLRESULT. -/
inductive Value where
  | boot (status : RegistrationStatus) (currentTime : Instant) (interval : Int)
  | authorize (info : IdTagInfo)
  | startTransaction (transactionId : Int) (info : IdTagInfo)
  | signCertificate (accepted : Bool)
  /-- A payload of an action of which nothing but the arrival matters. -/
  | accepted
  /-- A payload that passes the schema and fits no typed response. -/
  | undecodable
deriving DecidableEq

/-- The outcome of a CALL: a CALLRESULT or why there is none. -/
abbrev CallResult := Except CallError Value

/-- `BootNotification.conf`. -/
structure BootNotificationResponse where
  status : RegistrationStatus
  currentTime : Instant
  interval : Int
deriving DecidableEq

/-- `StartTransaction.conf`. -/
structure StartTransactionResponse where
  transactionId : Int
  idTagInfo : IdTagInfo
deriving DecidableEq

def decodeBoot : CallResult → Except CallError BootNotificationResponse
  | .error error => .error error
  | .ok (.boot status currentTime interval) => .ok { status, currentTime, interval }
  | .ok _ => .error .decode

def decodeAuthorize : CallResult → Except CallError IdTagInfo
  | .error error => .error error
  | .ok (.authorize info) => .ok info
  | .ok _ => .error .decode

def decodeStart : CallResult → Except CallError StartTransactionResponse
  | .error error => .error error
  | .ok (.startTransaction transactionId idTagInfo) => .ok { transactionId, idTagInfo }
  | .ok _ => .error .decode

/-- Whether `SignCertificate` was accepted. -/
def decodeSign : CallResult → Except CallError Bool
  | .error error => .error error
  | .ok (.signCertificate accepted) => .ok accepted
  | .ok _ => .error .decode

/-- The responses of which nothing but the arrival matters. -/
def decodeAny : CallResult → Except CallError Unit
  | .error error => .error error
  | .ok .accepted => .ok ()
  | .ok _ => .error .decode

end KirbyOcpp
