import KirbyOcpp.Csms.Registry
import KirbyOcpp.Data.Assoc
import KirbyOcpp.Data.LastMatch
import KirbyOcpp.Ocpp.Messages
import KirbyOcpp.Ocpp.Text

/-!
# What a station reported: `state.rs`

The fold of the answered CALLs of a station into its `StationState`. The typed messages are read from the
payloads by a `Codec`, which also reads and scales the numbers of the samples; the two fields of the state
that this fold never writes are those of `StationState`.
-/

namespace KirbyOcpp.Csms

open Ws (Json)

/-! ## Messages -/

inductive DiagnosticsStatus where
  | idle | uploaded | uploadFailed | uploading
deriving DecidableEq, Repr

inductive FirmwareStatus where
  | downloaded | downloadFailed | downloading | idle | installationFailed | installing | installed
deriving DecidableEq, Repr

inductive UploadLogStatus where
  | badMessage | idle | notSupportedOperation | permissionDenied | uploaded | uploadFailure | uploading
deriving DecidableEq, Repr

inductive SignedFirmwareStatus where
  | downloaded | downloadFailed | downloading | downloadScheduled | downloadPaused | idle
  | installationFailed | installing | installed | installRebooting | installScheduled
  | installVerificationFailed | invalidSignature | signatureVerified
deriving DecidableEq, Repr

inductive UnitOfMeasure where
  | wh | kWh | varh | kvarh | w | kW | va | kVA | var | kvar | a | v | k | celcius | celsius | fahrenheit
  | percent
deriving DecidableEq, Repr

/-- `Energy.Active.Import.Register`. -/
def energyActiveImportRegister : Measurand := 4

/-- `Power.Active.Import`. -/
def powerActiveImport : Measurand := 13

structure BootNotificationRequest where
  chargePointVendor : String
  chargePointModel : String
  chargePointSerialNumber : Option String
  chargeBoxSerialNumber : Option String
  firmwareVersion : Option String
  iccid : Option String
  imsi : Option String
  meterType : Option String
  meterSerialNumber : Option String
deriving DecidableEq

structure BootNotificationResponse where
  status : RegistrationStatus
  interval : Int
deriving DecidableEq

structure StatusNotificationRequest where
  connectorId : ConnectorId
  status : ConnectorStatus
  errorCode : ChargePointErrorCode
  info : Option String
  vendorId : Option String
  vendorErrorCode : Option String
  timestamp : Option Instant
deriving DecidableEq

structure StartTransactionRequest where
  connectorId : ConnectorId
  idTag : IdTag
  meterStart : Int
  timestamp : Instant
deriving DecidableEq

structure StartTransactionResponse where
  transactionId : Int
  idTagInfo : IdTagInfo
deriving DecidableEq

structure StopTransactionRequest where
  transactionId : Int
  meterStop : Int
  timestamp : Instant
  reason : Option StopReason
deriving DecidableEq

structure SampledValue where
  value : String
  /-- `format` is `SignedData`. -/
  signedData : Bool
  measurand : Option Measurand
  phase : Option String
  unit : Option UnitOfMeasure
deriving DecidableEq

structure SampledMeter where
  timestamp : Instant
  sampledValue : List SampledValue
deriving DecidableEq

structure MeterValuesRequest where
  transactionId : Option Int
  meterValue : List SampledMeter
deriving DecidableEq

structure SecurityEventNotificationRequest where
  eventType : Text
  timestamp : Instant
  techInfo : Option Text
deriving DecidableEq

structure LogStatusNotificationRequest where
  status : UploadLogStatus
  requestId : Option Int
deriving DecidableEq

structure SignedFirmwareStatusNotificationRequest where
  status : SignedFirmwareStatus
  requestId : Option Int
deriving DecidableEq

/-- `deserialize` of the typed messages, and the numbers `F` of the samples. -/
structure Codec (F : Type) where
  bootNotification : Json → Option BootNotificationRequest
  bootNotificationResponse : Json → Option BootNotificationResponse
  statusNotification : Json → Option StatusNotificationRequest
  startTransaction : Json → Option StartTransactionRequest
  startTransactionResponse : Json → Option StartTransactionResponse
  stopTransaction : Json → Option StopTransactionRequest
  meterValues : Json → Option MeterValuesRequest
  diagnosticsStatus : Json → Option DiagnosticsStatus
  firmwareStatus : Json → Option FirmwareStatus
  securityEvent : Json → Option SecurityEventNotificationRequest
  logStatus : Json → Option LogStatusNotificationRequest
  signedFirmwareStatus : Json → Option SignedFirmwareStatusNotificationRequest
  signCertificate : Json → Option Text
  /-- A trimmed text as a finite number. -/
  parse : String → Option F
  /-- `value * 1000.0`. -/
  thousand : F → F

/-! ## The state -/

def maxConnectors : Nat := 1024
def maxActiveTransactions : Nat := 256
def maxSecurityEvents : Nat := 100
def maxCertificateLen : Nat := 5500
def maxSecurityEventTypeLen : Nat := 50
def maxSecurityEventTechInfoLen : Nat := 255

/-- A status the station reported, with the time we received it. -/
structure ReportedStatus (T : Type) where
  status : T
  at' : Nat
deriving DecidableEq

/-- `BootNotification` fields as sent, plus our answer. -/
structure BootInfo where
  vendor : String
  model : String
  chargePointSerialNumber : Option String
  chargeBoxSerialNumber : Option String
  firmwareVersion : Option String
  iccid : Option String
  imsi : Option String
  meterType : Option String
  meterSerialNumber : Option String
  bootedAt : Nat
  registration : Option RegistrationStatus
  interval : Option Int
deriving DecidableEq

/-- One connector's last `StatusNotification`. -/
structure ConnectorState where
  status : ConnectorStatus
  errorCode : ChargePointErrorCode
  info : Option String
  vendorId : Option String
  vendorErrorCode : Option String
  timestamp : Option Instant
  receivedAt : Nat
deriving DecidableEq

inductive TransactionStatus where
  | active | stopped
deriving DecidableEq, Repr

/-- One transaction, from `StartTransaction` to `StopTransaction`. -/
structure TransactionRecord (F : Type) where
  id : Int
  connector : ConnectorId
  idTag : IdTag
  idTagStatus : AuthorizationStatus
  meterStart : Int
  startedAt : Instant
  status : TransactionStatus := .active
  meterStop : Option Int := none
  stoppedAt : Option Instant := none
  stopReason : Option StopReason := none
  energyWh : Option F := none
  powerW : Option F := none
  lastMeterAt : Option Instant := none
deriving DecidableEq

/-- One `SecurityEventNotification`. -/
structure SecurityEventRecord where
  eventType : Text
  timestamp : Instant
  techInfo : Option Text
  receivedAt : Nat
deriving DecidableEq

structure LogReport where
  status : UploadLogStatus
  requestId : Option Int
  at' : Nat
deriving DecidableEq

structure SignedFirmwareReport where
  status : SignedFirmwareStatus
  requestId : Option Int
  at' : Nat
deriving DecidableEq

/-- The last `SignCertificate` request. -/
structure CertificateRequest where
  csr : Text
  receivedAt : Nat
deriving DecidableEq

/-- What a station reported. -/
structure ReportedState (F : Type) where
  boot : Option BootInfo := none
  connectors : List (ConnectorId × ConnectorState) := []
  /-- Transactions, oldest first. -/
  transactions : List (TransactionRecord F) := []
  lastHeartbeatAt : Option Nat := none
  diagnosticsStatus : Option (ReportedStatus DiagnosticsStatus) := none
  firmwareStatus : Option (ReportedStatus FirmwareStatus) := none
  unknownStops : Nat := 0
  securityEvents : List SecurityEventRecord := []
  securityEventsTotal : Nat := 0
  logStatus : Option LogReport := none
  signedFirmwareStatus : Option SignedFirmwareReport := none
  certificateRequest : Option CertificateRequest := none
deriving DecidableEq

variable {F : Type}

namespace TransactionRecord

def isActive (tx : TransactionRecord F) : Bool := decide (tx.status = .active)

def isStopped (tx : TransactionRecord F) : Bool := decide (tx.status = .stopped)

/-- An active transaction of that id. -/
def names (id : Int) (tx : TransactionRecord F) : Bool := decide (tx.id = id) && tx.isActive

/-- The record of an answered `StartTransaction`. -/
def started (req : StartTransactionRequest) (res : StartTransactionResponse) : TransactionRecord F :=
  { id := res.transactionId
    connector := req.connectorId
    idTag := req.idTag
    idTagStatus := res.idTagInfo.status
    meterStart := req.meterStart
    startedAt := req.timestamp }

/-- The record after its `StopTransaction`. -/
def stop (req : StopTransactionRequest) (tx : TransactionRecord F) : TransactionRecord F :=
  { tx with
    status := .stopped
    meterStop := some req.meterStop
    stoppedAt := some req.timestamp
    stopReason := req.reason }

/-- One sample of `on_meter`: the record, and whether one of them was used. -/
def sample (codec : Codec F) (tx : TransactionRecord F × Bool) (sample : SampledValue) :
    TransactionRecord F × Bool :=
  -- signed data and non-numbers are skipped
  match (if sample.signedData then none else codec.parse sample.value) with
  | none => tx
  | some value =>
    let measurand := sample.measurand.getD energyActiveImportRegister
    if measurand = energyActiveImportRegister then
      match sample.unit.getD .wh with
      | .wh => ({ tx.1 with energyWh := some value }, true)
      | .kWh => ({ tx.1 with energyWh := some (codec.thousand value) }, true)
      | _ => tx
    else if measurand = powerActiveImport then
      match sample.unit.getD .w with
      | .w => ({ tx.1 with powerW := some value }, true)
      | .kW => ({ tx.1 with powerW := some (codec.thousand value) }, true)
      | _ => tx
    else tx

/-- One `MeterValue` of `on_meter`: the record, and whether it changed. -/
def meter (codec : Codec F) (tx : TransactionRecord F × Bool) (meter : SampledMeter) :
    TransactionRecord F × Bool :=
  let (touchedTx, touched) :=
    (meter.sampledValue.filter fun sample => sample.phase.isNone).foldl (TransactionRecord.sample codec)
      (tx.1, false)
  if touched then ({ touchedTx with lastMeterAt := some meter.timestamp }, true) else (touchedTx, tx.2)

/-- The loop of `on_meter`. -/
def meters (codec : Codec F) (req : MeterValuesRequest) (tx : TransactionRecord F) :
    TransactionRecord F × Bool :=
  req.meterValue.foldl (TransactionRecord.meter codec) (tx, false)

end TransactionRecord

/-- Cuts `text` to at most `max` characters. -/
def truncate (text : Text) (max : Nat) : Text := text.take max

namespace ReportedState

def onSecurityEvent (codec : Codec F) (request : Json) (now : Nat) (state : ReportedState F) :
    ReportedState F × Bool :=
  match codec.securityEvent request with
  | none => (state, false)
  | some req =>
    let event : SecurityEventRecord :=
      { eventType := truncate req.eventType maxSecurityEventTypeLen
        timestamp := req.timestamp
        techInfo := req.techInfo.map fun text => truncate text maxSecurityEventTechInfoLen
        receivedAt := now }
    let events := state.securityEvents ++ [event]
    -- `while len > MAX { pop_front }`
    ({ state with
        securityEvents := events.drop (events.length - maxSecurityEvents)
        securityEventsTotal := state.securityEventsTotal + 1 }, true)

def onBoot (codec : Codec F) (request response : Json) (now : Nat) (state : ReportedState F) :
    ReportedState F × Bool :=
  match codec.bootNotification request with
  | none => (state, false)
  | some req =>
    let res := codec.bootNotificationResponse response
    let boot : BootInfo :=
      { vendor := req.chargePointVendor
        model := req.chargePointModel
        chargePointSerialNumber := req.chargePointSerialNumber
        chargeBoxSerialNumber := req.chargeBoxSerialNumber
        firmwareVersion := req.firmwareVersion
        iccid := req.iccid
        imsi := req.imsi
        meterType := req.meterType
        meterSerialNumber := req.meterSerialNumber
        bootedAt := now
        registration := res.map (·.status)
        interval := res.map (·.interval) }
    ({ state with boot := some boot }, true)

def onStatus (codec : Codec F) (request : Json) (now : Nat) (state : ReportedState F) :
    ReportedState F × Bool :=
  match codec.statusNotification request with
  | none => (state, false)
  | some req =>
    let id := req.connectorId
    if !(Assoc.get state.connectors id).isSome && decide (maxConnectors ≤ state.connectors.length) then
      (state, false)
    else
      let connector : ConnectorState :=
        { status := req.status
          errorCode := req.errorCode
          info := req.info
          vendorId := req.vendorId
          vendorErrorCode := req.vendorErrorCode
          timestamp := req.timestamp
          receivedAt := now }
      ({ state with connectors := Assoc.write state.connectors id connector }, true)

/-- The records after one more start; beyond the limit the oldest active one is dropped. -/
def withStarted (tx : TransactionRecord F) (transactions : List (TransactionRecord F)) :
    List (TransactionRecord F) :=
  let transactions := transactions ++ [tx]
  if maxActiveTransactions < transactions.countP TransactionRecord.isActive then
    transactions.eraseP TransactionRecord.isActive
  else transactions

def onStart (codec : Codec F) (request response : Json) (state : ReportedState F) : ReportedState F × Bool :=
  match codec.startTransaction request with
  | none => (state, false)
  | some req =>
    match codec.startTransactionResponse response with
    | none => (state, false)
    | some res =>
      ({ state with transactions := withStarted (TransactionRecord.started req res) state.transactions }, true)

/-- `rounds` times the first stopped transaction goes, if there is one. -/
def dropStopped : Nat → List (TransactionRecord F) → List (TransactionRecord F)
  | 0, transactions => transactions
  | rounds + 1, transactions => dropStopped rounds (transactions.eraseP TransactionRecord.isStopped)

/-- `while stopped > history_cap`: as many rounds as there are stopped transactions above the cap. -/
def evictStopped (historyCap : Nat) (transactions : List (TransactionRecord F)) : List (TransactionRecord F) :=
  dropStopped (transactions.countP TransactionRecord.isStopped - historyCap) transactions

def onStop (codec : Codec F) (request : Json) (historyCap : Nat) (state : ReportedState F) :
    ReportedState F × Bool :=
  match codec.stopTransaction request with
  | none => (state, false)
  | some req =>
    match LastMatch.update (TransactionRecord.names req.transactionId) (TransactionRecord.stop req)
        state.transactions with
    | none => ({ state with unknownStops := state.unknownStops + 1 }, true)
    | some transactions => ({ state with transactions := evictStopped historyCap transactions }, true)

def onMeter (codec : Codec F) (request : Json) (state : ReportedState F) : ReportedState F × Bool :=
  match codec.meterValues request with
  | none => (state, false)
  | some req =>
    match req.transactionId with
    | none => (state, false)
    | some id =>
      match LastMatch.last (TransactionRecord.names id) state.transactions,
          LastMatch.update (TransactionRecord.names id) (fun tx => (tx.meters codec req).1)
            state.transactions with
      | some tx, some transactions => ({ state with transactions }, (tx.meters codec req).2)
      | _, _ => (state, false)

/-- `StationState::apply`: the state, and whether it changed. -/
def apply (codec : Codec F) (historyCap : Nat) (action : String) (request response : Json) (now : Nat)
    (state : ReportedState F) : ReportedState F × Bool :=
  if action = "BootNotification" then state.onBoot codec request response now
  -- recorded silently
  else if action = "Heartbeat" then ({ state with lastHeartbeatAt := some now }, false)
  else if action = "StatusNotification" then state.onStatus codec request now
  else if action = "StartTransaction" then state.onStart codec request response
  else if action = "StopTransaction" then state.onStop codec request historyCap
  else if action = "MeterValues" then state.onMeter codec request
  else if action = "DiagnosticsStatusNotification" then
    match codec.diagnosticsStatus request with
    | none => (state, false)
    | some status => ({ state with diagnosticsStatus := some { status, at' := now } }, true)
  else if action = "FirmwareStatusNotification" then
    match codec.firmwareStatus request with
    | none => (state, false)
    | some status => ({ state with firmwareStatus := some { status, at' := now } }, true)
  else if action = "SecurityEventNotification" then state.onSecurityEvent codec request now
  else if action = "LogStatusNotification" then
    match codec.logStatus request with
    | none => (state, false)
    | some req =>
      ({ state with logStatus := some { status := req.status, requestId := req.requestId, at' := now } }, true)
  else if action = "SignedFirmwareStatusNotification" then
    match codec.signedFirmwareStatus request with
    | none => (state, false)
    | some req =>
      let report : SignedFirmwareReport := { status := req.status, requestId := req.requestId, at' := now }
      ({ state with signedFirmwareStatus := some report }, true)
  else if action = "SignCertificate" then
    match codec.signCertificate request with
    | none => (state, false)
    | some csr =>
      let certificate : CertificateRequest := { csr := truncate csr maxCertificateLen, receivedAt := now }
      ({ state with certificateRequest := some certificate }, true)
  else (state, false)

end ReportedState

/-! ## Runs -/

/-- An answered CALL of the station. -/
structure AnsweredCall where
  action : String
  request : Json
  response : Json
  now : Nat

namespace ReportedState

/-- The state after one more answered CALL. -/
def fold (codec : Codec F) (historyCap : Nat) (state : ReportedState F) (call : AnsweredCall) :
    ReportedState F :=
  (state.apply codec historyCap call.action call.request call.response call.now).1

end ReportedState

end KirbyOcpp.Csms
