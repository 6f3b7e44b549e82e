import KirbyOcpp.Ocpp.Text
import KirbyOcpp.Station.Authorization

/-!
# The configuration keys as texts: `config_registry.rs`

Every key the station advertises, with the text of its value. The typed values behind the getters
(`KirbyOcpp.ConfigRegistry`) are read from these texts; here are the lookup, the validation, the changes
and what is saved of them.
-/

namespace KirbyOcpp.Config

/-! ## Keys -/

namespace Key

def allowOfflineTxForUnknownId : Text := "AllowOfflineTxForUnknownId".toList
def authorizationCacheEnabled : Text := "AuthorizationCacheEnabled".toList
def authorizationKey : Text := "AuthorizationKey".toList
def authorizeRemoteTxRequests : Text := "AuthorizeRemoteTxRequests".toList
def blinkRepeat : Text := "BlinkRepeat".toList
def certificateSignedMaxChainSize : Text := "CertificateSignedMaxChainSize".toList
def certificateStoreMaxLength : Text := "CertificateStoreMaxLength".toList
def additionalRootCertificateCheck : Text := "AdditionalRootCertificateCheck".toList
def cpoName : Text := "CpoName".toList
def securityProfile : Text := "SecurityProfile".toList
def allowSecurityProfileDowngrade : Text := "AllowSecurityProfileDowngrade".toList
def allowCentralSystemTlsWildcards : Text := "AllowCentralSystemTLSWildcards".toList
def certSigningWaitMinimum : Text := "CertSigningWaitMinimum".toList
def certSigningRepeatTimes : Text := "CertSigningRepeatTimes".toList
def chargePointModel : Text := "ChargePointModel".toList
def chargePointSerialNumber : Text := "ChargePointSerialNumber".toList
def chargePointVendor : Text := "ChargePointVendor".toList
def chargeProfileMaxStackLevel : Text := "ChargeProfileMaxStackLevel".toList
def chargingScheduleAllowedChargingRateUnit : Text := "ChargingScheduleAllowedChargingRateUnit".toList
def chargingScheduleMaxPeriods : Text := "ChargingScheduleMaxPeriods".toList
def clockAlignedDataInterval : Text := "ClockAlignedDataInterval".toList
def connectionTimeOut : Text := "ConnectionTimeOut".toList
def connectorPhaseRotation : Text := "ConnectorPhaseRotation".toList
def connectorPhaseRotationMaxLength : Text := "ConnectorPhaseRotationMaxLength".toList
def connectorSwitch3to1PhaseSupported : Text := "ConnectorSwitch3to1PhaseSupported".toList
def getConfigurationMaxKeys : Text := "GetConfigurationMaxKeys".toList
def heartbeatInterval : Text := "HeartbeatInterval".toList
def lightIntensity : Text := "LightIntensity".toList
def localAuthListEnabled : Text := "LocalAuthListEnabled".toList
def localAuthListMaxLength : Text := "LocalAuthListMaxLength".toList
def localAuthorizeOffline : Text := "LocalAuthorizeOffline".toList
def localPreAuthorize : Text := "LocalPreAuthorize".toList
def maxChargingProfilesInstalled : Text := "MaxChargingProfilesInstalled".toList
def maxEnergyOnInvalidId : Text := "MaxEnergyOnInvalidId".toList
def meterValuesAlignedData : Text := "MeterValuesAlignedData".toList
def meterValuesAlignedDataMaxLength : Text := "MeterValuesAlignedDataMaxLength".toList
def meterValuesSampledData : Text := "MeterValuesSampledData".toList
def meterValuesSampledDataMaxLength : Text := "MeterValuesSampledDataMaxLength".toList
def meterValueSampleInterval : Text := "MeterValueSampleInterval".toList
def minimumStatusDuration : Text := "MinimumStatusDuration".toList
def numberOfConnectors : Text := "NumberOfConnectors".toList
def reserveConnectorZeroSupported : Text := "ReserveConnectorZeroSupported".toList
def resetRetries : Text := "ResetRetries".toList
def sendLocalListMaxLength : Text := "SendLocalListMaxLength".toList
def stopTransactionOnEvSideDisconnect : Text := "StopTransactionOnEVSideDisconnect".toList
def stopTransactionOnInvalidId : Text := "StopTransactionOnInvalidId".toList
def stopTxnAlignedData : Text := "StopTxnAlignedData".toList
def stopTxnAlignedDataMaxLength : Text := "StopTxnAlignedDataMaxLength".toList
def stopTxnSampledData : Text := "StopTxnSampledData".toList
def stopTxnSampledDataMaxLength : Text := "StopTxnSampledDataMaxLength".toList
def supportedFeatureProfiles : Text := "SupportedFeatureProfiles".toList
def supportedFeatureProfilesMaxLength : Text := "SupportedFeatureProfilesMaxLength".toList
def transactionMessageAttempts : Text := "TransactionMessageAttempts".toList
def transactionMessageRetryInterval : Text := "TransactionMessageRetryInterval".toList
def unlockConnectorOnEvSideDisconnect : Text := "UnlockConnectorOnEVSideDisconnect".toList
def webSocketPingInterval : Text := "WebSocketPingInterval".toList

end Key

/-- `FEATURE_PROFILES`. -/
def featureProfiles : List Text :=
  ["Core".toList, "FirmwareManagement".toList, "LocalAuthListManagement".toList, "Reservation".toList,
    "RemoteTrigger".toList, "SmartCharging".toList]

/-- `PHASE_ROTATIONS`. -/
def phaseRotations : List Text :=
  ["NotApplicable".toList, "Unknown".toList, "RST".toList, "RTS".toList, "SRT".toList, "STR".toList,
    "TRS".toList, "TSR".toList]

/-- `Measurand::ALL`, by wire name. -/
def measurandNames : List Text :=
  ["Current.Export".toList, "Current.Import".toList, "Current.Offered".toList,
    "Energy.Active.Export.Register".toList, "Energy.Active.Import.Register".toList,
    "Energy.Reactive.Export.Register".toList, "Energy.Reactive.Import.Register".toList,
    "Energy.Active.Export.Interval".toList, "Energy.Active.Import.Interval".toList,
    "Energy.Reactive.Export.Interval".toList, "Energy.Reactive.Import.Interval".toList,
    "Frequency".toList, "Power.Active.Export".toList, "Power.Active.Import".toList,
    "Power.Factor".toList, "Power.Offered".toList, "Power.Reactive.Export".toList,
    "Power.Reactive.Import".toList, "RPM".toList, "SoC".toList, "Temperature".toList, "Voltage".toList]

/-- `DEFAULT_SAMPLED_DATA`, by wire name. -/
def defaultSampledData : List Text :=
  ["Energy.Active.Import.Register".toList, "Power.Active.Import".toList, "Current.Import".toList,
    "Voltage".toList, "Temperature".toList, "SoC".toList]

/-! ## Values -/

/-- Trimmed, non-empty items of a comma-separated list value. -/
def listItems (value : Text) : List Text := ((value.split ',').map Text.trim).filter fun item => !item.isEmpty

/-- `join(",")`. -/
def joinItems (items : List Text) : Text := [','].intercalate items

/-- Integer in the OCPP `int` range, digits only. -/
def parseInt (value : Text) : Option Nat :=
  if value.isEmpty || !value.all Text.isAsciiDigit then none
  else (Text.digits 0 value).filter fun n => decide (n < 2 ^ 31)

/-- `<rotation>` or `<connectorId>.<rotation>`. -/
def isPhaseRotationItem (item : Text) : Bool :=
  match item.splitOnce '.' with
  | some (connector, rotation) =>
    !connector.isEmpty && connector.all Text.isAsciiDigit && phaseRotations.contains rotation
  | none => phaseRotations.contains item

/-- Type and bounds of the value of a key. -/
inductive Kind where
  /-- Read-only, never validated. -/
  | text
  | boolean
  | nonNegativeInt
  | positiveInt
  | measurands
  | phaseRotations
  /-- The integers `0..=3`; transport rules are checked by the station. -/
  | securityProfile
  /-- Write-only secret, 16 to 40 printable ASCII characters. -/
  | secret
  /-- Free text of at most 50 characters. -/
  | name
deriving DecidableEq, Repr

/-- `u8::is_ascii_graphic`. -/
def isAsciiGraphic (c : Char) : Bool := decide ('!' ≤ c) && decide (c ≤ '~')

/-- `Kind::accepts`. -/
def Kind.accepts (kind : Kind) (value : Text) : Bool :=
  match kind with
  | .text => true
  | .boolean => value == "true".toList || value == "false".toList
  | .nonNegativeInt => (parseInt value).isSome
  | .positiveInt => (parseInt value).any fun n => decide (1 ≤ n)
  | .measurands => !(listItems value).isEmpty && (listItems value).all measurandNames.contains
  | .phaseRotations => !(listItems value).isEmpty && (listItems value).all isPhaseRotationItem
  | .securityProfile => (parseInt value).any fun n => decide (n ≤ 3)
  | .secret => decide (16 ≤ value.len) && decide (value.len ≤ 40) && value.all isAsciiGraphic
  | .name => decide (value.length ≤ 50)

/-! ## Entries -/

/-- One configuration key with its current value. -/
structure ConfigEntry where
  /-- Canonical key name. -/
  key : Text
  readonly : Bool
  value : Text
  kind : Kind
  /-- For list keys: the read-only key that bounds the item count. -/
  maxItemsKey : Option Text
deriving DecidableEq

/-- Write-only keys: never shown, logged or saved with the state. -/
def ConfigEntry.secret (entry : ConfigEntry) : Bool := decide (entry.kind = .secret)

def writable (key : Text) (kind : Kind) (value : Text) : ConfigEntry :=
  { key, readonly := false, value, kind, maxItemsKey := none }

def writableList (key : Text) (kind : Kind) (maxKey value : Text) : ConfigEntry :=
  { key, readonly := false, value, kind, maxItemsKey := some maxKey }

def readOnly (key value : Text) : ConfigEntry :=
  { key, readonly := true, value, kind := .text, maxItemsKey := none }

/-- The part of `StationConfig` that the registry reads. -/
structure RegistryConfig where
  connectorCount : Nat := 1
  /-- `initial_connector`, an id of at least 1. -/
  initialConnector : Nat := 1
  model : Text := "KIRBY".toList
  chargePointId : Text := "CP-001".toList
  vendor : Text := "archhaze24".toList
  heartbeatIntervalSecs : Nat := 30
  wsPingIntervalSecs : Nat := 30
  additionalRootCertificateCheck : Bool := false
deriving DecidableEq

/-- `bool::to_string`. -/
def ofBool (b : Bool) : Text := if b then "true".toList else "false".toList

def defaultMeasurands : Text := joinItems defaultSampledData

def firstHalfEntries (config : RegistryConfig) (connectors : Nat) : List ConfigEntry :=
  let phaseRotation := joinItems ((List.range' 1 connectors).map fun id => Text.ofNat id ++ ".Unknown".toList)
  [writable Key.allowCentralSystemTlsWildcards .boolean "false".toList,
    writable Key.allowOfflineTxForUnknownId .boolean "true".toList,
    writable Key.allowSecurityProfileDowngrade .boolean "false".toList,
    readOnly Key.additionalRootCertificateCheck (ofBool config.additionalRootCertificateCheck),
    writable Key.authorizationCacheEnabled .boolean "true".toList,
    writable Key.authorizationKey .secret [],
    writable Key.authorizeRemoteTxRequests .boolean "false".toList,
    writable Key.blinkRepeat .nonNegativeInt "0".toList,
    readOnly Key.certificateSignedMaxChainSize "10000".toList,
    readOnly Key.certificateStoreMaxLength "8".toList,
    writable Key.certSigningRepeatTimes .nonNegativeInt "5".toList,
    writable Key.certSigningWaitMinimum .nonNegativeInt "20".toList,
    readOnly Key.chargePointModel config.model,
    readOnly Key.chargePointSerialNumber config.chargePointId,
    readOnly Key.chargePointVendor config.vendor,
    readOnly Key.chargeProfileMaxStackLevel "10".toList,
    readOnly Key.chargingScheduleAllowedChargingRateUnit "Current,Power".toList,
    readOnly Key.chargingScheduleMaxPeriods "24".toList,
    writable Key.clockAlignedDataInterval .nonNegativeInt "0".toList,
    writable Key.connectionTimeOut .positiveInt "60".toList,
    writableList Key.connectorPhaseRotation .phaseRotations Key.connectorPhaseRotationMaxLength phaseRotation,
    readOnly Key.connectorPhaseRotationMaxLength (Text.ofNat (connectors + 1)),
    writable Key.connectorSwitch3to1PhaseSupported .boolean "false".toList,
    readOnly Key.getConfigurationMaxKeys "50".toList,
    writable Key.heartbeatInterval .positiveInt (Text.ofNat config.heartbeatIntervalSecs),
    writable Key.cpoName .name [],
    writable Key.lightIntensity .nonNegativeInt "0".toList,
    writable Key.localAuthListEnabled .boolean "true".toList,
    readOnly Key.localAuthListMaxLength "1000".toList,
    writable Key.localAuthorizeOffline .boolean "true".toList,
    writable Key.localPreAuthorize .boolean "false".toList]

def secondHalfEntries (config : RegistryConfig) (connectors : Nat) : List ConfigEntry :=
  let measurandMax := Text.ofNat measurandNames.length
  [readOnly Key.maxChargingProfilesInstalled "10".toList,
    writable Key.maxEnergyOnInvalidId .nonNegativeInt "0".toList,
    writableList Key.meterValuesAlignedData .measurands Key.meterValuesAlignedDataMaxLength defaultMeasurands,
    readOnly Key.meterValuesAlignedDataMaxLength measurandMax,
    writableList Key.meterValuesSampledData .measurands Key.meterValuesSampledDataMaxLength defaultMeasurands,
    readOnly Key.meterValuesSampledDataMaxLength measurandMax,
    writable Key.meterValueSampleInterval .nonNegativeInt "60".toList,
    writable Key.minimumStatusDuration .nonNegativeInt "0".toList,
    readOnly Key.numberOfConnectors (Text.ofNat connectors),
    readOnly Key.reserveConnectorZeroSupported "true".toList,
    writable Key.resetRetries .nonNegativeInt "0".toList,
    writable Key.securityProfile .securityProfile "0".toList,
    readOnly Key.sendLocalListMaxLength "1000".toList,
    writable Key.stopTransactionOnEvSideDisconnect .boolean "true".toList,
    writable Key.stopTransactionOnInvalidId .boolean "true".toList,
    writableList Key.stopTxnAlignedData .measurands Key.stopTxnAlignedDataMaxLength defaultMeasurands,
    readOnly Key.stopTxnAlignedDataMaxLength measurandMax,
    writableList Key.stopTxnSampledData .measurands Key.stopTxnSampledDataMaxLength defaultMeasurands,
    readOnly Key.stopTxnSampledDataMaxLength measurandMax,
    readOnly Key.supportedFeatureProfiles (joinItems featureProfiles),
    readOnly Key.supportedFeatureProfilesMaxLength (Text.ofNat featureProfiles.length),
    writable Key.transactionMessageAttempts .positiveInt "1".toList,
    writable Key.transactionMessageRetryInterval .positiveInt "30".toList,
    writable Key.unlockConnectorOnEvSideDisconnect .boolean "false".toList,
    writable Key.webSocketPingInterval .nonNegativeInt (Text.ofNat config.wsPingIntervalSecs)]

/-- All defaults, in alphabetical order. -/
def defaultEntries (config : RegistryConfig) (connectors : Nat) : List ConfigEntry :=
  firstHalfEntries config connectors ++ secondHalfEntries config connectors

/-! ## The registry -/

inductive ConfigurationStatus where
  | accepted | rejected | rebootRequired | notSupported
deriving DecidableEq, Repr

/-- All configuration keys of one station. -/
structure ConfigRegistry where
  entries : List ConfigEntry
  connectorCount : Nat
deriving DecidableEq

namespace ConfigRegistry

/-- The registry with defaults derived from `config`. -/
def new (config : RegistryConfig) : ConfigRegistry :=
  let connectorCount := max (max config.connectorCount config.initialConnector) 1
  { entries := defaultEntries config connectorCount, connectorCount }

/-- The entry is the one of `name`, ignoring ASCII case. -/
def named (name : Text) (entry : ConfigEntry) : Bool := entry.key.eqIgnoreAsciiCase name

/-- Looks a key up, ignoring ASCII case. -/
def get (r : ConfigRegistry) (name : Text) : Option ConfigEntry := r.entries.find? (named name)

/-- Current value of a key, if the key exists. -/
def value (r : ConfigRegistry) (name : Text) : Option Text := (r.get name).map (·.value)

/-- Integer value of a key, `0` if it is missing or not an integer. -/
def number (r : ConfigRegistry) (name : Text) : Nat := ((r.value name).bind Text.parseU32).getD 0

def boolean (r : ConfigRegistry) (name : Text) : Bool := decide (r.value name = some "true".toList)

/-- The entries with the value of the first one of `name` replaced. -/
def setAt (name value : Text) : List ConfigEntry → List ConfigEntry
  | [] => []
  | entry :: entries =>
    if named name entry then { entry with value } :: entries else entry :: setAt name value entries

/-- Writes a value without validation: for values the station derives itself. -/
def setInternal (r : ConfigRegistry) (name value : Text) : ConfigRegistry :=
  { r with entries := setAt name value r.entries }

/-- What `change` would answer, without changing anything. -/
def check (r : ConfigRegistry) (name value : Text) : ConfigurationStatus :=
  match r.get name with
  | none => .notSupported
  | some entry =>
    let fits := match entry.maxItemsKey with
      | none => true
      | some maxKey => decide ((listItems value).length ≤ r.number maxKey)
    if entry.readonly || !entry.kind.accepts value || !fits then .rejected else .accepted

/-- `ChangeConfiguration`. -/
def change (r : ConfigRegistry) (name value : Text) : ConfigRegistry × ConfigurationStatus :=
  match r.check name value with
  | .accepted => (r.setInternal name value, .accepted)
  | status => (r, status)

/-- Called when connectors are added: raises `NumberOfConnectors` and the bound of
`ConnectorPhaseRotation`, and appends an entry for every connector that has none, where the entries name
connectors at all. -/
def setConnectorCount (r : ConfigRegistry) (count : Nat) : ConfigRegistry :=
  if count ≤ r.connectorCount then r
  else
    let r := { r with connectorCount := count }
    let r := r.setInternal Key.numberOfConnectors (Text.ofNat count)
    let r := r.setInternal Key.connectorPhaseRotationMaxLength (Text.ofNat (count + 1))
    match r.value Key.connectorPhaseRotation with
    | none => r
    | some current =>
      let covered := (listItems current).filterMap fun item =>
        (item.splitOnce '.').bind fun parts => Text.parseU32 parts.1
      if covered.isEmpty then r
      else
        let missing := (List.range' 1 count).filter fun id => !covered.contains id
        let items := listItems current ++ missing.map fun id => Text.ofNat id ++ ".Unknown".toList
        r.setInternal Key.connectorPhaseRotation (joinItems items)

/-- The writable values that are saved, in the order of their keys. -/
def snapshot (r : ConfigRegistry) : List (Text × Text) :=
  ((r.entries.filter fun entry => !entry.readonly && !entry.secret).map fun entry =>
    (entry.key, entry.value)).mergeSort fun a b => decide (a.1 ≤ b.1)

/-- Applies saved values; every one goes through `change`. Returns the skipped keys. -/
def restore (r : ConfigRegistry) (values : List (Text × Text)) : ConfigRegistry × List Text :=
  values.foldl (fun (r, skipped) (name, value) =>
    match r.change name value with
    | (r, .accepted) => (r, skipped)
    | (r, _) => (r, skipped ++ [name])) (r, [])

/-- `SecurityProfile`. -/
def securityProfile (r : ConfigRegistry) : Nat :=
  let n := r.number Key.securityProfile
  if n ≤ 255 then n else 0

/-- `AllowSecurityProfileDowngrade`. -/
def allowSecurityProfileDowngrade (r : ConfigRegistry) : Bool := r.boolean Key.allowSecurityProfileDowngrade

/-- The `AuthorizationKey`, if one is set. -/
def authorizationKey (r : ConfigRegistry) : Option Text :=
  (r.value Key.authorizationKey).filter fun v => !v.isEmpty

end ConfigRegistry

end KirbyOcpp.Config
