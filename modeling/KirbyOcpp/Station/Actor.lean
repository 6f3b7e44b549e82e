import KirbyOcpp.Station.Offline
import KirbyOcpp.Station.Authorization
import KirbyOcpp.Station.ChargingProfiles

/-!
# The state of the station actor: `actor.rs`

The record that the actor loop owns, the continuations of its CALLs and its small accessors.

* A `HashMap` is an association list, a timer is armed or not: delays are not modelled, so an armed
  timer may fire at any moment.
* A continuation is data (`Cont`) instead of a closure; it holds what the closure captures. The same
  goes for the completion of an operation (`Done`, `AuthDone`).
* A pending CALL also holds what its task captures: the payload, the link generation and the number of
  attempts.
* `history` is a ghost: what the actor has done, latest first. Nothing reads it.
* Simulated maintenance, certificates and response rules only show as CALLs whose answers are
  ignored; their own state is left out.
-/

namespace KirbyOcpp

/-! ## Maps -/

/-- `HashMap::insert`. -/
def insertAt {K V : Type} [BEq K] (key : K) (value : V) (map : List (K × V)) : List (K × V) :=
  (key, value) :: map.filter fun entry => !(entry.1 == key)

/-- `HashMap::remove`. -/
def removeAt {K V : Type} [BEq K] (key : K) (map : List (K × V)) : List (K × V) :=
  map.filter fun entry => !(entry.1 == key)

/-! ## Configuration -/

/-- The part of `StationConfig` the actor reads. -/
structure StationConfig where
  connectorCount : Nat := 1
  vendor : String := "Kirby"
  nominalPowerW : Nat := 7200
  voltageV : Nat := 230
  phases : Nat := 1
  reconnectEnabled : Bool := true
  reconnectMaxAttempts : Nat := 0
  /-- A state directory is configured. -/
  persist : Bool := false
deriving DecidableEq

/-! ## Replies and results -/

/-- Answer channel of a command. -/
abbrev Reply := Nat

/-- What a successfully handled command produced. -/
inductive Outcome where
  | done
  | connectorAdded (connector : ConnectorId)
  | authorized (decision : AuthorizationDecision)
  | transactionStarted (connector : ConnectorId) (txId : TxId)
  | transactionRejected (status : AuthorizationStatus)
  | response
deriving DecidableEq

inductive StationError where
  | notConnected
  | unknownConnector (id : ConnectorId)
  | invalidState (connector : Option ConnectorId) (reason : String)
  | invalidArgument (reason : String)
  | call (error : CallError)
deriving DecidableEq

/-- How a failed CALL is reported to the caller of a command. -/
def callFailure : CallError → StationError
  | .notConnected => .notConnected
  | other => .call other

/-- The state of a connector does not allow the command. -/
def invalid (connector : ConnectorId) (reason : String) : StationError :=
  .invalidState (some connector) reason

/-- The status in the answer to a CALL of the CSMS. -/
inductive Answer where
  | remoteStart (accepted : Bool)
  | remoteStop (accepted : Bool)
  | availability (scheduled : Option Bool)
  | unlock (supported : Bool)
  | reservation (status : ReservationStatus)
  | cancelReservation (accepted : Bool)
  | trigger (accepted : Bool)
  | chargingProfile (status : ChargingProfileStatus)
  | clearProfile (cleared : Bool)
  | composite (schedule : Option (CompositeSchedule Rat))
  | configuration (accepted : Bool)
  | localList (accepted : Bool)
  | certificateSigned (accepted : Bool)
  | reset
  | other
deriving DecidableEq

/-! ## Continuations -/

/-- Completion of a start or a stop. -/
inductive Done where
  | reply (reply : Reply)
  | ignore
  /-- A `RemoteStartTransaction`: installs its charging profile on the started transaction. -/
  | remoteStart (connector : ConnectorId) (profile : Option (ChargingProfile Rat))
deriving DecidableEq

/-- Completion of an `Authorize`. -/
inductive AuthDone where
  | reply (reply : Reply)
  /-- A `RemoteStartTransaction` that waits for the authorization. -/
  | remoteStart (connector : ConnectorId) (idTag : IdTag) (profile : Option (ChargingProfile Rat))
deriving DecidableEq

/-- The reportable state of a connector. -/
structure StatusKey where
  status : ConnectorStatus
  errorCode : ChargePointErrorCode
  info : Option String
  vendorId : Option String
  vendorErrorCode : Option String
deriving DecidableEq

/-- Runs once, inside the actor, when a CALL has been answered or failed. -/
inductive Cont where
  | startResult (id : ConnectorId) (localId : TxId) (pending : PendingStart) (done : Done)
  | stopResult (id : ConnectorId) (tx : TxId) (tag : IdTag) (startedAt : Instant) (meterStartWh : Nat)
      (info : StopInfo) (done : Done)
  | syncStart (key : Nat)
  /-- The stop that is sent is a ghost. -/
  | syncStop (key : Nat) (info : StopInfo)
  /-- `send_stop_for`: nothing to do; the session is a ghost. -/
  | closeRefused (session : Nat)
  | authorize (idTag : IdTag) (done : AuthDone)
  | boot (generation : Nat) (reply : Option Reply)
  | heartbeat (reply : Option Reply)
  | status (id : ConnectorId) (key : StatusKey) (reply : Option Reply)
  | meterValues (id : ConnectorId) (reply : Option Reply)
  | securityEvent (event : PendingSecurityEvent)
  | signCertificate (series : Nat) (key : Nat) (previous : Option Nat) (reply : Option Reply)
  | userCall (reply : Reply)
  | ignore
deriving DecidableEq

/-- A CALL that has been handed to the connection and not completed yet. -/
structure PendingCall where
  token : Nat
  /-- The link generation its task reports. -/
  generation : Nat
  origin : Origin
  request : Request
  continuation : Cont
  /-- The attempts of its task. -/
  attempts : Nat
deriving DecidableEq

/-! ## Runtime state -/

/-- Names of the timers the actor uses. -/
inductive TimerKey where
  | heartbeat | reconnect | bootRetry
  | statusDebounce (id : ConnectorId)
  | persistFlush
  | meterPeriodic (id : ConnectorId)
  | meterAligned
  | reservationExpiry (id : ConnectorId)
  | hardReset | syncRetry | certSigning
deriving DecidableEq

inductive ConnectionState where
  | disconnected | connecting | connected
  | backoff (attempt : Nat)
deriving DecidableEq

/-- The connection to the CSMS and everything about keeping it. -/
structure Link where
  /-- A connection is open. -/
  conn : Bool := false
  /-- Bumped whenever the link is replaced or torn down. -/
  generation : Nat := 0
  /-- A connection is being opened. -/
  connecting : Bool := false
  wanted : Bool := false
  attempts : Nat := 0
  /-- A `BootNotification` CALL is in flight. -/
  bootInFlight : Bool := false
deriving DecidableEq

/-- Last sent state and pending debounce of one connector. -/
structure StatusTracker where
  lastSent : Option StatusKey := none
  pending : Option (StatusKey × Instant) := none
deriving DecidableEq

/-- Per-connector integration state. -/
structure MeterRuntime where
  /-- Monotonic time, in nanoseconds. -/
  last : Int
  lastUtc : Instant
  /-- Status was `Charging` at `last`. -/
  charging : Bool
  pendingWh : Rat
  carryWh : Rat
  sampleBaseWh : Rat
deriving DecidableEq

/-- Ghost: what one settlement did for one connector. -/
structure Settlement where
  connector : ConnectorId
  /-- When the span began that ends now: the settlement before. -/
  since : Option Int
  «until» : Int
  /-- The energy of the span, if it was integrated. -/
  energyWh : Option Rat
  /-- Status is `Charging` at the end of the span. -/
  charging : Bool

/-- A `SignCertificate` back-off series. -/
structure SignSeries where
  id : Nat
  key : Nat
  repeats : Nat
deriving DecidableEq

/-- What is persisted of a connector. -/
structure PersistedConnector where
  id : ConnectorId
  status : ConnectorStatus
  availability : AvailabilityType
  pendingAvailability : Option AvailabilityType
  evConnected : Bool
  meterWh : Nat
  lastIdTag : Option IdTag
  reservation : Option Reservation
  transaction : TransactionState
deriving DecidableEq

/-- The state worth keeping. -/
structure PersistedStation where
  chargePointAvailability : AvailabilityType
  connectorCount : Nat
  connectors : List PersistedConnector
  localAuthorizationList : LocalAuthList
  authorizationCache : AuthorizationCache
  chargingProfiles : ChargingProfileStore Rat
  offlineQueue : OfflineQueue
  configuration : ConfigRegistry
  securityEvents : List PendingSecurityEvent

/-- Wiring of the store. -/
structure Persistence where
  store : Bool := false
  dirty : Bool := false
  inFlight : Bool := false
  queued : Bool := false
  secretsDirty : Bool := false

/-- What the actor has done. -/
inductive Event where
  /-- A CALL was accepted by `call_raw`. -/
  | called (call : PendingCall)
  /-- The continuation of a CALL has run. -/
  | completed (call : PendingCall) (result : CallResult)
  /-- A CALL was dropped with its continuation. -/
  | abandoned (call : PendingCall)
  | replied (reply : Reply) (result : Except StationError Outcome)
  | responded (answer : Answer)
  /-- A start passed its checks. -/
  | sessionStarted (connector : ConnectorId) (key : Nat)
  /-- The connector charges for `pending`, which consumes the reservation. -/
  | charged (connector : ConnectorId) (pending : PendingStart) (consumed : Option Reservation) (time : Instant)
  /-- A stop passed its checks. -/
  | stopRequested (connector : ConnectorId) (info : StopInfo)
  /-- An entry was dropped because the queue was full. -/
  | dropped (entry : OfflineTx)
  /-- An entry was dropped after its last retry round. -/
  | gaveUp (entry : OfflineTx)
  /-- The CSMS refused the idTag of a queued start. -/
  | startRefused (entry : OfflineTx)
  /-- A sync of the entries `keys` began; with the keys of the whole queue. -/
  | syncStarted (boot : Bool) (keys queue : List Nat)
  /-- A `BootNotification` was answered `Accepted`. -/
  | bootAccepted
  /-- `finish_boot_accepted` ran: meters rescheduled, statuses re-sent. -/
  | bootFinished
  /-- A security event was reported. -/
  | raised (event : PendingSecurityEvent)
  /-- `push_bounded`: `event` joined `queue`. -/
  | pushed (queue : List PendingSecurityEvent) (event : PendingSecurityEvent)

/-- The station actor. -/
structure Actor where
  config : StationConfig
  /-- The wall clock of this iteration. -/
  now : Instant
  /-- The monotonic clock of this iteration, in nanoseconds. -/
  mono : Int
  connectors : List ConnectorSnapshot
  chargePoint : ConnectorSnapshot
  connection : ConnectionState := .disconnected
  registration : Option RegistrationStatus := none
  registry : ConfigRegistry
  localList : LocalAuthList := {}
  authCache : AuthorizationCache := {}
  profiles : ChargingProfileStore Rat := []
  queue : OfflineQueue := []
  securityEvents : List PendingSecurityEvent := []
  startupEventPending : Bool := true
  signSeries : Option SignSeries := none
  nextSignSeries : Nat := 0
  pendingKey : Option Nat := none
  /-- Counter for station-local transaction ids and queue keys. -/
  nextLocal : Nat
  /-- Energy (Wh) after which a transaction with an invalidated idTag is stopped. -/
  invalidLimits : List (ConnectorId × Nat) := []
  meters : List (ConnectorId × MeterRuntime) := []
  /-- Offline syncs of queue entries still running. -/
  syncOutstanding : Nat := 0
  /-- Queue keys not yet started by the running offline sync. -/
  syncKeys : List Nat := []
  /-- The running sync follows an accepted boot. -/
  syncBoot : Bool := false
  /-- A queued message failed in the running sync: arm a retry when it ends. -/
  syncFailed : Bool := false
  /-- Rounds each queued message failed in this connection. -/
  syncFailures : List (Nat × Nat) := []
  resetRetries : Option Nat := none
  hardResetDeadline : Option Int := none
  /-- The armed timers. -/
  timers : List TimerKey := []
  link : Link := {}
  /-- The CALLs in flight, oldest first. -/
  calls : List PendingCall := []
  nextCallToken : Nat := 0
  /-- Tokens of the timer-driven `MeterValues` in flight, oldest first. -/
  sampleCalls : List Nat := []
  sampleOverflowWarned : Bool := false
  trackers : List (ConnectorId × StatusTracker) := []
  persistence : Persistence := {}
  /-- The data of every write that was started, latest first. -/
  written : List PersistedStation := []
  /-- The actor loop has ended. -/
  stopped : Bool := false
  /-- Ghost: what the actor has done, latest first. -/
  history : List Event := []
  /-- Ghost: the settlements of the meters, latest first. -/
  settlements : List Settlement := []

namespace Actor

/-! ## Small accessors -/

/-- Records what was done. -/
def record (a : Actor) (event : Event) : Actor := { a with history := event :: a.history }

/-- `reply.send(..)`. -/
def reply (a : Actor) (reply : Reply) (result : Except StationError Outcome) : Actor :=
  a.record (.replied reply result)

/-- `reply.send(..)` of an optional reply. -/
def replyIf (a : Actor) (reply : Option Reply) (result : Except StationError Outcome) : Actor :=
  match reply with
  | some reply => a.reply reply result
  | none => a

/-- `TimerWheel::set`. -/
def setTimer (a : Actor) (key : TimerKey) : Actor :=
  { a with timers := key :: a.timers.filter fun other => decide (other ≠ key) }

/-- `TimerWheel::set_if_idle`. -/
def setTimerIfIdle (a : Actor) (key : TimerKey) : Actor :=
  if key ∈ a.timers then a else a.setTimer key

/-- `TimerWheel::cancel`. -/
def cancelTimer (a : Actor) (key : TimerKey) : Actor :=
  { a with timers := a.timers.filter fun other => decide (other ≠ key) }

/-- `TimerWheel::cancel_where`. -/
def cancelTimersWhere (a : Actor) (p : TimerKey → Bool) : Actor :=
  { a with timers := a.timers.filter fun key => !p key }

/-- A connector by id; `0` is the charge point. -/
def findConnector (a : Actor) (id : ConnectorId) : Option ConnectorSnapshot :=
  if isStation id then some a.chargePoint else a.connectors.find? fun c => c.id == id

/-- Changes the connector `find_connector_mut` gives, if there is one. -/
def withConnector (a : Actor) (id : ConnectorId) (f : ConnectorSnapshot → ConnectorSnapshot) : Actor :=
  if isStation id then { a with chargePoint := f a.chargePoint }
  else { a with connectors := updateConnector a.connectors id f }

/-- A physical connector. -/
def connector (a : Actor) (id : ConnectorId) : Option ConnectorSnapshot :=
  if isStation id then none else a.connectors.find? fun c => c.id == id

/-- Connected and `BootNotification` accepted. -/
def canTalk (a : Actor) : Bool := a.link.conn && decide (a.registration = some .accepted)

/-- The tracker of a connector. -/
def tracker (a : Actor) (id : ConnectorId) : StatusTracker := (a.trackers.lookup id).getD {}

def setTracker (a : Actor) (id : ConnectorId) (tracker : StatusTracker) : Actor :=
  { a with trackers := insertAt id tracker a.trackers }

/-- Rounds a queued message failed in this connection. -/
def failures (a : Actor) (key : Nat) : Nat := (a.syncFailures.lookup key).getD 0

end Actor

end KirbyOcpp
