import KirbyOcpp.Station.Transactions

/-!
# The link: `link.rs`, the completion of CALLs, `secure.rs`

Boot and heartbeat, the `SignCertificate` series, the dispatch of a result to its continuation,
`fail_pending_calls`, and everything that opens or closes the link.
-/

namespace KirbyOcpp

namespace Actor

/-! ## BootNotification -/

def armHeartbeat (a : Actor) : Actor := a.setTimer .heartbeat

/-- Everything that follows an accepted boot. -/
def afterBootAccepted (a : Actor) : Actor :=
  let (count, a) := ({ a with resetRetries := none }).startOfflineSync true
  if count = 0 then a.finishBootAccepted else a

def onBootAccepted (a : Actor) (response : BootNotificationResponse) : Actor :=
  let a := { a with link := { a.link with attempts := 0 } }
  let a := if 0 < response.interval then
      { a with registry := { a.registry with heartbeatInterval := response.interval.toNat } }
    else a
  a.armHeartbeat.markDirty.afterBootAccepted

/-- `on_boot_result`. -/
def onBootResult (result : Except CallError BootNotificationResponse) (reply : Option Reply)
    (a : Actor) : Actor :=
  match result with
  | .error error =>
    let a := if a.link.conn && a.link.wanted then a.setTimer .bootRetry else a
    a.replyIf reply (.error (callFailure error))
  | .ok response =>
    let a := { a with registration := some response.status }
    let a := match response.status with
      | .accepted => (a.record .bootAccepted).onBootAccepted response
      | .pending | .rejected =>
        let a := a.cancelTimer .heartbeat
        let a := { a with resetRetries := (a.resetRetries.filter fun left => decide (0 < left)).map (· - 1) }
        if a.link.conn && a.link.wanted then a.setTimer .bootRetry else a
    a.replyIf reply (.ok .response)

/-- The continuation of a `BootNotification`. -/
def onBootDone (generation : Nat) (reply : Option Reply)
    (result : Except CallError BootNotificationResponse) (a : Actor) : Actor :=
  let a := if a.link.generation = generation then
      { a with link := { a.link with bootInFlight := false } }
    else a
  onBootResult result reply a

/-- Sends `BootNotification`. Without a reply a boot already in flight is not duplicated. -/
def sendBoot (a : Actor) (reply : Option Reply) : Actor :=
  if reply.isNone && a.link.bootInFlight then a
  else
    let a := a.cancelTimer .bootRetry
    let a := { a with link := { a.link with bootInFlight := true } }
    a.call .station .bootNotification (.boot a.link.generation reply)
      fun error => onBootDone a.link.generation reply (.error error)

def onBootRetryTimer (a : Actor) : Actor := if a.link.conn then a.sendBoot none else a

/-! ## Heartbeat -/

/-- The continuation of a `Heartbeat` and of a user's CALL. -/
def onUserCallResult (reply : Option Reply) (result : Except CallError Unit) (a : Actor) : Actor :=
  match result with
  | .ok _ => a.replyIf reply (.ok .response)
  | .error error => a.replyIf reply (.error (callFailure error))

def sendHeartbeat (a : Actor) (origin : Origin) (reply : Option Reply) : Actor :=
  a.call origin .heartbeat (.heartbeat reply) fun error => onUserCallResult reply (.error error)

def onHeartbeatTimer (a : Actor) : Actor :=
  if a.registration ≠ some .accepted then a else a.armHeartbeat.sendHeartbeat .station none

/-! ## SignCertificate -/

/-- Puts `previous` back after a failed request, unless a newer one has replaced the key. -/
def restorePendingKey (a : Actor) (key : Nat) (previous : Option Nat) : Actor :=
  if a.pendingKey = some key then ({ a with pendingKey := previous }).markSecretsDirty else a

/-- Waits, then repeats the request; stops the series when its repeats were sent. -/
def armCertSigningRetry (a : Actor) (id : Nat) : Actor :=
  match a.signSeries.filter fun series => series.id == id with
  | none => a
  | some series =>
    if a.registry.certSigningRepeatTimes ≤ series.repeats then
      { a.cancelTimer .certSigning with signSeries := none }
    else a.setTimer .certSigning

/-- The continuation of a `SignCertificate`: whether it was accepted. -/
def onSignResult (series key : Nat) (previous : Option Nat) (reply : Option Reply)
    (result : Except CallError Bool) (a : Actor) : Actor :=
  match result with
  | .ok accepted =>
    let a := if accepted then a else a.restorePendingKey key previous
    (a.armCertSigningRetry series).replyIf reply (.ok .response)
  | .error error =>
    ((a.restorePendingKey key previous).armCertSigningRetry series).replyIf reply
      (.error (callFailure error))

/-- Sends `SignCertificate` for series `id`. -/
def sendSignCertificate (a : Actor) (id : Nat) (reply : Option Reply) : Actor :=
  match a.signSeries.filter fun series => series.id == id with
  | none => a.replyIf reply (.error .notConnected)
  | some series =>
    let previous := a.pendingKey
    ({ a with pendingKey := some series.key }).markSecretsDirty.call .station
      (.signCertificate series.key) (.signCertificate id series.key previous reply)
      fun error => onSignResult id series.key previous reply (.error error)

/-- Starts a series for the new key pair `key`. -/
def requestCertificate (a : Actor) (key : Nat) (reply : Option Reply) : Actor :=
  if !a.link.conn then a.replyIf reply (.error .notConnected)
  else
    let id := a.nextSignSeries + 1
    let a := ({ a with nextSignSeries := id }).cancelTimer .certSigning
    ({ a with signSeries := some { id, key, repeats := 0 } }).sendSignCertificate id reply

def onCertSigningTimer (a : Actor) : Actor :=
  match a.signSeries with
  | none => a
  | some series =>
    if !a.canTalk then a.setTimer .certSigning
    else ({ a with signSeries := some { series with repeats := series.repeats + 1 } }).sendSignCertificate
      series.id none

/-! ## Completion of CALLs -/

/-- Runs a continuation with the outcome of its CALL. -/
def runCont (continuation : Cont) (result : CallResult) (a : Actor) : Actor :=
  match continuation with
  | .startResult id localId pending done => onStartResult id localId pending done (decodeStart result) a
  | .stopResult id tx tag startedAt meterStartWh info done =>
    onStopResult id tx tag startedAt meterStartWh info done (decodeAny result) a
  | .syncStart key => onSyncStart key (decodeStart result) a
  | .syncStop key _ => onSyncStop key (decodeAny result) a
  | .closeRefused _ => a
  | .authorize idTag done => onAuthorizeResult idTag done (decodeAuthorize result) a
  | .boot generation reply => onBootDone generation reply (decodeBoot result) a
  | .heartbeat reply => onUserCallResult reply (decodeAny result) a
  | .status id key reply => onStatusResult id key reply (decodeAny result) a
  | .meterValues id reply => onMeterValuesResult id reply (decodeAny result) a
  | .securityEvent event => onSecurityEventResult event (decodeAny result) a
  | .signCertificate series key previous reply =>
    onSignResult series key previous reply (decodeSign result) a
  | .userCall reply => onUserCallResult (some reply) (decodeAny result) a
  | .ignore => a

/-- Runs the continuation of `call`. -/
def complete (call : PendingCall) (result : CallResult) (a : Actor) : Actor :=
  runCont call.continuation result (a.record (.completed call result))

/-- `CallDone` arrived from a call task. -/
def onCallDone (a : Actor) (token generation : Nat) (result : CallResult) : Actor :=
  if generation ≠ a.link.generation then a
  else match a.calls.find? fun call => call.token == token with
    | none => a
    | some call =>
      complete call result { a with calls := a.calls.filter fun call => !(call.token == token) }

/-- Fails every call in flight: each continuation runs once with `error`. -/
def failPendingCalls (a : Actor) (error : CallError) : Actor :=
  a.calls.foldl (fun a call => complete call (.error error) a) { a with calls := [] }

/-! ## Opening and closing the link -/

/-- The timers that `link_down` cancels, the debounce timers apart. -/
def isLinkTimer : TimerKey → Bool
  | .heartbeat | .bootRetry | .hardReset | .syncRetry => true
  | _ => false

/-- `link_down` before its CALLs fail: nothing of the connection is left. -/
def dropLink (a : Actor) : Actor :=
  let a := (a.cancelTimersWhere isLinkTimer).resetStatusTracking
  { a with
    link := { a.link with generation := a.link.generation + 1, conn := false, bootInFlight := false }
    hardResetDeadline := none, syncOutstanding := 0, syncKeys := [], syncBoot := false
    syncFailed := false, syncFailures := [], registration := none }

/-- Everything that must stop when the connection is gone, whatever the reason. -/
def linkDown (a : Actor) (code : Option Nat) : Actor :=
  { a.dropLink.failPendingCalls (.closed code) with connection := .disconnected }

def startConnect (a : Actor) : Actor :=
  { a with
    link := { a.link with generation := a.link.generation + 1, connecting := true }
    connection := .connecting }

/-- `Connect` command. -/
def connect (a : Actor) : Actor :=
  let a := ({ a with link := { a.link with wanted := true, attempts := 0 } }).cancelTimer .reconnect
  if a.link.conn || a.link.connecting then a else a.startConnect

/-- `Disconnect` command. -/
def disconnect (a : Actor) : Actor :=
  let a := ({ a with link := { a.link with wanted := false, attempts := 0 } }).cancelTimer .reconnect
  let a := { a with link := { a.link with connecting := false } }
  { a.linkDown none with connection := .disconnected }

/-- Hard `Reset`: closes the connection and opens a new one right away. -/
def reconnectForHardReset (a : Actor) : Actor :=
  let a := a.linkDown none
  let a := ({ a with link := { a.link with wanted := true, attempts := 0 } }).cancelTimer .reconnect
  ({ a with link := { a.link with connecting := false } }).startConnect

/-- Arms the next reconnect attempt, or gives up when the attempts are used up. -/
def scheduleReconnect (a : Actor) : Actor :=
  if !a.link.wanted then a
  else
    let attempt := a.link.attempts + 1
    if !(a.config.reconnectEnabled &&
        (a.config.reconnectMaxAttempts == 0 || decide (attempt ≤ a.config.reconnectMaxAttempts))) then
      { a with connection := .disconnected }
    else
      ({ a with link := { a.link with attempts := attempt }, connection := .backoff attempt }).setTimer
        .reconnect

def onReconnectTimer (a : Actor) : Actor :=
  if !a.link.wanted || a.link.conn || a.link.connecting then a else a.startConnect

/-- A connection attempt finished. `event` is the security event that the attempt gives rise to. -/
def onConnectResult (a : Actor) (generation : Nat) (ok : Bool) (event : Option String) : Actor :=
  if generation ≠ a.link.generation then a
  else
    let a := { a with link := { a.link with connecting := false } }
    if ok then
      let a := { a with link := { a.link with conn := true }, connection := .connected }
      let a := match event with
        | some event => (a.securityEvent event none).flushNow
        | none => a
      a.sendBoot none
    else
      let a := match event with
        | some event => a.securityEvent event none
        | none => a
      ({ a with connection := .disconnected }).scheduleReconnect

/-- The connection was closed, not by a command. -/
def onClosed (a : Actor) (code : Option Nat) : Actor :=
  if !a.link.conn then a
  else ({ a.linkDown code with connection := .disconnected }).scheduleReconnect

/-! ## Reset -/

/-- Longest a hard reset waits for answers, in nanoseconds. -/
def hardResetWait : Int := 5000000000

/-- Arms the reconnect that runs once the reply and the CALLs in flight are done. -/
def scheduleReconnectAfterReply (a : Actor) : Actor :=
  ({ a with hardResetDeadline := some (a.mono + hardResetWait) }).setTimer .hardReset

/-- The reset of one connector with a transaction. -/
def resetConnector (reason : StopReason) (a : Actor) (id : ConnectorId) : Actor :=
  ((a.stopTransaction id reason none .ignore).withConnector id fun c =>
    { c with
      evConnected := false
      status := if c.availability = .inoperative then .unavailable else .available }).statusChanged id

/-- The reset of one reservation. -/
def resetReservation (a : Actor) (id : ConnectorId) : Actor :=
  ((a.withConnector id clearReservation).cancelTimer (.reservationExpiry id)).statusChanged id

/-- Why a reset stops a transaction. -/
def resetReason : ResetType → StopReason
  | .hard => .hardReset
  | .soft => .softReset

def performReset (a : Actor) (kind : ResetType) : Actor :=
  let a := a.securityEvent "ResetOrReboot" none
  let a := (a.cancelTimer .heartbeat).cancelTimer .bootRetry
  let a := a.cancelTimersWhere fun key => match key with
    | .meterPeriodic _ | .meterAligned => true
    | _ => false
  let running := (a.connectors.filter fun c => !c.transaction.isIdle).map (·.id)
  let a := running.foldl (resetConnector (resetReason kind)) a
  let reserved := (a.connectors.filter fun c => c.reservation.isSome).map (·.id)
  let a := reserved.foldl resetReservation a
  let a := { a with registration := none, resetRetries := some a.registry.resetRetries }
  let a := if a.link.conn then
      match kind with
      | .soft => a.setTimer .bootRetry
      | .hard => a.scheduleReconnectAfterReply
    else a
  a.flushNow

/-- Reconnects once the CALLs in flight are done, or the wait ran out. -/
def onHardResetTimer (a : Actor) : Actor :=
  match a.hardResetDeadline with
  | none => a
  | some deadline =>
    if !a.link.conn then { a with hardResetDeadline := none }
    else if !a.calls.isEmpty && decide (a.mono < deadline) then a.setTimer .hardReset
    else ({ a with hardResetDeadline := none }).reconnectForHardReset

/-- After a change of the security parameters the station reconnects. -/
def reconnectForNewSecurityParameters (a : Actor) : Actor :=
  if !a.link.conn || a.hardResetDeadline.isSome then a else a.scheduleReconnectAfterReply

end Actor

end KirbyOcpp
