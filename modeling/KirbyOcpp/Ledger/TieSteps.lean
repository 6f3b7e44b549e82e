import KirbyOcpp.Ledger.Walks

/-!
# The tie as a machine of its own

What the operations of `link.rs` make of the tie is a function of the tie alone, the accepted boot and the hard
reset apart: they also ask whether a CALL or a deadline is pending.
-/

namespace KirbyOcpp

namespace Tie

/-- `start_connect`. -/
def start (t : Tie) : Tie := { t with generation := t.generation + 1, connecting := true }

/-- `connect`. -/
def connect (t : Tie) : Tie :=
  let t := { t with wanted := true, attempts := 0, armed := false }
  if t.conn || t.connecting then t else t.start

/-- `disconnect`. -/
def disconnect (t : Tie) : Tie :=
  { t with
    wanted := false, attempts := 0, armed := false, connecting := false
    generation := t.generation + 1, conn := false }

/-- `reconnect_for_hard_reset`. -/
def hardReset (t : Tie) : Tie :=
  ({ t with
    wanted := true, attempts := 0, armed := false, connecting := false
    generation := t.generation + 1, conn := false } : Tie).start

/-- Whether an attempt may still be made. -/
def allows (t : Tie) (attempt : Nat) : Bool :=
  t.config.reconnectEnabled && (t.config.reconnectMaxAttempts == 0 || decide (attempt ≤ t.config.reconnectMaxAttempts))

/-- `schedule_reconnect`. -/
def schedule (t : Tie) : Tie :=
  if !t.wanted || !t.allows (t.attempts + 1) then t else { t with attempts := t.attempts + 1, armed := true }

/-- The connection is lost. -/
def lose (t : Tie) : Tie :=
  if !t.conn then t else ({ t with generation := t.generation + 1, conn := false } : Tie).schedule

/-- `on_connect_result`. -/
def adopt (generation : Nat) (ok : Bool) (t : Tie) : Tie :=
  if generation ≠ t.generation then t
  else if ok then { t with connecting := false, conn := true }
  else ({ t with connecting := false } : Tie).schedule

/-- `on_reconnect_timer`, with the timer fired. -/
def retry (t : Tie) : Tie :=
  let t := { t with armed := false }
  if !t.wanted || t.conn || t.connecting then t else t.start

/-- `shutdown`. -/
def halt (t : Tie) : Tie :=
  { t with
    wanted := false, armed := false, connecting := false, generation := t.generation + 1, conn := false
    stopped := true }

end Tie

namespace Actor

/-! ## Completion of CALLs -/

/-- An accepted boot sets the counter back. -/
private theorem onBootAccepted_tie (a : Actor) (response : BootNotificationResponse) :
    (a.onBootAccepted response).tie = { a.tie with attempts := 0 } := by
  have later (b : Actor) : SameTie b b.armHeartbeat.markDirty.afterBootAccepted :=
    (((armHeartbeat_walk _).trans (markDirty_walk _)).trans (afterBootAccepted_walk _)).tied
  unfold onBootAccepted
  dsimp only
  split <;> exact later _

/-- The answer to a CALL sets the counter back or leaves the tie as it is. -/
private theorem runCont_tie (continuation : Cont) (result : CallResult) (a : Actor) :
    SameTie a (runCont continuation result a) ∨ (runCont continuation result a).tie = { a.tie with attempts := 0 } := by
  cases continuation with
  | boot generation reply =>
    show SameTie a (onBootDone generation reply (decodeBoot result) a) ∨
      (onBootDone generation reply (decodeBoot result) a).tie = _
    cases decodeBoot result with
    | error error => exact .inl (onBootDone_error_walk _ _ _ _).tied
    | ok response =>
      have landed : SameTie a (if a.link.generation = generation then
          { a with link := { a.link with bootInFlight := false } } else a) := by
        split <;> rfl
      unfold onBootDone onBootResult
      generalize (if a.link.generation = generation then
          ({ a with link := { a.link with bootInFlight := false } } : Actor) else a) = b at landed ⊢
      rw [← (show b.tie = a.tie from landed)]
      have declined (status : RegistrationStatus) (left : Option Nat) : SameTie b
          { ({ b with registration := some status } : Actor).cancelTimer .heartbeat with resetRetries := left } :=
        (cancelTimer_walk { b with registration := _ } (by simp)).tied
      dsimp only
      cases response.status with
      | accepted =>
        exact .inr (Eq.trans (replyIf_walk _ _ _).tied
          (onBootAccepted_tie (({ b with registration := some .accepted } : Actor).record .bootAccepted) response))
      | pending | rejected =>
        refine .inl (landed.trans (.trans ?_ (replyIf_walk _ _ _).tied))
        dsimp only
        split
        · exact (declined _ _).trans (setTimer_walk _ (by simp)).tied
        · exact declined _ _
  | _ => exact .inl (runCont_other_walk (fun _ _ => by simp) result a).tied

/-! ## The operations of the link -/

private theorem cancelReconnect_tie (a : Actor) : (a.cancelTimer .reconnect).tie = { a.tie with armed := false } := by
  unfold tie cancelTimer
  simp

/-- The connection is dropped, and its generation ends. -/
theorem linkDown_tie (a : Actor) (code : Option Nat) :
    (a.linkDown code).tie = { a.tie with generation := a.tie.generation + 1, conn := false } := by
  have quiet : SameTie a (a.cancelTimersWhere isLinkTimer).resetStatusTracking :=
    ((cancelTimersWhere_walk a rfl).trans (resetStatusTracking_walk _)).tied
  have dropped : a.dropLink.tie = { a.tie with generation := a.tie.generation + 1, conn := false } := by
    unfold SameTie at quiet
    rw [← quiet]
    rfl
  exact Eq.trans (failPendingCalls_walk a.dropLink (.closed code)).tied dropped

private theorem connect_tie (a : Actor) : a.connect.tie = a.tie.connect := by
  have idle := cancelReconnect_tie { a with link := { a.link with wanted := true, attempts := 0 } }
  unfold connect Tie.connect
  dsimp only at idle ⊢
  generalize ({ a with link := { a.link with wanted := true, attempts := 0 } } : Actor).cancelTimer .reconnect = b
    at idle ⊢
  have conn : b.link.conn = a.tie.conn := congrArg Tie.conn idle
  have connecting : b.link.connecting = a.tie.connecting := congrArg Tie.connecting idle
  rw [conn, connecting]
  split
  · exact idle
  · show b.tie.start = _
    rw [idle]
    rfl

private theorem disconnect_tie (a : Actor) : a.disconnect.tie = a.tie.disconnect := by
  have idle := cancelReconnect_tie { a with link := { a.link with wanted := false, attempts := 0 } }
  unfold disconnect
  dsimp only at idle ⊢
  generalize ({ a with link := { a.link with wanted := false, attempts := 0 } } : Actor).cancelTimer .reconnect = b
    at idle ⊢
  have down := linkDown_tie { b with link := { b.link with connecting := false } } none
  have open' : ({ b with link := { b.link with connecting := false } } : Actor).tie =
      { b.tie with connecting := false } := rfl
  rw [open', idle] at down
  exact down

private theorem reconnectForHardReset_tie (a : Actor) : a.reconnectForHardReset.tie = a.tie.hardReset := by
  have down := linkDown_tie a none
  unfold reconnectForHardReset
  generalize a.linkDown none = b at down ⊢
  have idle := cancelReconnect_tie { b with link := { b.link with wanted := true, attempts := 0 } }
  dsimp only at idle ⊢
  generalize ({ b with link := { b.link with wanted := true, attempts := 0 } } : Actor).cancelTimer .reconnect = c
    at idle ⊢
  show ({ c.tie with connecting := false } : Tie).start = _
  rw [idle, show ({ b with link := { b.link with wanted := true, attempts := 0 } } : Actor).tie =
    { b.tie with wanted := true, attempts := 0 } from rfl, down]
  rfl

private theorem setReconnect_tie (a : Actor) : (a.setTimer .reconnect).tie = { a.tie with armed := true } := by
  unfold tie setTimer
  simp

private theorem scheduleReconnect_tie (a : Actor) : a.scheduleReconnect.tie = a.tie.schedule := by
  unfold scheduleReconnect Tie.schedule
  cases wanted : a.link.wanted with
  | false => simp [wanted, tie]
  | true =>
    have allows : a.tie.allows (a.tie.attempts + 1) = (a.config.reconnectEnabled &&
        (a.config.reconnectMaxAttempts == 0 || decide (a.link.attempts + 1 ≤ a.config.reconnectMaxAttempts))) := rfl
    rw [allows]
    have wanted' : a.tie.wanted = true := wanted
    rw [wanted']
    dsimp only
    simp only [Bool.not_true, Bool.false_eq_true, Bool.false_or, if_false]
    split
    · rfl
    · refine (setReconnect_tie _).trans ?_
      unfold tie
      dsimp only
      rw [wanted]

/-- `on_reconnect_timer` after the timer has fired. -/
theorem onReconnectTimer_tie (a : Actor) : (a.cancelTimer .reconnect).onReconnectTimer.tie = a.tie.retry := by
  have idle := cancelReconnect_tie a
  generalize a.cancelTimer .reconnect = b at idle ⊢
  have wanted : a.tie.wanted = b.link.wanted := (congrArg Tie.wanted idle).symm
  have conn : a.tie.conn = b.link.conn := (congrArg Tie.conn idle).symm
  have connecting : a.tie.connecting = b.link.connecting := (congrArg Tie.connecting idle).symm
  unfold onReconnectTimer Tie.retry
  dsimp only at idle ⊢
  rw [wanted, conn, connecting] at idle ⊢
  rw [← idle]
  split <;> rfl

/-- An attempt is adopted if it is the latest one. -/
theorem onConnectResult_tie (a : Actor) (generation : Nat) (ok : Bool) (event : Option String) :
    (a.onConnectResult generation ok event).tie = a.tie.adopt generation ok := by
  unfold onConnectResult Tie.adopt
  show (if generation ≠ a.tie.generation then _ else _ : Actor).tie = _
  split
  · rfl
  · dsimp only
    cases ok with
    | true =>
      simp only [if_true]
      let adopted : Actor := { a with link := { a.link with connecting := false, conn := true }, connection := .connected }
      have raised (event : String) : SameTie adopted (adopted.securityEvent event none).flushNow :=
        ((securityEvent_walk _ _ _).trans (flushNow_walk _)).tied
      cases event with
      | some event => exact (raised event).trans (sendBoot_walk _ _).tied
      | none => exact (sendBoot_walk adopted _).tied
    | false =>
      simp only [Bool.false_eq_true, if_false]
      let failed : Actor := { a with link := { a.link with connecting := false } }
      have tie : failed.tie = { a.tie with connecting := false } := rfl
      rw [← tie]
      cases event with
      | some event =>
        rw [← (show _ = failed.tie from (securityEvent_walk failed event none).tied)]
        exact scheduleReconnect_tie { failed.securityEvent event none with connection := .disconnected }
      | none => exact scheduleReconnect_tie { failed with connection := .disconnected }

/-- A loss schedules the next attempt. -/
theorem onClosed_tie (a : Actor) (code : Option Nat) : (a.onClosed code).tie = a.tie.lose := by
  unfold onClosed Tie.lose
  show (if !a.tie.conn then _ else _ : Actor).tie = _
  split
  · rfl
  · rw [← linkDown_tie a code]
    exact scheduleReconnect_tie { a.linkDown code with connection := .disconnected }

/-- A shutdown ends every attempt. -/
theorem shutdown_tie (a : Actor) (reply : Option Reply) : (a.shutdown reply).tie = a.tie.halt := by
  have flushed := (flushMeters_walk a).tied
  have drained : a.drain.tie = { a.tie with wanted := false, armed := false } := by
    unfold drain
    generalize a.flushMeters = b at flushed ⊢
    refine Eq.trans (failPendingCalls_walk { b with link := { b.link with wanted := false }, timers := [] } _).tied ?_
    show ({ b.tie with wanted := false, armed := false } : Tie) = _
    rw [show b.tie = a.tie from flushed]
  have halted : a.drain.halted.tie = a.tie.halt := by
    show ({ a.drain.tie with
      connecting := false, generation := a.drain.tie.generation + 1, conn := false, stopped := true } : Tie) = _
    rw [drained]
    rfl
  have finished : SameTie a.drain.halted a.drain.halted.finishPersistence := by
    have idle : SameTie a.drain.halted (a.drain.halted.cancelTimer .persistFlush) := (cancelTimer_walk _ (by simp)).tied
    unfold finishPersistence
    dsimp only
    split <;> exact idle
  exact Eq.trans (finished.trans (replyIf_walk _ _ _).tied) halted

/-! ## The loop -/

/-- A CALL that is answered may be the boot, which sets the attempts back. -/
theorem onCallDone_tie (a : Actor) (token generation : Nat) (result : CallResult) :
    SameTie a (a.onCallDone token generation result) ∨
      (a.calls ≠ [] ∧ (a.onCallDone token generation result).tie = { a.tie with attempts := 0 }) := by
  unfold onCallDone
  split
  · exact .inl .refl
  · split
    · exact .inl .refl
    · rename_i call found
      have some : a.calls ≠ [] := by
        intro none
        rw [none] at found
        cases found
      exact (runCont_tie call.continuation result (record { a with calls := _ } _)).imp_right fun reset => ⟨some, reset⟩

/-- The timer of a hard reset closes the connection or waits. -/
theorem onHardResetTimer_tie (a : Actor) :
    SameTie a a.onHardResetTimer ∨ (a.link.conn = true ∧ a.onHardResetTimer.tie = a.tie.hardReset) := by
  unfold onHardResetTimer
  split
  · exact .inl .refl
  · split
    · exact .inl .refl
    · rename_i conn
      split
      · exact .inl (setTimer_walk _ (by simp)).tied
      · exact .inr ⟨by simpa using conn, reconnectForHardReset_tie { a with hardResetDeadline := none }⟩

/-- A sample leaves the tie alone, whether it is sent or not. -/
private theorem sampleMeter_tied (a : Actor) (id : ConnectorId) (context : ReadingContext) (deltaWh : Nat)
    (measurands : List Measurand) (reply : Option Reply) :
    SameTie a (a.sampleMeter id context deltaWh measurands reply) := by
  have flushed := (flushMeters_walk a).tied
  have advanced : SameTie a (a.advanced id deltaWh) := by
    have added : SameTie a.flushMeters (a.flushMeters.withConnector id fun c =>
        { c with meterWh := saturatingAdd c.meterWh deltaWh }) := by
      unfold withConnector
      split <;> rfl
    unfold Actor.advanced
    dsimp only
    split
    · exact (flushed.trans added).trans (markDirty_walk _).tied
    · exact flushed.trans added
  rcases a.sampleMeter_cases id context deltaWh measurands reply with ⟨-, eq⟩ | ⟨c, -, eq⟩
  · rw [eq]
    exact flushed.trans (replyIf_walk _ _ _).tied
  · rw [eq]
    dsimp only
    split
    · have read : SameTie a ((a.advanced id deltaWh).meterReading id true).1 :=
        advanced.trans (flushMeters_walk (a.advanced id deltaWh)).tied
      refine .trans ?_ (sendSample_walk _ _ _ _).tied
      split
      · exact read.trans (makeRoomForSample_walk _).tied
      · exact read
    · exact advanced.trans ((replyIf_walk _ _ _).trans (checkEnergyLimit_walk _ _)).tied

private theorem onMeterPeriodic_tied (a : Actor) (id : ConnectorId) : SameTie a (a.onMeterPeriodic id) := by
  unfold onMeterPeriodic
  split
  · exact .refl
  · exact (setTimer_walk a (by simp)).tied.trans (sampleMeter_tied _ _ _ _ _ _)

private theorem onMeterAligned_tied (a : Actor) : SameTie a a.onMeterAligned := by
  have sampled (ids : List ConnectorId) (measurands : List Measurand) (b : Actor) :
      SameTie b (ids.foldl (fun a id => a.sampleMeter id .sampleClock 0 measurands none) b) := by
    induction ids generalizing b with
    | nil => exact .refl
    | cons id ids ih => exact (b.sampleMeter_tied id .sampleClock 0 measurands none).trans (ih _)
  unfold onMeterAligned
  dsimp only
  refine .trans ?_ (sampled _ _ _)
  split
  · exact (setTimer_walk _ (by simp)).tied
  · exact .refl

/-- Every timer but two leaves the tie as it is. -/
theorem onTimer_tied (a : Actor) {key : TimerKey} (reconnect : key ≠ .reconnect) (hardReset : key ≠ .hardReset) :
    SameTie a (a.onTimer key) := by
  cases key with
  | heartbeat => exact (onHeartbeatTimer_walk a).tied
  | reconnect => exact absurd rfl reconnect
  | bootRetry => exact (onBootRetryTimer_walk a).tied
  | statusDebounce id => exact (statusTimerFired_walk a id).tied
  | persistFlush => exact (flushPersistence_walk a).tied
  | meterPeriodic id => exact onMeterPeriodic_tied a id
  | meterAligned => exact onMeterAligned_tied a
  | reservationExpiry id => exact (onReservationTimer_walk a).tied
  | hardReset => exact absurd rfl hardReset
  | syncRetry => exact (onSyncRetryTimer_walk a).tied
  | certSigning => exact (onCertSigningTimer_walk a).tied

/-- The commands that touch the link. -/
def tieOf (t : Tie) : Command → Tie
  | .connect => t.connect
  | .disconnect => t.disconnect
  | .reconnect => t.disconnect.connect
  | _ => t

private theorem addConnector_tied (a : Actor) : SameTie a a.addConnector.1 :=
  ((flushNow_walk { a with connectors := _ }).trans (statusChanged_walk _ _)).tied

/-- What a command makes of the tie. -/
theorem execute_tie (a : Actor) (command : Command) (reply : Reply) :
    (a.execute command reply).tie = tieOf a.tie command := by
  have answered (f : Actor × Except StationError Outcome) (walk : Walk .handling a f.1) :
      (answer f reply).tie = a.tie := walk.tied
  cases command with
  | connect => exact connect_tie a
  | disconnect => exact disconnect_tie a
  | reconnect =>
    show a.disconnect.connect.tie = _
    rw [connect_tie, disconnect_tie]
    rfl
  | boot =>
    show (if !a.link.conn then a.reply reply (.error .notConnected) else a.sendBoot (some reply)).tie = a.tie
    split
    · rfl
    · exact (sendBoot_walk _ _).tied
  | heartbeat => exact (sendHeartbeat_walk _ _ _).tied
  | statusNotification id => exact (sendStatusForced_walk _ _ _ _).tied
  | userCall action => exact (userCall_walk _ _ _ _).tied
  | sendRaw action => exact (userCall_walk _ _ _ _).tied
  | requestCertificate key => exact (requestCertificate_walk _ _ _).tied
  | authorize idTag => exact (authorize_walk _ _ _).tied
  | startTransaction id idTag => exact (startTransaction_walk _ _ _ _).tied
  | stopTransaction id reason idTag => exact (stopTransaction_walk _ _ _ _ _).tied
  | meterValues id deltaWh measurands =>
    unfold execute meterValuesCommand
    dsimp only
    split
    · rfl
    · exact sampleMeter_tied _ _ _ _ _ _
  | addConnector => exact addConnector_tied a
  | plugIn id => exact answered _ (plugIn_walk a id)
  | unplug id => exact (unplug_walk _ _ _).tied
  | setConnectorStatus id status => exact answered _ (setStatus_walk a id status)
  | cycleConnectorStatus id =>
    unfold execute
    dsimp only
    split
    · rfl
    · exact answered _ (setStatus_walk a id _)
  | fault id code info vendorCode => exact (fault_walk _ _ _ _ _ _).tied
  | clearFault id => exact answered _ (clearFault_walk a id)
  | setConfiguration change =>
    cases change with
    | none => rfl
    | some change => exact (applyConfigurationChange_walk a change).tied
  | editLocalList list =>
    cases list with
    | none => rfl
    | some localList => exact (flushNow_walk { a with localList }).tied
  | installChargingProfile id profile =>
    have stored := setChargingProfile_walk a id profile
    unfold execute
    dsimp only
    split
    · exact (stored.trans (flushNow_walk _)).tied
    · exact stored.tied
  | clearChargingProfiles id => exact (flushNow_walk { a with profiles := _ }).tied
  | sendSecurityEvent eventType => exact (securityEvent_walk _ _ _).tied
  | simulation => rfl

end Actor

end KirbyOcpp
