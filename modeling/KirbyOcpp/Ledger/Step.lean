import KirbyOcpp.Ledger.Commands

/-!
# The loop as paths

Every handler of an input is a path of the ledger, under what the permissions ask for in the state in
which the handler runs (`Permits`). So is an iteration of the loop (`step_path`).
-/

namespace KirbyOcpp

open Paths Relation

namespace Actor

variable {allow : Allow}

/-! ## Inputs -/

/-- What the permissions ask for before a command is handled. -/
def PermitsCommand (allow : Allow) (a : Actor) : Command → Prop
  | .startTransaction id idTag => MayStart allow a id idTag
  | .stopTransaction id _ _ => allow.stops id = true
  | .meterValues id _ _ => id ∈ a.limited → allow.stops id = true
  | .plugIn id => MayPlugIn allow a id
  | .unplug id => MayUnplug allow a id
  | .fault id _ _ _ => allow.mask = true ∧ allow.stops id = true
  | .clearFault id => MayClear allow a id
  | .setConnectorStatus _ _ | .cycleConnectorStatus _ => allow.Manual
  | .disconnect | .reconnect => allow.Closes a.limited
  | _ => True

/-- What the permissions ask for before a CALL of the CSMS is handled. -/
def PermitsIncoming (allow : Allow) (a : Actor) : Incoming → Prop
  | .remoteStart connectorId idTag profile => MayBegin allow a connectorId idTag profile
  | .remoteStop transactionId => MayRemoteStop allow a transactionId
  | .unlockConnector id => allow.stops id = true
  | .reset _ => MayReset allow a
  | .changeAvailability _ _ => allow.changes = true
  | .reserveNow _ | .cancelReservation _ => allow.bare = true ∨ allow.releases = true
  | _ => True

/-- What the permissions ask for before a timer fires. -/
def PermitsTimer (allow : Allow) (a : Actor) : TimerKey → Prop
  | .meterPeriodic id => id ∈ a.limited → allow.stops id = true
  | .meterAligned => allow.StopsLimited a.limited
  | .reservationExpiry _ => allow.bare = true ∨ allow.releases = true
  | .hardReset => allow.Closes a.limited
  | _ => True

/-- What the permissions ask for before an input is handled. -/
def Permits (allow : Allow) (a : Actor) : Input → Prop
  | .command command _ => PermitsCommand allow a command
  | .incoming call => a.link.conn = true → PermitsIncoming allow a call
  | .timer key => PermitsTimer allow a key
  | .closed _ => allow.Closes a.limited
  | .connected _ _ _ => allow.opens = true
  | .callDone token generation result => generation = a.link.generation → MayReceive allow a token result
  | .shutdown _ => allow.Closes a.limited ∧ (allow.abandon = true ∨ a.drain.calls = [])
  | .saved _ | .maintenance _ _ => True

theorem answer_path {a : Actor} {result : Actor × Except StationError Outcome} {reply : Reply}
    (path : Path allow (a.ledger [] .none) (result.1.ledger [] .none)) :
    Path allow (a.ledger [] .none) ((answer result reply).ledger [] .none) :=
  path.trans ((reply_quiet _ _ _).path [] .none)

theorem execute_path (a : Actor) (command : Command) (reply : Reply) (ids : Ids (a.ledger [] .none))
    (running : a.stopped = false) (permits : PermitsCommand allow a command) :
    Path allow (a.ledger [] .none) ((a.execute command reply).ledger [] .none) := by
  cases command with
  | connect => exact a.connect_path.trans ((reply_quiet _ _ _).path [] .none)
  | disconnect => exact (a.disconnect_path running permits).trans ((reply_quiet _ _ _).path [] .none)
  | reconnect =>
    exact ((a.disconnect_path running permits).trans (connect_path _)).trans
      ((reply_quiet _ _ _).path [] .none)
  | boot =>
    unfold execute
    dsimp only
    split
    · exact (reply_quiet _ _ _).path [] .none
    · exact (sendBoot_quiet _ _).path [] .none
  | heartbeat => exact (sendHeartbeat_quiet _ _ _).path [] .none
  | statusNotification id => exact (sendStatusForced_quiet _ _ _ _).path [] .none
  | userCall action => exact (userCall_quiet _ _ _ _).path [] .none
  | sendRaw action => exact (userCall_quiet _ _ _ _).path [] .none
  | requestCertificate key => exact (requestCertificate_quiet _ _ _).path [] .none
  | authorize idTag => exact authorize_path a idTag _ fun _ _ _ h => by cases h
  | startTransaction id idTag => exact startTransaction_path a id idTag _ permits
  | stopTransaction id reason idTag => exact stopTransaction_path a id reason idTag _ permits
  | meterValues id deltaWh measurands => exact meterValuesCommand_path a id deltaWh measurands reply permits
  | addConnector => exact a.addConnector_path.trans ((reply_quiet _ _ _).path [] .none)
  | plugIn id => exact answer_path (a.plugIn_path id ids permits)
  | unplug id => exact a.unplug_path id _ ids permits
  | setConnectorStatus id status => exact answer_path (a.setStatus_path id status permits)
  | cycleConnectorStatus id =>
    unfold execute
    dsimp only
    split
    · exact (reply_quiet _ _ _).path [] .none
    · exact answer_path (a.setStatus_path id _ permits)
  | fault id code info vendorCode => exact a.fault_path id code info vendorCode _ permits.1 permits.2
  | clearFault id => exact answer_path (a.clearFault_path id ids permits)
  | setConfiguration change =>
    cases change with
    | none => exact (reply_quiet _ _ _).path [] .none
    | some change =>
      exact ((applyConfigurationChange_quiet _ _).trans (reply_quiet _ _ _)).path [] .none
  | editLocalList list =>
    cases list with
    | none => exact (reply_quiet _ _ _).path [] .none
    | some localList =>
      exact (((flushNow_quiet _).trans (reply_quiet _ _ _)).behind (a := a) (by intros; rfl)).path [] .none
  | installChargingProfile id profile =>
    unfold execute
    dsimp only
    refine .trans ((setChargingProfile_quiet a id profile).path [] .none) ?_
    split
    · exact ((flushNow_quiet _).trans (reply_quiet _ _ _)).path [] .none
    · exact (reply_quiet _ _ _).path [] .none
  | clearChargingProfiles id =>
    exact (((flushNow_quiet _).trans (reply_quiet _ _ _)).behind (a := a) (by intros; rfl)).path [] .none
  | sendSecurityEvent eventType =>
    exact ((securityEvent_quiet _ _ _).trans (reply_quiet _ _ _)).path [] .none
  | simulation => exact (reply_quiet _ _ _).path [] .none

theorem dispatchIncoming_path (a : Actor) (call : Incoming) (ids : Ids (a.ledger [] .none))
    (permits : PermitsIncoming allow a call) :
    Path allow (a.ledger [] .none) ((a.dispatchIncoming call).ledger [] .none) := by
  cases call with
  | remoteStart connectorId idTag profile =>
    exact a.remoteStart_path connectorId idTag profile permits
  | remoteStop transactionId => exact a.remoteStop_path transactionId permits
  | reset kind =>
    exact .trans ((record_quiet a (.responded .reset) rfl).path [] .none)
      (performReset_path (a.record (.responded .reset)) kind ⟨ids.nodup, ids.physical⟩
        ⟨permits.lowers, permits.stops, permits.releases, permits.unmasked⟩)
  | changeAvailability id kind => exact a.changeAvailability_path id kind permits
  | unlockConnector id => exact a.unlockConnector_path id permits
  | reserveNow request => exact reserve_path permits a request ids
  | cancelReservation id => exact cancel_path permits a id
  | triggerMessage message connector => exact (a.triggerMessage_quiet message connector).path [] .none
  | setChargingProfile id profile =>
    exact ((setChargingProfile_quiet a id profile).trans (record_quiet _ _ rfl)).path [] .none
  | clearChargingProfile filter =>
    exact (((markDirty_quiet _).trans (record_quiet _ _ rfl)).behind (a := a) (by intros; rfl)).path [] .none
  | getCompositeSchedule id duration unit =>
    exact (a.getCompositeSchedule_quiet id duration unit).path [] .none
  | changeConfiguration change =>
    cases change with
    | none => exact (record_quiet a _ rfl).path [] .none
    | some change =>
      exact ((applyConfigurationChange_quiet _ _).trans (record_quiet _ _ rfl)).path [] .none
  | sendLocalList list =>
    cases list with
    | none => exact (record_quiet a _ rfl).path [] .none
    | some localList =>
      exact (((flushNow_quiet _).trans (record_quiet _ _ rfl)).behind (a := a) (by intros; rfl)).path [] .none
  | clearCache => exact (((flushNow_quiet _).trans (record_quiet _ _ rfl)).behind (a := a) (by intros; rfl)).path [] .none
  | certificateSigned valid => exact (a.certificateSigned_quiet valid).path [] .none
  | editCertificates changed =>
    unfold dispatchIncoming
    dsimp only
    refine .trans ?_ ((record_quiet _ _ rfl).path [] .none)
    split
    · exact (flushNow_quiet _).path [] .none
    · exact .refl
  | other => exact (record_quiet a _ rfl).path [] .none

theorem onTimer_path (a : Actor) (key : TimerKey) (running : a.stopped = false)
    (permits : PermitsTimer allow a key) :
    Path allow (a.ledger [] .none) ((a.onTimer key).ledger [] .none) := by
  cases key with
  | heartbeat => exact a.onHeartbeatTimer_quiet.path [] .none
  | reconnect => exact a.onReconnectTimer_path
  | bootRetry =>
    unfold onTimer onBootRetryTimer
    dsimp only
    split
    · exact (sendBoot_quiet _ _).path [] .none
    · exact .refl
  | statusDebounce id => exact (a.statusTimerFired_quiet id).path [] .none
  | persistFlush => exact a.flushPersistence_quiet.path [] .none
  | meterPeriodic id => exact a.onMeterPeriodic_path id permits
  | meterAligned => exact a.onMeterAligned_path permits
  | reservationExpiry id => exact onReservationTimer_path permits a
  | hardReset => exact a.onHardResetTimer_path running permits
  | syncRetry => exact a.onSyncRetryTimer_path
  | certSigning => exact a.onCertSigningTimer_quiet.path [] .none

theorem onMaintenance_quiet (a : Actor) (notification event : Option String) :
    Quiet a (a.onMaintenance notification event) := by
  unfold onMaintenance
  dsimp only
  cases notification with
  | none =>
    cases event with
    | none => exact .refl
    | some event => exact a.securityEvent_quiet _ _
  | some action =>
    have sent : Quiet a (a.call .station (.notification action) .ignore fun _ a => a) :=
      call_quiet _ _ _ _ _ rfl (.inl rfl) fun _ => .refl
    cases event with
    | none => exact sent
    | some event => exact sent.trans (securityEvent_quiet _ _ _)

/-! ## Shutdown -/

theorem drain_path (a : Actor) (running : a.stopped = false) (early : allow.early = true)
    (stops : allow.StopsLimited a.limited) :
    Path allow (a.ledger [] .none) (a.drain.ledger [] .none) := by
  unfold drain
  dsimp only
  refine .trans (a.flushMeters_quiet.path [] .none) ?_
  have running : a.flushMeters.stopped = false := a.flushMeters_quiet.frame.stopped.trans running
  rw [← a.flushMeters_quiet.limits] at stops
  generalize a.flushMeters = b at running stops
  refine .head (.drain (b.ledger [] .none) rfl rfl running) ?_
  unfold failPendingCalls
  dsimp only
  exact completeAll_path (.closed none) b.calls
    { b with link := { b.link with wanted := false }, timers := [], calls := [] } early stops

theorem shutdown_path (a : Actor) (reply : Option Reply) (running : a.stopped = false) (closes : allow.Closes a.limited)
    (done : allow.abandon = true ∨ a.drain.calls = []) :
    Path allow (a.ledger [] .none) ((a.shutdown reply).ledger [] .none) := by
  unfold shutdown
  refine .trans (a.drain_path running closes.early closes.stops) ?_
  generalize a.drain = drained at done
  refine .head (.halt (drained.ledger [] .none) rfl rfl closes.closes done) ?_
  refine .trans ?_ ((replyIf_quiet _ _ _).path [] .none)
  change Path allow (drained.halted.ledger [] .none) _
  unfold finishPersistence
  dsimp only
  split
  · exact .single (.quiet (.save (drained.halted.ledger [] .none)
      (drained.halted.cancelTimer .persistFlush).buildPersisted rfl rfl rfl))
  · exact .refl

/-! ## The loop -/

theorem handle_path (a : Actor) (input : Input) (ids : Ids (a.ledger [] .none))
    (running : a.stopped = false) (permits : Permits allow a input) :
    Path allow (a.ledger [] .none) ((a.handle input).ledger [] .none) := by
  cases input with
  | command command reply => exact a.execute_path command reply ids running permits
  | shutdown reply => exact a.shutdown_path reply running permits.1 permits.2
  | incoming call =>
    unfold handle
    dsimp only
    split
    · rename_i conn
      exact a.dispatchIncoming_path call ids (permits conn)
    · exact .refl
  | closed code => exact a.onClosed_path code running permits
  | connected generation ok event => exact a.onConnectResult_path generation ok event running permits
  | callDone token generation result =>
    by_cases current : generation = a.link.generation
    · exact a.onCallDone_path token generation result running (permits current)
    · have stale : a.onCallDone token generation result = a := by
        unfold onCallDone
        rw [if_pos current]
      unfold handle
      dsimp only
      rw [stale]
  | saved ok => exact (a.onSaved_quiet ok).path [] .none
  | timer key =>
    unfold handle
    dsimp only
    split
    · exact .trans ((a.cancelTimer_quiet key).path [] .none) (onTimer_path (a.cancelTimer key) key running
        permits)
    · exact .refl
  | maintenance notification event => exact (a.onMaintenance_quiet notification event).path [] .none

theorem woken_quiet (a : Actor) (wake : Wake) : Quiet a (a.woken wake) :=
  (settleMeters_quiet _).behind fun _ _ => rfl

/-- An iteration of the loop is a path. -/
theorem step_path (a : Actor) (wake : Wake) (ids : Ids (a.ledger [] .none))
    (permits : Permits allow (a.woken wake) wake.input) :
    Path allow (a.ledger [] .none) ((a.step wake).ledger [] .none) := by
  unfold step
  split
  · exact .refl
  · rename_i running
    dsimp only
    refine .trans ((a.woken_quiet wake).path [] .none) ?_
    have running : a.stopped = false := by simpa using running
    refine .trans (handle_path (a.woken wake) wake.input ids running permits) ?_
    split
    · exact .refl
    · exact (settleMeters_quiet _).path [] .none

end Actor

end KirbyOcpp
