import KirbyOcpp.Laws.Station.Meters
import KirbyOcpp.Laws.Station.Sampling

/-!
# The actor loop as moves of the meters

`Splits a b`: what leads from `a` to `b` is a sequence of moves of `Sampling`. A walk splits, since all that it does to
the meters is to settle and to flush; a sample and a new connector have moves of their own.

**The law** `steps_split`: whatever wakes the actor, its iterations split, so that what holds of every sequence of moves
holds of every run.
-/

namespace KirbyOcpp

namespace Sampling

open Actor

/-- `b` follows from `a` by moves of the meters. -/
def Splits (a b : Actor) : Prop := ∃ moves : List MeterMove, moves.foldl become a = b

/-- No connector has the id of the station. -/
def Physical (a : Actor) : Prop := ∀ c ∈ a.connectors, isStation c.id = false

/-- The samples are only watched: the actor is that of the moves. -/
theorem run_actor (s : Sampling) (moves : List MeterMove) : (s.run moves).actor = moves.foldl become s.actor := by
  have moved (s : Sampling) (m : MeterMove) : (s.move m).actor = become s.actor m := by
    unfold move follow
    repeat' split
    all_goals rfl
  unfold run
  induction moves generalizing s with
  | nil => rfl
  | cons m moves ih =>
    rw [List.foldl_cons, List.foldl_cons, ih, moved]

namespace Splits

variable {a b c : Actor}

/-- No move. -/
theorem refl : Splits a a := ⟨[], rfl⟩

/-- One move. -/
theorem single (m : MeterMove) (eq : become a m = b) : Splits a b := ⟨[m], eq⟩

/-- Moves follow each other. -/
theorem trans (first : Splits a b) (second : Splits b c) : Splits a c := by
  obtain ⟨before, rfl⟩ := first
  obtain ⟨after, rfl⟩ := second
  exact ⟨before ++ after, List.foldl_append⟩

/-- The meters do not notice. -/
theorem other (meters : b.meters = a.meters) (registers : b.registers = a.registers) : Splits a b := by
  refine single (.other b) (if_pos ?_)
  unfold Actor.registers at registers
  unfold sameMeters
  rw [meters, registers, decide_eq_true rfl, decide_eq_true rfl]
  rfl

/-- What an operation does to the meters, it does by settling and flushing them. -/
theorem of_walk (walk : Walk .linking a b) : Splits a b := by
  induction walk with
  | refl => exact refl
  | tail _ move ih =>
    refine ih.trans ?_
    cases move with
    | other same =>
      have gauges := congrArg Prod.fst same
      exact other (congrArg Gauges.meters gauges) (congrArg Gauges.registers gauges)
    | settle => exact single .settle rfl
    | flush => exact single .flush rfl

end Splits

end Sampling

namespace Actor

open Sampling

variable {a : Actor} {id : ConnectorId}

/-- A sample is a move of its own when it can be sent, and an addition to the register otherwise. -/
theorem sampleMeter_splits (physical : isStation id = false) (context : ReadingContext) (deltaWh : Nat)
    (measurands : List Measurand) (reply : Option Reply) :
    Splits a (a.sampleMeter id context deltaWh measurands reply) := by
  rcases a.sampleMeter_cases id context deltaWh measurands reply with ⟨-, eq⟩ | ⟨c, found, eq⟩
  · rw [eq]
    exact .of_walk ((flushMeters_walk a).trans (replyIf_walk _ _ _))
  · cases able : a.sendable id with
    | true => exact .single (.sample id context deltaWh measurands reply) (if_pos able)
    | false =>
      -- The sample finds the connector as the flush leaves it, with the transaction that it had before.
      have unable : ((a.advanced id deltaWh).canTalk && !c.txId.any TxId.isLocal) = false := by
        have talks : (a.advanced id deltaWh).canTalk = a.canTalk := by
          rw [← a.advanced_canTalk id deltaWh]
          exact ((a.advanced id deltaWh).flushMeters_quiet.canTalk).symm
        obtain ⟨f, connectors, meter, -⟩ := a.flushMeters_fields
        have same (d : ConnectorSnapshot) : ((f d).id == id) = (d.id == id) := by rw [meter d]
        unfold findConnector at found
        rw [physical, if_neg Bool.false_ne_true, connectors, Lists.find?_map_keeps same] at found
        obtain ⟨d, known, rfl⟩ := Option.map_eq_some_iff.mp found
        have tx : (f d).txId = d.txId := by rw [meter d]; rfl
        unfold sendable connector at able
        rw [physical, if_neg Bool.false_ne_true, known] at able
        rw [talks, tx]
        exact able
      rw [unable, if_neg Bool.false_ne_true] at eq
      rw [eq]
      have added : Splits a (a.advanced id deltaWh) := by
        refine .trans (.single (.add id deltaWh) rfl) (.of_walk ?_)
        unfold Actor.advanced become
        dsimp only
        split
        · exact markDirty_walk _
        · exact .refl
      exact added.trans (.of_walk ((replyIf_walk _ _ _).trans (checkEnergyLimit_walk _ _).linking))

private theorem meterValuesCommand_splits (a : Actor) (id : ConnectorId) (deltaWh : Nat)
    (measurands : Option (List Measurand)) (reply : Reply) :
    Splits a (a.meterValuesCommand id deltaWh measurands reply) := by
  unfold meterValuesCommand
  split
  · exact .other rfl rfl
  · rename_i found
    refine sampleMeter_splits ?_ _ _ _ _
    unfold connector at found
    cases physical : isStation id with
    | false => rfl
    | true =>
      rw [if_pos physical] at found
      cases found

private theorem addConnector_splits (a : Actor) : Splits a a.addConnector.1 :=
  .trans (.single .addConnector rfl) (.of_walk ((flushNow_walk _).trans (statusChanged_walk _ _)))

private theorem onMeterPeriodic_splits (a : Actor) (physical : isStation id = false) :
    Splits a (a.onMeterPeriodic id) := by
  unfold onMeterPeriodic
  split
  · exact .refl
  · exact .trans (.of_walk (setTimer_walk a (by simp))) (sampleMeter_splits physical _ _ _ _)

private theorem onMeterAligned_splits (physical : Physical a) : Splits a a.onMeterAligned := by
  have sampled (ids : List ConnectorId) (physical : ∀ id ∈ ids, isStation id = false)
      (measurands : List Measurand) (b : Actor) :
      Splits b (ids.foldl (fun a id => a.sampleMeter id .sampleClock 0 measurands none) b) := by
    induction ids generalizing b with
    | nil => exact .refl
    | cons id ids ih =>
      have first := sampleMeter_splits (a := b) (physical id (.head _)) .sampleClock 0 measurands none
      exact first.trans (ih (fun id mem => physical id (.tail _ mem)) _)
  have armed : Splits a (if 0 < a.registry.clockAlignedDataInterval then a.setTimer .meterAligned else a) := by
    split
    · exact .of_walk (setTimer_walk _ (by simp))
    · exact .refl
  have same : (if 0 < a.registry.clockAlignedDataInterval then a.setTimer .meterAligned else a).connectors =
      a.connectors := by
    split <;> rfl
  unfold onMeterAligned
  dsimp only
  rw [same]
  refine armed.trans (sampled _ (fun id mem => ?_) _ _)
  obtain ⟨c, known, rfl⟩ := List.mem_map.mp mem
  exact physical c known

/-- A timer of the meters takes samples; the others walk. -/
private theorem onTimer_splits (physical : Physical a) {key : TimerKey} (own : key ≠ .meterPeriodic station) :
    Splits a (a.onTimer key) := by
  cases key with
  | heartbeat => exact .of_walk (onHeartbeatTimer_walk a)
  | reconnect => exact .of_walk (onReconnectTimer_walk a)
  | bootRetry => exact .of_walk (onBootRetryTimer_walk a)
  | statusDebounce id => exact .of_walk (statusTimerFired_walk a id)
  | persistFlush => exact .of_walk (flushPersistence_walk a)
  | meterPeriodic id => exact onMeterPeriodic_splits a (beq_false_of_ne fun eq => own (congrArg _ eq))
  | meterAligned => exact onMeterAligned_splits physical
  | reservationExpiry id => exact .of_walk (onReservationTimer_walk a)
  | hardReset => exact .of_walk (onHardResetTimer_walk a)
  | syncRetry => exact .of_walk (onSyncRetryTimer_walk a).linking
  | certSigning => exact .of_walk (onCertSigningTimer_walk a)

private theorem execute_splits (a : Actor) (command : Command) (reply : Reply) :
    Splits a (a.execute command reply) := by
  have answered (f : Actor × Except StationError Outcome) (walk : Walk .handling a f.1) :
      Splits a (answer f reply) := .of_walk (walk.linking.trans (.same rfl rfl rfl))
  cases command with
  | connect => exact .of_walk ((connect_walk a).trans (.same rfl rfl rfl))
  | disconnect => exact .of_walk ((disconnect_walk a).trans (.same rfl rfl rfl))
  | reconnect => exact .of_walk (((disconnect_walk a).trans (connect_walk _)).trans (.same rfl rfl rfl))
  | boot =>
    unfold execute
    dsimp only
    split
    · exact .other rfl rfl
    · exact .of_walk (sendBoot_walk _ _)
  | heartbeat => exact .of_walk (sendHeartbeat_walk _ _ _)
  | statusNotification id => exact .of_walk (sendStatusForced_walk _ _ _ _)
  | userCall action => exact .of_walk (userCall_walk _ _ _ _)
  | sendRaw action => exact .of_walk (userCall_walk _ _ _ _)
  | requestCertificate key => exact .of_walk (requestCertificate_walk _ _ _)
  | authorize idTag => exact .of_walk (authorize_walk _ _ _).linking
  | startTransaction id idTag => exact .of_walk (startTransaction_walk _ _ _ _).linking
  | stopTransaction id reason idTag => exact .of_walk (stopTransaction_walk _ _ _ _ _).linking
  | meterValues id deltaWh measurands => exact meterValuesCommand_splits a id deltaWh measurands reply
  | addConnector => exact (addConnector_splits a).trans (.other rfl rfl)
  | plugIn id => exact answered _ (plugIn_walk a id)
  | unplug id => exact .of_walk (unplug_walk _ _ _).linking
  | setConnectorStatus id status => exact answered _ (setStatus_walk a id status)
  | cycleConnectorStatus id =>
    unfold execute
    dsimp only
    split
    · exact .other rfl rfl
    · exact answered _ (setStatus_walk a id _)
  | fault id code info vendorCode => exact .of_walk (fault_walk _ _ _ _ _ _).linking
  | clearFault id => exact answered _ (clearFault_walk a id)
  | setConfiguration change =>
    cases change with
    | none => exact .other rfl rfl
    | some change => exact .of_walk ((applyConfigurationChange_walk a change).linking.trans (.same rfl rfl rfl))
  | editLocalList list =>
    cases list with
    | none => exact .other rfl rfl
    | some localList =>
      have stored : Walk .linking a ({ a with localList } : Actor).flushNow := (flushNow_walk _).past rfl
      exact .of_walk (stored.trans (.same rfl rfl rfl))
  | installChargingProfile id profile =>
    have stored := (setChargingProfile_walk a id profile).linking
    unfold execute
    dsimp only
    split
    · exact .of_walk ((stored.trans (flushNow_walk _)).trans (.same rfl rfl rfl))
    · exact .of_walk (stored.trans (.same rfl rfl rfl))
  | clearChargingProfiles id =>
    let profiles := (ChargingProfileStore.clear a.profiles { id } a.now).1
    have stored : Walk .linking a ({ a with profiles } : Actor).flushNow := (flushNow_walk _).past rfl
    exact .of_walk (stored.trans (.same rfl rfl rfl))
  | sendSecurityEvent eventType => exact .of_walk ((securityEvent_walk _ _ _).trans (.same rfl rfl rfl))
  | simulation => exact .other rfl rfl

private theorem handle_splits (physical : Physical a) {input : Input} (own : input ≠ .timer (.meterPeriodic station)) :
    Splits a (a.handle input) := by
  cases input with
  | command command reply => exact execute_splits a command reply
  | shutdown reply => exact .of_walk (shutdown_walk a reply)
  | incoming call =>
    unfold handle
    dsimp only
    split
    · exact .of_walk (dispatchIncoming_walk a call).linking
    · exact .refl
  | closed code => exact .of_walk (onClosed_walk a code)
  | connected generation ok event => exact .of_walk (onConnectResult_walk a generation ok event)
  | callDone token generation result => exact .of_walk (onCallDone_walk a token generation result)
  | saved ok => exact .of_walk (onSaved_walk a ok)
  | timer key =>
    unfold handle
    dsimp only
    split
    · have fired : Splits a (a.cancelTimer key) := .other rfl rfl
      have physical' : Physical (a.cancelTimer key) := physical
      exact fired.trans (onTimer_splits physical' fun eq => own (congrArg _ eq))
    · exact .refl
  | maintenance notification event => exact .of_walk (onMaintenance_walk a notification event).linking

/-- An iteration of the loop settles, handles, and settles. -/
theorem step_splits (physical : Physical a) {wake : Wake} (own : wake.input ≠ .timer (.meterPeriodic station)) :
    Splits a (a.step wake) := by
  have woken : Splits a (a.woken wake) :=
    .trans (b := { a with now := wake.now, mono := wake.mono }) (.other rfl rfl) (.single .settle rfl)
  unfold step
  split
  · exact .refl
  · refine (woken.trans (handle_splits (a := a.woken wake) physical own)).trans ?_
    dsimp only
    split
    · exact .refl
    · exact .single .settle rfl

end Actor

namespace Sampling

open Actor

variable {a : Actor}

/-- A new connector gets an id of its own, and no other move gives any. -/
theorem Physical.become (h : Physical a) (m : MeterMove) : Physical (become a m) := by
  have measured (op : MeterOp) : Physical (a.meterOp op) := by
    have ids := path_ids (a.meterOp_books op [] h)
    rw [registers_ids, registers_ids] at ids
    exact numbered_of_ids ids h
  cases m with
  | other b =>
    unfold Sampling.become
    dsimp only
    split
    · rename_i same
      have pairs := decide_eq_true_eq.mp (Bool.and_eq_true_iff.mp same).2
      have ids := congrArg (List.map Prod.fst) pairs
      rw [List.map_map, List.map_map] at ids
      exact numbered_of_ids ids h
    · exact h
  | addConnector =>
    intro c mem
    rcases List.mem_append.mp mem with known | new
    · exact h c known
    · rw [List.mem_singleton.mp new]
      exact beq_false_of_ne (Nat.succ_ne_zero _)
  | settle => exact measured .settle
  | flush => exact measured .flush
  | read id => exact measured (.read id false)
  | add id deltaWh =>
    have flushed : Physical a.flushMeters := measured .flush
    unfold Sampling.become withConnector
    dsimp only
    split
    · exact flushed
    · exact numbered_of_ids (updateConnector_ids _ id fun _ => rfl) flushed
  | sample id context deltaWh measurands reply =>
    unfold Sampling.become
    dsimp only
    split
    · exact measured (.sample id context deltaWh measurands reply)
    · exact h

/-- No sequence of moves gives a connector the id of the station. -/
theorem Splits.physical {b : Actor} (splits : Splits a b) (h : Physical a) : Physical b := by
  obtain ⟨moves, rfl⟩ := splits
  induction moves generalizing a with
  | nil => exact h
  | cons m moves ih => exact ih (h.become m)

/-- **Every run splits.** Whatever wakes the actor, its iterations are moves of the meters, and the system with the
samples of a connector ends with the actor of the run. The station, which is no connector, has no periodic timer. -/
theorem steps_split (physical : Physical a) (wakes : List Wake)
    (own : ∀ wake ∈ wakes, wake.input ≠ .timer (.meterPeriodic station)) (id : ConnectorId) :
    ∃ moves, ((start a id).run moves).actor = wakes.foldl step a := by
  have splits : Splits a (wakes.foldl step a) := by
    induction wakes generalizing a with
    | nil => exact .refl
    | cons wake wakes ih =>
      have first := step_splits physical (own wake (.head _))
      exact first.trans (ih (first.physical physical) fun later mem => own later (.tail _ mem))
  obtain ⟨moves, ends⟩ := splits
  exact ⟨moves, (run_actor _ moves).trans ends⟩

end Sampling

end KirbyOcpp
