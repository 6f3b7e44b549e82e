import KirbyOcpp.Ledger.TxIds

/-!
# Faults: the status and the error code

`fault`, `set_status` and `clear_fault` write the status and the error code of a connector together. A
dozen other operations write the status alone; each of them must leave a fault as it is. Most do. The
exceptions are an EV that is unplugged from a faulted connector, a reset of one, a stop of a transaction
on one, a refused start on one, and the restart of a faulted connector that is out of service.
-/

namespace KirbyOcpp

open Paths Relation

/-! ## One connector -/

variable {allow : Allow} {l l' : Ledger} {c c' : ConnectorSnapshot}

namespace ConnectorSnapshot

/-- A status is written on a connector without a fault. -/
theorem Sound.of_unfaulted (sound : c.Sound) (code : c'.errorCode = c.errorCode) (usable : c.status ≠ .faulted)
    (usable' : c'.status ≠ .faulted) : c'.Sound := by
  unfold Sound at sound ⊢
  rw [code]
  exact ⟨fun faulted => absurd faulted usable', fun error => absurd (sound.mpr error) usable⟩

/-- Nothing is written. -/
theorem Sound.of_same (sound : c.Sound) (code : c'.errorCode = c.errorCode) (status : c'.status = c.status) :
    c'.Sound := by
  unfold Sound
  rwa [code, status]

/-- A scheduled availability leaves a fault. -/
theorem Sound.applied (sound : c.Sound) (pending : Option AvailabilityType) : (c.applied pending).Sound := by
  cases pending with
  | none => exact sound
  | some kind =>
    by_cases faulted : c.status = .faulted
    · refine sound.of_same rfl ?_
      change statusAfterAvailabilityChange _ _ = _
      unfold statusAfterAvailabilityChange
      rw [if_pos faulted, faulted]
    · exact sound.of_unfaulted rfl faulted fun h => faulted (applied_faulted h)

end ConnectorSnapshot

theorem clearReservation_errorCode (c : ConnectorSnapshot) : (clearReservation c).errorCode = c.errorCode := by
  unfold clearReservation
  dsimp only
  repeat' split
  all_goals rfl

/-- An edit without `mask` keeps a connector sound, if no transaction is stopped under a fault. -/
theorem Edit.sound (mask : allow.mask = false) (h : Edit allow l c c')
    (spared : ∀ tx session, Stoppable l c tx session → allow.stops c.id = true → c.status ≠ .faulted)
    (sound : c.Sound) : c'.Sound := by
  cases h with
  | mild h => exact h.sound sound
  | powered h => exact h.sound.resolve_left (by simp [mask]) sound
  | change kind =>
    unfold Actor.changedAvailability
    dsimp only
    split
    · exact sound.of_same rfl rfl
    · exact sound.applied (some kind)
  | changeStation kind =>
    unfold Actor.stationAvailability
    by_cases faulted : c.status = .faulted
    · refine sound.of_same rfl ?_
      simp [chargePointStatus, faulted]
    · refine sound.of_unfaulted rfl faulted ?_
      dsimp only
      unfold chargePointStatus
      split
      · rename_i same
        exact absurd same faulted
      · exact nofun
      · exact nofun
  | start pending idle key usable =>
    refine sound.of_unfaulted rfl usable ?_
    unfold Actor.startedConnector
    dsimp only
    split
    · exact nofun
    · exact usable
  | charge idTag usable => exact sound.of_unfaulted (clearReservation_errorCode c) usable nofun
  | abandon =>
    refine ConnectorSnapshot.Sound.applied ?_ _
    unfold Actor.abandonedConnector
    by_cases charging : c.status = .charging
    · refine sound.of_unfaulted rfl (by simp [charging]) ?_
      dsimp only
      rw [if_pos charging]
      split
      · exact nofun
      · exact nofun
    · exact sound.of_same rfl (if_neg charging)
  | activate active localId held transactionId tx usable =>
    exact sound.of_unfaulted (clearReservation_errorCode _) usable nofun
  | halt tx session h target stops =>
    exact sound.of_unfaulted h.errorCode (spared tx session target stops) h.faulted
  | mark => exact sound.of_same rfl rfl
  | forget tx =>
    refine ConnectorSnapshot.Sound.applied ?_ _
    unfold Actor.forgetTransaction
    split
    · exact sound.of_same rfl rfl
    · exact sound
  | assign =>
    unfold Actor.activatedConnector
    dsimp only
    split
    · exact sound.of_same rfl rfl
    · exact sound
  | drop localId ends unmasked =>
    refine ConnectorSnapshot.Sound.applied ?_ _
    unfold Actor.droppedConnector
    split
    · rename_i held
      have usable := unmasked.resolve_left (by simp [mask]) held
      refine sound.of_unfaulted rfl usable ?_
      dsimp only
      repeat' split
      all_goals exact nofun
    · exact sound

/-! ## All connectors -/

/-- The status and the error code agree on connector 0 and on every connector that is not in `skip`. -/
structure Sounds (skip : ConnectorId → Prop) (l : Ledger) : Prop where
  chargePoint : l.chargePoint.Sound
  connectors : ∀ c ∈ l.connectors, ¬skip c.id → c.Sound

/-- The transactions that may be stopped are not on faulted connectors, and none that is being stopped is. -/
def Spared (allow : Allow) (l : Ledger) : Prop :=
  ∀ c ∈ l.connectors, allow.stops c.id = true → c.status = .faulted →
    c.transaction.isActive = false ∧ ∀ p, c.transaction = .pendingStart p →
      (∀ e ∈ l.queue, e.txId ≠ p.txId) ∧ ∀ id info, l.hand ≠ .stop id p.txId info

theorem Spared.unstoppable (h : Spared allow l) (mem : c ∈ l.connectors) (stops : allow.stops c.id = true)
    {tx : TxId} {session : Nat} (target : Stoppable l c tx session) : c.status ≠ .faulted := by
  intro faulted
  obtain ⟨inactive, pending⟩ := h c mem stops faulted
  rcases target with ⟨t, active, -⟩ | ⟨p, starting, -, -, e, queued, same⟩
  · simp [active, TransactionState.isActive] at inactive
  · exact (pending p starting).1 e queued same

theorem station_unstoppable (idle : l.chargePoint.transaction = .idle) {tx : TxId} {session : Nat} :
    ¬Stoppable l l.chargePoint tx session := by
  rintro (⟨t, active, -⟩ | ⟨p, starting, -⟩)
  · simp [idle] at active
  · simp [idle] at starting

/-- Without starts every entry of the queue has an id that was in it before, an id of the CSMS, or the id
that is being stopped. -/
theorem Trans.queue_ids (starts : allow.starts = false) (step : Trans allow l l') (worded : Worded l)
    {e : OfflineTx} (mem : e ∈ l'.queue) :
    (∃ e' ∈ l.queue, e'.txId = e.txId) ∨ e.txId.isLocal = false ∨ ∃ id info, l.hand = .stop id e.txId info := by
  have updated (p : OfflineTx → Bool) (f : OfflineTx → OfflineTx) (keeps : ∀ e, (f e).txId = e.txId)
      (queue : OfflineQueue) (mem : e ∈ OfflineQueue.updateFirst p f queue) :
      ∃ e' ∈ queue, e'.txId = e.txId := by
    induction queue with
    | nil => cases mem
    | cons first queue ih =>
      unfold OfflineQueue.updateFirst at mem
      split at mem
      · rcases List.mem_cons.mp mem with rfl | old
        · exact ⟨first, List.mem_cons_self, (keeps first).symm⟩
        · exact ⟨e, List.mem_cons_of_mem _ old, rfl⟩
      · rcases List.mem_cons.mp mem with rfl | later
        · exact ⟨e, List.mem_cons_self, rfl⟩
        · obtain ⟨e', old, same⟩ := ih later
          exact ⟨e', List.mem_cons_of_mem _ old, same⟩
  have kept (key : Nat) (mem : e ∈ OfflineQueue.remove l.queue key) : ∃ e' ∈ l.queue, e'.txId = e.txId :=
    ⟨e, List.mem_of_mem_eraseP mem, rfl⟩
  cases step with
  | quiet step =>
    rw [step.frame.queue] at mem
    exact .inl ⟨e, mem, rfl⟩
  | queueStart _ _ _ _ _ _ _ _ _ _ queues => simp [starts] at queues
  | assign _ _ _ _ _ _ _ starts' => simp [starts] at starts'
  | queueStop id tx info entry hand found ends =>
    exact .inl (updated (OfflineQueue.isTxOn id tx) (fun entry => { entry with stop := some info })
      (fun _ => rfl) _ mem)
  | queueNewStop id tx info entry hand missing key entryTx =>
    have mem : e ∈ (OfflineQueue.push l.queue entry).1 := mem
    have old : e ∈ l.queue ++ [entry] := by
      unfold OfflineQueue.push at mem
      dsimp only at mem
      split at mem
      · exact mem
      · split at mem
        · exact List.mem_of_mem_eraseIdx mem
        · exact List.mem_of_mem_eraseIdx mem
    rcases List.mem_append.mp old with old | fresh
    · exact .inl ⟨e, old, rfl⟩
    · obtain rfl : e = entry := by simpa using fresh
      rcases hand with stop | stopping
      · exact .inr (.inr ⟨id, info, entryTx ▸ stop⟩)
      · have wire := worded.hand
        rw [stopping] at wire
        exact .inr (.inl (entryTx ▸ wire))
  | refuseQueued key => exact .inl (kept key mem)
  | confirmQueued key => exact .inl (kept key mem)
  | giveUp key => exact .inl (kept key mem)
  | _ => exact .inl ⟨e, mem, rfl⟩

/-- A stop in the hand was there before, or its transaction could be stopped. -/
theorem Trans.hand_stop (step : Trans allow l l') {id : ConnectorId} {tx : TxId} {info : StopInfo}
    (hand : l'.hand = .stop id tx info) :
    l.hand = .stop id tx info ∨
      (tx.isLocal = true → Worded l → ∃ e ∈ l.queue, e.txId = tx) := by
  cases step with
  | quiet step =>
    cases step
    all_goals exact .inl hand
  | takeCall call result =>
    unfold Hand.ofResult at hand
    dsimp only at hand
    repeat' split at hand
    all_goals cases hand
  | takeRest call rest error =>
    unfold Hand.ofResult at hand
    dsimp only at hand
    repeat' split at hand
    all_goals cases hand
  | beginStop _ c tx' info' f _ found target =>
    obtain ⟨rfl, rfl, rfl⟩ := Hand.stop.inj hand
    refine .inr fun isLocal worded => ?_
    rcases target with ⟨t, active, rfl, -⟩ | ⟨p, -, rfl, -, queued⟩
    · have wire := worded.connectors c (Ledger.mem_of_connector found).1
      rw [active] at wire
      have wire : t.txId.isLocal = false := wire
      simp [wire] at isLocal
    · exact queued
  | sendClose session sync =>
    cases sync <;> cases hand
  | skipClose session sync =>
    cases sync <;> cases hand
  | finishSync =>
    dsimp only at hand
    split at hand <;> cases hand
  | _ => first | exact .inl hand | cases hand

/-- Without starts and new faults the stoppable transactions stay off the faulted connectors. -/
theorem spared_preserved (mask : allow.mask = false) (starts : allow.starts = false) :
    Preserves (Trans allow) fun l => (Ids l ∧ Worded l) ∧ Spared allow l := by
  refine (worded_preserved allow).and fun l l' step ⟨ids, worded⟩ h c mem stops faulted => ?_
  obtain ⟨f, added, eq, edits, new⟩ := (step.edits ids).connectors
  rw [eq, List.mem_append] at mem
  rcases mem with mapped | fresh
  · obtain ⟨d, old, rfl⟩ := List.mem_map.mp mapped
    have edit := edits d old
    rw [edit.id] at stops
    obtain ⟨inactive, pending⟩ := h d old stops (edit.faulted mask faulted)
    rcases edit.transaction with same | idle | ⟨p, -, -, -, opens⟩ | ⟨t, w, -, -, -, opens⟩ | ⟨s, stopping, -⟩
    · rw [same]
      refine ⟨inactive, fun p starting => ?_⟩
      obtain ⟨unqueued, unheld⟩ := pending p starting
      have isLocal : p.txId.isLocal = true := by
        have words := worded.connectors d old
        rwa [starting] at words
      refine ⟨fun e queued same => ?_, fun id info hand => ?_⟩
      · rcases step.queue_ids starts worded queued with ⟨e', before, same'⟩ | wire | ⟨id, info, hand⟩
        · exact unqueued e' before (same'.trans same)
        · simp [same, isLocal] at wire
        · exact unheld id info (same ▸ hand)
      · rcases step.hand_stop hand with before | queued
        · exact unheld id info before
        · obtain ⟨e, before, same⟩ := queued isLocal worded
          exact unqueued e before same
    · cases eq : (f d).transaction with
      | idle => exact ⟨rfl, by rintro _ ⟨⟩⟩
      | pendingStart => simp [eq, TransactionState.isIdle] at idle
      | active => simp [eq, TransactionState.isIdle] at idle
      | stopping => simp [eq, TransactionState.isIdle] at idle
    · simp [starts] at opens
    · simp [starts] at opens
    · rw [stopping]
      exact ⟨rfl, by rintro _ ⟨⟩⟩
  · obtain ⟨id, rfl, -⟩ := new c fresh
    cases faulted

/-- A connector stays sound, if its transaction is not stopped under a fault. -/
theorem sounds_step {skip : ConnectorId → Prop} (mask : allow.mask = false) (step : Trans allow l l')
    (ids : Ids l) (worded : Worded l)
    (spared : ∀ c ∈ l.connectors, ¬skip c.id → ∀ tx session, Stoppable l c tx session →
      allow.stops c.id = true → c.status ≠ .faulted) (h : Sounds skip l) : Sounds skip l' := by
  obtain ⟨⟨f, added, eq, edits, new⟩, chargePoint⟩ := step.edits ids
  refine ⟨chargePoint.sound mask (fun tx session target => absurd target (station_unstoppable worded.station))
    h.chargePoint, fun c mem kept => ?_⟩
  rw [eq, List.mem_append] at mem
  rcases mem with mapped | fresh
  · obtain ⟨d, old, rfl⟩ := List.mem_map.mp mapped
    rw [(edits d old).id] at kept
    exact (edits d old).sound mask (spared d old kept) (h.connectors d old kept)
  · obtain ⟨id, rfl, -⟩ := new c fresh
    exact ⟨nofun, fun error => absurd rfl error⟩

/-- What a run needs to know of the books. -/
structure Kept (l : Ledger) : Prop where
  ids : Ids l
  worded : Worded l
  sounds : Sounds (fun _ => False) l

/-- A path without `mask` that stops no transaction on a faulted connector. -/
theorem Kept.path (h : Kept l) (mask : allow.mask = false)
    (mode : allow.starts = false ∨ ∀ id, allow.stops id = false) (spared : Spared allow l)
    (path : Path allow l l') : Kept l' := by
  have preserved : Preserves (Trans allow) fun l => (Ids l ∧ Worded l) ∧ Spared allow l := by
    rcases mode with starts | stops
    · exact spared_preserved mask starts
    · refine (worded_preserved allow).and fun l l' _ _ _ c _ stopped => ?_
      simp [stops] at stopped
  have all := preserved.and (J := Sounds fun _ => False) fun l l' step ⟨⟨ids, worded⟩, spared⟩ sounds =>
    sounds_step mask step ids worded (fun c mem _ tx session target stops =>
      spared.unstoppable mem stops target) sounds
  obtain ⟨⟨⟨ids, worded⟩, -⟩, sounds⟩ := all.path path ⟨⟨⟨h.ids, h.worded⟩, spared⟩, h.sounds⟩
  exact ⟨ids, worded, sounds⟩

/-- A path without `mask` that stops transactions on one connector only: the others stay sound. -/
theorem Sounds.path_but (id : ConnectorId) (mask : allow.mask = false)
    (stops : ∀ other, allow.stops other = true → other = id) (path : Path allow l l') (h : Kept l) :
    (Ids l' ∧ Worded l') ∧ Sounds (· = id) l' := by
  have preserved := (worded_preserved allow).and (J := Sounds (· = id)) fun l l' step ⟨ids, worded⟩ sounds =>
    sounds_step mask step ids worded (fun c _ kept tx session _ stopped => absurd (stops _ stopped) kept) sounds
  exact preserved.path path ⟨⟨h.ids, h.worded⟩, h.sounds.chargePoint, fun c mem _ =>
    h.sounds.connectors c mem nofun⟩

namespace Actor

/-! ## The inputs that keep the faults -/

/-- `c` shows a fault although its transaction can be stopped. -/
def FaultedRunning (a : Actor) (c : ConnectorSnapshot) : Prop :=
  c.status = .faulted ∧ (c.transaction.isActive = true ∨ startQueued a.queue c)

/-- A stop on `id` meets no fault. -/
def Spares (a : Actor) (id : ConnectorId) : Prop := ∀ c ∈ a.connectors, c.id = id → ¬a.FaultedRunning c

/-- A `RemoteStopTransaction`, an `UnlockConnector` and a `Reset` that meet no fault. -/
def KeepsFaultsIncoming (a : Actor) : Incoming → Prop
  | .remoteStop transactionId => ∀ c ∈ a.connectors, c.txId = some (.csms transactionId) → a.Spares c.id
  | .unlockConnector id => a.Spares id
  | .reset _ => ∀ c ∈ a.connectors, c.transaction.isIdle = false → c.status ≠ .faulted
  | _ => True

/-- Commands that stop a transaction or take the EV away, and meet no fault. -/
def KeepsFaultsCommand (a : Actor) : Command → Prop
  | .stopTransaction id _ _ => a.Spares id
  | .meterValues id _ _ => id ∈ a.limited → a.Spares id
  | .unplug id => ∀ c, a.connector id = some c → c.status = .faulted →
      if c.transaction.isIdle then c.evConnected = false
      else a.registry.stopTransactionOnEvSideDisconnect = true ∧ ¬a.FaultedRunning c
  | .disconnect | .reconnect => ∀ id ∈ a.limited, a.Spares id
  | _ => True

/-- The answer to a sample whose transaction is out of energy, or to a queued start that the CSMS refuses,
meets no fault. -/
def KeepsFaultsDone (a : Actor) (continuation : Cont) (result : CallResult) : Prop :=
  match continuation with
  | .meterValues id _ => id ∈ a.limited → a.Spares id
  | .syncStart key => ∀ response e, decodeStart result = .ok response →
      OfflineQueue.get a.queue key = some e → a.refuses e response.idTagInfo = true →
        ∀ c, a.findConnector e.connector = some c → c.txId = some e.txId → c.status ≠ .faulted
  | _ => True

/-- An input that writes no status over a fault. -/
def KeepsFaults (a : Actor) : Input → Prop
  | .command command _ => a.KeepsFaultsCommand command
  | .incoming call => a.link.conn = true → a.KeepsFaultsIncoming call
  | .timer (.meterPeriodic id) => id ∈ a.limited → a.Spares id
  | .timer .meterAligned | .timer .hardReset | .closed _ | .shutdown _ => ∀ id ∈ a.limited, a.Spares id
  | .callDone token generation result => generation = a.link.generation → ∀ call,
      (a.calls.find? fun c => c.token == token) = some call → a.KeepsFaultsDone call.continuation result
  | _ => True

/-- A state file that keeps the faults: no faulted connector is out of service, and none waits for a start
that is lost. -/
def KeepsFaultsSaved (saved : PersistedStation) : Prop :=
  ∀ c ∈ saved.connectors, c.status = .faulted →
    ¬(c.availability = .inoperative ∧ c.transaction.isIdle = true) ∧
      ∀ p, c.transaction = .pendingStart p → ∃ e ∈ saved.offlineQueue, e.txId = p.txId

/-! ## One iteration -/

open Classical in
/-- The permissions of an input that may stop transactions: those that meet no fault. -/
noncomputable def sparing (a : Actor) : Allow :=
  { mask := false, starts := false, stops := fun id => decide (a.Spares id) }

/-- The permissions of an input that stops nothing. -/
def restful : Allow := { mask := false, stops := fun _ => false }

theorem sparing_stops {a : Actor} {id : ConnectorId} (spares : a.Spares id) : a.sparing.stops id = true := by
  simpa [sparing] using spares

theorem sparing_spared (a : Actor) : Spared a.sparing (a.ledger [] .none) := by
  intro c mem stops faulted
  have spares : a.Spares c.id := by simpa [sparing] using stops
  have idle := spares c mem rfl
  have stopped : ¬(c.transaction.isActive = true ∨ startQueued a.queue c) := fun h => idle ⟨faulted, h⟩
  refine ⟨by simpa using fun h => stopped (.inl h), fun p starting => ⟨fun e queued same => ?_, nofun⟩⟩
  exact stopped (.inr ⟨p, starting, e, queued, same⟩)

theorem restful_spared (l : Ledger) : Spared restful l := by
  intro c _ stops
  cases stops

/-- The commands whose handler writes a status and an error code. -/
def Marks : Command → Prop
  | .setConnectorStatus _ _ | .cycleConnectorStatus _ | .fault _ _ _ _ => True
  | _ => False

theorem mayComplete_keepsFaults (a : Actor) (continuation : Cont) (result : CallResult)
    (keeps : a.KeepsFaultsDone continuation result) :
    MayComplete restful a continuation result ∨ MayComplete a.sparing a continuation result := by
  cases continuation with
  | startResult => exact .inl fun _ _ _ => ⟨.inl rfl, .inl rfl, rfl⟩
  | stopResult => exact .inl ⟨.inl rfl, fun _ => .inl rfl⟩
  | syncStart key =>
    refine .inl fun response e decoded found => ?_
    unfold MayDeliver
    split
    · rename_i refused
      exact ⟨.inl rfl, .inr (keeps response e decoded found refused)⟩
    · exact ⟨rfl, .inl rfl, .inl rfl⟩
  | authorize _ done =>
    cases done with
    | reply => exact .inl trivial
    | remoteStart => exact .inl fun _ _ _ _ => ⟨rfl, fun _ => .inl rfl⟩
  | meterValues id => exact .inr fun mem => sparing_stops (keeps mem)
  | boot =>
    refine .inl fun response _ => ?_
    split
    · exact .inl rfl
    · rfl
  | _ => exact .inl trivial

/-- A transaction that goes on is not idle. -/
theorem FaultedRunning.busy {a : Actor} {c : ConnectorSnapshot} (h : a.FaultedRunning c) :
    c.transaction.isIdle = false := by
  rcases h.2 with active | ⟨p, starting, -⟩
  · cases eq : c.transaction with
    | active => rfl
    | _ => simp [eq, TransactionState.isActive] at active
  · rw [starting]
    rfl

/-- An input that keeps the faults needs no permission to write over one. -/
theorem permits_keepsFaults (a : Actor) (input : Input) (ids : Ids (a.ledger [] .none))
    (keeps : a.KeepsFaults input)
    (unmarked : ∀ command reply, input = .command command reply → ¬Marks command) :
    Permits restful a input ∨ Permits a.sparing a input := by
  have limited (h : ∀ id ∈ a.limited, a.Spares id) : a.sparing.StopsLimited a.limited :=
    .inr ⟨rfl, fun id mem => sparing_stops (h id mem)⟩
  have closes (h : ∀ id ∈ a.limited, a.Spares id) : a.sparing.Closes a.limited := ⟨rfl, rfl, limited h⟩
  cases input with
  | command command reply =>
    have keeps : a.KeepsFaultsCommand command := keeps
    cases command with
    | startTransaction => exact .inl ⟨rfl, fun _ => .inl rfl⟩
    | stopTransaction => exact .inr (sparing_stops keeps)
    | meterValues => exact .inr fun mem => sparing_stops (keeps mem)
    | plugIn => exact .inl (.inl rfl)
    | clearFault => exact .inl ⟨.inl rfl, .inl rfl⟩
    | setConnectorStatus => exact absurd trivial (unmarked _ _ rfl)
    | cycleConnectorStatus => exact absurd trivial (unmarked _ _ rfl)
    | fault => exact absurd trivial (unmarked _ _ rfl)
    | disconnect => exact .inr (closes keeps)
    | reconnect => exact .inr (closes keeps)
    | unplug id =>
      refine .inr ⟨.inl rfl, .inr fun c found faulted => ?_, ?_⟩
      · have kept := keeps c found faulted
        split
        · rename_i idle
          rwa [if_pos idle] at kept
        · rename_i busy
          rw [if_neg busy] at kept
          exact kept.1
      · cases stops : a.registry.stopTransactionOnEvSideDisconnect with
        | false => exact .inr rfl
        | true =>
          refine .inl (sparing_stops fun c mem same running => ?_)
          have kept := keeps c (same ▸ ids.connector mem) running.1
          rw [if_neg (by simp [running.busy])] at kept
          exact kept.2 running
    | _ => exact .inl trivial
  | incoming call =>
    by_cases conn : a.link.conn = true
    · have keeps := keeps conn
      cases call with
      | remoteStart connectorId idTag profile =>
        refine .inl fun _ id _ => ?_
        split
        · exact fun _ _ _ => ⟨rfl, fun _ => .inl rfl⟩
        · exact ⟨rfl, fun _ => .inl rfl⟩
      | remoteStop => exact .inr fun _ c mem held => sparing_stops (keeps c mem held)
      | unlockConnector => exact .inr fun _ => sparing_stops keeps
      | changeAvailability => exact .inl fun _ => rfl
      | reserveNow => exact .inl fun _ => .inl rfl
      | cancelReservation => exact .inl fun _ => .inl rfl
      | reset kind =>
        refine .inr fun _ => ⟨rfl, fun c mem busy => sparing_stops fun d known same running => ?_, .inl rfl,
          .inr keeps⟩
        exact keeps d known running.busy running.1
      | _ => exact .inl fun _ => trivial
    · exact .inl fun h => absurd h conn
  | timer key =>
    cases key with
    | meterPeriodic => exact .inr fun mem => sparing_stops (keeps mem)
    | meterAligned => exact .inr (limited keeps)
    | reservationExpiry => exact .inl (.inl rfl)
    | hardReset => exact .inr (closes keeps)
    | _ => exact .inl trivial
  | closed => exact .inr (closes keeps)
  | connected => exact .inl rfl
  | shutdown => exact .inr ⟨closes keeps, .inl rfl⟩
  | saved => exact .inl trivial
  | maintenance => exact .inl trivial
  | callDone token generation result =>
    by_cases current : generation = a.link.generation
    · cases found : a.calls.find? fun c => c.token == token with
      | none => exact .inl fun _ call same => by simp [found] at same
      | some call =>
        have done := keeps current call found
        refine (a.mayComplete_keepsFaults call.continuation result done).imp ?_ ?_
        all_goals
          intro may _ other same
          obtain rfl := Option.some.inj (found.symm.trans same)
          exact may
    · exact .inl fun h => absurd h current

/-- What is known of an actor between two iterations. -/
def Books (a : Actor) : Prop := Kept (a.ledger [] .none)

theorem Books.quiet {a b : Actor} (h : a.Books) (quiet : Quiet a b) : b.Books :=
  h.path (show restful.mask = false from rfl) (.inr fun _ => rfl) (restful_spared _) (quiet.path [] .none)

/-- The connector `id` gets a status together with its error code. -/
theorem Books.mark {a : Actor} {id : ConnectorId} {f : ConnectorSnapshot → ConnectorSnapshot}
    (h : (Ids (a.ledger [] .none) ∧ Worded (a.ledger [] .none)) ∧ Sounds (· = id) (a.ledger [] .none))
    (powered : ∀ c, Powered {} (a.ledger [] .none) c (f c)) (sound : ∀ c, (f c).Sound) :
    (a.withConnector id f).Books := by
  have path : Path {} (a.ledger [] .none) ((a.withConnector id f).ledger [] .none) :=
    withConnector_power a id (fun _ c _ _ => .inr (powered c)) (fun _ => .inr (powered _))
      fun c => (powered c).reservation
  obtain ⟨ids, worded⟩ := (worded_preserved {}).path path h.1
  refine ⟨ids, worded, ?_⟩
  unfold withConnector
  split
  · rename_i zero
    refine ⟨sound _, fun c mem _ => h.2.connectors c mem fun same => ?_⟩
    have physical := h.1.1.physical c mem
    rw [same] at physical
    simp [physical] at zero
  · refine ⟨h.2.chargePoint, fun c mem _ => ?_⟩
    obtain ⟨d, old, rfl⟩ := List.mem_map.mp mem
    split
    · exact sound d
    · rename_i other
      exact h.2.connectors d old (by simpa using other)

theorem manualConnector_sound (vendor : String) (status : ConnectorStatus) (c : ConnectorSnapshot) :
    (manualConnector vendor status c).Sound := by
  unfold ConnectorSnapshot.Sound manualConnector
  by_cases fault : status = .faulted
  · simp [fault]
  · simp [fault]

theorem faultedConnector_sound (vendor : String) (code : ChargePointErrorCode) (info vendorCode : Option String)
    (c : ConnectorSnapshot) : (faultedConnector vendor code info vendorCode c).Sound := by
  refine ⟨fun _ => ?_, fun _ => rfl⟩
  change faultErrorCode code ≠ .noError
  unfold faultErrorCode
  split
  · exact nofun
  · assumption

theorem setStatus_books {a : Actor} (h : a.Books) (id : ConnectorId) (status : ConnectorStatus) :
    (a.setStatus id status).1.Books := by
  unfold setStatus
  split
  · exact h
  · have kept : (Ids (a.ledger [] .none) ∧ Worded (a.ledger [] .none)) ∧ Sounds (· = id) (a.ledger [] .none) :=
      ⟨⟨h.ids, h.worded⟩, h.sounds.chargePoint, fun c mem _ => h.sounds.connectors c mem nofun⟩
    refine (Books.mark kept (fun c => ?_) fun c => manualConnector_sound _ _ c).quiet (statusChanged_quiet _ _)
    exact ⟨rfl, rfl, .inr rfl, .inr (.inl rfl), rfl, rfl, .inl rfl, .inl rfl, .inl rfl, .inl rfl, .inl rfl⟩

theorem fault_books {a : Actor} (h : a.Books) (id : ConnectorId) (code : ChargePointErrorCode)
    (info vendorCode : Option String) (done : Done) : (a.fault id code info vendorCode done).Books := by
  unfold fault
  split
  · exact h.quiet (runDone_quiet _ _ _)
  · rename_i c _
    dsimp only
    set stopped := if c.transaction.isIdle = true then a else a.stopTransaction id .other c.lastIdTag .ignore
      with hstopped
    have path : Path { mask := false, stops := fun other => other == id } (a.ledger [] .none)
        (stopped.ledger [] .none) := by
      rw [hstopped]
      split
      · exact .refl
      · exact stopTransaction_path a id _ _ _ (by simp)
    have others := Sounds.path_but id rfl (by simp) path h
    refine Books.quiet (Books.mark others (fun c => ?_) fun c => faultedConnector_sound _ _ _ _ c)
      ((statusChanged_quiet _ _).trans (runDone_quiet _ _ _))
    exact faultedConnector_powered rfl _ _ _ _ _ c

theorem handle_books {a : Actor} (h : a.Books) (input : Input) (running : a.stopped = false)
    (keeps : a.KeepsFaults input) : (a.handle input).Books := by
  by_cases marked : ∃ command reply, input = .command command reply ∧ Marks command
  · obtain ⟨command, reply, rfl, marks⟩ := marked
    cases command with
    | setConnectorStatus id status => exact (setStatus_books h id status).quiet (reply_quiet _ _ _)
    | cycleConnectorStatus id =>
      unfold handle execute
      dsimp only
      split
      · exact h.quiet (reply_quiet _ _ _)
      · exact (setStatus_books h id _).quiet (reply_quiet _ _ _)
    | fault id code info vendorCode => exact fault_books h id code info vendorCode _
    | _ => exact marks.elim
  · have unmarked : ∀ command reply, input = .command command reply → ¬Marks command :=
      fun command reply same marks => marked ⟨command, reply, same, marks⟩
    rcases a.permits_keepsFaults input h.ids keeps unmarked with permits | permits
    · exact h.path rfl (.inr fun _ => rfl) (restful_spared _) (a.handle_path input h.ids running permits)
    · exact h.path rfl (.inl rfl) a.sparing_spared (a.handle_path input h.ids running permits)

theorem step_books {a : Actor} (h : a.Books) (wake : Wake) (keeps : (a.woken wake).KeepsFaults wake.input) :
    (a.step wake).Books := by
  unfold step
  split
  · exact h
  · rename_i running
    have running : a.stopped = false := by simpa using running
    have handled := handle_books (h.quiet (a.woken_quiet wake)) wake.input running keeps
    dsimp only
    split
    · exact handled
    · exact handled.quiet (settleMeters_quiet _)

/-! ## A restart -/

theorem withAvailability_sound {c : ConnectorSnapshot} (sound : c.Sound) : (withAvailability c).Sound := by
  unfold withAvailability
  split
  · split
    · exact sound.applied (some _)
    · exact sound
  · exact sound

theorem withoutLostStop_sound {c : ConnectorSnapshot} (sound : c.Sound) : (withoutLostStop c).Sound := by
  unfold withoutLostStop
  split
  · exact sound.of_same rfl rfl
  · exact sound

/-- A lost start is no fault. -/
theorem withoutLostStart_sound {queue : OfflineQueue} {c : ConnectorSnapshot} (sound : c.Sound)
    (kept : c.status = .faulted → ∀ p, c.transaction = .pendingStart p → ∃ e ∈ queue, e.txId = p.txId) :
    (withoutLostStart queue c).Sound := by
  unfold withoutLostStart
  split
  · rename_i p starting
    split
    · exact sound
    · rename_i lost
      have usable : c.status ≠ .faulted := fun faulted => lost (by simpa using kept faulted p starting)
      refine sound.of_unfaulted rfl usable ?_
      dsimp only
      repeat' split
      all_goals exact nofun
  · exact sound

theorem restoredConnector_sound {pc : PersistedConnector} {queue : OfflineQueue}
    (kept : pc.status = .faulted → ¬(pc.availability = .inoperative ∧ pc.transaction.isIdle = true) ∧
      ∀ p, pc.transaction = .pendingStart p → ∃ e ∈ queue, e.txId = p.txId) :
    (withAvailability (withoutLostStop (withoutLostStart (queue.map restoredEntry)
      (restoredConnector pc (newConnector pc.id))))).Sound := by
  have sound : (restoredConnector pc (newConnector pc.id)).Sound := by
    by_cases faulted : pc.status = .faulted
    · have serving := (kept faulted).1
      unfold ConnectorSnapshot.Sound restoredConnector
      simp [faulted, serving]
    · unfold ConnectorSnapshot.Sound restoredConnector
      dsimp only
      rw [if_neg faulted]
      refine ⟨fun fault => ?_, fun error => absurd rfl error⟩
      split at fault
      · cases fault
      · exact absurd fault faulted
  refine withAvailability_sound (withoutLostStop_sound (withoutLostStart_sound sound fun fault p starting => ?_))
  have faulted : pc.status = .faulted := by
    unfold restoredConnector at fault
    dsimp only at fault
    split at fault
    · cases fault
    · exact fault
  have starting : pc.transaction = .pendingStart p := by
    unfold restoredConnector at starting
    dsimp only at starting
    split at starting
    · cases starting
    · cases starting
    · exact starting
  obtain ⟨e, queued, same⟩ := (kept faulted).2 p starting
  exact ⟨restoredEntry e, List.mem_map_of_mem queued, same⟩

theorem start_books (config : StationConfig) (registry : ConfigRegistry) (now : Instant) (mono : Int)
    {saved : Option PersistedStation} (nodup : ∀ data, saved = some data → (data.connectors.map (·.id)).Nodup)
    (worded : ∀ data, saved = some data → ∀ c ∈ data.connectors, c.transaction.Worded)
    (keeps : ∀ data, saved = some data → KeepsFaultsSaved data) :
    (start config registry now mono saved).Books := by
  have loaded : Kept ((loaded config registry now mono saved).ledger [] .none) := by
    refine ⟨loaded_ids config registry now mono saved, loaded_worded config registry now mono nodup worded, ?_⟩
    cases saved with
    | none =>
      refine ⟨⟨nofun, fun error => absurd rfl error⟩, fun c mem _ => ?_⟩
      obtain ⟨index, -, rfl⟩ := List.mem_map.mp mem
      exact ⟨nofun, fun error => absurd rfl error⟩
    | some data =>
      refine ⟨⟨fun faulted => ?_, fun error => absurd rfl error⟩, fun c mem _ => ?_⟩
      · have usable : chargePointStatus data.chargePointAvailability .available ≠ .faulted := by
          cases data.chargePointAvailability <;> exact nofun
        exact absurd faulted usable
      · obtain ⟨d, old, rfl⟩ := mem_restore mem
        rcases restoredConnectors_cases config (nodup data rfl) old with ⟨id, rfl⟩ | ⟨pc, known, rfl⟩
        · exact ⟨nofun, fun error => absurd rfl error⟩
        · exact restoredConnector_sound (keeps data rfl pc known)
  exact loaded.path (show restful.mask = false from rfl) (.inr fun _ => rfl) (restful_spared _)
    (start_path config registry now mono saved (.inr rfl))

/-- **Fault bookkeeping.** While every input and every restart keeps the faults, the status of a connector is
`Faulted` exactly when its error code is set; the same for connector 0. -/
theorem faults_agree {a : Actor}
    (h : ReachableVia (fun a wake => (a.woken wake).KeepsFaults wake.input) KeepsFaultsSaved a) :
    a.chargePoint.Sound ∧ ∀ c ∈ a.connectors, c.Sound := by
  have books : a.Books := by
    refine h.inductive (P := Books) ?_ ?_ fun a wake books keeps => step_books books wake keeps
    · intro config registry now mono
      exact start_books config registry now mono (fun _ h => nomatch h)
        (fun _ h => nomatch h) fun _ h => nomatch h
    · intro config registry now mono b saved books written keeps
      have known := books.worded.saved saved written
      refine start_books config registry now mono ?_ ?_ ?_
      all_goals
        intro data same
        obtain rfl := Option.some.inj same
        first | exact known.1 | exact known.2 | exact keeps
  exact ⟨books.sounds.chargePoint, fun c mem => books.sounds.connectors c mem nofun⟩

/-- An EV is plugged in, the connector has a fault and is cleared. -/
theorem faults_agree_cleared :
    let wake (command : Command) : Wake := { input := .command command 0, now := 1000000000000, mono := 0 }
    let a := (((start { connectorCount := 1 } {} 1000000000000 0 none).step (wake (.plugIn 1))).step
      (wake (.fault 1 .groundFailure none none))).step (wake (.clearFault 1))
    a.chargePoint.Sound ∧ ∀ c ∈ a.connectors, c.Sound := by
  intro wake a
  have started : ReachableVia (fun a wake => (a.woken wake).KeepsFaults wake.input) KeepsFaultsSaved
      (start { connectorCount := 1 } {} 1000000000000 0 none) := .fresh _ _ _ _ .refl
  exact faults_agree (((started.step (wake (.plugIn 1)) trivial).step
    (wake (.fault 1 .groundFailure none none)) trivial).step (wake (.clearFault 1)) trivial)

/-- An EV is unplugged from a faulted connector: the connector shows `Available` with an error code. -/
theorem unplug_unsound :
    let a := (start { connectorCount := 1 } {} 1000000000000 0 none).replay 1000000000000 0
      [.command (.plugIn 1) 0, .command (.fault 1 .groundFailure none none) 1, .command (.unplug 1) 2]
    Reachable (fun _ _ => True) a ∧
    (a.connector 1).map (fun c => (c.status, c.errorCode)) = some (.available, .groundFailure) ∧
    ¬∀ c ∈ a.connectors, c.status = .faulted ↔ c.errorCode ≠ .noError := by
  refine ⟨.replay _ _ _ _ _ _, ?_⟩
  decide +kernel

end Actor

end KirbyOcpp
