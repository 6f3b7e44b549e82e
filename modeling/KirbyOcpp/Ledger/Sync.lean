import KirbyOcpp.Ledger.Calls

/-!
# The queue and the offline sync as paths

What the operations of `Station.Transactions` on the queue and the offline sync do to the ledger.
-/

namespace KirbyOcpp

open Paths Relation

/-- A change of availability lets nothing charge. -/
theorem statusAfterAvailabilityChange_calm (c : ConnectorSnapshot) (kind : AvailabilityType) :
    (statusAfterAvailabilityChange c kind).calm = true := by
  unfold statusAfterAvailabilityChange
  repeat' split
  all_goals rfl

namespace Actor

variable {allow : Allow} {rest : List PendingCall} {hand : Hand}

/-! ## Quiet parts -/

/-- A profile is stored or refused. -/
theorem setChargingProfile_quiet (a : Actor) (id : ConnectorId) (profile : ChargingProfile Rat) :
    Quiet a (a.setChargingProfile id profile).1 := by
  unfold setChargingProfile
  dsimp only
  split
  · exact (markDirty_quiet _).behind fun _ _ => rfl
  · exact .of_ledger fun _ _ => rfl

/-- Who waits for a transaction is told. -/
theorem runDone_quiet (done : Done) (result : Except StationError Outcome) (a : Actor) :
    Quiet a (runDone done result a) := by
  unfold runDone
  split
  · exact a.reply_quiet _ _
  · exact .refl
  · exact a.setChargingProfile_quiet _ _
  · exact .refl

/-- The timers of the samples are armed. -/
theorem rescheduleMetering_quiet (a : Actor) : Quiet a a.rescheduleMetering := by
  unfold rescheduleMetering
  dsimp only
  split
  all_goals
    refine .trans ?_ (by first | exact setTimerIfIdle_quiet _ _ | exact cancelTimer_quiet _ _)
    refine .foldl _ (fun c _ b => ?_) a
    split
    · exact b.setTimerIfIdle_quiet _
    · exact b.cancelTimer_quiet _

/-- `b` is `a`, but that the state file may be behind. -/
def Touched (a b : Actor) : Prop :=
  (∀ rest hand, b.ledger rest hand = a.ledger rest hand) ∨
    ∀ rest hand, b.ledger rest hand = { a.ledger rest hand with unsaved := true }

/-- A touched actor finds the same connectors. -/
theorem Touched.find {a b : Actor} (h : Touched a b) : b.findConnector = a.findConnector := by
  rcases h with same | touched
  · exact congrArg Ledger.find (same [] .none)
  · exact congrArg Ledger.find (touched [] .none)

/-- A change of a connector, before or after. -/
theorem Touched.update {a b : Actor} (h : Touched a b) (id : ConnectorId)
    (f : ConnectorSnapshot → ConnectorSnapshot) : Quiet (a.withConnector id f) (b.withConnector id f) := by
  intro rest hand
  rw [withConnector_ledger, withConnector_ledger]
  rcases h with same | touched
  · rw [same]
  · rw [touched]
    exact .single (.touch _)

/-- To touch is quiet. -/
theorem Touched.quiet {a b : Actor} (h : Touched a b) : Quiet a b := by
  intro rest hand
  rcases h with same | touched
  · rw [same]
  · rw [touched]
    exact .single (.touch _)

/-- Looking at the connector that was changed. -/
theorem findConnector_withConnector (a : Actor) (id : ConnectorId)
    {f : ConnectorSnapshot → ConnectorSnapshot} (keeps : ∀ c, (f c).id = c.id) :
    (a.withConnector id f).findConnector id = (a.findConnector id).map f := by
  unfold withConnector findConnector
  split
  · rfl
  · dsimp only
    unfold updateConnector
    induction a.connectors with
    | nil => rfl
    | cons c connectors ih =>
      rw [List.map_cons, List.find?_cons, List.find?_cons]
      by_cases same : (c.id == id) = true
      · simp [same, keeps]
      · simp only [same, if_neg, Bool.false_eq_true, not_false_eq_true]
        exact ih

/-- The other connectors stay. -/
theorem findConnector_withConnector_other (a : Actor) {id other : ConnectorId}
    {f : ConnectorSnapshot → ConnectorSnapshot} (keeps : ∀ c, (f c).id = c.id) (distinct : other ≠ id) :
    (a.withConnector id f).findConnector other = a.findConnector other := by
  unfold withConnector findConnector
  by_cases charge : isStation id = true
  · have physical : ¬isStation other = true := fun both =>
      distinct ((beq_iff_eq.mp both).trans (beq_iff_eq.mp charge).symm)
    rw [if_pos charge, if_neg physical, if_neg physical]
  · rw [if_neg charge]
    split
    · rfl
    · dsimp only
      unfold updateConnector
      induction a.connectors with
      | nil => rfl
      | cons c connectors ih =>
        rw [List.map_cons, List.find?_cons, List.find?_cons, ih]
        by_cases same : (c.id == id) = true
        · have foreign : (c.id == other) = false := by
            rw [beq_iff_eq] at same
            simp [same, Ne.symm distinct]
          simp [same, keeps, foreign]
        · simp [same]

/-- A note and an update commute. -/
theorem update_note (l : Ledger) (id : ConnectorId) (f : ConnectorSnapshot → ConnectorSnapshot) (event : Event) :
    (l.note event).update id f = (l.update id f).note event := rfl

/-- Two updates of a connector are one. -/
theorem update_update (l : Ledger) (id : ConnectorId) (f g : ConnectorSnapshot → ConnectorSnapshot)
    (keeps : ∀ c, (f c).id = c.id) : (l.update id f).update id g = l.update id (g ∘ f) := by
  unfold Ledger.update updateConnector
  dsimp only
  split
  · rfl
  · rw [List.map_map]
    congr 1
    refine List.map_congr_left fun c _ => ?_
    simp only [Function.comp_apply]
    by_cases same : (c.id == id) = true
    · simp [same, keeps]
    · simp [same]

/-- The end of a transaction on `id`: the connector is changed by `f`, then what was scheduled is applied. -/
theorem applyPendingAvailability_quiet {a b : Actor} {id : ConnectorId}
    {f : ConnectorSnapshot → ConnectorSnapshot} (keeps : ∀ c, (f c).id = c.id)
    (pending : ∀ c, (f c).pendingAvailability = c.pendingAvailability)
    (same : Touched (a.withConnector id f) b) :
    Quiet (a.withConnector id fun c => (f c).applied ((a.ledger [] .none).scheduled id))
      (b.applyPendingAvailability id) := by
  have found : b.findConnector id = (a.findConnector id).map f :=
    (congrFun same.find id).trans (a.findConnector_withConnector id keeps)
  have scheduled : (b.findConnector id).bind (·.pendingAvailability) = (a.ledger [] .none).scheduled id := by
    rw [found]
    unfold Ledger.scheduled
    rw [find_ledger]
    cases a.findConnector id with
    | none => rfl
    | some c => exact pending c
  unfold applyPendingAvailability
  rw [scheduled]
  cases (a.ledger [] .none).scheduled id with
  | none => exact same.quiet
  | some kind =>
    dsimp only
    refine .trans ?_ ((flushNow_quiet _).trans (statusChanged_quiet _ _))
    refine .trans (.of_ledger fun rest hand => ?_) (same.update id _)
    rw [withConnector_ledger, withConnector_ledger, withConnector_ledger]
    exact update_update _ id f _ keeps

private theorem endProfiles_quiet (a : Actor) (tx : TxId) : Quiet a (a.endProfiles tx) := by
  unfold endProfiles
  dsimp only
  split
  · exact (markDirty_quiet _).behind fun _ _ => rfl
  · exact .of_ledger fun _ _ => rfl

/-- The connectors with an energy limit change. -/
theorem limits_path (a : Actor) (limits : List (ConnectorId × Nat))
    (h : ∀ id ∈ limits.map (·.1), id ∈ a.limited ∨ allow.starts = true) :
    Path allow (a.ledger rest hand) (({ a with invalidLimits := limits } : Actor).ledger rest hand) :=
  .single (.limit (a.ledger rest hand) (limits.map (·.1)) h)

/-- A start with an invalid id tag gets a limit. -/
theorem limitEnergyOnInvalidId_path (a : Actor) (id : ConnectorId) (starts : allow.starts = true) :
    Path allow (a.ledger rest hand) ((a.limitEnergyOnInvalidId id).ledger rest hand) := by
  refine (a.flushMeters_quiet.path rest hand).trans ?_
  unfold limitEnergyOnInvalidId
  dsimp only
  split
  · exact .refl
  · split
    · exact .refl
    · exact limits_path _ _ fun _ _ => .inr starts

/-- A limit is dropped. -/
theorem removeLimit_path (a : Actor) (id : ConnectorId) :
    Path allow (a.ledger rest hand)
      (({ a with invalidLimits := removeAt id a.invalidLimits } : Actor).ledger rest hand) := by
  refine limits_path a _ fun other mem => .inl ?_
  obtain ⟨entry, kept, rfl⟩ := List.mem_map.mp mem
  exact List.mem_map_of_mem (List.mem_of_mem_filter kept)

private theorem endProfiles_touched (a : Actor) (tx : TxId) : Touched a (a.endProfiles tx) := by
  unfold endProfiles
  dsimp only
  split
  · exact .inr fun rest hand => markDirty_ledger _ rest hand
  · exact .inl fun _ _ => rfl

private theorem forgetTransaction_keeps (tx : TxId) (c : ConnectorSnapshot) :
    (forgetTransaction tx c).id = c.id ∧
      (forgetTransaction tx c).pendingAvailability = c.pendingAvailability := by
  unfold forgetTransaction
  split <;> exact ⟨rfl, rfl⟩

/-- `finish_stop` once the connector has forgotten the transaction. -/
theorem finishStop_quiet (a : Actor) (id : ConnectorId) (tx : TxId) :
    Quiet (a.withConnector id fun c =>
        (forgetTransaction tx c).applied ((a.ledger [] .none).scheduled id))
      (a.finishStop id tx) :=
  ((applyPendingAvailability_quiet (fun c => (forgetTransaction_keeps tx c).1)
    (fun c => (forgetTransaction_keeps tx c).2) (endProfiles_touched _ tx)).trans (flushNow_quiet _)).trans
      (statusChanged_quiet _ _)

/-- A failure is counted beside the ledger. -/
theorem recordSyncFailure_ledger (a : Actor) (key : Nat) (error : CallError) (rest : List PendingCall)
    (hand : Hand) : (a.recordSyncFailure key error).ledger rest hand = a.ledger rest hand := by
  unfold recordSyncFailure
  split <;> rfl

/-! ## The queue -/

/-- An entry is queued. -/
theorem pushQueue_ledger (a : Actor) (entry : OfflineTx) (rest : List PendingCall) (hand : Hand) :
    (a.pushQueue entry).ledger rest hand = (a.ledger rest hand).push entry := by
  unfold pushQueue Ledger.push
  dsimp only [ledger]
  split
  · rename_i h
    rw [h]
    rfl
  · rename_i dropped h
    rw [h]
    rfl

/-- A stop is queued and its connector forgets the transaction. -/
theorem queueStop_path (a : Actor) (id : ConnectorId) (tx : TxId) (tag : IdTag) (startedAt : Instant)
    (meterStartWh : Nat) (info : StopInfo)
    (held : hand = .stop id tx info ∨ hand = .stopping id tx info)
    (ends : Ends allow a.findConnector id tx) :
    Path allow (a.ledger rest hand)
      ((((a.queueStop id tx tag startedAt meterStartWh info).2).finishStop id tx).ledger rest .none) := by
  refine .trans ?_ ((finishStop_quiet _ id tx).path rest .none)
  have scheduled : (((a.queueStop id tx tag startedAt meterStartWh info).2).ledger [] .none).scheduled id =
      (a.ledger [] .none).scheduled id := by
    unfold queueStop
    split
    · rfl
    · dsimp only [nextKey]
      unfold Ledger.scheduled
      rw [pushQueue_ledger]
      rfl
  rw [withConnector_ledger, scheduled]
  unfold queueStop
  split
  · rename_i e found
    have step : Trans allow _ _ := .queueStop (a.ledger rest hand) id tx info e held found ends
    convert ReflTransGen.single step using 1
    unfold Ledger.update
    split <;> rfl
  · rename_i missing
    have step : Trans allow _ _ := .queueNewStop (a.ledger rest hand) id tx info
      { key := a.nextLocal + 1, connector := id, txId := tx, idTag := tag, startedAt, meterStartWh
        reservationId := none, startPending := false, stop := some info }
      held missing rfl rfl rfl rfl rfl ends
    convert ReflTransGen.single step using 1
    dsimp only [nextKey]
    rw [pushQueue_ledger]
    unfold Ledger.update
    split <;> rfl

/-- The stop of a refused session goes out, or it does not. -/
theorem sendStopFor_path (a : Actor) (session : Nat) (sync : Bool) (tx : Int) (meterStopWh : Nat)
    (idTag : Option IdTag) (reason : StopReason) :
    Path allow (a.ledger rest (.refused session sync))
      ((a.sendStopFor session tx meterStopWh idTag reason).ledger rest
        (if sync then .slot session else .none)) := by
  unfold sendStopFor
  rcases call_cases a .station _ (.closeRefused session) fun _ a => a with
    ⟨error, eq⟩ | ⟨conn, passes, eq⟩
  · rw [eq]
    exact .single (.skipClose _ session sync rfl)
  · rw [eq]
    exact .single (.sendClose _ session sync _ rfl (a.newCall_sends conn passes (.inl rfl) _ _ _) rfl)

/-! ## Giving up -/

/-- As often as `keys` names a key, the queue has entries with it whose start was delivered. -/
def Spare (keys : List Nat) (queue : OfflineQueue) : Prop :=
  ∀ key, keys.count key ≤ queue.countP fun e => e.key == key && !e.startPending

private theorem Spare.of_filter (p : OfflineTx → Bool) (queue : OfflineQueue) :
    Spare ((queue.filter fun e => !e.startPending && p e).map (·.key)) queue := by
  intro key
  rw [List.count, List.countP_map, List.countP_filter]
  refine List.countP_mono_left fun e _ h => ?_
  simp only [Function.comp_apply, Bool.and_eq_true] at h ⊢
  exact ⟨h.1, h.2.1⟩

/-- The next key has an entry with nothing to start. -/
theorem Spare.exists {key : Nat} {keys : List Nat} {queue : OfflineQueue}
    (h : Spare (key :: keys) queue) : ∃ e ∈ queue, e.key = key ∧ e.startPending = false := by
  have positive : 0 < queue.countP fun e => e.key == key && !e.startPending := by
    have := h key
    rw [List.count_cons_self] at this
    omega
  obtain ⟨e, mem, he⟩ := List.countP_pos_iff.mp positive
  exact ⟨e, mem, by simpa using he⟩

private theorem countP_eraseP_of_disjoint {p q : OfflineTx → Bool} (h : ∀ e, p e = true → q e = false)
    (queue : OfflineQueue) : (queue.eraseP p).countP q = queue.countP q := by
  induction queue with
  | nil => rfl
  | cons e rest ih =>
    cases hp : p e with
    | true => simp [hp, h e hp]
    | false => simp [hp, List.countP_cons, ih]

private theorem countP_le_eraseP (p q : OfflineTx → Bool) (queue : OfflineQueue) :
    queue.countP q ≤ (queue.eraseP p).countP q + 1 := by
  induction queue with
  | nil => simp
  | cons e rest ih =>
    cases hp : p e with
    | true =>
      rw [List.eraseP_cons_of_pos hp, List.countP_cons]
      split <;> omega
    | false =>
      rw [List.eraseP_cons_of_neg (by simp [hp]), List.countP_cons, List.countP_cons]
      omega

/-- An entry that is removed leaves the other keys theirs. -/
theorem Spare.remove {key : Nat} {keys : List Nat} {queue : OfflineQueue}
    (h : Spare (key :: keys) queue) : Spare keys (OfflineQueue.remove queue key) := by
  intro other
  have count := h other
  unfold OfflineQueue.remove
  by_cases same : key = other
  · subst same
    rw [List.count_cons_self] at count
    have := countP_le_eraseP (fun e => e.key == key) (fun e => e.key == key && !e.startPending) queue
    omega
  · rw [List.count_cons_of_ne same] at count
    rw [countP_eraseP_of_disjoint (fun e he => ?_)]
    · exact count
    · simp only [beq_iff_eq] at he
      simp [he, same]

private theorem giveUp_queue (a : Actor) (key : Nat) :
    (a.giveUp key).queue = a.queue ∧ OfflineQueue.get a.queue key = none ∨
      (a.giveUp key).queue = OfflineQueue.remove a.queue key := by
  unfold giveUp
  rw [(flushNow_quiet _).queue]
  split
  · exact .inr rfl
  · rename_i missing
    exact .inl ⟨rfl, missing⟩

private theorem giveUp_path (a : Actor) (key : Nat)
    (delivered : ∃ e ∈ a.queue, e.key = key ∧ e.startPending = false) :
    Path allow (a.ledger rest hand) ((a.giveUp key).ledger rest hand) := by
  unfold giveUp
  refine .trans ?_ ((flushNow_quiet _).path rest hand)
  split
  · rename_i e found
    exact .single (.giveUp (a.ledger rest hand) key e found delivered)
  · exact .refl

private theorem giveUps_path (keys : List Nat) (a : Actor) (spare : Spare keys a.queue) :
    Path allow (a.ledger rest hand) ((keys.foldl giveUp a).ledger rest hand) := by
  induction keys generalizing a with
  | nil => exact .refl
  | cons key keys ih =>
    have delivered := spare.exists
    refine (a.giveUp_path key delivered).trans (ih _ ?_)
    rcases a.giveUp_queue key with ⟨-, missing⟩ | removed
    · obtain ⟨e, mem, he, -⟩ := delivered
      have := List.find?_eq_none.mp missing e mem
      simp [he] at this
    · rw [removed]
      exact spare.remove

private theorem armSyncRetry_path (a : Actor) :
    Path allow (a.ledger rest hand) (a.armSyncRetry.ledger rest hand) := by
  unfold armSyncRetry
  split
  · exact .refl
  · dsimp only
    have dropped : Path allow (a.ledger rest hand) _ := giveUps_path _ a
      (Spare.of_filter (fun e => decide (a.syncRoundLimit < a.failures e.key)) a.queue)
    split
    · exact dropped.trans ((setTimer_quiet _ _).path rest hand)
    · exact dropped

/-- The timer of the sync is armed. -/
theorem armSyncRetryIfIdle_path (a : Actor) :
    Path allow (a.ledger rest hand) (a.armSyncRetryIfIdle.ledger rest hand) := by
  unfold armSyncRetryIfIdle
  split
  · split
    · exact armSyncRetry_path { a with syncFailed := false }
    · exact .refl
  · exact .refl

/-! ## The sync -/

/-- What follows an accepted boot, or the sync after one. -/
theorem finishBootAccepted_path (a : Actor) (registered : a.registration = some .accepted) :
    Path allow (a.ledger rest .boot) (a.finishBootAccepted.ledger rest .none) := by
  unfold finishBootAccepted
  rw [if_neg (by simp [registered])]
  have resent : Quiet a a.rescheduleMetering.resendAllStatuses :=
    a.rescheduleMetering_quiet.trans (resendAllStatuses_quiet _)
  have finished : Path allow (a.ledger rest .boot)
      ((a.rescheduleMetering.resendAllStatuses.record .bootFinished).ledger rest .none) :=
    (resent.path rest .boot).tail (.finishBoot _ rfl (resent.registration.trans registered))
  dsimp only
  split
  · exact finished.trans (((securityEvent_quiet _ _ _).behind (by intros; rfl)).path rest .none)
  · exact finished.trans ((flushSecurityEvents_quiet _).path rest .none)

private theorem syncFinished_path (a : Actor) (empty : a.syncKeys = []) :
    Path allow (a.ledger rest .sync) (a.syncFinished.ledger rest .none) := by
  unfold syncFinished
  dsimp only
  refine .trans ?_ (armSyncRetryIfIdle_path _)
  set ended : Actor := { a with syncOutstanding := 0, syncBoot := false } with hended
  have finish : Trans allow (a.ledger rest .sync)
      (ended.ledger rest
        (if a.syncBoot = true ∧ a.registration = some .accepted then .boot else .none)) :=
    .finishSync (a.ledger rest .sync) rfl empty
  have registration : ended.registration = a.registration := rfl
  clear_value ended
  by_cases boot : a.syncBoot = true
  · rw [if_pos boot]
    by_cases registered : a.registration = some .accepted
    · rw [if_pos ⟨boot, registered⟩] at finish
      exact .head finish (finishBootAccepted_path _ (registration.trans registered))
    · rw [if_neg fun both => registered both.2] at finish
      unfold finishBootAccepted
      rw [if_pos (registration ▸ registered)]
      exact .single finish
  · rw [if_neg fun both => boot both.1] at finish
    rw [if_neg boot]
    exact .single finish

/-- What a sync sends for a key belongs to the entry with that key. -/
theorem syncCallOf_some {a : Actor} {key : Nat} {request : Request} {cont : Cont}
    (h : a.syncCallOf key = some (request, cont)) :
    ∃ e, OfflineQueue.get a.queue key = some e ∧
      ((e.startPending = true ∧ startOf e = (request, cont)) ∨
        (e.startPending = false ∧ stopOf e = some (request, cont))) := by
  obtain ⟨e, found, message⟩ := Option.bind_eq_some_iff.mp h
  refine ⟨e, found, ?_⟩
  cases pending : e.startPending with
  | true =>
    rw [if_pos pending] at message
    exact .inl ⟨rfl, Option.some.inj message⟩
  | false =>
    rw [if_neg (by simp [pending])] at message
    exact .inr ⟨rfl, message⟩

private theorem runSyncWith_path (keys : List Nat) (a : Actor) (h : a.syncKeys = keys) :
    Path allow (a.ledger rest .sync) ((runSyncWith keys a).ledger rest .none) := by
  induction keys generalizing a with
  | nil =>
    have same : ({ a with syncKeys := [] } : Actor) = a := by rw [← h]
    unfold runSyncWith
    rw [same]
    exact a.syncFinished_path h
  | cons key keys ih =>
    have skipped : Path allow (a.ledger rest .sync) (({ a with
        syncKeys := keys, syncOutstanding := a.syncOutstanding - 1 } : Actor).ledger rest .sync) :=
      .single (.skipNext (a.ledger rest .sync) key keys rfl h)
    unfold runSyncWith
    dsimp only
    split
    · rename_i request cont message
      obtain ⟨e, found, message⟩ := syncCallOf_some message
      rcases call_cases { a with syncKeys := keys } .station request cont _ with
        ⟨error, eq⟩ | ⟨conn, passes, eq⟩
      · rw [eq]
        refine skipped.trans ?_
        unfold recordSyncFailure
        split
        · exact ih { a with syncKeys := keys, syncOutstanding := a.syncOutstanding - 1 } rfl
        · exact (ih { a with
            syncKeys := keys, syncOutstanding := a.syncOutstanding - 1, syncFailed := true
            syncFailures := insertAt key (a.failures key + 1) a.syncFailures } rfl)
      · rw [eq]
        exact .single (.sendNext (a.ledger rest .sync) key keys e request cont _ rfl h
          (a.newCall_sends conn passes (.inr rfl) cont rest .sync) found message rfl rfl)
    · exact skipped.trans (ih _ rfl)

private theorem runSync_path (a : Actor) : Path allow (a.ledger rest .sync) (a.runSync.ledger rest .none) :=
  runSyncWith_path a.syncKeys a rfl

/-- The CALL of one entry has completed; the next one goes out. -/
theorem syncDone_path (a : Actor) (key : Nat) (held : hand = .slot key ∨ hand = .slotReady key) :
    Path allow (a.ledger rest hand) (a.syncDone.ledger rest .none) :=
  .head (.release (a.ledger rest hand) key held)
    (runSync_path { a with syncOutstanding := a.syncOutstanding - 1 })

/-- A sync begins and sends its first message. -/
theorem beginSync_path (a : Actor) (boot : Bool) (keys : List Nat) (conn : boot = false → a.link.conn = true)
    (free : a.syncOutstanding = 0) (some : keys ≠ []) (ordered : keys.Sublist (a.queue.map (·.key))) :
    Path allow (a.ledger rest (if boot then .boot else .none))
      ((a.beginSync boot keys).runSync.ledger rest .none) :=
  .head (.beginSync (a.ledger rest _) boot keys rfl conn free some ordered)
    (runSync_path (a.beginSync boot keys))

/-- A sync that does not follow a boot. -/
theorem startOfflineSync_path (a : Actor) (conn : a.link.conn = true) :
    Path allow (a.ledger rest .none) ((a.startOfflineSync false).2.ledger rest .none) := by
  unfold startOfflineSync
  split
  · exact .refl
  · rename_i free
    dsimp only
    split
    · exact (cancelTimer_quiet _ _).path rest .none
    · rename_i some
      exact beginSync_path (a.cancelTimer .syncRetry) false _ (fun _ => conn)
        (Nat.eq_zero_of_not_pos free) (by simpa using some) List.filter_sublist

/-- The sync after an accepted boot: it begins, or one is running, or there is nothing to deliver. -/
theorem startOfflineSync_boot_path (a : Actor)
    (free : allow.forgetBoot = true ∨ a.syncOutstanding = 0 ∨ a.syncBoot = true) :
    Path allow (a.ledger rest .boot)
      ((a.startOfflineSync true).2.ledger rest
        (if (a.startOfflineSync true).1 = 0 then .boot else .none)) := by
  unfold startOfflineSync
  split
  · rename_i running
    rw [if_neg (by dsimp only; omega)]
    refine .single (.joinSync (a.ledger rest .boot) rfl running ?_)
    rcases free with forget | zero | boot
    · exact .inl forget
    · omega
    · exact .inr boot
  · rename_i free
    dsimp only
    split
    · exact (cancelTimer_quiet _ _).path rest .boot
    · rename_i some
      rw [if_neg (by simpa using some)]
      exact beginSync_path (a.cancelTimer .syncRetry) true _ (fun h => by cases h)
        (Nat.eq_zero_of_not_pos free) (by simpa using some) List.filter_sublist

/-- The next round begins. -/
theorem onSyncRetryTimer_path (a : Actor) :
    Path allow (a.ledger rest .none) (a.onSyncRetryTimer.ledger rest .none) := by
  unfold onSyncRetryTimer
  split
  · rename_i talk
    have conn : a.link.conn = true := by
      simp only [canTalk, Bool.and_eq_true] at talk
      exact talk.1
    exact a.startOfflineSync_path conn
  · exact .refl

/-- The stop of a queue entry failed. -/
theorem onSyncStop_error_path (a : Actor) (key : Nat) (error : CallError)
    (held : hand = .slot key ∨ hand = .slotReady key) :
    Path allow (a.ledger rest hand) ((onSyncStop key (.error error) a).ledger rest .none) := by
  unfold onSyncStop
  dsimp only
  rw [← recordSyncFailure_ledger a key error]
  exact syncDone_path _ key held

/-- The stop of a queue entry was answered. -/
theorem onSyncStop_ok_path (a : Actor) (key : Nat) (info : StopInfo) (result : Unit) :
    Path allow (a.ledger rest (.slotStopped key info))
      ((onSyncStop key (.ok result) a).ledger rest .none) := by
  unfold onSyncStop
  dsimp only
  refine .trans ?_ (syncDone_path _ key (.inl rfl))
  exact .head (.confirmQueued (a.ledger rest _) key info rfl)
    ((flushNow_quiet { a with
      queue := OfflineQueue.remove a.queue key
      syncFailures := removeAt key a.syncFailures }).path rest (.slot key))

/-- The stop of an entry follows its start at once. -/
theorem syncStop_path (a b : Actor) (key : Nat) (sent : a.syncStop key = some b) :
    Path allow (a.ledger rest (.slotReady key)) (b.ledger rest .none) := by
  obtain ⟨⟨request, cont⟩, message, eq⟩ := Option.map_eq_some_iff.mp sent
  obtain ⟨e, found, message⟩ := Option.bind_eq_some_iff.mp message
  subst eq
  dsimp only
  rcases call_cases a .station request cont fun error => onSyncStop key (.error error) with
    ⟨error, eq⟩ | ⟨conn, passes, eq⟩
  · rw [eq]
    exact a.onSyncStop_error_path key error (.inr rfl)
  · rw [eq]
    exact .single (.sendReady (a.ledger rest _) key e request cont _ rfl
      (a.newCall_sends conn passes (.inr rfl) cont rest _) found message rfl rfl)

/-! ## The answer to a queued start -/

private theorem droppedConnector_keeps (localId : TxId) (c : ConnectorSnapshot) :
    (droppedConnector localId c).id = c.id ∧
      (droppedConnector localId c).pendingAvailability = c.pendingAvailability := by
  unfold droppedConnector
  split <;> exact ⟨rfl, rfl⟩

/-- `drop_local_transaction` once the connector has forgotten the transaction. -/
theorem dropLocalTransaction_quiet (a : Actor) (id : ConnectorId) (localId : TxId) :
    Quiet (a.withConnector id fun c =>
        (droppedConnector localId c).applied ((a.ledger [] .none).scheduled id))
      (a.dropLocalTransaction id localId) := by
  unfold dropLocalTransaction
  refine .trans ?_ (statusChanged_quiet _ _)
  exact applyPendingAvailability_quiet (fun c => (droppedConnector_keeps localId c).1)
    (fun c => (droppedConnector_keeps localId c).2) (.inl fun _ _ => rfl)

/-- A queued start that fails stays in the queue. -/
theorem onSyncStart_error_path (a : Actor) (key : Nat) (error : CallError) :
    Path allow (a.ledger rest (.slot key)) ((onSyncStart key (.error error) a).ledger rest .none) := by
  unfold onSyncStart
  dsimp only
  rw [← recordSyncFailure_ledger a key error]
  exact syncDone_path _ key (.inl rfl)

/-- The id of a queued start may be taken over: what the permissions ask for. -/
structure MayAssign (allow : Allow) (a : Actor) (e : OfflineTx) (transactionId : Int) : Prop where
  starts : allow.starts = true
  unused : allow.reuse = true ∨
    (¬stopQueued a.queue e.connector (.csms transactionId) ∧
      (e.stop.isSome → ∀ c ∈ a.connectors, c.id = e.connector → c.txId ≠ some (.csms transactionId)))
  unshared : allow.share = true ∨
    ∀ e' ∈ a.queue, OfflineQueue.isTxOn e.connector (.csms transactionId) e' = true →
      e.stop.isSome = true ∧ e'.stop.isSome = true

/-- A queued start may be refused: what the permissions ask for. -/
structure MayRefuse (allow : Allow) (a : Actor) (e : OfflineTx) : Prop where
  ends : Ends allow a.findConnector e.connector e.txId
  unmasked : allow.mask = true ∨
    ∀ c, a.findConnector e.connector = some c → c.txId = some e.txId → c.status ≠ .faulted

/-- The CSMS refuses the idTag of a queued start, and the station does not keep the transaction. -/
def refuses (a : Actor) (e : OfflineTx) (info : IdTagInfo) : Bool :=
  !(applyOnlineIdTagInfo e.idTag info a.now a.authCache a.registry).2.accepted &&
    a.registry.stopTransactionOnInvalidId

/-- A queued start was answered: what the permissions ask for. -/
def MayDeliver (allow : Allow) (a : Actor) (e : OfflineTx) (response : StartTransactionResponse) : Prop :=
  if a.refuses e response.idTagInfo then MayRefuse allow a e
  else MayAssign allow a e response.transactionId

/-- What the Central System says of an id tag is kept beside the ledger. -/
theorem applyIdTagInfo_ledger (a : Actor) (idTag : IdTag) (info : IdTagInfo) (rest : List PendingCall)
    (hand : Hand) :
    (a.applyIdTagInfo idTag info).1.ledger rest hand = { a.ledger rest hand with unsaved := true } :=
  markDirty_ledger _ rest hand

private theorem refuseQueued_path (a : Actor) (key : Nat) (entry : OfflineTx) (transactionId : Int)
    (found : OfflineQueue.get a.queue key = some entry) (may : MayRefuse allow a entry) :
    Path allow (a.ledger rest (.slotOpened key transactionId))
      ((a.refuseQueued key entry transactionId).ledger rest .none) := by
  unfold refuseQueued
  dsimp only
  refine .trans ?_ (syncDone_path _ key (.inl rfl))
  refine .trans ?_ ((flushNow_quiet _).path rest (.slot key))
  refine .trans ?_ (sendStopFor_path _ key true _ _ _ _)
  refine .trans ?_ ((dropLocalTransaction_quiet _ _ _).path rest _)
  have step : Trans allow _ _ :=
    .refuseQueued (a.ledger rest _) key transactionId entry rfl found may.ends may.unmasked
  convert ReflTransGen.single step using 1
  rw [withConnector_ledger]
  unfold Ledger.update
  split <;> rfl

private theorem assignQueued_path (a : Actor) (key : Nat) (entry : OfflineTx) (transactionId : Int)
    (found : OfflineQueue.get a.queue key = some entry) (may : MayAssign allow a entry transactionId) :
    Path allow (a.ledger rest (.slotOpened key transactionId))
      ((a.assignQueued key entry transactionId).ledger rest (.slotReady key)) := by
  unfold assignQueued
  dsimp only
  refine .trans ?_ (((endProfiles_quiet _ _).trans (flushNow_quiet _)).path rest _)
  have step : Trans allow _ _ := .assign (a.ledger rest _) key transactionId entry rfl found
    may.unused may.unshared may.starts
  convert ReflTransGen.single step using 1
  rw [withConnector_ledger]
  unfold Ledger.update
  split <;> rfl

private theorem decidedQueued_path (a : Actor) (key : Nat) (entry : OfflineTx) (transactionId : Int)
    (accepted : Bool) (found : OfflineQueue.get a.queue key = some entry)
    (may : if !accepted && a.registry.stopTransactionOnInvalidId then MayRefuse allow a entry
      else MayAssign allow a entry transactionId) :
    Path allow (a.ledger rest (.slotOpened key transactionId))
      ((a.decidedQueued key entry transactionId accepted).ledger rest .none) := by
  unfold decidedQueued
  dsimp only
  split
  · rename_i refused
    refine refuseQueued_path a key entry _ found ?_
    rwa [if_pos (by cases accepted <;> simp_all)] at may
  · rename_i kept
    rw [if_neg (by cases accepted <;> simp_all)] at may
    refine (assignQueued_path a key entry _ found may).trans ?_
    generalize a.assignQueued key entry transactionId = b
    generalize hlimited :
      (if (!accepted && !a.registry.stopTransactionOnInvalidId && entry.stop.isNone) = true then
        b.limitEnergyOnInvalidId entry.connector else b) = limited
    have limit : Path allow (b.ledger rest (.slotReady key)) (limited.ledger rest (.slotReady key)) := by
      rw [← hlimited]
      split
      · exact limitEnergyOnInvalidId_path _ _ may.starts
      · exact .refl
    refine limit.trans ?_
    split
    · cases sent : limited.syncStop key with
      | none => exact syncDone_path _ key (.inr rfl)
      | some next => exact syncStop_path _ _ key sent
    · exact syncDone_path _ key (.inr rfl)

/-- To mark leaves the configuration. -/
theorem markDirty_registry (a : Actor) : a.markDirty.registry = a.registry := by
  unfold markDirty setTimerIfIdle
  repeat' split
  all_goals rfl

/-- A queued start is acknowledged. -/
theorem onSyncStart_ok_path (a : Actor) (key : Nat) (response : StartTransactionResponse)
    (may : ∀ e, OfflineQueue.get a.queue key = some e → MayDeliver allow a e response) :
    Path allow (a.ledger rest (.slotOpened key response.transactionId))
      ((onSyncStart key (.ok response) a).ledger rest .none) := by
  unfold onSyncStart
  dsimp only
  split
  · rename_i missing
    exact .head (.missing (a.ledger rest _) key _ rfl missing) (syncDone_path _ key (.inl rfl))
  · rename_i entry found
    have may := may entry found
    unfold MayDeliver refuses at may
    -- the cache and the failure count are not in the books
    have same (hand : Hand) : (a.applyIdTagInfo entry.idTag response.idTagInfo).1.ledger rest hand =
        { a.ledger rest hand with unsaved := true } := applyIdTagInfo_ledger a _ _ rest hand
    have decision : (a.applyIdTagInfo entry.idTag response.idTagInfo).2 =
        (applyOnlineIdTagInfo entry.idTag response.idTagInfo a.now a.authCache a.registry).2 := rfl
    have registry : (a.applyIdTagInfo entry.idTag response.idTagInfo).1.registry = a.registry :=
      markDirty_registry _
    rw [← decision, ← registry] at may
    generalize a.applyIdTagInfo entry.idTag response.idTagInfo = applied at same may
    have queue : applied.1.queue = a.queue := congrArg Ledger.queue (same .none)
    have connectors : applied.1.connectors = a.connectors := congrArg Ledger.connectors (same .none)
    have find : applied.1.findConnector = a.findConnector := congrArg Ledger.find (same .none)
    refine .head (.quiet (.touch _)) ?_
    rw [← same]
    refine decidedQueued_path { applied.1 with syncFailures := removeAt key applied.1.syncFailures } key
      entry response.transactionId applied.2.accepted (queue ▸ found) ?_
    split
    · rename_i refused
      rw [if_pos refused] at may
      have may : MayRefuse allow applied.1 entry := ⟨find ▸ may.ends, find ▸ may.unmasked⟩
      exact ⟨may.ends, may.unmasked⟩
    · rename_i kept
      rw [if_neg kept] at may
      exact ⟨may.starts, queue ▸ connectors ▸ may.unused, queue ▸ may.unshared⟩

end Actor

end KirbyOcpp
