import KirbyOcpp.Ledger.TxIds

/-!
# A process that starts from a state file: `Persistence::restore`

The passes of the restore, one after the other: the saved connectors, the starts that were in flight, the
stops that were in flight (`queueLostStop`, one connector at a time), the changes of availability that
waited, and the counter of local ids. A later pass leaves alone what an earlier one settled, because the
connectors have distinct ids and the queue has room.
-/

namespace KirbyOcpp

/-! ## The first entry that satisfies a test -/

namespace OfflineQueue

variable {p : OfflineTx → Bool} {f : OfflineTx → OfflineTx} {queue : OfflineQueue} {entry : OfflineTx}

theorem updateFirst_map {B : Type} {g : OfflineTx → B} (keeps : ∀ e, g (f e) = g e) (queue : OfflineQueue) :
    (updateFirst p f queue).map g = queue.map g := by
  induction queue with
  | nil => rfl
  | cons e rest ih =>
    unfold updateFirst
    split
    · rw [List.map_cons, List.map_cons, keeps]
    · rw [List.map_cons, List.map_cons, ih]

theorem mem_updateFirst_hit (hit : queue.any p = true) :
    ∃ e ∈ queue, p e = true ∧ f e ∈ updateFirst p f queue := by
  induction queue with
  | nil => cases hit
  | cons e rest ih =>
    unfold updateFirst
    by_cases here : p e = true
    · rw [if_pos here]
      exact ⟨e, List.mem_cons_self, here, List.mem_cons_self⟩
    · rw [if_neg here]
      rw [List.any_cons, Bool.or_eq_true] at hit
      obtain ⟨e', mem, holds, changed⟩ := ih (hit.resolve_left here)
      exact ⟨e', List.mem_cons_of_mem _ mem, holds, List.mem_cons_of_mem _ changed⟩

theorem mem_updateFirst_other (mem : entry ∈ queue) (other : p entry = false) :
    entry ∈ updateFirst p f queue := by
  induction queue with
  | nil => cases mem
  | cons e rest ih =>
    unfold updateFirst
    rcases List.mem_cons.mp mem with rfl | tail
    · simp [other]
    · split
      · exact List.mem_cons_of_mem _ tail
      · exact List.mem_cons_of_mem _ (ih tail)

theorem updateFirst_length (queue : OfflineQueue) : (updateFirst p f queue).length = queue.length := by
  have units := congrArg List.length (updateFirst_map (p := p) (f := f) (g := fun _ => ()) (fun _ => rfl) queue)
  rwa [List.length_map, List.length_map] at units

/-- An entry is found again, changed or not. -/
theorem get_updateFirst (keeps : ∀ e, (f e).key = e.key) {key : Nat} {e : OfflineTx} (found : get queue key = some e) :
    get (updateFirst p f queue) key = some e ∨ get (updateFirst p f queue) key = some (f e) := by
  induction queue with
  | nil => cases found
  | cons first rest ih =>
    unfold get at found ih ⊢
    unfold updateFirst
    rw [List.find?_cons] at found
    by_cases own : (first.key == key) = true
    · rw [own] at found
      cases found
      split
      · exact .inr (by rw [List.find?_cons, keeps, own])
      · exact .inl (by rw [List.find?_cons, own])
    · rw [Bool.eq_false_of_not_eq_true own] at found
      split
      · exact .inl (by rw [List.find?_cons, keeps, Bool.eq_false_of_not_eq_true own]; exact found)
      · rw [List.find?_cons, Bool.eq_false_of_not_eq_true own]
        exact ih found

/-- With room nothing is dropped. -/
theorem push_of_room (room : queue.length < maxQueuedTransactions) (entry : OfflineTx) :
    (push queue entry).1 = queue ++ [entry] := by
  unfold push
  dsimp only
  rw [if_pos (by rw [List.length_append, List.length_singleton]; omega)]

end OfflineQueue

namespace Actor

variable {now : Instant} {queue : OfflineQueue} {c : ConnectorSnapshot}

theorem key_le_maxKey {e : OfflineTx} (mem : e ∈ queue) : e.key ≤ maxKey queue := by
  unfold maxKey OfflineQueue.keys
  induction queue with
  | nil => cases mem
  | cons head rest ih =>
    rw [List.map_cons, List.foldr_cons]
    rcases List.mem_cons.mp mem with rfl | tail
    · exact Nat.le_max_left _ _
    · exact (ih tail).trans (Nat.le_max_right _ _)

theorem maxKey_append (queue : OfflineQueue) (e : OfflineTx) :
    maxKey (queue ++ [e]) = max (maxKey queue) e.key := by
  unfold maxKey OfflineQueue.keys
  induction queue with
  | nil => simp
  | cons head rest ih =>
    rw [List.cons_append, List.map_cons, List.map_cons, List.foldr_cons, List.foldr_cons, ih]
    omega

/-! ## One stop that was in flight -/

/-- What the queue is to keep of the stop `s` that was in flight on `c`. -/
def lostStop (now : Instant) (c : ConnectorSnapshot) (s : StoppingTransaction) : StopInfo :=
  { idTag := s.idTag, meterStopWh := s.meterStopWh.getD c.meterWh, timestamp := s.stoppedAt.getD now
    reason := s.reason, transactionData := [], session := s.session }

/-- An entry of `queue` carries the stop that was in flight on `c`. -/
def KeepsStop (now : Instant) (c : ConnectorSnapshot) (queue : OfflineQueue) : Prop :=
  ∀ s, c.transaction = .stopping s →
    ∃ e ∈ queue, e.connector = c.id ∧ e.txId = s.txId ∧ e.stop = some (lostStop now c s)

/-- One for a connector whose stop was in flight. -/
def stops (c : ConnectorSnapshot) : Nat := if c.transaction.isStopping then 1 else 0

/-- What taking over the stop that was in flight on `c` does to the queue. -/
structure TakesOver (now : Instant) (c : ConnectorSnapshot) (queue queue' : OfflineQueue) : Prop where
  length : queue'.length ≤ queue.length + stops c
  keys : (OfflineQueue.keys queue).Nodup → (OfflineQueue.keys queue').Nodup
  highest : maxKey queue' ≤ maxKey queue + stops c
  others : ∀ e ∈ queue, e.connector ≠ c.id → e ∈ queue'
  txIds : ∀ e ∈ queue, ∃ e' ∈ queue', e'.txId = e.txId
  own : KeepsStop now c queue'

/-- The stop goes to the entry of its transaction, or to one of its own. -/
theorem queueLostStop_stopping {s : StoppingTransaction} (stopping : c.transaction = .stopping s) :
    queueLostStop now queue c =
      if queue.any (OfflineQueue.isTxOn c.id s.txId) then
        OfflineQueue.updateFirst (OfflineQueue.isTxOn c.id s.txId)
          (fun entry => { entry with stop := some (lostStop now c s) }) queue
      else
        (OfflineQueue.push queue
          { key := maxKey queue + 1, connector := c.id, txId := s.txId
            idTag := s.idTag.getD { chars := "UNKNOWN".toList }, startedAt := s.stoppedAt.getD now
            meterStartWh := 0, reservationId := none, startPending := false
            stop := some (lostStop now c s) }).1 := by
  unfold queueLostStop
  rw [stopping]
  rfl

theorem queueLostStop_other (other : c.transaction.isStopping = false) :
    queueLostStop now queue c = queue := by
  unfold queueLostStop
  split
  · rename_i s stopping
    rw [stopping] at other
    cases other
  · rfl

theorem queueLostStop_takesOver (now : Instant) (c : ConnectorSnapshot)
    (room : queue.length + stops c ≤ maxQueuedTransactions) :
    TakesOver now c queue (queueLostStop now queue c) := by
  cases state : c.transaction with
  | stopping s =>
    have one : stops c = 1 := by simp [stops, state, TransactionState.isStopping]
    have unique (s' : StoppingTransaction) (same : c.transaction = .stopping s') : s' = s := by
      rw [state] at same
      cases same
      rfl
    have keeps {B : Type} (g : OfflineTx → B)
        (same : ∀ e : OfflineTx, g { e with stop := some (lostStop now c s) } = g e) :=
      OfflineQueue.updateFirst_map (p := OfflineQueue.isTxOn c.id s.txId) same queue
    rw [queueLostStop_stopping state]
    split
    · rename_i known
      refine ⟨?_, ?_, ?_, fun e mem other => ?_, fun e mem => ?_, ?_⟩
      · rw [OfflineQueue.updateFirst_length]
        exact Nat.le_add_right _ _
      · intro nodup
        unfold OfflineQueue.keys at nodup ⊢
        rwa [keeps (·.key) fun _ => rfl]
      · unfold maxKey OfflineQueue.keys
        rw [keeps (·.key) fun _ => rfl]
        exact Nat.le_add_right _ _
      · refine OfflineQueue.mem_updateFirst_other mem ?_
        simp [OfflineQueue.isTxOn, other]
      · refine List.mem_map.mp ?_
        rw [keeps (·.txId) fun _ => rfl]
        exact List.mem_map_of_mem mem
      · intro s' same
        rw [unique s' same]
        obtain ⟨e, -, holds, changed⟩ := OfflineQueue.mem_updateFirst_hit
          (f := fun entry => { entry with stop := some (lostStop now c s) }) known
        simp only [OfflineQueue.isTxOn, Bool.and_eq_true, decide_eq_true_eq, beq_iff_eq] at holds
        exact ⟨_, changed, holds.2, holds.1, rfl⟩
    · rw [OfflineQueue.push_of_room (by omega)]
      refine ⟨?_, ?_, ?_, fun e mem _ => List.mem_append_left _ mem,
        fun e mem => ⟨e, List.mem_append_left _ mem, rfl⟩, ?_⟩
      · rw [List.length_append, List.length_singleton, one]
      · intro nodup
        unfold OfflineQueue.keys at nodup ⊢
        rw [List.map_append, List.nodup_append]
        refine ⟨nodup, by simp, fun key mem key' mem' => ?_⟩
        obtain ⟨e, known, rfl⟩ := List.mem_map.mp mem
        have last : key' = maxKey queue + 1 := by simpa using mem'
        have below := key_le_maxKey known
        omega
      · rw [maxKey_append, one]
        exact max_le (Nat.le_add_right _ _) le_rfl
      · intro s' same
        rw [unique s' same]
        exact ⟨_, List.mem_append_right _ (List.mem_singleton_self _), rfl, rfl, rfl⟩
  | _ =>
    rw [queueLostStop_other (by rw [state]; rfl)]
    refine ⟨Nat.le_add_right _ _, id, Nat.le_add_right _ _, fun _ mem _ => mem, fun e mem => ⟨e, mem, rfl⟩, ?_⟩
    intro s stopping
    rw [state] at stopping
    cases stopping

/-! ## All of them -/

/-- The connectors whose stop was in flight. -/
def stopsOf (connectors : List ConnectorSnapshot) : Nat := connectors.countP (·.transaction.isStopping)

theorem stopsOf_cons (c : ConnectorSnapshot) (rest : List ConnectorSnapshot) :
    stopsOf (c :: rest) = stops c + stopsOf rest := by
  unfold stopsOf stops
  rw [List.countP_cons, Nat.add_comm]

/-- What taking over the stops of `connectors` does to the queue. -/
structure TakesOverAll (now : Instant) (connectors : List ConnectorSnapshot)
    (queue queue' : OfflineQueue) : Prop where
  keys : (OfflineQueue.keys queue).Nodup → (OfflineQueue.keys queue').Nodup
  highest : maxKey queue' ≤ maxKey queue + stopsOf connectors
  others : ∀ e ∈ queue, (∀ c ∈ connectors, e.connector ≠ c.id) → e ∈ queue'
  txIds : ∀ e ∈ queue, ∃ e' ∈ queue', e'.txId = e.txId
  own : ∀ c ∈ connectors, KeepsStop now c queue'

/-- The stop of one connector is not disturbed by those of the others. -/
theorem queueLostStops_takeOver (now : Instant) (connectors : List ConnectorSnapshot)
    (ids : (connectors.map (·.id)).Nodup)
    (room : queue.length + stopsOf connectors ≤ maxQueuedTransactions) :
    TakesOverAll now connectors queue (connectors.foldl (queueLostStop now) queue) := by
  induction connectors generalizing queue with
  | nil => exact ⟨id, Nat.le_add_right _ _, fun _ mem _ => mem, fun e mem => ⟨e, mem, rfl⟩, by simp⟩
  | cons c rest ih =>
    rw [stopsOf_cons] at room
    rw [List.map_cons, List.nodup_cons] at ids
    have first : TakesOver now c queue (queueLostStop now queue c) :=
      queueLostStop_takesOver now c (by omega)
    have left : (queueLostStop now queue c).length + stopsOf rest ≤ maxQueuedTransactions := by
      have := first.length
      omega
    have last := ih ids.2 left
    rw [List.foldl_cons]
    refine ⟨fun nodup => last.keys (first.keys nodup), ?_, fun e mem other => ?_, fun e mem => ?_, ?_⟩
    · rw [stopsOf_cons]
      have := first.highest
      have := last.highest
      omega
    · exact last.others e (first.others e mem (other c List.mem_cons_self))
        fun d known => other d (List.mem_cons_of_mem _ known)
    · obtain ⟨e', mem', same⟩ := first.txIds e mem
      obtain ⟨e'', mem'', same'⟩ := last.txIds e' mem'
      exact ⟨e'', mem'', same'.trans same⟩
    · intro d mem
      rcases List.mem_cons.mp mem with rfl | tail
      · intro s stopping
        obtain ⟨e, known, on, tx, stop⟩ := first.own s stopping
        refine ⟨e, last.others e known fun d' mem' same => ?_, on, tx, stop⟩
        rw [on] at same
        exact ids.1 (same ▸ List.mem_map_of_mem mem')
      · exact last.own d tail

/-! ## The saved connectors -/

theorem restoredFold_other (saved : List PersistedConnector) {connectors : List ConnectorSnapshot}
    (mem : c ∈ connectors) (other : ∀ pc ∈ saved, pc.id ≠ c.id) :
    c ∈ saved.foldl (fun connectors pc => updateConnector connectors pc.id (restoredConnector pc)) connectors := by
  induction saved generalizing connectors with
  | nil => exact mem
  | cons pc rest ih =>
    refine ih ?_ fun pc' known => other pc' (List.mem_cons_of_mem _ known)
    have differ : ¬(c.id == pc.id) = true := by
      rw [beq_iff_eq]
      exact (other pc List.mem_cons_self).symm
    refine List.mem_map.mpr ⟨c, mem, ?_⟩
    rw [if_neg differ]

theorem restoredFold_mem {saved : List PersistedConnector} (nodup : (saved.map (·.id)).Nodup)
    {connectors : List ConnectorSnapshot} (mem : c ∈ connectors) {pc : PersistedConnector} (known : pc ∈ saved)
    (same : c.id = pc.id) :
    restoredConnector pc c ∈
      saved.foldl (fun connectors pc => updateConnector connectors pc.id (restoredConnector pc)) connectors := by
  induction saved generalizing connectors with
  | nil => cases known
  | cons first rest ih =>
    rw [List.map_cons, List.nodup_cons] at nodup
    rw [List.foldl_cons]
    rcases List.mem_cons.mp known with rfl | tail
    · refine restoredFold_other rest (List.mem_map.mpr ⟨c, mem, if_pos (by simp [same])⟩) ?_
      intro other later eq
      rw [restoredConnector_id, same] at eq
      exact nodup.1 (eq ▸ List.mem_map_of_mem later)
    · refine ih nodup.2 (List.mem_map.mpr ⟨c, mem, ?_⟩) tail
      have differ : ¬(c.id == first.id) = true := by
        rw [beq_iff_eq, same]
        intro eq
        exact nodup.1 (eq ▸ List.mem_map_of_mem tail)
      rw [if_neg differ]

/-- A connector whose id the process has gets what was saved of it. -/
theorem mem_restoredConnectors_of_le (config : StationConfig) {saved : PersistedStation}
    (nodup : (saved.connectors.map (·.id)).Nodup) {pc : PersistedConnector} (known : pc ∈ saved.connectors)
    (physical : 0 < pc.id) (within : pc.id ≤ restoredCount config saved) :
    restoredConnector pc (newConnector pc.id) ∈ restoredConnectors config saved := by
  refine restoredFold_mem nodup ?_ known rfl
  refine List.mem_map.mpr ⟨pc.id - 1, List.mem_range.mpr ?_, ?_⟩
  · exact (Nat.sub_lt physical Nat.one_pos).trans_le within
  · rw [Nat.sub_add_cancel physical]

/-- The process has the ids of the file, as far as a file may ask for them. -/
theorem le_restoredCount (config : StationConfig) {saved : PersistedStation} {pc : PersistedConnector}
    (known : pc ∈ saved.connectors) (within : pc.id ≤ max maxRestoredConnectors config.connectorCount) :
    pc.id ≤ restoredCount config saved := by
  have highest : pc.id ≤ (saved.connectors.map (·.id)).foldr max 0 :=
    List.le_max_of_le' 0 (List.mem_map_of_mem known) le_rfl
  unfold restoredCount
  rcases le_max_iff.mp within with file | configured
  · exact le_max_of_le_left (le_min (le_max_of_le_right highest) file)
  · exact le_max_of_le_right configured

theorem mem_restoredConnectors (config : StationConfig) {saved : PersistedStation}
    (nodup : (saved.connectors.map (·.id)).Nodup) {pc : PersistedConnector} (known : pc ∈ saved.connectors)
    (physical : 0 < pc.id) (within : pc.id ≤ maxRestoredConnectors) :
    restoredConnector pc (newConnector pc.id) ∈ restoredConnectors config saved :=
  mem_restoredConnectors_of_le config nodup known physical
    (le_restoredCount config known (within.trans (Nat.le_max_left _ _)))

/-! ## How many stops were in flight -/

/-- A replaced connector adds at most one. -/
theorem stopsOf_updateConnector {connectors : List ConnectorSnapshot} (ids : (connectors.map (·.id)).Nodup)
    (id : ConnectorId) {f : ConnectorSnapshot → ConnectorSnapshot} {stopping : Bool}
    (becomes : ∀ c, (f c).transaction.isStopping = stopping) :
    stopsOf (updateConnector connectors id f) ≤ stopsOf connectors + if stopping then 1 else 0 := by
  unfold updateConnector
  induction connectors with
  | nil => exact Nat.zero_le _
  | cons c rest ih =>
    rw [List.map_cons, List.nodup_cons] at ids
    rw [List.map_cons, stopsOf_cons, stopsOf_cons]
    by_cases here : (c.id == id) = true
    · have untouched : (rest.map fun c => if c.id == id then f c else c) = rest := by
        refine (List.map_congr_left fun d mem => ?_).trans rest.map_id
        refine if_neg fun same => ids.1 ?_
        rw [eq_of_beq here, ← eq_of_beq same]
        exact List.mem_map_of_mem mem
      have changed : stops (f c) = if stopping then 1 else 0 := by
        unfold stops
        rw [becomes]
      rw [untouched, if_pos here, changed]
      omega
    · rw [if_neg here]
      have := ih ids.2
      omega

theorem restoredConnector_stopping (pc : PersistedConnector) (c : ConnectorSnapshot) :
    (restoredConnector pc c).transaction.isStopping = pc.transaction.isStopping := by
  unfold restoredConnector
  cases pc.transaction <;> rfl

theorem withoutLostStart_stopping (queue : OfflineQueue) (c : ConnectorSnapshot) :
    (withoutLostStart queue c).transaction.isStopping = c.transaction.isStopping := by
  unfold withoutLostStart
  cases state : c.transaction with
  | pendingStart p =>
    dsimp only
    split
    · rw [state]
    · rfl
  | _ => simp [state]

/-- Restored connectors have no more stops in flight than were saved. -/
theorem stopsOf_restoredConnectors (config : StationConfig) (saved : PersistedStation) :
    stopsOf (restoredConnectors config saved) ≤ saved.connectors.countP (·.transaction.isStopping) := by
  have fold (pcs : List PersistedConnector) (connectors : List ConnectorSnapshot)
      (ids : (connectors.map (·.id)).Nodup) :
      stopsOf (pcs.foldl (fun connectors pc => updateConnector connectors pc.id (restoredConnector pc))
        connectors) ≤ stopsOf connectors + pcs.countP (·.transaction.isStopping) := by
    induction pcs generalizing connectors with
    | nil => exact Nat.le_refl _
    | cons pc rest ih =>
      have one := stopsOf_updateConnector ids pc.id (restoredConnector_stopping pc)
      have others := ih (updateConnector connectors pc.id (restoredConnector pc))
        (by rwa [updateConnector_ids _ _ (restoredConnector_id pc)])
      rw [List.foldl_cons, List.countP_cons]
      omega
  have none (count : Nat) : stopsOf (freshConnectors count) = 0 := by
    unfold stopsOf freshConnectors
    rw [List.countP_eq_zero]
    intro c mem
    obtain ⟨index, -, rfl⟩ := List.mem_map.mp mem
    exact Bool.false_ne_true
  have bound := fold saved.connectors (freshConnectors (restoredCount config saved)) (by
    rw [freshConnectors_ids]
    exact List.nodup_range.map fun _ _ h => Nat.succ.inj h)
  rwa [none, Nat.zero_add] at bound

/-! ## The recovered process -/

/-- What a process makes of the file `saved` when it is built. -/
structure Recovered (saved : PersistedStation) (now : Instant) (a : Actor) : Prop where
  settled : ∀ c ∈ a.connectors, c.transaction.isStopping = false
  stopped : ∀ pc ∈ saved.connectors, 0 < pc.id → pc.id ≤ maxRestoredConnectors →
    ∀ s, pc.transaction = .stopping s →
      (a.connector pc.id).map (·.transaction) = some .idle ∧
      ∃ e ∈ a.queue, e.connector = pc.id ∧ e.txId = s.txId ∧ ∃ info, e.stop = some info ∧
        info.reason = s.reason ∧ info.timestamp = s.stoppedAt.getD now ∧
        info.meterStopWh = s.meterStopWh.getD pc.meterWh ∧ info.idTag = s.idTag
  started : ∀ c ∈ a.connectors, ∀ p, c.transaction = .pendingStart p → ∃ e ∈ a.queue, e.txId = p.txId
  available : ∀ c ∈ a.connectors, c.transaction = .idle → c.pendingAvailability = none
  active : ∀ pc ∈ saved.connectors, 0 < pc.id → pc.id ≤ maxRestoredConnectors →
    ∀ t, pc.transaction = .active t →
      (a.connector pc.id).map (·.transaction) = some (.active { t with session := 0 })
  keys : (OfflineQueue.keys saved.offlineQueue).Nodup → (OfflineQueue.keys a.queue).Nodup
  counter : ∀ e ∈ a.queue, e.key ≤ a.nextLocal
  /-- The keys that were drawn follow those of the file. -/
  drawn : ∀ e ∈ a.queue, e.key ≤ maxKey saved.offlineQueue + saved.connectors.countP (·.transaction.isStopping)
  /-- A key that is drawn later, and the local id made of it, is none of the queue. -/
  unused : ∀ key, a.nextLocal < key → ∀ e ∈ a.queue, e.key ≠ key ∧ TxId.loc e.key ≠ TxId.loc key

theorem withoutLostStart_same (queue : OfflineQueue) (started : ∀ p, c.transaction ≠ .pendingStart p) :
    withoutLostStart queue c = c := by
  unfold withoutLostStart
  split
  · rename_i p state
    exact absurd state (started p)
  · rfl

/-- A start that is still in flight has its entry. -/
theorem withoutLostStart_pending {p : PendingStart}
    (state : (withoutLostStart queue c).transaction = .pendingStart p) : ∃ e ∈ queue, e.txId = p.txId := by
  unfold withoutLostStart at state
  split at state
  · rename_i p' was
    split at state
    · rename_i known
      rw [was] at state
      cases state
      obtain ⟨e, mem, same⟩ := List.any_eq_true.mp known
      exact ⟨e, mem, of_decide_eq_true same⟩
    · cases state
  · rename_i other
    exact absurd state (other p)

theorem withoutLostStop_settled (c : ConnectorSnapshot) :
    (withoutLostStop c).transaction.isStopping = false := by
  rw [withoutLostStop_transaction]
  split
  · rfl
  · rename_i running
    exact Bool.eq_false_iff.mpr running

theorem withAvailability_idle (idle : c.transaction = .idle) :
    (withAvailability c).pendingAvailability = none := by
  unfold withAvailability
  split
  · rw [if_pos (by rw [idle]; rfl)]
  · assumption

end Actor

end KirbyOcpp
