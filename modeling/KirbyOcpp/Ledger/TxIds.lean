import KirbyOcpp.Ledger.Runs

/-!
# The ids of transactions

A transaction that is starting has an id of the station, a running one an id of the CSMS. Connector 0
has no transaction.
-/

namespace KirbyOcpp

open Paths Relation

/-- The transaction that the answer to a `StopTransaction` ends. -/
def Cont.stops : Cont → Option TxId
  | .stopResult _ tx _ _ _ _ _ => some tx
  | _ => none

private theorem Cont.stops_of_isNeutral {k : Cont} (neutral : k.isNeutral = true) : k.stops = none := by
  cases k with
  | stopResult => simp [Cont.isNeutral] at neutral
  | _ => rfl

/-- The ids that a transaction has in its phases. -/
def TransactionState.Worded : TransactionState → Prop
  | .pendingStart p => p.txId.isLocal = true
  | .active t => t.txId.isLocal = false
  | _ => True

/-- The hand holds a stop that the CSMS has been asked for. -/
def Hand.Worded : Hand → Prop
  | .stopping _ tx _ | .stopped _ tx _ => tx.isLocal = false
  | _ => True

/-- The books keep the ids of the station and of the CSMS apart. -/
structure Worded (l : Ledger) : Prop where
  station : l.chargePoint.transaction = .idle
  connectors : ∀ c ∈ l.connectors, c.transaction.Worded
  calls : ∀ call ∈ l.rest ++ l.calls, ∀ tx, call.continuation.stops = some tx → tx.isLocal = false
  hand : l.hand.Worded
  saved : ∀ data ∈ l.written, (data.connectors.map (·.id)).Nodup ∧
    ∀ c ∈ data.connectors, c.transaction.Worded

variable {allow : Allow} {l l' : Ledger} {c c' : ConnectorSnapshot}

/-- A change of availability leaves the transaction. -/
theorem applied_transaction (pending : Option AvailabilityType) (c : ConnectorSnapshot) :
    (c.applied pending).transaction = c.transaction := by
  cases pending <;> rfl

/-- A cleared reservation leaves the transaction. -/
theorem clearReservation_transaction (c : ConnectorSnapshot) :
    (clearReservation c).transaction = c.transaction := by
  unfold clearReservation
  dsimp only
  repeat' split
  all_goals rfl

/-- A transaction stays, goes on as the CSMS knows it, or is over. -/
theorem Edit.transaction (h : Edit allow l c c') :
    c'.transaction = c.transaction ∨ c'.transaction.isIdle = true ∨
    (∃ p, c'.transaction = .pendingStart p ∧ p.txId = .loc (l.nextLocal + 1) ∧
      c.transaction.isIdle = true ∧ allow.starts = true) ∨
    (∃ t transactionId, c'.transaction = .active t ∧ t.txId = .csms transactionId ∧
      c.transaction.isIdle = false ∧ allow.starts = true) ∨
    (∃ s, c'.transaction = .stopping s ∧ c.txId = some s.txId ∧ s.txId.isLocal = false) := by
  cases h with
  | mild h => exact .inl h.transaction
  | powered h => exact .inl h.transaction
  | change =>
    left
    unfold Actor.changedAvailability
    dsimp only
    split <;> rfl
  | changeStation => exact .inl rfl
  | start pending idle key usable operative starts =>
    exact .inr (.inr (.inl ⟨pending, rfl, key, idle, starts⟩))
  | charge => exact .inl (clearReservation_transaction c)
  | abandon => exact .inr (.inl (by rw [applied_transaction]; rfl))
  | activate active localId held transactionId tx usable plugged starts =>
    refine .inr (.inr (.inr (.inl ⟨active, transactionId, clearReservation_transaction _, tx, ?_, starts⟩)))
    cases h : c.transaction with
    | idle => simp [ConnectorSnapshot.txId, h, TransactionState.txId] at held
    | _ => rfl
  | halt _ _ h => exact .inl h.transaction
  | mark stopping held wire => exact .inr (.inr (.inr (.inr ⟨stopping, rfl, held, wire⟩)))
  | forget tx =>
    rw [applied_transaction]
    unfold Actor.forgetTransaction
    split
    · exact .inr (.inl rfl)
    · exact .inl rfl
  | assign localId transactionId entry starts =>
    unfold Actor.activatedConnector
    dsimp only
    split
    · rename_i held
      refine .inr (.inr (.inr (.inl ⟨_, transactionId, rfl, rfl, ?_, starts⟩)))
      cases h : c.transaction with
      | idle => simp [ConnectorSnapshot.txId, h, TransactionState.txId] at held
      | _ => rfl
    · exact .inl rfl
  | drop localId =>
    rw [applied_transaction]
    unfold Actor.droppedConnector
    split
    · exact .inr (.inl rfl)
    · exact .inl rfl

/-- An edit gives no transaction another kind of id. -/
theorem Edit.worded (h : Edit allow l c c') (worded : c.transaction.Worded) : c'.transaction.Worded := by
  rcases h.transaction with same | idle | ⟨p, eq, key, -⟩ | ⟨t, w, eq, tx, -⟩ | ⟨s, eq, -⟩
  · rwa [same]
  · cases eq : c'.transaction with
    | idle => trivial
    | pendingStart => simp [eq, TransactionState.isIdle] at idle
    | active => simp [eq, TransactionState.isIdle] at idle
    | stopping => trivial
  · rw [eq]
    change p.txId.isLocal = true
    rw [key]
    rfl
  · rw [eq]
    change t.txId.isLocal = false
    rw [tx]
    rfl
  · rw [eq]
    trivial

/-- The CALLs that are open after a transition: those before it, and one that may end a transaction of the
CSMS. -/
theorem Trans.stops (step : Trans allow l l') {call : PendingCall} (mem : call ∈ l'.rest ++ l'.calls) {tx : TxId}
    (stops : call.continuation.stops = some tx) :
    call ∈ l.rest ++ l.calls ∨ tx.isLocal = false := by
  have sent (new : PendingCall) (wire : ∀ tx, new.continuation.stops = some tx → tx.isLocal = false)
      (mem : call ∈ l.rest ++ (l.calls ++ [new])) : call ∈ l.rest ++ l.calls ∨ tx.isLocal = false := by
    rw [← List.append_assoc, List.mem_append] at mem
    rcases mem with old | fresh
    · exact .inl old
    · obtain rfl : call = new := by simpa using fresh
      exact .inr (wire tx stops)
  have filtered (p : PendingCall → Bool) (mem : call ∈ l.rest ++ l.calls.filter p) :
      call ∈ l.rest ++ l.calls := by
    rcases List.mem_append.mp mem with rest | kept
    · exact List.mem_append_left _ rest
    · exact List.mem_append_right _ (List.mem_of_mem_filter kept)
  cases step with
  | quiet step =>
    cases step with
    | send new sends neutral =>
      exact sent new (fun tx stops => absurd stops (by simp [Cont.stops_of_isNeutral neutral])) mem
    | sendEvent new sends event events queue cont => exact sent new (by simp [cont, Cont.stops]) mem
    | _ => exact .inl mem
  | sendStart _ _ new _ _ sends cont => exact sent new (by simp [cont, Cont.stops]) mem
  | sendClose _ _ new _ sends cont => exact sent new (by simp [cont, Cont.stops]) mem
  | sendStop _ tx' _ _ _ _ _ new wire _ sends cont request known =>
    refine sent new (fun tx same => ?_) mem
    rw [cont] at same
    obtain rfl := Option.some.inj same
    cases tx' with
    | loc => simp [TxId.wire] at known
    | csms => rfl
  | sendNext _ _ e _ cont new _ _ sends found message _ same =>
    refine sent new (fun tx stops => ?_) mem
    rw [same] at stops
    rcases message with ⟨-, start⟩ | ⟨-, stop⟩
    · rw [← (Prod.mk.inj start).2] at stops
      cases stops
    · unfold Actor.stopOf at stop
      split at stop
      · obtain ⟨-, rfl⟩ := Prod.mk.inj (Option.some.inj stop)
        cases stops
      · cases stop
  | sendReady _ e _ cont new _ sends found stop _ same =>
    refine sent new (fun tx stops => ?_) mem
    rw [same] at stops
    unfold Actor.stopOf at stop
    split at stop
    · obtain ⟨-, rfl⟩ := Prod.mk.inj (Option.some.inj stop)
      cases stops
    · cases stop
  | takeCall => exact .inl (filtered _ mem)
  | takeRest _ _ _ _ head =>
    rw [head]
    exact .inl (List.mem_cons_of_mem _ mem)
  | abandon => exact .inl (filtered _ mem)
  | dropLink hand rest =>
    rw [rest]
    exact .inl (by simpa [Ledger.dropLink] using mem)
  | drain hand rest =>
    rw [rest]
    exact .inl (by simpa using mem)
  | _ => exact .inl mem

private theorem ofResult_worded {continuation : Cont} (wire : ∀ tx, continuation.stops = some tx → tx.isLocal = false)
    (result : CallResult) : (Hand.ofResult continuation result).Worded := by
  unfold Hand.ofResult
  repeat' split
  all_goals first | trivial | exact wire _ rfl

private theorem Trans.hand_worded (step : Trans allow l l') (h : Worded l) : l'.hand.Worded := by
  cases step with
  | quiet step =>
    cases step
    all_goals exact h.hand
  | takeCall call result hand rest running found =>
    exact ofResult_worded (h.calls call (List.mem_append_right _ (List.mem_of_find?_eq_some found))) result
  | takeRest call rest error hand head =>
    exact ofResult_worded (h.calls call (by simp [head])) (.error error)
  | markStopping _ _ _ _ _ _ _ _ _ _ wire => exact wire
  | sendClose session sync =>
    cases sync <;> trivial
  | skipClose session sync =>
    cases sync <;> trivial
  | finishSync =>
    dsimp only
    split <;> trivial
  | _ => first | trivial | exact h.hand

/-- A transition writes the connectors as they are. -/
theorem Trans.saved (step : Trans allow l l') {data : PersistedStation} (mem : data ∈ l'.written) :
    data ∈ l.written ∨
      (data.offlineQueue = l.queue ∧ data.connectors = l.connectors.map Actor.persistedConnector) := by
  cases step with
  | quiet step =>
    cases step with
    | save new queue connectors =>
      rcases List.mem_cons.mp mem with rfl | old
      · exact .inr ⟨queue, connectors⟩
      · exact .inl old
    | _ => exact .inl mem
  | _ => exact .inl mem

/-- A connector is not the station. -/
theorem Ledger.physical_of_connector {id : ConnectorId} (found : l.connector id = some c) :
    isStation id = false := by
  unfold Ledger.connector at found
  split at found
  · cases found
  · rename_i physical
    simpa using physical

private theorem forgetTransaction_idle (tx : TxId) (idle : c.transaction = .idle) :
    (Actor.forgetTransaction tx c).transaction = .idle := by
  unfold Actor.forgetTransaction
  split
  · rfl
  · exact idle

/-- An idle connector has no id. -/
theorem txId_of_idle (idle : c.transaction = .idle) : c.txId = none := by
  unfold ConnectorSnapshot.txId
  rw [idle]
  rfl

/-- Connector 0 gets no transaction. -/
theorem Trans.station (step : Trans allow l l') (idle : l.chargePoint.transaction = .idle) :
    l'.chargePoint.transaction = .idle := by
  have update (id : ConnectorId) (f : ConnectorSnapshot → ConnectorSnapshot)
      (chargePoint : l'.chargePoint = (l.update id f).chargePoint)
      (h : l.find id = some l.chargePoint → isStation id = true → (f l.chargePoint).transaction = .idle) :
      l'.chargePoint.transaction = .idle := by
    rw [chargePoint]
    unfold Ledger.update
    dsimp only
    split
    · rename_i zero
      exact h (by simp [Ledger.find, zero]) zero
    · exact idle
  have physical {id : ConnectorId} {c : ConnectorSnapshot} (found : l.connector id = some c)
      (zero : isStation id = true) : False := by
    simp [Ledger.physical_of_connector found] at zero
  have forget (id : ConnectorId) (tx : TxId) (pending : Option AvailabilityType)
      (chargePoint : l'.chargePoint = (l.update id fun c =>
        (Actor.forgetTransaction tx c).applied pending).chargePoint) : l'.chargePoint.transaction = .idle := by
    refine update id _ chargePoint fun _ _ => ?_
    rw [applied_transaction]
    exact forgetTransaction_idle tx idle
  cases step with
  | quiet step =>
    cases step with
    | station f h => exact h.transaction.trans idle
    | _ => exact idle
  | powerStation f h => exact h.transaction.trans idle
  | change id kind =>
    refine update id _ rfl fun _ _ => ?_
    unfold Actor.changedAvailability
    dsimp only
    split <;> exact idle
  | openStart id _ _ _ found => exact update id _ rfl fun _ zero => (physical found zero).elim
  | charge id _ _ _ found => exact update id _ rfl fun _ zero => (physical found zero).elim
  | beginStop id _ _ _ f _ found => exact update id f rfl fun _ zero => (physical found zero).elim
  | markStopping id _ _ stopping _ _ found =>
    exact update id (fun c => { c with transaction := .stopping stopping }) rfl
      fun _ zero => (physical found zero).elim
  | abandonStart id =>
    refine update id (fun c => (Actor.abandonedConnector c).applied (l.scheduled id)) rfl fun _ _ => ?_
    rw [applied_transaction]
    rfl
  | refuseOpened id =>
    refine update id (fun c => (Actor.abandonedConnector c).applied (l.scheduled id)) rfl fun _ _ => ?_
    rw [applied_transaction]
    rfl
  | activate id localId _ c active _ found held =>
    refine update id
      (fun c => Actor.chargingConnector active.idTag { c with transaction := .active active }) rfl
      fun same _ => ?_
    obtain rfl := Option.some.inj (found.symm.trans same)
    rw [txId_of_idle idle] at held
    cases held
  | queueStop id tx => exact forget id tx _ rfl
  | queueNewStop id tx => exact forget id tx _ rfl
  | confirmStop id tx => exact forget id tx _ rfl
  | assign _ _ e =>
    refine update e.connector _ rfl fun _ _ => ?_
    unfold Actor.activatedConnector
    dsimp only
    rw [if_neg (by simp [txId_of_idle idle])]
    exact idle
  | refuseQueued _ _ e =>
    refine update e.connector
      (fun c => (Actor.droppedConnector e.txId c).applied (l.scheduled e.connector)) rfl fun _ _ => ?_
    rw [applied_transaction]
    unfold Actor.droppedConnector
    rw [if_neg (by simp [txId_of_idle idle])]
    exact idle
  | _ => exact idle

/-- No step gives a transaction another kind of id. -/
theorem worded_preserved (allow : Allow) : Preserves (Trans allow) fun l => Ids l ∧ Worded l := by
  intro l l' step ⟨ids, h⟩
  obtain ⟨f, added, eq, edits, new⟩ := (step.edits ids).connectors
  refine ⟨ids_preserved allow step ids, step.station h.station, ?_, ?_, step.hand_worded h, ?_⟩
  · intro c mem
    rw [eq, List.mem_append] at mem
    rcases mem with mapped | fresh
    · obtain ⟨d, old, rfl⟩ := List.mem_map.mp mapped
      exact (edits d old).worded (h.connectors d old)
    · obtain ⟨id, rfl, -⟩ := new c fresh
      trivial
  · intro call mem tx stops
    rcases step.stops mem stops with old | wire
    · exact h.calls call old tx stops
    · exact wire
  · intro data mem
    rcases step.saved mem with old | ⟨-, now⟩
    · exact h.saved data old
    · rw [now]
      refine ⟨?_, fun c mem => ?_⟩
      · rw [List.map_map]
        exact ids.nodup
      · obtain ⟨d, old, rfl⟩ := List.mem_map.mp mem
        exact h.connectors d old

/-! ## Restored connectors -/

namespace Actor

/-- A restored connector is a new one, or a new one with what was saved of it. -/
theorem restoredConnectors_cases (config : StationConfig) {saved : PersistedStation}
    (nodup : (saved.connectors.map (·.id)).Nodup) {c : ConnectorSnapshot}
    (mem : c ∈ restoredConnectors config saved) :
    (∃ id, c = newConnector id) ∨
      ∃ pc ∈ saved.connectors, c = restoredConnector pc (newConnector pc.id) := by
  have fold (pcs done : List PersistedConnector) (connectors : List ConnectorSnapshot)
      (all : done ++ pcs = saved.connectors)
      (h : ∀ c ∈ connectors, (∃ id, c = newConnector id) ∨
        ∃ pc ∈ done, c = restoredConnector pc (newConnector pc.id)) :
      ∀ c ∈ pcs.foldl (fun connectors c => updateConnector connectors c.id (restoredConnector c)) connectors,
        (∃ id, c = newConnector id) ∨
          ∃ pc ∈ saved.connectors, c = restoredConnector pc (newConnector pc.id) := by
    induction pcs generalizing done connectors with
    | nil =>
      intro c mem
      rw [List.append_nil] at all
      exact all ▸ h c mem
    | cons pc pcs ih =>
      refine ih (done ++ [pc]) _ (by simpa using all) fun c mem => ?_
      obtain ⟨d, old, rfl⟩ := List.mem_map.mp mem
      rcases h d old with ⟨id, rfl⟩ | ⟨earlier, known, rfl⟩
      · split
        · rename_i same
          obtain rfl : id = pc.id := by simpa [newConnector] using same
          exact .inr ⟨pc, by simp, rfl⟩
        · exact .inl ⟨id, rfl⟩
      · -- the ids of the saved connectors are distinct
        have other : earlier.id ≠ pc.id := by
          rw [← all, List.map_append, List.nodup_append] at nodup
          exact nodup.2.2 _ (List.mem_map_of_mem known) _ (by simp)
        rw [if_neg (by simpa [restoredConnector, newConnector] using other)]
        exact .inr ⟨earlier, by simp [known], rfl⟩
  refine fold saved.connectors [] _ rfl (fun c mem => .inl ?_) c mem
  obtain ⟨index, -, rfl⟩ := List.mem_map.mp mem
  exact ⟨index + 1, rfl⟩

/-- The connectors of a restored process. -/
theorem mem_restore {config : StationConfig} {registry : ConfigRegistry} {now : Instant} {mono : Int}
    {saved : PersistedStation} {c : ConnectorSnapshot}
    (mem : c ∈ ((fresh config registry now mono).restore saved).connectors) :
    ∃ d ∈ restoredConnectors config saved, c = withAvailability
      (withoutLostStop (withoutLostStart (saved.offlineQueue.map restoredEntry) d)) := by
  obtain ⟨e, started, rfl⟩ := List.mem_map.mp mem
  obtain ⟨d, known, rfl⟩ := List.mem_map.mp started
  exact ⟨d, known, rfl⟩

/-- A change that is applied leaves the transaction. -/
theorem withAvailability_transaction (c : ConnectorSnapshot) :
    (withAvailability c).transaction = c.transaction := by
  unfold withAvailability
  repeat' split
  all_goals rfl

/-- A lost stop ends the transaction. -/
theorem withoutLostStop_transaction (c : ConnectorSnapshot) :
    (withoutLostStop c).transaction =
      if c.transaction.isStopping then .idle else c.transaction := by
  unfold withoutLostStop
  split
  · rename_i eq
    rw [eq]
    rfl
  · rename_i other
    rw [if_neg fun stopping => ?_]
    cases eq : c.transaction with
    | stopping s => exact other s eq
    | _ => simp [eq, TransactionState.isStopping] at stopping

/-- A lost start ends the transaction. -/
theorem withoutLostStart_transaction (queue : OfflineQueue) (c : ConnectorSnapshot) :
    (withoutLostStart queue c).transaction = c.transaction ∨ (withoutLostStart queue c).transaction = .idle := by
  unfold withoutLostStart
  split
  · split
    · exact .inl rfl
    · exact .inr rfl
  · exact .inl rfl

/-- A process begins with the ids of its file. -/
theorem loaded_worded (config : StationConfig) (registry : ConfigRegistry) (now : Instant) (mono : Int)
    {saved : Option PersistedStation} (nodup : ∀ data, saved = some data → (data.connectors.map (·.id)).Nodup)
    (worded : ∀ data, saved = some data → ∀ c ∈ data.connectors, c.transaction.Worded) :
    Worded ((loaded config registry now mono saved).ledger [] .none) := by
  refine ⟨by cases saved <;> rfl, ?_, ?_, trivial, ?_⟩
  · intro c mem
    cases saved with
    | none =>
      obtain ⟨index, -, rfl⟩ := List.mem_map.mp mem
      trivial
    | some data =>
      obtain ⟨d, old, rfl⟩ := mem_restore mem
      rw [withAvailability_transaction, withoutLostStop_transaction]
      split
      · trivial
      · rcases withoutLostStart_transaction (data.offlineQueue.map restoredEntry) d with same | idle
        · rw [same]
          rcases restoredConnectors_cases config (nodup data rfl) old with ⟨id, rfl⟩ | ⟨pc, known, rfl⟩
          · trivial
          · have worded := worded data rfl pc known
            unfold restoredConnector
            dsimp only
            split
            · rename_i t eq
              rwa [eq] at worded
            · trivial
            · exact worded
        · rw [idle]
          trivial
  · intro call mem
    cases saved <;> cases mem
  · intro data mem
    cases saved <;> cases mem

end Actor

end KirbyOcpp
