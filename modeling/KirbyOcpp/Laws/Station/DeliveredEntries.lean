import KirbyOcpp.Laws.Station.TidyQueue

/-!
# The entries of delivered starts, across restarts

The restore drops starts that are not in the queue, and queues the stops that were in flight: the queue of the new
process is as tidy as that of the file, if the process has the connectors of the entries.

**The law** `delivered_entries_current`: an entry without a stop whose start was delivered is that of the transaction on
its connector.
-/

namespace KirbyOcpp

open Paths Relation

variable {queue : OfflineQueue} {runs : ConnectorId → TxId → Prop} {e : OfflineTx}

/-! ## The start of a process -/

/-- A restored entry is about the same transaction. -/
theorem Filed.restored (h : Filed queue runs) : Filed (queue.map Actor.restoredEntry) runs := by
  refine ⟨?_, fun e mem => ?_, fun e mem => ?_, fun e mem => ?_⟩
  · rw [List.map_map]
    exact h.keys
  all_goals obtain ⟨e, old, rfl⟩ := List.mem_map.mp mem
  · exact h.own e old
  · exact h.home e old
  · exact h.wire e old

/-- A restored entry waits for its stop if it did. -/
theorem restoredEntry_stop (stop : (Actor.restoredEntry e).stop = none) : e.stop = none := by
  cases kept : e.stop with
  | none => rfl
  | some info =>
    change e.stop.map _ = none at stop
    rw [kept] at stop
    cases stop

theorem Tidy.restored (h : Tidy queue runs) : Tidy (queue.map Actor.restoredEntry) runs := by
  refine ⟨h.toFiled.restored, fun e mem stop d known => ?_, fun e mem stop => ?_⟩
  all_goals obtain ⟨e, old, rfl⟩ := List.mem_map.mp mem
  · obtain ⟨d, old', rfl⟩ := List.mem_map.mp known
    exact h.sole e old (restoredEntry_stop stop) d old'
  · exact h.placed e old (restoredEntry_stop stop)

namespace Actor

/-- A stop that was in flight goes into the entry of its transaction, or gets one. -/
theorem queueLostStop_filed (now : Instant) {c : ConnectorSnapshot}
    (wire : ∀ s, c.transaction = .stopping s → s.txId.isLocal = false) (h : Filed queue runs) :
    Filed (queueLostStop now queue c) runs := by
  cases state : c.transaction with
  | stopping s =>
    rw [queueLostStop_stopping state]
    split
    · exact h.stop _ _
    · refine (h.append_stop (fun e mem same => ?_) (wire s state)).sublist (push_sublist _ _)
      have below := key_le_maxKey mem
      rw [same] at below
      exact absurd below (Nat.not_succ_le_self _)
  | _ =>
    rw [queueLostStop_other (by rw [state]; rfl)]
    exact h

theorem queueLostStops_filed (now : Instant) {rest : List ConnectorSnapshot}
    (wire : ∀ c ∈ rest, ∀ s, c.transaction = .stopping s → s.txId.isLocal = false) (h : Filed queue runs) :
    Filed (rest.foldl (queueLostStop now) queue) runs := by
  induction rest generalizing queue with
  | nil => exact h
  | cons c rest ih =>
    exact ih (fun d mem => wire d (List.mem_cons_of_mem c mem)) (queueLostStop_filed now (wire c List.mem_cons_self) h)

/-- The transactions of `connectors`, of which those that are being stopped are left in `rest`. -/
def RunsIn (connectors rest : List ConnectorSnapshot) (id : ConnectorId) (tx : TxId) : Prop :=
  ∃ c ∈ connectors, c.id = id ∧ c.txId = some tx ∧ (c.transaction.isStopping = true → c ∈ rest)

/-- The transaction of a stop that was in flight is over. -/
theorem queueLostStop_tidy (now : Instant) {connectors rest : List ConnectorSnapshot} {c : ConnectorSnapshot}
    (wire : ∀ s, c.transaction = .stopping s → s.txId.isLocal = false)
    (h : Tidy queue (RunsIn connectors (c :: rest))) : Tidy (queueLostStop now queue c) (RunsIn connectors rest) := by
  have home : ∀ e ∈ queue, e.txId.isLocal = true → ∀ id, RunsIn connectors rest id e.txId →
      RunsIn connectors (c :: rest) id e.txId := by
    intro e _ _ id runs
    obtain ⟨d, mem, here, held, left⟩ := runs
    exact ⟨d, mem, here, held, fun stopping => List.mem_cons_of_mem c (left stopping)⟩
  cases state : c.transaction with
  | stopping s =>
    have others (e : OfflineTx) (other : OfflineQueue.isTxOn c.id s.txId e = false)
        (runs : RunsIn connectors (c :: rest) e.connector e.txId) : RunsIn connectors rest e.connector e.txId := by
      obtain ⟨d, mem, here, held, left⟩ := runs
      refine ⟨d, mem, here, held, fun stopping => ?_⟩
      rcases List.mem_cons.mp (left stopping) with rfl | later
      · have same : d.txId = some s.txId := congrArg TransactionState.txId state
        rw [isTxOn_iff.mpr ⟨Option.some.inj (held.symm.trans same), here.symm⟩] at other
        cases other
      · exact later
    rw [queueLostStop_stopping state]
    split
    · exact h.stop c.id s.txId _ home fun e _ other _ runs => others e other runs
    · rename_i missing
      have missing : ∀ e ∈ queue, OfflineQueue.isTxOn c.id s.txId e = false := by simpa using missing
      refine ((h.of_runs home fun e mem _ runs => others e (missing e mem) runs).append
        ((h.toFiled.of_runs home).append_stop (fun e mem same => ?_) (wire s state)) (fun e mem here same => ?_)
          (by rintro ⟨⟩)).sublist (push_sublist _ _)
      · have below := key_le_maxKey mem
        rw [same] at below
        exact absurd below (Nat.not_succ_le_self _)
      · have on := isTxOn_iff.mpr ⟨same, here⟩
        rw [missing e mem] at on
        cases on
  | _ =>
    rw [queueLostStop_other (by rw [state]; rfl)]
    refine h.of_runs home fun e _ _ runs => ?_
    obtain ⟨d, mem, here, held, left⟩ := runs
    refine ⟨d, mem, here, held, fun stopping => ?_⟩
    rcases List.mem_cons.mp (left stopping) with rfl | later
    · rw [state] at stopping
      cases stopping
    · exact later

theorem queueLostStops_tidy (now : Instant) {connectors rest : List ConnectorSnapshot}
    (wire : ∀ c ∈ rest, ∀ s, c.transaction = .stopping s → s.txId.isLocal = false)
    (h : Tidy queue (RunsIn connectors rest)) :
    Tidy (rest.foldl (queueLostStop now) queue) (RunsIn connectors []) := by
  induction rest generalizing queue with
  | nil => exact h
  | cons c rest ih =>
    exact ih (fun d mem => wire d (List.mem_cons_of_mem c mem))
      (queueLostStop_tidy now (wire c List.mem_cons_self) h)

/-- The appended stop of a process that ended drops no start. -/
theorem mem_push_of_start {entry : OfflineTx} (stop : entry.startPending = false) (mem : e ∈ queue)
    (starts : e.startPending = true) : e ∈ (OfflineQueue.push queue entry).1 := by
  obtain ⟨index, bound, rfl⟩ := List.getElem_of_mem mem
  have there : (queue ++ [entry])[index]? = some queue[index] := by
    rw [List.getElem?_append_left bound, List.getElem?_eq_getElem bound]
  have kept {other : Nat} (different : index ≠ other) : queue[index] ∈ (queue ++ [entry]).eraseIdx other :=
    List.mem_eraseIdx_iff_getElem?.mpr ⟨index, different, there⟩
  unfold OfflineQueue.push
  dsimp only
  split
  · exact List.mem_append_left _ mem
  · split
    · rename_i other found
      refine kept fun same => ?_
      obtain ⟨within, dropped, -⟩ := List.findIdx?_eq_some_iff_getElem.mp found
      subst same
      rw [List.getElem_append_left bound, starts] at dropped
      cases dropped
    · rename_i none
      have := List.findIdx?_eq_none_iff.mp none entry (List.mem_append_right _ (List.mem_singleton_self entry))
      rw [stop] at this
      cases this

/-- A queued start is still queued when the stops of the process that ended are. -/
theorem queueLostStop_keeps (now : Instant) (c : ConnectorSnapshot) (mem : e ∈ queue) (starts : e.startPending = true) :
    ∃ d ∈ queueLostStop now queue c, d.key = e.key ∧ d.startPending = true := by
  cases state : c.transaction with
  | stopping s =>
    rw [queueLostStop_stopping state]
    split
    · have listed : (e.key, e.startPending) ∈
          (OfflineQueue.updateFirst (OfflineQueue.isTxOn c.id s.txId)
            (fun entry => { entry with stop := some (lostStop now c s) }) queue).map
              fun d => (d.key, d.startPending) := by
        rw [OfflineQueue.updateFirst_map (by exact fun _ => rfl)]
        exact List.mem_map_of_mem mem
      obtain ⟨d, known, same⟩ := List.mem_map.mp listed
      obtain ⟨key, start⟩ := Prod.mk.inj same
      exact ⟨d, known, key, start.trans starts⟩
    · exact ⟨e, mem_push_of_start rfl mem starts, rfl, starts⟩
  | _ =>
    rw [queueLostStop_other (by rw [state]; rfl)]
    exact ⟨e, mem, rfl, starts⟩

theorem queueLostStops_keep (now : Instant) (connectors : List ConnectorSnapshot) (mem : e ∈ queue)
    (starts : e.startPending = true) :
    ∃ d ∈ connectors.foldl (queueLostStop now) queue, d.key = e.key ∧ d.startPending = true := by
  induction connectors generalizing queue e with
  | nil => exact ⟨e, mem, rfl, starts⟩
  | cons c rest ih =>
    obtain ⟨d, known, key, start⟩ := queueLostStop_keeps now c mem starts
    rw [← key]
    exact ih known start

theorem restoredConnector_txId (pc : PersistedConnector) (c : ConnectorSnapshot) :
    (restoredConnector pc c).txId = pc.transaction.txId := by
  unfold restoredConnector ConnectorSnapshot.txId
  dsimp only
  cases pc.transaction <;> rfl

/-- A start that is in the queue is not lost. -/
theorem withoutLostStart_txId {c : ConnectorSnapshot} (mem : e ∈ queue) (held : c.txId = some e.txId) :
    (withoutLostStart queue c).txId = c.txId := by
  unfold withoutLostStart
  split
  · rename_i p starting
    rw [if_pos]
    have same : c.txId = some p.txId := congrArg TransactionState.txId starting
    rw [List.any_eq_true]
    exact ⟨e, mem, decide_eq_true (Option.some.inj (held.symm.trans same))⟩
  · rfl

/-- The connectors of the new process, before the stops are queued that were in flight. -/
def startedConnectors (config : StationConfig) (data : PersistedStation) : List ConnectorSnapshot :=
  (restoredConnectors config data).map (withoutLostStart (data.offlineQueue.map restoredEntry))

/-- A transaction of the new process is that of the file. -/
theorem mem_startedConnectors {config : StationConfig} {data : PersistedStation}
    (nodup : (data.connectors.map (·.id)).Nodup) {c : ConnectorSnapshot} (mem : c ∈ startedConnectors config data)
    {tx : TxId} (held : c.txId = some tx) :
    ∃ pc ∈ data.connectors, pc.id = c.id ∧ pc.transaction.txId = some tx ∧
      (c.transaction.isStopping = true → ∃ s, pc.transaction = .stopping s) ∧
      ((∃ p, pc.transaction = .pendingStart p) → ∃ e ∈ data.offlineQueue.map restoredEntry, e.txId = tx) := by
  obtain ⟨d, old, rfl⟩ := List.mem_map.mp mem
  rcases withoutLostStart_transaction (data.offlineQueue.map restoredEntry) d with same | idle
  · rw [txId_of_transaction same] at held
    rcases restoredConnectors_cases config nodup old with ⟨id, rfl⟩ | ⟨pc, known, rfl⟩
    · cases held
    · rw [restoredConnector_txId] at held
      refine ⟨pc, known, by rw [withoutLostStart_id]; rfl, held, fun stopping => ?_, fun starting => ?_⟩
      · rw [same] at stopping
        cases state : pc.transaction with
        | stopping s => exact ⟨s, rfl⟩
        | _ =>
          unfold restoredConnector at stopping
          rw [state] at stopping
          cases stopping
      · obtain ⟨p, starting⟩ := starting
        have own : (restoredConnector pc (newConnector pc.id)).transaction = .pendingStart p := by
          unfold restoredConnector
          rw [starting]
        by_contra missing
        unfold withoutLostStart at same
        rw [own] at same
        dsimp only at same
        split at same
        · rename_i queued
          obtain ⟨e, listed, found⟩ := List.any_eq_true.mp queued
          refine missing ⟨e, listed, ?_⟩
          rw [starting] at held
          exact (of_decide_eq_true found).trans (Option.some.inj held)
        · cases same
  · rw [show (withoutLostStart (data.offlineQueue.map restoredEntry) d).txId = none from
      congrArg TransactionState.txId idle] at held
    cases held

end Actor

/-- The new process has every connector of an entry that waits for its stop. -/
def PersistedStation.CoveredBy (data : PersistedStation) (config : StationConfig) : Prop :=
  ∀ e ∈ data.offlineQueue, e.stop = none → e.connector ≤ max Actor.maxRestoredConnectors config.connectorCount

namespace Actor

/-- The started connectors have no transaction that the file does not have. -/
theorem saved_of_runsIn {config : StationConfig} {data : PersistedStation}
    (nodup : (data.connectors.map (·.id)).Nodup) {id : ConnectorId} {tx : TxId}
    (runs : RunsIn (startedConnectors config data) (startedConnectors config data) id tx) : data.RunsOn id tx := by
  obtain ⟨c, mem, here, held, -⟩ := runs
  obtain ⟨pc, known, same, held, -⟩ := mem_startedConnectors nodup mem held
  exact ⟨pc, known, same.trans here, held⟩

theorem startedConnectors_filed (config : StationConfig) {data : PersistedStation}
    (nodup : (data.connectors.map (·.id)).Nodup) (h : Filed data.offlineQueue data.RunsOn) :
    Filed (data.offlineQueue.map restoredEntry)
      (RunsIn (startedConnectors config data) (startedConnectors config data)) :=
  h.restored.of_runs fun _ _ _ _ => saved_of_runsIn nodup

theorem startedConnectors_tidy (config : StationConfig) {data : PersistedStation}
    (nodup : (data.connectors.map (·.id)).Nodup) (physical : ∀ c ∈ data.connectors, 0 < c.id)
    (h : Tidy data.offlineQueue data.RunsOn) (covered : data.CoveredBy config) :
    Tidy (data.offlineQueue.map restoredEntry)
      (RunsIn (startedConnectors config data) (startedConnectors config data)) := by
  refine h.restored.of_runs (fun _ _ _ _ => saved_of_runsIn nodup) fun e mem stop runs => ?_
  obtain ⟨pc, known, here, tx⟩ := runs
  have within : pc.id ≤ max maxRestoredConnectors config.connectorCount := by
    obtain ⟨d, old, rfl⟩ := List.mem_map.mp mem
    rw [here]
    exact covered d old (restoredEntry_stop stop)
  have there := mem_restoredConnectors_of_le config nodup known (physical pc known)
    (le_restoredCount config known within)
  have held : (restoredConnector pc (newConnector pc.id)).txId = some e.txId := (restoredConnector_txId _ _).trans tx
  refine ⟨_, List.mem_map_of_mem there, ?_, (withoutLostStart_txId mem held).trans held,
    fun _ => List.mem_map_of_mem there⟩
  rw [withoutLostStart_id]
  exact here

/-- What is left on a connector is not being stopped. -/
theorem withoutLostStop_txId (c : ConnectorSnapshot) {tx : TxId} :
    (withAvailability (withoutLostStop c)).txId = some tx ↔ c.txId = some tx ∧ c.transaction.isStopping = false := by
  have same : (withAvailability (withoutLostStop c)).txId =
      (if c.transaction.isStopping then TransactionState.idle else c.transaction).txId :=
    (txId_of_transaction (withAvailability_transaction _)).trans
      (congrArg TransactionState.txId (withoutLostStop_transaction c))
  rw [same]
  cases stopping : c.transaction.isStopping with
  | true => exact ⟨by rintro ⟨⟩, by rintro ⟨-, ⟨⟩⟩⟩
  | false => exact ⟨fun held => ⟨held, rfl⟩, fun both => both.1⟩

/-- The transactions of the new process are those of the file that are not being stopped. -/
theorem loaded_runsOn (config : StationConfig) (registry : ConfigRegistry) (now : Instant) (mono : Int)
    (data : PersistedStation) (id : ConnectorId) (tx : TxId) :
    ((loaded config registry now mono (some data)).ledger [] .none).RunsOn id tx ↔
      RunsIn (startedConnectors config data) [] id tx := by
  refine ⟨fun runs => ?_, fun runs => ?_⟩
  · obtain ⟨c', mem, here, held⟩ := runs
    obtain ⟨c, known, rfl⟩ := List.mem_map.mp mem
    obtain ⟨tx, active⟩ := (withoutLostStop_txId c).mp held
    rw [withAvailability_id, withoutLostStop_id] at here
    refine ⟨c, known, here, tx, fun stopping => ?_⟩
    rw [active] at stopping
    cases stopping
  · obtain ⟨c, mem, here, held, left⟩ := runs
    have active : c.transaction.isStopping = false := by
      by_contra stopping
      cases left (by simpa using stopping)
    refine ⟨_, List.mem_map_of_mem mem, ?_, (withoutLostStop_txId c).mpr ⟨held, active⟩⟩
    rw [withAvailability_id, withoutLostStop_id]
    exact here

/-- The CSMS knows what the file has as being stopped. -/
theorem startedConnectors_wire (config : StationConfig) {data : PersistedStation}
    (nodup : (data.connectors.map (·.id)).Nodup) (h : data.Custody) :
    ∀ c ∈ startedConnectors config data, ∀ s, c.transaction = .stopping s → s.txId.isLocal = false := by
  intro c mem s stopping
  have held : c.txId = some s.txId := congrArg TransactionState.txId stopping
  obtain ⟨pc, known, -, tx, stops, -⟩ := mem_startedConnectors nodup mem held
  obtain ⟨s', own⟩ := stops (by rw [stopping]; rfl)
  rw [own] at tx
  rw [← Option.some.inj tx]
  exact h.stopping pc known s' own

/-- A transaction with an id of the station that is restored has its start in the queue. -/
theorem startedConnectors_local {config : StationConfig} {data : PersistedStation}
    (nodup : (data.connectors.map (·.id)).Nodup) (worded : ∀ c ∈ data.connectors, c.transaction.Worded)
    (h : data.Custody) {c : ConnectorSnapshot} (mem : c ∈ startedConnectors config data) {key : Nat}
    (held : c.txId = some (.loc key)) :
    ∃ e ∈ data.offlineQueue.map restoredEntry, e.txId = .loc key ∧ e.startPending = true := by
  obtain ⟨pc, known, -, tx, -, pending⟩ := mem_startedConnectors nodup mem held
  have starting : ∃ p, pc.transaction = .pendingStart p := by
    have wording := worded pc known
    cases state : pc.transaction with
    | pendingStart p => exact ⟨p, rfl⟩
    | idle =>
      rw [state] at tx
      cases tx
    | active t =>
      rw [state] at tx wording
      have own : t.txId.isLocal = false := wording
      rw [Option.some.inj tx] at own
      cases own
    | stopping s =>
      rw [state] at tx
      have own := h.stopping pc known s state
      rw [Option.some.inj tx] at own
      cases own
  obtain ⟨e, listed, same⟩ := pending starting
  refine ⟨e, listed, same, ?_⟩
  by_contra delivered
  have wire := h.filed.restored.wire e listed (by simpa using delivered)
  rw [same] at wire
  cases wire

/-- The connectors of a process without a file have no transactions. -/
theorem fresh_silent (config : StationConfig) (registry : ConfigRegistry) (now : Instant) (mono : Int)
    {c : ConnectorSnapshot} (mem : c ∈ (loaded config registry now mono none).connectors) : c.transaction = .idle := by
  obtain ⟨index, -, rfl⟩ := List.mem_map.mp mem
  rfl

theorem loaded_custody (config : StationConfig) (registry : ConfigRegistry) (now : Instant) (mono : Int)
    {saved : Option PersistedStation} (nodup : ∀ data, saved = some data → (data.connectors.map (·.id)).Nodup)
    (worded : ∀ data, saved = some data → ∀ c ∈ data.connectors, c.transaction.Worded)
    (custody : ∀ data, saved = some data → data.Custody) :
    Custody ((loaded config registry now mono saved).ledger [] .none) := by
  have calls : (loaded config registry now mono saved).calls = [] := by cases saved <;> rfl
  have written : (loaded config registry now mono saved).written = [] := by cases saved <;> rfl
  have starts : ((loaded config registry now mono saved).ledger [] .none).starts = [] := by
    change ((loaded config registry now mono saved).calls).filterMap _ = []
    rw [calls]
    rfl
  have noStart {start : ConnectorId × TxId}
      (mem : start ∈ ((loaded config registry now mono saved).ledger [] .none).starts) : False := by
    rw [starts] at mem
    cases mem
  have noFile {data : PersistedStation} (mem : data ∈ (loaded config registry now mono saved).written) : False := by
    rw [written] at mem
    cases mem
  cases saved with
  | none =>
    have silent {id : ConnectorId} {tx : TxId}
        (runs : ((loaded config registry now mono none).ledger [] .none).RunsOn id tx) : False := by
      obtain ⟨c, mem, -, held⟩ := runs
      rw [show c.txId = none from congrArg TransactionState.txId (fresh_silent config registry now mono mem)] at held
      cases held
    refine ⟨⟨List.nodup_nil, ?_, ?_, ?_⟩, by rw [starts]; exact List.nodup_nil, fun _ mem => (noStart mem).elim,
      fun _ mem => (noStart mem).elim, fun _ mem => (noStart mem).elim, fun _ _ runs => (silent runs).elim,
      by rintro _ _ ⟨⟩, by rintro _ _ _ ⟨⟩, fun c mem s stopping => ?_, fun _ mem => (noFile mem).elim⟩
    · rintro e ⟨⟩
    · rintro e ⟨⟩
    · rintro e ⟨⟩
    · cases (fresh_silent config registry now mono mem).symm.trans stopping
  | some data =>
    have file := custody data rfl
    have unique := nodup data rfl
    have queued := queueLostStops_filed now (startedConnectors_wire config unique file)
      (startedConnectors_filed config unique file.filed)
    refine ⟨queued.of_runs fun e _ _ id runs => ?_, by rw [starts]; exact List.nodup_nil,
      fun _ mem => (noStart mem).elim, fun _ mem => (noStart mem).elim, fun _ mem => (noStart mem).elim,
      fun id key on => ?_, by rintro _ _ ⟨⟩, by rintro _ _ _ ⟨⟩, fun c mem s stopping => ?_,
      fun _ mem => (noFile mem).elim⟩
    · obtain ⟨c, mem, here, held, left⟩ := (loaded_runsOn config registry now mono data id e.txId).mp runs
      exact ⟨c, mem, here, held, fun stopping => by cases left stopping⟩
    · -- the entry of the start is still queued, and its key has been drawn
      obtain ⟨c, mem, -, held, -⟩ := (loaded_runsOn config registry now mono data id (.loc key)).mp on
      obtain ⟨e, listed, same, delivers⟩ := startedConnectors_local unique (worded data rfl) file mem held
      obtain ⟨d, left, own, -⟩ := queueLostStops_keep now (startedConnectors config data) listed delivers
      have drawn : d.key ≤ (loaded config registry now mono (some data)).nextLocal :=
        (loaded_drawn config registry now mono (some data)).queue d left
      have key' := same.symm.trans (file.filed.restored.own e listed (by rw [same]; rfl))
      rw [TxId.loc.inj key', ← own]
      exact drawn
    · obtain ⟨d, known, rfl⟩ := List.mem_map.mp mem
      have held := (withoutLostStop_txId d).mp (congrArg TransactionState.txId stopping)
      rw [withAvailability_transaction, withoutLostStop_transaction, held.2] at stopping
      rw [show d.transaction = .stopping s from stopping] at held
      cases held.2

theorem loaded_tidy (config : StationConfig) (registry : ConfigRegistry) (now : Instant) (mono : Int)
    {saved : Option PersistedStation} (nodup : ∀ data, saved = some data → (data.connectors.map (·.id)).Nodup)
    (custody : ∀ data, saved = some data → data.Custody)
    (tidy : ∀ data, saved = some data → Tidy data.offlineQueue data.RunsOn)
    (covered : ∀ data, saved = some data → data.CoveredBy config) :
    TidyBooks ((loaded config registry now mono saved).ledger [] .none) := by
  cases saved with
  | none =>
    refine ⟨⟨⟨List.nodup_nil, ?_, ?_, ?_⟩, ?_, ?_⟩, ?_⟩
    all_goals rintro e ⟨⟩
  | some data =>
    refine ⟨?_, by rintro e ⟨⟩⟩
    have unique := nodup data rfl
    have queued := queueLostStops_tidy now (startedConnectors_wire config unique (custody data rfl))
      (startedConnectors_tidy config unique (custody data rfl).physical (tidy data rfl) (covered data rfl))
    exact queued.of_runs (fun e _ _ id => (loaded_runsOn config registry now mono data id e.txId).mp)
      fun e _ _ => (loaded_runsOn config registry now mono data e.connector e.txId).mpr

/-! ## Every run -/

/-- The answer confirms a stop whose transaction has a delivered start in the queue: the entry stays. -/
def Leaves (a : Actor) (continuation : Cont) (result : CallResult) : Prop :=
  ∃ id tx tag startedAt meterStartWh info done,
    continuation = .stopResult id tx tag startedAt meterStartWh info done ∧ decodeAny result = .ok () ∧
      delivered a.queue id tx

/-- The answer gives a queued start the id of another entry of its connector, and one of them waits for its stop. -/
def Shares (a : Actor) (continuation : Cont) (result : CallResult) : Prop :=
  ∃ key response entry other, continuation = .syncStart key ∧ decodeStart result = .ok response ∧
    OfflineQueue.get a.queue key = some entry ∧ a.refuses entry response.idTagInfo = false ∧ other ∈ a.queue ∧
      OfflineQueue.isTxOn entry.connector (.csms response.transactionId) other = true ∧
        (entry.stop = none ∨ other.stop = none)

/-- The answer that `wake` brings keeps the queue tidy. -/
def KeepsTidy (a : Actor) (wake : Wake) : Prop :=
  ∀ token result call, wake.input = .callDone token (a.woken wake).link.generation result →
    ((a.woken wake).calls.find? fun call => call.token == token) = some call →
      ¬(a.woken wake).Leaves call.continuation result ∧ ¬(a.woken wake).Shares call.continuation result

/-- The states that a chain of processes reaches in which every answer keeps the queue tidy, and every restart has the
connectors of the entries that wait for their stop. -/
inductive TidyReachable : Actor → Prop
  | fresh {a : Actor} (config : StationConfig) (registry : ConfigRegistry) (now : Instant) (mono : Int)
      (run : Runs KeepsTidy (start config registry now mono none) a) : TidyReachable a
  | restarted {a b : Actor} (earlier : TidyReachable b) (config : StationConfig) (registry : ConfigRegistry)
      (now : Instant) (mono : Int) (saved : PersistedStation) (written : saved ∈ b.written)
      (covered : saved.CoveredBy config) (run : Runs KeepsTidy (start config registry now mono (some saved)) a) :
      TidyReachable a

/-- The books between two iterations. -/
def InOrder (a : Actor) : Prop :=
  ((((Ids (a.ledger [] .none) ∧ Worded (a.ledger [] .none)) ∧ Fates (a.ledger [] .none)) ∧
    Drawn (a.ledger [] .none)) ∧ Custody (a.ledger [] .none)) ∧ TidyBooks (a.ledger [] .none)

theorem permits_tidy {a : Actor} {wake : Wake} (keeps : a.KeepsTidy wake) :
    Permits { leave := false, share := false } (a.woken wake) wake.input := by
  refine (a.woken wake).permits_of_complete (.inl rfl) (.inl rfl) fun token result call same found => ?_
  obtain ⟨leaves, shares⟩ := keeps token result call same found
  cases cont : call.continuation with
  | startResult => exact fun _ _ _ => ⟨.inl rfl, .inl rfl, rfl⟩
  | stopResult id tx tag startedAt meterStartWh info done =>
    refine ⟨.inl rfl, fun confirmed => .inr fun left => leaves ?_⟩
    exact ⟨id, tx, tag, startedAt, meterStartWh, info, done, cont, confirmed, left⟩
  | syncStart key =>
    intro response entry answered queued
    unfold MayDeliver
    split
    · exact ⟨.inl rfl, .inl rfl⟩
    · rename_i accepted
      refine ⟨rfl, .inl rfl, .inr fun other mem same => ?_⟩
      have settled (waits : entry.stop = none ∨ other.stop = none) : False :=
        shares ⟨key, response, entry, other, cont, answered, queued, by simpa using accepted, mem, same, waits⟩
      refine ⟨Option.isSome_iff_ne_none.mpr fun none => settled (.inl none),
        Option.isSome_iff_ne_none.mpr fun none => settled (.inr none)⟩
  | authorize _ done =>
    cases done with
    | reply => trivial
    | remoteStart => exact fun _ _ _ _ => ⟨rfl, fun _ => .inl rfl⟩
  | meterValues => exact fun _ => rfl
  | boot generation reply =>
    intro response decoded
    split
    · exact .inl rfl
    · rfl
  | _ => trivial

theorem step_inOrder {a : Actor} (h : a.InOrder) (wake : Wake) (keeps : a.KeepsTidy wake) : (a.step wake).InOrder :=
  (tidy_preserved _ rfl rfl).path (a.step_path wake h.1.1.1.1.1 (permits_tidy keeps)) h

theorem runs_inOrder {a b : Actor} (run : Runs KeepsTidy a b) (h : a.InOrder) : b.InOrder := by
  refine Preserves.path (fun a b next h => ?_) run h
  obtain ⟨wake, keeps, rfl⟩ := next
  exact step_inOrder h wake keeps

theorem start_inOrder (config : StationConfig) (registry : ConfigRegistry) (now : Instant) (mono : Int)
    {saved : Option PersistedStation} (nodup : ∀ data, saved = some data → (data.connectors.map (·.id)).Nodup)
    (worded : ∀ data, saved = some data → ∀ c ∈ data.connectors, c.transaction.Worded)
    (custody : ∀ data, saved = some data → data.Custody)
    (tidy : ∀ data, saved = some data → Tidy data.offlineQueue data.RunsOn)
    (covered : ∀ data, saved = some data → data.CoveredBy config) :
    (start config registry now mono saved).InOrder :=
  (tidy_preserved { leave := false, share := false } rfl rfl).path
    (start_path config registry now mono saved (.inl rfl))
    ⟨⟨⟨⟨⟨loaded_ids config registry now mono saved, loaded_worded config registry now mono nodup worded⟩,
      loaded_fates config registry now mono saved⟩, loaded_drawn config registry now mono saved⟩,
      loaded_custody config registry now mono nodup worded custody⟩,
      loaded_tidy config registry now mono nodup custody tidy covered⟩

theorem tidyReachable_inOrder {a : Actor} (h : TidyReachable a) : a.InOrder := by
  induction h with
  | fresh config registry now mono run =>
    refine runs_inOrder run (start_inOrder config registry now mono ?_ ?_ ?_ ?_ ?_)
    all_goals rintro data ⟨⟩
  | restarted _ config registry now mono saved written covered run ih =>
    have file := ih.1.1.1.1.2.saved saved written
    refine runs_inOrder run (start_inOrder config registry now mono ?_ ?_ ?_ ?_ ?_)
    all_goals
      intro data same
      obtain rfl := Option.some.inj same
    · exact file.1
    · exact file.2
    · exact ih.1.2.saved _ written
    · exact ih.2.saved _ written
    · exact covered

/-- The transaction of every entry without a stop whose start was delivered is on the connector of the entry, active or
being stopped, as long as no stop of such a transaction is confirmed, no entry that waits for its stop shares its id,
and no restart leaves its connector out. -/
theorem delivered_entries_current {a : Actor} (h : TidyReachable a) :
    ∀ e ∈ a.queue, e.startPending = false → e.stop = none → ∃ c ∈ a.connectors, c.id = e.connector ∧
      c.txId = some e.txId ∧ (c.transaction.isActive = true ∨ c.transaction.isStopping = true) := by
  intro e mem delivered stop
  obtain ⟨⟨⟨⟨⟨-, worded⟩, -⟩, -⟩, -⟩, books⟩ := tidyReachable_inOrder h
  have wire := books.queue.wire e mem delivered
  obtain ⟨c, known, here, held⟩ := books.queue.placed e mem stop
  refine ⟨c, known, here, held, ?_⟩
  have wording := worded.connectors c known
  have held : c.transaction.txId = some e.txId := held
  cases state : c.transaction with
  | idle =>
    rw [state] at held
    cases held
  | pendingStart p =>
    rw [state] at held wording
    have own : p.txId.isLocal = true := wording
    rw [Option.some.inj held, wire] at own
    cases own
  | active => exact .inl rfl
  | stopping => exact .inr rfl

/-- Nothing is asked of an answer while no stop is in flight and no id of the Central System is in the queue. -/
theorem keepsTidy_of_local {a : Actor} {wake : Wake}
    (queue : ∀ e ∈ (a.woken wake).queue, e.txId.isLocal = true)
    (calls : ∀ call ∈ (a.woken wake).calls, call.continuation.stops = none) : a.KeepsTidy wake := by
  intro token result call _ found
  have mem : call ∈ (a.woken wake).calls := List.mem_of_find?_eq_some found
  refine ⟨fun leaves => ?_, fun shares => ?_⟩
  · obtain ⟨id, tx, tag, startedAt, meterStartWh, info, done, cont, -⟩ := leaves
    have none := calls call mem
    rw [cont] at none
    cases none
  · obtain ⟨key, response, entry, other, -, -, -, -, known, same, -⟩ := shares
    have own := queue other known
    rw [(isTxOn_iff.mp same).1] at own
    cases own

/-- A start was queued, delivered by the sync, and its transaction goes on: the entry waits for its stop. -/
theorem delivered_entries_current_running :
    let wake (input : Input) : Wake := { input, now := 1000000000000, mono := 0 }
    let boot := wake (.callDone 0 1 (.ok (.boot .accepted 0 0)))
    let answer := wake (.callDone 1 1 (.ok (.startTransaction 7 { status := .accepted })))
    let inputs : List Input :=
      [.command (.startTransaction 1 (.single 'A')) 2, .command .connect 0, .connected 1 true none]
    let offline := (start { connectorCount := 1 } {} 1000000000000 0 none).replay 1000000000000 0 inputs
    let a := (offline.step boot).step answer
    a.queue.map (fun e => (e.startPending, e.stop.isSome, e.txId)) = [(false, false, .csms 7)] ∧
    ∀ e ∈ a.queue, e.startPending = false → e.stop = none → ∃ c ∈ a.connectors, c.id = e.connector ∧
      c.txId = some e.txId ∧ (c.transaction.isActive = true ∨ c.transaction.isStopping = true) := by
  intro wake boot answer inputs offline a
  refine ⟨by decide +kernel, delivered_entries_current (.fresh _ _ _ _ (((Runs.replay _ _ _ inputs ?_).tail
    ⟨boot, keepsTidy_of_local (by decide +kernel) (by decide +kernel), rfl⟩).tail
      ⟨answer, keepsTidy_of_local (by decide +kernel) (by decide +kernel), rfl⟩))⟩
  intro input mem b token result call same
  simp only [inputs, List.mem_cons, List.not_mem_nil, or_false] at mem
  rcases mem with rfl | rfl | rfl
  all_goals cases same

/-- The delivered start of a transaction is left in the queue when its stop is confirmed. -/
theorem confirmed_stop_leaves_entry :
    let inputs : List Input :=
      [.command (.startTransaction 1 (.single 'A')) 2, .command .connect 0, .connected 1 true none,
        .callDone 0 1 (.ok (.boot .accepted 0 0)), .callDone 1 1 (.ok (.startTransaction 7 { status := .accepted })),
        .command (.stopTransaction 1 .local none) 3, .callDone 6 1 (.ok .accepted)]
    let a := (start { connectorCount := 1 } {} 1000000000000 0 none).replay 1000000000000 0 inputs
    Reachable (fun _ _ => True) a ∧ a.connectors.map (·.txId) = [none] ∧
    ¬∀ e ∈ a.queue, e.startPending = false → e.stop = none → ∃ c ∈ a.connectors, c.id = e.connector ∧
      c.txId = some e.txId ∧ (c.transaction.isActive = true ∨ c.transaction.isStopping = true) := by
  intro inputs a
  exact ⟨.replay _ _ _ _ _ inputs, by decide +kernel, by decide +kernel⟩

end Actor

end KirbyOcpp
