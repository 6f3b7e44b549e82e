import KirbyOcpp.Ledger.Runs
import KirbyOcpp.Ledger.Walks
import KirbyOcpp.Laws.Station.Metering
import KirbyOcpp.Station.Sampling

/-!
# The intervals of the samples

**The law** `samples_add_up`: the samples of a transaction add up to the growth of the register, as long as no
settlement moves the base of the interval while the transaction goes on. **Where it fails**: `resumed_interval_lost`.
-/

namespace KirbyOcpp

namespace Actor

/-! ## What the operations do to one meter -/

/-- The connectors are distinct and their registers fit into 64 bits. -/
structure Registers (a : Actor) : Prop where
  distinct : (a.connectors.map (·.id)).Nodup
  fits : ∀ c ∈ a.connectors, c.meterWh ≤ u64Max

/-- The meter of `id` counts the interval from `base`, which its register has reached. -/
def Based (a : Actor) (id : ConnectorId) (base : Rat) : Prop :=
  ∃ c runtime, a.connectors.find? (fun c => c.id == id) = some c ∧ a.meters.lookup id = some runtime ∧
    runtime.sampleBaseWh = base ∧ base ≤ c.meterWh

variable {a : Actor} {id : ConnectorId} {base : Rat}

theorem markDirty_meters (a : Actor) : a.markDirty.connectors = a.connectors ∧ a.markDirty.meters = a.meters := by
  unfold markDirty setTimerIfIdle setTimer
  split <;> [exact ⟨rfl, rfl⟩; (dsimp only; split <;> exact ⟨rfl, rfl⟩)]

theorem settleMeters_lookup (registers : Registers a) {c : ConnectorSnapshot}
    (found : a.connectors.find? (fun c => c.id == id) = some c) :
    a.settleMeters.meters.lookup id = some (a.settledRuntime c) := by
  have settled := Metering.lookup_foldl_insertAt (fun c : ConnectorSnapshot => c.id) a.settledRuntime a.connectors
    registers.distinct a.meters id
  rw [found] at settled
  exact settled

theorem flushedRuntime_same (runtime : MeterRuntime) :
    (flushedRuntime runtime).sampleBaseWh = runtime.sampleBaseWh ∧
      (flushedRuntime runtime).charging = runtime.charging := by
  unfold flushedRuntime
  split <;> exact ⟨rfl, rfl⟩

/-- What `flush_meters` does to the connector `id`. -/
theorem flushMeters_meter (registers : Registers a) {c : ConnectorSnapshot}
    (found : a.connectors.find? (fun c => c.id == id) = some c) :
    (∃ wh, a.flushMeters.connectors.find? (fun c => c.id == id) =
      some { c with meterWh := saturatingAdd c.meterWh wh }) ∧
    ∃ runtime, a.flushMeters.meters.lookup id = some runtime ∧
      runtime.sampleBaseWh = (a.settledRuntime c).sampleBaseWh ∧ runtime.charging = decide (c.status = .charging) := by
  let flushed : Actor := { a.settleMeters with
    connectors := a.settleMeters.connectors.map fun c =>
      { c with meterWh := saturatingAdd c.meterWh ((flushedWh a.settleMeters.meters c).getD 0) }
    meters := a.settleMeters.meters.map fun entry =>
      (entry.1, if a.settleMeters.connectors.any fun c => c.id == entry.1 then flushedRuntime entry.2 else entry.2) }
  have same : a.flushMeters.connectors = flushed.connectors ∧ a.flushMeters.meters = flushed.meters := by
    unfold flushMeters
    dsimp only
    split
    · exact markDirty_meters _
    · exact ⟨rfl, rfl⟩
  rw [same.1, same.2]
  constructor
  · refine ⟨(flushedWh a.settleMeters.meters c).getD 0, ?_⟩
    refine (Lists.find?_map_keeps (fun _ => rfl) a.connectors).trans ?_
    rw [found]
    rfl
  · have charging : (a.settledRuntime c).charging = decide (c.status = .charging) := by
      unfold settledRuntime
      dsimp only
      split <;> rfl
    have looked := Metering.lookup_map (fun key runtime =>
      if a.settleMeters.connectors.any fun c => c.id == key then flushedRuntime runtime else runtime)
      a.settleMeters.meters id
    rw [settleMeters_lookup registers found] at looked
    obtain ⟨base, still⟩ := flushedRuntime_same (a.settledRuntime c)
    refine ⟨_, looked, ?_, ?_⟩
    · split
      · exact base
      · rfl
    · split
      · exact still.trans charging
      · exact charging

/-- The base stays where it is, unless the connector has begun to charge. -/
theorem settledRuntime_base {c : ConnectorSnapshot} {runtime : MeterRuntime}
    (found : a.connectors.find? (fun c => c.id == id) = some c) (known : a.meters.lookup id = some runtime)
    (steady : a.rebased id = false) : (a.settledRuntime c).sampleBaseWh = runtime.sampleBaseWh := by
  have own : c.id = id := by simpa using List.find?_some found
  unfold settledRuntime
  rw [own, known]
  dsimp only
  split
  · rename_i enters
    obtain ⟨charging, before⟩ := Bool.and_eq_true_iff.mp enters
    have nothing : a.spanEnergy id runtime = none := by
      unfold spanEnergy
      rw [Bool.not_eq_true'] at before
      simp [before]
    unfold rebased at steady
    rw [found, known] at steady
    simp only [charging, before, Bool.and_self, Bool.true_and, decide_eq_false_iff_not, not_not] at steady
    rw [nothing, Option.getD_none, add_zero]
    exact steady
  · rfl

/-- The last settlement saw whether the connector charges. -/
def Calm (a : Actor) (id : ConnectorId) : Prop :=
  ∀ c runtime, a.connectors.find? (fun c => c.id == id) = some c → a.meters.lookup id = some runtime →
    runtime.charging = decide (c.status = .charging)

theorem Calm.rebased (calm : Calm a id) : a.rebased id = false := by
  unfold Actor.rebased
  split
  · rename_i c runtime found known
    rw [calm c runtime found known, Bool.and_not_self, Bool.false_and]
  · rfl

/-! ## Registers -/

theorem Registers.of_pairs (h : Registers a) {b : Actor}
    (same : b.connectors.map (fun c => (c.id, c.meterWh)) = a.connectors.map fun c => (c.id, c.meterWh)) :
    Registers b := by
  constructor
  · have ids := congrArg (List.map Prod.fst) same
    rw [List.map_map, List.map_map] at ids
    exact ids ▸ h.distinct
  · intro c mem
    have pair : (c.id, c.meterWh) ∈ a.connectors.map fun c => (c.id, c.meterWh) := by
      rw [← same]
      exact List.mem_map_of_mem mem
    obtain ⟨d, known, eq⟩ := List.mem_map.mp pair
    have register : d.meterWh = c.meterWh := congrArg Prod.snd eq
    exact register ▸ h.fits d known

/-- Registers stay such if each of them is only added to. -/
theorem Registers.map (h : Registers a) {f : ConnectorSnapshot → ConnectorSnapshot}
    (same : ∀ c ∈ a.connectors, (f c).id = c.id ∧ (c.meterWh ≤ u64Max → (f c).meterWh ≤ u64Max)) {b : Actor}
    (connectors : b.connectors = a.connectors.map f) : Registers b := by
  constructor
  · rw [connectors, List.map_map]
    have ids : a.connectors.map ((·.id) ∘ f) = a.connectors.map (·.id) :=
      List.map_congr_left fun c mem => (same c mem).1
    exact ids ▸ h.distinct
  · intro c mem
    rw [connectors] at mem
    obtain ⟨d, known, rfl⟩ := List.mem_map.mp mem
    exact (same d known).2 (h.fits d known)

theorem Registers.flush (h : Registers a) : Registers a.flushMeters := by
  have connectors : a.flushMeters.connectors = a.connectors.map fun c =>
      { c with meterWh := saturatingAdd c.meterWh ((flushedWh a.settleMeters.meters c).getD 0) } := by
    unfold flushMeters
    dsimp only
    split
    · exact (markDirty_meters _).1
    · rfl
  exact h.map
    (f := fun c => { c with meterWh := saturatingAdd c.meterWh ((flushedWh a.settleMeters.meters c).getD 0) })
    (fun c _ => ⟨rfl, fun fits => ((Metering.grown_saturatingAdd c.id c.meterWh _).2 fits).2⟩) connectors

theorem Registers.add (h : Registers a) (id : ConnectorId) (deltaWh : Nat) :
    Registers (a.withConnector id fun c => { c with meterWh := saturatingAdd c.meterWh deltaWh }) := by
  unfold withConnector
  split
  · exact ⟨h.distinct, h.fits⟩
  · refine h.map (f := fun c => if c.id == id then { c with meterWh := saturatingAdd c.meterWh deltaWh } else c)
      (fun c _ => ?_) rfl
    split
    · exact ⟨rfl, fun fits => ((Metering.grown_saturatingAdd c.id c.meterWh _).2 fits).2⟩
    · exact ⟨rfl, fun fits => fits⟩

/-- A new connector has an id of its own, and an empty register. -/
theorem Registers.connectorAdded (h : Registers a) : Registers a.connectorAdded := by
  constructor
  · unfold Actor.connectorAdded
    dsimp only
    rw [List.map_append]
    refine List.nodup_append.mpr ⟨h.distinct, List.nodup_singleton _, fun id mem other new => ?_⟩
    obtain ⟨c, known, rfl⟩ := List.mem_map.mp mem
    rw [List.mem_singleton.mp new]
    exact a.newId_fresh c known
  · intro c mem
    rcases List.mem_append.mp mem with known | new
    · exact h.fits c known
    · rw [List.mem_singleton.mp new]
      exact Nat.zero_le _

theorem Registers.mem_fits (h : Registers a) {c : ConnectorSnapshot}
    (found : a.connectors.find? (fun c => c.id == id) = some c) : c.meterWh ≤ u64Max :=
  h.fits c (List.mem_of_find?_eq_some found)

/-! ## The base -/

theorem Based.settle (h : Based a id base) (registers : Registers a) (steady : a.rebased id = false) :
    Based a.settleMeters id base := by
  obtain ⟨c, runtime, found, known, rfl, reached⟩ := h
  exact ⟨c, _, found, settleMeters_lookup registers found, settledRuntime_base found known steady, reached⟩

theorem Based.flush (h : Based a id base) (registers : Registers a) (steady : a.rebased id = false) :
    Based a.flushMeters id base := by
  obtain ⟨c, runtime, found, known, rfl, reached⟩ := h
  obtain ⟨⟨wh, found'⟩, runtime', known', same, -⟩ := flushMeters_meter registers found
  have grown := ((Metering.grown_saturatingAdd id c.meterWh wh).2 (registers.mem_fits found)).1
  refine ⟨_, runtime', found', known', same.trans (settledRuntime_base found known steady), reached.trans ?_⟩
  exact_mod_cast grown

theorem calm_flush (registers : Registers a) (id : ConnectorId) : Calm a.flushMeters id := by
  intro c runtime found known
  obtain ⟨d, old, mild⟩ :=
    Lists.exists_of_forall₂_right a.flushMeters_quiet.frame.connectors (List.mem_of_find?_eq_some found)
  have own : d.id = id := mild.id.symm.trans (by simpa using List.find?_some found)
  have found' : a.connectors.find? (fun c => c.id == id) = some d := by
    cases exists' : a.connectors.find? fun c => c.id == id with
    | none => exact absurd own (by simpa using List.find?_eq_none.mp exists' d old)
    | some e =>
      have same : e.id = id := by simpa using List.find?_some exists'
      rw [Lists.eq_of_nodup_map registers.distinct (List.mem_of_find?_eq_some exists') old (same.trans own.symm)]
  obtain ⟨⟨wh, flushed⟩, runtime', known', -, charging⟩ := flushMeters_meter registers found'
  cases flushed.symm.trans found
  cases known'.symm.trans known
  exact charging

/-- `wh_delta` is added to the register of `other`. -/
theorem withConnector_find (a : Actor) (other : ConnectorId) (deltaWh : Nat) (id : ConnectorId) :
    (a.withConnector other fun c => { c with meterWh := saturatingAdd c.meterWh deltaWh }).connectors.find?
        (fun c => c.id == id) =
      if isStation other = false ∧ id = other then
        (a.connectors.find? fun c => c.id == id).map fun c => { c with meterWh := saturatingAdd c.meterWh deltaWh }
      else a.connectors.find? fun c => c.id == id := by
  unfold withConnector
  split
  · rename_i zero
    simp [zero]
  · rename_i physical
    have keeps (c : ConnectorSnapshot) :
        ((if c.id == other then { c with meterWh := saturatingAdd c.meterWh deltaWh } else c).id == id) =
          (c.id == id) := by split <;> rfl
    refine (Lists.find?_map_keeps keeps a.connectors).trans ?_
    cases found : a.connectors.find? fun c => c.id == id with
    | none => simp
    | some c =>
      have own : c.id = id := by simpa using List.find?_some found
      by_cases same : id = other
      · simp [own, same, physical]
      · simp [own, same]

theorem withConnector_meters (a : Actor) (id : ConnectorId) (f : ConnectorSnapshot → ConnectorSnapshot) :
    (a.withConnector id f).meters = a.meters := by
  unfold withConnector
  split <;> rfl

theorem Based.add (h : Based a id base) (registers : Registers a) (other : ConnectorId) (deltaWh : Nat) :
    Based (a.withConnector other fun c => { c with meterWh := saturatingAdd c.meterWh deltaWh }) id base := by
  obtain ⟨c, runtime, found, known, rfl, reached⟩ := h
  have finds := a.withConnector_find other deltaWh id
  rw [found] at finds
  have meters := a.withConnector_meters other fun c => { c with meterWh := saturatingAdd c.meterWh deltaWh }
  split at finds
  · have grown := ((Metering.grown_saturatingAdd id c.meterWh deltaWh).2 (registers.mem_fits found)).1
    refine ⟨_, runtime, finds, meters ▸ known, rfl, reached.trans ?_⟩
    exact_mod_cast grown
  · exact ⟨c, runtime, finds, meters ▸ known, rfl, reached⟩

theorem Calm.add (calm : Calm a id) (other : ConnectorId) (deltaWh : Nat) :
    Calm (a.withConnector other fun c => { c with meterWh := saturatingAdd c.meterWh deltaWh }) id := by
  intro c runtime found known
  rw [withConnector_find] at found
  rw [withConnector_meters] at known
  split at found
  · obtain ⟨d, old, rfl⟩ := Option.map_eq_some_iff.mp found
    exact calm d runtime old known
  · exact calm c runtime found known

theorem Based.of_same (h : Based a id base) {b : Actor} (connectors : b.connectors = a.connectors)
    (meters : b.meters = a.meters) : Based b id base := by
  unfold Based
  rw [connectors, meters]
  exact h

/-! ## A sample -/

/-- Nothing of the meters changes when an old sample is abandoned. -/
theorem makeRoomForSample_meters (a : Actor) :
    a.makeRoomForSample.connectors = a.connectors ∧ a.makeRoomForSample.meters = a.meters := by
  have fold (tokens : List Nat) (b : Actor) :
      (tokens.foldl abandonCall b).connectors = b.connectors ∧ (tokens.foldl abandonCall b).meters = b.meters := by
    induction tokens generalizing b with
    | nil => exact ⟨rfl, rfl⟩
    | cons token tokens ih =>
      have one : (b.abandonCall token).connectors = b.connectors ∧ (b.abandonCall token).meters = b.meters := by
        unfold abandonCall
        split <;> exact ⟨rfl, rfl⟩
      rw [List.foldl_cons]
      exact ⟨(ih _).1.trans one.1, (ih _).2.trans one.2⟩
  exact fold _ _

/-- The CALL of a sample is the last one. -/
theorem sendSample_sent (a : Actor) (talks : a.canTalk = true) (id : ConnectorId) (request : MeterValuesRequest)
    (reply : Option Reply) :
    (∃ call, (a.sendSample id request reply).calls.getLast? = some call ∧ call.request = .meterValues request) ∧
      (a.sendSample id request reply).connectors = a.connectors ∧
      (a.sendSample id request reply).meters = a.meters := by
  unfold sendSample
  dsimp only
  rw [a.call_of_canTalk talks]
  unfold accept
  dsimp only
  split
  · exact ⟨⟨_, List.getLast?_concat, rfl⟩, rfl, rfl⟩
  · exact ⟨⟨_, List.getLast?_concat, rfl⟩, rfl, rfl⟩

/-- The reading of a sample, and what it leaves of the meters. -/
theorem meterReading_sample (registers : Registers a) (physical : isStation id = false) {c : ConnectorSnapshot}
    (found : a.flushMeters.connectors.find? (fun c => c.id == id) = some c) :
    let base : Rat := ((a.flushMeters.meters.lookup id).map (·.sampleBaseWh)).getD c.meterWh
    (a.meterReading id true).2.energyWh = c.meterWh ∧
      (a.meterReading id true).2.intervalWh = max (c.meterWh - base) 0 ∧
      (a.meterReading id true).1.connectors = a.flushMeters.connectors ∧
      ∀ other, (a.meterReading id true).1.meters.lookup other = (a.flushMeters.meters.lookup other).map fun runtime =>
        if other = id then { runtime with sampleBaseWh := c.meterWh } else runtime := by
  have flushed := registers.flush
  have own : c.id = id := by simpa using List.find?_some found
  have read : (a.flushMeters.connectors.filter fun c => isStation id || c.id == id) = [c] := by
    rw [physical]
    simp only [Bool.false_or]
    rw [Metering.filter_key (fun c : ConnectorSnapshot => c.id) _ flushed.distinct, found]
    rfl
  unfold meterReading
  dsimp only
  rw [read]
  refine ⟨?_, ?_, rfl, fun other => ?_⟩
  · simp [addReading, connectorReading]
  · simp [addReading, connectorReading, own]
  · simp only [if_true]
    refine (congrArg (List.lookup other) (List.map_congr_left fun entry _ => ?_)).trans
      (Metering.lookup_map (fun key (runtime : MeterRuntime) =>
        if key = id then { runtime with sampleBaseWh := (c.meterWh : Rat) } else runtime) _ other)
    rw [List.find?_singleton, own]
    by_cases same : id = entry.1
    · simp [same]
    · simp [same, Ne.symm same]

/-- A sample reports the growth of the register since `base`, and the next one will count from here. -/
theorem Based.sample (h : Based a id base) (registers : Registers a) (steady : a.rebased id = false)
    (physical : isStation id = false) :
    (a.meterReading id true).2.intervalWh = (a.meterReading id true).2.energyWh - base := by
  obtain ⟨c, runtime, found, known, rfl, reached⟩ := h.flush registers steady
  obtain ⟨energy, interval, -, -⟩ := meterReading_sample registers physical found
  rw [interval, energy, known]
  exact max_eq_left (sub_nonneg.mpr reached)

theorem based_sample (registers : Registers a) (physical : isStation id = false) {c : ConnectorSnapshot}
    (found : a.connectors.find? (fun c => c.id == id) = some c) :
    Based (a.meterReading id true).1 id (a.meterReading id true).2.energyWh := by
  obtain ⟨⟨wh, found'⟩, runtime, known, -, -⟩ := flushMeters_meter registers found
  obtain ⟨energy, -, connectors, meters⟩ := meterReading_sample registers physical found'
  rw [energy]
  have advanced := meters id
  rw [known, Option.map_some, if_pos rfl] at advanced
  exact ⟨_, _, connectors ▸ found', advanced, rfl, le_rfl⟩

/-- A sample of another connector. -/
theorem Based.other (h : Based a id base) (registers : Registers a) (steady : a.rebased id = false)
    {other : ConnectorId} (physical : isStation other = false) (differs : id ≠ other) {c : ConnectorSnapshot}
    (found : a.connectors.find? (fun c => c.id == other) = some c) :
    Based (a.meterReading other true).1 id base := by
  obtain ⟨d, runtime, found', known, base', reached⟩ := h.flush registers steady
  obtain ⟨⟨wh, flushed⟩, -⟩ := flushMeters_meter registers found
  obtain ⟨-, -, connectors, meters⟩ := meterReading_sample registers physical flushed
  have kept := meters id
  rw [known, Option.map_some, if_neg differs] at kept
  exact ⟨d, runtime, connectors ▸ found', kept, base', reached⟩

theorem Registers.of_same (h : Registers a) {b : Actor} (connectors : b.connectors = a.connectors) : Registers b :=
  h.of_pairs (by rw [connectors])

theorem advanced_meters (a : Actor) (id : ConnectorId) (deltaWh : Nat) :
    (a.advanced id deltaWh).connectors =
        (a.flushMeters.withConnector id fun c => { c with meterWh := saturatingAdd c.meterWh deltaWh }).connectors ∧
      (a.advanced id deltaWh).meters = a.flushMeters.meters := by
  have meters := a.flushMeters.withConnector_meters id fun c => { c with meterWh := saturatingAdd c.meterWh deltaWh }
  unfold advanced
  dsimp only
  split
  · exact ⟨(markDirty_meters _).1, (markDirty_meters _).2.trans meters⟩
  · exact ⟨rfl, meters⟩

theorem advanced_canTalk (a : Actor) (id : ConnectorId) (deltaWh : Nat) :
    ((a.advanced id deltaWh).meterReading id true).1.canTalk = a.canTalk := by
  have reading (b : Actor) : (b.meterReading id true).1.canTalk = b.canTalk :=
    b.flushMeters_quiet.canTalk
  have adds (b : Actor) : (b.withConnector id fun c =>
      { c with meterWh := saturatingAdd c.meterWh deltaWh }).canTalk = b.canTalk := by
    unfold withConnector
    split <;> rfl
  rw [reading]
  unfold advanced
  dsimp only
  split
  · exact ((markDirty_quiet _).canTalk.trans (adds _)).trans a.flushMeters_quiet.canTalk
  · exact (adds _).trans a.flushMeters_quiet.canTalk

/-- `sample_meter`, when the sample can be sent: the reading is the last CALL. -/
theorem sampleMeter_sent (registers : Registers a) (able : a.sendable id = true) (context : ReadingContext) (deltaWh : Nat)
    (measurands : List Measurand) (reply : Option Reply) :
    let sample := (a.advanced id deltaWh).meterReading id true
    let b := a.sampleMeter id context deltaWh measurands reply
    b.connectors = sample.1.connectors ∧ b.meters = sample.1.meters ∧
      ∃ call tx timestamp, b.calls.getLast? = some call ∧
        call.request = .meterValues { connectorId := id, transactionId := tx
                                      meterValue := [{ timestamp, reading := sample.2, measurands, context }] } := by
  intro sample b
  obtain ⟨talks, sends⟩ := Bool.and_eq_true_iff.mp able
  obtain ⟨c, found, wired⟩ := (Option.any_eq_true _ _).mp sends
  have physical : isStation id = false := by
    cases zero : isStation id with
    | false => rfl
    | true =>
      unfold connector at found
      rw [if_pos zero] at found
      cases found
  have found' : a.connectors.find? (fun c => c.id == id) = some c := by
    unfold connector at found
    rwa [physical] at found
  obtain ⟨⟨wh, flushed⟩, -⟩ := flushMeters_meter registers found'
  have slot : a.flushMeters.findConnector id = some { c with meterWh := saturatingAdd c.meterWh wh } := by
    unfold findConnector
    rw [physical]
    exact flushed
  have talks' : sample.1.canTalk = true := (a.advanced_canTalk id deltaWh).trans talks
  have able' : (a.advanced id deltaWh).canTalk = true := by
    have same : sample.1.canTalk = (a.advanced id deltaWh).canTalk := (a.advanced id deltaWh).flushMeters_quiet.canTalk
    exact same.symm.trans talks'
  let request : MeterValuesRequest :=
    { connectorId := id, transactionId := c.txId.bind TxId.wire
      meterValue := [{ timestamp := sample.1.now, reading := sample.2, measurands, context }] }
  have sent : b = (if reply.isNone then sample.1.makeRoomForSample else sample.1).sendSample id request reply := by
    rcases a.sampleMeter_cases id context deltaWh measurands reply with ⟨missing, -⟩ | ⟨d, known, eq⟩
    · rw [slot] at missing
      cases missing
    · rw [slot] at known
      cases known
      have passes : ((a.advanced id deltaWh).canTalk &&
          !(ConnectorSnapshot.txId { c with meterWh := saturatingAdd c.meterWh wh }).any TxId.isLocal) = true :=
        Bool.and_eq_true_iff.mpr ⟨able', wired⟩
      refine eq.trans ?_
      dsimp only
      rw [if_pos passes]
      rfl
  rw [sent]
  split
  · have room := sample.1.makeRoomForSample_meters
    obtain ⟨⟨call, last, asks⟩, connectors, meters⟩ :=
      sendSample_sent sample.1.makeRoomForSample ((makeRoomForSample_canTalk _).trans talks') id request reply
    exact ⟨connectors.trans room.1, meters.trans room.2, call, _, _, last, asks⟩
  · obtain ⟨⟨call, last, asks⟩, connectors, meters⟩ := sendSample_sent sample.1 talks' id request reply
    exact ⟨connectors, meters, call, _, _, last, asks⟩

theorem Based.of_pairs (h : Based a id base) {b : Actor} (meters : b.meters = a.meters)
    (same : b.connectors.map (fun c => (c.id, c.meterWh)) = a.connectors.map fun c => (c.id, c.meterWh)) :
    Based b id base := by
  obtain ⟨c, runtime, found, known, rfl, reached⟩ := h
  have pairs (cs : List ConnectorSnapshot) : (cs.map fun c => (c.id, c.meterWh)).find? (fun pair => pair.1 == id) =
      (cs.find? fun c => c.id == id).map fun c => (c.id, c.meterWh) := Lists.find?_map_keeps (fun _ => rfl) cs
  have looked := congrArg (List.find? fun pair => pair.1 == id) same
  rw [pairs, pairs, found] at looked
  obtain ⟨d, found', equal⟩ := Option.map_eq_some_iff.mp looked
  have register : d.meterWh = c.meterWh := congrArg Prod.snd equal
  exact ⟨d, runtime, found', meters ▸ known, rfl, register ▸ reached⟩

/-- The register advances before a sample. -/
theorem Based.advanced (h : Based a id base) (registers : Registers a) (steady : a.rebased id = false)
    (other : ConnectorId) (deltaWh : Nat) :
    Based (a.advanced other deltaWh) id base ∧ (a.advanced other deltaWh).rebased id = false := by
  obtain ⟨connectors, meters⟩ := a.advanced_meters other deltaWh
  have meters' := a.flushMeters.withConnector_meters other fun c =>
    { c with meterWh := saturatingAdd c.meterWh deltaWh }
  refine ⟨((h.flush registers steady).add registers.flush other deltaWh).of_same connectors
    (meters.trans meters'.symm), Calm.rebased fun c runtime found known => ?_⟩
  rw [connectors] at found
  rw [meters, ← meters'] at known
  exact (calm_flush registers id).add other deltaWh c runtime found known

theorem Registers.advanced (h : Registers a) (id : ConnectorId) (deltaWh : Nat) :
    Registers (a.advanced id deltaWh) :=
  (h.flush.add id deltaWh).of_same (a.advanced_meters id deltaWh).1

/-- The connector whose sample can be sent, when its register has advanced. -/
theorem sendable_found (registers : Registers a) (able : a.sendable id = true) (deltaWh : Nat) :
    isStation id = false ∧ ∃ c, (a.advanced id deltaWh).connectors.find? (fun c => c.id == id) = some c := by
  obtain ⟨-, sends⟩ := Bool.and_eq_true_iff.mp able
  obtain ⟨c, found, -⟩ := (Option.any_eq_true _ _).mp sends
  unfold connector at found
  cases zero : isStation id with
  | true =>
    rw [if_pos zero] at found
    cases found
  | false =>
    rw [zero] at found
    obtain ⟨⟨wh, flushed⟩, -⟩ := flushMeters_meter registers found
    refine ⟨rfl, ?_⟩
    rw [(a.advanced_meters id deltaWh).1, withConnector_find, flushed]
    split <;> exact ⟨_, rfl⟩

end Actor

namespace Sampling

open Actor

/-- Every sample reports the growth of the register since the one before. -/
def Chained (taken : List MeterReading) : Prop :=
  taken.IsChain fun later earlier => later.intervalWh = later.energyWh - earlier.energyWh

theorem Chained.addsUp {taken : List MeterReading} (h : Chained taken) : AddsUp taken := by
  refine ⟨h, ?_⟩
  induction taken with
  | nil => exact fun latest first none => absurd none.symm (Option.some_ne_none _)
  | cons latest rest ih =>
    intro latest' first head last
    cases head
    cases rest with
    | nil =>
      cases last
      simp
    | cons earlier rest =>
      have tail := List.isChain_cons_cons.mp h
      rw [List.getLast?_cons_cons] at last
      have sum := ih tail.2 earlier first rfl last
      rw [List.dropLast_cons_cons, List.map_cons, List.sum_cons, sum, tail.1]
      ring

/-- What holds of every run. -/
structure Sound (s : Sampling) : Prop where
  registers : Registers s.actor
  idle : s.tx = none → s.taken = []
  /-- The next interval counts from the last sample. -/
  based : s.tx ≠ none → ∃ latest rest, s.taken = latest :: rest ∧ Based s.actor s.id latest.energyWh
  chained : ∀ taken ∈ s.taken :: s.closed, Chained taken

variable {s : Sampling}

theorem Registers.become {a : Actor} (h : Registers a) (m : MeterMove) : Registers (become a m) := by
  cases m with
  | other b =>
    unfold Sampling.become
    dsimp only
    split
    · rename_i same
      exact h.of_pairs (decide_eq_true_eq.mp (Bool.and_eq_true_iff.mp same).2)
    · exact h
  | addConnector => exact h.connectorAdded
  | settle => exact h.of_same rfl
  | flush => exact h.flush
  | add id deltaWh => exact h.flush.add id deltaWh
  | read id => exact h.flush.of_same rfl
  | sample id context deltaWh measurands reply =>
    unfold Sampling.become
    dsimp only
    split
    · rename_i able
      obtain ⟨connectors, -, -⟩ := sampleMeter_sent h able context deltaWh measurands reply
      exact (h.advanced id deltaWh).flush.of_same connectors
    · exact h

/-- A sample is one of its own connector. -/
theorem sampled_sent {a : Actor} (registers : Registers a) {other : ConnectorId} (able : a.sendable other = true)
    (context : ReadingContext) (deltaWh : Nat) (measurands : List Measurand) (reply : Option Reply)
    (id : ConnectorId) :
    ∃ tx, sampled a id (.sample other context deltaWh measurands reply) =
      if other = id then some (tx, ((a.advanced other deltaWh).meterReading other true).2) else none := by
  obtain ⟨-, -, call, tx, timestamp, last, asks⟩ :=
    sampleMeter_sent registers able context deltaWh measurands reply
  obtain ⟨token, generation, origin, request, continuation, attempts⟩ := call
  cases asks
  refine ⟨tx, ?_⟩
  unfold sampled sampleIn
  dsimp only
  rw [if_pos able, last]

/-- A new connector comes after those that are there. -/
theorem Based.connectorAdded {a : Actor} {id : ConnectorId} {base : Rat} (h : Based a id base) :
    Based a.connectorAdded id base := by
  obtain ⟨c, runtime, found, known, rfl, reached⟩ := h
  refine ⟨c, runtime, ?_, known, rfl, reached⟩
  unfold Actor.connectorAdded
  rw [List.find?_append, found]
  rfl

/-- What a sample of another connector, or no sample, leaves of the base. -/
theorem Based.become {a : Actor} {id : ConnectorId} {base : Rat} (h : Based a id base) (registers : Registers a)
    {m : MeterMove} (steady : settles a m = true → a.rebased id = false) (unsampled : sampled a id m = none) :
    Based (become a m) id base := by
  cases m with
  | other b =>
    unfold Sampling.become
    dsimp only
    split
    · rename_i same
      obtain ⟨meters, pairs⟩ := Bool.and_eq_true_iff.mp same
      exact h.of_pairs (decide_eq_true_eq.mp meters) (decide_eq_true_eq.mp pairs)
    · exact h
  | addConnector => exact Sampling.Based.connectorAdded h
  | settle => exact h.settle registers (steady rfl)
  | flush => exact h.flush registers (steady rfl)
  | add other deltaWh => exact (h.flush registers (steady rfl)).add registers.flush other deltaWh
  | read other => exact (h.flush registers (steady rfl)).of_same rfl rfl
  | sample other context deltaWh measurands reply =>
    cases able : a.sendable other with
    | false =>
      unfold Sampling.become
      dsimp only
      rw [able]
      exact h
    | true =>
      obtain ⟨connectors, meters, -⟩ := sampleMeter_sent registers able context deltaWh measurands reply
      obtain ⟨physical, c, found⟩ := sendable_found registers able deltaWh
      have differs : id ≠ other := by
        rintro rfl
        obtain ⟨tx, sample⟩ := sampled_sent registers able context deltaWh measurands reply id
        rw [if_pos rfl, unsampled] at sample
        cases sample
      obtain ⟨advanced, steady'⟩ := h.advanced registers (steady able) other deltaWh
      have sampled := advanced.other (registers.advanced other deltaWh) steady' physical differs found
      unfold Sampling.become
      dsimp only
      rw [able]
      exact sampled.of_same connectors meters

/-- A sample of connector `id` and its reading. -/
theorem sampled_some {a : Actor} (registers : Registers a) {id : ConnectorId} {m : MeterMove} {tx : Option Int}
    {reading : MeterReading} (sample : sampled a id m = some (tx, reading)) :
    Based (become a m) id reading.energyWh ∧
      ∀ base, Based a id base → (settles a m = true → a.rebased id = false) →
        reading.intervalWh = reading.energyWh - base := by
  cases m with
  | sample other context deltaWh measurands reply =>
    cases able : a.sendable other with
    | false => simp [sampled, able] at sample
    | true =>
      obtain ⟨tx', sent⟩ := sampled_sent registers able context deltaWh measurands reply id
      rw [sample] at sent
      have same : other = id := by
        by_contra differs
        rw [if_neg differs] at sent
        exact absurd sent (Option.some_ne_none _)
      rw [if_pos same] at sent
      have reads : reading = ((a.advanced other deltaWh).meterReading other true).2 :=
        congrArg Prod.snd (Option.some.inj sent)
      obtain ⟨connectors, meters, -⟩ := sampleMeter_sent registers able context deltaWh measurands reply
      obtain ⟨physical, c, found⟩ := sendable_found registers able deltaWh
      have advanced := registers.advanced other deltaWh
      rw [reads, ← same]
      constructor
      · unfold Sampling.become
        dsimp only
        rw [able]
        exact (based_sample advanced physical found).of_same connectors meters
      · intro base based steady
        obtain ⟨counts, steady'⟩ := based.advanced registers (steady able) other deltaWh
        exact counts.sample advanced steady' physical
  | other b => simp [sampled] at sample
  | addConnector => simp [sampled] at sample
  | settle => simp [sampled] at sample
  | flush => simp [sampled] at sample
  | add other deltaWh => simp [sampled] at sample
  | read other => simp [sampled] at sample

theorem Sound.move (h : Sound s) {m : MeterMove} (steady : s.resumes m = false) : Sound (s.move m) := by
  have registers := Registers.become h.registers m
  have steady' (runs : s.tx ≠ none) (settles : settles s.actor m = true) : s.actor.rebased s.id = false := by
    unfold resumes at steady
    rw [Option.isSome_iff_ne_none.mpr runs, settles] at steady
    exact steady
  have closes : ∀ taken ∈ ([] : List MeterReading) :: s.taken :: s.closed, Chained taken :=
    List.forall_mem_cons.mpr ⟨.nil, h.chained⟩
  unfold Sampling.move
  cases sample : sampled s.actor s.id m with
  | none =>
    unfold follow
    dsimp only
    split
    · refine ⟨registers, h.idle, fun runs => ?_, h.chained⟩
      obtain ⟨latest, rest, taken, based⟩ := h.based runs
      exact ⟨latest, rest, taken, Sampling.Based.become based h.registers (steady' runs) sample⟩
    · exact ⟨registers, fun _ => rfl, fun runs => absurd rfl runs, closes⟩
  | some taken =>
    obtain ⟨tx, reading⟩ := taken
    obtain ⟨based, interval⟩ := sampled_some h.registers sample
    unfold follow
    cases tx with
    | none => exact ⟨registers, fun _ => rfl, fun runs => absurd rfl runs, closes⟩
    | some tx =>
      dsimp only
      split
      · rename_i goes
        have runs : s.tx ≠ none := by
          rw [goes]
          exact Option.some_ne_none tx
        obtain ⟨latest, rest, taken, counts⟩ := h.based runs
        refine ⟨registers, fun idle => absurd idle runs, fun _ => ⟨reading, s.taken, rfl, based⟩, ?_⟩
        refine List.forall_mem_cons.mpr ⟨?_, (List.forall_mem_cons.mp h.chained).2⟩
        have chained := (List.forall_mem_cons.mp h.chained).1
        rw [taken] at chained ⊢
        exact List.isChain_cons_cons.mpr ⟨interval _ counts (steady' runs), chained⟩
      · refine ⟨registers, fun idle => absurd idle (Option.some_ne_none tx), fun _ => ⟨reading, [], rfl, based⟩, ?_⟩
        exact List.forall_mem_cons.mpr ⟨.singleton _, h.chained⟩

/-- **The intervals add up.** In a run in which no settlement moves the base of a connector while its sampled
transaction goes on, every sample reports the growth of the register since the sample before, and the samples of each
transaction add up to the growth since its first one. -/
theorem samples_add_up {a : Actor} (distinct : (a.connectors.map (·.id)).Nodup)
    (fits : ∀ c ∈ a.connectors, c.meterWh ≤ u64Max) (id : ConnectorId) (moves : List MeterMove)
    (steady : ∀ past m ahead, moves = past ++ m :: ahead → ((start a id).run past).resumes m = false) :
    ((start a id).run moves).Lawful := by
  have begins : Sound (start a id) :=
    ⟨⟨distinct, fits⟩, fun _ => rfl, fun runs => absurd rfl runs, List.forall_mem_singleton.mpr .nil⟩
  have sound (past ahead : List MeterMove) (split : moves = past ++ ahead) : Sound ((start a id).run past) := by
    induction past using List.reverseRecOn generalizing ahead with
    | nil => exact begins
    | append_singleton past m ih =>
      have split' : moves = past ++ m :: ahead := by rw [split, List.append_assoc]; rfl
      have ran : (start a id).run (past ++ [m]) = ((start a id).run past).move m := List.foldl_append
      rw [ran]
      exact (ih (m :: ahead) split').move (steady past m ahead split')
  exact fun taken mem => Chained.addsUp ((sound moves [] (List.append_nil _).symm).chained taken mem)

/-! ## Two samples of a transaction -/

/-- A connector that charges for the transaction 7. -/
def sampledStation : Actor :=
  (Actor.start { connectorCount := 1 } {} 1000000000000 0 none).replay 1000000000000 0
    [.command .connect 0, .connected 1 true none, .callDone 0 1 (.ok (.boot .accepted 0 0)), .command (.plugIn 1) 1,
      .command (.startTransaction 1 (.single 'A')) 2,
      .callDone 5 1 (.ok (.startTransaction 7 { status := .accepted }))]

def periodic : MeterMove := .sample 1 .samplePeriodic 0 [] none

/-- An hour later. -/
def anHourLater (a : Actor) : Actor := { a with mono := a.mono + 3600000000000, now := a.now + 3600000000000 }

/-- The EV suspends charging, or resumes it. -/
def showing (a : Actor) (status : ConnectorStatus) : Actor := a.withConnector 1 fun c => { c with status }

/-- Two samples with an hour between them. -/
def steadyHour : List MeterMove := [periodic, .other (anHourLater (become sampledStation periodic)), periodic]

theorem samples_add_up_hour : ((start sampledStation 1).run steadyHour).Lawful := by
  refine samples_add_up (a := sampledStation) (by decide +kernel) (by decide +kernel) 1 steadyHour ?_
  intro past m ahead split
  rcases past with _ | ⟨first, _ | ⟨second, _ | ⟨third, past⟩⟩⟩
  · cases split
    decide +kernel
  · cases split
    decide +kernel
  · cases split
    decide +kernel
  · simp [steadyHour] at split

/-- Two samples with an hour between them, after which the EV suspends charging and resumes it. -/
def suspendedHour : List MeterMove :=
  let charged := (anHourLater (become sampledStation periodic)).settleMeters
  let paused := (showing charged .suspendedEV).settleMeters
  [periodic, .other (anHourLater (become sampledStation periodic)), .settle, .other (showing charged .suspendedEV),
    .settle, .other (showing paused .charging), .settle, periodic]

/-- The register has grown by 7200 Wh, and the interval of the second sample is 0. -/
theorem resumed_interval_lost :
    ¬∀ (a : Actor) (id : ConnectorId) (moves : List MeterMove), (a.connectors.map (·.id)).Nodup →
      (∀ c ∈ a.connectors, c.meterWh ≤ u64Max) → ((start a id).run moves).Lawful := by
  intro claimed
  have lawful := claimed sampledStation 1 suspendedHour (by decide +kernel) (by decide +kernel)
  have readings : ((start sampledStation 1).run suspendedHour).taken.map (fun r => (r.energyWh, r.intervalWh)) =
      [(7200, 0), (0, 0)] := by decide +kernel
  have adds := (lawful _ List.mem_cons_self).interval
  generalize ((start sampledStation 1).run suspendedHour).taken = taken at readings adds
  match taken with
  | [second, first] =>
    have interval := (List.isChain_cons_cons.mp adds).1
    simp only [List.map_cons, List.map_nil, List.cons.injEq, Prod.mk.injEq] at readings
    rw [readings.1.1, readings.1.2, readings.2.1.1] at interval
    norm_num at interval
  | [] => simp at readings
  | [_] => simp at readings
  | _ :: _ :: _ :: _ => simp at readings

end Sampling

end KirbyOcpp
