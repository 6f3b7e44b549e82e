import KirbyOcpp.Laws.SmartCharging.Energy
import KirbyOcpp.Laws.Station.Metering
import KirbyOcpp.Ledger.Walks

/-!
# The meters keep their books

Every operation that a sample reaches is a path of the books of `Metering`: it settles and flushes, or it
does not touch the meters.

**The law** `readings_conserve`: whatever is settled, flushed, read, sampled and done to the statuses,
the energy is conserved.
-/

namespace KirbyOcpp

open Relation

namespace Actor

/-- What the books keep of the integration state. -/
def meterOf (runtime : MeterRuntime) : Meter :=
  { last := runtime.last, charging := runtime.charging, pendingWh := runtime.pendingWh
    carryWh := runtime.carryWh }

/-- The books of the meters. -/
def metering (a : Actor) (added : List (ConnectorId × Nat)) : Metering :=
  { mono := a.mono
    registers := a.connectors.map fun c => (c.id, c.meterWh)
    meters := a.meters.map fun entry => (entry.1, meterOf entry.2)
    settlements := a.settlements, added }

end Actor

/-- `b` follows from `a` by settlements and flushes. -/
def Metered (a b : Actor) : Prop :=
  ∀ added, ReflTransGen Metering.Trans (a.metering added) (b.metering added)

namespace Metered

variable {a b c : Actor}

/-- Nothing happens to the books. -/
theorem refl : Metered a a := fun _ => .refl

/-- Paths of the books follow each other. -/
theorem trans (first : Metered a b) (second : Metered b c) : Metered a c :=
  fun added => (first added).trans (second added)

/-- The meters do not notice. -/
theorem of_same (h : ∀ added, b.metering added = a.metering added) : Metered a b := by
  intro added
  rw [h added]

end Metered

namespace Actor

/-! ## Settlements and flushes -/

private theorem lookup_meterOf (meters : List (ConnectorId × MeterRuntime)) (id : ConnectorId) :
    (meters.map fun entry => (entry.1, meterOf entry.2)).lookup id = (meters.lookup id).map meterOf := by
  induction meters with
  | nil => rfl
  | cons entry rest ih =>
    obtain ⟨key, runtime⟩ := entry
    rw [List.map_cons, Metering.lookup_cons_eq, Metering.lookup_cons_eq, ih]
    split <;> rfl

/-- What a settlement reads of connector `c`. -/
def readingOf (a : Actor) (c : ConnectorSnapshot) : Metering.Reading :=
  { id := c.id, charging := decide (c.status = .charging)
    energyWh := (a.meters.lookup c.id).bind (a.spanEnergy c.id) }

private theorem spanEnergy_some {a : Actor} {id : ConnectorId} {runtime : MeterRuntime} {energy : Rat}
    (h : a.spanEnergy id runtime = some energy) : 0 ≤ energy ∧ runtime.charging = true := by
  unfold spanEnergy at h
  dsimp only at h
  split at h
  · rename_i spans
    simp only [Bool.and_eq_true, decide_eq_true_eq] at spans
    obtain ⟨charging, nonzero⟩ := spans
    obtain rfl := Option.some.inj h
    have elapsed : 0 < max (a.mono - runtime.last) 0 := lt_of_le_of_ne (le_max_right _ _) (Ne.symm nonzero)
    have later : runtime.lastUtc < runtime.lastUtc + max (a.mono - runtime.last) 0 :=
      lt_add_of_pos_right _ elapsed
    exact ⟨(energyWh_bounds later (PowerModel.fromConfig_nominal _ _ _)).1, charging⟩
  · cases h

private theorem settleMeters_metering (a : Actor) (added : List (ConnectorId × Nat)) :
    a.settleMeters.metering added = (a.metering added).settle (a.connectors.map a.readingOf) := by
  have meters (cs : List ConnectorSnapshot) (map : List (ConnectorId × MeterRuntime)) :
      ((cs.foldl (fun meters c => insertAt c.id (a.settledRuntime c) meters) map).map fun entry =>
        (entry.1, meterOf entry.2)) =
        (cs.map a.readingOf).foldl
          (fun meters r => insertAt r.id ((a.metering added).settledMeter r) meters)
          (map.map fun entry => (entry.1, meterOf entry.2)) := by
    induction cs generalizing map with
    | nil => rfl
    | cons c cs ih =>
      rw [List.foldl_cons, List.map_cons, List.foldl_cons, ih]
      congr 1
      unfold insertAt
      rw [List.map_cons, List.filter_map]
      refine congrArg₂ _ (congrArg (Prod.mk c.id) ?_) rfl
      unfold settledRuntime Metering.settledMeter
      dsimp only [metering, readingOf]
      rw [lookup_meterOf]
      cases a.meters.lookup c.id <;> rfl
  have settlements : a.connectors.map a.settlementOf =
      (a.connectors.map a.readingOf).map (a.metering added).settlement := by
    rw [List.map_map]
    refine List.map_congr_left fun c _ => ?_
    unfold settlementOf Metering.settlement
    dsimp only [metering, readingOf, Function.comp_apply]
    rw [lookup_meterOf]
    cases a.meters.lookup c.id <;> rfl
  unfold settleMeters Metering.settle
  dsimp only [metering] at meters settlements ⊢
  rw [meters, settlements]

private theorem settleMeters_metered (a : Actor) : Metered a a.settleMeters := by
  intro added
  rw [settleMeters_metering]
  refine .single (.settle _ _ ?_ ?_)
  · change _ = (a.connectors.map _).map _
    rw [List.map_map, List.map_map]
    rfl
  · intro r mem energy spans
    obtain ⟨c, -, rfl⟩ := List.mem_map.mp mem
    obtain ⟨runtime, found, integrated⟩ := Option.bind_eq_some_iff.mp spans
    obtain ⟨nonneg, charging⟩ := spanEnergy_some integrated
    refine ⟨nonneg, meterOf runtime, ?_, charging⟩
    change List.lookup c.id (a.meters.map _) = _
    rw [lookup_meterOf, found]
    rfl

/-- The books see the gauges only. -/
private theorem metering_congr {a b : Actor} (same : b.gauges = a.gauges) (added : List (ConnectorId × Nat)) :
    b.metering added = a.metering added := by
  have mono : b.mono = a.mono := congrArg Gauges.mono same
  have meters : b.meters = a.meters := congrArg Gauges.meters same
  have registers : b.registers = a.registers := congrArg Gauges.registers same
  have settlements : b.settlements = a.settlements := congrArg Gauges.settlements same
  unfold Actor.registers at registers
  unfold metering
  rw [mono, meters, registers, settlements]

private theorem markDirty_metering (a : Actor) (added : List (ConnectorId × Nat)) :
    a.markDirty.metering added = a.metering added := by
  refine metering_congr ?_ added
  unfold markDirty setTimerIfIdle
  repeat' split
  all_goals rfl

private theorem flushMeters_metering (a : Actor) (added : List (ConnectorId × Nat)) :
    a.flushMeters.metering added = (a.settleMeters.metering added).flush := by
  have whole (c : ConnectorSnapshot) : (flushedWh a.settleMeters.meters c).getD 0 =
      (a.settleMeters.metering added).wholeWh c.id := by
    unfold flushedWh Metering.wholeWh
    dsimp only [metering]
    rw [lookup_meterOf]
    cases a.settleMeters.meters.lookup c.id with
    | none => rfl
    | some runtime =>
      by_cases empty : runtime.pendingWh ≤ 0
      · simp [meterOf, empty]
      · simp [meterOf, empty]
  have flushed (runtime : MeterRuntime) :
      meterOf (flushedRuntime runtime) = Metering.flushedMeter (meterOf runtime) := by
    unfold flushedRuntime Metering.flushedMeter
    by_cases empty : runtime.pendingWh ≤ 0
    · simp [meterOf, empty]
    · simp [meterOf, empty]
  have books : ({ a.settleMeters with
      connectors := a.settleMeters.connectors.map fun c =>
        { c with meterWh := saturatingAdd c.meterWh ((flushedWh a.settleMeters.meters c).getD 0) }
      meters := a.settleMeters.meters.map fun entry =>
        (entry.1, if a.settleMeters.connectors.any fun c => c.id == entry.1 then flushedRuntime entry.2
          else entry.2) } : Actor).metering added = (a.settleMeters.metering added).flush := by
    unfold Metering.flush
    simp only [metering, List.map_map, Metering.mk.injEq, true_and, and_true]
    refine ⟨List.map_congr_left fun c _ => ?_, List.map_congr_left fun entry _ => ?_⟩
    · simp only [Function.comp_apply]
      rw [whole c]
      rfl
    · simp only [Function.comp_apply, List.any_map, Function.comp_def]
      rw [← flushed]
      split <;> rfl
  unfold flushMeters
  dsimp only
  split
  · rw [markDirty_metering]
    exact books
  · exact books

private theorem flushMeters_metered (a : Actor) : Metered a a.flushMeters := by
  refine a.settleMeters_metered.trans fun added => ?_
  rw [flushMeters_metering]
  exact .single (.flush _)

private theorem meterReading_metered (a : Actor) (id : ConnectorId) (advanceInterval : Bool) :
    Metered a (a.meterReading id advanceInterval).1 := by
  refine a.flushMeters_metered.trans (.of_same fun added => ?_)
  unfold meterReading
  dsimp only
  split
  · unfold metering
    dsimp only
    rw [List.map_map]
    congr 1
    refine List.map_congr_left fun entry _ => ?_
    simp only [Function.comp_apply]
    split <;> rfl
  · rfl

end Actor

/-- The books of a walk. -/
theorem Walk.metered {a b : Actor} (walk : Walk .handling a b) : Metered a b := by
  induction walk with
  | refl => exact .refl
  | tail _ move ih =>
    refine ih.trans ?_
    cases move with
    | other same => exact .of_same (Actor.metering_congr (congrArg Prod.fst same))
    | settle => exact Actor.settleMeters_metered _
    | flush => exact Actor.flushMeters_metered _

namespace Actor

/-! ## Samples -/

/-- An addition to a register that no connector has is only noted. -/
private theorem metering_add_missing {b : Actor} {id : ConnectorId} (missing : ∀ c ∈ b.connectors, c.id ≠ id)
    (deltaWh : Nat) (added : List (ConnectorId × Nat)) :
    (b.metering added).add id deltaWh = b.metering ((id, deltaWh) :: added) := by
  unfold metering Metering.add
  dsimp only
  congr 1
  rw [List.map_map]
  refine List.map_congr_left fun c mem => ?_
  simp [missing c mem]

/-- What is added to a register by hand. The station itself has none. -/
private theorem add_metering {b : Actor} (numbered : ∀ c ∈ b.connectors, isStation c.id = false) (id : ConnectorId)
    (deltaWh : Nat) (added : List (ConnectorId × Nat)) :
    (b.withConnector id fun c => { c with meterWh := saturatingAdd c.meterWh deltaWh }).metering
      ((id, deltaWh) :: added) = (b.metering added).add id deltaWh := by
  unfold withConnector
  split
  · rename_i zero
    refine (metering_add_missing (fun c mem same => ?_) deltaWh added).symm
    have physical := numbered c mem
    rw [same, zero] at physical
    cases physical
  · unfold metering Metering.add updateConnector
    dsimp only
    rw [List.map_map, List.map_map]
    congr 1
    refine List.map_congr_left fun c _ => ?_
    simp only [Function.comp_apply]
    split <;> rfl

/-- A sample adds to one register, if the connector is there, between settlements and flushes. -/
private theorem sampleMeter_books (a : Actor) (id : ConnectorId) (context : ReadingContext) (deltaWh : Nat)
    (measurands : List Measurand) (reply : Option Reply) (added : List (ConnectorId × Nat))
    (numbered : ∀ c ∈ a.connectors, isStation c.id = false) :
    ReflTransGen Metering.Trans (a.metering added)
      ((a.sampleMeter id context deltaWh measurands reply).metering ((id, deltaWh) :: added)) := by
  have ids : ∀ c ∈ a.flushMeters.connectors, isStation c.id = false := by
    intro c mem
    obtain ⟨d, old, mild⟩ := Lists.exists_of_forall₂_right a.flushMeters_quiet.frame.connectors mem
    rw [mild.id]
    exact numbered d old
  refine (a.flushMeters_metered added).trans ?_
  have cases' := a.sampleMeter_cases id context deltaWh measurands reply
  unfold Actor.advanced at cases'
  generalize a.flushMeters = b at ids cases'
  -- The books see the sample whether or not the connector is there.
  refine (ReflTransGen.single (.add _ id deltaWh)).trans ?_
  rcases cases' with ⟨missing, eq⟩ | ⟨c, -, eq⟩
  · have absent : ∀ c ∈ b.connectors, c.id ≠ id := by
      rintro c mem rfl
      unfold findConnector at missing
      rw [if_neg (by simp [ids c mem])] at missing
      have := List.find?_eq_none.mp missing c mem
      simp at this
    rw [eq, metering_add_missing absent]
    exact (replyIf_walk _ _ _).metered _
  · rw [eq, ← add_metering ids]
    dsimp only
    generalize (b.withConnector id fun c => { c with meterWh := saturatingAdd c.meterWh deltaWh }) = d
    have marked : Metered d (if 0 < deltaWh then d.markDirty else d) := by
      split
      · exact (markDirty_walk d).metered
      · exact .refl
    refine (marked _).trans ?_
    generalize (if 0 < deltaWh then d.markDirty else d) = e
    split
    · refine (meterReading_metered e id true _).trans ?_
      generalize e.meterReading id true = reading
      split
      · exact ((makeRoomForSample_walk reading.1).trans (sendSample_walk _ _ _ _)).metered _
      · exact (sendSample_walk _ _ _ _).metered _
    · exact ((replyIf_walk _ _ _).trans (checkEnergyLimit_walk _ _)).metered _

/-! ## Sequences of operations on the meters -/

/-- What may be done to the meters, and to what they depend on. -/
inductive MeterOp where
  /-- Time passes: both clocks move on. -/
  | wait (nanoseconds : Nat) (now : Instant)
  | status (id : ConnectorId) (status : ConnectorStatus)
  | settle
  | flush
  | read (id : ConnectorId) (advanceInterval : Bool)
  | sample (id : ConnectorId) (context : ReadingContext) (deltaWh : Nat) (measurands : List Measurand)
      (reply : Option Reply)

def meterOp (a : Actor) : MeterOp → Actor
  | .wait nanoseconds now => { a with mono := a.mono + nanoseconds, now }
  | .status id status => a.withConnector id fun c => { c with status }
  | .settle => a.settleMeters
  | .flush => a.flushMeters
  | .read id advanceInterval => (a.meterReading id advanceInterval).1
  | .sample id context deltaWh measurands reply => a.sampleMeter id context deltaWh measurands reply

def meterOps (a : Actor) (ops : List MeterOp) : Actor := ops.foldl meterOp a

/-- What an operation adds by hand. -/
def addTo (added : List (ConnectorId × Nat)) : MeterOp → List (ConnectorId × Nat)
  | .sample id _ deltaWh _ _ => (id, deltaWh) :: added
  | _ => added

/-- What the operations add by hand, latest first. -/
def addedBy (ops : List MeterOp) : List (ConnectorId × Nat) := ops.foldl addTo []

/-- One operation is a path of the books. -/
theorem meterOp_books (a : Actor) (op : MeterOp) (added : List (ConnectorId × Nat))
    (numbered : ∀ c ∈ a.connectors, isStation c.id = false) :
    ReflTransGen Metering.Trans (a.metering added) ((a.meterOp op).metering (addTo added op)) := by
  cases op with
  | wait nanoseconds now =>
    have later : a.mono ≤ a.mono + nanoseconds := Int.le_add_of_nonneg_right (Int.natCast_nonneg _)
    exact .single (.wait _ _ later)
  | status id status =>
    have changed : Walk .handling a (a.withConnector id fun c => { c with status }) :=
      withConnector_walk a id fun c => ⟨rfl, rfl⟩
    exact changed.metered added
  | settle => exact a.settleMeters_metered added
  | flush => exact a.flushMeters_metered added
  | read id advanceInterval => exact a.meterReading_metered id advanceInterval added
  | sample id context deltaWh measurands reply =>
    exact a.sampleMeter_books id context deltaWh measurands reply added numbered

/-- The ids of connectors with the same numbers. -/
theorem numbered_of_ids {a b : Actor} (same : b.connectors.map (·.id) = a.connectors.map (·.id))
    (numbered : ∀ c ∈ a.connectors, isStation c.id = false) :
    ∀ c ∈ b.connectors, isStation c.id = false := by
  intro c mem
  have known : c.id ∈ a.connectors.map (·.id) := same ▸ List.mem_map_of_mem mem
  obtain ⟨d, old, eq⟩ := List.mem_map.mp known
  rw [← eq]
  exact numbered d old

/-- The books have a register for each connector. -/
theorem registers_ids (a : Actor) (added : List (ConnectorId × Nat)) :
    (a.metering added).registers.map (·.1) = a.connectors.map (·.id) := by
  unfold metering
  rw [List.map_map]
  rfl

/-- The connectors of the books stay the same. -/
theorem path_ids {m m' : Metering} (path : ReflTransGen Metering.Trans m m') :
    m'.registers.map (·.1) = m.registers.map (·.1) := by
  induction path with
  | refl => rfl
  | tail _ step ih => exact step.ids.trans ih

private theorem meterOps_books (a : Actor) (ops : List MeterOp) (added : List (ConnectorId × Nat))
    (numbered : ∀ c ∈ a.connectors, isStation c.id = false) :
    ReflTransGen Metering.Trans (a.metering added)
      ((a.meterOps ops).metering (ops.foldl addTo added)) := by
  induction ops generalizing a added with
  | nil => exact .refl
  | cons op ops ih =>
    have step := a.meterOp_books op added numbered
    refine step.trans (ih (a.meterOp op) (addTo added op) (numbered_of_ids ?_ numbered))
    have ids := path_ids step
    rw [registers_ids, registers_ids] at ids
    exact ids

/-- The register of `id`. -/
def registerOf (a : Actor) (id : ConnectorId) : Nat :=
  ((a.connectors.find? fun c => c.id == id).map (·.meterWh)).getD 0

private theorem registerOf_mem {a : Actor} (distinct : (a.connectors.map (·.id)).Nodup) {c : ConnectorSnapshot}
    (mem : c ∈ a.connectors) : a.registerOf c.id = c.meterWh := by
  have found : (a.connectors.find? fun d => d.id == c.id) = some c := by
    cases found : a.connectors.find? fun d => d.id == c.id with
    | none =>
      have := List.find?_eq_none.mp found c mem
      simp at this
    | some d =>
      have same : d.id = c.id := by simpa using List.find?_some found
      exact congrArg some (Lists.eq_of_nodup_map distinct (List.mem_of_find?_eq_some found) mem same)
  rw [registerOf, found]
  rfl

/-- An actor that has not settled anything yet. -/
private theorem lawful_start (a : Actor) (distinct : (a.connectors.map (·.id)).Nodup) (unread : a.meters = [])
    (unsettled : a.settlements = []) : Metering.Lawful a.registerOf (a.metering []) := by
  have meters : (a.metering []).meters = [] := by simp [metering, unread]
  have settlements : (a.metering []).settlements = [] := unsettled
  refine { ids := ?_, pending := ?_, carry := ?_, past := ?_, latest := ?_, chained := ?_, spent := ?_
           balance := ?_ }
  · rw [registers_ids]
    exact distinct
  · intro id
    simp [Metering.pendingWh, meters]
  · intro id
    simp [Metering.carryWh, meters]
  · intro id meter known
    rw [meters] at known
    cases known
  · intro id
    rw [meters, settlements]
    rfl
  · intro id
    rw [settlements]
    trivial
  · intro id
    rw [settlements]
    exact le_refl 0
  · intro id wh mem _
    obtain ⟨c, known, eq⟩ := List.mem_map.mp mem
    obtain ⟨rfl, rfl⟩ := Prod.mk.inj eq
    rw [Metering.total, settlements, registerOf_mem distinct known]
    have none' : (a.metering []).added = [] := rfl
    simp [Metering.carryWh, Metering.pendingWh, Metering.energyOf, Metering.spansOf, Metering.addedTo, meters,
      none']

/-- The fraction of a Wh that the last flush left for `id`. -/
def carryOf (a : Actor) (id : ConnectorId) : Rat := ((a.meters.lookup id).map (·.carryWh)).getD 0

/-- The energy of `id` that no flush has taken yet. -/
def pendingOf (a : Actor) (id : ConnectorId) : Rat := ((a.meters.lookup id).map (·.pendingWh)).getD 0

private theorem carryOf_metering (a : Actor) (id : ConnectorId) (added : List (ConnectorId × Nat)) :
    (a.metering added).carryWh id = a.carryOf id := by
  unfold Metering.carryWh metering carryOf
  rw [lookup_meterOf, Option.map_map]
  rfl

private theorem pendingOf_metering (a : Actor) (id : ConnectorId) (added : List (ConnectorId × Nat)) :
    (a.metering added).pendingWh id = a.pendingOf id := by
  unfold Metering.pendingWh metering pendingOf
  rw [lookup_meterOf, Option.map_map]
  rfl

private theorem path_lawful {start : ConnectorId → Nat} {m m' : Metering}
    (path : ReflTransGen Metering.Trans m m') (h : m.Lawful start) : m'.Lawful start := by
  induction path with
  | refl => exact h
  | tail _ step ih => exact ih.trans step

private theorem path_grown {m m' : Metering} (path : ReflTransGen Metering.Trans m m') :
    List.Forall₂ Metering.Grown m.registers m'.registers := by
  induction path with
  | refl => exact List.forall₂_same.mpr fun r _ => .refl r
  | tail _ step ih => exact Lists.forall₂_trans (fun first second => first.trans second) ih step.grown

/-- Registers only grow between two points of a sequence of operations. -/
private theorem registers_grow {a b : Actor} {added added' : List (ConnectorId × Nat)}
    (path : ReflTransGen Metering.Trans (a.metering added) (b.metering added'))
    (distinct : (a.connectors.map (·.id)).Nodup) {c d : ConnectorSnapshot} (mem : c ∈ a.connectors)
    (mem' : d ∈ b.connectors) (same : d.id = c.id) (fits : c.meterWh ≤ u64Max) :
    c.meterWh ≤ d.meterWh ∧ d.meterWh ≤ u64Max := by
  have register : (d.id, d.meterWh) ∈ (b.metering added').registers :=
    List.mem_map.mpr ⟨d, mem', rfl⟩
  obtain ⟨r, old, grown⟩ := Lists.exists_of_forall₂_right (path_grown path) register
  obtain ⟨c', known, rfl⟩ := List.mem_map.mp old
  have ids : c'.id = c.id := grown.1.symm.trans same
  obtain rfl := Lists.eq_of_nodup_map distinct known mem ids
  exact grown.2 fits

end Actor

open Actor Metering

/-- **Energy is conserved.** After any sequence of operations on an actor that has not settled anything
yet, each register with what is on the way to it amounts to the initial register, the energy of the spans
of the connector, and what was added by hand; the fraction on the way stays below 1 Wh; the register is at
least what it was at any earlier point; and the spans follow each other, integrated only where the
connector was charging when they began. -/
theorem readings_conserve {a : Actor} (distinct : (a.connectors.map (·.id)).Nodup)
    (numbered : ∀ c ∈ a.connectors, isStation c.id = false) (unread : a.meters = [])
    (unsettled : a.settlements = []) (ops : List MeterOp) {c₀ : ConnectorSnapshot}
    (mem : c₀ ∈ a.connectors)
    (small : (c₀.meterWh : Rat) + energyOf (a.meterOps ops).settlements c₀.id +
      addedTo (addedBy ops) c₀.id < 2 ^ 64) :
    ∃ c ∈ (a.meterOps ops).connectors, c.id = c₀.id ∧
      (c.meterWh : Rat) + (a.meterOps ops).carryOf c₀.id + (a.meterOps ops).pendingOf c₀.id =
        c₀.meterWh + energyOf (a.meterOps ops).settlements c₀.id + addedTo (addedBy ops) c₀.id ∧
      (0 ≤ (a.meterOps ops).carryOf c₀.id ∧ (a.meterOps ops).carryOf c₀.id < 1) ∧
      (∀ earlier, earlier <+: ops → ∀ d ∈ (a.meterOps earlier).connectors, d.id = c₀.id →
        d.meterWh ≤ c.meterWh) ∧
      Chained (spansOf (a.meterOps ops).settlements c₀.id) := by
  have path : ReflTransGen Metering.Trans (a.metering []) ((a.meterOps ops).metering (addedBy ops)) :=
    a.meterOps_books ops [] numbered
  have lawful := path_lawful path (lawful_start a distinct unread unsettled)
  have ids : (a.meterOps ops).connectors.map (·.id) = a.connectors.map (·.id) := by
    have same := path_ids path
    rwa [registers_ids, registers_ids] at same
  obtain ⟨c, mem', same⟩ : ∃ c ∈ (a.meterOps ops).connectors, c.id = c₀.id := by
    have known : c₀.id ∈ (a.meterOps ops).connectors.map (·.id) := ids ▸ List.mem_map_of_mem mem
    exact List.mem_map.mp known
  have start : a.registerOf c₀.id = c₀.meterWh := registerOf_mem distinct mem
  have amounts : total a.registerOf ((a.meterOps ops).metering (addedBy ops)) c₀.id =
      c₀.meterWh + energyOf (a.meterOps ops).settlements c₀.id + addedTo (addedBy ops) c₀.id := by
    rw [total, start]
    rfl
  have register : (c₀.id, c.meterWh) ∈ ((a.meterOps ops).metering (addedBy ops)).registers :=
    List.mem_map.mpr ⟨c, mem', by rw [same]⟩
  have balance := lawful.balance c₀.id c.meterWh register (amounts ▸ small)
  have carry := lawful.carry c₀.id
  rw [carryOf_metering] at balance carry
  rw [pendingOf_metering, amounts] at balance
  refine ⟨c, mem', same, balance, carry, fun earlier isPrefix d known sameId => ?_, lawful.chained c₀.id⟩
  obtain ⟨later, rfl⟩ := isPrefix
  have fits₀ : c₀.meterWh ≤ u64Max := by
    have spent := lawful.spent c₀.id
    have below : (c₀.meterWh : Rat) < 2 ^ 64 := by
      have nonneg : (0 : Rat) ≤ addedTo (addedBy (earlier ++ later)) c₀.id := Nat.cast_nonneg _
      change 0 ≤ energyOf (a.meterOps (earlier ++ later)).settlements c₀.id at spent
      linarith
    have : c₀.meterWh < 2 ^ 64 := by exact_mod_cast below
    unfold u64Max
    omega
  have first := a.meterOps_books earlier [] numbered
  have ids' : (a.meterOps earlier).connectors.map (·.id) = a.connectors.map (·.id) := by
    have same := path_ids first
    rwa [registers_ids, registers_ids] at same
  have fits : d.meterWh ≤ u64Max := (registers_grow first distinct mem known sameId fits₀).2
  have rest := (a.meterOps earlier).meterOps_books later (addedBy earlier) (numbered_of_ids ids' numbered)
  have joined : (a.meterOps earlier).meterOps later = a.meterOps (earlier ++ later) :=
    List.foldl_append.symm
  rw [joined] at rest
  exact (registers_grow rest (ids' ▸ distinct) known mem' (same.trans sameId.symm) fits).1

/-! ### An hour of charging -/

/-- A station with one connector, before its first settlement. -/
def unsettled : Actor := .fresh { connectorCount := 1 } {} 1000000000000 0

/-- The connector charges for an hour; 5 Wh are added by hand. -/
def chargingHour : List MeterOp :=
  [.settle, .status 1 .charging, .settle, .wait 3600000000000 1003600000000000, .flush,
    .status 1 .finishing, .sample 1 .samplePeriodic 5 [] none]

theorem readings_conserve_hour :
    ∃ c ∈ (unsettled.meterOps chargingHour).connectors, c.id = 1 ∧
      (c.meterWh : Rat) + (unsettled.meterOps chargingHour).carryOf 1 +
          (unsettled.meterOps chargingHour).pendingOf 1 =
        (0 : Nat) + energyOf (unsettled.meterOps chargingHour).settlements 1 +
          addedTo (addedBy chargingHour) 1 ∧
      (0 ≤ (unsettled.meterOps chargingHour).carryOf 1 ∧ (unsettled.meterOps chargingHour).carryOf 1 < 1) ∧
      (∀ earlier, earlier <+: chargingHour → ∀ d ∈ (unsettled.meterOps earlier).connectors, d.id = 1 →
        d.meterWh ≤ c.meterWh) ∧
      Chained (spansOf (unsettled.meterOps chargingHour).settlements 1) :=
  @readings_conserve unsettled (by decide) (by decide) rfl rfl chargingHour (newConnector 1) (by decide)
    (by decide +kernel)

end KirbyOcpp
