import KirbyOcpp.Data.Lists
import KirbyOcpp.Station.Calls

/-!
# The books of the meters

What the meters of the connectors amount to: the registers, the energy that is integrated and not yet in
a register (`pendingWh`, and the fraction `carryWh` that a flush leaves behind), the settlements so far
and what was added by hand. Four things happen to them: time passes, a settlement ends a span of every
connector, a flush moves whole Wh into the registers, and a register is advanced.

**The law** `Lawful`: for every connector the register and what is on the way to it amount to the initial
register, the energy of its spans and what was added; the spans of a connector follow each other without
a gap, and one is integrated only if the connector was charging when it began.
-/

namespace KirbyOcpp

/-- The integration state of one connector. -/
structure Meter where
  last : Int
  charging : Bool
  pendingWh : Rat
  carryWh : Rat

structure Metering where
  mono : Int
  registers : List (ConnectorId × Nat)
  meters : List (ConnectorId × Meter)
  /-- The settlements, latest first. -/
  settlements : List Settlement
  /-- What was added to the registers by hand, latest first. -/
  added : List (ConnectorId × Nat)

namespace Metering

/-! ## What happens -/

/-- What a settlement reads of one connector. -/
structure Reading where
  id : ConnectorId
  charging : Bool
  energyWh : Option Rat

def settledMeter (m : Metering) (r : Reading) : Meter :=
  match m.meters.lookup r.id with
  | none => { last := m.mono, charging := r.charging, pendingWh := 0, carryWh := 0 }
  | some meter =>
    { last := m.mono, charging := r.charging, pendingWh := meter.pendingWh + r.energyWh.getD 0
      carryWh := meter.carryWh }

def settlement (m : Metering) (r : Reading) : Settlement :=
  { connector := r.id, since := (m.meters.lookup r.id).map (·.last), «until» := m.mono
    energyWh := r.energyWh, charging := r.charging }

def settle (m : Metering) (readings : List Reading) : Metering :=
  { m with
    meters := readings.foldl (fun meters r => insertAt r.id (m.settledMeter r) meters) m.meters
    settlements := readings.map m.settlement ++ m.settlements }

/-- Whole Wh on the way to the register of `id`. -/
def wholeWh (m : Metering) (id : ConnectorId) : Nat :=
  ((m.meters.lookup id).map fun meter =>
    if meter.pendingWh ≤ 0 then 0 else ⌊meter.carryWh + meter.pendingWh⌋.toNat).getD 0

def flushedMeter (meter : Meter) : Meter :=
  if meter.pendingWh ≤ 0 then meter
  else
    { meter with
      pendingWh := 0
      carryWh := meter.carryWh + meter.pendingWh - ⌊meter.carryWh + meter.pendingWh⌋ }

def flush (m : Metering) : Metering :=
  { m with
    registers := m.registers.map fun entry => (entry.1, Actor.saturatingAdd entry.2 (m.wholeWh entry.1))
    meters := m.meters.map fun entry =>
      (entry.1, if m.registers.any fun register => register.1 == entry.1 then flushedMeter entry.2
        else entry.2) }

def add (m : Metering) (id : ConnectorId) (wh : Nat) : Metering :=
  { m with
    registers := m.registers.map fun entry =>
      if entry.1 == id then (entry.1, Actor.saturatingAdd entry.2 wh) else entry
    added := (id, wh) :: m.added }

inductive Trans : Metering → Metering → Prop
  | wait (m : Metering) (mono : Int) (later : m.mono ≤ mono) : Trans m { m with mono }
  | settle (m : Metering) (readings : List Reading)
      (all : readings.map (·.id) = m.registers.map (·.1))
      (spans : ∀ r ∈ readings, ∀ energy, r.energyWh = some energy → 0 ≤ energy ∧
        ∃ meter, m.meters.lookup r.id = some meter ∧ meter.charging = true) : Trans m (m.settle readings)
  | flush (m : Metering) : Trans m m.flush
  | add (m : Metering) (id : ConnectorId) (wh : Nat) : Trans m (m.add id wh)

/-! ## The law -/

/-- The settlements of `id`, latest first. -/
def spansOf (settlements : List Settlement) (id : ConnectorId) : List Settlement :=
  settlements.filter fun s => s.connector == id

/-- The energy of the spans of `id`. -/
def energyOf (settlements : List Settlement) (id : ConnectorId) : Rat :=
  ((spansOf settlements id).map fun s => s.energyWh.getD 0).sum

/-- What was added to `id` by hand. -/
def addedTo (added : List (ConnectorId × Nat)) (id : ConnectorId) : Nat :=
  ((added.filter fun entry => entry.1 == id).map (·.2)).sum

def pendingWh (m : Metering) (id : ConnectorId) : Rat := ((m.meters.lookup id).map (·.pendingWh)).getD 0

def carryWh (m : Metering) (id : ConnectorId) : Rat := ((m.meters.lookup id).map (·.carryWh)).getD 0

/-- Every span begins when the one before it ended, and is integrated only if the connector was charging
then. -/
def Chained : List Settlement → Prop
  | [] => True
  | [s] => s.since = none ∧ s.energyWh = none
  | s :: before :: rest => s.since = some before.until ∧ before.until ≤ s.until ∧
      (s.energyWh ≠ none → before.charging = true) ∧ Chained (before :: rest)

/-- What the register of `id` and what is on the way to it should amount to. -/
def total (start : ConnectorId → Nat) (m : Metering) (id : ConnectorId) : Rat :=
  start id + energyOf m.settlements id + addedTo m.added id

structure Lawful (start : ConnectorId → Nat) (m : Metering) : Prop where
  ids : (m.registers.map (·.1)).Nodup
  pending : ∀ id, 0 ≤ m.pendingWh id
  carry : ∀ id, 0 ≤ m.carryWh id ∧ m.carryWh id < 1
  past : ∀ id meter, m.meters.lookup id = some meter → meter.last ≤ m.mono
  latest : ∀ id, ((m.meters.lookup id).map fun meter => (meter.last, meter.charging)) =
    (spansOf m.settlements id).head?.map fun s => (s.until, s.charging)
  chained : ∀ id, Chained (spansOf m.settlements id)
  spent : ∀ id, 0 ≤ energyOf m.settlements id
  balance : ∀ id wh, (id, wh) ∈ m.registers → total start m id < 2 ^ 64 →
    (wh : Rat) + m.carryWh id + m.pendingWh id = total start m id

/-! ## Lookups -/

section Lookups

variable {V : Type}

/-- The first entry hides the ones behind it. -/
theorem lookup_cons_eq (key id : ConnectorId) (value : V) (map : List (ConnectorId × V)) :
    ((key, value) :: map).lookup id = if id = key then some value else map.lookup id := by
  rw [List.lookup_cons]
  by_cases same : id = key
  · rw [same, beq_self_eq_true, if_pos rfl]
  · rw [beq_false_of_ne same, if_neg same]

private theorem lookup_filter_ne {key id : ConnectorId} (other : id ≠ key) (map : List (ConnectorId × V)) :
    (map.filter fun entry => !(entry.1 == key)).lookup id = map.lookup id := by
  induction map with
  | nil => rfl
  | cons entry rest ih =>
    obtain ⟨k, v⟩ := entry
    by_cases same : k = key
    · subst same
      rw [List.filter_cons_of_neg (by simp), ih, lookup_cons_eq, if_neg other]
    · rw [List.filter_cons_of_pos (by simpa using same), lookup_cons_eq, lookup_cons_eq, ih]

/-- An entry is written over. -/
theorem lookup_insertAt (key id : ConnectorId) (value : V) (map : List (ConnectorId × V)) :
    (insertAt key value map).lookup id = if id = key then some value else map.lookup id := by
  unfold insertAt
  rw [lookup_cons_eq]
  split
  · rfl
  · rename_i other
    exact lookup_filter_ne other map

/-- The values change, the keys do not. -/
theorem lookup_map (f : ConnectorId → V → V) (map : List (ConnectorId × V)) (id : ConnectorId) :
    (map.map fun entry => (entry.1, f entry.1 entry.2)).lookup id = (map.lookup id).map (f id) := by
  induction map with
  | nil => rfl
  | cons entry rest ih =>
    rw [List.map_cons, lookup_cons_eq, ih, show entry = (entry.1, entry.2) from rfl, lookup_cons_eq]
    split
    · rename_i same
      rw [same]
      rfl
    · rfl

private theorem find?_absent {X : Type} {key : X → ConnectorId} {xs : List X} {id : ConnectorId}
    (absent : id ∉ xs.map key) : (xs.find? fun x => key x == id) = none := by
  rw [List.find?_eq_none]
  intro x mem eq
  exact absent (List.mem_map.mpr ⟨x, mem, eq_of_beq eq⟩)

/-- What a loop that inserts one value for each id leaves for `id`. -/
theorem lookup_foldl_insertAt {X : Type} (key : X → ConnectorId) (value : X → V) (xs : List X)
    (distinct : (xs.map key).Nodup) (map : List (ConnectorId × V)) (id : ConnectorId) :
    (xs.foldl (fun map x => insertAt (key x) (value x) map) map).lookup id =
      match xs.find? fun x => key x == id with
      | some x => some (value x)
      | none => map.lookup id := by
  induction xs generalizing map with
  | nil => rfl
  | cons x xs ih =>
    rw [List.map_cons, List.nodup_cons] at distinct
    rw [List.foldl_cons, ih distinct.2, List.find?_cons]
    by_cases same : key x = id
    · subst same
      rw [find?_absent distinct.1]
      simp [lookup_insertAt]
    · rw [beq_false_of_ne same]
      cases xs.find? fun y => key y == id with
      | some y => rfl
      | none => exact (lookup_insertAt _ _ _ _).trans (if_neg (Ne.symm same))

end Lookups

/-! ## What each of them does to one connector -/

/-- The elements with the key `id`, when keys are distinct. -/
theorem filter_key {X : Type} (key : X → ConnectorId) (xs : List X) (distinct : (xs.map key).Nodup)
    (id : ConnectorId) :
    (xs.filter fun x => key x == id) = (xs.find? fun x => key x == id).toList := by
  induction xs with
  | nil => rfl
  | cons x xs ih =>
    rw [List.map_cons, List.nodup_cons] at distinct
    rw [List.filter_cons, List.find?_cons, ih distinct.2]
    by_cases same : key x = id
    · subst same
      rw [find?_absent distinct.1, beq_self_eq_true]
      rfl
    · rw [beq_false_of_ne same]
      rfl

section Settle

variable {m : Metering} {readings : List Reading} {id : ConnectorId}

private theorem settle_lookup (distinct : (readings.map (·.id)).Nodup) :
    (m.settle readings).meters.lookup id =
      match readings.find? fun r => r.id == id with
      | some r => some (m.settledMeter r)
      | none => m.meters.lookup id := by
  refine (lookup_foldl_insertAt (fun r : Reading => r.id) m.settledMeter readings distinct m.meters
    id).trans ?_
  cases readings.find? fun r => r.id == id <;> rfl

private theorem settle_spans (distinct : (readings.map (·.id)).Nodup) :
    spansOf (m.settle readings).settlements id =
      ((readings.find? fun r => r.id == id).map m.settlement).toList ++ spansOf m.settlements id := by
  unfold spansOf settle
  rw [List.filter_append, List.filter_map]
  change ((readings.filter fun r => r.id == id).map m.settlement) ++ _ = _
  rw [filter_key (fun r : Reading => r.id) readings distinct id]
  cases readings.find? fun r => r.id == id <;> rfl

end Settle

private theorem lookup_flush (m : Metering) (id : ConnectorId) :
    m.flush.meters.lookup id =
      (m.meters.lookup id).map fun meter =>
        if m.registers.any fun register => register.1 == id then flushedMeter meter else meter :=
  lookup_map (fun key meter => if m.registers.any fun register => register.1 == key then flushedMeter meter
    else meter) m.meters id

/-! ## Every step keeps the law -/

variable {start : ConnectorId → Nat} {m m' : Metering}

/-- Within 64 bits a register takes what is added to it. -/
private theorem saturatingAdd_exact {register wh : Nat} (below : ((register + wh : Nat) : Rat) < 2 ^ 64) :
    Actor.saturatingAdd register wh = register + wh := by
  have below' : register + wh < 2 ^ 64 := by exact_mod_cast below
  refine min_eq_left ?_
  unfold Actor.u64Max
  omega

/-- What a flush leaves of a meter. -/
private theorem flushedMeter_kept {meter : Meter} (pending : 0 ≤ meter.pendingWh)
    (carry : 0 ≤ meter.carryWh ∧ meter.carryWh < 1) :
    0 ≤ (flushedMeter meter).pendingWh ∧ 0 ≤ (flushedMeter meter).carryWh ∧ (flushedMeter meter).carryWh < 1 := by
  unfold flushedMeter
  split
  · exact ⟨pending, carry⟩
  · refine ⟨le_refl 0, ?_, ?_⟩
    · exact Int.fract_nonneg (meter.carryWh + meter.pendingWh)
    · exact Int.fract_lt_one (meter.carryWh + meter.pendingWh)

/-- A flush does not touch what the last settlement saw. -/
private theorem flushedMeter_seen (meter : Meter) :
    (flushedMeter meter).last = meter.last ∧ (flushedMeter meter).charging = meter.charging := by
  unfold flushedMeter
  split <;> exact ⟨rfl, rfl⟩

/-- The whole part goes into the register, the rest stays. -/
private theorem flushedMeter_balance {meter : Meter} (pending : 0 ≤ meter.pendingWh) (carry : 0 ≤ meter.carryWh)
    {register : Nat} (small : (register : Rat) + meter.carryWh + meter.pendingWh < 2 ^ 64) :
    (Actor.saturatingAdd register
        (if meter.pendingWh ≤ 0 then 0 else ⌊meter.carryWh + meter.pendingWh⌋.toNat) : Rat) +
        (flushedMeter meter).carryWh + (flushedMeter meter).pendingWh =
      register + meter.carryWh + meter.pendingWh := by
  unfold flushedMeter
  split
  · have below : ((register + 0 : Nat) : Rat) < 2 ^ 64 := by
      push_cast
      linarith
    rw [saturatingAdd_exact below, Nat.add_zero]
  · set sum := meter.carryWh + meter.pendingWh with hsum
    have nonneg : 0 ≤ sum := add_nonneg carry pending
    have floor : ((⌊sum⌋.toNat : Nat) : Rat) = (⌊sum⌋ : Rat) := by
      have : ((⌊sum⌋.toNat : Nat) : Int) = ⌊sum⌋ := Int.toNat_of_nonneg (Int.floor_nonneg.mpr nonneg)
      exact_mod_cast this
    have below : ((register + ⌊sum⌋.toNat : Nat) : Rat) < 2 ^ 64 := by
      push_cast
      rw [floor]
      have := Int.floor_le sum
      linarith
    rw [saturatingAdd_exact below]
    push_cast
    rw [floor]
    linarith

/-- Time may pass. -/
theorem Lawful.wait (h : Lawful start m) {mono : Int} (later : m.mono ≤ mono) :
    Lawful start { m with mono } where
  ids := h.ids
  pending := h.pending
  carry := h.carry
  past id meter found := (h.past id meter found).trans later
  latest := h.latest
  chained := h.chained
  spent := h.spent
  balance := h.balance

/-- What is added by hand is noted. -/
theorem Lawful.add (h : Lawful start m) (id : ConnectorId) (wh : Nat) : Lawful start (m.add id wh) := by
  have ids : (m.add id wh).registers.map (·.1) = m.registers.map (·.1) := by
    unfold Metering.add
    rw [List.map_map]
    refine List.map_congr_left fun entry _ => ?_
    simp only [Function.comp_apply]
    split <;> rfl
  refine { h with ids := ids ▸ h.ids, balance := ?_ }
  intro other wh' mem small
  obtain ⟨entry, old, eq⟩ := List.mem_map.mp mem
  have balance := h.balance entry.1 entry.2 old
  by_cases same : entry.1 = id
  · rw [if_pos (beq_iff_eq.mpr same)] at eq
    obtain ⟨rfl, rfl⟩ := Prod.mk.inj eq
    have more : total start (m.add id wh) entry.1 = total start m entry.1 + wh := by
      simp only [total, Metering.add, addedTo, same, List.filter_cons, beq_self_eq_true, if_true,
        List.map_cons, List.sum_cons]
      push_cast
      ring
    rw [more] at small ⊢
    have nonneg : (0 : Rat) ≤ wh := Nat.cast_nonneg wh
    have before := balance (by linarith)
    have below : ((entry.2 + wh : Nat) : Rat) < 2 ^ 64 := by
      have carry := (h.carry entry.1).1
      have pending := h.pending entry.1
      push_cast
      linarith
    rw [saturatingAdd_exact below]
    push_cast
    change (entry.2 : Rat) + wh + m.carryWh entry.1 + m.pendingWh entry.1 = _
    linarith
  · rw [if_neg (by simpa using same)] at eq
    obtain rfl := eq
    have more : total start (m.add id wh) other = total start m other := by
      have skip : ((id == other) = true) = False := by simp [Ne.symm same]
      simp only [total, Metering.add, addedTo, List.filter_cons, skip, if_false]
    rw [more] at small ⊢
    exact balance small

/-- A meter of lawful books. -/
private theorem Lawful.meter (h : Lawful start m) {id : ConnectorId} {meter : Meter}
    (found : m.meters.lookup id = some meter) :
    0 ≤ meter.pendingWh ∧ 0 ≤ meter.carryWh ∧ meter.carryWh < 1 := by
  have pending := h.pending id
  have carry := h.carry id
  simp only [pendingWh, carryWh, found, Option.map_some, Option.getD_some] at pending carry
  exact ⟨pending, carry⟩

/-- What a flush leaves on the way to the register of `id`. -/
private theorem Lawful.flush_bounds (h : Lawful start m) (id : ConnectorId) :
    0 ≤ m.flush.pendingWh id ∧ 0 ≤ m.flush.carryWh id ∧ m.flush.carryWh id < 1 := by
  unfold pendingWh carryWh
  rw [lookup_flush]
  cases found : m.meters.lookup id with
  | none => exact ⟨le_refl 0, le_refl 0, by norm_num⟩
  | some meter =>
    obtain ⟨pending, carry⟩ := h.meter found
    simp only [Option.map_some, Option.getD_some]
    split
    · exact flushedMeter_kept pending carry
    · exact ⟨pending, carry⟩

/-- A flush moves as much to the register of `id` as it takes from the meter. -/
private theorem Lawful.flush_balance (h : Lawful start m) {id : ConnectorId} {wh : Nat} (mem : (id, wh) ∈ m.registers)
    (small : (wh : Rat) + m.carryWh id + m.pendingWh id < 2 ^ 64) :
    (Actor.saturatingAdd wh (m.wholeWh id) : Rat) + m.flush.carryWh id + m.flush.pendingWh id =
      wh + m.carryWh id + m.pendingWh id := by
  have registered : (m.registers.any fun register => register.1 == id) = true :=
    List.any_eq_true.mpr ⟨(id, wh), mem, beq_self_eq_true _⟩
  unfold wholeWh pendingWh carryWh at *
  rw [lookup_flush]
  cases found : m.meters.lookup id with
  | none =>
    rw [found] at small
    simp only [Option.map_none, Option.getD_none, add_zero] at small ⊢
    have below : ((wh + 0 : Nat) : Rat) < 2 ^ 64 := by exact_mod_cast small
    rw [saturatingAdd_exact below, Nat.add_zero]
  | some meter =>
    rw [found] at small
    obtain ⟨pending, carry⟩ := h.meter found
    simp only [Option.map_some, Option.getD_some, registered, if_true] at small ⊢
    exact flushedMeter_balance pending carry.1 small

/-- A flush moves whole Wh from the carry to the register. -/
theorem Lawful.flush (h : Lawful start m) : Lawful start m.flush := by
  have ids : m.flush.registers.map (·.1) = m.registers.map (·.1) := by
    unfold Metering.flush
    rw [List.map_map]
    rfl
  refine { ids := ids ▸ h.ids, pending := fun id => (h.flush_bounds id).1, carry := fun id => (h.flush_bounds id).2
           past := ?_, latest := ?_, chained := h.chained, spent := h.spent, balance := ?_ }
  · intro id meter found
    rw [lookup_flush] at found
    obtain ⟨old, known, rfl⟩ := Option.map_eq_some_iff.mp found
    have past := h.past id old known
    split
    · rw [(flushedMeter_seen old).1]
      exact past
    · exact past
  · intro id
    rw [lookup_flush]
    have latest := h.latest id
    change _ = (spansOf m.settlements id).head?.map _
    rw [← latest]
    cases found : m.meters.lookup id with
    | none => rfl
    | some meter =>
      simp only [Option.map_some, Option.some.injEq]
      split
      · rw [(flushedMeter_seen meter).1, (flushedMeter_seen meter).2]
      · rfl
  · intro id wh' mem small
    obtain ⟨entry, old, eq⟩ := List.mem_map.mp mem
    obtain ⟨rfl, rfl⟩ := Prod.mk.inj eq
    have before := h.balance entry.1 entry.2 old small
    change total start m entry.1 < 2 ^ 64 at small
    rw [← before] at small
    exact (h.flush_balance old small).trans before

/-- Each connector is read once, and energy is integrated over a charging span of a known meter. -/
structure Reads (m : Metering) (readings : List Reading) : Prop where
  all : readings.map (·.id) = m.registers.map (·.1)
  spans : ∀ r ∈ readings, ∀ energy, r.energyWh = some energy → 0 ≤ energy ∧
    ∃ meter, m.meters.lookup r.id = some meter ∧ meter.charging = true

section Settle

variable {readings : List Reading} {id : ConnectorId} {r : Reading}

/-- The energy that the reading of a connector adds. -/
def readEnergy (readings : List Reading) (id : ConnectorId) : Rat :=
  ((readings.find? fun r => r.id == id).bind (·.energyWh)).getD 0

/-- The reading of `id`, if there is one. -/
theorem Reads.found (reads : Reads m readings) (found : (readings.find? fun r => r.id == id) = some r) :
    r.id = id ∧ 0 ≤ r.energyWh.getD 0 ∧ (r.energyWh ≠ none →
      ∃ meter, m.meters.lookup id = some meter ∧ meter.charging = true) := by
  have same : r.id = id := by simpa using List.find?_some found
  have mem := List.mem_of_find?_eq_some found
  refine ⟨same, ?_, fun some' => ?_⟩
  · cases energy : r.energyWh with
    | none => exact le_refl 0
    | some value => exact (reads.spans r mem value energy).1
  · obtain ⟨value, energy⟩ := Option.ne_none_iff_exists'.mp some'
    exact same ▸ (reads.spans r mem value energy).2

/-- A connector is read once. -/
theorem Lawful.distinct (h : Lawful start m) (reads : Reads m readings) : (readings.map (·.id)).Nodup :=
  reads.all ▸ h.ids

private theorem energyOf_settle (distinct : (readings.map (·.id)).Nodup) (id : ConnectorId) :
    energyOf (m.settle readings).settlements id = readEnergy readings id + energyOf m.settlements id := by
  unfold energyOf readEnergy
  rw [settle_spans distinct]
  cases readings.find? fun r => r.id == id with
  | none => exact (zero_add _).symm
  | some r => rfl

private theorem readEnergy_nonneg (reads : Reads m readings) (id : ConnectorId) : 0 ≤ readEnergy readings id := by
  unfold readEnergy
  cases found : readings.find? fun r => r.id == id with
  | none => exact le_refl 0
  | some r => exact (reads.found found).2.1

private theorem Lawful.settle_pending (h : Lawful start m) (reads : Reads m readings) (id : ConnectorId) :
    0 ≤ pendingWh (m.settle readings) id := by
  have pending := h.pending id
  unfold pendingWh at pending ⊢
  rw [settle_lookup (h.distinct reads)]
  cases found : readings.find? fun r => r.id == id with
  | none => exact pending
  | some r =>
    obtain ⟨same, nonneg, -⟩ := reads.found found
    simp only [Option.map_some, Option.getD_some, settledMeter, same]
    cases known : m.meters.lookup id with
    | none => exact le_refl 0
    | some meter =>
      rw [known] at pending
      exact add_nonneg pending nonneg

private theorem Lawful.settle_carry (h : Lawful start m) (reads : Reads m readings) (id : ConnectorId) :
    0 ≤ carryWh (m.settle readings) id ∧ carryWh (m.settle readings) id < 1 := by
  have carry := h.carry id
  unfold carryWh at carry ⊢
  rw [settle_lookup (h.distinct reads)]
  cases found : readings.find? fun r => r.id == id with
  | none => exact carry
  | some r =>
    obtain ⟨same, -, -⟩ := reads.found found
    simp only [Option.map_some, Option.getD_some, settledMeter, same]
    cases known : m.meters.lookup id with
    | none => exact ⟨le_refl 0, by norm_num⟩
    | some meter =>
      rw [known] at carry
      exact carry

private theorem Lawful.settle_past (h : Lawful start m) (reads : Reads m readings) (id : ConnectorId) (meter : Meter)
    (known : (m.settle readings).meters.lookup id = some meter) : meter.last ≤ (m.settle readings).mono := by
  rw [settle_lookup (h.distinct reads)] at known
  cases found : readings.find? fun r => r.id == id with
  | none =>
    rw [found] at known
    exact h.past id meter known
  | some r =>
    rw [found] at known
    obtain rfl := Option.some.inj known
    unfold settledMeter
    split <;> exact le_refl _

/-- The settlement of a connector starts where the one before ended, and tells what was charging since. -/
theorem Lawful.settle_chained (h : Lawful start m) (reads : Reads m readings) (id : ConnectorId) :
    Chained (spansOf (m.settle readings).settlements id) := by
  rw [settle_spans (h.distinct reads)]
  cases found : readings.find? fun r => r.id == id with
  | none => exact h.chained id
  | some r =>
    obtain ⟨same, -, charging⟩ := reads.found found
    have latest := h.latest id
    have chained := h.chained id
    cases before : spansOf m.settlements id with
    | nil =>
      rw [before] at latest
      have unknown : m.meters.lookup id = none := by
        cases known : m.meters.lookup id with
        | none => rfl
        | some meter => rw [known] at latest; cases latest
      refine ⟨by simp [settlement, same, unknown], ?_⟩
      by_contra some'
      obtain ⟨meter, known, -⟩ := charging some'
      rw [unknown] at known
      cases known
    | cons last rest =>
      rw [before] at latest chained
      obtain ⟨meter, known, eq⟩ := Option.map_eq_some_iff.mp latest
      obtain ⟨ended, charged⟩ := Prod.mk.inj eq
      refine ⟨by simp [settlement, same, known, ended], ?_, fun some' => ?_, chained⟩
      · change last.until ≤ m.mono
        rw [← ended]
        exact h.past id meter known
      · obtain ⟨meter', known', charges⟩ := charging some'
        rw [known] at known'
        obtain rfl := Option.some.inj known'
        rw [← charged]
        exact charges

/-- What a settlement integrates, it leaves pending. -/
theorem Lawful.settle_balance (h : Lawful start m) (reads : Reads m readings) (id : ConnectorId) (wh : Nat)
    (mem : (id, wh) ∈ m.registers) (small : total start (m.settle readings) id < 2 ^ 64) :
    (wh : Rat) + carryWh (m.settle readings) id + pendingWh (m.settle readings) id =
      total start (m.settle readings) id := by
  have spent : total start (m.settle readings) id = readEnergy readings id + total start m id := by
    unfold total
    rw [energyOf_settle (h.distinct reads)]
    change (start id : Rat) + (_ + _) + addedTo m.added id = _
    ring
  have nonneg := readEnergy_nonneg reads id
  rw [spent] at small ⊢
  have before := h.balance id wh mem (by linarith)
  unfold readEnergy carryWh pendingWh at *
  rw [settle_lookup (h.distinct reads)]
  cases found : readings.find? fun r => r.id == id with
  | none =>
    simp only [Option.bind_none, Option.getD_none, zero_add]
    exact before
  | some r =>
    obtain ⟨same, -, charging⟩ := reads.found found
    simp only [Option.map_some, Option.getD_some, Option.bind_some, settledMeter, same]
    cases known : m.meters.lookup id with
    | none =>
      have nothing : r.energyWh = none := by
        by_contra some'
        obtain ⟨meter, known', -⟩ := charging some'
        rw [known] at known'
        cases known'
      rw [known] at before
      simp only [Option.map_none, Option.getD_none, nothing] at before ⊢
      linarith
    | some meter =>
      rw [known] at before
      simp only [Option.map_some, Option.getD_some] at before ⊢
      linarith

/-- A settlement adds the energy of the span since the last one. -/
theorem Lawful.settle (h : Lawful start m) (reads : Reads m readings) : Lawful start (m.settle readings) where
  ids := h.ids
  pending := h.settle_pending reads
  carry := h.settle_carry reads
  past := h.settle_past reads
  latest id := by
    rw [settle_lookup (h.distinct reads), settle_spans (h.distinct reads)]
    cases found : readings.find? fun r => r.id == id with
    | none => exact h.latest id
    | some r =>
      simp only [Option.map_some, Option.toList_some, List.singleton_append, List.head?_cons,
        Option.some.injEq, settlement, settledMeter]
      split <;> rfl
  chained := h.settle_chained reads
  spent id := by
    rw [energyOf_settle (h.distinct reads)]
    exact add_nonneg (readEnergy_nonneg reads id) (h.spent id)
  balance := h.settle_balance reads

end Settle

/-- Every step keeps the books. -/
theorem Lawful.trans (h : Lawful start m) (step : Trans m m') : Lawful start m' := by
  cases step with
  | wait mono later => exact h.wait later
  | settle readings all spans => exact h.settle ⟨all, spans⟩
  | flush => exact h.flush
  | add id wh => exact h.add id wh

/-! ## What never goes back -/

/-- No step adds or removes a register. -/
theorem Trans.ids (step : Trans m m') : m'.registers.map (·.1) = m.registers.map (·.1) := by
  cases step with
  | wait | settle => rfl
  | flush =>
    unfold Metering.flush
    rw [List.map_map]
    rfl
  | add id wh =>
    unfold Metering.add
    rw [List.map_map]
    refine List.map_congr_left fun entry _ => ?_
    simp only [Function.comp_apply]
    split <;> rfl

/-- A register that fits into 64 bits goes on to do so and does not decrease. -/
def Grown (r r' : ConnectorId × Nat) : Prop :=
  r'.1 = r.1 ∧ (r.2 ≤ Actor.u64Max → r.2 ≤ r'.2 ∧ r'.2 ≤ Actor.u64Max)

/-- A register that stays has grown. -/
theorem Grown.refl (r : ConnectorId × Nat) : Grown r r := ⟨rfl, fun fits => ⟨le_refl _, fits⟩⟩

/-- A register that grows twice has grown. -/
theorem Grown.trans {r r' r'' : ConnectorId × Nat} (h : Grown r r') (h' : Grown r' r'') : Grown r r'' := by
  refine ⟨h'.1.trans h.1, fun fits => ?_⟩
  obtain ⟨more, fits'⟩ := h.2 fits
  obtain ⟨more', fits''⟩ := h'.2 fits'
  exact ⟨more.trans more', fits''⟩

/-- A saturated addition lets a register grow as long as it fits. -/
theorem grown_saturatingAdd (id : ConnectorId) (register wh : Nat) :
    Grown (id, register) (id, Actor.saturatingAdd register wh) :=
  ⟨rfl, fun fits => ⟨le_min (Nat.le_add_right _ _) fits, min_le_right _ _⟩⟩

/-- No step lets a register shrink. -/
theorem Trans.grown (step : Trans m m') : List.Forall₂ Grown m.registers m'.registers := by
  cases step with
  | wait | settle => exact List.forall₂_same.mpr fun r _ => .refl r
  | flush =>
    refine List.forall₂_map_right_iff.mpr (List.forall₂_same.mpr fun r _ => ?_)
    exact grown_saturatingAdd r.1 r.2 _
  | add id wh =>
    refine List.forall₂_map_right_iff.mpr (List.forall₂_same.mpr fun r _ => ?_)
    split
    · exact grown_saturatingAdd r.1 r.2 wh
    · exact .refl r

end Metering

end KirbyOcpp
