import KirbyOcpp.Laws.Station.Gate
import KirbyOcpp.Laws.Station.Recovery
import KirbyOcpp.Laws.Security.Configuration

/-!
# A clean restart: `build_persisted`, then `Persistence::restore`

A state in which no stop is in flight and every start in flight has its queue entry is saved, and a new
process with the same configuration is built from the file.

**The law** `clean_restart`: the restart is invisible if and only if the state is `Settled`. The restore
derives the status of an idle inoperative connector anew, drops a change of availability that waits on an
idle connector, stops at `maxRestoredConnectors`, and checks `ConnectorPhaseRotation` against the bound of a
station whose connectors were not added one by one.

* The other configuration keys always survive: their bounds never change (`Kept`).
* Sessions are ghosts of one process; a restored transaction belongs to none (`TransactionState.restored`).
-/

namespace KirbyOcpp

/-! ## The configuration keys -/

namespace Config.ConfigRegistry

variable {config : RegistryConfig} {r : ConfigRegistry} {name value : Text} {entry : ConfigEntry}

/-- The registries of a process: values are changed, connectors added, the key set. -/
inductive Reached (config : RegistryConfig) : ConfigRegistry → Prop
  | new : Reached config (.new config)
  | change {r : ConfigRegistry} (earlier : Reached config r) (name value : Text) :
      Reached config (r.change name value).1
  | grow {r : ConfigRegistry} (earlier : Reached config r) (count : Nat) :
      Reached config (r.setConnectorCount count)
  | authorizationKey {r : ConfigRegistry} (earlier : Reached config r) (key : Text) :
      Reached config (r.setInternal Key.authorizationKey key)

theorem get_congr {a b : Text} (same : SameKey a b) : r.get a = r.get b := by
  unfold ConfigRegistry.get
  rw [named_congr same]

/-- The entry of a key has the shape of its default. -/
theorem Shaped.defaulted (h : Shaped r) (name : Text) {s : Text × Bool × Kind × Option Text}
    (default : ((defaultEntries {} 1).find? (named name)).map shape = some s) :
    ∃ entry, r.get name = some entry ∧ shape entry = s :=
  Option.map_eq_some_iff.mp ((h.get name).trans default)

theorem Shaped.rotation_saved (h : Shaped r) (same : SameKey Key.connectorPhaseRotation name)
    (found : r.get name = some entry) : entry.readonly = false ∧ entry.secret = false := by
  obtain ⟨e, there, eq⟩ := h.defaulted Key.connectorPhaseRotation
    (s := (Key.connectorPhaseRotation, false, .phaseRotations, some Key.connectorPhaseRotationMaxLength))
    (by decide +kernel)
  rw [get_congr same, found] at there
  cases there
  have kind : entry.kind = .phaseRotations := congrArg (fun s => s.2.2.1) eq
  exact ⟨congrArg (fun s => s.2.1) eq, by simp [ConfigEntry.secret, kind]⟩

theorem Shaped.derived_readonly (h : Shaped r) (derived : Derived name) (found : r.get name = some entry) :
    entry.readonly = true := by
  rcases derived with same | same
  · obtain ⟨e, there, eq⟩ := h.defaulted Key.numberOfConnectors
      (s := (Key.numberOfConnectors, true, .text, none)) (by decide +kernel)
    rw [get_congr same, found] at there
    cases there
    exact congrArg (fun s => s.2.1) eq
  · obtain ⟨e, there, eq⟩ := h.defaulted Key.connectorPhaseRotationMaxLength
      (s := (Key.connectorPhaseRotationMaxLength, true, .text, none)) (by decide +kernel)
    rw [get_congr same, found] at there
    cases there
    exact congrArg (fun s => s.2.1) eq

theorem Shaped.key_secret (h : Shaped r) (same : SameKey Key.authorizationKey name)
    (found : r.get name = some entry) : entry.readonly = false ∧ entry.secret = true := by
  obtain ⟨e, there, eq⟩ := h.defaulted Key.authorizationKey
    (s := (Key.authorizationKey, false, .secret, none)) (by decide +kernel)
  rw [get_congr same, found] at there
  cases there
  exact ⟨congrArg (fun s => s.2.1) eq, decide_eq_true (congrArg (fun s => s.2.2.1) eq)⟩

theorem get_setInternal_same {name' : Text} (same : SameKey name name') :
    (r.setInternal name value).get name' = (r.get name').map fun entry => { entry with value } := by
  rw [← get_congr same, ← get_congr same]
  exact find_setAt_same r.entries

theorem get_setInternal_other {name' : Text} (other : ¬SameKey name name') :
    (r.setInternal name value).get name' = r.get name' := find_setAt_other other r.entries

theorem Shaped.setConnectorCount (h : Shaped r) (count : Nat) : Shaped (r.setConnectorCount count) := by
  unfold ConfigRegistry.setConnectorCount
  dsimp only
  have grown (r : ConfigRegistry) (h : Shaped r) :
      Shaped ((({ r with connectorCount := count } : ConfigRegistry).setInternal Key.numberOfConnectors
        (Text.ofNat count)).setInternal Key.connectorPhaseRotationMaxLength (Text.ofNat (count + 1))) :=
    Shaped.setInternal (Shaped.setInternal (r := { r with connectorCount := count }) h _ _) _ _
  repeat' split
  · exact h
  · exact grown r h
  · exact grown r h
  · exact (grown r h).setInternal _ _

/-- A connector that is added changes three entries. -/
theorem get_setConnectorCount (derived : ¬Derived name) (other : ¬SameKey Key.connectorPhaseRotation name)
    (count : Nat) : (r.setConnectorCount count).get name = r.get name := by
  have number : ¬SameKey Key.numberOfConnectors name := fun same => derived (.inl same)
  have bound : ¬SameKey Key.connectorPhaseRotationMaxLength name := fun same => derived (.inr same)
  have grown : ((({ r with connectorCount := count } : ConfigRegistry).setInternal Key.numberOfConnectors
      (Text.ofNat count)).setInternal Key.connectorPhaseRotationMaxLength (Text.ofNat (count + 1))).get name =
      r.get name := by
    rw [get_setInternal_other bound, get_setInternal_other number]
    rfl
  unfold ConfigRegistry.setConnectorCount
  dsimp only
  repeat' split
  · rfl
  · exact grown
  · exact grown
  · rw [get_setInternal_other other]
    exact grown

/-- What no operation gets wrong: a read-only key has its default, and a writable one besides
`ConnectorPhaseRotation` its default or a value that the defaults accept. -/
structure Kept (config : RegistryConfig) (r : ConfigRegistry) : Prop where
  shaped : Shaped r
  fixed : ∀ name entry, ¬Derived name → r.get name = some entry → entry.readonly = true →
    (ConfigRegistry.new config).get name = some entry
  values : ∀ name entry, ¬SameKey Key.connectorPhaseRotation name → r.get name = some entry →
    entry.readonly = false → entry.secret = false →
    (ConfigRegistry.new config).get name = some entry ∨
      (ConfigRegistry.new config).check name entry.value = .accepted

/-- Its checks are those of the defaults. -/
theorem Kept.check (h : Kept config r) (other : ¬SameKey Key.connectorPhaseRotation name) (value : Text) :
    r.check name value = .accepted ↔ (ConfigRegistry.new config).check name value = .accepted := by
  have shapes := (h.shaped.get name).trans ((shaped_new config).get name).symm
  have number {maxKey : Text} {e : ConfigEntry} (found : r.get name = some e)
      (bounded : e.maxItemsKey = some maxKey) :
      r.number maxKey = (ConfigRegistry.new config).number maxKey := by
    obtain ⟨locked, steady⟩ := h.shaped.bound_readonly found bounded
    have same := (h.shaped.get maxKey).trans ((shaped_new config).get maxKey).symm
    unfold ConfigRegistry.number ConfigRegistry.value
    cases there : r.get maxKey with
    | none =>
      rw [there, Option.map_none] at same
      rw [Option.map_eq_none_iff.mp same.symm]
    | some bound => rw [h.fixed maxKey bound (steady other) there (locked bound there)]
  rw [check_accepted_iff, check_accepted_iff]
  constructor
  · rintro ⟨e, found, unlocked, accepts, fits⟩
    rw [found, Option.map_some] at shapes
    obtain ⟨e', found', eq⟩ := Option.map_eq_some_iff.mp shapes.symm
    simp only [shape, Prod.mk.injEq] at eq
    obtain ⟨-, locked, kind, bound⟩ := eq
    refine ⟨e', found', locked.trans unlocked, kind ▸ accepts, fun maxKey bounded => ?_⟩
    rw [← number found (bound.symm.trans bounded)]
    exact fits maxKey (bound.symm.trans bounded)
  · rintro ⟨e', found', unlocked, accepts, fits⟩
    rw [found', Option.map_some] at shapes
    obtain ⟨e, found, eq⟩ := Option.map_eq_some_iff.mp shapes
    simp only [shape, Prod.mk.injEq] at eq
    obtain ⟨-, locked, kind, bound⟩ := eq
    refine ⟨e, found, locked.trans unlocked, kind ▸ accepts, fun maxKey bounded => ?_⟩
    rw [number found bounded]
    exact fits maxKey (bound.symm.trans bounded)

theorem kept_new (config : RegistryConfig) : Kept config (.new config) where
  shaped := shaped_new config
  fixed := fun _ _ _ found _ => found
  values := fun _ _ _ found _ _ => .inl found

/-- A value that the checks let through, or one of a key that is not saved. -/
theorem Kept.setInternal (h : Kept config r) {e : ConfigEntry} (there : r.get name = some e)
    (unlocked : e.readonly = false) (ok : e.secret = true ∨ r.check name value = .accepted) :
    Kept config (r.setInternal name value) := by
  refine ⟨h.shaped.setInternal name value, fun name' entry underived found locked => ?_,
    fun name' entry other found writable shown => ?_⟩
  · by_cases same : SameKey name name'
    · rw [get_setInternal_same same, ← get_congr same, there] at found
      cases found
      rw [unlocked] at locked
      cases locked
    · rw [get_setInternal_other same] at found
      exact h.fixed name' entry underived found locked
  · by_cases same : SameKey name name'
    · rw [get_setInternal_same same, ← get_congr same, there] at found
      cases found
      refine .inr ((h.check other value).mp ?_)
      rcases ok with hidden | accepted
      · have : e.secret = false := shown
        rw [hidden] at this
        cases this
      · unfold ConfigRegistry.check at accepted ⊢
        rwa [← get_congr same]
    · rw [get_setInternal_other same] at found
      exact h.values name' entry other found writable shown

theorem Kept.setConnectorCount (h : Kept config r) (count : Nat) : Kept config (r.setConnectorCount count) := by
  have shaped := h.shaped.setConnectorCount count
  refine ⟨shaped, fun name entry underived found locked => ?_, fun name entry other found writable shown => ?_⟩
  · by_cases same : SameKey Key.connectorPhaseRotation name
    · rw [(shaped.rotation_saved same found).1] at locked
      cases locked
    · rw [get_setConnectorCount underived same] at found
      exact h.fixed name entry underived found locked
  · by_cases derived : Derived name
    · rw [shaped.derived_readonly derived found] at writable
      cases writable
    · rw [get_setConnectorCount derived other] at found
      exact h.values name entry other found writable shown

theorem Reached.kept (h : Reached config r) : Kept config r := by
  induction h with
  | new => exact kept_new config
  | @change r _ name value ih =>
    rcases r.change_cases name value with ⟨status, -, -, eq⟩ | ⟨e, there, accepted, unlocked, -, eq⟩
    · rw [eq]
      exact ih
    · rw [eq]
      exact ih.setInternal there unlocked (.inr accepted)
  | grow _ count ih => exact ih.setConnectorCount count
  | authorizationKey _ key ih =>
    obtain ⟨e, there, -⟩ := ih.shaped.defaulted Key.authorizationKey
      (s := (Key.authorizationKey, false, .secret, none)) (by decide +kernel)
    obtain ⟨unlocked, hidden⟩ := ih.shaped.key_secret rfl there
    exact ih.setInternal there unlocked (.inl hidden)

theorem connectorCount_setConnectorCount (count : Nat) :
    (r.setConnectorCount count).connectorCount = max r.connectorCount count := by
  unfold ConfigRegistry.setConnectorCount
  split
  · omega
  · dsimp only
    repeat' split
    all_goals
      change count = max r.connectorCount count
      omega

theorem connectorCount_change (name value : Text) : (r.change name value).1.connectorCount = r.connectorCount := by
  rcases r.change_cases name value with ⟨_, -, -, eq⟩ | ⟨_, -, -, -, -, eq⟩ <;> rw [eq]
  rfl

/-- The read-only keys that follow the number of connectors have its value. -/
structure Counted (r : ConfigRegistry) : Prop where
  number : (r.get Key.numberOfConnectors).map (·.value) = some (Text.ofNat r.connectorCount)
  bound : (r.get Key.connectorPhaseRotationMaxLength).map (·.value) = some (Text.ofNat (r.connectorCount + 1))

/-- Writing another key leaves them. -/
theorem Counted.setInternal (h : Counted r) (other : ¬Derived name) : Counted (r.setInternal name value) where
  number := by
    rw [get_setInternal_other fun same => other (.inl same.symm)]
    exact h.number
  bound := by
    rw [get_setInternal_other fun same => other (.inr same.symm)]
    exact h.bound

theorem Counted.setConnectorCount (h : Counted r) (shaped : Shaped r) (count : Nat) :
    Counted (r.setConnectorCount count) := by
  have grown : Counted ((({ r with connectorCount := count } : ConfigRegistry).setInternal Key.numberOfConnectors
      (Text.ofNat count)).setInternal Key.connectorPhaseRotationMaxLength (Text.ofNat (count + 1))) := by
    obtain ⟨number, there, -⟩ := shaped.defaulted Key.numberOfConnectors
      (s := (Key.numberOfConnectors, true, .text, none)) (by decide +kernel)
    obtain ⟨bound, there', -⟩ := shaped.defaulted Key.connectorPhaseRotationMaxLength
      (s := (Key.connectorPhaseRotationMaxLength, true, .text, none)) (by decide +kernel)
    constructor
    · rw [get_setInternal_other (by decide +kernel), get_setInternal_same rfl]
      change (Option.map _ (r.get Key.numberOfConnectors)).map _ = _
      rw [there]
      rfl
    · rw [get_setInternal_same rfl, get_setInternal_other (by decide +kernel)]
      change (Option.map _ (r.get Key.connectorPhaseRotationMaxLength)).map _ = _
      rw [there']
      rfl
  unfold ConfigRegistry.setConnectorCount
  dsimp only
  repeat' split
  · exact h
  · exact grown
  · exact grown
  · exact grown.setInternal (by decide +kernel)

theorem Reached.counted (h : Reached config r) : Counted r := by
  induction h with
  | new => exact ⟨rfl, rfl⟩
  | @change r earlier name value ih =>
    rcases r.change_cases name value with ⟨_, -, -, eq⟩ | ⟨e, there, -, unlocked, -, eq⟩
    · rw [eq]
      exact ih
    · rw [eq]
      refine ih.setInternal fun derived => ?_
      rw [earlier.kept.shaped.derived_readonly derived there] at unlocked
      cases unlocked
  | grow earlier count ih => exact ih.setConnectorCount earlier.kept.shaped count
  | authorizationKey _ key ih => exact ih.setInternal (by decide +kernel)

theorem Reached.restore (h : Reached config r) (values : List (Text × Text)) : Reached config (r.restore values).1 := by
  rw [restore_eq]
  induction values generalizing r with
  | nil => exact h
  | cons v values ih => exact ih (h.change v.1 v.2)

theorem connectorCount_restore (values : List (Text × Text)) : (r.restore values).1.connectorCount = r.connectorCount := by
  rw [restore_eq]
  induction values generalizing r with
  | nil => rfl
  | cons v values ih => exact ih.trans (connectorCount_change v.1 v.2)

/-- The registry of a process that starts from a file with `count` connectors and these values. -/
def restarted (config : RegistryConfig) (count : Nat) (values : List (Text × Text)) : ConfigRegistry :=
  (((ConfigRegistry.new config).setConnectorCount count).restore values).1

/-- The defaults of a station with `count` connectors have the phase rotation of `r` or accept it. -/
def KeepsRotation (config : RegistryConfig) (count : Nat) (r : ConfigRegistry) : Prop :=
  ∀ value, r.value Key.connectorPhaseRotation = some value →
    ((ConfigRegistry.new config).setConnectorCount count).check Key.connectorPhaseRotation value = .accepted ∨
      ((ConfigRegistry.new config).setConnectorCount count).value Key.connectorPhaseRotation = some value

/-- Of the saved values only the phase rotation can be lost. -/
theorem Reached.restarted_iff (h : Reached config r) (count : Nat) :
    (∀ entry ∈ r.entries, entry.readonly = false → entry.secret = false →
        (restarted config count r.snapshot).value entry.key = some entry.value) ↔
      KeepsRotation config count r := by
  let defaults := (ConfigRegistry.new config).setConnectorCount count
  have kept := h.kept
  have grown : Kept config defaults := (kept_new config).setConnectorCount count
  obtain ⟨distinct, writable, saved⟩ := kept.shaped.snapshot
  have known : ∀ v ∈ r.snapshot, ∃ entry, defaults.get v.1 = some entry ∧ entry.readonly = false := by
    intro v mem
    obtain ⟨entry, found, unlocked⟩ := writable v mem
    have same := (kept.shaped.get v.1).trans (grown.shaped.get v.1).symm
    rw [found, Option.map_some] at same
    obtain ⟨entry', found', eq⟩ := Option.map_eq_some_iff.mp same.symm
    exact ⟨entry', found', (congrArg (fun s => s.2.1) eq).trans unlocked⟩
  have restored (entry : ConfigEntry) (mem : entry ∈ r.entries) (unlocked : entry.readonly = false)
      (shown : entry.secret = false) :
      (restarted config count r.snapshot).value entry.key = some entry.value ↔
        defaults.check entry.key entry.value = .accepted ∨ defaults.value entry.key = some entry.value := by
    unfold restarted
    rw [grown.shaped.restore_value distinct known (saved entry mem unlocked shown)]
    split
    · rename_i accepted
      simp [defaults, accepted]
    · rename_i refused
      simp [defaults, refused]
  constructor
  · intro all value current
    obtain ⟨entry, found, rfl⟩ := Option.map_eq_some_iff.mp current
    have mem := List.mem_of_find?_eq_some found
    have same : SameKey entry.key Key.connectorPhaseRotation := named_iff.mp (List.find?_some found)
    obtain ⟨unlocked, shown⟩ := kept.shaped.rotation_saved rfl found
    have := (restored entry mem unlocked shown).mp (all entry mem unlocked shown)
    unfold ConfigRegistry.check ConfigRegistry.value at this ⊢
    rwa [get_congr same] at this
  · intro rotation entry mem unlocked shown
    rw [restored entry mem unlocked shown]
    have found := kept.shaped.get_of_mem mem
    by_cases same : SameKey Key.connectorPhaseRotation entry.key
    · have current : r.value Key.connectorPhaseRotation = some entry.value := by
        unfold ConfigRegistry.value
        rw [get_congr same, found]
        rfl
      have := rotation entry.value current
      unfold ConfigRegistry.check ConfigRegistry.value at this ⊢
      rwa [get_congr same] at this
    · rcases kept.values entry.key entry same found unlocked shown with default | accepted
      · refine .inr ?_
        have underived : ¬Derived entry.key := by
          intro derived
          rw [kept.shaped.derived_readonly derived found] at unlocked
          cases unlocked
        unfold ConfigRegistry.value
        rw [get_setConnectorCount underived same, default]
        rfl
      · exact .inl ((grown.check same entry.value).mpr accepted)

theorem reached_restarted (config : RegistryConfig) (count : Nat) (values : List (Text × Text)) :
    Reached config (restarted config count values) := (Reached.new.grow count).restore values

theorem connectorCount_restarted (config : RegistryConfig) (count : Nat) (values : List (Text × Text)) :
    (restarted config count values).connectorCount = max (ConfigRegistry.new config).connectorCount count :=
  (connectorCount_restore values).trans (connectorCount_setConnectorCount count)

/-- A read-only value survives, those that follow the number of connectors if that does. -/
theorem Reached.restarted_readonly (h : Reached config r) {count : Nat}
    (same : r.connectorCount = max (ConfigRegistry.new config).connectorCount count) (mem : entry ∈ r.entries)
    (locked : entry.readonly = true) : (restarted config count r.snapshot).value entry.key = some entry.value := by
  have found := h.kept.shaped.get_of_mem mem
  have next := reached_restarted config count r.snapshot
  have counted := connectorCount_restarted config count r.snapshot
  have derived {key : Text} (named : SameKey key entry.key) {value : Text}
      (was : (r.get key).map (·.value) = some value)
      (now : ((restarted config count r.snapshot).get key).map (·.value) = some value) :
      (restarted config count r.snapshot).value entry.key = some entry.value := by
    rw [get_congr named, found, Option.map_some] at was
    rw [ConfigRegistry.value, ← get_congr named, now, ← was]
  by_cases follows : Derived entry.key
  · rcases follows with named | named
    · refine derived named h.counted.number ?_
      rw [next.counted.number, counted, same]
    · refine derived named h.counted.bound ?_
      rw [next.counted.bound, counted, same]
  · have default := h.kept.fixed entry.key entry follows found locked
    have shapes := (next.kept.shaped.get entry.key).trans (h.kept.shaped.get entry.key).symm
    rw [found, Option.map_some] at shapes
    obtain ⟨entry', found', eq⟩ := Option.map_eq_some_iff.mp shapes
    have locked' : entry'.readonly = true := (congrArg (fun s => s.2.1) eq).trans locked
    have default' := next.kept.fixed entry.key entry' follows found' locked'
    rw [default] at default'
    rw [ConfigRegistry.value, found', ← Option.some.inj default']
    rfl

end Config.ConfigRegistry

/-! ## What is saved of the station -/

/-- What a new process makes of a transaction: its session is over. -/
def TransactionState.restored : TransactionState → TransactionState
  | .active t => .active { t with session := 0 }
  | .stopping t => .stopping { t with session := 0 }
  | other => other

/-- The saved part of a connector is the same. -/
structure SameConnector (c c' : ConnectorSnapshot) : Prop where
  status : c'.status = c.status
  availability : c'.availability = c.availability
  pendingAvailability : c'.pendingAvailability = c.pendingAvailability
  evConnected : c'.evConnected = c.evConnected
  meterWh : c'.meterWh = c.meterWh
  lastIdTag : c'.lastIdTag = c.lastIdTag
  reservation : c'.reservation = c.reservation
  transaction : c'.transaction = c.transaction.restored

namespace Actor

variable {a b : Actor} {c : ConnectorSnapshot}

/-- The saved part of the station is the same. -/
structure SameStation (a b : Actor) : Prop where
  connectors : ∀ c ∈ a.connectors, ∃ c' ∈ b.connectors, c'.id = c.id ∧ SameConnector c c'
  availability : b.chargePoint.availability = a.chargePoint.availability
  queue : b.queue = a.queue.map restoredEntry
  localList : b.localList = a.localList
  authCache : b.authCache = a.authCache
  profiles : b.profiles = a.profiles

/-- No stop is in flight, and a start in flight has its queue entry. -/
structure Clean (a : Actor) : Prop where
  stops : ∀ c ∈ a.connectors, c.transaction.isStopping = false
  starts : ∀ c ∈ a.connectors, ∀ p, c.transaction = .pendingStart p → ∃ e ∈ a.queue, e.txId = p.txId

/-- A state that the restore has nothing to change of. -/
structure Settled (config : StationConfig) (a : Actor) : Prop where
  known : ∀ c ∈ a.connectors, c.id ≤ max maxRestoredConnectors config.connectorCount
  unavailable : ∀ c ∈ a.connectors, c.transaction = .idle → c.availability = .inoperative →
    c.status = .unavailable
  applied : ∀ c ∈ a.connectors, c.transaction = .idle → c.pendingAvailability = none
  installed : ∀ stored ∈ a.profiles, stored.installedAt.isSome = true

/-- What the process makes of a connector of a clean station. -/
def recovered (c : ConnectorSnapshot) : ConnectorSnapshot :=
  withAvailability (restoredConnector (persistedConnector c) (newConnector c.id))

theorem recovered_id (c : ConnectorSnapshot) : (recovered c).id = c.id := withAvailability_id _

theorem recovered_same (unavailable : c.transaction = .idle → c.availability = .inoperative → c.status = .unavailable)
    (applied : c.transaction = .idle → c.pendingAvailability = none) : SameConnector c (recovered c) := by
  by_cases idle : c.transaction = .idle
  · have status : (restoredConnector (persistedConnector c) (newConnector c.id)).status = c.status := by
      exact ite_eq_right_iff.mpr fun inoperative => (unavailable idle inoperative.1).symm
    have untouched : recovered c = restoredConnector (persistedConnector c) (newConnector c.id) := by
      unfold recovered withAvailability
      simp [restoredConnector, persistedConnector, applied idle]
    rw [untouched]
    refine ⟨status, rfl, rfl, rfl, rfl, rfl, rfl, ?_⟩
    simp [restoredConnector, persistedConnector, idle, TransactionState.restored]
  · have busy : c.transaction.isIdle = false := by
      cases state : c.transaction with
      | idle => exact absurd state idle
      | _ => rfl
    have restored : (restoredConnector (persistedConnector c) (newConnector c.id)).transaction =
        c.transaction.restored := by
      cases state : c.transaction <;> simp [restoredConnector, persistedConnector, state, TransactionState.restored]
    have untouched : recovered c = restoredConnector (persistedConnector c) (newConnector c.id) := by
      have running : c.transaction.restored.isIdle = false := by
        rw [← busy]
        cases c.transaction <;> rfl
      unfold recovered withAvailability
      split
      · rw [if_neg (by rw [restored, running]; exact Bool.false_ne_true)]
      · rfl
    rw [untouched]
    refine ⟨?_, rfl, rfl, rfl, rfl, rfl, rfl, restored⟩
    simp [restoredConnector, persistedConnector, busy]

/-- The restore writes `Unavailable` over the status of an idle inoperative connector. -/
theorem recovered_changes (same : SameConnector c (recovered c)) (idle : c.transaction = .idle) :
    (c.availability = .inoperative → c.status = .unavailable) ∧ c.pendingAvailability = none := by
  have applied : c.pendingAvailability = none := by
    rw [← same.pendingAvailability]
    refine withAvailability_idle ?_
    simp [restoredConnector, persistedConnector, idle]
  refine ⟨fun inoperative => ?_, applied⟩
  rw [← same.status]
  unfold recovered withAvailability
  simp [restoredConnector, persistedConnector, applied, idle, inoperative, TransactionState.isIdle]

/-- The connectors and the queue of the process that follows a clean station. -/
theorem Clean.restarted (clean : Clean a) (ids : Ids (a.ledger [] .none)) (config : StationConfig)
    (registry : KirbyOcpp.ConfigRegistry) (now : Instant) (mono : Int) :
    (loaded config registry now mono (some a.buildPersisted)).queue = a.queue.map restoredEntry ∧
      ∀ c ∈ a.connectors, c.id ≤ max maxRestoredConnectors config.connectorCount →
        recovered c ∈ (loaded config registry now mono (some a.buildPersisted)).connectors := by
  let queue := a.queue.map restoredEntry
  let started := (restoredConnectors config a.buildPersisted).map (withoutLostStart queue)
  have saved : (a.buildPersisted.connectors.map (·.id)).Nodup := by
    have same : a.buildPersisted.connectors.map (·.id) = a.connectors.map (·.id) := by
      unfold buildPersisted
      rw [List.map_map]
      rfl
    rw [same]
    exact ids.nodup
  have settled : ∀ d ∈ started, d.transaction.isStopping = false := by
    have none : stopsOf started ≤ 0 := by
      refine le_trans (le_of_eq ?_) ((stopsOf_restoredConnectors config a.buildPersisted).trans (le_of_eq ?_))
      · unfold stopsOf started
        rw [List.countP_map]
        exact List.countP_congr fun d _ => by rw [Function.comp_apply, withoutLostStart_stopping]
      · unfold buildPersisted
        rw [List.countP_map, List.countP_eq_zero]
        intro d mem
        simp only [Function.comp_apply, persistedConnector, clean.stops d mem]
        exact Bool.false_ne_true
    intro d mem
    exact Bool.eq_false_iff.mpr (List.countP_eq_zero.mp (Nat.le_zero.mp none) d mem)
  have queued : started.foldl (queueLostStop now) queue = queue := by
    generalize started = connectors at settled
    induction connectors with
    | nil => rfl
    | cons d rest ih =>
      rw [List.foldl_cons, queueLostStop_other (settled d List.mem_cons_self)]
      exact ih fun d' mem => settled d' (List.mem_cons_of_mem _ mem)
  refine ⟨queued, fun c mem within => ?_⟩
  have known : persistedConnector c ∈ a.buildPersisted.connectors := List.mem_map_of_mem mem
  have physical : 0 < c.id := by
    have := ids.physical c mem
    simp only [isStation, station, beq_eq_false_iff_ne] at this
    exact Nat.pos_of_ne_zero this
  have there := mem_restoredConnectors_of_le config saved known physical (le_restoredCount config known within)
  have kept : withoutLostStart queue (restoredConnector (persistedConnector c) (newConnector c.id)) =
      restoredConnector (persistedConnector c) (newConnector c.id) := by
    unfold withoutLostStart
    split
    · rename_i p state
      rw [if_pos]
      have waiting : c.transaction = .pendingStart p := by
        cases was : c.transaction <;> simp [restoredConnector, persistedConnector, was] at state
        exact congrArg _ state
      obtain ⟨e, entry, tx⟩ := clean.starts c mem p waiting
      exact List.any_eq_true.mpr ⟨restoredEntry e, List.mem_map_of_mem entry, decide_eq_true tx⟩
    · rfl
  have inStarted : restoredConnector (persistedConnector c) (newConnector c.id) ∈ started :=
    List.mem_map.mpr ⟨_, there, kept⟩
  have unstopped : withoutLostStop (restoredConnector (persistedConnector c) (newConnector c.id)) =
      restoredConnector (persistedConnector c) (newConnector c.id) := by
    have running := settled _ inStarted
    unfold withoutLostStop
    split
    · rename_i s state
      rw [state] at running
      cases running
    · rfl
  refine List.mem_map.mpr ⟨_, inStarted, ?_⟩
  rw [unstopped]
  rfl

/-- Profiles with an install time keep it. -/
theorem backfillInstalledAt_iff (profiles : ChargingProfileStore Rat) (now : Instant) :
    ChargingProfileStore.backfillInstalledAt profiles now = profiles ↔
      ∀ stored ∈ profiles, stored.installedAt.isSome = true := by
  unfold ChargingProfileStore.backfillInstalledAt
  induction profiles with
  | nil => simp
  | cons stored rest ih =>
    rw [List.map_cons, List.cons.injEq, ih, List.forall_mem_cons]
    refine and_congr_left fun _ => ?_
    cases known : stored.installedAt with
    | none =>
      refine ⟨fun same => ?_, fun absent => by cases absent⟩
      have := congrArg (·.installedAt) same
      simp [known] at this
    | some at' =>
      refine ⟨fun _ => rfl, fun _ => ?_⟩
      rw [Option.some_or, ← known]

/-! ## The number of connectors -/

/-- The highest connector id. -/
def highestId (a : Actor) : Nat := (a.connectors.map (·.id)).foldr max 0

theorem highestId_range (count : Nat) : ((List.range count).map (· + 1)).foldr max 0 = count := by
  have bounded (ids : List Nat) (least : Nat) : ids.foldr max least = max (ids.foldr max 0) least := by
    induction ids with
    | nil => simp
    | cons id ids ih => rw [List.foldr_cons, List.foldr_cons, ih, max_assoc]
  induction count with
  | zero => rfl
  | succ count ih =>
    rw [List.range_succ, List.map_append, List.foldr_append, bounded, ih]
    simp

/-- A quiet operation leaves the ids. -/
theorem ids_of_quiet {a b : Actor} (quiet : Quiet a b) : b.connectors.map (·.id) = a.connectors.map (·.id) := by
  have kept {l l' : Ledger} (steps : Relation.ReflTransGen QuietStep l l') :
      l'.connectors.map (·.id) = l.connectors.map (·.id) := by
    induction steps with
    | refl => rfl
    | tail _ step ih =>
      rw [← ih]
      cases step with
      | reshape f mild _ =>
        rw [List.map_map]
        exact List.map_congr_left fun c mem => (mild c mem).id
      | _ => rfl
  exact kept (quiet [] .none)

theorem releaseExpiredReservations_ids (a : Actor) :
    a.releaseExpiredReservations.connectors.map (·.id) = a.connectors.map (·.id) := by
  have released := ids_of_quiet (announceReleased_quiet { a with connectors := (expireDue a.connectors a.now).1 }
    (expireDue a.connectors a.now).2)
  have cleared : (expireDue a.connectors a.now).1.map (·.id) = a.connectors.map (·.id) := by
    unfold expireDue
    rw [List.map_map]
    refine List.map_congr_left fun c _ => ?_
    simp only [Function.comp_apply]
    split
    · exact clearReservation_id c
    · rfl
  unfold releaseExpiredReservations
  dsimp only
  split
  · exact released.trans cleared
  · exact ((ids_of_quiet (flushNow_quiet _)).trans released).trans cleared

theorem armReservation_ids (a : Actor) (id : ConnectorId) :
    (a.armReservation id).connectors.map (·.id) = a.connectors.map (·.id) := by
  unfold armReservation
  split
  · rfl
  · split
    · unfold onReservationTimer
      exact (ids_of_quiet (Quiet.foldl _ (fun _ _ a => a.setTimer_quiet _) _)).trans
        (releaseExpiredReservations_ids a)
    · rfl

/-- The ids of a new process are those of its file. -/
theorem start_connectorIds (config : StationConfig) (registry : KirbyOcpp.ConfigRegistry) (now : Instant) (mono : Int)
    (saved : Option PersistedStation) :
    (start config registry now mono saved).connectors.map (·.id) =
      (loaded config registry now mono saved).connectors.map (·.id) := by
  have armed (ids : List ConnectorId) (a : Actor) :
      (ids.foldl armReservation a).connectors.map (·.id) = a.connectors.map (·.id) := by
    induction ids generalizing a with
    | nil => rfl
    | cons id ids ih => exact (ih _).trans (armReservation_ids a id)
  have restored (a : Actor) : a.afterRestore.settleMeters.connectors.map (·.id) = a.connectors.map (·.id) := by
    rw [ids_of_quiet (settleMeters_quiet _)]
    unfold afterRestore
    dsimp only
    rw [ids_of_quiet (rescheduleMetering_quiet _), armed, releaseExpiredReservations_ids]
  unfold start loaded
  cases saved with
  | none => exact restored _
  | some saved => exact restored _

theorem highestId_start (config : StationConfig) (registry : KirbyOcpp.ConfigRegistry) (now : Instant) (mono : Int) :
    (start config registry now mono none).highestId = config.connectorCount := by
  unfold highestId
  rw [start_connectorIds]
  exact (congrArg _ (freshConnectors_ids config.connectorCount)).trans (highestId_range _)

theorem highestId_restarted (config : StationConfig) (registry : KirbyOcpp.ConfigRegistry) (now : Instant) (mono : Int)
    (saved : PersistedStation) :
    (start config registry now mono (some saved)).highestId = restoredCount config saved := by
  have ids : (loaded config registry now mono (some saved)).connectors.map (·.id) =
      (restoredConnectors config saved).map (·.id) := by
    unfold loaded restore
    dsimp only
    rw [List.map_map, List.map_map]
    refine List.map_congr_left fun c _ => ?_
    simp only [Function.comp_apply, withAvailability_id, withoutLostStop_id, withoutLostStart_id]
  unfold highestId
  rw [start_connectorIds, ids, restoredConnectors_ids, highestId_range]

/-- No connector goes. -/
theorem highestId_step (a : Actor) (wake : Wake) (ids : Ids (a.ledger [] .none)) :
    a.highestId ≤ (a.step wake).highestId := by
  have permits := permits_losing (a.woken wake) wake.input (.inl (rfl : true = true))
  have path := a.step_path wake ids permits
  have kept {allow : Allow} {l l' : Ledger} (path : Path allow l l') :
      ∀ id ∈ l.connectors.map (·.id), id ∈ l'.connectors.map (·.id) := by
    induction path with
    | refl => exact fun id mem => mem
    | tail _ step ih =>
      intro id mem
      have mem := ih id mem
      rcases step.connectors with ⟨f, eq, same⟩ | ⟨new, eq, -, -⟩
      · rw [eq, List.map_map, List.map_congr_left (g := (·.id)) same]
        exact mem
      · rw [eq, List.map_append]
        exact List.mem_append_left _ mem
  exact List.max_le_of_forall_le _ _ fun id mem => List.le_max_of_le' 0 (kept path id mem) le_rfl

/-- The keys of the process that follows `a`, with the keys `r`. -/
def restartedKeys (config : StationConfig) (keys : Config.RegistryConfig) (a : Actor) (r : Config.ConfigRegistry) :
    Config.ConfigRegistry :=
  .restarted keys (restoredCount config a.buildPersisted) r.snapshot

/-- A station with its configuration keys: the keys are changed, connectors are counted as they are added, and
a process may start from any file. -/
inductive Together (config : StationConfig) (keys : Config.RegistryConfig) : Actor → Config.ConfigRegistry → Prop
  | fresh (registry : KirbyOcpp.ConfigRegistry) (now : Instant) (mono : Int) :
      Together config keys (.start config registry now mono none) (.new keys)
  | restarted (registry : KirbyOcpp.ConfigRegistry) (now : Instant) (mono : Int) (saved : PersistedStation)
      (values : List (Text × Text)) :
      Together config keys (.start config registry now mono (some saved))
        (.restarted keys (restoredCount config saved) values)
  | step {a : Actor} {r : Config.ConfigRegistry} (earlier : Together config keys a r) (wake : Wake) :
      Together config keys (a.step wake) (r.setConnectorCount (a.step wake).highestId)
  | change {a : Actor} {r : Config.ConfigRegistry} (earlier : Together config keys a r) (name value : Text) :
      Together config keys a (r.change name value).1
  | authorizationKey {a : Actor} {r : Config.ConfigRegistry} (earlier : Together config keys a r) (key : Text) :
      Together config keys a (r.setInternal Config.Key.authorizationKey key)

/-- The keys describe the connectors of the station. -/
structure Tied (config : StationConfig) (keys : Config.RegistryConfig) (a : Actor) (r : Config.ConfigRegistry) :
    Prop where
  ids : Ids (a.ledger [] .none)
  reached : Config.ConfigRegistry.Reached keys r
  count : r.connectorCount = a.highestId
  configured : config.connectorCount ≤ a.highestId

theorem Together.tied {config : StationConfig} {keys : Config.RegistryConfig} {r : Config.ConfigRegistry}
    (h : Together config keys a r)
    (counted : config.connectorCount = (Config.ConfigRegistry.new keys).connectorCount) : Tied config keys a r := by
  induction h with
  | fresh registry now mono =>
    have highest := highestId_start config registry now mono
    exact ⟨start_ids config registry now mono none, .new, by rw [highest, counted], highest.ge⟩
  | restarted registry now mono saved values =>
    have highest := highestId_restarted config registry now mono saved
    have least : config.connectorCount ≤ restoredCount config saved := Nat.le_max_right _ _
    refine ⟨start_ids config registry now mono (some saved), Config.ConfigRegistry.reached_restarted keys _ values,
      ?_, by rw [highest]; exact least⟩
    rw [Config.ConfigRegistry.connectorCount_restarted, highest, ← counted]
    exact max_eq_right least
  | @step a r _ wake ih =>
    have permits := permits_losing (a.woken wake) wake.input (.inl (rfl : true = true))
    have more := highestId_step a wake ih.ids
    refine ⟨(ids_preserved _).path (a.step_path wake ih.ids permits) ih.ids, ih.reached.grow _, ?_,
      ih.configured.trans more⟩
    rw [Config.ConfigRegistry.connectorCount_setConnectorCount, ih.count]
    exact max_eq_right more
  | change _ name value ih =>
    exact ⟨ih.ids, ih.reached.change name value, (Config.ConfigRegistry.connectorCount_change name value).trans ih.count,
      ih.configured⟩
  | authorizationKey _ key ih => exact ⟨ih.ids, ih.reached.authorizationKey key, ih.count, ih.configured⟩

/-- A file that no connector is beyond the bound of gives all of them back. -/
theorem Tied.restoredCount {config : StationConfig} {keys : Config.RegistryConfig} {r : Config.ConfigRegistry}
    (h : Tied config keys a r) (known : ∀ c ∈ a.connectors, c.id ≤ max maxRestoredConnectors config.connectorCount) :
    restoredCount config a.buildPersisted = a.highestId := by
  have listed : a.buildPersisted.connectors.map (·.id) = a.connectors.map (·.id) := by
    unfold buildPersisted
    rw [List.map_map]
    rfl
  have within : a.highestId ≤ max maxRestoredConnectors config.connectorCount := by
    refine List.max_le_of_forall_le _ _ fun id mem => ?_
    obtain ⟨c, there, rfl⟩ := List.mem_map.mp mem
    exact known c there
  -- Distinct ids from 1 on: there are at most as many as the highest.
  have fewer : a.connectors.length ≤ a.highestId := by
    have bounded : (a.connectors.map (·.id)).toFinset ⊆ Finset.Icc 1 a.highestId := by
      intro id mem
      rw [List.mem_toFinset] at mem
      obtain ⟨c, there, rfl⟩ := List.mem_map.mp mem
      have physical := h.ids.physical c there
      simp only [isStation, station, beq_eq_false_iff_ne] at physical
      exact Finset.mem_Icc.mpr ⟨Nat.pos_of_ne_zero physical, List.le_max_of_le' 0 mem le_rfl⟩
    have nodup : (a.connectors.map (·.id)).Nodup := h.ids.nodup
    have card := Finset.card_le_card bounded
    rwa [List.toFinset_card_of_nodup nodup, List.length_map, Nat.card_Icc] at card
  unfold Actor.restoredCount
  rw [listed]
  have same : max a.buildPersisted.connectorCount ((a.connectors.map (·.id)).foldr max 0) = a.highestId :=
    max_eq_right fewer
  rw [same]
  have := h.configured
  omega

/-- A clean restart is invisible exactly for a settled station whose phase rotation survives. -/
theorem clean_restart (config : StationConfig) (keys : Config.RegistryConfig) (r : Config.ConfigRegistry)
    (counted : config.connectorCount = (Config.ConfigRegistry.new keys).connectorCount)
    (together : Together config keys a r) (registry : KirbyOcpp.ConfigRegistry) (now : Instant) (mono : Int)
    (clean : Clean a) :
    (SameStation a (loaded config registry now mono (some a.buildPersisted)) ∧
      ∀ entry ∈ r.entries, entry.secret = false →
        (restartedKeys config keys a r).value entry.key = some entry.value) ↔
    Settled config a ∧ Config.ConfigRegistry.KeepsRotation keys (restoredCount config a.buildPersisted) r := by
  have tied := together.tied counted
  have ids := tied.ids
  unfold restartedKeys
  obtain ⟨queued, restored⟩ := clean.restarted ids config registry now mono
  have found := loaded_ids config registry now mono (some a.buildPersisted)
  have station : SameStation a (loaded config registry now mono (some a.buildPersisted)) ↔ Settled config a := by
    constructor
    · intro same
      have known : ∀ c ∈ a.connectors, c.id ≤ max maxRestoredConnectors config.connectorCount := by
        intro c mem
        obtain ⟨c', mem', eq, -⟩ := same.connectors c mem
        have listed : c.id ∈ (restoredConnectors config a.buildPersisted).map (·.id) := by
          obtain ⟨d, was, rfl⟩ := List.mem_map.mp mem'
          obtain ⟨e, there, rfl⟩ := List.mem_map.mp was
          rw [withAvailability_id, withoutLostStop_id, withoutLostStart_id] at eq
          exact eq ▸ List.mem_map_of_mem there
        rw [restoredConnectors_ids] at listed
        obtain ⟨index, below, eq'⟩ := List.mem_map.mp listed
        have within : c.id ≤ Actor.restoredCount config a.buildPersisted := by
          rw [← eq']
          exact List.mem_range.mp below
        refine within.trans (max_le ?_ (Nat.le_max_right _ _))
        exact (Nat.min_le_right _ _).trans (Nat.le_max_left _ _)
      have kept (c : ConnectorSnapshot) (mem : c ∈ a.connectors) : SameConnector c (recovered c) := by
        obtain ⟨c', mem', eq, equal⟩ := same.connectors c mem
        have there := restored c mem (known c mem)
        have unique := List.inj_on_of_nodup_map found.nodup there mem' (by rw [recovered_id, eq])
        rw [unique]
        exact equal
      refine ⟨known, fun c mem idle => ?_, fun c mem idle => ?_, ?_⟩
      · exact (recovered_changes (kept c mem) idle).1
      · exact (recovered_changes (kept c mem) idle).2
      · exact (backfillInstalledAt_iff a.profiles now).mp same.profiles
    · intro settled
      refine ⟨fun c mem => ?_, rfl, queued, rfl, rfl, (backfillInstalledAt_iff a.profiles now).mpr settled.installed⟩
      refine ⟨recovered c, restored c mem (settled.known c mem), recovered_id c, ?_⟩
      exact recovered_same (settled.unavailable c mem) (settled.applied c mem)
  rw [station]
  refine and_congr_right fun settled => ?_
  rw [← tied.reached.restarted_iff]
  constructor
  · exact fun all entry mem _ shown => all entry mem shown
  · intro writable entry mem shown
    by_cases locked : entry.readonly = true
    · refine tied.reached.restarted_readonly ?_ mem locked
      rw [tied.count, tied.restoredCount settled.known, ← counted]
      exact (max_eq_right tied.configured).symm
    · exact writable entry mem (Bool.eq_false_iff.mpr locked) shown

/-- The keys along with a replay. -/
def counting (now : Instant) (mono : Int) : Actor → Config.ConfigRegistry → List Input → Config.ConfigRegistry
  | _, r, [] => r
  | a, r, input :: inputs =>
    let next := a.step { input, now, mono }
    counting now mono next (r.setConnectorCount next.highestId) inputs

theorem Together.replay {config : StationConfig} {keys : Config.RegistryConfig} {r : Config.ConfigRegistry}
    (h : Together config keys a r) (now : Instant) (mono : Int) (inputs : List Input) :
    Together config keys (a.replay now mono inputs) (counting now mono a r inputs) := by
  induction inputs generalizing a r with
  | nil => exact h
  | cons input inputs ih => exact ih (h.step { input, now, mono })

/-- A charging station with two connectors more than configured, a reservation, an offline start in the queue
and a changed key. -/
theorem clean_restart_charging :
    let config : StationConfig := { connectorCount := 2 }
    let keys : Config.RegistryConfig := { connectorCount := 2 }
    let fresh := start config {} 1000000000000 0 none
    let inputs : List Input :=
      [.command .connect 0, .connected 1 true none, .callDone 0 1 (.ok (.boot .accepted 0 0)),
        .command .addConnector 1, .command .addConnector 2, .command (.plugIn 1) 3,
        .command (.startTransaction 1 (.single 'A')) 4,
        .callDone 8 1 (.ok (.startTransaction 7 { status := .accepted })),
        .incoming (.reserveNow { connectorId := 2, expiryDate := 2000000000000, idTag := .single 'B'
                                 parentIdTag := none, reservationId := 9 }),
        .incoming (.changeAvailability 3 .inoperative), .closed none, .command (.plugIn 4) 5,
        .command (.startTransaction 4 (.single 'C')) 6]
    let a := fresh.replay 1000000000000 0 inputs
    let r := ((counting 1000000000000 0 fresh (.new keys) inputs).change Config.Key.heartbeatInterval "60".toList).1
    (a.connector 1).bind (·.transaction.txId) = some (.csms 7) ∧
      (a.connector 2).bind (·.reservation) ≠ none ∧
      (a.connector 3).map (·.availability) = some .inoperative ∧
      (a.connector 4).map (·.transaction.isIdle) = some false ∧ a.queue ≠ [] ∧
      r.value Config.Key.numberOfConnectors = some "4".toList ∧
      r.value Config.Key.heartbeatInterval = some "60".toList ∧
      SameStation a (loaded config {} 1000000000000 0 (some a.buildPersisted)) ∧
      ∀ entry ∈ r.entries, entry.secret = false →
        (restartedKeys config keys a r).value entry.key = some entry.value := by
  intro config keys fresh inputs a r
  have together : Together config keys a r :=
    ((Together.fresh {} 1000000000000 0).replay 1000000000000 0 inputs).change _ _
  have queued : ∀ c ∈ a.connectors, c.transaction.isActive = true ∨
      ∀ tx ∈ c.transaction.txId, ∃ e ∈ a.queue, e.txId = tx := by decide +kernel
  have clean : Clean a := by
    refine ⟨by decide +kernel, fun c mem p waits => ?_⟩
    have := queued c mem
    rw [waits] at this
    exact (this.resolve_left Bool.false_ne_true) p.txId rfl
  have settled : Settled config a :=
    ⟨by decide +kernel, by decide +kernel, by decide +kernel, by decide +kernel⟩
  have rotation : Config.ConfigRegistry.KeepsRotation keys (restoredCount config a.buildPersisted) r := by
    intro value current
    have same : r.value Config.Key.connectorPhaseRotation =
        ((Config.ConfigRegistry.new keys).setConnectorCount (restoredCount config a.buildPersisted)).value
          Config.Key.connectorPhaseRotation := by decide +kernel
    exact .inr (same.symm.trans current)
  exact ⟨by decide +kernel, by decide +kernel, by decide +kernel, by decide +kernel, by decide +kernel,
    by decide +kernel, by decide +kernel,
    (clean_restart config keys r (by decide +kernel) together {} 1000000000000 0 clean).mpr ⟨settled, rotation⟩⟩

/-- The CSMS makes a faulted connector inoperative: it stays `Faulted`, and is `Unavailable` after a restart. -/
theorem faulted_restart_visible :
    let fresh := start { connectorCount := 1 } {} 1000000000000 0 none
    let inputs : List Input :=
      [.command .connect 0, .connected 1 true none, .callDone 0 1 (.ok (.boot .accepted 0 0)),
        .command (.fault 1 .groundFailure none none) 1, .incoming (.changeAvailability 1 .inoperative)]
    let a := fresh.replay 1000000000000 0 inputs
    let b := loaded { connectorCount := 1 } {} 1000000000000 0 (some a.buildPersisted)
    Together { connectorCount := 1 } {} a (counting 1000000000000 0 fresh (.new {}) inputs) ∧ Clean a ∧
      (a.connector 1).map (·.status) = some .faulted ∧ (b.connector 1).map (·.status) = some .unavailable ∧
      ¬SameStation a b := by
  intro fresh inputs a b
  have idle : ∀ c ∈ a.connectors, c.transaction = .idle := by decide +kernel
  have clean : Clean a := by
    refine ⟨fun c mem => by rw [idle c mem]; rfl, fun c mem p waits => ?_⟩
    rw [idle c mem] at waits
    cases waits
  refine ⟨(Together.fresh {} 1000000000000 0).replay _ _ _, clean, by decide +kernel, by decide +kernel, fun same => ?_⟩
  have faulted : ∃ c ∈ a.connectors, c.status = .faulted := by decide +kernel
  have unavailable : ∀ c ∈ b.connectors, c.status = .unavailable := by decide +kernel
  obtain ⟨c, mem, status⟩ := faulted
  obtain ⟨c', mem', -, equal⟩ := same.connectors c mem
  have := equal.status
  rw [unavailable c' mem', status] at this
  cases this

end Actor

end KirbyOcpp
