import KirbyOcpp.Ledger.Step

/-!
# Runs and reachable states

A run of one process is a path of the ledger. An actor is reachable when a chain of processes leads to
it: the first one starts without a state file, every other one from a file that an earlier process wrote,
the latest or not.

**The rules**: what survives every transition survives a run (`Runs.invariant`), and what holds of every
started process and survives every allowed iteration holds in every reachable state (`ReachableVia.inductive`).
-/

namespace KirbyOcpp

open Paths Relation

variable {allow : Allow} {I : Ledger → Prop}

/-! ## Runs -/

/-- A run of one process whose iterations are `allowed`. -/
def Runs (allowed : Actor → Wake → Prop) : Actor → Actor → Prop :=
  ReflTransGen fun a b => ∃ wake, allowed a wake ∧ b = a.step wake

/-- The iterations that need no more than the permissions. -/
def Permitted (allow : Allow) (a : Actor) (wake : Wake) : Prop :=
  Actor.Permits allow (a.woken wake) wake.input

/-- A run is a path, and the ids stay distinct. -/
theorem Runs.path {a b : Actor} (run : Runs (Permitted allow) a b) (ids : Ids (a.ledger [] .none)) :
    Path allow (a.ledger [] .none) (b.ledger [] .none) := by
  induction run with
  | refl => exact .refl
  | tail _ step ih =>
    obtain ⟨wake, permits, rfl⟩ := step
    exact ih.trans (Actor.step_path _ wake ((ids_preserved allow).path ih ids) permits)

/-- What survives every transition survives a run. -/
theorem Runs.invariant {a b : Actor} (run : Runs (Permitted allow) a b) (ids : Ids (a.ledger [] .none))
    (preserves : Preserves (Trans allow) I) (h : I (a.ledger [] .none)) : I (b.ledger [] .none) :=
  preserves.path (run.path ids) h

/-! ## The start of a process -/

namespace Actor

private theorem afterRestore_path (a : Actor) (releases : allow.bare = true ∨ allow.releases = true) :
    Path allow (a.ledger [] .none) (a.afterRestore.ledger [] .none) := by
  unfold afterRestore
  refine .trans (releaseExpiredReservations_path releases a) ?_
  generalize a.releaseExpiredReservations = b
  dsimp only
  refine .trans ?_ ((rescheduleMetering_quiet _).path [] .none)
  exact path_foldl (fun a => a.ledger [] .none) _ (fun id _ a => armReservation_path releases a id) b

/-- The actor before `after_restore`. -/
def loaded (config : StationConfig) (registry : ConfigRegistry) (now : Instant) (mono : Int)
    (saved : Option PersistedStation) : Actor :=
  match saved with
  | some saved => (fresh config registry now mono).restore saved
  | none => fresh config registry now mono

/-- What follows a restore is a path. -/
theorem start_path (config : StationConfig) (registry : ConfigRegistry) (now : Instant) (mono : Int)
    (saved : Option PersistedStation) (releases : allow.bare = true ∨ allow.releases = true) :
    Path allow ((loaded config registry now mono saved).ledger [] .none)
      ((start config registry now mono saved).ledger [] .none) := by
  unfold start loaded
  cases saved with
  | none => exact (afterRestore_path _ releases).trans ((settleMeters_quiet _).path [] .none)
  | some saved => exact (afterRestore_path _ releases).trans ((settleMeters_quiet _).path [] .none)

/-! ## The connectors of a new process -/

/-- New connectors are numbered from 1. -/
theorem freshConnectors_ids (count : Nat) :
    (freshConnectors count).map (·.id) = (List.range count).map (· + 1) := by
  simp [freshConnectors, newConnector, Function.comp_def]

/-- A restored connector keeps its id. -/
theorem restoredConnector_id (saved : PersistedConnector) (c : ConnectorSnapshot) :
    (restoredConnector saved c).id = c.id := rfl

/-- A connector without its lost start keeps its id. -/
theorem withoutLostStart_id (queue : OfflineQueue) (c : ConnectorSnapshot) :
    (withoutLostStart queue c).id = c.id := by
  unfold withoutLostStart
  repeat' split
  all_goals rfl

/-- A connector without its lost stop keeps its id. -/
theorem withoutLostStop_id (c : ConnectorSnapshot) : (withoutLostStop c).id = c.id := by
  unfold withoutLostStop
  split <;> rfl

/-- A connector whose change is applied keeps its id. -/
theorem withAvailability_id (c : ConnectorSnapshot) : (withAvailability c).id = c.id := by
  unfold withAvailability
  dsimp only
  repeat' split
  all_goals rfl

/-- To update a connector keeps the ids. -/
theorem updateConnector_ids (connectors : List ConnectorSnapshot) (id : ConnectorId)
    {f : ConnectorSnapshot → ConnectorSnapshot} (h : ∀ c, (f c).id = c.id) :
    (updateConnector connectors id f).map (·.id) = connectors.map (·.id) := by
  unfold updateConnector
  rw [List.map_map]
  refine List.map_congr_left fun c _ => ?_
  simp only [Function.comp_apply]
  split
  · exact h c
  · rfl

/-- How many connectors a process has after a restore. -/
def restoredCount (config : StationConfig) (saved : PersistedStation) : Nat :=
  max (min (max saved.connectorCount ((saved.connectors.map (·.id)).foldr max 0)) maxRestoredConnectors)
    config.connectorCount

/-- Restored connectors are numbered from 1. -/
theorem restoredConnectors_ids (config : StationConfig) (saved : PersistedStation) :
    (restoredConnectors config saved).map (·.id) =
      (List.range (restoredCount config saved)).map (· + 1) := by
  unfold restoredConnectors
  dsimp only
  have fold (cs : List PersistedConnector) (connectors : List ConnectorSnapshot) :
      (cs.foldl (fun connectors c => updateConnector connectors c.id (restoredConnector c))
        connectors).map (·.id) = connectors.map (·.id) := by
    induction cs generalizing connectors with
    | nil => rfl
    | cons c cs ih =>
      rw [List.foldl_cons, ih]
      exact updateConnector_ids _ _ (restoredConnector_id c)
  rw [fold]
  exact freshConnectors_ids _

/-- The ids of a new process are the numbers from 1 on. -/
theorem loaded_connectorIds (config : StationConfig) (registry : ConfigRegistry) (now : Instant)
    (mono : Int) (saved : Option PersistedStation) :
    ∃ count, (loaded config registry now mono saved).connectors.map (·.id) =
      (List.range count).map (· + 1) := by
  cases saved with
  | none => exact ⟨_, freshConnectors_ids config.connectorCount⟩
  | some saved =>
    refine ⟨restoredCount config saved, ?_⟩
    rw [← restoredConnectors_ids]
    unfold loaded restore
    dsimp only
    rw [List.map_map, List.map_map]
    refine List.map_congr_left fun c _ => ?_
    simp only [Function.comp_apply, withAvailability_id, withoutLostStop_id, withoutLostStart_id]

/-- The ids of a process are distinct before `after_restore`. -/
theorem loaded_ids (config : StationConfig) (registry : ConfigRegistry) (now : Instant) (mono : Int)
    (saved : Option PersistedStation) : Ids ((loaded config registry now mono saved).ledger [] .none) := by
  obtain ⟨count, ids⟩ := loaded_connectorIds config registry now mono saved
  generalize loaded config registry now mono saved = a at ids
  constructor
  · change (a.connectors.map (·.id)).Nodup
    rw [ids]
    exact List.nodup_range.map fun _ _ h => Nat.succ.inj h
  · intro c mem
    have mem : c.id ∈ a.connectors.map (·.id) := List.mem_map_of_mem mem
    rw [ids] at mem
    obtain ⟨index, -, eq⟩ := List.mem_map.mp mem
    rw [← eq]
    simp [isStation, station]

/-- The ids of a process are distinct when its loop begins. -/
theorem start_ids (config : StationConfig) (registry : ConfigRegistry) (now : Instant) (mono : Int)
    (saved : Option PersistedStation) : Ids ((start config registry now mono saved).ledger [] .none) :=
  (ids_preserved {}).path (start_path config registry now mono saved (.inl rfl))
    (loaded_ids config registry now mono saved)

end Actor

/-! ## Reachable states -/

/-- The states that a chain of processes reaches by iterations that are `allowed`, and by restarts from files
that are `restorable`. -/
inductive ReachableVia (allowed : Actor → Wake → Prop) (restorable : PersistedStation → Prop) :
    Actor → Prop
  | fresh {a : Actor} (config : StationConfig) (registry : ConfigRegistry) (now : Instant) (mono : Int)
      (run : Runs allowed (.start config registry now mono none) a) : ReachableVia allowed restorable a
  | restarted {a b : Actor} (earlier : ReachableVia allowed restorable b) (config : StationConfig)
      (registry : ConfigRegistry) (now : Instant) (mono : Int) (saved : PersistedStation)
      (written : saved ∈ b.written) (ok : restorable saved)
      (run : Runs allowed (.start config registry now mono (some saved)) a) : ReachableVia allowed restorable a

/-- The states that a chain of processes reaches by iterations that are `allowed`. -/
abbrev Reachable (allowed : Actor → Wake → Prop) : Actor → Prop := ReachableVia allowed fun _ => True

variable {restorable : PersistedStation → Prop}

/-- An allowed iteration reaches another state. -/
theorem ReachableVia.step {allowed : Actor → Wake → Prop} {a : Actor} (h : ReachableVia allowed restorable a)
    (wake : Wake) (ok : allowed a wake) : ReachableVia allowed restorable (a.step wake) := by
  cases h with
  | fresh config registry now mono run =>
    exact .fresh config registry now mono (run.tail ⟨wake, ok, rfl⟩)
  | restarted earlier config registry now mono saved written restored run =>
    exact .restarted earlier config registry now mono saved written restored (run.tail ⟨wake, ok, rfl⟩)

/-- The inputs one after the other, with the clocks standing still. -/
def Actor.replay (a : Actor) (now : Instant) (mono : Int) (inputs : List Input) : Actor :=
  inputs.foldl (fun a input => a.step { input, now, mono }) a

/-- A replay of allowed inputs is a run. -/
theorem Runs.replay {allowed : Actor → Wake → Prop} (a : Actor) (now : Instant) (mono : Int)
    (inputs : List Input) (ok : ∀ input ∈ inputs, ∀ b, allowed b { input, now, mono }) :
    Runs allowed a (a.replay now mono inputs) := by
  unfold Actor.replay
  induction inputs using List.reverseRecOn with
  | nil => exact .refl
  | append_singleton inputs input ih =>
    rw [List.foldl_append]
    refine (ih fun earlier mem => ok earlier (List.mem_append_left _ mem)).tail ⟨_, ?_, rfl⟩
    exact ok input (List.mem_append_right _ List.mem_cons_self) _

/-- A replay is reachable. -/
theorem Reachable.replay (config : StationConfig) (registry : ConfigRegistry) (now now' : Instant)
    (mono : Int) (inputs : List Input) :
    Reachable (fun _ _ => True) ((Actor.start config registry now mono none).replay now' mono inputs) :=
  .fresh config registry now mono (.replay _ now' mono inputs fun _ _ _ => trivial)

/-- What holds of every started process and survives every allowed iteration holds in every reachable
state. -/
theorem ReachableVia.inductive {allowed : Actor → Wake → Prop} {P : Actor → Prop}
    (fresh : ∀ config registry now mono, P (.start config registry now mono none))
    (restarted : ∀ config registry now mono (b : Actor) saved, P b → saved ∈ b.written → restorable saved →
      P (.start config registry now mono (some saved)))
    (step : ∀ a wake, P a → allowed a wake → P (a.step wake)) {a : Actor}
    (h : ReachableVia allowed restorable a) : P a := by
  have runs {a b : Actor} (run : Runs allowed a b) (h : P a) : P b := by
    refine Preserves.path (fun a b next h => ?_) run h
    obtain ⟨wake, ok, rfl⟩ := next
    exact step a wake h ok
  induction h with
  | fresh config registry now mono run => exact runs run (fresh config registry now mono)
  | restarted _ config registry now mono saved written ok run ih =>
    exact runs run (restarted config registry now mono _ saved ih written ok)

end KirbyOcpp
