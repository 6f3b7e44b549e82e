import KirbyOcpp.Ledger.Calls

/-!
# The connectors of the ledger

No transition removes a connector or changes its id: the ids stay distinct and physical.
-/

namespace KirbyOcpp

open Paths Relation

/-! ## Updates keep the id -/

@[simp] theorem clearReservation_id (c : ConnectorSnapshot) : (clearReservation c).id = c.id := by
  unfold clearReservation
  dsimp only
  repeat' split
  all_goals rfl

@[simp] theorem chargingConnector_id (idTag : IdTag) (c : ConnectorSnapshot) :
    (Actor.chargingConnector idTag c).id = c.id := clearReservation_id c

@[simp] theorem startedConnector_id (pending : PendingStart) (c : ConnectorSnapshot) :
    (Actor.startedConnector pending c).id = c.id := rfl

@[simp] theorem abandonedConnector_id (c : ConnectorSnapshot) :
    (Actor.abandonedConnector c).id = c.id := rfl

@[simp] theorem forgetTransaction_id (tx : TxId) (c : ConnectorSnapshot) :
    (Actor.forgetTransaction tx c).id = c.id := by
  unfold Actor.forgetTransaction
  split <;> rfl

@[simp] theorem activatedConnector_id (localId real : TxId) (entry : OfflineTx) (c : ConnectorSnapshot) :
    (Actor.activatedConnector localId real entry c).id = c.id := by
  unfold Actor.activatedConnector
  dsimp only
  split <;> rfl

@[simp] theorem droppedConnector_id (localId : TxId) (c : ConnectorSnapshot) :
    (Actor.droppedConnector localId c).id = c.id := by
  unfold Actor.droppedConnector
  split <;> rfl

@[simp] theorem applied_id (pending : Option AvailabilityType) (c : ConnectorSnapshot) :
    (c.applied pending).id = c.id := by
  cases pending <;> rfl

@[simp] theorem changedAvailability_id (kind : AvailabilityType) (c : ConnectorSnapshot) :
    (Actor.changedAvailability kind c).id = c.id := by
  unfold Actor.changedAvailability
  dsimp only
  split <;> rfl

/-- What `update` does to one connector. -/
def updated (id : ConnectorId) (f : ConnectorSnapshot → ConnectorSnapshot) (c : ConnectorSnapshot) :
    ConnectorSnapshot :=
  if isStation id = false ∧ c.id = id then f c else c

/-- An update is a map over the connectors. -/
theorem Ledger.update_connectors (l : Ledger) (id : ConnectorId)
    (f : ConnectorSnapshot → ConnectorSnapshot) :
    (l.update id f).connectors = l.connectors.map (updated id f) := by
  unfold Ledger.update updateConnector updated
  dsimp only
  split
  · rename_i h
    simp [h]
  · rename_i h
    simp [h]

/-- An update keeps the id. -/
theorem updated_id {id : ConnectorId} {f : ConnectorSnapshot → ConnectorSnapshot} {c : ConnectorSnapshot}
    (h : c.id = id → (f c).id = c.id) : (updated id f c).id = c.id := by
  unfold updated
  split
  · rename_i same
    exact h same.2
  · rfl

/-! ## The ids -/

/-- The connectors are changed one by one, and the ids stay; or one is added. -/
theorem Trans.connectors {allow : Allow} {l l' : Ledger} (step : Trans allow l l') :
    (∃ f : ConnectorSnapshot → ConnectorSnapshot, l'.connectors = l.connectors.map f ∧
      ∀ c ∈ l.connectors, (f c).id = c.id) ∨
    (∃ id, l'.connectors = l.connectors ++ [newConnector id] ∧ (∀ c ∈ l.connectors, c.id ≠ id) ∧
      isStation id = false) := by
  have same (h : l'.connectors = l.connectors) :
      ∃ f : ConnectorSnapshot → ConnectorSnapshot, l'.connectors = l.connectors.map f ∧
        ∀ c ∈ l.connectors, (f c).id = c.id := ⟨id, by simpa using h, fun _ _ => rfl⟩
  have update (id : ConnectorId) (f : ConnectorSnapshot → ConnectorSnapshot)
      (h : l'.connectors = (l.update id f).connectors)
      (keeps : ∀ c ∈ l.connectors, c.id = id → (f c).id = c.id) :
      ∃ f : ConnectorSnapshot → ConnectorSnapshot, l'.connectors = l.connectors.map f ∧
        ∀ c ∈ l.connectors, (f c).id = c.id :=
    ⟨updated id f, h.trans (l.update_connectors id f), fun c mem => updated_id (keeps c mem)⟩
  cases step with
  | quiet step =>
    cases step with
    | reshape f h => exact .inl ⟨f, rfl, fun c mem => (h c mem).id⟩
    | _ => exact .inl (same rfl)
  | power f h =>
    refine .inl ⟨f, rfl, fun c mem => ?_⟩
    rcases h c mem with mild | powered
    · exact mild.id
    · exact powered.id
  | change => exact .inl (update _ _ rfl (by simp))
  | grow id known physical => exact .inr ⟨id, rfl, known, physical⟩
  | openStart => exact .inl (update _ _ rfl (by simp))
  | charge => exact .inl (update _ _ rfl (by simp))
  | abandonStart => exact .inl (update _ _ rfl (by simp))
  | activate => exact .inl (update _ _ rfl (by simp))
  | refuseOpened => exact .inl (update _ _ rfl (by simp))
  | beginStop id c tx info f hand found target kept =>
    exact .inl (update _ _ rfl fun c mem same => (kept c mem same).id)
  | markStopping => exact .inl (update _ _ rfl (by simp))
  | queueStop => exact .inl (update _ _ rfl (by simp))
  | queueNewStop => exact .inl (update _ _ rfl (by simp))
  | confirmStop => exact .inl (update _ _ rfl (by simp))
  | assign => exact .inl (update _ _ rfl (by simp))
  | refuseQueued => exact .inl (update _ _ rfl (by simp))
  | _ => exact .inl (same rfl)

/-- The ids are distinct and none is the station's. -/
structure Ids (l : Ledger) : Prop where
  nodup : (l.connectors.map (·.id)).Nodup
  physical : ∀ c ∈ l.connectors, isStation c.id = false

/-- No step takes an id that is in use. -/
theorem ids_preserved (allow : Allow) : Preserves (Trans allow) Ids := by
  intro l l' step h
  rcases step.connectors with ⟨f, eq, keeps⟩ | ⟨id, eq, known, physical⟩
  · have ids : l'.connectors.map (·.id) = l.connectors.map (·.id) := by
      rw [eq, List.map_map]
      exact List.map_congr_left keeps
    refine ⟨ids ▸ h.nodup, fun c mem => ?_⟩
    rw [eq] at mem
    obtain ⟨d, old, rfl⟩ := List.mem_map.mp mem
    rw [keeps d old]
    exact h.physical d old
  · constructor
    · rw [eq, List.map_append, List.nodup_append]
      refine ⟨h.nodup, by simp, fun other mem new hnew same => ?_⟩
      obtain ⟨c, old, rfl⟩ := List.mem_map.mp mem
      obtain rfl : new = id := by simpa [newConnector] using hnew
      exact known c old same
    · intro c mem
      rw [eq, List.mem_append] at mem
      rcases mem with mem | mem
      · exact h.physical c mem
      · obtain rfl : c = newConnector id := by simpa using mem
        exact physical

/-- A connector of the ledger is found by its id. -/
theorem Ids.connector {l : Ledger} (h : Ids l) {c : ConnectorSnapshot} (mem : c ∈ l.connectors) :
    l.connector c.id = some c := by
  unfold Ledger.connector
  rw [if_neg (by simp [h.physical c mem])]
  cases found : l.connectors.find? fun d => d.id == c.id with
  | none => simpa using List.find?_eq_none.mp found c mem
  | some d =>
    have same : d.id = c.id := by simpa using List.find?_some found
    rw [List.inj_on_of_nodup_map h.nodup (List.mem_of_find?_eq_some found) mem same]

/-- What is found by its id is a connector of the ledger. -/
theorem Ledger.mem_of_connector {l : Ledger} {id : ConnectorId} {c : ConnectorSnapshot}
    (found : l.connector id = some c) : c ∈ l.connectors ∧ c.id = id := by
  unfold Ledger.connector at found
  split at found
  · cases found
  · exact ⟨List.mem_of_find?_eq_some found, by simpa using List.find?_some found⟩

/-- The connector with an id is the one that is found. -/
theorem Ids.unique {l : Ledger} (h : Ids l) {id : ConnectorId} {c d : ConnectorSnapshot}
    (found : l.connector id = some c) (mem : d ∈ l.connectors) (same : d.id = id) : d = c := by
  subst same
  exact Option.some.inj ((h.connector mem).symm.trans found)

end KirbyOcpp
