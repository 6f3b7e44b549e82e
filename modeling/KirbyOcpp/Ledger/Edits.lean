import KirbyOcpp.Ledger.Connectors

/-!
# What one transition does to one connector

`Edit` lists the changes of a connector that a transition can make. Properties of single connectors
follow from it by a case analysis, without the transitions.
-/

namespace KirbyOcpp

open Paths Relation

/-- The id that the CSMS has just assigned. -/
def Hand.assigned? : Hand → Option Int
  | .opened _ _ _ transactionId | .slotOpened _ transactionId => some transactionId
  | _ => Option.none

/-- How one transition changes a connector. -/
inductive Edit (allow : Allow) (l : Ledger) : ConnectorSnapshot → ConnectorSnapshot → Prop
  | mild {c c' : ConnectorSnapshot} (h : Mild c c') : Edit allow l c c'
  | powered {c c' : ConnectorSnapshot} (h : Powered allow l c c') : Edit allow l c c'
  | change (c : ConnectorSnapshot) (kind : AvailabilityType) (changes : allow.changes = true) :
      Edit allow l c (Actor.changedAvailability kind c)
  | changeStation (c : ConnectorSnapshot) (kind : AvailabilityType) (station : c = l.chargePoint)
      (changes : allow.changes = true) :
      Edit allow l c (Actor.stationAvailability kind c)
  | start (c : ConnectorSnapshot) (pending : PendingStart) (idle : c.transaction.isIdle = true)
      (key : pending.txId = .loc (l.nextLocal + 1)) (usable : c.status ≠ .faulted)
      (operative : c.availability = .operative) (starts : allow.starts = true)
      (passes : ∀ r, c.reservation = some r → pending.Passes r) :
      Edit allow l c (Actor.startedConnector pending c)
  | charge (c : ConnectorSnapshot) (idTag : IdTag) (usable : c.status ≠ .faulted)
      (plugged : c.evConnected = true) (starts : allow.starts = true) :
      Edit allow l c (Actor.chargingConnector idTag c)
  | abandon (c : ConnectorSnapshot) (localId : TxId) (held : c.txId = some localId) :
      Edit allow l c ((Actor.abandonedConnector c).applied c.pendingAvailability)
  | activate (c : ConnectorSnapshot) (active : ActiveTransaction) (localId : TxId)
      (held : c.txId = some localId) (transactionId : Int) (tx : active.txId = .csms transactionId)
      (usable : c.status ≠ .faulted) (plugged : allow.bare = true ∨ c.evConnected = true)
      (starts : allow.starts = true) (assigned : l.hand.assigned? = some transactionId) :
      Edit allow l c (Actor.chargingConnector active.idTag { c with transaction := .active active })
  | halt {c c' : ConnectorSnapshot} (tx : TxId) (session : Nat) (h : Halts c c')
      (target : Stoppable l c tx session) (stops : allow.stops c.id = true) : Edit allow l c c'
  | mark (c : ConnectorSnapshot) (stopping : StoppingTransaction) (held : c.txId = some stopping.txId)
      (wire : stopping.txId.isLocal = false) :
      Edit allow l c { c with transaction := .stopping stopping }
  | forget (c : ConnectorSnapshot) (tx : TxId)
      (ends : allow.early = true ∨ c.txId = some tx ∨ c.pendingAvailability = none) :
      Edit allow l c ((Actor.forgetTransaction tx c).applied c.pendingAvailability)
  | assign (c : ConnectorSnapshot) (localId : TxId) (transactionId : Int) (entry : OfflineTx)
      (starts : allow.starts = true) (assigned : l.hand.assigned? = some transactionId) :
      Edit allow l c (Actor.activatedConnector localId (.csms transactionId) entry c)
  | drop (c : ConnectorSnapshot) (localId : TxId)
      (ends : allow.early = true ∨ c.txId = some localId ∨ c.pendingAvailability = none)
      (unmasked : allow.mask = true ∨ (c.txId = some localId → c.status ≠ .faulted)) :
      Edit allow l c ((Actor.droppedConnector localId c).applied c.pendingAvailability)

variable {allow : Allow} {l l' : Ledger} {c c' : ConnectorSnapshot}

theorem Edit.refl (c : ConnectorSnapshot) : Edit allow l c c := .mild (.refl c)

@[simp] theorem Edit.id (h : Edit allow l c c') : c'.id = c.id := by
  cases h with
  | mild h => exact h.id
  | powered h => exact h.id
  | halt _ _ h => exact h.id
  | change => simp
  | changeStation => rfl
  | start => simp
  | charge => simp
  | abandon => simp
  | activate => simp
  | mark => rfl
  | forget => simp
  | assign => simp
  | drop => simp

/-! ## All connectors -/

/-- What a transition does to the connectors. -/
structure Edits (allow : Allow) (l l' : Ledger) : Prop where
  connectors : ∃ (f : ConnectorSnapshot → ConnectorSnapshot) (added : List ConnectorSnapshot),
    l'.connectors = l.connectors.map f ++ added ∧ (∀ c ∈ l.connectors, Edit allow l c (f c)) ∧
      ∀ c ∈ added, ∃ id, c = newConnector id ∧ ∀ d ∈ l.connectors, d.id ≠ id
  chargePoint : Edit allow l l.chargePoint l'.chargePoint

/-- A transition that changes no connector. -/
theorem Edits.same (connectors : l'.connectors = l.connectors) (chargePoint : l'.chargePoint = l.chargePoint) :
    Edits allow l l' where
  connectors := ⟨fun c => c, [], by simp [connectors], fun c _ => .refl c, fun _ mem => absurd mem List.not_mem_nil⟩
  chargePoint := chargePoint ▸ .refl _

/-- A transition that changes the connector `id`. -/
theorem Edits.update (ids : Ids l) (id : ConnectorId) (f : ConnectorSnapshot → ConnectorSnapshot)
    (connectors : l'.connectors = (l.update id f).connectors)
    (chargePoint : l'.chargePoint = (l.update id f).chargePoint)
    (h : ∀ c, l.find id = some c → Edit allow l c (f c)) : Edits allow l l' where
  connectors := by
    refine ⟨updated id f, [], by simp [connectors, l.update_connectors], fun c mem => ?_, fun _ mem => absurd mem List.not_mem_nil⟩
    unfold updated
    split
    · rename_i same
      refine h c ?_
      have found := ids.connector mem
      unfold Ledger.connector at found
      unfold Ledger.find
      rw [← same.2]
      rw [if_neg (by simp [same.2, same.1])] at found ⊢
      exact found
    · exact .refl c
  chargePoint := by
    rw [chargePoint]
    unfold Ledger.update
    dsimp only
    split
    · rename_i zero
      exact h _ (by simp [Ledger.find, zero])
    · exact .refl _

/-- What is found as a connector is found. -/
theorem Ledger.find_of_connector {id : ConnectorId} (found : l.connector id = some c) :
    l.find id = some c := by
  unfold Ledger.connector at found
  unfold Ledger.find
  split at found
  · cases found
  · rename_i physical
    rw [if_neg physical]
    exact found

theorem Trans.edits (step : Trans allow l l') (ids : Ids l) : Edits allow l l' := by
  have update (id : ConnectorId) (f : ConnectorSnapshot → ConnectorSnapshot)
      (connectors : l'.connectors = (l.update id f).connectors)
      (chargePoint : l'.chargePoint = (l.update id f).chargePoint) {c : ConnectorSnapshot}
      (found : l.find id = some c) (h : Edit allow l c (f c)) : Edits allow l l' :=
    .update ids id f connectors chargePoint fun d same => by
      obtain rfl := Option.some.inj (found.symm.trans same)
      exact h
  have pending {id : ConnectorId} {c : ConnectorSnapshot} (found : l.find id = some c) :
      l.scheduled id = c.pendingAvailability := by
    unfold Ledger.scheduled
    rw [found]
    rfl
  have forget (id : ConnectorId) (tx : TxId) (ends : Ends allow l.find id tx)
      (connectors : l'.connectors = (l.update id fun c =>
        (Actor.forgetTransaction tx c).applied (l.scheduled id)).connectors)
      (chargePoint : l'.chargePoint = (l.update id fun c =>
        (Actor.forgetTransaction tx c).applied (l.scheduled id)).chargePoint) : Edits allow l l' := by
    refine .update ids id _ connectors chargePoint fun c found => ?_
    rw [pending found]
    exact .forget c tx (ends.imp_right fun ends => ends c found)
  cases step with
  | quiet step =>
    cases step with
    | reshape f h =>
      exact ⟨⟨f, [], by simp, fun c mem => .mild (h c mem), fun _ mem => absurd mem List.not_mem_nil⟩, .refl _⟩
    | station f h => exact ⟨⟨fun c => c, [], by simp, fun c _ => .refl c, fun _ mem => absurd mem List.not_mem_nil⟩, .mild h⟩
    | _ => exact .same rfl rfl
  | power f h =>
    refine ⟨⟨f, [], by simp, fun c mem => ?_, fun _ mem => absurd mem List.not_mem_nil⟩, .refl _⟩
    rcases h c mem with mild | powered
    · exact .mild mild
    · exact .powered powered
  | powerStation f h => exact ⟨⟨fun c => c, [], by simp, fun c _ => .refl c, fun _ mem => absurd mem List.not_mem_nil⟩, .powered h⟩
  | change id kind changes => exact .update ids id _ rfl rfl fun c _ => .change c kind changes
  | changeStation kind changes =>
    exact ⟨⟨fun c => c, [], by simp, fun c _ => .refl c, fun _ mem => absurd mem List.not_mem_nil⟩, .changeStation _ kind rfl changes⟩
  | grow id known physical =>
    refine ⟨⟨fun c => c, [newConnector id], by simp, fun c _ => .refl c, fun c mem => ?_⟩, .refl _⟩
    exact ⟨id, List.mem_singleton.mp mem, known⟩
  | openStart id c p hand found idle key usable operative starts passes =>
    exact update id _ rfl rfl (Ledger.find_of_connector found) (.start c p idle key usable operative starts passes)
  | charge id p c hand found held usable plugged starts =>
    exact update id _ rfl rfl (Ledger.find_of_connector found) (.charge c p.idTag usable plugged starts)
  | abandonStart id localId c hand found held =>
    refine update id _ rfl rfl found ?_
    rw [pending found]
    exact .abandon c localId held
  | activate id localId transactionId c active hand found held tx session usable plugged starts =>
    exact update id _ rfl rfl found
      (.activate c active localId held transactionId tx usable plugged starts (by rw [hand]; rfl))
  | refuseOpened id localId transactionId c hand found held =>
    refine update id _ rfl rfl found ?_
    rw [pending found]
    exact .abandon c localId held
  | beginStop id c tx info f hand found target kept stops =>
    obtain ⟨mem, same⟩ := Ledger.mem_of_connector found
    exact update id f rfl rfl (Ledger.find_of_connector found)
      (.halt tx info.session (kept c mem same) target (same ▸ stops))
  | markStopping id tx info stopping c hand found held stops session wire =>
    exact update id _ rfl rfl (Ledger.find_of_connector found)
      (.mark c stopping (stops ▸ held) (stops ▸ wire))
  | queueStop id tx info e hand found ends => exact forget id tx ends rfl rfl
  | queueNewStop id tx info entry hand missing key entryTx connector starts stop ends =>
    exact forget id tx ends rfl rfl
  | confirmStop id tx info hand clean ends => exact forget id tx ends rfl rfl
  | assign key transactionId e hand found unused unshared starts =>
    exact .update ids e.connector _ rfl rfl fun c _ =>
      .assign c e.txId transactionId e starts (by rw [hand]; rfl)
  | refuseQueued key transactionId e hand found ends unmasked =>
    refine .update ids e.connector _ rfl rfl fun c found => ?_
    rw [pending found]
    exact .drop c e.txId (ends.imp_right fun ends => ends c found)
      (unmasked.imp_right fun unmasked => unmasked c found)
  | _ => exact .same rfl rfl

/-! ## What an edit keeps -/

theorem applied_faulted {pending : Option AvailabilityType} (h : (c.applied pending).status = .faulted) :
    c.status = .faulted := by
  unfold ConnectorSnapshot.applied at h
  split at h
  · exact h
  · by_contra usable
    simp only [statusAfterAvailabilityChange, usable, if_false] at h
    repeat' split at h
    all_goals cases h

/-- Without `mask` no connector becomes faulted. -/
theorem Edit.faulted (mask : allow.mask = false) (h : Edit allow l c c') (faulted : c'.status = .faulted) :
    c.status = .faulted := by
  cases h with
  | mild h => exact h.faulted faulted
  | powered h => exact h.faulted.resolve_left (by simp [mask]) faulted
  | change kind =>
    unfold Actor.changedAvailability at faulted
    dsimp only at faulted
    split at faulted
    · exact faulted
    · exact @applied_faulted c (some kind) faulted
  | changeStation kind =>
    unfold Actor.stationAvailability chargePointStatus at faulted
    dsimp only at faulted
    split at faulted
    · assumption
    · cases faulted
    · cases faulted
  | start pending =>
    unfold Actor.startedConnector at faulted
    dsimp only at faulted
    split at faulted
    · cases faulted
    · exact faulted
  | charge => cases faulted
  | abandon =>
    have faulted := applied_faulted faulted
    unfold Actor.abandonedConnector at faulted
    dsimp only at faulted
    repeat' split at faulted
    all_goals first | cases faulted | exact faulted
  | activate => cases faulted
  | halt _ _ h => exact absurd faulted h.faulted
  | mark => exact faulted
  | forget tx =>
    have faulted := applied_faulted faulted
    unfold Actor.forgetTransaction at faulted
    split at faulted
    · exact faulted
    · exact faulted
  | assign =>
    unfold Actor.activatedConnector at faulted
    dsimp only at faulted
    split at faulted
    · exact faulted
    · exact faulted
  | drop localId =>
    have faulted := applied_faulted faulted
    unfold Actor.droppedConnector at faulted
    split at faulted
    · dsimp only at faulted
      repeat' split at faulted
      all_goals cases faulted
    · exact faulted

/-- The connector `id` shows no fault. -/
def Ledger.Unfaulted (l : Ledger) (id : ConnectorId) : Prop :=
  ∀ c ∈ l.connectors, c.id = id → c.status ≠ .faulted

/-- Without `mask` no connector becomes faulted, whatever happens. -/
theorem unfaulted_preserved (mask : allow.mask = false) (id : ConnectorId) :
    Preserves (Trans allow) fun l => Ids l ∧ l.Unfaulted id := by
  intro l l' step ⟨ids, h⟩
  refine ⟨ids_preserved allow step ids, fun c mem same faulted => ?_⟩
  obtain ⟨f, added, eq, edits, new⟩ := (step.edits ids).connectors
  rw [eq, List.mem_append] at mem
  rcases mem with mapped | fresh
  · obtain ⟨d, old, rfl⟩ := List.mem_map.mp mapped
    exact h d old ((edits d old).id.symm.trans same) ((edits d old).faulted mask faulted)
  · obtain ⟨id, rfl, -⟩ := new c fresh
    cases faulted

end KirbyOcpp
