import KirbyOcpp.Ledger.Runs
import KirbyOcpp.Ledger.Walks

/-!
# What happens to the TxProfiles of a transaction that ends

A transaction ends when its stop is confirmed or queued (`finish_stop`), when the CSMS refuses a queued
start (`drop_local_transaction`), and its id ends when a queued start is acknowledged (`on_sync_start`).
Each time the store drops the TxProfiles bound to the id, whatever connector they are stored on.

**The law** `Ending.takes_own_iff`: an ending takes exactly the TxProfiles of its own connector if and
only if no other connector stores a TxProfile bound to the id. `twinStops_takes_other` is a run in which
the CSMS has given two connectors one id.
-/

namespace KirbyOcpp

/-! ## What an ending should take -/

/-- A TxProfile bound to `tx`. -/
def isBoundTo (tx : TxId) (stored : StoredProfile Rat) : Bool :=
  decide (stored.profile.chargingProfilePurpose = .txProfile) && decide (stored.boundTx = some tx)

/-- The profiles that are left when a transaction takes exactly its own. -/
def withoutOwn (profiles : ChargingProfileStore Rat) (id : ConnectorId) (tx : TxId) :
    ChargingProfileStore Rat :=
  profiles.filter fun stored => !(isBoundTo tx stored && stored.connectorId == id)

/-- Every TxProfile bound to `tx` is stored on `id`. -/
def OwnOnly (profiles : ChargingProfileStore Rat) (id : ConnectorId) (tx : TxId) : Prop :=
  ∀ stored ∈ profiles, isBoundTo tx stored = true → stored.connectorId = id

instance (profiles : ChargingProfileStore Rat) (id : ConnectorId) (tx : TxId) :
    Decidable (OwnOnly profiles id tx) := inferInstanceAs (Decidable (∀ _ ∈ profiles, _ → _))

/-- The store takes the profiles of all connectors: the right ones when there are no others. -/
theorem onTransactionEnded_eq_iff (profiles : ChargingProfileStore Rat) (id : ConnectorId) (tx : TxId) :
    ChargingProfileStore.onTransactionEnded profiles tx = withoutOwn profiles id tx ↔
      OwnOnly profiles id tx := by
  constructor
  · intro same stored mem bound
    by_contra other
    have kept : stored ∈ withoutOwn profiles id tx :=
      List.mem_filter.mpr ⟨mem, by simp [bound, other]⟩
    rw [← same] at kept
    have unbound : (!isBoundTo tx stored) = true := (List.mem_filter.mp kept).2
    rw [bound] at unbound
    cases unbound
  · intro own
    refine List.filter_congr fun stored mem => ?_
    change (!isBoundTo tx stored) = !(isBoundTo tx stored && stored.connectorId == id)
    by_cases bound : isBoundTo tx stored = true
    · simp [bound, own stored mem bound]
    · simp [Bool.not_eq_true _ ▸ bound]

namespace Actor

/-! ## Operations that end a transaction -/

/-- The housekeeping leaves the store alone. -/
theorem profiles_kept {a b : Actor} (walk : Walk .housekeeping a b) : b.profiles = a.profiles :=
  congrArg Shelf.profiles walk.shelf

theorem endProfiles_profiles (a : Actor) (tx : TxId) :
    (a.endProfiles tx).profiles = ChargingProfileStore.onTransactionEnded a.profiles tx := by
  unfold endProfiles
  dsimp only
  split
  · exact profiles_kept (markDirty_walk _)
  · rfl

theorem finishStop_profiles (a : Actor) (id : ConnectorId) (tx : TxId) :
    (a.finishStop id tx).profiles = ChargingProfileStore.onTransactionEnded a.profiles tx := by
  have before := profiles_kept (withConnector_walk a id (forgetTransaction_register tx))
  have after (b : Actor) : ((b.applyPendingAvailability id).flushNow.statusChanged id).profiles = b.profiles :=
    profiles_kept (((applyPendingAvailability_walk b id).trans (flushNow_walk _)).trans (statusChanged_walk _ id))
  refine (after _).trans ?_
  rw [endProfiles_profiles, before]

theorem dropLocalTransaction_profiles (a : Actor) (id : ConnectorId) (localId : TxId) :
    (a.dropLocalTransaction id localId).profiles =
      ChargingProfileStore.onTransactionEnded a.profiles localId := by
  have before := profiles_kept ((withConnector_walk a id (droppedConnector_register localId)).trans
    (cancelTimer_walk _ (show TimerKey.meterPeriodic id ≠ .reconnect by simp)))
  have after (b : Actor) : ((b.applyPendingAvailability id).statusChanged id).profiles = b.profiles :=
    profiles_kept ((applyPendingAvailability_walk b id).trans (statusChanged_walk _ id))
  refine (after _).trans ?_
  dsimp only
  rw [before]

theorem assignQueued_profiles (a : Actor) (key : Nat) (entry : OfflineTx) (transactionId : Int) :
    (a.assignQueued key entry transactionId).profiles =
      ChargingProfileStore.onTransactionEnded a.profiles entry.txId := by
  unfold assignQueued
  dsimp only
  rw [profiles_kept (flushNow_walk _), endProfiles_profiles,
    profiles_kept (withConnector_walk _ _ (activatedConnector_register _ _ _))]

end Actor

/-! ## The law -/

/-- The ways in which a transaction, or its id, ends. -/
inductive Ending where
  /-- `finish_stop`. -/
  | stopped (id : ConnectorId) (tx : TxId)
  /-- `drop_local_transaction`. -/
  | dropped (id : ConnectorId) (localId : TxId)
  /-- `on_sync_start`: the entry takes over the id of the CSMS. -/
  | assigned (key : Nat) (entry : OfflineTx) (transactionId : Int)

namespace Ending

/-- The connector of the transaction. -/
def connector : Ending → ConnectorId
  | stopped id _ | dropped id _ => id
  | assigned _ entry _ => entry.connector

/-- The id that ends. -/
def tx : Ending → TxId
  | stopped _ tx => tx
  | dropped _ localId => localId
  | assigned _ entry _ => entry.txId

/-- The operation of the actor. -/
def apply (a : Actor) : Ending → Actor
  | stopped id tx => a.finishStop id tx
  | dropped id localId => a.dropLocalTransaction id localId
  | assigned key entry transactionId => a.assignQueued key entry transactionId

theorem apply_profiles (a : Actor) (ending : Ending) :
    (ending.apply a).profiles = ChargingProfileStore.onTransactionEnded a.profiles ending.tx := by
  cases ending with
  | stopped id tx => exact a.finishStop_profiles id tx
  | dropped id localId => exact a.dropLocalTransaction_profiles id localId
  | assigned key entry transactionId => exact a.assignQueued_profiles key entry transactionId

/-- **The law of endings.** In every state of the actor, a transaction that ends takes exactly the
TxProfiles of its connector if and only if no other connector stores one that is bound to the id. -/
theorem takes_own_iff (a : Actor) (ending : Ending) :
    (ending.apply a).profiles = withoutOwn a.profiles ending.connector ending.tx ↔
      OwnOnly a.profiles ending.connector ending.tx := by
  rw [apply_profiles]
  exact onTransactionEnded_eq_iff a.profiles ending.connector ending.tx

end Ending

/-! ## Two connectors with one id -/

/-- A TxProfile for transaction 7. -/
def twinProfile (id : Int) : ChargingProfile Rat :=
  { chargingProfileId := id, transactionId := some 7, stackLevel := 0
    chargingProfilePurpose := .txProfile, chargingProfileKind := .relative, recurrencyKind := none
    validFrom := none, validTo := none
    chargingSchedule :=
      { duration := none, startSchedule := none, chargingRateUnit := .W
        chargingSchedulePeriod := [{ startPeriod := 0, limit := 3000, numberPhases := none }]
        minChargingRate := none } }

/-- The CSMS answers the starts of two connectors with one id and limits both; the second connector
sends its stop. -/
def twinInputs : List Input :=
  let tag := IdTag.single 'A'
  [.command .connect 0, .connected 1 true none, .callDone 0 1 (.ok (.boot .accepted 0 0)),
    .command (.startTransaction 1 tag) 1, .command (.startTransaction 2 tag) 2,
    .callDone 6 1 (.ok (.startTransaction 7 { status := .accepted })),
    .callDone 8 1 (.ok (.startTransaction 7 { status := .accepted })),
    .incoming (.setChargingProfile 1 (twinProfile 1)), .incoming (.setChargingProfile 2 (twinProfile 2)),
    .command (.stopTransaction 2 .local none) 3]

/-- The station before the stop is confirmed. -/
def twins : Actor :=
  (Actor.start { connectorCount := 2 } {} 1000000000000 0 none).replay 1000000000000 0 twinInputs

/-- The confirmed stop of connector 2 also takes the TxProfile of connector 1, whose transaction runs. -/
theorem twinStops_takes_other :
    Reachable (fun _ _ => True) twins ∧
    (twins.connector 1).bind (·.txId) = some (.csms 7) ∧ (twins.connector 2).bind (·.txId) = some (.csms 7) ∧
    let stopped := twins.replay 1000000000000 0 [.callDone 12 1 (.ok .accepted)]
    (stopped.connector 1).bind (·.txId) = some (.csms 7) ∧
    (stopped.connector 2).bind (·.txId) = none ∧
    stopped.profiles ≠ withoutOwn twins.profiles 2 (.csms 7) ∧
    ((Ending.stopped 2 (.csms 7)).apply twins).profiles ≠ withoutOwn twins.profiles 2 (.csms 7) := by
  refine ⟨.replay _ _ _ _ _ _, ?_⟩
  decide +kernel

end KirbyOcpp
