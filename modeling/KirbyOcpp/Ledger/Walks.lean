import KirbyOcpp.Ledger.Calls
import KirbyOcpp.Station.Step

/-!
# What an operation leaves alone

Every operation of the actor is a walk of a few moves (`Walk`): it settles or flushes the meters, or it does something
that the meters and the registers do not notice. The scope of the walk says what else it leaves alone: the housekeeping
(timers, CALLs, replies, writes, statuses) leaves the shelf and the tie to the Central System alone, a handler the tie,
an operation of `link.rs` neither.

There is one walk for each operation, and what a law needs of an operation it reads off its walk. The samples and the
new connectors, which add to the registers, are no walks.
-/

namespace KirbyOcpp

open Relation

/-- What an actor keeps of its connection and of the next attempt. -/
structure Tie where
  conn : Bool
  connecting : Bool
  wanted : Bool
  generation : Nat
  attempts : Nat
  /-- The reconnect timer is armed. -/
  armed : Bool
  stopped : Bool
  config : StationConfig

/-- What the meters and the registers show. -/
structure Gauges where
  mono : Int
  meters : List (ConnectorId × MeterRuntime)
  registers : List (ConnectorId × Nat)
  settlements : List Settlement

/-- What the housekeeping finds and leaves where it is. -/
structure Shelf where
  registry : ConfigRegistry
  registration : Option RegistrationStatus
  localList : LocalAuthList
  authCache : AuthorizationCache
  profiles : ChargingProfileStore Rat
  queue : OfflineQueue
  nextLocal : Nat
  syncBoot : Bool
  syncKeys : List Nat
  syncOutstanding : Nat

namespace Actor

def tie (a : Actor) : Tie :=
  { conn := a.link.conn, connecting := a.link.connecting, wanted := a.link.wanted
    generation := a.link.generation, attempts := a.link.attempts
    armed := decide (.reconnect ∈ a.timers), stopped := a.stopped, config := a.config }

/-- The ids of the connectors with their registers. -/
def registers (a : Actor) : List (ConnectorId × Nat) := a.connectors.map fun c => (c.id, c.meterWh)

def gauges (a : Actor) : Gauges :=
  { mono := a.mono, meters := a.meters, registers := a.registers, settlements := a.settlements }

def shelf (a : Actor) : Shelf :=
  { registry := a.registry, registration := a.registration, localList := a.localList, authCache := a.authCache
    profiles := a.profiles, queue := a.queue, nextLocal := a.nextLocal, syncBoot := a.syncBoot
    syncKeys := a.syncKeys, syncOutstanding := a.syncOutstanding }

end Actor

/-- How far an operation reaches. -/
inductive Scope where
  | housekeeping | handling | linking

/-- What the operations of a scope leave alone. -/
def Scope.keeps (a : Actor) : Scope → Gauges × Option Tie × Option Shelf
  | housekeeping => (a.gauges, some a.tie, some a.shelf)
  | handling => (a.gauges, some a.tie, none)
  | linking => (a.gauges, none, none)

/-- A move: the meters are settled, they are flushed, or nothing happens to what the scope keeps. -/
inductive Move (s : Scope) : Actor → Actor → Prop where
  | other {a b : Actor} (same : s.keeps b = s.keeps a) : Move s a b
  | settle (a : Actor) : Move s a a.settleMeters
  | flush (a : Actor) : Move s a a.flushMeters

/-- `b` follows from `a` by moves. -/
def Walk (s : Scope) : Actor → Actor → Prop := ReflTransGen (Move s)

namespace Walk

variable {s : Scope} {a b c : Actor}

/-- Nothing happens. -/
theorem refl : Walk s a a := ReflTransGen.refl

/-- Walks follow each other. -/
theorem trans (first : Walk s a b) (second : Walk s b c) : Walk s a c := ReflTransGen.trans first second

/-- Nothing happens to what the scope keeps. -/
theorem other (same : s.keeps b = s.keeps a) : Walk s a b := .single (.other same)

/-- Nothing happens to what any scope keeps. -/
theorem same (gauges : b.gauges = a.gauges) (tie : b.tie = a.tie) (shelf : b.shelf = a.shelf) : Walk s a b := by
  refine other ?_
  cases s with
  | housekeeping => exact congrArg₂ Prod.mk gauges (congrArg₂ Prod.mk (congrArg some tie) (congrArg some shelf))
  | handling => exact congrArg₂ Prod.mk gauges (congrArg₂ Prod.mk (congrArg some tie) rfl)
  | linking => exact congrArg₂ Prod.mk gauges rfl

/-- A walk that begins behind a change which no scope notices. -/
theorem behind (next : Walk s b c) (gauges : b.gauges = a.gauges) (tie : b.tie = a.tie)
    (shelf : b.shelf = a.shelf) : Walk s a c := (same gauges tie shelf).trans next

/-- A walk that begins behind a change which its scope does not notice. -/
theorem past (next : Walk s b c) (same : s.keeps b = s.keeps a) : Walk s a c := (other same).trans next

/-- A loop whose turns walk. -/
theorem foldl {X : Type} {f : Actor → X → Actor} (xs : List X) (h : ∀ x a, Walk s a (f a x)) (a : Actor) :
    Walk s a (xs.foldl f a) := by
  induction xs generalizing a with
  | nil => exact refl
  | cons x xs ih =>
    rw [List.foldl_cons]
    exact (h x a).trans (ih _)

/-- A handler reaches no further than an operation of the link. -/
theorem linking (walk : Walk .handling a b) : Walk .linking a b := by
  refine ReflTransGen.mono ?_ _ _ walk
  intro a b move
  cases move with
  | other same => exact .other (congrArg₂ Prod.mk (congrArg Prod.fst same) rfl)
  | settle => exact .settle _
  | flush => exact .flush _

end Walk

/-- What becomes of a connector, its register apart. -/
def SameRegister (f : ConnectorSnapshot → ConnectorSnapshot) : Prop := ∀ c, (f c).id = c.id ∧ (f c).meterWh = c.meterWh

/-- `b` is tied to the Central System like `a`. -/
def SameTie (a b : Actor) : Prop := b.tie = a.tie

namespace SameTie

variable {a b c : Actor}

/-- Nothing happens to the tie. -/
theorem refl : SameTie a a := rfl

/-- Ties follow each other. -/
theorem trans (first : SameTie a b) (second : SameTie b c) : SameTie a c := Eq.trans second first

end SameTie

namespace Actor

variable {s : Scope}

/-! ## Timers -/

/-- The tie shows the reconnect timer only. -/
theorem setTimer_walk (a : Actor) {key : TimerKey} (other : key ≠ .reconnect) : Walk s a (a.setTimer key) := by
  refine .same rfl ?_ rfl
  unfold tie setTimer
  simp [other.symm]

private theorem setTimerIfIdle_walk (a : Actor) {key : TimerKey} (other : key ≠ .reconnect) :
    Walk s a (a.setTimerIfIdle key) := by
  unfold setTimerIfIdle
  split
  · exact .refl
  · exact a.setTimer_walk other

/-- The tie shows the reconnect timer only. -/
theorem cancelTimer_walk (a : Actor) {key : TimerKey} (other : key ≠ .reconnect) :
    Walk s a (a.cancelTimer key) := by
  refine .same rfl ?_ rfl
  unfold tie cancelTimer
  simp [other.symm]

/-- The reconnect timer is spared. -/
theorem cancelTimersWhere_walk (a : Actor) {p : TimerKey → Bool} (other : p .reconnect = false) :
    Walk s a (a.cancelTimersWhere p) := by
  refine .same rfl ?_ rfl
  unfold tie cancelTimersWhere
  simp [other]

/-! ## Replies, CALLs, writes, meters -/

private theorem map_walk (a : Actor) {f : ConnectorSnapshot → ConnectorSnapshot} (h : SameRegister f) :
    Walk s a { a with connectors := a.connectors.map f } := by
  have same : ({ a with connectors := a.connectors.map f } : Actor).registers = a.registers := by
    unfold registers
    rw [List.map_map]
    refine List.map_congr_left fun c _ => ?_
    simp only [Function.comp_apply]
    rw [(h c).1, (h c).2]
  refine .same ?_ rfl rfl
  unfold gauges
  rw [same]

private theorem updateConnector_registers (connectors : List ConnectorSnapshot) (id : ConnectorId)
    {f : ConnectorSnapshot → ConnectorSnapshot} (h : SameRegister f) :
    (updateConnector connectors id f).map (fun c => (c.id, c.meterWh)) = connectors.map fun c => (c.id, c.meterWh) := by
  unfold updateConnector
  rw [List.map_map]
  refine List.map_congr_left fun c _ => ?_
  simp only [Function.comp_apply]
  split
  · rw [(h c).1, (h c).2]
  · rfl

private theorem updateConnector_walk (a : Actor) (id : ConnectorId) {f : ConnectorSnapshot → ConnectorSnapshot}
    (h : SameRegister f) :
    Walk s a { a with connectors := updateConnector a.connectors id f } := by
  refine a.map_walk fun c => ?_
  split
  · exact h c
  · exact ⟨rfl, rfl⟩

/-- A connector changes, its register apart; the station itself is no register. -/
theorem withConnector_walk (a : Actor) (id : ConnectorId) {f : ConnectorSnapshot → ConnectorSnapshot}
    (h : SameRegister f) : Walk s a (a.withConnector id f) := by
  unfold withConnector
  split
  · exact .same rfl rfl rfl
  · exact a.updateConnector_walk id h

private theorem record_walk (a : Actor) (event : Event) : Walk s a (a.record event) := .same rfl rfl rfl

/-- An answer goes to whoever waits for it. -/
theorem replyIf_walk (a : Actor) (reply : Option Reply) (result : Except StationError Outcome) :
    Walk s a (a.replyIf reply result) := by
  cases reply <;> exact .same rfl rfl rfl

private theorem call_walk (a : Actor) (origin : Origin) (request : Request) (continuation : Cont)
    (onFail : CallError → Actor → Actor) (fails : ∀ error, Walk s a (onFail error a)) :
    Walk s a (a.call origin request continuation onFail) := by
  rcases a.call_cases origin request continuation onFail with ⟨error, eq⟩ | ⟨-, -, eq⟩
  · rw [eq]
    exact fails error
  · rw [eq]
    exact .same rfl rfl rfl

/-- The write of the state file is put off. -/
theorem markDirty_walk (a : Actor) : Walk s a a.markDirty := by
  unfold markDirty
  split
  · exact .refl
  · exact (setTimerIfIdle_walk _ (by simp)).behind rfl rfl rfl

private theorem markSecretsDirty_walk (a : Actor) : Walk s a a.markSecretsDirty :=
  (markDirty_walk _).behind rfl rfl rfl

/-- The energy up to now is counted. -/
theorem settleMeters_walk (a : Actor) : Walk s a a.settleMeters := .single (.settle a)

/-- The whole Wh go to the registers. -/
theorem flushMeters_walk (a : Actor) : Walk s a a.flushMeters := .single (.flush a)

/-- A reading that is no sample. -/
private theorem meterReading_walk (a : Actor) (id : ConnectorId) : Walk s a (a.meterReading id false).1 :=
  a.flushMeters_walk

/-- The state file is written, or the write waits for the one in flight. -/
theorem flushPersistence_walk (a : Actor) : Walk s a a.flushPersistence := by
  refine a.flushMeters_walk.trans ?_
  unfold flushPersistence
  dsimp only
  split
  · exact .refl
  · split <;> exact .same rfl rfl rfl

/-- The state file is written at once. -/
theorem flushNow_walk (a : Actor) : Walk s a a.flushNow :=
  (a.markDirty_walk.trans (cancelTimer_walk _ (by simp))).trans (flushPersistence_walk _)

/-- A write ended. -/
theorem onSaved_walk (a : Actor) (ok : Bool) : Walk s a (a.onSaved ok) := by
  unfold onSaved
  dsimp only
  split
  · exact (flushPersistence_walk _).behind rfl rfl rfl
  · exact .same rfl rfl rfl

/-! ## Status notifications and security events -/

private theorem setTracker_walk (a : Actor) (id : ConnectorId) (tracker : StatusTracker) :
    Walk s a (a.setTracker id tracker) := .same rfl rfl rfl

private theorem onStatusResult_walk (id : ConnectorId) (key : StatusKey) (reply : Option Reply)
    (result : Except CallError Unit) (a : Actor) : Walk s a (onStatusResult id key reply result a) := by
  cases result with
  | ok _ => exact replyIf_walk _ _ _
  | error error => exact (a.setTracker_walk _ _).trans (replyIf_walk _ _ _)

private theorem dispatchStatus_walk (a : Actor) (id : ConnectorId) (key : StatusKey) (timestamp : Instant)
    (origin : Origin) (reply : Option Reply) : Walk s a (a.dispatchStatus id key timestamp origin reply) :=
  (a.setTracker_walk id _).trans (call_walk _ _ _ _ _ fun _ => onStatusResult_walk _ _ _ _ _)

/-- A status is reported at once, later or not at all. -/
theorem statusChanged_walk (a : Actor) (id : ConnectorId) : Walk s a (a.statusChanged id) := by
  unfold statusChanged
  split
  · exact .refl
  · split
    · exact .refl
    · dsimp only
      split
      · exact a.setTracker_walk _ _
      · exact (a.setTracker_walk _ _).trans (cancelTimer_walk _ (by simp))
      · exact ((a.setTracker_walk _ _).trans (cancelTimer_walk _ (by simp))).trans (dispatchStatus_walk _ _ _ _ _ _)
      · exact (a.setTracker_walk _ _).trans (setTimer_walk _ (by simp))

/-- A connector changes, and its status is reported. -/
private theorem withStatus_walk (a : Actor) (id : ConnectorId) {f : ConnectorSnapshot → ConnectorSnapshot}
    (h : SameRegister f) : Walk s a ((a.withConnector id f).statusChanged id) :=
  (withConnector_walk a id h).trans (statusChanged_walk _ _)

/-- A status that has settled is reported. -/
theorem statusTimerFired_walk (a : Actor) (id : ConnectorId) : Walk s a (a.statusTimerFired id) := by
  unfold statusTimerFired
  split
  · exact .refl
  · split
    · exact a.setTracker_walk _ _
    · dsimp only
      split
      · exact a.setTracker_walk _ _
      · exact (a.setTracker_walk _ _).trans (dispatchStatus_walk _ _ _ _ _ _)

/-- A status is reported whatever was reported before. -/
theorem sendStatusForced_walk (a : Actor) (id : ConnectorId) (origin : Origin) (reply : Option Reply) :
    Walk s a (a.sendStatusForced id origin reply) := by
  unfold sendStatusForced
  split
  · exact a.replyIf_walk _ _
  · exact ((cancelTimer_walk a (by simp)).trans (setTracker_walk _ _ _)).trans (dispatchStatus_walk _ _ _ _ _ _)

private theorem resendAllStatuses_walk (a : Actor) : Walk s a a.resendAllStatuses :=
  .foldl _ (fun _ a => a.sendStatusForced_walk _ _ _) a

private theorem flushPendingStatuses_walk (a : Actor) : Walk s a a.flushPendingStatuses :=
  .foldl _ (fun _ a => (cancelTimer_walk a (by simp)).trans (statusTimerFired_walk _ _)) a

/-- What was reported is forgotten with the connection. -/
theorem resetStatusTracking_walk (a : Actor) : Walk s a a.resetStatusTracking :=
  (cancelTimersWhere_walk a rfl).trans (.same rfl rfl rfl)

private theorem onSecurityEventResult_walk (event : PendingSecurityEvent) (result : Except CallError Unit) (a : Actor) :
    Walk s a (onSecurityEventResult event result a) := by
  cases result with
  | ok _ => exact .refl
  | error error =>
    unfold onSecurityEventResult
    dsimp only
    split
    · exact (markDirty_walk _).behind rfl rfl rfl
    · exact .refl

private theorem flushSecurityEvents_walk (a : Actor) : Walk s a a.flushSecurityEvents := by
  unfold flushSecurityEvents
  split
  · exact .refl
  · have taken : Walk s a ({ a with securityEvents := [] } : Actor).markDirty :=
      (markDirty_walk _).behind rfl rfl rfl
    exact taken.trans (.foldl _ (fun _ a => a.call_walk _ _ _ _ fun _ => onSecurityEventResult_walk _ _ _) _)

/-- An event is queued, and the queue sent. -/
theorem securityEvent_walk (a : Actor) (eventType : String) (techInfo : Option String) :
    Walk s a (a.securityEvent eventType techInfo) := by
  let event : PendingSecurityEvent := { eventType, timestamp := a.now, techInfo }
  have queued : Walk s a ((a.record (.raised event)).queueEvent event) := .same rfl rfl rfl
  exact queued.trans ((markDirty_walk _).trans (flushSecurityEvents_walk _))

/-! ## Connectors -/

private theorem clearReservation_register : SameRegister clearReservation := by
  intro c
  unfold clearReservation
  split
  · exact ⟨rfl, rfl⟩
  · dsimp only
    split <;> exact ⟨rfl, rfl⟩

private theorem chargingConnector_register (idTag : IdTag) : SameRegister (chargingConnector idTag) :=
  clearReservation_register

private theorem startedConnector_register (pending : PendingStart) : SameRegister (startedConnector pending) :=
  fun _ => ⟨rfl, rfl⟩

/-- A transaction that ends leaves the register. -/
theorem forgetTransaction_register (tx : TxId) : SameRegister (forgetTransaction tx) := by
  intro c
  unfold forgetTransaction
  split <;> exact ⟨rfl, rfl⟩

/-- A refused start leaves the register. -/
theorem droppedConnector_register (localId : TxId) : SameRegister (droppedConnector localId) := by
  intro c
  unfold droppedConnector
  split <;> exact ⟨rfl, rfl⟩

/-- An acknowledged start leaves the register. -/
theorem activatedConnector_register (localId real : TxId) (entry : OfflineTx) :
    SameRegister (activatedConnector localId real entry) := by
  intro c
  unfold activatedConnector
  dsimp only
  split <;> exact ⟨rfl, rfl⟩

private theorem changedAvailability_register (kind : AvailabilityType) : SameRegister (changedAvailability kind) := by
  intro c
  unfold changedAvailability
  split <;> exact ⟨rfl, rfl⟩

/-! ## Transactions -/

/-- A profile is stored or refused. -/
theorem setChargingProfile_walk (a : Actor) (id : ConnectorId) (profile : ChargingProfile Rat) :
    Walk .handling a (a.setChargingProfile id profile).1 := by
  unfold setChargingProfile
  dsimp only
  split
  · exact (markDirty_walk _).past rfl
  · exact .other rfl

private theorem runDone_walk (done : Done) (result : Except StationError Outcome) (a : Actor) :
    Walk .handling a (runDone done result a) := by
  unfold runDone
  split
  · exact .other rfl
  · exact .refl
  · exact a.setChargingProfile_walk _ _
  · exact .refl

private theorem applyIdTagInfo_walk (a : Actor) (idTag : IdTag) (info : IdTagInfo) :
    Walk .handling a (a.applyIdTagInfo idTag info).1 :=
  (markDirty_walk _).past rfl

/-- The timers of the samples are armed. -/
theorem rescheduleMetering_walk (a : Actor) : Walk s a a.rescheduleMetering := by
  have timers : Walk s a (a.connectors.foldl (fun a' c =>
      if decide (0 < a.registry.meterValueSampleInterval) && a.isSampling c.id then
        a'.setTimerIfIdle (.meterPeriodic c.id)
      else a'.cancelTimer (.meterPeriodic c.id)) a) := by
    refine .foldl _ (fun c b => ?_) a
    split
    · exact b.setTimerIfIdle_walk (by simp)
    · exact b.cancelTimer_walk (by simp)
  unfold rescheduleMetering
  dsimp only
  split
  · exact timers.trans (setTimerIfIdle_walk _ (by simp))
  · exact timers.trans (cancelTimer_walk _ (by simp))

/-- A change that waited for the transaction takes effect. -/
theorem applyPendingAvailability_walk (a : Actor) (id : ConnectorId) :
    Walk s a (a.applyPendingAvailability id) := by
  unfold applyPendingAvailability
  split
  · exact .refl
  · refine .trans (.trans (withConnector_walk a id fun c => ?_) (flushNow_walk _)) (statusChanged_walk _ _)
    exact ⟨rfl, rfl⟩

private theorem pushQueue_walk (a : Actor) (entry : OfflineTx) : Walk .handling a (a.pushQueue entry) := by
  unfold pushQueue
  dsimp only
  split <;> exact .other rfl

private theorem queueStop_walk (a : Actor) (id : ConnectorId) (tx : TxId) (idTag : IdTag) (startedAt : Instant)
    (meterStartWh : Nat) (info : StopInfo) :
    Walk .handling a (a.queueStop id tx idTag startedAt meterStartWh info).2 := by
  unfold queueStop
  split
  · exact .other rfl
  · exact (pushQueue_walk _ _).past rfl

private theorem beginCharging_walk (a : Actor) (id : ConnectorId) (pending : PendingStart) :
    Walk s a (a.beginCharging id pending) := by
  have charged := (record_walk a (.charged id pending ((a.findConnector id).bind (·.reservation)) a.now)).trans
    (withConnector_walk (s := s) _ id (chargingConnector_register pending.idTag))
  have idle := charged.trans (cancelTimer_walk _ (show TimerKey.reservationExpiry id ≠ .reconnect by simp))
  exact ((idle.trans (flushNow_walk _)).trans (rescheduleMetering_walk _)).trans (statusChanged_walk _ _)

private theorem abandonStart_walk (a : Actor) (id : ConnectorId) : Walk s a (a.abandonStart id) := by
  have idle : Walk s a (a.withConnector id abandonedConnector) := withConnector_walk a id fun _ => ⟨rfl, rfl⟩
  exact (idle.trans (applyPendingAvailability_walk _ _)).trans (statusChanged_walk _ _)

private theorem sendStopFor_walk (a : Actor) (session : Nat) (tx : Int) (meterStopWh : Nat) (idTag : Option IdTag)
    (reason : StopReason) : Walk s a (a.sendStopFor session tx meterStopWh idTag reason) :=
  call_walk _ _ _ _ _ fun _ => .same rfl rfl rfl

private theorem endProfiles_walk (a : Actor) (tx : TxId) : Walk .handling a (a.endProfiles tx) := by
  unfold endProfiles
  dsimp only
  split
  · exact (markDirty_walk _).past rfl
  · exact .other rfl

private theorem finishStop_walk (a : Actor) (id : ConnectorId) (tx : TxId) : Walk .handling a (a.finishStop id tx) := by
  have forgotten := withConnector_walk (s := .handling) a id (forgetTransaction_register tx)
  exact (((forgotten.trans (endProfiles_walk _ _)).trans (applyPendingAvailability_walk _ _)).trans
    (flushNow_walk _)).trans (statusChanged_walk _ _)

private theorem limitEnergyOnInvalidId_walk (a : Actor) (id : ConnectorId) :
    Walk s a (a.limitEnergyOnInvalidId id) := by
  refine a.flushMeters_walk.trans ?_
  unfold limitEnergyOnInvalidId
  dsimp only
  split
  · exact .refl
  · split
    · exact .refl
    · exact .same rfl rfl rfl

/-! ## The sync -/

private theorem recordSyncFailure_walk (a : Actor) (key : Nat) (error : CallError) :
    Walk s a (a.recordSyncFailure key error) := by
  unfold recordSyncFailure
  split
  · exact .refl
  · exact .same rfl rfl rfl

private theorem giveUp_walk (a : Actor) (key : Nat) : Walk .handling a (a.giveUp key) := by
  unfold giveUp
  refine .trans ?_ (flushNow_walk _)
  split <;> exact .other rfl

private theorem armSyncRetry_walk (a : Actor) : Walk .handling a a.armSyncRetry := by
  unfold armSyncRetry
  split
  · exact .refl
  · have dropped (keys : List Nat) : Walk .handling a (keys.foldl giveUp a) :=
      .foldl _ (fun key a => a.giveUp_walk key) a
    dsimp only
    split
    · exact (dropped _).trans (setTimer_walk _ (by simp))
    · exact dropped _

private theorem armSyncRetryIfIdle_walk (a : Actor) : Walk .handling a a.armSyncRetryIfIdle := by
  unfold armSyncRetryIfIdle
  split
  · split
    · exact (armSyncRetry_walk _).past rfl
    · exact .refl
  · exact .refl

private theorem finishBootAccepted_walk (a : Actor) : Walk s a a.finishBootAccepted := by
  unfold finishBootAccepted
  split
  · exact .refl
  · have resent : Walk s a (a.rescheduleMetering.resendAllStatuses.record .bootFinished) :=
      ((rescheduleMetering_walk a).trans (resendAllStatuses_walk _)).trans (record_walk _ _)
    dsimp only
    split
    · exact resent.trans ((securityEvent_walk _ _ _).behind rfl rfl rfl)
    · exact resent.trans (flushSecurityEvents_walk _)

private theorem syncFinished_walk (a : Actor) : Walk .handling a a.syncFinished := by
  have ended : Walk .handling a { a with syncOutstanding := 0, syncBoot := false } := .other rfl
  unfold syncFinished
  dsimp only
  split
  · exact (ended.trans (finishBootAccepted_walk _)).trans (armSyncRetryIfIdle_walk _)
  · exact ended.trans (armSyncRetryIfIdle_walk _)

private theorem runSyncWith_walk (keys : List Nat) (a : Actor) : Walk .handling a (runSyncWith keys a) := by
  induction keys generalizing a with
  | nil => exact (syncFinished_walk _).past rfl
  | cons key keys ih =>
    have taken : Walk .handling a { a with syncKeys := keys } := .other rfl
    unfold runSyncWith
    dsimp only
    split
    · refine taken.trans (call_walk _ _ _ _ _ fun error => ?_)
      exact (recordSyncFailure_walk _ key error).trans ((ih _).past rfl)
    · exact taken.trans ((ih _).past rfl)

private theorem syncDone_walk (a : Actor) : Walk .handling a a.syncDone := (runSyncWith_walk _ _).past rfl

private theorem startOfflineSync_walk (a : Actor) (boot : Bool) : Walk .handling a (a.startOfflineSync boot).2 := by
  unfold startOfflineSync
  split
  · exact .refl
  · have idle : Walk .handling a (a.cancelTimer .syncRetry) := cancelTimer_walk _ (by simp)
    dsimp only
    split
    · exact idle
    · exact idle.trans ((runSyncWith_walk _ _).past rfl)

/-- The next round of the queue begins. -/
theorem onSyncRetryTimer_walk (a : Actor) : Walk .handling a a.onSyncRetryTimer := by
  unfold onSyncRetryTimer
  split
  · exact startOfflineSync_walk _ _
  · exact .refl

private theorem onSyncStop_walk (key : Nat) (result : Except CallError Unit) (a : Actor) :
    Walk .handling a (onSyncStop key result a) := by
  cases result with
  | ok _ =>
    have removed : Walk .handling a { a with
        queue := OfflineQueue.remove a.queue key, syncFailures := removeAt key a.syncFailures } := .other rfl
    exact (removed.trans (flushNow_walk _)).trans (syncDone_walk _)
  | error error => exact (recordSyncFailure_walk _ _ _).trans (syncDone_walk _)

private theorem dropLocalTransaction_walk (a : Actor) (id : ConnectorId) (localId : TxId) :
    Walk .handling a (a.dropLocalTransaction id localId) := by
  have forgotten := (withConnector_walk (s := .handling) a id (droppedConnector_register localId)).trans
    (cancelTimer_walk _ (show TimerKey.meterPeriodic id ≠ .reconnect by simp))
  exact forgotten.trans (((applyPendingAvailability_walk _ _).trans (statusChanged_walk _ _)).past rfl)

private theorem refuseQueued_walk (a : Actor) (key : Nat) (entry : OfflineTx) (transactionId : Int) :
    Walk .handling a (a.refuseQueued key entry transactionId) := by
  have removed : Walk .handling a
      (({ a with queue := OfflineQueue.remove a.queue key } : Actor).record (.startRefused entry)) := .other rfl
  have dropped := removed.trans (dropLocalTransaction_walk _ entry.connector entry.txId)
  exact ((dropped.trans (sendStopFor_walk _ _ _ _ _ _)).trans (flushNow_walk _)).trans (syncDone_walk _)

private theorem assignQueued_walk (a : Actor) (key : Nat) (entry : OfflineTx) (transactionId : Int) :
    Walk .handling a (a.assignQueued key entry transactionId) := by
  let numbered : Actor := { a with queue := OfflineQueue.modify a.queue key fun queued =>
    { queued with txId := .csms transactionId, startPending := false } }
  have activated := (withConnector_walk (s := .handling) numbered entry.connector
    (activatedConnector_register entry.txId (.csms transactionId) entry)).past (a := a) rfl
  exact (activated.trans (endProfiles_walk _ _)).trans (flushNow_walk _)

private theorem syncStop_walk (a : Actor) (key : Nat) : Walk .handling a ((a.syncStop key).getD a.syncDone) := by
  unfold syncStop
  cases (OfflineQueue.get a.queue key).bind stopOf with
  | none => exact syncDone_walk a
  | some found => exact call_walk _ _ _ _ _ fun error => onSyncStop_walk _ _ _

private theorem decidedQueued_walk (a : Actor) (key : Nat) (entry : OfflineTx) (transactionId : Int) (accepted : Bool) :
    Walk .handling a (a.decidedQueued key entry transactionId accepted) := by
  unfold decidedQueued
  dsimp only
  split
  · exact refuseQueued_walk _ _ _ _
  · refine (assignQueued_walk a key entry transactionId).trans ?_
    generalize a.assignQueued key entry transactionId = b
    have limited (c : Bool) : Walk .handling b (if c then b.limitEnergyOnInvalidId entry.connector else b) := by
      split
      · exact limitEnergyOnInvalidId_walk _ _
      · exact .refl
    split
    · exact (limited _).trans (syncStop_walk _ _)
    · exact (limited _).trans (syncDone_walk _)

private theorem onSyncStart_walk (key : Nat) (result : Except CallError StartTransactionResponse) (a : Actor) :
    Walk .handling a (onSyncStart key result a) := by
  unfold onSyncStart
  split
  · exact (recordSyncFailure_walk _ _ _).trans (syncDone_walk _)
  · split
    · exact syncDone_walk _
    · rename_i response _ entry _
      exact (applyIdTagInfo_walk a entry.idTag response.idTagInfo).trans ((decidedQueued_walk _ _ _ _ _).past rfl)

/-! ## Stops -/

private theorem onStopResult_walk (id : ConnectorId) (tx : TxId) (tag : IdTag) (startedAt : Instant)
    (meterStartWh : Nat) (info : StopInfo) (done : Done) (result : Except CallError Unit) (a : Actor) :
    Walk .handling a (onStopResult id tx tag startedAt meterStartWh info done result a) := by
  cases result with
  | ok _ => exact (finishStop_walk _ _ _).trans (runDone_walk _ _ _)
  | error error =>
    exact ((((queueStop_walk a _ _ _ _ _ _).trans (finishStop_walk _ _ _)).trans
      (recordSyncFailure_walk _ _ _)).trans (armSyncRetryIfIdle_walk _)).trans (runDone_walk _ _ _)

private theorem noteStop_walk (a : Actor) (id : ConnectorId) (info : StopInfo) (evConnected : Bool)
    (status : ConnectorStatus) : Walk s a (a.noteStop id info evConnected status) := by
  have left : Walk s a ((a.record (.stopRequested id info)).withConnector id fun c =>
      { c with evConnected, status }) := (record_walk a _).trans (withConnector_walk _ id fun _ => ⟨rfl, rfl⟩)
  have other : TimerKey.meterPeriodic id ≠ .reconnect := by simp
  exact (left.trans (cancelTimer_walk _ other)).trans (.same rfl rfl rfl)

private theorem stopOffline_walk (a : Actor) (id : ConnectorId) (target : StopTarget) (info : StopInfo) (done : Done) :
    Walk .handling a (a.stopOffline id target info done) := by
  have queued : Walk .handling a _ := (queueStop_walk a id target.tx target.tag target.startedAt
    target.meterStartWh info).trans (finishStop_walk _ id target.tx)
  unfold stopOffline
  dsimp only
  refine .trans ?_ (runDone_walk _ _ _)
  split
  · exact queued.trans (startOfflineSync_walk _ _)
  · exact queued

private theorem stopOnline_walk (a : Actor) (id : ConnectorId) (target : StopTarget) (info : StopInfo) (done : Done) :
    Walk .handling a (a.stopOnline id target info done) := by
  have stopping (transaction : TransactionState) :
      Walk .handling a ((a.withConnector id fun c => { c with transaction }).statusChanged id) :=
    withStatus_walk a id fun _ => ⟨rfl, rfl⟩
  unfold stopOnline
  dsimp only
  split
  · exact (stopping _).trans (runDone_walk _ _ _)
  · exact (stopping _).trans (call_walk _ _ _ _ _ fun error => onStopResult_walk _ _ _ _ _ _ _ _ _)

private theorem stopChecked_walk (a : Actor) (id : ConnectorId) (c : ConnectorSnapshot) (target : StopTarget)
    (reason : StopReason) (idTag : Option IdTag) (done : Done) :
    Walk .handling a (a.stopChecked id c target reason idTag done) := by
  unfold stopChecked
  dsimp only
  have noted : Walk .handling a _ := (meterReading_walk a id).trans (noteStop_walk _ id
    ((a.meterReading id false).1.stopInfo c target reason idTag (a.meterReading id false).2)
    (stateAfterStop reason c.evConnected c.availability).1
    (stateAfterStop reason c.evConnected c.availability).2)
  split
  · exact noted.trans (stopOffline_walk _ _ _ _ _)
  · exact noted.trans (stopOnline_walk _ _ _ _ _)

/-- A stop, whichever way it takes: refused, sent or queued. -/
theorem stopTransaction_walk (a : Actor) (id : ConnectorId) (reason : StopReason) (idTag : Option IdTag)
    (done : Done) : Walk .handling a (a.stopTransaction id reason idTag done) := by
  refine a.flushMeters_walk.trans ?_
  unfold stopTransaction
  dsimp only
  split
  · exact runDone_walk _ _ _
  · split
    · exact runDone_walk _ _ _
    · exact stopChecked_walk _ _ _ _ _ _ _

/-- A transaction that has used up its energy is stopped. -/
theorem checkEnergyLimit_walk (a : Actor) (id : ConnectorId) : Walk .handling a (a.checkEnergyLimit id) := by
  unfold checkEnergyLimit
  split
  · split
    · exact (stopTransaction_walk _ _ _ _ _).past rfl
    · exact .refl
  · exact .refl

/-! ## Starts and authorizations -/

private theorem activateStart_walk (a : Actor) (id : ConnectorId) (localId : TxId) (pending : PendingStart)
    (transactionId : Int) : Walk s a (a.activateStart id localId pending transactionId) := by
  refine .trans (withConnector_walk a id fun c => ?_) (beginCharging_walk _ _ _)
  exact ⟨rfl, rfl⟩

private theorem decidedStart_walk (a : Actor) (id : ConnectorId) (localId : TxId) (pending : PendingStart) (done : Done)
    (transactionId : Int) (decision : AuthorizationDecision) :
    Walk .handling a (a.decidedStart id localId pending done transactionId decision) := by
  unfold decidedStart
  dsimp only
  split
  · refine .trans ?_ (runDone_walk _ _ _)
    refine .trans ?_ (sendStopFor_walk _ _ _ _ _ _)
    split
    · exact abandonStart_walk _ _
    · exact .refl
  · split
    · exact ((abandonStart_walk a id).trans (sendStopFor_walk _ _ _ _ _ _)).trans (runDone_walk _ _ _)
    · refine .trans ?_ (runDone_walk _ _ _)
      split
      · exact (activateStart_walk a _ _ _ _).trans (limitEnergyOnInvalidId_walk _ _)
      · exact activateStart_walk a _ _ _ _

private theorem onStartResult_walk (id : ConnectorId) (localId : TxId) (pending : PendingStart) (done : Done)
    (result : Except CallError StartTransactionResponse) (a : Actor) :
    Walk .handling a (onStartResult id localId pending done result a) := by
  cases result with
  | ok response => exact (applyIdTagInfo_walk a _ _).trans (decidedStart_walk _ _ _ _ _ _ _)
  | error error =>
    unfold onStartResult
    dsimp only
    refine .trans ?_ (runDone_walk _ _ _)
    split
    · exact abandonStart_walk _ _
    · exact .refl

private theorem startOffline_walk (a : Actor) (id : ConnectorId) (pending : PendingStart) (done : Done) :
    Walk .handling a (a.startOffline id pending done) :=
  (((beginCharging_walk a id pending).trans (pushQueue_walk _ _)).trans (flushNow_walk _)).trans (runDone_walk _ _ _)

private theorem startOnline_walk (a : Actor) (id : ConnectorId) (pending : PendingStart) (done : Done) :
    Walk .handling a (a.startOnline id pending done) :=
  (statusChanged_walk a id).trans (call_walk _ _ _ _ _ fun _ => onStartResult_walk _ _ _ _ _ _)

private theorem openStart_walk (a : Actor) (id : ConnectorId) (c : ConnectorSnapshot) (idTag : IdTag) :
    Walk .handling a (a.openStart id c idTag).2 := by
  have unlimited (b : Actor) (limits : List (ConnectorId × Nat)) :
      Walk .handling b { b with invalidLimits := limits } :=
    .other rfl
  have guarded (pending : PendingStart) : Walk .handling a
      (({ a with nextLocal := a.nextLocal + 1 } : Actor).withConnector id (startedConnector pending)) :=
    (withConnector_walk _ id (startedConnector_register pending)).past rfl
  exact ((guarded _).trans (record_walk _ _)).trans (unlimited _ _)

private theorem startChecked_walk (a : Actor) (id : ConnectorId) (c : ConnectorSnapshot) (idTag : IdTag) (done : Done) :
    Walk .handling a (a.startChecked id c idTag done) := by
  have opened := a.openStart_walk id c idTag
  unfold startChecked
  dsimp only
  split
  · exact opened.trans (startOnline_walk _ _ _ _)
  · exact opened.trans (startOffline_walk _ _ _ _)

/-- A start, whichever way it takes: refused, sent or queued. -/
theorem startTransaction_walk (a : Actor) (id : ConnectorId) (idTag : IdTag) (done : Done) :
    Walk .handling a (a.startTransaction id idTag done) := by
  refine a.flushMeters_walk.trans ?_
  unfold startTransaction
  dsimp only
  split
  · exact runDone_walk _ _ _
  · split
    · exact runDone_walk _ _ _
    · exact startChecked_walk _ _ _ _ _

private theorem runAuthDone_walk (done : AuthDone) (result : Except StationError AuthorizationDecision) (a : Actor) :
    Walk .handling a (runAuthDone done result a) := by
  unfold runAuthDone
  split
  · exact record_walk _ _
  · exact record_walk _ _
  · split
    · dsimp only
      split
      · exact (record_walk a _).trans (startTransaction_walk _ _ _ _)
      · exact record_walk _ _
    · exact record_walk _ _
  · exact record_walk _ _

private theorem onAuthorizeResult_walk (idTag : IdTag) (done : AuthDone) (result : Except CallError IdTagInfo)
    (a : Actor) :
    Walk .handling a (onAuthorizeResult idTag done result a) := by
  cases result with
  | ok info => exact (applyIdTagInfo_walk a _ _).trans (runAuthDone_walk _ _ _)
  | error error => exact runAuthDone_walk _ _ _

/-- An id tag is asked about, or looked up. -/
theorem authorize_walk (a : Actor) (idTag : IdTag) (done : AuthDone) : Walk .handling a (a.authorize idTag done) := by
  unfold authorize
  split
  · exact runAuthDone_walk _ _ _
  · exact call_walk _ _ _ _ _ fun _ => onAuthorizeResult_walk _ _ _ _

/-! ## Samples -/

private theorem abandonCall_walk (a : Actor) (token : Nat) : Walk s a (a.abandonCall token) := by
  unfold abandonCall
  split
  · exact .refl
  · exact .same rfl rfl rfl

/-- The oldest samples in flight are abandoned. -/
theorem makeRoomForSample_walk (a : Actor) : Walk s a a.makeRoomForSample := by
  unfold makeRoomForSample
  dsimp only
  exact (Walk.foldl _ (fun token a => a.abandonCall_walk token) _).behind rfl rfl rfl

private theorem onMeterValuesResult_walk (id : ConnectorId) (reply : Option Reply) (result : Except CallError Unit)
    (a : Actor) : Walk .handling a (onMeterValuesResult id reply result a) := by
  cases result with
  | ok _ =>
    have warned : Walk .handling a { a with sampleOverflowWarned := false } := .other rfl
    exact (warned.trans (replyIf_walk _ _ _)).trans (checkEnergyLimit_walk _ _)
  | error error => exact (replyIf_walk a _ _).trans (checkEnergyLimit_walk _ _)

/-- The CALL of a sample, whose reading is already taken. -/
theorem sendSample_walk (a : Actor) (id : ConnectorId) (request : MeterValuesRequest) (reply : Option Reply) :
    Walk .handling a (a.sendSample id request reply) := by
  have sent : Walk .handling a _ := a.call_walk .station (.meterValues request) (.meterValues id reply)
    (fun error => onMeterValuesResult id reply (.error error)) fun error => onMeterValuesResult_walk _ _ _ _
  unfold sendSample
  dsimp only
  split
  · exact sent.trans (.other rfl)
  · exact sent

/-- The register of `id` after `sample_meter` has added to it. -/
def advanced (a : Actor) (id : ConnectorId) (deltaWh : Nat) : Actor :=
  let a := a.flushMeters.withConnector id fun c => { c with meterWh := saturatingAdd c.meterWh deltaWh }
  if 0 < deltaWh then a.markDirty else a

/-- What `sample_meter` does: the connector may be missing, and the sample may be one that is not sent. -/
theorem sampleMeter_cases (a : Actor) (id : ConnectorId) (context : ReadingContext) (deltaWh : Nat)
    (measurands : List Measurand) (reply : Option Reply) :
    (a.flushMeters.findConnector id = none ∧
      a.sampleMeter id context deltaWh measurands reply =
        a.flushMeters.replyIf reply (.error (.unknownConnector id))) ∨
    ∃ c, a.flushMeters.findConnector id = some c ∧
      a.sampleMeter id context deltaWh measurands reply =
        let sample := (a.advanced id deltaWh).meterReading id true
        let request : MeterValuesRequest :=
          { connectorId := id, transactionId := c.txId.bind TxId.wire
            meterValue := [{ timestamp := sample.1.now, reading := sample.2, measurands, context }] }
        if (a.advanced id deltaWh).canTalk && !c.txId.any TxId.isLocal then
          (if reply.isNone then sample.1.makeRoomForSample else sample.1).sendSample id request reply
        else ((a.advanced id deltaWh).replyIf reply (.ok .done)).checkEnergyLimit id := by
  unfold sampleMeter
  dsimp only
  cases found : a.flushMeters.findConnector id with
  | none => exact .inl ⟨rfl, rfl⟩
  | some c =>
    refine .inr ⟨c, rfl, ?_⟩
    change (if !((a.advanced id deltaWh).canTalk && !c.txId.any TxId.isLocal) then _ else _ : Actor) = _
    cases (a.advanced id deltaWh).canTalk && !c.txId.any TxId.isLocal <;> rfl

/-! ## Boot, heartbeat, certificates -/

private theorem onUserCallResult_walk (reply : Option Reply) (result : Except CallError Unit) (a : Actor) :
    Walk s a (onUserCallResult reply result a) := by
  cases result <;> exact replyIf_walk _ _ _

private theorem onBootResult_error_walk (error : CallError) (reply : Option Reply) (a : Actor) :
    Walk s a (onBootResult (.error error) reply a) := by
  unfold onBootResult
  dsimp only
  refine .trans ?_ (replyIf_walk _ _ _)
  split
  · exact setTimer_walk _ (by simp)
  · exact .refl

/-- A boot that failed is tried again. -/
theorem onBootDone_error_walk (generation : Nat) (reply : Option Reply) (error : CallError) (a : Actor) :
    Walk s a (onBootDone generation reply (.error error) a) := by
  unfold onBootDone
  dsimp only
  refine .trans ?_ (onBootResult_error_walk _ _ _)
  split <;> exact .same rfl rfl rfl

/-- The boot of a connection. -/
theorem sendBoot_walk (a : Actor) (reply : Option Reply) : Walk s a (a.sendBoot reply) := by
  unfold sendBoot
  split
  · exact .refl
  · refine (cancelTimer_walk a (show TimerKey.bootRetry ≠ .reconnect by simp)).trans ?_
    exact (call_walk _ _ _ _ _ fun _ => onBootDone_error_walk _ _ _ _).behind rfl rfl rfl

/-- The boot is repeated, if the connection is there. -/
theorem onBootRetryTimer_walk (a : Actor) : Walk s a a.onBootRetryTimer := by
  unfold onBootRetryTimer
  split
  · exact sendBoot_walk _ _
  · exact .refl

/-- A heartbeat. -/
theorem sendHeartbeat_walk (a : Actor) (origin : Origin) (reply : Option Reply) :
    Walk s a (a.sendHeartbeat origin reply) :=
  call_walk _ _ _ _ _ fun _ => onUserCallResult_walk _ _ _

/-- The heartbeat follows its interval. -/
theorem armHeartbeat_walk (a : Actor) : Walk s a a.armHeartbeat := setTimer_walk _ (by simp)

/-- A heartbeat, and the next one is armed. -/
theorem onHeartbeatTimer_walk (a : Actor) : Walk s a a.onHeartbeatTimer := by
  unfold onHeartbeatTimer
  split
  · exact .refl
  · exact (armHeartbeat_walk a).trans (sendHeartbeat_walk _ _ _)

private theorem restorePendingKey_walk (a : Actor) (key : Nat) (previous : Option Nat) :
    Walk s a (a.restorePendingKey key previous) := by
  unfold restorePendingKey
  split
  · exact (markSecretsDirty_walk _).behind rfl rfl rfl
  · exact .refl

private theorem armCertSigningRetry_walk (a : Actor) (id : Nat) : Walk s a (a.armCertSigningRetry id) := by
  unfold armCertSigningRetry
  split
  · exact .refl
  · split
    · exact (cancelTimer_walk a (show TimerKey.certSigning ≠ .reconnect by simp)).trans (.same rfl rfl rfl)
    · exact setTimer_walk _ (by simp)

private theorem onSignResult_walk (series key : Nat) (previous : Option Nat) (reply : Option Reply)
    (result : Except CallError Bool) (a : Actor) : Walk s a (onSignResult series key previous reply result a) := by
  cases result with
  | ok accepted =>
    unfold onSignResult
    dsimp only
    refine .trans ?_ (replyIf_walk _ _ _)
    refine .trans ?_ (armCertSigningRetry_walk _ _)
    split
    · exact .refl
    · exact restorePendingKey_walk _ _ _
  | error error =>
    exact ((restorePendingKey_walk a _ _).trans (armCertSigningRetry_walk _ _)).trans (replyIf_walk _ _ _)

private theorem sendSignCertificate_walk (a : Actor) (id : Nat) (reply : Option Reply) :
    Walk s a (a.sendSignCertificate id reply) := by
  unfold sendSignCertificate
  split
  · exact replyIf_walk _ _ _
  · refine .trans ?_ (call_walk _ _ _ _ _ fun _ => onSignResult_walk _ _ _ _ _ _)
    exact (markSecretsDirty_walk _).behind rfl rfl rfl

/-- A certificate is asked for with a new key. -/
theorem requestCertificate_walk (a : Actor) (key : Nat) (reply : Option Reply) :
    Walk s a (a.requestCertificate key reply) := by
  unfold requestCertificate
  split
  · exact replyIf_walk _ _ _
  · have idle : Walk s a (({ a with nextSignSeries := a.nextSignSeries + 1 } : Actor).cancelTimer .certSigning) :=
      (cancelTimer_walk _ (by simp)).behind rfl rfl rfl
    exact idle.trans ((sendSignCertificate_walk _ _ _).behind rfl rfl rfl)

/-- The signing request is repeated or given up. -/
theorem onCertSigningTimer_walk (a : Actor) : Walk s a a.onCertSigningTimer := by
  unfold onCertSigningTimer
  split
  · exact .refl
  · split
    · exact setTimer_walk _ (by simp)
    · exact (sendSignCertificate_walk _ _ _).behind rfl rfl rfl

/-! ## Completion of CALLs -/

/-- What follows an accepted boot: the statuses, the events, the queue. -/
theorem afterBootAccepted_walk (a : Actor) : Walk .handling a a.afterBootAccepted := by
  have synced := (startOfflineSync_walk { a with resetRetries := none } true).past (a := a) rfl
  unfold afterBootAccepted
  generalize startOfflineSync { a with resetRetries := none } true = started at synced ⊢
  obtain ⟨count, b⟩ := started
  dsimp only
  split
  · exact synced.trans (finishBootAccepted_walk _)
  · exact synced

/-- An accepted boot, which also sets the counter of the attempts back. -/
private theorem onBootAccepted_walk (a : Actor) (response : BootNotificationResponse) :
    Walk .linking a (a.onBootAccepted response) := by
  have later (b : Actor) : Walk .linking b b.armHeartbeat.markDirty.afterBootAccepted :=
    ((armHeartbeat_walk _).trans (markDirty_walk _)).trans (afterBootAccepted_walk _).linking
  unfold onBootAccepted
  dsimp only
  split <;> exact (later _).past rfl

private theorem onBootDone_walk (generation : Nat) (reply : Option Reply)
    (result : Except CallError BootNotificationResponse) (a : Actor) :
    Walk .linking a (onBootDone generation reply result a) := by
  cases result with
  | error error => exact onBootDone_error_walk _ _ _ _
  | ok response =>
    unfold onBootDone onBootResult
    dsimp only
    refine .trans ?_ (replyIf_walk _ _ _)
    have landed : Walk .linking a (if a.link.generation = generation then
        { a with link := { a.link with bootInFlight := false } } else a) := by
      split <;> exact .other rfl
    refine landed.trans ?_
    generalize (if a.link.generation = generation then
      ({ a with link := { a.link with bootInFlight := false } } : Actor) else a) = b
    cases response.status with
    | accepted => exact (onBootAccepted_walk _ _).past rfl
    | pending | rejected =>
      dsimp only
      split
      · exact (setTimer_walk _ (by simp)).past rfl
      · exact .other rfl

/-- The continuation of a CALL other than a `BootNotification` is a handler. -/
theorem runCont_other_walk {continuation : Cont} (other : ∀ generation reply, continuation ≠ .boot generation reply)
    (result : CallResult) (a : Actor) : Walk .handling a (runCont continuation result a) := by
  cases continuation with
  | boot generation reply => exact absurd rfl (other generation reply)
  | startResult => exact onStartResult_walk _ _ _ _ _ _
  | stopResult => exact onStopResult_walk _ _ _ _ _ _ _ _ _
  | syncStart => exact onSyncStart_walk _ _ _
  | syncStop => exact onSyncStop_walk _ _ _
  | closeRefused => exact .refl
  | authorize => exact onAuthorizeResult_walk _ _ _ _
  | heartbeat => exact onUserCallResult_walk _ _ _
  | status => exact onStatusResult_walk _ _ _ _ _
  | meterValues => exact onMeterValuesResult_walk _ _ _ _
  | securityEvent => exact onSecurityEventResult_walk _ _ _
  | signCertificate => exact onSignResult_walk _ _ _ _ _ _
  | userCall => exact onUserCallResult_walk _ _ _
  | ignore => exact .refl

private theorem runCont_walk (continuation : Cont) (result : CallResult) (a : Actor) :
    Walk .linking a (runCont continuation result a) := by
  cases continuation with
  | boot => exact onBootDone_walk _ _ _ _
  | _ => exact (runCont_other_walk (fun _ _ => by simp) result a).linking

/-- A CALL that fails. -/
private theorem runCont_error_walk (continuation : Cont) (error : CallError) (a : Actor) :
    Walk .handling a (runCont continuation (.error error) a) := by
  cases continuation with
  | boot => exact onBootDone_error_walk _ _ _ _
  | _ => exact runCont_other_walk (fun _ _ => by simp) _ a

/-- Every CALL in flight fails, each with its continuation. -/
theorem failPendingCalls_walk (a : Actor) (error : CallError) : Walk .handling a (a.failPendingCalls error) := by
  have failed (calls : List PendingCall) (b : Actor) :
      Walk .handling b (calls.foldl (fun a call => complete call (.error error) a) b) :=
    .foldl _ (fun (call : PendingCall) b => (record_walk b _).trans (runCont_error_walk call.continuation error _)) b
  exact (failed _ _).past rfl

/-- A CALL ended; its continuation may be the one of a boot, which sets the attempts back. -/
theorem onCallDone_walk (a : Actor) (token generation : Nat) (result : CallResult) :
    Walk .linking a (a.onCallDone token generation result) := by
  unfold onCallDone
  split
  · exact .refl
  · split
    · exact .refl
    · exact ((record_walk _ _).trans (runCont_walk _ _ _)).past rfl

/-! ## The link -/

private theorem dropLink_walk (a : Actor) : Walk .linking a a.dropLink :=
  ((cancelTimersWhere_walk a (show isLinkTimer .reconnect = false from rfl)).trans
    (resetStatusTracking_walk _)).trans (.other rfl)

private theorem linkDown_walk (a : Actor) (code : Option Nat) : Walk .linking a (a.linkDown code) :=
  ((dropLink_walk a).trans (failPendingCalls_walk _ _).linking).trans (.other rfl)

/-- The user wants the connection. -/
theorem connect_walk (a : Actor) : Walk .linking a a.connect := by
  unfold connect
  dsimp only
  split <;> exact .other rfl

/-- The user does not want the connection any more. -/
theorem disconnect_walk (a : Actor) : Walk .linking a a.disconnect := by
  have closed (b : Actor) : Walk .linking b { b.linkDown none with connection := .disconnected } :=
    (linkDown_walk b none).trans (.other rfl)
  exact (closed _).past rfl

private theorem reconnectForHardReset_walk (a : Actor) : Walk .linking a a.reconnectForHardReset :=
  (linkDown_walk a none).trans (.other rfl)

private theorem scheduleReconnect_walk (a : Actor) : Walk .linking a a.scheduleReconnect := by
  unfold scheduleReconnect
  split
  · exact .refl
  · dsimp only
    split <;> exact .other rfl

/-- The next attempt begins. -/
theorem onReconnectTimer_walk (a : Actor) : Walk .linking a a.onReconnectTimer := by
  unfold onReconnectTimer
  split <;> exact .other rfl

/-- An attempt ended. -/
theorem onConnectResult_walk (a : Actor) (generation : Nat) (ok : Bool) (event : Option String) :
    Walk .linking a (a.onConnectResult generation ok event) := by
  unfold onConnectResult
  split
  · exact .refl
  · dsimp only
    split
    · refine .trans ?_ (sendBoot_walk _ _)
      cases event with
      | none => exact .other rfl
      | some event => exact ((securityEvent_walk _ event none).trans (flushNow_walk _)).past rfl
    · refine .trans ?_ (scheduleReconnect_walk _)
      cases event with
      | none => exact .other rfl
      | some event =>
        have told (b : Actor) : Walk .linking b { b.securityEvent event none with connection := .disconnected } :=
          (securityEvent_walk b event none).trans (.other rfl)
        exact (told _).past rfl

/-- The connection is lost. -/
theorem onClosed_walk (a : Actor) (code : Option Nat) : Walk .linking a (a.onClosed code) := by
  unfold onClosed
  split
  · exact .refl
  · exact (linkDown_walk a code).trans ((scheduleReconnect_walk _).past rfl)

/-- The connection of a hard reset is closed when nothing is in flight any more. -/
theorem onHardResetTimer_walk (a : Actor) : Walk .linking a a.onHardResetTimer := by
  unfold onHardResetTimer
  split
  · exact .refl
  · split
    · exact .other rfl
    · split
      · exact .other rfl
      · exact (reconnectForHardReset_walk _).past rfl

/-- The meters are flushed before the CALLs fail. -/
theorem shutdown_walk (a : Actor) (reply : Option Reply) : Walk .linking a (a.shutdown reply) := by
  have drained : Walk .linking a a.drain :=
    (flushMeters_walk a).trans ((failPendingCalls_walk _ _).linking.past rfl)
  have finished (b : Actor) : Walk .linking b b.finishPersistence := by
    unfold finishPersistence
    dsimp only
    split <;> exact .other rfl
  have halted : Walk .linking a.drain a.drain.halted := .other rfl
  exact ((drained.trans halted).trans (finished _)).trans (replyIf_walk _ _ _)

/-! ## Commands -/

/-- An EV is plugged in; a suspended transaction charges again. -/
theorem plugIn_walk (a : Actor) (id : ConnectorId) : Walk s a (a.plugIn id).1 := by
  unfold plugIn
  split
  · exact .refl
  · split
    · exact .refl
    · split
      · exact .refl
      · dsimp only
        have plugged : Walk s a (a.withConnector id pluggedConnector) :=
          withConnector_walk a id fun _ => ⟨rfl, rfl⟩
        refine plugged.trans ?_
        split
        · exact statusChanged_walk _ _
        · exact (rescheduleMetering_walk _).trans (statusChanged_walk _ _)

/-- An EV is unplugged, which may stop the transaction. -/
theorem unplug_walk (a : Actor) (id : ConnectorId) (done : Done) : Walk .handling a (a.unplug id done) := by
  unfold unplug
  split
  · exact runDone_walk _ _ _
  · split
    · split
      · exact stopTransaction_walk _ _ _ _ _
      · refine .trans (withStatus_walk a id fun c => ?_) (runDone_walk _ _ _)
        exact ⟨rfl, rfl⟩
    · split
      · exact runDone_walk _ _ _
      · refine .trans (withStatus_walk a id fun c => ?_) (runDone_walk _ _ _)
        exact ⟨rfl, rfl⟩

/-- A status is set by hand. -/
theorem setStatus_walk (a : Actor) (id : ConnectorId) (status : ConnectorStatus) :
    Walk s a (a.setStatus id status).1 := by
  unfold setStatus
  split
  · exact .refl
  · exact withStatus_walk a id fun _ => ⟨rfl, rfl⟩

/-- A fault, which may stop the transaction. -/
theorem fault_walk (a : Actor) (id : ConnectorId) (code : ChargePointErrorCode) (info vendorCode : Option String)
    (done : Done) : Walk .handling a (a.fault id code info vendorCode done) := by
  unfold fault
  split
  · exact runDone_walk _ _ _
  · rename_i c _
    dsimp only
    refine .trans ?_ (.trans (withStatus_walk _ id fun c => ?_) (runDone_walk _ _ _))
    · split
      · exact .refl
      · exact stopTransaction_walk _ _ _ _ _
    · exact ⟨rfl, rfl⟩

/-- A fault is cleared. -/
theorem clearFault_walk (a : Actor) (id : ConnectorId) : Walk s a (a.clearFault id).1 := by
  unfold clearFault
  split
  · exact .refl
  · exact withStatus_walk a id fun _ => ⟨rfl, rfl⟩

/-- A CALL of the user. -/
theorem userCall_walk (a : Actor) (origin : Origin) (action : String) (reply : Reply) :
    Walk s a (a.userCall origin action reply) :=
  call_walk _ _ _ _ _ fun _ => onUserCallResult_walk _ _ _

private theorem restartMetering_walk (a : Actor) : Walk s a a.restartMetering :=
  (cancelTimersWhere_walk a rfl).trans (rescheduleMetering_walk _)

/-! ## Reservations and availability -/

/-- Reservations that have expired are dropped and reported. -/
theorem releaseExpiredReservations_walk (a : Actor) : Walk s a a.releaseExpiredReservations := by
  have expired : SameRegister fun c => if reservationExpired c a.now then clearReservation c else c := by
    intro c
    dsimp only
    split
    · exact clearReservation_register c
    · exact ⟨rfl, rfl⟩
  have told (released : List ConnectorId) (b : Actor) : Walk s b
      (released.foldl (fun a id => (a.cancelTimer (.reservationExpiry id)).statusChanged id) b) :=
    .foldl _ (fun id a => (cancelTimer_walk a (by simp)).trans (statusChanged_walk _ _)) b
  unfold releaseExpiredReservations expireDue
  dsimp only
  refine (a.map_walk expired).trans ?_
  split
  · exact told _ _
  · exact (told _ _).trans (flushNow_walk _)

/-- The timers of the reservations that are left are armed again. -/
theorem onReservationTimer_walk (a : Actor) : Walk s a a.onReservationTimer :=
  (releaseExpiredReservations_walk a).trans (.foldl _ (fun _ a => a.setTimer_walk (by simp)) _)

/-- The timer of a reservation, which may have expired already. -/
theorem armReservation_walk (a : Actor) (id : ConnectorId) : Walk s a (a.armReservation id) := by
  unfold armReservation
  split
  · exact cancelTimer_walk _ (by simp)
  · split
    · exact onReservationTimer_walk _
    · exact setTimer_walk _ (by simp)

/-- The connectors of a reservation that is accepted. -/
private theorem reserveNow_walk (a : Actor) {request : ReserveNowRequest} {id : ReservationId}
    {movedFrom : Option ConnectorId} {connectors : List ConnectorSnapshot} {target : ConnectorId}
    (accepted : reserveNow (a.trialConnectors id movedFrom) request a.now a.registry.reserveConnectorZeroSupported =
      .ok (connectors, target)) : Walk s a { a with connectors } := by
  have trial : (a.trialConnectors id movedFrom).map (fun c => (c.id, c.meterWh)) = a.registers := by
    unfold trialConnectors cancelReservation
    cases movedFrom with
    | none => rfl
    | some old =>
      dsimp only
      cases a.connectors.find? fun connector => holdsReservation connector id with
      | none => rfl
      | some connector => exact updateConnector_registers _ _ clearReservation_register
  have same : connectors.map (fun c => (c.id, c.meterWh)) = a.registers := by
    rw [← trial]
    unfold reserveNow at accepted
    split at accepted
    · cases accepted
    · repeat' split at accepted
      all_goals cases accepted
      exact updateConnector_registers _ _ fun _ => ⟨rfl, rfl⟩
  refine .same ?_ rfl rfl
  unfold gauges registers
  rw [same]
  rfl

private theorem reserve_walk (a : Actor) (request : ReserveNowRequest) : Walk s a (a.reserve request) := by
  refine (releaseExpiredReservations_walk a).trans ?_
  unfold reserve
  generalize a.releaseExpiredReservations = b
  dsimp only
  split
  · exact record_walk _ _
  · rename_i connectors target accepted
    have changed : Walk s b (({ b with connectors } : Actor).record (.responded (.reservation .accepted))) :=
      (b.reserveNow_walk accepted).trans (record_walk _ _)
    refine changed.trans ?_
    generalize ({ b with connectors } : Actor).record (.responded (.reservation .accepted)) = c
    split
    · exact ((((cancelTimer_walk c (by simp)).trans (statusChanged_walk _ _)).trans (armReservation_walk _ _)).trans
        (flushNow_walk _)).trans (statusChanged_walk _ _)
    · exact ((armReservation_walk c _).trans (flushNow_walk _)).trans (statusChanged_walk _ _)

private theorem cancel_walk (a : Actor) (id : ReservationId) : Walk s a (a.cancel id) := by
  unfold cancel cancelReservation
  cases a.connectors.find? fun connector => holdsReservation connector id with
  | none => exact record_walk _ _
  | some connector =>
    have released : Walk s a (({ a with
        connectors := updateConnector a.connectors connector.id clearReservation } : Actor).record
          (.responded (.cancelReservation true))) :=
      (a.updateConnector_walk connector.id clearReservation_register).trans (record_walk _ _)
    exact ((released.trans (cancelTimer_walk _ (by simp))).trans (flushNow_walk _)).trans (statusChanged_walk _ _)

private theorem changeAvailability_walk (a : Actor) (id : ConnectorId) (kind : AvailabilityType) :
    Walk s a (a.changeAvailability id kind) := by
  have applied (targets : List ConnectorId) (b : Actor) :
      Walk s b (targets.foldl (fun a target => a.withConnector target (changedAvailability kind)) b) :=
    .foldl _ (fun target a => a.withConnector_walk target (changedAvailability_register kind)) b
  have told (ids : List ConnectorId) (b : Actor) : Walk s b (ids.foldl statusChanged b) :=
    .foldl _ (fun id a => a.statusChanged_walk id) b
  unfold changeAvailability
  split
  · exact record_walk _ _
  · dsimp only
    refine .trans ?_ (told _ _)
    refine .trans ?_ ((record_walk _ _).trans (flushNow_walk _))
    refine .trans ?_ (applied _ _)
    split
    · exact .same rfl rfl rfl
    · exact .refl

/-! ## Requests of the Central System -/

private theorem unlockConnector_walk (a : Actor) (id : ConnectorId) : Walk .handling a (a.unlockConnector id) := by
  unfold unlockConnector
  split
  · exact record_walk _ _
  · dsimp only
    split
    · exact record_walk _ _
    · exact (record_walk a _).trans (stopTransaction_walk _ _ _ _ _)

private theorem remoteStart_walk (a : Actor) (connectorId : Option ConnectorId) (idTag : IdTag)
    (profile : Option (ChargingProfile Rat)) : Walk .handling a (a.remoteStart connectorId idTag profile) := by
  unfold remoteStart
  split
  · exact record_walk _ _
  · split
    · exact authorize_walk _ _ _
    · exact (record_walk a _).trans (startTransaction_walk _ _ _ _)

private theorem remoteStop_walk (a : Actor) (transactionId : Int) : Walk .handling a (a.remoteStop transactionId) := by
  unfold remoteStop
  split
  · exact record_walk _ _
  · exact (record_walk a _).trans (stopTransaction_walk _ _ _ _ _)

private theorem sendMeterValues_walk (a : Actor) (id : ConnectorId) : Walk s a (a.sendMeterValues id) := by
  unfold sendMeterValues
  split
  · exact .refl
  · exact (meterReading_walk a id).trans (call_walk _ _ _ _ _ fun _ => .refl)

private theorem startTriggered_walk (a : Actor) (message : MessageTrigger) (connector : Option ConnectorId) :
    Walk s a (a.startTriggered message connector) := by
  cases message with
  | bootNotification => exact sendBoot_walk _ _
  | heartbeat => exact sendHeartbeat_walk _ _ _
  | notification action => exact call_walk a _ _ _ (fun _ a => a) fun _ => .refl
  | signChargePointCertificate key => exact requestCertificate_walk _ _ _
  | statusNotification => exact .foldl _ (fun id a => a.sendStatusForced_walk id _ _) a
  | meterValues => exact .foldl _ (fun id a => a.sendMeterValues_walk id) a

private theorem triggerMessage_walk (a : Actor) (message : MessageTrigger) (connector : Option ConnectorId) :
    Walk s a (a.triggerMessage message connector) := by
  unfold triggerMessage
  dsimp only
  split
  · exact (record_walk a _).trans (startTriggered_walk _ _ _)
  · exact record_walk _ _

private theorem getCompositeSchedule_walk (a : Actor) (id : ConnectorId) (duration : Int)
    (unit : Option ChargingRateUnitType) :
    Walk .handling a (a.getCompositeSchedule id duration unit) := by
  unfold getCompositeSchedule
  dsimp only
  split
  · exact ((markDirty_walk _).trans (record_walk _ _)).past rfl
  · exact .other rfl

private theorem scheduleReconnectAfterReply_walk (a : Actor) : Walk s a a.scheduleReconnectAfterReply :=
  (setTimer_walk _ (by simp)).behind rfl rfl rfl

private theorem reconnectForNewSecurityParameters_walk (a : Actor) : Walk s a a.reconnectForNewSecurityParameters := by
  unfold reconnectForNewSecurityParameters
  split
  · exact .refl
  · exact scheduleReconnectAfterReply_walk _

/-- A key is stored, and what depends on it follows. -/
theorem applyConfigurationChange_walk (a : Actor) (change : ConfigChange) :
    Walk .handling a (a.applyConfigurationChange change) := by
  unfold applyConfigurationChange
  have stored : Walk .handling a { a with registry := change.registry } := .other rfl
  generalize ({ a with registry := change.registry } : Actor) = b at stored ⊢
  refine stored.trans ?_
  dsimp only
  have secured : Walk .handling b (if change.key = .security then
      (b.markSecretsDirty.securityEvent "ReconfigurationOfSecurityParameters" none).reconnectForNewSecurityParameters
      else b) := by
    split
    · exact ((markSecretsDirty_walk b).trans (securityEvent_walk _ _ _)).trans
        (reconnectForNewSecurityParameters_walk _)
    · exact .other rfl
  refine secured.trans ?_
  generalize (if change.key = .security then
      (b.markSecretsDirty.securityEvent "ReconfigurationOfSecurityParameters" none).reconnectForNewSecurityParameters
      else b) = c
  refine (flushNow_walk c).trans ?_
  generalize c.flushNow = d
  split
  · split
    · exact armHeartbeat_walk _
    · exact .other rfl
  · split
    · exact flushPendingStatuses_walk _
    · exact .other rfl
  · exact restartMetering_walk _
  · exact .other rfl

private theorem certificateSigned_walk (a : Actor) (valid : Bool) : Walk s a (a.certificateSigned valid) := by
  have idle : Walk s a { a.cancelTimer .certSigning with signSeries := none } :=
    (cancelTimer_walk a (by simp)).trans (.same rfl rfl rfl)
  unfold certificateSigned
  dsimp only
  refine idle.trans ?_
  split
  · have saved (b : Actor) : Walk s b ({ b with pendingKey := none } : Actor).markSecretsDirty.flushNow :=
      ((markSecretsDirty_walk _).trans (flushNow_walk _)).behind rfl rfl rfl
    exact ((saved _).trans (reconnectForNewSecurityParameters_walk _)).trans (record_walk _ _)
  · exact (record_walk _ _).trans (securityEvent_walk _ _ _)

private theorem resetConnector_walk (reason : StopReason) (a : Actor) (id : ConnectorId) :
    Walk .handling a (resetConnector reason a id) := by
  unfold resetConnector
  exact (stopTransaction_walk a id reason none .ignore).trans (withStatus_walk _ id fun _ => ⟨rfl, rfl⟩)

private theorem resetReservation_walk (a : Actor) (id : ConnectorId) : Walk s a (resetReservation a id) :=
  ((withConnector_walk a id clearReservation_register).trans (cancelTimer_walk _ (by simp))).trans
    (statusChanged_walk _ _)

private theorem performReset_walk (a : Actor) (kind : ResetType) : Walk .handling a (a.performReset kind) := by
  unfold performReset
  dsimp only
  refine (securityEvent_walk a "ResetOrReboot" none).trans ?_
  generalize a.securityEvent "ResetOrReboot" none = b
  have quiet {c : Actor} (p : TimerKey → Bool) (spares : p .reconnect = false)
      (eq : ((b.cancelTimer .heartbeat).cancelTimer .bootRetry).cancelTimersWhere p = c) : Walk .handling b c :=
    eq ▸ ((cancelTimer_walk b (by simp)).trans (cancelTimer_walk _ (by simp))).trans (cancelTimersWhere_walk _ spares)
  generalize eq : Actor.cancelTimersWhere ((b.cancelTimer .heartbeat).cancelTimer .bootRetry) _ = c
  refine (quiet _ rfl eq).trans ?_
  generalize (c.connectors.filter fun c => !c.transaction.isIdle).map (·.id) = running
  have stopped : Walk .handling c (running.foldl (resetConnector (resetReason kind)) c) :=
    .foldl _ (fun id a => resetConnector_walk _ a id) c
  refine stopped.trans ?_
  generalize running.foldl (resetConnector (resetReason kind)) c = d
  generalize (d.connectors.filter fun c => c.reservation.isSome).map (·.id) = reserved
  have released : Walk .handling d (reserved.foldl resetReservation d) :=
    .foldl _ (fun id a => resetReservation_walk a id) d
  refine released.trans ?_
  generalize reserved.foldl resetReservation d = e
  refine .trans ?_ (flushNow_walk _)
  have lost : Walk .handling e { e with registration := none, resetRetries := some e.registry.resetRetries } :=
    .other rfl
  split
  · generalize ({ e with registration := none, resetRetries := some e.registry.resetRetries } : Actor) = f at lost ⊢
    split
    · exact lost.trans (setTimer_walk _ (by simp))
    · exact lost.trans (scheduleReconnectAfterReply_walk _)
  · exact lost

/-- A step of the simulated maintenance. -/
theorem onMaintenance_walk (a : Actor) (notification event : Option String) :
    Walk .handling a (a.onMaintenance notification event) := by
  unfold onMaintenance
  dsimp only
  cases notification with
  | none =>
    cases event with
    | none => exact .other rfl
    | some event => exact securityEvent_walk _ _ _
  | some action =>
    have sent : Walk .handling a (a.call .station (.notification action) .ignore fun _ a => a) :=
      call_walk _ _ _ _ _ fun _ => .other rfl
    cases event with
    | none => exact sent
    | some event => exact sent.trans (securityEvent_walk _ _ _)

/-- A CALL of the Central System, whatever it asks. -/
theorem dispatchIncoming_walk (a : Actor) (call : Incoming) : Walk .handling a (a.dispatchIncoming call) := by
  -- What is stored is written at once, and the answer follows.
  have stored (b : Actor) (answer : Answer) : Walk .handling b (b.flushNow.record (.responded answer)) :=
    (flushNow_walk b).trans (record_walk _ _)
  cases call with
  | remoteStart connectorId idTag profile => exact remoteStart_walk _ _ _ _
  | remoteStop transactionId => exact remoteStop_walk _ _
  | reset kind => exact (record_walk a _).trans (performReset_walk _ kind)
  | changeAvailability id kind => exact changeAvailability_walk _ _ _
  | unlockConnector id => exact unlockConnector_walk _ _
  | reserveNow request => exact reserve_walk _ _
  | cancelReservation id => exact cancel_walk _ _
  | triggerMessage message connector => exact triggerMessage_walk _ _ _
  | setChargingProfile id profile => exact (setChargingProfile_walk a id profile).trans (record_walk _ _)
  | clearChargingProfile filter => exact ((markDirty_walk _).trans (record_walk _ _)).past rfl
  | getCompositeSchedule id duration unit => exact getCompositeSchedule_walk _ _ _ _
  | changeConfiguration change =>
    cases change with
    | none => exact record_walk _ _
    | some change => exact (applyConfigurationChange_walk a change).trans (record_walk _ _)
  | sendLocalList list =>
    cases list with
    | none => exact record_walk _ _
    | some localList => exact (stored _ _).past rfl
  | clearCache => exact (stored _ _).past rfl
  | certificateSigned valid => exact certificateSigned_walk _ _
  | editCertificates changed =>
    cases changed with
    | false => exact record_walk _ _
    | true => exact stored _ _
  | other => exact record_walk _ _

/-! ## What a walk tells -/

private theorem flushMeters_held (a : Actor) : a.flushMeters.tie = a.tie ∧ a.flushMeters.shelf = a.shelf := by
  have marked (b : Actor) : b.markDirty.tie = b.tie ∧ b.markDirty.shelf = b.shelf := by
    unfold markDirty setTimerIfIdle
    split
    · exact ⟨rfl, rfl⟩
    · split
      · exact ⟨rfl, rfl⟩
      · refine ⟨?_, rfl⟩
        unfold tie setTimer
        simp
  unfold flushMeters
  dsimp only
  split
  · exact marked _
  · exact ⟨rfl, rfl⟩

end Actor

namespace Walk

variable {a b : Actor}

/-- A handler leaves the tie alone. -/
theorem tied (walk : Walk .handling a b) : SameTie a b := by
  induction walk with
  | refl => rfl
  | tail _ move ih =>
    refine Eq.trans ?_ ih
    cases move with
    | other same => exact Option.some.inj (congrArg (·.2.1) same)
    | settle => rfl
    | flush => exact (Actor.flushMeters_held _).1

/-- The housekeeping leaves the shelf alone. -/
theorem shelf (walk : Walk .housekeeping a b) : b.shelf = a.shelf := by
  induction walk with
  | refl => rfl
  | tail _ move ih =>
    refine Eq.trans ?_ ih
    cases move with
    | other same => exact Option.some.inj (congrArg (·.2.2) same)
    | settle => rfl
    | flush => exact (Actor.flushMeters_held _).2

end Walk

end KirbyOcpp
