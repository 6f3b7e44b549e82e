import KirbyOcpp.Data.Lists
import KirbyOcpp.Station.ChargingProfiles

/-!
# The charging profile store keeps its rules

A store is what any sequence of operations makes of the empty one, under fixed limits and a fixed
number of connectors. Ids and slots stay distinct, every stored profile stays admissible, and the
number of profiles stays within the limit.

**The law** `ChargingProfileStore.run_lawful`: this holds of every run, and every `set` and `clear` on it
does exactly what the rules of the store say.
-/

namespace KirbyOcpp

namespace ChargingProfileStore

variable {F : Type} [Float64 F]

/-! ## What a store is for -/

/-- The place of a profile: one profile for each. -/
def slot (stored : StoredProfile F) : ConnectorId × Int × ChargingProfilePurposeType :=
  (stored.connectorId, stored.profile.stackLevel, stored.profile.chargingProfilePurpose)

/-- Connector and transaction binding suit the purpose of the profile. -/
def Placed (connectorCount : Nat) (stored : StoredProfile F) : Prop :=
  match stored.profile.chargingProfilePurpose with
  | .chargePointMaxProfile => stored.connectorId = station ∧ stored.boundTx = none
  | .txProfile => (1 ≤ stored.connectorId ∧ stored.connectorId ≤ connectorCount) ∧
      stored.boundTx.isSome
  | .txDefaultProfile => stored.connectorId ≤ connectorCount ∧ stored.boundTx = none

/-- Shape and limits of one profile. -/
structure WithinLimits (limits : StoreLimits) (profile : ChargingProfile F) : Prop where
  shape : shapeError profile = none
  unit : profile.chargingSchedule.chargingRateUnit ∈ limits.allowedUnits
  stackLevel : profile.stackLevel ≤ limits.maxStackLevel
  periods : profile.chargingSchedule.chargingSchedulePeriod.length ≤ limits.maxPeriods

/-- What every store satisfies. -/
structure Sound (limits : StoreLimits) (connectorCount : Nat) (profiles : ChargingProfileStore F) :
    Prop where
  ids : (profiles.map fun stored => stored.profile.chargingProfileId).Nodup
  slots : (profiles.map slot).Nodup
  within : ∀ stored ∈ profiles, WithinLimits limits stored.profile
  placed : ∀ stored ∈ profiles, Placed connectorCount stored
  size : profiles.length ≤ limits.maxInstalled

/-- Not expired at `now`, and neither the id nor the slot of the new profile. -/
def Survives (connector : ConnectorId) (profile : ChargingProfile F) (now : Instant)
    (stored : StoredProfile F) : Prop :=
  ¬ isExpired stored.profile now ∧
    stored.profile.chargingProfileId ≠ profile.chargingProfileId ∧
    slot stored ≠ (connector, profile.stackLevel, profile.chargingProfilePurpose)

instance (connector : ConnectorId) (profile : ChargingProfile F) (now : Instant) :
    DecidablePred (Survives connector profile now) := fun _ =>
  inferInstanceAs (Decidable (_ ∧ _ ∧ _))

/-- The admission rules 1 to 7, in the words of the module's documentation. -/
structure Admissible (profiles : ChargingProfileStore F) (connector : ConnectorId)
    (profile : ChargingProfile F) (ctx : ProfileContext) : Prop where
  /-- 1. The connector is known. -/
  known : connector = station ∨ 1 ≤ connector ∧ connector ≤ ctx.connectorCount
  /-- 2. `ChargePointMaxProfile` only on connector 0. -/
  cap : profile.chargingProfilePurpose = .chargePointMaxProfile → connector = station
  /-- 3. `TxProfile` needs an active transaction on the connector, which connector 0 never has, and
  names no other transaction. -/
  tx : profile.chargingProfilePurpose = .txProfile → connector ≠ station ∧
    ∃ tx, ctx.activeTx = some tx ∧ ∀ id, profile.transactionId = some id → tx.wire = some id
  /-- 4 to 6. Shape, rate unit, stack level and number of periods. -/
  within : WithinLimits ctx.limits profile
  /-- 7. The store is not full once the replaced profiles are gone. -/
  room : (profiles.filter fun stored => decide (Survives connector profile ctx.now stored)).length <
    ctx.limits.maxInstalled

/-- The transaction that a stored profile belongs to. -/
def bindingOf (profile : ChargingProfile F) (ctx : ProfileContext) : Option TxId :=
  if profile.chargingProfilePurpose = .txProfile then ctx.activeTx else none

/-- Every criterion given matches. -/
structure Matches (filter : ClearChargingProfileRequest) (stored : StoredProfile F) : Prop where
  id : ∀ id, filter.id = some id → stored.profile.chargingProfileId = id
  connector : ∀ id, filter.connectorId = some id → stored.connectorId = id
  purpose : ∀ purpose, filter.chargingProfilePurpose = some purpose →
    stored.profile.chargingProfilePurpose = purpose
  stackLevel : ∀ level, filter.stackLevel = some level → stored.profile.stackLevel = level

/-! ## One operation -/

omit [Float64 F] in
theorem survives_iff {connector : ConnectorId} {profile : ChargingProfile F} {now : Instant}
    {stored : StoredProfile F} :
    decide (Survives connector profile now stored) =
      (!replaces connector profile stored && !isExpired stored.profile now) := by
  rw [Bool.eq_iff_iff]
  simp only [Survives, slot, replaces, decide_eq_true_eq, ne_eq, Prod.mk.injEq, Bool.and_eq_true,
    Bool.not_eq_true', Bool.or_eq_false_iff, decide_eq_false_iff_not, Bool.and_eq_false_iff,
    beq_eq_false_iff_ne, Bool.not_eq_true]
  tauto

omit [Float64 F] in
/-- Pruning and replacing in one pass. -/
theorem filter_survives (profiles : ChargingProfileStore F) (connector : ConnectorId)
    (profile : ChargingProfile F) (now : Instant) :
    (pruneExpired profiles now).filter (fun stored => !replaces connector profile stored) =
      profiles.filter fun stored => decide (Survives connector profile now stored) := by
  rw [pruneExpired, List.filter_filter]
  exact List.filter_congr fun stored _ => survives_iff.symm

theorem isKnownConnector_iff {connector : ConnectorId} {count : Nat} :
    isKnownConnector connector count = true ↔
      connector = station ∨ 1 ≤ connector ∧ connector ≤ count := by
  simp [isKnownConnector, isStation]

/-- The checks that `admits` makes after the purpose's own. -/
theorem limits_check {limits : StoreLimits} {profile : ChargingProfile F} {tx bound : Option TxId} :
    (if (shapeError profile).isSome then .error .rejected
      else if !limits.allowedUnits.contains profile.chargingSchedule.chargingRateUnit then
        .error .notSupported
      else if profile.stackLevel > limits.maxStackLevel ∨
          profile.chargingSchedule.chargingSchedulePeriod.length > limits.maxPeriods then
        .error .rejected
      else .ok tx : Except ChargingProfileStatus (Option TxId)) = .ok bound ↔
    WithinLimits limits profile ∧ bound = tx := by
  by_cases shape : shapeError profile = none
  · by_cases unit : profile.chargingSchedule.chargingRateUnit ∈ limits.allowedUnits
    · by_cases atop : profile.stackLevel > limits.maxStackLevel ∨
          profile.chargingSchedule.chargingSchedulePeriod.length > limits.maxPeriods
      · have outside : ¬ WithinLimits limits profile := fun within => by
          have := within.stackLevel
          have := within.periods
          omega
        simp [shape, unit, atop, outside]
      · have inside : WithinLimits limits profile := ⟨shape, unit, by omega, by omega⟩
        simp [shape, unit, atop, inside, eq_comm]
    · have outside : ¬ WithinLimits limits profile := fun within => unit within.unit
      simp [shape, unit, outside]
  · have outside : ¬ WithinLimits limits profile := fun within => shape within.shape
    simp [Option.isSome_iff_ne_none, shape, outside]

/-- Rules 1 to 6 decide `admits`; what it returns is the binding of the profile. -/
theorem admit_ok {profile : ChargingProfile F} {ctx : ProfileContext} {connector : ConnectorId}
    {bound : Option TxId} :
    admits connector profile ctx = .ok bound ↔
      (connector = station ∨ 1 ≤ connector ∧ connector ≤ ctx.connectorCount) ∧
      (profile.chargingProfilePurpose = .chargePointMaxProfile → connector = station) ∧
      (profile.chargingProfilePurpose = .txProfile → connector ≠ station ∧
        ∃ tx, ctx.activeTx = some tx ∧ ∀ id, profile.transactionId = some id → tx.wire = some id) ∧
      WithinLimits ctx.limits profile ∧ bound = bindingOf profile ctx := by
  rw [← isKnownConnector_iff]
  unfold admits bindingOf
  by_cases known : isKnownConnector connector ctx.connectorCount = true
  · cases purpose : profile.chargingProfilePurpose with
    | chargePointMaxProfile =>
      by_cases onStation : connector = station
      · have check := @limits_check F _ ctx.limits profile none bound
        simpa [known, isStation, ← onStation] using check
      · simp [known, isStation, onStation]
    | txProfile =>
      by_cases onStation : connector = station
      · simp [isStation, onStation]
      · cases tx : ctx.activeTx with
        | none => simp [known, isStation, onStation]
        | some active =>
          by_cases own : ∀ id, profile.transactionId = some id → active.wire = some id
          · have check := @limits_check F _ ctx.limits profile (some active) bound
            have same : (profile.transactionId.any fun id => !decide (active.wire = some id)) = false := by
              cases named : profile.transactionId with
              | none => rfl
              | some id => simp [own id named]
            simpa [known, isStation, onStation, same, iff_true_intro own] using check
          · have other : (profile.transactionId.any fun id => !decide (active.wire = some id)) = true := by
              cases named : profile.transactionId with
              | none => exact absurd (fun id => by simp [named]) own
              | some id => simpa [named] using own
            simp [known, isStation, onStation, other, own]
    | txDefaultProfile =>
      have check := @limits_check F _ ctx.limits profile none bound
      simpa [known] using check
  · simp [known]

theorem admit_refused {profile : ChargingProfile F} {ctx : ProfileContext} {connector : ConnectorId}
    {status : ChargingProfileStatus} (h : admits connector profile ctx = .error status) :
    status ≠ .accepted := by
  rintro rfl
  grind [admits]

omit [Float64 F] in
theorem matchesFilter_iff {stored : StoredProfile F} {filter : ClearChargingProfileRequest} :
    matchesFilter stored filter = true ↔ Matches filter stored := by
  simp only [matchesFilter, Bool.and_eq_true, Option.all_eq_true, decide_eq_true_eq, beq_iff_eq]
  exact ⟨fun ⟨⟨⟨id, connector⟩, purpose⟩, level⟩ => ⟨id, connector, purpose, level⟩,
    fun h => ⟨⟨⟨h.id, h.connector⟩, h.purpose⟩, h.stackLevel⟩⟩

instance (filter : ClearChargingProfileRequest) : DecidablePred (@Matches F filter) := fun _ =>
  decidable_of_iff _ matchesFilter_iff

omit [Float64 F] in
/-- `clear` keeps what is neither expired nor matched, in order. -/
theorem clear_kept (profiles : ChargingProfileStore F) (filter : ClearChargingProfileRequest)
    (now : Instant) :
    (profiles.clear filter now).1 =
      profiles.filter fun stored => !isExpired stored.profile now && !matchesFilter stored filter := by
  rw [clear, pruneExpired, List.filter_filter]
  exact List.filter_congr fun stored _ => Bool.and_comm _ _

section

variable (profiles : ChargingProfileStore F) (connector : ConnectorId) (profile : ChargingProfile F)
  (ctx : ProfileContext)

/-- The entry that an accepted `set` appends. -/
def installed : StoredProfile F :=
  { connectorId := connector, profile, boundTx := bindingOf profile ctx, installedAt := some ctx.now }

/-- `set` accepts the profiles that the rules admit. -/
theorem set_accepted_iff :
    (profiles.set connector profile ctx).2 = .accepted ↔ Admissible profiles connector profile ctx := by
  unfold set
  cases admitted : admits connector profile ctx with
  | error status =>
    refine iff_of_false (admit_refused admitted) fun h => ?_
    have ok := admit_ok.mpr ⟨h.known, h.cap, h.tx, h.within, rfl⟩
    rw [admitted] at ok
    cases ok
  | ok bound =>
    obtain ⟨known, cap, tx, within, -⟩ := admit_ok.mp admitted
    simp only [filter_survives]
    split
    case isTrue full => exact iff_of_false (by simp) fun h => absurd h.room (by omega)
    case isFalse room => exact iff_of_true rfl ⟨known, cap, tx, within, by omega⟩

/-- A `set` that is not accepted only prunes. -/
theorem set_refused (h : (profiles.set connector profile ctx).2 ≠ .accepted) :
    (profiles.set connector profile ctx).1 = profiles.pruneExpired ctx.now := by
  revert h
  unfold set
  cases admits connector profile ctx with
  | error status => exact fun _ => rfl
  | ok bound =>
    dsimp only
    split
    case isTrue => exact fun _ => rfl
    case isFalse => exact fun h => absurd rfl h

/-- An accepted `set` removes the expired and the replaced profiles and appends the new one. -/
theorem set_accepted (h : (profiles.set connector profile ctx).2 = .accepted) :
    (profiles.set connector profile ctx).1 =
      (profiles.filter fun stored => decide (Survives connector profile ctx.now stored)) ++
        [installed connector profile ctx] := by
  revert h
  unfold set
  cases admitted : admits connector profile ctx with
  | error status => exact fun h => absurd h (admit_refused admitted)
  | ok bound =>
    obtain ⟨-, -, -, -, rfl⟩ := admit_ok.mp admitted
    simp only [filter_survives]
    split
    case isTrue => simp
    case isFalse => exact fun _ => rfl

end

/-! ## Runs -/

/-- One operation on a store. -/
inductive Op (F : Type) where
  | set (connector : ConnectorId) (profile : ChargingProfile F) (now : Instant) (activeTx : Option TxId)
  | clear (filter : ClearChargingProfileRequest) (now : Instant)
  | pruneExpired (now : Instant)
  | onTransactionEnded (tx : TxId)
  | backfillInstalledAt (now : Instant)
  | compositeSchedule (req : CompositeRequest F)

variable [DecidableEq F]

/-- The store after one operation. -/
def apply (limits : StoreLimits) (connectorCount : Nat) (profiles : ChargingProfileStore F) :
    Op F → ChargingProfileStore F
  | .set connector profile now activeTx =>
    (profiles.set connector profile { now, connectorCount, activeTx, limits }).1
  | .clear filter now => (profiles.clear filter now).1
  | .pruneExpired now => profiles.pruneExpired now
  | .onTransactionEnded tx => profiles.onTransactionEnded tx
  | .backfillInstalledAt now => profiles.backfillInstalledAt now
  | .compositeSchedule req => (profiles.compositeSchedule req).1

/-- The store after a sequence of operations, from the empty one. -/
def run (limits : StoreLimits) (connectorCount : Nat) (ops : List (Op F)) : ChargingProfileStore F :=
  ops.foldl (apply limits connectorCount) []

variable {limits : StoreLimits} {connectorCount : Nat} {profiles : ChargingProfileStore F}

omit [DecidableEq F] in
theorem Sound.empty : Sound limits connectorCount ([] : ChargingProfileStore F) where
  ids := List.nodup_nil
  slots := List.nodup_nil
  within := fun _ mem => nomatch mem
  placed := fun _ mem => nomatch mem
  size := Nat.zero_le _

omit [DecidableEq F] in
/-- Removing profiles keeps a store sound. -/
theorem Sound.filter (h : Sound limits connectorCount profiles) (keep : StoredProfile F → Bool) :
    Sound limits connectorCount (profiles.filter keep) where
  ids := h.ids.sublist (List.filter_sublist.map _)
  slots := h.slots.sublist (List.filter_sublist.map _)
  within := fun stored mem => h.within stored (List.mem_of_mem_filter mem)
  placed := fun stored mem => h.placed stored (List.mem_of_mem_filter mem)
  size := (List.length_filter_le keep profiles).trans h.size

omit [DecidableEq F] in
/-- Neither id nor place of a profile depends on its install time. -/
theorem Sound.backfill (h : Sound limits connectorCount profiles) (now : Instant) :
    Sound limits connectorCount (profiles.backfillInstalledAt now) := by
  have sameIds : (profiles.backfillInstalledAt now).map (fun stored => stored.profile.chargingProfileId) =
      profiles.map fun stored => stored.profile.chargingProfileId := by
    simp [backfillInstalledAt]
  have sameSlots : (profiles.backfillInstalledAt now).map slot = profiles.map slot := by
    simp [backfillInstalledAt, slot]
  refine ⟨sameIds ▸ h.ids, sameSlots ▸ h.slots, ?_, ?_, ?_⟩
  · intro stored mem
    obtain ⟨old, oldMem, rfl⟩ := List.mem_map.mp mem
    exact h.within old oldMem
  · intro stored mem
    obtain ⟨old, oldMem, rfl⟩ := List.mem_map.mp mem
    exact h.placed old oldMem
  · exact (List.length_map _).trans_le h.size

omit [DecidableEq F] in
/-- The rules put a profile where its purpose wants it. -/
theorem Admissible.placed {connector : ConnectorId} {profile : ChargingProfile F} {ctx : ProfileContext}
    (h : Admissible profiles connector profile ctx) :
    Placed ctx.connectorCount (installed connector profile ctx) := by
  have known := h.known
  unfold Placed installed bindingOf
  cases purpose : profile.chargingProfilePurpose with
  | chargePointMaxProfile => simp [h.cap purpose]
  | txProfile =>
    obtain ⟨physical, tx, active, -⟩ := h.tx purpose
    simp only [if_true, active, Option.isSome_some, and_true]
    exact known.resolve_left physical
  | txDefaultProfile =>
    simp only [reduceCtorEq, if_false, and_true]
    exact known.elim (fun onStation => onStation.trans_le (Nat.zero_le _)) And.right

omit [DecidableEq F] in
/-- Replacing by id and by slot at once keeps both distinct. -/
theorem Sound.install (h : Sound limits connectorCount profiles) {connector : ConnectorId}
    {profile : ChargingProfile F} {ctx : ProfileContext} (sameLimits : ctx.limits = limits)
    (sameCount : ctx.connectorCount = connectorCount)
    (admitted : Admissible profiles connector profile ctx) :
    Sound limits connectorCount
      ((profiles.filter fun stored => decide (Survives connector profile ctx.now stored)) ++
        [installed connector profile ctx]) := by
  subst sameLimits sameCount
  refine ⟨Lists.nodup_map_filter_append h.ids ?_, Lists.nodup_map_filter_append h.slots ?_, ?_, ?_, ?_⟩
  · intro stored _ survives
    exact (of_decide_eq_true survives).2.1
  · intro stored _ survives
    exact (of_decide_eq_true survives).2.2
  · intro stored mem
    rcases List.mem_append.mp mem with old | new
    · exact h.within stored (List.mem_of_mem_filter old)
    · obtain rfl := List.mem_singleton.mp new
      exact admitted.within
  · intro stored mem
    rcases List.mem_append.mp mem with old | new
    · exact h.placed stored (List.mem_of_mem_filter old)
    · obtain rfl := List.mem_singleton.mp new
      exact admitted.placed
  · have room := admitted.room
    simp only [List.length_append, List.length_singleton]
    omega

/-- Every operation keeps a store sound. -/
theorem Sound.apply (h : Sound limits connectorCount profiles) (op : Op F) :
    Sound limits connectorCount (apply limits connectorCount profiles op) := by
  cases op with
  | set connector profile now activeTx =>
    let ctx : ProfileContext := { now, connectorCount, activeTx, limits }
    change Sound limits connectorCount (profiles.set connector profile ctx).1
    by_cases accepted : (profiles.set connector profile ctx).2 = .accepted
    · rw [set_accepted profiles connector profile ctx accepted]
      exact h.install rfl rfl ((set_accepted_iff profiles connector profile ctx).mp accepted)
    · rw [set_refused profiles connector profile ctx accepted]
      exact h.filter _
  | clear filter now => exact (h.filter _).filter _
  | pruneExpired now => exact h.filter _
  | onTransactionEnded tx => exact h.filter _
  | backfillInstalledAt now => exact h.backfill now
  | compositeSchedule req => exact h.filter _

/-- Every run ends in a sound store. -/
theorem run_sound (limits : StoreLimits) (connectorCount : Nat) (ops : List (Op F)) :
    Sound limits connectorCount (run limits connectorCount ops) := by
  unfold run
  induction ops using List.reverseRecOn with
  | nil => exact .empty
  | append_singleton ops op ih =>
    rw [List.foldl_append]
    exact ih.apply op

/-- **The law of the store.** After any run the store is sound; `set` accepts exactly the admissible
profiles, replaces what has their id or slot, and otherwise only prunes; `clear` removes exactly the
expired and the matching profiles. -/
theorem run_lawful (limits : StoreLimits) (connectorCount : Nat) (ops : List (Op F)) :
    let profiles := run limits connectorCount ops
    Sound limits connectorCount profiles ∧
    (∀ connector profile now activeTx,
      let ctx : ProfileContext := { now, connectorCount, activeTx, limits }
      let result := profiles.set connector profile ctx
      (result.2 = .accepted ↔ Admissible profiles connector profile ctx) ∧
      (result.2 ≠ .accepted → result.1 = profiles.filter fun stored => !isExpired stored.profile now) ∧
      (result.2 = .accepted → result.1 =
        (profiles.filter fun stored => decide (Survives connector profile now stored)) ++
          [installed connector profile ctx])) ∧
    ∀ filter now, (profiles.clear filter now).1 =
      profiles.filter fun stored => decide (¬ isExpired stored.profile now ∧ ¬ Matches filter stored) := by
  refine ⟨run_sound limits connectorCount ops, fun connector profile now activeTx => ?_, ?_⟩
  · exact ⟨set_accepted_iff _ connector profile _, set_refused _ connector profile _,
      set_accepted _ connector profile _⟩
  · intro filter now
    rw [clear_kept]
    refine List.filter_congr fun stored _ => ?_
    simp [← matchesFilter_iff]

end ChargingProfileStore

end KirbyOcpp
