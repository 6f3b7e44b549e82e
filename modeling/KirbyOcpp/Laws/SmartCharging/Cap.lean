import KirbyOcpp.Laws.SmartCharging.ProfileStore
import KirbyOcpp.Laws.SmartCharging.Energy
import KirbyOcpp.Laws.SmartCharging.PeriodSelection

/-!
# The cap of the station holds for the sum of its connectors

Each connector resolves its own profiles and takes an equal share of the winning
`ChargePointMaxProfile`.

**The law** `ChargingProfileStore.station_cap`: together the charging connectors draw at most the cap,
and none draws more than its nominal power or its own winning profile allows. The loop of `resolve_at`
keeps the best candidate of each purpose (`resolve_bests`), and in a sound store the winner of a
purpose is unique.
-/

namespace KirbyOcpp

open KirbyOcpp.Lists

/-! ## What the winners are -/

section Winners

/-- The period of `entry` in force at `at'` for the connector of `req`. -/
def periodFor (req : PowerRequest ℚ) (at' : Instant) (entry : StoredProfile ℚ) :
    Option (ChargingSchedulePeriod ℚ) :=
  periodAt entry.profile at' (scheduleBase entry.profile req.txStartedAt entry.installedAt at')

/-- The limit of a period in watts. -/
def periodWatts (model : PowerModel ℚ) (entry : StoredProfile ℚ) (period : ChargingSchedulePeriod ℚ) : ℚ :=
  match entry.profile.chargingSchedule.chargingRateUnit with
  | .W => period.limit
  | .A => model.ampsToWatts period.limit period.numberPhases

/-- A `ChargePointMaxProfile` of the whole station, active for the connector of `req`. -/
def Caps (req : PowerRequest ℚ) (at' : Instant) (entry : StoredProfile ℚ) : Prop :=
  entry.profile.chargingProfilePurpose = .chargePointMaxProfile ∧ (periodFor req at' entry).isSome

/-- The cap in force for all of the connectors: no active cap of any of them stands on a higher stack
level. Its schedule counts from an instant of its own, the same one for every connector. -/
structure WinningCap (profiles : ChargingProfileStore ℚ) (reqs : List (PowerRequest ℚ)) (at' : Instant)
    (winner : StoredProfile ℚ) (period : ChargingSchedulePeriod ℚ) : Prop where
  stored : winner ∈ profiles
  purpose : winner.profile.chargingProfilePurpose = .chargePointMaxProfile
  kind : winner.profile.chargingProfileKind = .absolute ∨ winner.profile.chargingProfileKind = .recurring
  active : periodAt winner.profile at' (scheduleBase winner.profile none winner.installedAt at') =
    some period
  highest : ∀ req ∈ reqs, ∀ other ∈ profiles, Caps req at' other →
    other.profile.stackLevel ≤ winner.profile.stackLevel

/-- A TxProfile of the running transaction or a TxDefaultProfile, active for the connector. -/
structure Governs (req : PowerRequest ℚ) (at' : Instant) (entry : StoredProfile ℚ) : Prop where
  active : (periodFor req at' entry).isSome
  applies : match entry.profile.chargingProfilePurpose with
    | .txProfile => entry.connectorId = req.connector ∧ req.activeTx.isSome ∧ entry.boundTx = req.activeTx
    | .txDefaultProfile => entry.connectorId = req.connector ∨ entry.connectorId = station
    | .chargePointMaxProfile => False

/-- `entry` takes precedence: TxProfiles before TxDefaultProfiles, then the stack level, then the
connector's own before those of the station. -/
def Precedes (req : PowerRequest ℚ) (entry other : StoredProfile ℚ) : Prop :=
  match entry.profile.chargingProfilePurpose, other.profile.chargingProfilePurpose with
  | .txProfile, .txDefaultProfile => True
  | .txDefaultProfile, .txProfile => False
  | _, _ => other.profile.stackLevel < entry.profile.stackLevel ∨
      other.profile.stackLevel = entry.profile.stackLevel ∧
        (other.connectorId = req.connector → entry.connectorId = req.connector)

/-- The TxProfile or TxDefaultProfile that decides the limit of the connector. -/
structure WinningProfile (profiles : ChargingProfileStore ℚ) (req : PowerRequest ℚ) (at' : Instant)
    (winner : StoredProfile ℚ) (period : ChargingSchedulePeriod ℚ) : Prop where
  stored : winner ∈ profiles
  governs : Governs req at' winner
  active : periodFor req at' winner = some period
  highest : ∀ other ∈ profiles, Governs req at' other → Precedes req winner other

end Winners

/-! ## The loop keeps the best candidates -/

section Loop

/-- The better of two candidates of one purpose. -/
def candidateGe (a b : Candidate ℚ) : Bool := rankGe a.rank b.rank

theorem keepHigher_eq (best : Option (Candidate ℚ)) (candidate : Candidate ℚ) :
    keepHigher best candidate = keepBest candidateGe best candidate := by
  cases best <;> rfl

theorem candidateGe_refl (a : Candidate ℚ) : candidateGe a a = true := by
  simp [candidateGe, rankGe]

theorem candidateGe_total {a b : Candidate ℚ} (h : candidateGe a b = false) : candidateGe b a = true := by
  revert h
  simp only [candidateGe, rankGe]
  grind

theorem candidateGe_trans {a b c : Candidate ℚ} (hab : candidateGe a b = true)
    (hbc : candidateGe b c = true) : candidateGe a c = true := by
  revert hab hbc
  simp only [candidateGe, rankGe]
  grind

/-- The candidate that `entry` is, when it has a period in force. -/
def candidateOf (req : PowerRequest ℚ) (at' : Instant) (entry : StoredProfile ℚ) :
    Option (Candidate ℚ) :=
  (periodFor req at' entry).map fun period =>
    { entry, period, limit := limitWOf req entry period
      rank := (entry.profile.stackLevel, entry.connectorId == req.connector) }

/-- The candidates of the purpose that a test selects. -/
def candidates (req : PowerRequest ℚ) (at' : Instant) (admits : StoredProfile ℚ → Bool)
    (entries : List (StoredProfile ℚ)) : List (Candidate ℚ) :=
  (entries.filter admits).filterMap (candidateOf req at')

def isTx (req : PowerRequest ℚ) (entry : StoredProfile ℚ) : Bool :=
  decide (entry.profile.chargingProfilePurpose = .txProfile) &&
    (entry.connectorId == req.connector && (req.activeTx.isSome && entry.boundTx == req.activeTx))

def isDefault (entry : StoredProfile ℚ) : Bool :=
  decide (entry.profile.chargingProfilePurpose = .txDefaultProfile)

def isCap (entry : StoredProfile ℚ) : Bool :=
  decide (entry.profile.chargingProfilePurpose = .chargePointMaxProfile) && isStation entry.connectorId

/-- The best candidates after the loop over `entries`. -/
def bestsOf (req : PowerRequest ℚ) (at' : Instant) (entries : List (StoredProfile ℚ)) : Bests ℚ :=
  { txBest := bestOf candidateGe (candidates req at' (isTx req) entries)
    defaultBest := bestOf candidateGe (candidates req at' isDefault entries)
    capBest := bestOf candidateGe (candidates req at' isCap entries) }

theorem bestOf_candidates_append (req : PowerRequest ℚ) (at' : Instant) (admits : StoredProfile ℚ → Bool)
    (entries : List (StoredProfile ℚ)) (entry : StoredProfile ℚ) :
    bestOf candidateGe (candidates req at' admits (entries ++ [entry])) =
      match (if admits entry then candidateOf req at' entry else none) with
      | some candidate =>
        some (keepHigher (bestOf candidateGe (candidates req at' admits entries)) candidate)
      | none => bestOf candidateGe (candidates req at' admits entries) := by
  unfold candidates
  by_cases admitted : admits entry = true
  · cases found : candidateOf req at' entry with
    | none => simp [admitted, found]
    | some candidate => simp [admitted, found, bestOf_append_singleton, keepHigher_eq]
  · simp [admitted]

/-- One turn of the loop. -/
theorem visit_bestsOf (req : PowerRequest ℚ) (at' : Instant) (entries : List (StoredProfile ℚ))
    (entry : StoredProfile ℚ) :
    (bestsOf req at' entries).visit req.connector req.activeTx at' (limitWOf req) entry
        (scheduleBase entry.profile req.txStartedAt entry.installedAt at') =
      bestsOf req at' (entries ++ [entry]) := by
  unfold Bests.visit
  rw [show periodAt entry.profile at' (scheduleBase entry.profile req.txStartedAt entry.installedAt at') =
    periodFor req at' entry from rfl]
  simp only [bestsOf, bestOf_candidates_append, candidateOf]
  cases periodFor req at' entry with
  | none => simp
  | some period =>
    cases purpose : entry.profile.chargingProfilePurpose with
    | txProfile =>
      by_cases own : (entry.connectorId == req.connector &&
          (req.activeTx.isSome && entry.boundTx == req.activeTx)) = true
      · simp [isTx, isDefault, isCap, purpose, own]
      · simp [isTx, isDefault, isCap, purpose, own]
    | txDefaultProfile => simp [isTx, isDefault, isCap, purpose]
    | chargePointMaxProfile =>
      by_cases onStation : isStation entry.connectorId = true
      · simp [isTx, isDefault, isCap, purpose, onStation]
      · simp [isTx, isDefault, isCap, purpose, onStation]

/-- The loop of `resolve_at` over the profiles that can affect the connector. -/
theorem resolve_bests (profiles : ChargingProfileStore ℚ) (req : PowerRequest ℚ) (at' : Instant) :
    limitWAt profiles req at' = ((bestsOf req at' (profiles.filter fun entry =>
      entry.connectorId == req.connector || isStation entry.connectorId)).resolve).map (·.limit) := by
  have loop : ∀ entries : List (StoredProfile ℚ),
      (entries.map fun entry =>
        (entry, scheduleBase entry.profile req.txStartedAt entry.installedAt at')).foldl
        (fun (bests : Bests ℚ) (entry, base) =>
          bests.visit req.connector req.activeTx at' (limitWOf req) entry base) {} =
      bestsOf req at' entries := by
    intro entries
    induction entries using List.reverseRecOn with
    | nil => rfl
    | append_singleton entries entry ih =>
      rw [List.map_append, List.foldl_append, ih]
      exact visit_bestsOf req at' entries entry
  rw [limitWAt, limitWResolved, resolveAt, powerProfiles, loop]

end Loop

/-! ## Limits -/

section Limits

variable {profiles : ChargingProfileStore ℚ} {req : PowerRequest ℚ} {at' : Instant}

/-- The limit of a resolution is at most that of the cap and that of the selected profile. -/
theorem resolve_limit (bests : Bests ℚ) {candidate : Candidate ℚ}
    (h : bests.capBest = some candidate ∨ bests.txBest.or bests.defaultBest = some candidate) :
    ∃ limit, bests.resolve.map (·.limit) = some limit ∧ limit ≤ candidate.limit := by
  unfold Bests.resolve
  cases selected : bests.txBest.or bests.defaultBest with
  | none =>
    cases cap : bests.capBest with
    | none => simp [selected, cap] at h
    | some cap' =>
      obtain rfl : cap' = candidate := by simpa [selected, cap] using h
      exact ⟨_, rfl, le_rfl⟩
  | some profile =>
    cases cap : bests.capBest with
    | none =>
      obtain rfl : profile = candidate := by simpa [selected, cap] using h
      exact ⟨_, rfl, le_rfl⟩
    | some cap' =>
      have either : cap' = candidate ∨ profile = candidate := by simpa [selected, cap] using h
      rcases lt_trichotomy profile.limit cap'.limit with below | same | above
      · refine ⟨profile.limit, by simp [Float64.partialCmp, below], ?_⟩
        rcases either with rfl | rfl
        · exact below.le
        · exact le_rfl
      · refine ⟨profile.limit, by simp [Float64.partialCmp, same], ?_⟩
        rcases either with rfl | rfl
        · exact same.le
        · exact le_rfl
      · refine ⟨cap'.limit, by simp [Float64.partialCmp, above, above.not_gt], ?_⟩
        rcases either with rfl | rfl
        · exact le_rfl
        · exact above.le

theorem effectiveW_le_limit (model : PowerModel ℚ) {limit bound : ℚ} (hle : limit ≤ bound)
    (hbound : 0 ≤ bound) : model.effectiveW (some limit) ≤ bound := by
  simp only [PowerModel.effectiveW, Option.elim_some, clampFloat, Float64.lt, Float64.ofInt,
    Int.cast_zero, decide_eq_true_eq]
  split
  · exact hbound
  · split
    next above => exact above.le.trans hle
    · exact hle

theorem periodAt_mem {profile : ChargingProfile ℚ} {base : Instant} {period : ChargingSchedulePeriod ℚ}
    (h : periodAt profile at' base = some period) :
    period ∈ profile.chargingSchedule.chargingSchedulePeriod := by
  unfold periodAt periodAfter at h
  split at h
  · cases h
  · dsimp only at h
    split at h
    · cases h
    · exact List.mem_of_mem_filter (maxByStart_mem h)

/-- The limits of a well-shaped profile are not negative. -/
theorem limit_nonneg {profile : ChargingProfile ℚ} (shape : shapeError profile = none)
    {period : ChargingSchedulePeriod ℚ}
    (mem : period ∈ profile.chargingSchedule.chargingSchedulePeriod) : 0 ≤ period.limit := by
  by_contra negative
  have invalid : profile.chargingSchedule.chargingSchedulePeriod.any (fun period =>
      !Float64.isFinite period.limit || Float64.lt period.limit (Float64.ofInt 0)) = true :=
    List.any_eq_true.mpr
      ⟨period, mem, by simpa [Float64.lt, Float64.isFinite, Float64.ofInt] using negative⟩
  simp only [shapeError, invalid, if_true] at shape
  split at shape
  · cases shape
  split at shape
  · cases shape
  split at shape
  · cases shape
  split at shape
  · cases shape
  split at shape <;> cases shape

theorem periodWatts_nonneg {model : PowerModel ℚ} (voltage : 0 ≤ model.voltageV) {entry : StoredProfile ℚ}
    (shape : shapeError entry.profile = none) {period : ChargingSchedulePeriod ℚ}
    (mem : period ∈ entry.profile.chargingSchedule.chargingSchedulePeriod) :
    0 ≤ periodWatts model entry period := by
  have limit := limit_nonneg shape mem
  unfold periodWatts
  split
  · exact limit
  · have phases : (0 : ℚ) ≤ model.periodPhases period.numberPhases := by
      unfold PowerModel.periodPhases
      refine Int.cast_nonneg ?_
      cases period.numberPhases with
      | none => exact Int.natCast_nonneg _
      | some n =>
        simp only [Option.elim_some, clampInt]
        split_ifs <;> omega
    exact mul_nonneg (mul_nonneg limit voltage) phases

/-- A cap counts for one connector with its share, every other profile in full. -/
theorem limitWOf_eq (req : PowerRequest ℚ) (entry : StoredProfile ℚ) (period : ChargingSchedulePeriod ℚ) :
    limitWOf req entry period =
      if entry.profile.chargingProfilePurpose = .chargePointMaxProfile then
        periodWatts req.model entry period / (max req.chargingConnectors 1 : ℕ)
      else periodWatts req.model entry period := by
  have divisor : (((max req.chargingConnectors 1 : ℕ) : ℤ) : ℚ) = (max req.chargingConnectors 1 : ℕ) :=
    Int.cast_natCast _
  rw [← divisor]
  rfl

end Limits

/-! ## The winner of a purpose is the best candidate -/

section Unique

variable {profiles : ChargingProfileStore ℚ} {req : PowerRequest ℚ} {at' : Instant}
  {admits : StoredProfile ℚ → Bool} {winner : StoredProfile ℚ} {period : ChargingSchedulePeriod ℚ}

theorem mem_candidates {entries : List (StoredProfile ℚ)} {candidate : Candidate ℚ} :
    candidate ∈ candidates req at' admits entries ↔
      ∃ entry ∈ entries, admits entry = true ∧ candidateOf req at' entry = some candidate := by
  simp only [candidates, List.mem_filterMap, List.mem_filter, and_assoc]

/-- An active entry is a candidate, and some candidate is the best one. -/
theorem best_exists {entries : List (StoredProfile ℚ)} (mem : winner ∈ entries)
    (admitted : admits winner = true) (active : periodFor req at' winner = some period) :
    ∃ best entry, bestOf candidateGe (candidates req at' admits entries) = some best ∧
      entry ∈ entries ∧ admits entry = true ∧ candidateOf req at' entry = some best ∧
      rankGe (entry.profile.stackLevel, entry.connectorId == req.connector)
        (winner.profile.stackLevel, winner.connectorId == req.connector) = true := by
  have own : candidateOf req at' winner = some
      { entry := winner, period, limit := limitWOf req winner period
        rank := (winner.profile.stackLevel, winner.connectorId == req.connector) } := by
    simp [candidateOf, active]
  have inList := mem_candidates.mpr ⟨winner, mem, admitted, own⟩
  cases found : bestOf candidateGe (candidates req at' admits entries) with
  | none => rw [bestOf_eq_none] at found; rw [found] at inList; cases inList
  | some best =>
    obtain ⟨entry, entryMem, entryAdmitted, is⟩ := mem_candidates.mp (bestOf_mem found)
    have atop := bestOf_ge candidateGe_refl candidateGe_total candidateGe_trans found _ inList
    obtain ⟨period', -, rfl⟩ := Option.map_eq_some_iff.mp is
    exact ⟨_, entry, rfl, entryMem, entryAdmitted, is, atop⟩

open ChargingProfileStore

variable {limits : StoreLimits} {connectorCount : ℕ}

/-- The winning cap limits every connector to its share. -/
theorem WinningCap.limit {reqs : List (PowerRequest ℚ)} (sound : Sound limits connectorCount profiles)
    (wins : WinningCap profiles reqs at' winner period) (mem : req ∈ reqs) :
    ∃ limit, limitWAt profiles req at' = some limit ∧
      limit ≤ periodWatts req.model winner period / (max req.chargingConnectors 1 : ℕ) := by
  have onStation : ∀ entry ∈ profiles, entry.profile.chargingProfilePurpose = .chargePointMaxProfile →
      entry.connectorId = station := fun entry mem purpose => by
    have placed := sound.placed entry mem
    rw [Placed, purpose] at placed
    exact placed.1
  have active : periodFor req at' winner = some period := by
    rw [← wins.active, periodFor]
    rcases wins.kind with kind | kind
    · simp [scheduleBase, kind]
    · simp [scheduleBase, kind]
  have usable : winner ∈ profiles.filter fun entry =>
      entry.connectorId == req.connector || isStation entry.connectorId :=
    List.mem_filter.mpr ⟨wins.stored, by simp [isStation, onStation winner wins.stored wins.purpose]⟩
  have isCap' : isCap winner = true := by
    simp [isCap, wins.purpose, isStation, onStation winner wins.stored wins.purpose]
  obtain ⟨best, entry, found, entryMem, entryCap, is, atop⟩ := best_exists usable isCap' active
  have stored := (List.mem_filter.mp entryMem).1
  have purpose : entry.profile.chargingProfilePurpose = .chargePointMaxProfile := by
    simp only [isCap, Bool.and_eq_true, decide_eq_true_eq] at entryCap
    exact entryCap.1
  obtain ⟨entryPeriod, entryActive, rfl⟩ := Option.map_eq_some_iff.mp is
  have below := wins.highest req mem entry stored ⟨purpose, by rw [entryActive]; rfl⟩
  have above : winner.profile.stackLevel ≤ entry.profile.stackLevel := by
    simp only [rankGe, Bool.or_eq_true, Bool.and_eq_true, decide_eq_true_eq] at atop
    omega
  -- The same place in the store: the same profile.
  obtain rfl : entry = winner := eq_of_nodup_map sound.slots stored wins.stored (by
    rw [slot, slot, purpose, wins.purpose, onStation entry stored purpose,
      onStation winner wins.stored wins.purpose, le_antisymm below above])
  obtain rfl : entryPeriod = period := Option.some.inj (entryActive.symm.trans active)
  obtain ⟨limit, resolved, le⟩ := resolve_limit (bestsOf req at' _) (.inl found)
  refine ⟨limit, (resolve_bests profiles req at').trans resolved, le.trans_eq ?_⟩
  rw [limitWOf_eq, if_pos purpose]

theorem isTx_iff {entry : StoredProfile ℚ} : isTx req entry = true ↔
    entry.profile.chargingProfilePurpose = .txProfile ∧ entry.connectorId = req.connector ∧
      req.activeTx.isSome ∧ entry.boundTx = req.activeTx := by
  simp [isTx]

/-- An entry of the connector or of the station is in its usable profiles. -/
theorem mem_usable {entry : StoredProfile ℚ} :
    entry ∈ profiles.filter (fun entry => entry.connectorId == req.connector || isStation entry.connectorId) ↔
      entry ∈ profiles ∧ (entry.connectorId = req.connector ∨ entry.connectorId = station) := by
  simp [isStation]

/-- The limit that the best of the selected candidates stands for. -/
theorem limit_of_selected {usable : List (StoredProfile ℚ)} {entry : StoredProfile ℚ} {best : Candidate ℚ}
    (h : limitWAt profiles req at' = ((bestsOf req at' usable).resolve).map (·.limit))
    (selected : (bestsOf req at' usable).txBest.or (bestsOf req at' usable).defaultBest = some best)
    (is : candidateOf req at' entry = some best) (active : periodFor req at' entry = some period)
    (purpose : entry.profile.chargingProfilePurpose ≠ .chargePointMaxProfile) :
    ∃ limit, limitWAt profiles req at' = some limit ∧ limit ≤ periodWatts req.model entry period := by
  obtain ⟨limit, resolved, le⟩ := resolve_limit (bestsOf req at' usable) (.inr selected)
  refine ⟨limit, h.trans resolved, le.trans_eq ?_⟩
  obtain ⟨entryPeriod, entryActive, rfl⟩ := Option.map_eq_some_iff.mp is
  obtain rfl : entryPeriod = period := Option.some.inj (entryActive.symm.trans active)
  rw [limitWOf_eq, if_neg purpose]

/-- The winning TxProfile limits its connector. -/
theorem WinningProfile.limit_tx (sound : Sound limits connectorCount profiles)
    (wins : WinningProfile profiles req at' winner period)
    (purpose : winner.profile.chargingProfilePurpose = .txProfile) :
    ∃ limit, limitWAt profiles req at' = some limit ∧ limit ≤ periodWatts req.model winner period := by
  have applies := wins.governs.applies
  simp only [purpose] at applies
  have usable := mem_usable.mpr ⟨wins.stored, .inl applies.1⟩
  obtain ⟨best, entry, found, entryMem, entryTx, is, atop⟩ :=
    best_exists usable (isTx_iff.mpr ⟨purpose, applies⟩) wins.active
  have stored := (mem_usable.mp entryMem).1
  obtain ⟨entryPurpose, entryOwn, entryBound⟩ := isTx_iff.mp entryTx
  obtain ⟨entryPeriod, entryActive, -⟩ := Option.map_eq_some_iff.mp is
  have precedes := wins.highest entry stored
    ⟨by rw [entryActive]; rfl, by simp only [entryPurpose]; exact ⟨entryOwn, entryBound⟩⟩
  simp only [Precedes, purpose, entryPurpose] at precedes
  have level : entry.profile.stackLevel = winner.profile.stackLevel := by
    simp only [rankGe, Bool.or_eq_true, Bool.and_eq_true, decide_eq_true_eq] at atop
    omega
  obtain rfl : entry = winner := eq_of_nodup_map sound.slots stored wins.stored (by
    rw [slot, slot, purpose, entryPurpose, entryOwn, applies.1, level])
  exact limit_of_selected (resolve_bests profiles req at') (by simp [bestsOf, found]) is wins.active
    (by simp [purpose])

/-- The winning TxDefaultProfile limits its connector: then no TxProfile is in force. -/
theorem WinningProfile.limit_default (sound : Sound limits connectorCount profiles)
    (wins : WinningProfile profiles req at' winner period)
    (purpose : winner.profile.chargingProfilePurpose = .txDefaultProfile) :
    ∃ limit, limitWAt profiles req at' = some limit ∧ limit ≤ periodWatts req.model winner period := by
  have applies := wins.governs.applies
  simp only [purpose] at applies
  have usable := mem_usable.mpr ⟨wins.stored, applies⟩
  have isDefault' : isDefault winner = true := by simp [isDefault, purpose]
  obtain ⟨best, entry, found, entryMem, entryDefault, is, atop⟩ := best_exists usable isDefault' wins.active
  obtain ⟨stored, entryApplies⟩ := mem_usable.mp entryMem
  have entryPurpose : entry.profile.chargingProfilePurpose = .txDefaultProfile := by
    simpa [isDefault] using entryDefault
  obtain ⟨entryPeriod, entryActive, -⟩ := Option.map_eq_some_iff.mp is
  have precedes := wins.highest entry stored
    ⟨by rw [entryActive]; rfl, by simp only [entryPurpose]; exact entryApplies⟩
  simp only [Precedes, purpose, entryPurpose] at precedes
  have noTx : bestOf candidateGe (candidates req at' (isTx req) (profiles.filter fun entry =>
      entry.connectorId == req.connector || isStation entry.connectorId)) = none := by
    rw [bestOf_eq_none, List.eq_nil_iff_forall_not_mem]
    intro candidate mem
    obtain ⟨other, otherMem, otherTx, otherIs⟩ := mem_candidates.mp mem
    obtain ⟨otherPurpose, otherApplies⟩ := isTx_iff.mp otherTx
    obtain ⟨otherPeriod, otherActive, -⟩ := Option.map_eq_some_iff.mp otherIs
    have beats := wins.highest other (mem_usable.mp otherMem).1
      ⟨by rw [otherActive]; rfl, by simp only [otherPurpose]; exact otherApplies⟩
    simp only [Precedes, purpose, otherPurpose] at beats
  have same : entry.profile.stackLevel = winner.profile.stackLevel ∧
      (winner.connectorId = req.connector ↔ entry.connectorId = req.connector) := by
    simp only [rankGe, Bool.or_eq_true, Bool.and_eq_true, decide_eq_true_eq, Bool.not_eq_true',
      beq_iff_eq, beq_eq_false_iff_ne] at atop
    have level : entry.profile.stackLevel = winner.profile.stackLevel := by
      rcases atop with above | ⟨same, -⟩
      · rcases precedes with below | ⟨same, -⟩
        · exact absurd above (lt_asymm below)
        · exact same
      · exact same
    refine ⟨level, ?_⟩
    rw [level] at atop precedes
    simp only [lt_irrefl, false_or, true_and] at atop precedes
    exact ⟨fun own => atop.resolve_right fun other => other own, precedes⟩
  have place : entry.connectorId = winner.connectorId := by
    by_cases own : winner.connectorId = req.connector
    · rw [own, same.2.mp own]
    · rw [applies.resolve_left own, entryApplies.resolve_left fun h => own (same.2.mpr h)]
  obtain rfl : entry = winner := eq_of_nodup_map sound.slots stored wins.stored (by
    rw [slot, slot, purpose, entryPurpose, place, same.1])
  exact limit_of_selected (resolve_bests profiles req at') (by simp [bestsOf, found, noTx]) is
    wins.active (by simp [purpose])

/-- The winning TxProfile or TxDefaultProfile limits the connector. -/
theorem WinningProfile.limit (sound : Sound limits connectorCount profiles)
    (wins : WinningProfile profiles req at' winner period) :
    ∃ limit, limitWAt profiles req at' = some limit ∧ limit ≤ periodWatts req.model winner period := by
  cases purpose : winner.profile.chargingProfilePurpose with
  | txProfile => exact wins.limit_tx sound purpose
  | txDefaultProfile => exact wins.limit_default sound purpose
  | chargePointMaxProfile =>
    have applies := wins.governs.applies
    simp only [purpose] at applies

/-- Periods in force belong to the stored schedule, so they are not negative. -/
theorem winner_nonneg (sound : Sound limits connectorCount profiles) {model : PowerModel ℚ}
    (voltage : 0 ≤ model.voltageV) (stored : winner ∈ profiles) {base : Instant}
    (active : periodAt winner.profile at' base = some period) : 0 ≤ periodWatts model winner period :=
  periodWatts_nonneg voltage (sound.within winner stored).shape (periodAt_mem active)

end Unique

/-! ## The law -/

section Law

open ChargingProfileStore

/-- A connector that is charging, with its transaction. -/
structure Charger where
  connector : ConnectorId
  activeTx : Option TxId
  txStartedAt : Option Instant

/-- What the power of a charger is evaluated for, when `n` connectors charge. -/
def Charger.request (model : PowerModel ℚ) (n : ℕ) (charger : Charger) : PowerRequest ℚ :=
  { connector := charger.connector, activeTx := charger.activeTx, txStartedAt := charger.txStartedAt
    model, chargingConnectors := n }

/-- The power that a charging connector draws. -/
def drawnW (profiles : ChargingProfileStore ℚ) (at' : Instant) (req : PowerRequest ℚ) : ℚ :=
  req.model.effectiveW (limitWAt profiles req at')

theorem effectiveW_le_nominal {model : PowerModel ℚ} (nominal : 0 ≤ model.nominalW) (limit : Option ℚ) :
    model.effectiveW limit ≤ model.nominalW := by
  cases limit with
  | none => exact le_rfl
  | some limit =>
    simp only [PowerModel.effectiveW, Option.elim_some, clampFloat, Float64.lt, Float64.ofInt,
      Int.cast_zero, decide_eq_true_eq]
    split
    · exact nominal
    · split
      · exact le_rfl
      next below => exact not_lt.mp below

/-- Equal shares of a total add up to at most the total. -/
theorem sum_shares_le {X : Type*} (xs : List X) (drawn : X → ℚ) {total : ℚ} (nonneg : 0 ≤ total)
    (share : ∀ x ∈ xs, drawn x ≤ total / (max xs.length 1 : ℕ)) : (xs.map drawn).sum ≤ total := by
  have bound := List.sum_le_card_nsmul (xs.map drawn) (total / (max xs.length 1 : ℕ)) (by
    intro y mem
    obtain ⟨x, xMem, rfl⟩ := List.mem_map.mp mem
    exact share x xMem)
  rw [List.length_map, nsmul_eq_mul] at bound
  refine bound.trans ?_
  cases xs with
  | nil => simpa using nonneg
  | cons x xs =>
    have positive : ((max (x :: xs).length 1 : ℕ) : ℚ) = (x :: xs).length := by simp
    rw [positive, mul_div_cancel₀ _ (by simp; positivity)]

/-- **The cap of the station.** Whatever was installed in the store, the connectors that are charging
draw together at most what the winning cap allows, and each of them at most its nominal power and
what its own winning profile allows. -/
theorem ChargingProfileStore.station_cap (limits : StoreLimits) (connectorCount : ℕ) (ops : List (Op ℚ))
    (nominalPowerW voltageV phases : ℕ) (chargers : List Charger) (at' : Instant) :
    let profiles := run limits connectorCount ops
    let model := PowerModel.fromConfig nominalPowerW voltageV phases
    let reqs := chargers.map (Charger.request model chargers.length)
    (∀ winner period, WinningCap profiles reqs at' winner period →
      (reqs.map (drawnW profiles at')).sum ≤ periodWatts model winner period) ∧
    ∀ req ∈ reqs, drawnW profiles at' req ≤ model.nominalW ∧
      ∀ winner period, WinningProfile profiles req at' winner period →
        drawnW profiles at' req ≤ periodWatts model winner period := by
  intro profiles model reqs
  have sound : Sound limits connectorCount profiles := run_sound limits connectorCount ops
  have voltage : 0 ≤ model.voltageV := Int.cast_nonneg (Int.natCast_nonneg voltageV)
  have nominal : 0 ≤ model.nominalW := PowerModel.fromConfig_nominal nominalPowerW voltageV phases
  have shared : ∀ req ∈ reqs, req.model = model ∧ req.chargingConnectors = reqs.length := by
    intro req mem
    obtain ⟨charger, -, rfl⟩ := List.mem_map.mp mem
    exact ⟨rfl, (List.length_map _).symm⟩
  constructor
  · intro winner period wins
    have nonneg := winner_nonneg sound voltage wins.stored wins.active
    refine sum_shares_le reqs _ nonneg fun req mem => ?_
    obtain ⟨limit, found, le⟩ := wins.limit sound mem
    rw [(shared req mem).1, (shared req mem).2] at le
    rw [drawnW, found]
    exact effectiveW_le_limit _ le (div_nonneg nonneg (Nat.cast_nonneg _))
  · intro req mem
    refine ⟨(shared req mem).1 ▸ effectiveW_le_nominal ((shared req mem).1 ▸ nominal) _, ?_⟩
    intro winner period wins
    obtain ⟨limit, found, le⟩ := wins.limit sound
    rw [(shared req mem).1] at le
    rw [drawnW, found]
    exact effectiveW_le_limit _ le (winner_nonneg sound voltage wins.stored wins.active)

/-- A profile in watts that holds from the epoch on, for the purpose and the stack level. -/
def flatLimit (id : Int) (purpose : ChargingProfilePurposeType) (stackLevel : Int) (watts : ℚ) : ChargingProfile ℚ :=
  { chargingProfileId := id, transactionId := none, stackLevel
    chargingProfilePurpose := purpose, chargingProfileKind := .absolute
    recurrencyKind := none, validFrom := none, validTo := none
    chargingSchedule :=
      { duration := none, startSchedule := some 0, chargingRateUnit := .W
        chargingSchedulePeriod := [{ startPeriod := 0, limit := watts, numberPhases := none }]
        minChargingRate := none } }

/-- Two caps on the station, of which the higher one wins, and a limit on connector 1. -/
theorem ChargingProfileStore.station_cap_shared :
    let limits : StoreLimits := { maxStackLevel := 8, maxInstalled := 10, maxPeriods := 6, allowedUnits := [.A, .W] }
    let profiles := run limits 2 [.set 0 (flatLimit 1 .chargePointMaxProfile 0 9000) 0 none,
      .set 0 (flatLimit 2 .chargePointMaxProfile 1 3000) 0 none, .set 1 (flatLimit 3 .txDefaultProfile 0 1000) 0 none]
    let chargers : List Charger := [{ connector := 1, activeTx := some (.csms 7), txStartedAt := some 0 },
      { connector := 2, activeTx := some (.csms 8), txStartedAt := some 0 }]
    let reqs := chargers.map (Charger.request (PowerModel.fromConfig 7200 230 1) chargers.length)
    reqs.map (drawnW profiles 5) = [1000, 1500] ∧ (reqs.map (drawnW profiles 5)).sum ≤ 3000 ∧
      ∀ req ∈ reqs, req.connector = 1 → drawnW profiles 5 req ≤ 1000 := by
  intro limits profiles chargers reqs
  let low : StoredProfile ℚ :=
    { connectorId := 0, profile := flatLimit 1 .chargePointMaxProfile 0 9000, boundTx := none, installedAt := some 0 }
  let high : StoredProfile ℚ :=
    { connectorId := 0, profile := flatLimit 2 .chargePointMaxProfile 1 3000, boundTx := none, installedAt := some 0 }
  let own : StoredProfile ℚ :=
    { connectorId := 1, profile := flatLimit 3 .txDefaultProfile 0 1000, boundTx := none, installedAt := some 0 }
  have stored : profiles = [low, high, own] := by decide +kernel
  have drawn : reqs.map (drawnW profiles 5) = [1000, 1500] := by decide +kernel
  have law := station_cap limits 2 [.set 0 (flatLimit 1 .chargePointMaxProfile 0 9000) 0 none,
    .set 0 (flatLimit 2 .chargePointMaxProfile 1 3000) 0 none, .set 1 (flatLimit 3 .txDefaultProfile 0 1000) 0 none]
    7200 230 1 chargers 5
  change (∀ winner period, WinningCap profiles reqs 5 winner period → _) ∧ ∀ req ∈ reqs, _ at law
  clear_value profiles
  subst stored
  have caps : WinningCap [low, high, own] reqs 5 high { startPeriod := 0, limit := 3000, numberPhases := none } := by
    refine ⟨by decide, rfl, .inl rfl, by decide +kernel, fun req _ other mem is => ?_⟩
    simp only [List.mem_cons, List.not_mem_nil, or_false] at mem
    rcases mem with rfl | rfl | rfl
    · decide
    · exact le_rfl
    · cases is.1
  have governs (req : PowerRequest ℚ) (first : req.connector = 1) :
      WinningProfile [low, high, own] req 5 own { startPeriod := 0, limit := 1000, numberPhases := none } := by
    have active : periodFor req 5 own = some { startPeriod := 0, limit := 1000, numberPhases := none } := by
      change periodAt own.profile 5 0 = _
      decide +kernel
    refine ⟨by decide, ⟨by rw [active]; rfl, .inl first.symm⟩, active, fun other mem is => ?_⟩
    simp only [List.mem_cons, List.not_mem_nil, or_false] at mem
    rcases mem with rfl | rfl | rfl
    · cases is.applies
    · cases is.applies
    · exact .inr ⟨rfl, id⟩
  exact ⟨drawn, law.1 high _ caps, fun req mem first => (law.2 req mem).2 own _ (governs req first)⟩

end Law

end KirbyOcpp
