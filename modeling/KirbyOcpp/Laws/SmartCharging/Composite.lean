import KirbyOcpp.Laws.SmartCharging.ChangeInstants
import KirbyOcpp.Data.RunLength

/-!
# The composite schedule is exact

`compositeSchedule` evaluates the profiles at a sparse set of seconds and merges equal neighbours.

**The law** (`compositeSchedule_correct`): it answers `noSchedule` exactly when no second of the
window is limited, and otherwise a schedule that reads back, at every whole second it covers, as
the resolution of that second (`IsComposite`).

The evaluated seconds suffice because a resolution only depends on the periods in force, and these
change at change instants: a second that is not evaluated has no change instant in the second
before it (`resolvedAt_constant`). The rest is about run-length lists.
-/

namespace KirbyOcpp

open RunLength

variable {F : Type}

/-! ## Resolution depends on the periods in force -/

/-- Resolutions at two instants agree when every usable profile has the same period there. -/
theorem resolveAt_congr [Float64 F] {T : Type} [Ring T] [LinearOrder T] [FloorRing T]
    {usable : List (StoredProfile F × Instant)} {connector : ConnectorId} {activeTx : Option TxId}
    {t t' : T} {limitOf : StoredProfile F → ChargingSchedulePeriod F → F}
    (h : ∀ e ∈ usable, periodAt e.1.profile t e.2 = periodAt e.1.profile t' e.2) :
    resolveAt usable connector activeTx t limitOf = resolveAt usable connector activeTx t' limitOf := by
  unfold resolveAt
  refine congrArg Bests.resolve (List.foldl_ext _ _ _ fun b e he => ?_)
  simp only [Bests.visit, h e he]

/-! ## What the schedule is about -/

section Spec

variable [Float64 F]

/-- `D`: the seconds the schedule covers unless periods are cut. -/
def CompositeRequest.window (req : CompositeRequest F) : Int :=
  min req.durationS maxCompositeDurationS

/-- The instant of second `0`. -/
def CompositeRequest.start (req : CompositeRequest F) : Instant := truncateToSecond req.now

/-- The unit of the schedule. -/
def chosenUnit (entries : List (StoredProfile F)) (req : CompositeRequest F) : ChargingRateUnitType :=
  req.unit.getD (defaultUnit entries req req.start)

/-- The usable profiles with their bases. -/
def usableOf (entries : List (StoredProfile F)) (req : CompositeRequest F) :
    List (StoredProfile F × Instant) :=
  usableProfiles entries req (chosenUnit entries req) req.start

/-- The resolution at second `k`. -/
def resolvedAt (entries : List (StoredProfile F)) (req : CompositeRequest F) (k : Int) :
    Option (Resolved F) :=
  resolveAt (usableOf entries req) req.connector req.activeTx (req.start + seconds k)
    fun _ period => period.limit

/-- The limit and phases at second `k`: the resolution, or the station's nominal limit. -/
def shownAt (entries : List (StoredProfile F)) (req : CompositeRequest F) (k : Int) :
    F × Option Int :=
  shownLimit req.model (chosenUnit entries req) (resolvedAt entries req k)

/-- The limit and phases of a period. -/
def shownBy (period : ChargingSchedulePeriod F) : F × Option Int :=
  (period.limit, period.numberPhases)

/-- `schedule` is the composite schedule of `req`: its periods read back as the resolutions of the
seconds it covers, and it covers the window unless the period after the last one would be one too
many. -/
structure IsComposite (entries : List (StoredProfile F)) (req : CompositeRequest F)
    (schedule : CompositeSchedule F) : Prop where
  connector : schedule.connectorId = req.connector
  scheduleStart : schedule.scheduleStart = req.start
  startSchedule : schedule.chargingSchedule.startSchedule = some req.start
  unit : schedule.chargingSchedule.chargingRateUnit = chosenUnit entries req
  first : schedule.chargingSchedule.chargingSchedulePeriod.head?.map (·.startPeriod) = some 0
  increasing : schedule.chargingSchedule.chargingSchedulePeriod.Pairwise
    fun a b => a.startPeriod < b.startPeriod
  adjacent : schedule.chargingSchedule.chargingSchedulePeriod.IsChain
    fun a b => shownBy a ≠ shownBy b
  bounded : schedule.chargingSchedule.chargingSchedulePeriod.length ≤ maxCompositePeriods
  faithful : ∃ duration, schedule.chargingSchedule.duration = some duration ∧
    (∀ k, 0 ≤ k → k < duration →
      (inForce (·.startPeriod) k schedule.chargingSchedule.chargingSchedulePeriod).map shownBy =
        some (shownAt entries req k)) ∧
    (duration = req.window ∨
      schedule.chargingSchedule.chargingSchedulePeriod.length = maxCompositePeriods ∧
        0 < duration ∧ duration < req.window ∧
        shownAt entries req duration ≠ shownAt entries req (duration - 1))

end Spec

/-! ## The evaluated seconds -/

section Seconds

variable {usable : List (StoredProfile F × Instant)} {start durationS : Int}

/-- The evaluated seconds: the first one, and the two after a change that lie in the window. -/
theorem mem_compositeOffsets {k : Int} : k ∈ compositeOffsets usable start durationS ↔
    (0 ≤ k ∧ k < durationS) ∧ (k = 0 ∨ ∃ e ∈ usable,
      ∃ c ∈ changeInstants e.1.profile e.2 start (start + seconds durationS),
        k = (numMilliseconds (c - start) + 999) / 1000 ∨ k = numMilliseconds (c - start) / 1000 + 1) := by
  have hscale : k * 1000 < durationS * 1000 ↔ k < durationS := by omega
  simp only [compositeOffsets, mem_sortDedup, List.mem_filter, List.mem_cons, List.mem_flatMap,
    List.not_mem_nil, or_false, Bool.and_eq_true, decide_eq_true_eq, hscale]
  exact and_comm

/-- The evaluated seconds start at zero. -/
theorem compositeOffsets_cons (hpos : 0 < durationS) :
    ∃ rest, compositeOffsets usable start durationS = 0 :: rest := by
  refine cons_of_least (sortDedup_increasing _) ?_ fun k hk => (mem_compositeOffsets.mp hk).1.1
  exact mem_compositeOffsets.mpr ⟨⟨le_rfl, hpos⟩, .inl rfl⟩

/-- A change in the second that ends at `k` has `k` evaluated. -/
theorem evaluated_after_change {k c : Int} (hk : 0 < k)
    (hafter : start + seconds (k - 1) ≤ c) (hbefore : c ≤ start + seconds k) :
    k = (numMilliseconds (c - start) + 999) / 1000 ∨ k = numMilliseconds (c - start) / 1000 + 1 := by
  simp only [seconds, nanosPerSecond] at hafter hbefore
  rw [numMilliseconds, Int.tdiv_eq_ediv_of_nonneg (by omega)]
  simp only [nanosPerMilli]
  omega

/-- A usable profile has the same period at `k` as a second earlier, when `k` is not evaluated. -/
theorem periodAt_unevaluated [Float64 F] {e : StoredProfile F × Instant} (he : e ∈ usable)
    (hshape : shapeError e.1.profile = none) {k : Int} (hk : 0 < k) (hkD : k < durationS)
    (hout : k ∉ compositeOffsets usable start durationS) :
    periodAt e.1.profile (start + seconds k) e.2 =
      periodAt e.1.profile (start + seconds (k - 1)) e.2 := by
  have hstart : start ≤ start + seconds (k - 1) := by simp only [seconds, nanosPerSecond]; omega
  have hstop : start + seconds k ≤ start + seconds durationS := by
    simp only [seconds, nanosPerSecond]; omega
  have hstep : start + seconds (k - 1) < start + seconds k := by
    simp only [seconds, nanosPerSecond]; omega
  have hno : NoChange e.1.profile e.2 start (start + seconds durationS)
      (start + seconds (k - 1)) (start + seconds k) := by
    intro c hc
    by_contra hin
    simp only [Outside, Int.cast_id, not_or, not_lt] at hin
    exact hout (mem_compositeOffsets.mpr ⟨⟨hk.le, hkD⟩, .inr ⟨e, he, c, hc,
      evaluated_after_change hk hin.1 hin.2⟩⟩)
  exact (periodAt_constant hshape hstart hstop hstep hno).symm

end Seconds

/-! ## The samples -/

section Samples

theorem mem_of_mem_usableProfiles {entries : List (StoredProfile F)} {req : CompositeRequest F}
    {unit : ChargingRateUnitType} {start : Instant} {e : StoredProfile F × Instant}
    (he : e ∈ usableProfiles entries req unit start) : e.1 ∈ entries := by
  simp only [usableProfiles, List.mem_map] at he
  obtain ⟨entry, hentry, rfl⟩ := he
  exact List.mem_of_mem_filter (List.mem_of_mem_filter hentry)

/-- The loop of `compositeSchedule` merges the samples. -/
theorem foldl_pushPeriod [DecidableEq F] (offsets : List Int) (shown : Int → F × Option Int)
    (acc : List (ChargingSchedulePeriod F)) :
    offsets.foldl (fun periods offset => pushPeriod periods offset (shown offset)) acc =
      (offsets.map fun offset =>
        ({ startPeriod := offset, limit := (shown offset).1, numberPhases := (shown offset).2 } :
          ChargingSchedulePeriod F)).foldl (pushRun shownBy) acc := by
  rw [List.foldl_map]
  refine List.foldl_ext _ _ _ fun periods offset _ => ?_
  simp only [pushPeriod, pushRun]
  cases periods.getLast? with
  | none => rfl
  | some last => simp only [Option.map_some, Option.some.injEq, shownBy, Prod.mk.injEq]

variable [Float64 F] {entries : List (StoredProfile F)} {req : CompositeRequest F}

/-- The evaluated seconds of a request. -/
def offsetsOf (entries : List (StoredProfile F)) (req : CompositeRequest F) : List Int :=
  compositeOffsets (usableOf entries req) req.start req.window

/-- **Between evaluated seconds nothing changes.** -/
theorem resolvedAt_constant (hshape : ∀ entry ∈ entries, shapeError entry.profile = none) {k : Int}
    (hk : 0 < k) (hkD : k < req.window) (hout : k ∉ offsetsOf entries req) :
    resolvedAt entries req k = resolvedAt entries req (k - 1) :=
  resolveAt_congr fun _ he =>
    periodAt_unevaluated he (hshape _ (mem_of_mem_usableProfiles he)) hk hkD hout

/-- The resolution of every second is that of an evaluated one. -/
theorem resolvedAt_evaluated (hshape : ∀ entry ∈ entries, shapeError entry.profile = none) {k : Int}
    (hk : 0 ≤ k) (hkD : k < req.window) :
    ∃ offset ∈ offsetsOf entries req, resolvedAt entries req offset = resolvedAt entries req k := by
  obtain ⟨rest, hrest⟩ : ∃ rest, offsetsOf entries req = 0 :: rest :=
    compositeOffsets_cons (hk.trans_lt hkD)
  have hord : Ordered id (0 :: rest) := by
    rw [← hrest]
    exact sortDedup_increasing _
  have hread := inForce_of_samples id (resolvedAt entries req) hord (fun p _ => rfl)
    (fun j hj hjD hne => resolvedAt_constant hshape hj hjD
      fun hmem => hne j (by rw [← hrest]; exact hmem) rfl) hk hkD
  obtain ⟨offset, hoffset, hsame⟩ := Option.map_eq_some_iff.mp hread
  refine ⟨offset, ?_, hsame⟩
  rw [hrest]
  exact (inForce_mem id hoffset).1

/-- The period shown from an evaluated second on. -/
def sampleOf (entries : List (StoredProfile F)) (req : CompositeRequest F) (offset : Int) :
    ChargingSchedulePeriod F :=
  let shown := shownAt entries req offset
  { startPeriod := offset, limit := shown.1, numberPhases := shown.2 }

/-- The samples of a request, before merging. -/
def samplesOf (entries : List (StoredProfile F)) (req : CompositeRequest F) :
    List (ChargingSchedulePeriod F) :=
  (offsetsOf entries req).map (sampleOf entries req)

theorem samplesOf_ordered : Ordered (·.startPeriod) (samplesOf entries req) :=
  List.pairwise_map.mpr (sortDedup_increasing _)

/-- The samples read back as what is shown. -/
theorem inForce_samplesOf (hshape : ∀ entry ∈ entries, shapeError entry.profile = none) {k : Int}
    (hk : 0 ≤ k) (hkD : k < req.window) :
    (inForce (·.startPeriod) k (samplesOf entries req)).map shownBy =
      some (shownAt entries req k) := by
  obtain ⟨rest, hrest⟩ : ∃ rest, offsetsOf entries req = 0 :: rest :=
    compositeOffsets_cons (hk.trans_lt hkD)
  have hord : Ordered (·.startPeriod) (samplesOf entries req) := samplesOf_ordered
  rw [samplesOf, hrest, List.map_cons] at hord ⊢
  refine inForce_of_samples _ shownBy hord (fun p hp => ?_) (fun j hj hjD hne => ?_) hk hkD
  · rw [← List.map_cons] at hp
    obtain ⟨offset, -, rfl⟩ := List.mem_map.mp hp
    rfl
  · have hout : j ∉ offsetsOf entries req := by
      intro hmem
      rw [hrest] at hmem
      refine hne (sampleOf entries req j) ?_ rfl
      rw [← List.map_cons]
      exact List.mem_map_of_mem hmem
    rw [shownAt, shownAt, resolvedAt_constant hshape hj hjD hout]

variable [DecidableEq F]

/-- The merged samples: the periods before the cut. -/
def mergedOf (entries : List (StoredProfile F)) (req : CompositeRequest F) :
    List (ChargingSchedulePeriod F) :=
  runs shownBy (samplesOf entries req)

/-- The first period that the limit on their number cuts. -/
def firstCutOf (entries : List (StoredProfile F)) (req : CompositeRequest F) :
    Option (ChargingSchedulePeriod F) :=
  (mergedOf entries req)[maxCompositePeriods]?

/-- Past its checks, `compositeSchedule` answers the merged samples unless none is limited. -/
theorem compositeSchedule_eq (hknown : isKnownConnector req.connector req.connectorCount = true)
    (hpos : 0 < req.durationS) :
    (compositeSchedule entries req = .error .noSchedule ∧
      ∀ offset ∈ offsetsOf entries req, resolvedAt entries req offset = none) ∨
    ((∃ offset ∈ offsetsOf entries req, resolvedAt entries req offset ≠ none) ∧
      ∃ minChargingRate, compositeSchedule entries req =
        .ok { connectorId := req.connector, scheduleStart := req.start
              chargingSchedule :=
                { duration := some ((firstCutOf entries req).elim req.window
                    fun cut => min cut.startPeriod req.window)
                  startSchedule := some req.start
                  chargingRateUnit := chosenUnit entries req
                  chargingSchedulePeriod := (mergedOf entries req).take maxCompositePeriods
                  minChargingRate } }) := by
  simp only [compositeSchedule, hknown, Bool.not_true, Bool.false_eq_true, if_false, not_le.mpr hpos]
  split
  next hempty =>
    refine .inl ⟨rfl, fun offset _ => ?_⟩
    have hnil : usableOf entries req = [] := List.isEmpty_iff.mp hempty
    rw [resolvedAt, hnil]
    rfl
  split
  next hall =>
    refine .inl ⟨rfl, fun offset hoffset => ?_⟩
    have h := List.all_eq_true.mp hall _ (List.mem_map_of_mem hoffset)
    exact Option.isNone_iff_eq_none.mp h
  next hsome =>
    refine .inr ⟨?_, ?_⟩
    · by_contra hnone
      simp only [not_exists, not_and, not_not] at hnone
      refine hsome (List.all_eq_true.mpr fun point hpoint => ?_)
      obtain ⟨offset, hoffset, rfl⟩ := List.mem_map.mp hpoint
      exact Option.isNone_iff_eq_none.mpr (hnone offset hoffset)
    · have hmerge : ((offsetsOf entries req).map fun offset => (offset, resolvedAt entries req offset)).foldl
          (fun periods point =>
            pushPeriod periods point.1 (shownLimit req.model (chosenUnit entries req) point.2)) [] =
          mergedOf entries req := by
        rw [List.foldl_map]
        exact foldl_pushPeriod (offsetsOf entries req) (shownAt entries req) []
      have hcut : ∀ periods : List (ChargingSchedulePeriod F),
          (if maxCompositePeriods < periods.length then periods[maxCompositePeriods]? else none) =
            periods[maxCompositePeriods]? := by
        intro periods
        split
        · rfl
        next hle => exact (List.getElem?_eq_none (not_lt.mp hle)).symm
      simp only [hcut]
      exact ⟨_, by rw [firstCutOf, ← hmerge]; rfl⟩

/-! ## The merged samples -/

theorem mem_mergedOf {period : ChargingSchedulePeriod F} (h : period ∈ mergedOf entries req) :
    0 ≤ period.startPeriod ∧ period.startPeriod < req.window ∧
      shownBy period = shownAt entries req period.startPeriod := by
  obtain ⟨offset, hoffset, rfl⟩ := List.mem_map.mp ((runs_sublist shownBy _).subset h)
  exact ⟨(mem_compositeOffsets.mp hoffset).1.1, (mem_compositeOffsets.mp hoffset).1.2, rfl⟩

theorem mergedOf_ordered : Ordered (·.startPeriod) (mergedOf entries req) :=
  runs_ordered _ _ samplesOf_ordered

/-- The merged samples read back as what is shown. -/
theorem inForce_mergedOf (hshape : ∀ entry ∈ entries, shapeError entry.profile = none) {k : Int}
    (hk : 0 ≤ k) (hkD : k < req.window) :
    (inForce (·.startPeriod) k (mergedOf entries req)).map shownBy =
      some (shownAt entries req k) := by
  rw [mergedOf, inForce_runs _ shownBy samplesOf_ordered]
  exact inForce_samplesOf hshape hk hkD

/-- The merged samples start at zero, also after a cut. -/
theorem mergedOf_head (hpos : 0 < req.window) :
    ((mergedOf entries req).take maxCompositePeriods).head?.map (·.startPeriod) = some 0 := by
  obtain ⟨rest, hrest⟩ : ∃ rest, offsetsOf entries req = 0 :: rest := compositeOffsets_cons hpos
  have hne : maxCompositePeriods ≠ 0 := by decide
  rw [List.head?_take, if_neg hne, mergedOf, samplesOf, hrest, List.map_cons, runs_head,
    Option.map_some]
  rfl

/-- A cut period starts inside the window, after the first second, where what is shown changes. -/
theorem firstCutOf_spec (hshape : ∀ entry ∈ entries, shapeError entry.profile = none)
    {cut : ChargingSchedulePeriod F} (hcut : firstCutOf entries req = some cut) :
    0 < cut.startPeriod ∧ cut.startPeriod < req.window ∧
      shownAt entries req cut.startPeriod ≠ shownAt entries req (cut.startPeriod - 1) := by
  have hmem := mem_mergedOf (List.mem_of_getElem? hcut)
  have hwindow : 0 < req.window := by omega
  have hpos : 0 < cut.startPeriod := by
    obtain ⟨hlen, hget⟩ := List.getElem?_eq_some_iff.mp hcut
    have hord : Ordered (·.startPeriod) (mergedOf entries req) := mergedOf_ordered
    have hzero := List.pairwise_iff_getElem.mp hord 0 maxCompositePeriods (by omega) hlen (by decide)
    rw [hget] at hzero
    exact (mem_mergedOf (List.getElem_mem (by omega))).1.trans_lt hzero
  refine ⟨hpos, hmem.2.1, ?_⟩
  have hread : (inForce (·.startPeriod) (cut.startPeriod - 1) (mergedOf entries req)).map shownBy =
      some (shownAt entries req (cut.startPeriod - 1)) :=
    inForce_mergedOf hshape (by omega) (by omega)
  rw [inForce_before _ mergedOf_ordered hcut] at hread
  obtain ⟨prev, hprev, hshown⟩ := Option.map_eq_some_iff.mp hread
  rw [← hshown, ← hmem.2.2]
  exact (runs_before shownBy hcut hprev).symm

/-- The schedule made of the merged samples is the composite schedule. -/
theorem isComposite_merged (hshape : ∀ entry ∈ entries, shapeError entry.profile = none)
    (hpos : 0 < req.window) (minChargingRate : Option F) :
    IsComposite entries req
      { connectorId := req.connector, scheduleStart := req.start
        chargingSchedule :=
          { duration := some ((firstCutOf entries req).elim req.window
              fun cut => min cut.startPeriod req.window)
            startSchedule := some req.start
            chargingRateUnit := chosenUnit entries req
            chargingSchedulePeriod := (mergedOf entries req).take maxCompositePeriods
            minChargingRate } } where
  connector := rfl
  scheduleStart := rfl
  startSchedule := rfl
  unit := rfl
  first := mergedOf_head hpos
  increasing := List.Pairwise.sublist (List.take_sublist _ _) mergedOf_ordered
  adjacent := (runs_adjacent shownBy _).take _
  bounded := List.length_take_le _ _
  faithful := by
    cases hcut : firstCutOf entries req with
    | none =>
      refine ⟨_, rfl, fun k hk hkD => ?_, .inl rfl⟩
      rw [List.take_of_length_le (List.getElem?_eq_none_iff.mp hcut)]
      exact inForce_mergedOf hshape hk hkD
    | some cut =>
      obtain ⟨hcutPos, hcutD, hchange⟩ := firstCutOf_spec hshape hcut
      have hmin : min cut.startPeriod req.window = cut.startPeriod := min_eq_left hcutD.le
      refine ⟨cut.startPeriod, by rw [Option.elim_some, hmin], fun k hk hkD => ?_,
        .inr ⟨?_, hcutPos, hcutD, hchange⟩⟩
      · rw [inForce_take _ mergedOf_ordered hcut hkD]
        exact inForce_mergedOf hshape hk (hkD.trans hcutD)
      · obtain ⟨hlen, -⟩ := List.getElem?_eq_some_iff.mp hcut
        exact List.length_take_of_le hlen.le

/-- **The composite schedule is exact.** For profiles of valid shape, a known connector and a
positive duration, the request fails exactly when no second of the window is limited, and is
answered by its composite schedule otherwise. -/
theorem compositeSchedule_correct (entries : List (StoredProfile F)) (req : CompositeRequest F)
    (hshape : ∀ entry ∈ entries, shapeError entry.profile = none)
    (hknown : isKnownConnector req.connector req.connectorCount = true) (hpos : 0 < req.durationS) :
    (compositeSchedule entries req = .error .noSchedule ↔
      ∀ k, 0 ≤ k → k < req.window → resolvedAt entries req k = none) ∧
    (compositeSchedule entries req ≠ .error .noSchedule →
      ∃ schedule, compositeSchedule entries req = .ok schedule ∧
        IsComposite entries req schedule) := by
  have hwindow : 0 < req.window := lt_min hpos (by decide)
  rcases compositeSchedule_eq hknown hpos with ⟨herror, hnone⟩ | ⟨⟨offset, hoffset, hsome⟩, rate, hok⟩
  · refine ⟨⟨fun _ k hk hkD => ?_, fun _ => herror⟩, fun h => absurd herror h⟩
    obtain ⟨offset, hoffset, hsame⟩ := resolvedAt_evaluated hshape hk hkD
    rw [← hsame]
    exact hnone offset hoffset
  · refine ⟨⟨fun h => ?_, fun h => ?_⟩, fun _ => ⟨_, hok, isComposite_merged hshape hwindow rate⟩⟩
    · rw [hok] at h
      cases h
    · have hrange := (mem_compositeOffsets.mp hoffset).1
      exact absurd (h offset hrange.1 hrange.2) hsome

end Samples

/-! ## An evening tariff -/

/-- A daily default profile of connector 1: 3 kW in the first hour of the day, 5 kW on one phase in
the second, no limit later. -/
def eveningTariff : StoredProfile Rat :=
  { connectorId := 1, boundTx := none, installedAt := none
    profile :=
      { chargingProfileId := 1, transactionId := none, stackLevel := 0
        chargingProfilePurpose := .txDefaultProfile, chargingProfileKind := .recurring
        recurrencyKind := some .daily, validFrom := none, validTo := none
        chargingSchedule :=
          { duration := some 7200, startSchedule := some 0, chargingRateUnit := .W
            chargingSchedulePeriod :=
              [{ startPeriod := 0, limit := 3000, numberPhases := none },
                { startPeriod := 3600, limit := 5000, numberPhases := some 1 }]
            minChargingRate := none } } }

/-- A composite schedule over two days. -/
def eveningRequest : CompositeRequest Rat :=
  { connector := 1, durationS := 172800, unit := none, now := 5, connectorCount := 1
    activeTx := none, txStartedAt := none, model := PowerModel.fromConfig 7200 230 1 }

theorem compositeSchedule_correct_evening :
    ∃ schedule, compositeSchedule [eveningTariff] eveningRequest = .ok schedule ∧
      IsComposite [eveningTariff] eveningRequest schedule := by
  have h := compositeSchedule_correct [eveningTariff] eveningRequest (by decide) (by decide)
    (by decide)
  refine h.2 fun hnone => ?_
  have hfirst := h.1.mp hnone 0 (by decide) (by decide)
  exact absurd hfirst (by decide +kernel)

end KirbyOcpp
