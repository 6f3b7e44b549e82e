import KirbyOcpp.Laws.SmartCharging.Composite
import KirbyOcpp.Data.StepIntegral

/-!
# The energy is the integral of the power

Over exact rationals, `energyWh` is the integral of the drawn power over the span, in real time.

**The laws**: `energyWh_eq_integral`, `energyWh_bounds` and `energyWh_add`. The power is constant on
the inside of every stretch between two cuts, so its value in the middle of the stretch stands for
all of it. In whole nanoseconds the middle is inside only when the stretch has at least two of
them (`LongPieces`).
-/

namespace KirbyOcpp

open intervalIntegral

/-! ## The drawn power -/

section Power

variable {T : Type} [Ring T] [LinearOrder T] [FloorRing T]

/-- The power drawn at `t`, in watts: `effectiveW` of the limit in force. -/
def powerAt (usable : List (StoredProfile ℚ × Instant)) (req : PowerRequest ℚ) (t : T) : ℚ :=
  req.model.effectiveW (limitWResolved usable req t)

/-- The power lies between zero and the nominal power. -/
theorem powerAt_bounds (usable : List (StoredProfile ℚ × Instant)) {req : PowerRequest ℚ}
    (hnominal : 0 ≤ req.model.nominalW) (t : T) :
    0 ≤ powerAt usable req t ∧ powerAt usable req t ≤ req.model.nominalW := by
  rw [powerAt, PowerModel.effectiveW]
  cases limitWResolved usable req t with
  | none => exact ⟨hnominal, le_rfl⟩
  | some limit =>
    simp only [Option.elim_some, clampFloat, Float64.lt, Float64.ofInt, Int.cast_zero,
      decide_eq_true_eq]
    split
    · exact ⟨le_rfl, hnominal⟩
    · split
      · exact ⟨hnominal, le_rfl⟩
      next hlow hhigh => exact ⟨not_lt.mp hlow, not_lt.mp hhigh⟩

end Power

/-! ## The cuts -/

section Cuts

variable {usable : List (StoredProfile ℚ × Instant)} {start stop : Int}

/-- No stretch between two cuts is shorter than two nanoseconds. -/
def LongPieces (usable : List (StoredProfile ℚ × Instant)) (start stop : Instant) : Prop :=
  ∀ pair ∈ windows (energyCuts usable start stop), 2 ≤ pair.2 - pair.1

instance : Decidable (LongPieces usable start stop) :=
  inferInstanceAs (Decidable (∀ pair ∈ windows (energyCuts usable start stop), 2 ≤ pair.2 - pair.1))

theorem mem_energyCuts {c : Int} : c ∈ energyCuts usable start stop ↔
    c = start ∨ c = stop ∨ ∃ e ∈ usable, c ∈ changeInstants e.1.profile e.2 start stop := by
  simp only [energyCuts, mem_sortDedup, List.mem_cons, List.mem_flatMap]

theorem energyCuts_range (hle : start ≤ stop) {c : Int} (hc : c ∈ energyCuts usable start stop) :
    start ≤ c ∧ c ≤ stop := by
  rcases mem_energyCuts.mp hc with rfl | rfl | ⟨e, -, hc⟩
  · exact ⟨le_rfl, hle⟩
  · exact ⟨hle, le_rfl⟩
  · have hin := (List.mem_filter.mp hc).2
    simp only [Bool.and_eq_true, decide_eq_true_eq] at hin
    exact hin

/-- The cuts run from the start of the span to its end. -/
theorem energyCuts_ends (usable : List (StoredProfile ℚ × Instant)) (hle : start ≤ stop) :
    ∃ rest, energyCuts usable start stop = start :: rest ∧
      (start :: rest).Pairwise (· < ·) ∧
      (start :: rest).getLast (List.cons_ne_nil _ _) = stop := by
  have hord : (energyCuts usable start stop).Pairwise (· < ·) := sortDedup_increasing _
  obtain ⟨rest, hrest⟩ := cons_of_least hord (mem_energyCuts.mpr (.inl rfl))
    fun c hc => (energyCuts_range hle hc).1
  refine ⟨rest, hrest, by rwa [hrest] at hord, ?_⟩
  have hlast := getLast_of_greatest hord (mem_energyCuts.mpr (.inr (.inl rfl)))
    (fun c hc => (energyCuts_range hle hc).2) (by rw [hrest]; exact List.cons_ne_nil _ _)
  simpa only [hrest] using hlast

/-- Nothing changes strictly inside a stretch: two inner instants have the same power. -/
theorem powerAt_inside {req : PowerRequest ℚ}
    (hshape : ∀ e ∈ usable, shapeError e.1.profile = none) (hle : start ≤ stop) {pair : Int × Int}
    (hp : pair ∈ windows (energyCuts usable start stop)) {x y : ℝ}
    (hx : (pair.1 : ℝ) < x) (hxy : x < y) (hy : y < pair.2) :
    powerAt usable req x = powerAt usable req y := by
  have hord : (energyCuts usable start stop).Pairwise (· < ·) := sortDedup_increasing _
  have hmem := mem_of_mem_windows hp
  have hstart : (start : ℝ) ≤ x :=
    (Int.cast_le.mpr (energyCuts_range hle hmem.1).1).trans hx.le
  have hstop : y ≤ (stop : ℝ) :=
    hy.le.trans (Int.cast_le.mpr (energyCuts_range hle hmem.2).2)
  rw [powerAt, powerAt, limitWResolved, limitWResolved, resolveAt_congr]
  intro e he
  refine periodAt_constant (hshape e he) hstart hstop hxy fun c hc => ?_
  rcases windows_gap hord hp c (mem_energyCuts.mpr (.inr (.inr ⟨e, he, hc⟩))) with hbelow | habove
  · exact .inl ((Int.cast_le.mpr hbelow).trans_lt hx)
  · exact .inr (hy.trans_le (Int.cast_le.mpr habove))

end Cuts

/-! ## Whole nanoseconds in real time -/

/-- Evaluating a profile at a whole nanosecond is the same on both time axes. -/
theorem periodAt_cast {F : Type} (profile : ChargingProfile F) (t base : Int) :
    periodAt profile (t : ℝ) base = periodAt profile t base := by
  have hvalid : isValidAt profile (t : ℝ) = isValidAt profile t := by
    simp only [isValidAt, Int.cast_le, Int.cast_id]
  have helapsed : elapsedMilliseconds (t : ℝ) base = elapsedMilliseconds t base := by
    rw [elapsedMilliseconds, elapsedMilliseconds, ← Int.cast_sub, Int.floor_intCast, Int.floor_int,
      Int.cast_id, id]
  rw [periodAt, periodAt, hvalid, helapsed]
  simp only [Int.cast_lt, Int.cast_id]

theorem powerAt_cast (usable : List (StoredProfile ℚ × Instant)) (req : PowerRequest ℚ) (t : Int) :
    powerAt usable req (t : ℝ) = powerAt usable req t := by
  simp only [powerAt, limitWResolved, resolveAt, Bests.visit, periodAt_cast]

/-! ## The sum over the stretches -/

section Sum

variable {entries : List (StoredProfile ℚ)} {req : PowerRequest ℚ} {start stop : Int}

/-- The power of a stretch: the one in its middle. -/
def piecePower (usable : List (StoredProfile ℚ × Instant)) (req : PowerRequest ℚ)
    (pair : Instant × Instant) : ℚ :=
  powerAt usable req (pair.1 + (pair.2 - pair.1).tdiv 2)

/-- `energyWh` is a sum over the stretches between the cuts. -/
theorem energyWh_eq_sum (hlt : start < stop) : energyWh entries req start stop =
    ((windows (energyCuts (powerProfiles entries req start) start stop)).map fun pair =>
      piecePower (powerProfiles entries req start) req pair / 3600 / nanosPerSecond *
        ((pair.2 : ℚ) - pair.1)).sum := by
  rw [energyWh, if_neg (not_le.mpr hlt), List.sum_eq_foldl]
  refine congrArg₂ (fun l z => List.foldl _ z l) (List.map_congr_left fun pair _ => ?_) Int.cast_zero
  simp only [piecePower, powerAt, asSecondsF64, Float64.div, Float64.mul, Float64.ofInt,
    Int.cast_sub, Int.cast_ofNat]
  ring

theorem mem_of_mem_powerProfiles {e : StoredProfile ℚ × Instant}
    (he : e ∈ powerProfiles entries req start) : e.1 ∈ entries := by
  simp only [powerProfiles, List.mem_map] at he
  obtain ⟨entry, hentry, rfl⟩ := he
  exact List.mem_of_mem_filter hentry

/-- The drawn power is integrable over the span, and its integral is the energy. -/
theorem integral_powerAt (hshape : ∀ entry ∈ entries, shapeError entry.profile = none)
    (hlt : start < stop) (hlong : LongPieces (powerProfiles entries req start) start stop) :
    IntervalIntegrable
        (fun t : ℝ => (powerAt (powerProfiles entries req start) req t / 3600 / nanosPerSecond : ℝ))
        MeasureTheory.volume start stop ∧
      ∫ t in (start : ℝ)..stop,
          (powerAt (powerProfiles entries req start) req t / 3600 / nanosPerSecond : ℝ) =
        energyWh entries req start stop := by
  have husable : ∀ e ∈ powerProfiles entries req start, shapeError e.1.profile = none :=
    fun e he => hshape _ (mem_of_mem_powerProfiles he)
  obtain ⟨rest, hrest, hord, hlast⟩ :=
    energyCuts_ends (powerProfiles entries req start) hlt.le
  have hinside : ∀ pair ∈ windows (start :: rest), ∀ x ∈ Set.Ioo (pair.1 : ℝ) pair.2,
      (powerAt (powerProfiles entries req start) req x / 3600 / nanosPerSecond : ℝ) =
        piecePower (powerProfiles entries req start) req pair / 3600 / nanosPerSecond := by
    intro pair hp x hx
    rw [← hrest] at hp
    -- the middle is a whole nanosecond inside the stretch
    have hlen : (2 : Int) ≤ pair.2 - pair.1 := hlong pair hp
    set middle := pair.1 + (pair.2 - pair.1).tdiv 2 with hmiddle
    have hmid : pair.1 < middle ∧ middle < pair.2 := by
      rw [Int.tdiv_eq_ediv_of_nonneg (by omega)] at hmiddle
      omega
    have hlow : (pair.1 : ℝ) < middle := Int.cast_lt.mpr hmid.1
    have hhigh : (middle : ℝ) < pair.2 := Int.cast_lt.mpr hmid.2
    have hsame : powerAt (powerProfiles entries req start) req x =
        powerAt (powerProfiles entries req start) req (middle : ℝ) := by
      rcases lt_trichotomy x middle with hlt' | rfl | hgt
      · exact powerAt_inside husable hlt.le hp hx.1 hlt' hhigh
      · rfl
      · exact (powerAt_inside husable hlt.le hp hlow hgt hx.2).symm
    rw [hsame, powerAt_cast]
    rfl
  have hsum := integral_steps hord hinside
  rw [hlast] at hsum
  refine ⟨hsum.1, hsum.2.trans ?_⟩
  rw [energyWh_eq_sum hlt, hrest, Rat.cast_list_sum, List.map_map]
  refine congrArg List.sum (List.map_congr_left fun pair _ => ?_)
  simp only [Function.comp_apply, Rat.cast_mul, Rat.cast_div, Rat.cast_sub, Rat.cast_intCast,
    Rat.cast_ofNat]

/-- The energy is not negative and at most what the nominal power delivers. -/
theorem energyWh_bounds (hlt : start < stop) (hnominal : 0 ≤ req.model.nominalW) :
    0 ≤ energyWh entries req start stop ∧
      energyWh entries req start stop ≤
        req.model.nominalW / 3600 / nanosPerSecond * ((stop : ℚ) - start) := by
  obtain ⟨rest, hrest, hord, hlast⟩ :=
    energyCuts_ends (powerProfiles entries req start) hlt.le
  rw [energyWh_eq_sum hlt, hrest]
  have hscale : (0 : ℚ) < nanosPerSecond := by decide
  rw [← hlast]
  refine windows_sum_bounds start rest fun pair hp => ?_
  obtain ⟨hlow, hhigh⟩ := powerAt_bounds (powerProfiles entries req start) hnominal
    (pair.1 + (pair.2 - pair.1).tdiv 2)
  have hlen : (0 : ℚ) ≤ (pair.2 : ℚ) - pair.1 :=
    sub_nonneg.mpr (Int.cast_le.mpr (windows_lt hord hp).le)
  simp only [piecePower]
  constructor
  · positivity
  · gcongr

end Sum

/-! ## Splitting the span -/

/-- The base that a profile's schedule has of its own, without the fallback. -/
def ownBase {F : Type} (profile : ChargingProfile F) (relativeStart installedAt : Option Instant) :
    Option Instant :=
  match profile.chargingProfileKind with
  | .relative => relativeStart
  | .absolute | .recurring =>
    (profile.chargingSchedule.startSchedule.or profile.validFrom).or installedAt

/-- The base is the profile's own, else the fallback. -/
theorem scheduleBase_eq {F : Type} (profile : ChargingProfile F)
    (relativeStart installedAt : Option Instant) (fallbackStart : Instant) :
    scheduleBase profile relativeStart installedAt fallbackStart =
      (ownBase profile relativeStart installedAt).getD fallbackStart := by
  rw [scheduleBase, ownBase]
  cases profile.chargingProfileKind <;> rfl

/-- No profile that can affect the connector takes its base from the fallback. -/
def OwnBases (entries : List (StoredProfile ℚ)) (req : PowerRequest ℚ) : Prop :=
  ∀ entry ∈ entries, (entry.connectorId == req.connector || isStation entry.connectorId) = true →
    (ownBase entry.profile req.txStartedAt entry.installedAt).isSome

instance {entries : List (StoredProfile ℚ)} {req : PowerRequest ℚ} :
    Decidable (OwnBases entries req) :=
  inferInstanceAs (Decidable (∀ entry ∈ entries,
    (entry.connectorId == req.connector || isStation entry.connectorId) = true →
      (ownBase entry.profile req.txStartedAt entry.installedAt).isSome = true))

/-- Then the usable profiles do not depend on where the span starts. -/
theorem powerProfiles_congr {entries : List (StoredProfile ℚ)} {req : PowerRequest ℚ}
    (hown : OwnBases entries req) (start start' : Instant) :
    powerProfiles entries req start = powerProfiles entries req start' := by
  refine List.map_congr_left fun entry hentry => ?_
  obtain ⟨hmem, huse⟩ := List.mem_filter.mp hentry
  obtain ⟨base, hbase⟩ := Option.isSome_iff_exists.mp (hown entry hmem huse)
  rw [scheduleBase_eq, scheduleBase_eq, hbase, Option.getD_some, Option.getD_some]

/-- The energy of a span is the energy of its two parts. -/
theorem energyWh_add {entries : List (StoredProfile ℚ)} {req : PowerRequest ℚ} {start m stop : Int}
    (hshape : ∀ entry ∈ entries, shapeError entry.profile = none) (hown : OwnBases entries req)
    (hm : start ≤ m) (hm' : m ≤ stop)
    (hlong : LongPieces (powerProfiles entries req start) start stop)
    (hfirst : LongPieces (powerProfiles entries req start) start m)
    (hsecond : LongPieces (powerProfiles entries req m) m stop) :
    energyWh entries req start stop = energyWh entries req start m + energyWh entries req m stop := by
  have hzero : ∀ t : Int, energyWh entries req t t = 0 := fun t => by
    rw [energyWh, if_pos le_rfl]
    exact Int.cast_zero
  rcases hm.eq_or_lt with rfl | hlt
  · rw [hzero, zero_add]
  rcases hm'.eq_or_lt with rfl | hlt'
  · rw [hzero, add_zero]
  obtain ⟨-, hwhole⟩ := integral_powerAt hshape (hlt.trans hlt') hlong
  obtain ⟨hint, hleft⟩ := integral_powerAt hshape hlt hfirst
  obtain ⟨hint', hright⟩ := integral_powerAt hshape hlt' hsecond
  rw [powerProfiles_congr hown m start] at hint' hright
  have hsplit := integral_add_adjacent_intervals hint hint'
  rw [hwhole, hleft, hright] at hsplit
  exact_mod_cast hsplit.symm

/-- **The energy is exact.** For profiles of valid shape and a span from `start` to `stop`: a usable
profile keeps its period between instants that enclose no change instant; the energy is the integral
of the drawn power; it lies between zero and what the nominal power delivers; and it adds up over
the parts of the span. -/
theorem energyWh_exact (entries : List (StoredProfile ℚ)) (req : PowerRequest ℚ)
    (start stop : Instant) (hshape : ∀ entry ∈ entries, shapeError entry.profile = none)
    (hlt : start < stop) :
    (∀ e ∈ powerProfiles entries req start, ∀ a b : Instant, start ≤ a → a < b → b ≤ stop →
      (∀ c ∈ changeInstants e.1.profile e.2 start stop, ¬ (a ≤ c ∧ c ≤ b)) →
      periodAt e.1.profile a e.2 = periodAt e.1.profile b e.2) ∧
    (LongPieces (powerProfiles entries req start) start stop →
      ((energyWh entries req start stop : ℚ) : ℝ) = ∫ t in (start : ℝ)..stop,
        (powerAt (powerProfiles entries req start) req t / 3600 / nanosPerSecond : ℝ)) ∧
    (0 ≤ req.model.nominalW →
      0 ≤ energyWh entries req start stop ∧
        energyWh entries req start stop ≤
          req.model.nominalW / 3600 / nanosPerSecond * ((stop : ℚ) - start)) ∧
    (∀ m : Instant, start ≤ m → m ≤ stop → OwnBases entries req →
      LongPieces (powerProfiles entries req start) start stop →
      LongPieces (powerProfiles entries req start) start m →
      LongPieces (powerProfiles entries req m) m stop →
      energyWh entries req start stop =
        energyWh entries req start m + energyWh entries req m stop) := by
  refine ⟨fun e he a b ha hab hb hno => ?_, fun hlong => ?_, energyWh_bounds hlt, ?_⟩
  · refine periodAt_constant (hshape _ (mem_of_mem_powerProfiles he)) ha hb hab fun c hc => ?_
    rcases lt_or_ge c a with hlow | hge
    · exact .inl hlow
    · exact .inr (not_le.mp fun hle => hno c hc ⟨hge, hle⟩)
  · exact (integral_powerAt hshape hlt hlong).2.symm
  · exact fun m hm hm' hown hlong hfirst hsecond =>
      energyWh_add hshape hown hm hm' hlong hfirst hsecond

/-- The power of connector 1 while it charges. -/
def eveningPower : PowerRequest Rat :=
  { connector := 1, activeTx := none, txStartedAt := none
    model := PowerModel.fromConfig 7200 230 1, chargingConnectors := 1 }

/-- The energy of the first three hours of the evening tariff, and of its first two hours. -/
theorem energyWh_exact_evening :
    ((energyWh [eveningTariff] eveningPower 0 (seconds 10800) : ℚ) : ℝ) =
        ∫ t in ((0 : Int) : ℝ)..(seconds 10800 : Int),
          (powerAt (powerProfiles [eveningTariff] eveningPower 0) eveningPower t / 3600 /
            nanosPerSecond : ℝ) ∧
      energyWh [eveningTariff] eveningPower 0 (seconds 10800) =
        energyWh [eveningTariff] eveningPower 0 (seconds 7200) +
          energyWh [eveningTariff] eveningPower (seconds 7200) (seconds 10800) := by
  have h := energyWh_exact [eveningTariff] eveningPower 0 (seconds 10800) (by decide) (by decide)
  refine ⟨h.2.1 (by decide +kernel), h.2.2.2 (seconds 7200) (by decide) (by decide) (by decide) ?_ ?_ ?_⟩
  · decide +kernel
  · decide +kernel
  · decide +kernel

end KirbyOcpp
