import KirbyOcpp.Laws.SmartCharging.Composite
import KirbyOcpp.Data.LastMatch

/-!
# Which period is in force

`periodAt` answers inside the validity window, from the base on, and before the end of the schedule,
counted in the cycle of a recurring profile. A well-shaped profile lists its periods by their starts, so the
answer is the last one that has begun, and it is the same one cycle later.
-/

namespace KirbyOcpp

open LastMatch (last)

variable {F : Type}

/-- The milliseconds from `base` to `t`, for a recurring profile those since the cycle began. -/
def elapsedInCycle (profile : ChargingProfile F) (t base : Instant) : Int :=
  let elapsed := (t - base) / nanosPerMilli
  (recurrencePeriodMs profile).elim elapsed fun cycle => elapsed % cycle

/-- The period has begun after `elapsed` milliseconds. -/
def Begun (elapsed : Int) (period : ChargingSchedulePeriod F) : Prop := period.startPeriod * 1000 ≤ elapsed

instance (elapsed : Int) (period : ChargingSchedulePeriod F) : Decidable (Begun elapsed period) :=
  inferInstanceAs (Decidable (_ ≤ _))

/-- `period` has begun, and none that follows it in the list has. -/
def LastBegun (periods : List (ChargingSchedulePeriod F)) (elapsed : Int) (period : ChargingSchedulePeriod F) : Prop :=
  ∃ front back, periods = front ++ period :: back ∧ Begun elapsed period ∧ ∀ next ∈ back, ¬Begun elapsed next

/-! ## The periods of a well-shaped profile -/

/-- A well-shaped profile lists its periods by their starts. -/
theorem periods_sorted [Float64 F] {profile : ChargingProfile F} (shape : shapeError profile = none) :
    profile.chargingSchedule.chargingSchedulePeriod.Pairwise fun a b => a.startPeriod < b.startPeriod := by
  have increasing : (windows profile.chargingSchedule.chargingSchedulePeriod).any
      (fun pair => pair.2.startPeriod ≤ pair.1.startPeriod) = false := by
    by_contra falls
    rw [Bool.not_eq_false] at falls
    unfold shapeError at shape
    dsimp only at shape
    rw [falls] at shape
    split at shape
    · cases shape
    split at shape
    · cases shape
    split at shape
    · cases shape
    split at shape <;> cases shape
  have chain : profile.chargingSchedule.chargingSchedulePeriod.IsChain
      fun a b => a.startPeriod < b.startPeriod := by
    refine isChain_iff_windows.mpr fun pair mem => ?_
    have := List.any_eq_false.mp increasing pair mem
    simpa using this
  have : IsTrans (ChargingSchedulePeriod F) fun a b => a.startPeriod < b.startPeriod :=
    ⟨fun _ _ _ => lt_trans⟩
  exact chain.pairwise

theorem maxByStart_mem {periods : List (ChargingSchedulePeriod F)}
    {period : ChargingSchedulePeriod F} (h : maxByStart periods = some period) : period ∈ periods := by
  induction periods generalizing period with
  | nil => cases h
  | cons first rest ih =>
    unfold maxByStart at h
    split at h
    · exact Option.some.inj h ▸ List.mem_cons_self
    next best found =>
      split at h
      · exact Option.some.inj h ▸ List.mem_cons_self
      · exact Option.some.inj h ▸ List.mem_cons_of_mem _ (ih found)

/-- Among periods in order, the one that starts latest is the last one. -/
theorem maxByStart_filter {periods : List (ChargingSchedulePeriod F)}
    (sorted : periods.Pairwise fun a b => a.startPeriod < b.startPeriod)
    (p : ChargingSchedulePeriod F → Bool) : maxByStart (periods.filter p) = last p periods := by
  induction periods with
  | nil => rfl
  | cons period rest ih =>
    obtain ⟨least, sorted⟩ := List.pairwise_cons.mp sorted
    rw [LastMatch.last_cons, List.filter_cons, ← ih sorted]
    cases pass : p period with
    | false => simp
    | true =>
      rw [if_pos rfl, if_pos rfl, maxByStart]
      cases best : maxByStart (rest.filter p) with
      | none => rfl
      | some best' =>
        have mem : best' ∈ rest := List.mem_of_mem_filter (maxByStart_mem best)
        exact if_neg (not_lt.mpr (least best' mem).le)

theorem periodAfter_eq {schedule : ChargingSchedule F}
    (sorted : schedule.chargingSchedulePeriod.Pairwise fun a b => a.startPeriod < b.startPeriod) (elapsed : Int) :
    periodAfter schedule elapsed =
      if schedule.duration.any (fun duration => decide (duration * 1000 ≤ elapsed)) then none
      else last (fun period => decide (Begun elapsed period)) schedule.chargingSchedulePeriod := by
  unfold periodAfter
  rw [maxByStart_filter sorted]
  rfl

/-! ## The instants of the source -/

theorem elapsedMilliseconds_instant (t base : Instant) : elapsedMilliseconds t base = (t - base) / nanosPerMilli := by
  simp [elapsedMilliseconds]

theorem isValidAt_iff {profile : ChargingProfile F} {t : Instant} :
    isValidAt profile t = true ↔
      (∀ validFrom, profile.validFrom = some validFrom → validFrom ≤ t) ∧
        ∀ validTo, profile.validTo = some validTo → t ≤ validTo := by
  cases start : profile.validFrom <;> cases stop : profile.validTo <;> simp [isValidAt, start, stop]

theorem periodAt_instant (profile : ChargingProfile F) (t base : Instant) :
    periodAt profile t base =
      if isValidAt profile t = true ∧ base ≤ t then
        periodAfter profile.chargingSchedule (elapsedInCycle profile t base)
      else none := by
  unfold periodAt elapsedInCycle
  rw [elapsedMilliseconds_instant]
  by_cases valid : isValidAt profile t = true
  · by_cases after : base ≤ t
    · simp [valid, after]
    · simp [valid, after, not_le.mp after]
  · simp [valid]

theorem nanosPerMilli_pos : 0 < nanosPerMilli := by decide

theorem elapsedInCycle_nonneg {profile : ChargingProfile F} {t base : Instant} (after : base ≤ t) :
    0 ≤ elapsedInCycle profile t base := by
  unfold elapsedInCycle
  dsimp only
  cases recurs : recurrencePeriodMs profile with
  | none => exact Int.ediv_nonneg (sub_nonneg.mpr after) nanosPerMilli_pos.le
  | some cycle => exact Int.emod_nonneg _ (recurrencePeriodMs_pos recurs).ne'

/-- One cycle later the schedule is at the same place. -/
theorem elapsedInCycle_next {profile : ChargingProfile F} {cycle : Int}
    (recurs : recurrencePeriodMs profile = some cycle) (t base : Instant) :
    elapsedInCycle profile (offsetMs t cycle) base = elapsedInCycle profile t base := by
  have elapsed : (offsetMs t cycle - base) / nanosPerMilli = (t - base) / nanosPerMilli + cycle := by
    rw [offsetMs, add_sub_right_comm, Int.add_mul_ediv_right _ _ nanosPerMilli_pos.ne']
  unfold elapsedInCycle
  rw [recurs, elapsed]
  exact Int.add_emod_right _ _

/-- The recurring profiles are those with a cycle. -/
theorem recurrencePeriodMs_isSome {profile : ChargingProfile F} :
    (recurrencePeriodMs profile).isSome ↔ profile.chargingProfileKind = .recurring := by
  unfold recurrencePeriodMs
  split
  · rename_i other
    simpa using other
  · rename_i recurs
    have recurs := not_not.mp recurs
    split <;> simp [recurs]

/-! ## The selection -/

theorem lastBegun_iff {periods : List (ChargingSchedulePeriod F)} {elapsed : Int} {period : ChargingSchedulePeriod F} :
    LastBegun periods elapsed period ↔ last (fun period => decide (Begun elapsed period)) periods = some period := by
  rw [LastMatch.last_eq_some_iff]
  simp [LastBegun]

/-- What an answer of `period_at` says. -/
theorem periodAt_eq_some [Float64 F] {profile : ChargingProfile F} (shape : shapeError profile = none)
    {t base : Instant} {period : ChargingSchedulePeriod F} :
    periodAt profile t base = some period ↔
      (isValidAt profile t = true ∧ base ≤ t) ∧
        (∀ duration, profile.chargingSchedule.duration = some duration →
          elapsedInCycle profile t base < duration * 1000) ∧
        LastBegun profile.chargingSchedule.chargingSchedulePeriod (elapsedInCycle profile t base) period := by
  rw [periodAt_instant, periodAfter_eq (periods_sorted shape), lastBegun_iff]
  by_cases here : isValidAt profile t = true ∧ base ≤ t
  · rw [if_pos here]
    cases profile.chargingSchedule.duration with
    | none => simp [here]
    | some duration =>
      by_cases past : duration * 1000 ≤ elapsedInCycle profile t base
      · simp [past]
      · simp [past, here, not_le.mp past]
  · rw [if_neg here]
    simp [here]

/-- **The period in force.** For a well-shaped profile, `period_at` answers exactly inside the validity
window, from the base on and before the end of the schedule. Its answer is the one period that has begun and
that no other begun period follows, and a recurring profile gives the same answer one cycle later. -/
theorem periodAt_selects [Float64 F] {profile : ChargingProfile F} (shape : shapeError profile = none)
    (t base : Instant) :
    let elapsed := elapsedInCycle profile t base
    let periods := profile.chargingSchedule.chargingSchedulePeriod
    ((∃ period, periodAt profile t base = some period) ↔
      (∀ validFrom, profile.validFrom = some validFrom → validFrom ≤ t) ∧
        (∀ validTo, profile.validTo = some validTo → t ≤ validTo) ∧ base ≤ t ∧
        ∀ duration, profile.chargingSchedule.duration = some duration → elapsed < duration * 1000) ∧
    (∀ period, periodAt profile t base = some period →
      LastBegun periods elapsed period ∧ ∀ other, LastBegun periods elapsed other → other = period) ∧
    (profile.chargingProfileKind = .recurring → ∃ cycle, recurrencePeriodMs profile = some cycle ∧
      (isValidAt profile t = true → isValidAt profile (offsetMs t cycle) = true → base ≤ t →
        periodAt profile (offsetMs t cycle) base = periodAt profile t base)) := by
  intro elapsed periods
  refine ⟨⟨?_, ?_⟩, fun period found => ?_, fun recurs => ?_⟩
  · rintro ⟨period, found⟩
    obtain ⟨⟨valid, after⟩, ends, -⟩ := (periodAt_eq_some shape).mp found
    exact ⟨(isValidAt_iff.mp valid).1, (isValidAt_iff.mp valid).2, after, ends⟩
  · rintro ⟨validFrom, validTo, after, ends⟩
    -- the first period has begun, so there is a last one that has
    obtain ⟨first, mem, zero⟩ := first_period_of_shape shape
    have begun : Begun elapsed first := by
      unfold Begun
      rw [zero, zero_mul]
      exact elapsedInCycle_nonneg after
    cases found : last (fun period => decide (Begun elapsed period)) periods with
    | none =>
      have waits := LastMatch.last_eq_none.mp found first mem
      exact absurd begun (of_decide_eq_false waits)
    | some period =>
      exact ⟨period, (periodAt_eq_some shape).mpr
        ⟨⟨isValidAt_iff.mpr ⟨validFrom, validTo⟩, after⟩, ends, lastBegun_iff.mpr found⟩⟩
  · obtain ⟨-, -, answer⟩ := (periodAt_eq_some shape).mp found
    refine ⟨answer, fun other alike => ?_⟩
    exact Option.some.inj ((lastBegun_iff.mp alike).symm.trans (lastBegun_iff.mp answer))
  · obtain ⟨cycle, repeats⟩ := Option.isSome_iff_exists.mp (recurrencePeriodMs_isSome.mpr recurs)
    refine ⟨cycle, repeats, fun valid valid' after => ?_⟩
    have after' : base ≤ offsetMs t cycle :=
      after.trans (le_add_of_nonneg_right (mul_pos (recurrencePeriodMs_pos repeats) nanosPerMilli_pos).le)
    rw [periodAt_instant, periodAt_instant, if_pos ⟨valid', after'⟩, if_pos ⟨valid, after⟩,
      elapsedInCycle_next repeats]

/-- In the second hour of the third day the second period is in force. -/
theorem periodAt_selects_evening :
    periodAt eveningTariff.profile (offsetMs 0 177000000) 0 =
      some { startPeriod := 3600, limit := 5000, numberPhases := some 1 } := by
  obtain ⟨answers, selects, -⟩ := periodAt_selects (F := Rat) (show shapeError eveningTariff.profile = none by decide)
    (offsetMs 0 177000000) 0
  obtain ⟨period, found⟩ := answers.mpr (by decide)
  have second : LastBegun eveningTariff.profile.chargingSchedule.chargingSchedulePeriod
      (elapsedInCycle eveningTariff.profile (offsetMs 0 177000000) 0)
      { startPeriod := 3600, limit := 5000, numberPhases := some 1 } :=
    ⟨[{ startPeriod := 0, limit := 3000, numberPhases := none }], [], rfl, by decide, fun _ none => nomatch none⟩
  rw [found, (selects period found).2 _ second]

end KirbyOcpp
