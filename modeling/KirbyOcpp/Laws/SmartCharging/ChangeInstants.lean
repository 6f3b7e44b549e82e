import KirbyOcpp.Station.SmartCharging

/-!
# The change instants are complete

Between two instants that enclose no change instant of a profile, the profile's period does not
change (`periodAt_constant`). The argument reads `periodAt` as a set of comparisons of the instant
with instants that are all candidates: the ends of the validity window, the base, and the starts
and the duration of the cycle in force. A recurring profile needs one more comparison, with the
starts of the cycles themselves; they are candidates because the first period starts at zero.

The law is stated over any ordered ring of instants with a floor, so it speaks of the instants of
the source and of the real instants that the energy integral ranges over.
-/

namespace KirbyOcpp

variable {F : Type}

/-! ## What `shapeError` promises -/

/-- A well-shaped profile has a first period, at zero. -/
theorem first_period_of_shape [Float64 F] {profile : ChargingProfile F} (h : shapeError profile = none) :
    ∃ first ∈ profile.chargingSchedule.chargingSchedulePeriod, first.startPeriod = 0 := by
  simp only [shapeError] at h
  split at h
  · cases h
  split at h
  · cases h
  split at h
  · cases h
  next first hfirst =>
    split at h
    · cases h
    next hzero =>
      exact ⟨first, List.mem_of_head? hfirst, not_not.mp hzero⟩

/-! ## Comparisons -/

section Outside

variable {T : Type} [Ring T] [LinearOrder T]

/-- An instant `c` lies outside the closed span from `a` to `b`. -/
def Outside (a b : T) (c : Int) : Prop := (c : T) < a ∨ b < (c : T)

theorem Outside.le_iff {a b : T} {c : Int} (hab : a < b) (h : Outside a b c) :
    (c : T) ≤ a ↔ (c : T) ≤ b := by
  rcases h with h | h
  · exact ⟨fun _ => (h.trans hab).le, fun _ => h.le⟩
  · exact ⟨fun h' => absurd (h'.trans_lt hab) h.le.not_gt, fun h' => absurd h' h.not_ge⟩

theorem Outside.ge_iff {a b : T} {c : Int} (hab : a < b) (h : Outside a b c) :
    a ≤ (c : T) ↔ b ≤ (c : T) := by
  rcases h with h | h
  · exact ⟨fun h' => absurd h' h.not_ge, fun h' => absurd h' (h.trans hab).not_ge⟩
  · exact ⟨fun _ => h.le, fun _ => (hab.trans h).le⟩

theorem Outside.lt_iff {a b : T} {c : Int} (hab : a < b) (h : Outside a b c) :
    a < (c : T) ↔ b < (c : T) := by
  rcases h with h | h
  · exact ⟨fun h' => absurd h' h.not_gt, fun h' => absurd h' (h.trans hab).not_gt⟩
  · exact ⟨fun _ => h, fun _ => hab.trans h⟩

end Outside

variable {T : Type} [Ring T] [LinearOrder T] [IsStrictOrderedRing T] [FloorRing T]

/-- Elapsed milliseconds reach `m` exactly when the instant `m` milliseconds after the base has
come. -/
theorem le_elapsedMilliseconds {t : T} {base m : Int} :
    m ≤ elapsedMilliseconds t base ↔ ((offsetMs base m : Int) : T) ≤ t := by
  have hpos : (0 : Int) < nanosPerMilli := by decide
  rw [elapsedMilliseconds, Int.le_ediv_iff_mul_le hpos, Int.le_floor, offsetMs, Int.cast_add,
    le_sub_iff_add_le, add_comm]

theorem elapsedMilliseconds_mono {a b : T} (hab : a ≤ b) (base : Int) :
    elapsedMilliseconds a base ≤ elapsedMilliseconds b base :=
  le_elapsedMilliseconds.mpr ((le_elapsedMilliseconds.mp (le_refl _)).trans hab)

theorem elapsedMilliseconds_nonneg {t : T} {base : Int} (h : (base : T) ≤ t) :
    0 ≤ elapsedMilliseconds t base := by
  rw [le_elapsedMilliseconds, offsetMs, zero_mul, add_zero]
  exact h

/-- The milliseconds up to an earlier instant do not exceed those up to a later one, also when
`numMilliseconds` rounds a negative span towards zero. -/
theorem numMilliseconds_le_elapsed {t : T} {base start : Int} (hbase : (base : T) ≤ t)
    (hstart : (start : T) ≤ t) : numMilliseconds (start - base) ≤ elapsedMilliseconds t base := by
  have hpos : (0 : Int) ≤ nanosPerMilli := by decide
  rcases le_total base start with hle | hle
  · rw [le_elapsedMilliseconds, offsetMs, numMilliseconds, Int.tdiv_eq_ediv_of_nonneg (by omega)]
    refine le_trans (Int.cast_le.mpr ?_) hstart
    have := Int.ediv_mul_le (start - base) (b := nanosPerMilli) (by decide)
    omega
  · have hneg : numMilliseconds (start - base) ≤ 0 := by
      rw [numMilliseconds, ← neg_sub, Int.neg_tdiv]
      exact neg_nonpos.mpr (Int.tdiv_nonneg (by omega) hpos)
    exact hneg.trans (elapsedMilliseconds_nonneg hbase)

/-- The milliseconds up to a later instant are at least those up to an earlier one. -/
theorem elapsed_le_numMilliseconds {t : T} {base stop : Int} (hbase : (base : T) ≤ t)
    (hstop : t ≤ (stop : T)) : elapsedMilliseconds t base ≤ numMilliseconds (stop - base) := by
  have hle : base ≤ stop := Int.cast_le.mp (hbase.trans hstop)
  have h := elapsedMilliseconds_mono hstop base
  have hexact : elapsedMilliseconds (stop : T) base = numMilliseconds (stop - base) := by
    rw [elapsedMilliseconds, numMilliseconds, ← Int.cast_sub, Int.floor_intCast,
      Int.tdiv_eq_ediv_of_nonneg (by omega)]
  rwa [hexact] at h

/-! ## The candidates -/

variable {profile : ChargingProfile F} {base start stop : Int} {a b : T}

/-- No change instant of `profile` in the closed span from `a` to `b`. -/
def NoChange (profile : ChargingProfile F) (base start stop : Int) (a b : T) : Prop :=
  ∀ c ∈ changeInstants profile base start stop, Outside a b c

/-- Every candidate is outside a span without change instants, wherever the window lies. -/
theorem NoChange.outside (h : NoChange profile base start stop a b) (ha : (start : T) ≤ a)
    (hb : b ≤ (stop : T)) {c : Int}
    (hc : c ∈ changeInstants profile base start stop ∨ c < start ∨ stop < c) : Outside a b c := by
  rcases hc with hc | hc | hc
  · exact h c hc
  · exact .inl ((Int.cast_lt.mpr hc).trans_le ha)
  · exact .inr (hb.trans_lt (Int.cast_lt.mpr hc))

/-- A candidate is a change instant unless it lies outside the window. -/
theorem mem_changeInstants_or {c : Int}
    (hc : c ∈ profile.validFrom.toList ∨ c ∈ profile.validTo.toList ∨ c = base ∨
      c ∈ (match recurrencePeriodMs profile with
        | some cycle =>
          (intRange (numMilliseconds (start - base) / cycle - 1)
            (numMilliseconds (stop - base) / cycle + 1)).flatMap fun n =>
            cycleInstants profile.chargingSchedule (offsetMs base (n * cycle))
        | none => cycleInstants profile.chargingSchedule base)) :
    c ∈ changeInstants profile base start stop ∨ c < start ∨ stop < c := by
  by_cases hlow : c < start
  · exact .inr (.inl hlow)
  by_cases hhigh : stop < c
  · exact .inr (.inr hhigh)
  refine .inl (List.mem_filter.mpr ⟨?_, ?_⟩)
  · simp only [List.mem_append, List.mem_singleton]
    tauto
  · simp only [Bool.and_eq_true, decide_eq_true_eq]
    exact ⟨not_lt.mp hlow, not_lt.mp hhigh⟩

theorem mem_intRange {first last n : Int} : n ∈ intRange first last ↔ first ≤ n ∧ n ≤ last := by
  simp only [intRange, List.mem_map, List.mem_range]
  constructor
  · rintro ⟨i, hi, rfl⟩
    omega
  · rintro ⟨h1, h2⟩
    exact ⟨(n - first).toNat, by omega, by omega⟩

/-! ## The period in force -/

/-- `periodAfter` compares the elapsed time only with the starts of the periods and the duration. -/
theorem periodAfter_congr {schedule : ChargingSchedule F} {e e' : Int}
    (hstart : ∀ period ∈ schedule.chargingSchedulePeriod,
      period.startPeriod * 1000 ≤ e ↔ period.startPeriod * 1000 ≤ e')
    (hduration : ∀ duration ∈ schedule.duration, duration * 1000 ≤ e ↔ duration * 1000 ≤ e') :
    periodAfter schedule e = periodAfter schedule e' := by
  have hfilter : schedule.chargingSchedulePeriod.filter (fun p => p.startPeriod * 1000 ≤ e) =
      schedule.chargingSchedulePeriod.filter (fun p => p.startPeriod * 1000 ≤ e') :=
    List.filter_congr fun p hp => decide_eq_decide.mpr (hstart p hp)
  have hany : schedule.duration.any (fun d => decide (d * 1000 ≤ e)) =
      schedule.duration.any (fun d => decide (d * 1000 ≤ e')) := by
    cases hd : schedule.duration with
    | none => rfl
    | some d => exact decide_eq_decide.mpr (hduration d hd)
  rw [periodAfter, periodAfter, hany, hfilter]

omit [IsStrictOrderedRing T] [FloorRing T] in
/-- When the instants of a cycle are outside a span and the elapsed times count from the cycle's
start, both ends of the span have the same period. -/
theorem periodAfter_of_cycle {schedule : ChargingSchedule F} (anchor : Int) (hab : a < b)
    (hout : ∀ c ∈ cycleInstants schedule anchor, Outside a b c) {e e' : Int}
    (he : ∀ m, m ≤ e ↔ ((offsetMs anchor m : Int) : T) ≤ a)
    (he' : ∀ m, m ≤ e' ↔ ((offsetMs anchor m : Int) : T) ≤ b) :
    periodAfter schedule e = periodAfter schedule e' := by
  refine periodAfter_congr (fun period hp => ?_) fun duration hd => ?_
  · have hmem : offsetMs anchor (period.startPeriod * 1000) ∈ cycleInstants schedule anchor :=
      List.mem_append_left _ (List.mem_map.mpr ⟨period, hp, rfl⟩)
    rw [he, he', (hout _ hmem).le_iff hab]
  · have hmem : offsetMs anchor (duration * 1000) ∈ cycleInstants schedule anchor := by
      refine List.mem_append_right _ ?_
      rw [Option.mem_def.mp hd]
      exact List.mem_singleton_self _
    rw [he, he', (hout _ hmem).le_iff hab]

/-- Elapsed time inside cycle `n`. -/
theorem le_elapsed_mod {e cycle n m : Int} (hn : e / cycle = n) :
    m ≤ e % cycle ↔ n * cycle + m ≤ e := by
  have h := Int.mul_ediv_add_emod e cycle
  rw [hn, mul_comm] at h
  omega

theorem offsetMs_offsetMs (instant m n : Int) :
    offsetMs (offsetMs instant m) n = offsetMs instant (m + n) := by
  simp only [offsetMs, add_mul, add_assoc]

theorem recurrencePeriodMs_pos {cycle : Int} (h : recurrencePeriodMs profile = some cycle) :
    0 < cycle := by
  unfold recurrencePeriodMs at h
  split at h
  · cases h
  · split at h <;> cases h <;> decide

/-- Two instants after the base that enclose no change instant are in the same cycle. -/
theorem same_cycle [Float64 F] (hshape : shapeError profile = none) {cycle : Int}
    (hcycle : recurrencePeriodMs profile = some cycle) (ha : (start : T) ≤ a) (hb : b ≤ (stop : T))
    (hab : a < b) (hbase : (base : T) ≤ a) (h : NoChange profile base start stop a b) :
    elapsedMilliseconds a base / cycle = elapsedMilliseconds b base / cycle := by
  have hpos := recurrencePeriodMs_pos hcycle
  have hle : elapsedMilliseconds a base / cycle ≤ elapsedMilliseconds b base / cycle :=
    Int.ediv_le_ediv hpos (elapsedMilliseconds_mono hab.le base)
  by_contra hne
  have hlt := lt_of_le_of_ne hle hne
  -- the cycle of `b` starts after `a`, at an instant its first period contributes
  set n := elapsedMilliseconds b base / cycle with hn
  obtain ⟨first, hfirst, hzero⟩ := first_period_of_shape hshape
  have hmem : offsetMs base (n * cycle) ∈
      cycleInstants profile.chargingSchedule (offsetMs base (n * cycle)) := by
    refine List.mem_append_left _ (List.mem_map.mpr ⟨first, hfirst, ?_⟩)
    rw [hzero, zero_mul, offsetMs, offsetMs, zero_mul, add_zero]
  have hfirstCycle := Int.ediv_le_ediv hpos (numMilliseconds_le_elapsed hbase ha)
  have hlastCycle := Int.ediv_le_ediv hpos
    (elapsed_le_numMilliseconds (hbase.trans hab.le) hb)
  have hout : Outside a b (offsetMs base (n * cycle)) := by
    refine h.outside ha hb (mem_changeInstants_or (.inr (.inr (.inr ?_))))
    rw [hcycle]
    exact List.mem_flatMap.mpr ⟨n, mem_intRange.mpr (by omega), hmem⟩
  have hbefore : ((offsetMs base (n * cycle) : Int) : T) ≤ b :=
    le_elapsedMilliseconds.mp (Int.ediv_mul_le _ hpos.ne')
  have hafter : ¬ ((offsetMs base (n * cycle) : Int) : T) ≤ a := by
    rw [← le_elapsedMilliseconds, not_le]
    exact Int.lt_mul_of_ediv_lt hpos hlt
  exact hafter ((hout.le_iff hab).mpr hbefore)

/-- **Completeness of the change instants**: a span of the window that encloses none of them has
one period throughout. -/
theorem periodAt_constant [Float64 F] (hshape : shapeError profile = none) (ha : (start : T) ≤ a)
    (hb : b ≤ (stop : T)) (hab : a < b) (h : NoChange profile base start stop a b) :
    periodAt profile a base = periodAt profile b base := by
  have hcand : ∀ {c : Int}, _ → Outside a b c := fun hc =>
    h.outside ha hb (mem_changeInstants_or hc)
  have hvalid : isValidAt profile a = isValidAt profile b := by
    have hfrom : profile.validFrom.all (fun (c : Instant) => decide ((c : T) ≤ a)) =
        profile.validFrom.all (fun (c : Instant) => decide ((c : T) ≤ b)) := by
      cases hc : profile.validFrom with
      | none => rfl
      | some c =>
        have hout : Outside a b c := hcand (.inl (by rw [hc]; exact List.mem_singleton_self _))
        exact decide_eq_decide.mpr (hout.le_iff hab)
    have hto : profile.validTo.all (fun (c : Instant) => decide (a ≤ (c : T))) =
        profile.validTo.all (fun (c : Instant) => decide (b ≤ (c : T))) := by
      cases hc : profile.validTo with
      | none => rfl
      | some c =>
        have hout : Outside a b c :=
          hcand (.inr (.inl (by rw [hc]; exact List.mem_singleton_self _)))
        exact decide_eq_decide.mpr (hout.ge_iff hab)
    rw [isValidAt, isValidAt, hfrom, hto]
  have hbaseOut : Outside a b base := hcand (.inr (.inr (.inl rfl)))
  have hlt : decide (a < (base : T)) = decide (b < (base : T)) :=
    decide_eq_decide.mpr (hbaseOut.lt_iff hab)
  rw [periodAt, periodAt, hvalid, hlt]
  split
  · rfl
  next hactive =>
    have hbase : (base : T) ≤ a := by
      rw [← hlt] at hactive
      simp only [Bool.or_eq_true, decide_eq_true_eq, not_or, not_lt] at hactive
      exact hactive.2
    cases hcycle : recurrencePeriodMs profile with
    | none =>
      refine periodAfter_of_cycle base hab (fun c hc => hcand (.inr (.inr (.inr ?_))))
        (fun _ => le_elapsedMilliseconds) fun _ => le_elapsedMilliseconds
      rw [hcycle]
      exact hc
    | some cycle =>
      have hpos := recurrencePeriodMs_pos hcycle
      have hsame := same_cycle hshape hcycle ha hb hab hbase h
      have hfirstCycle := Int.ediv_le_ediv hpos (numMilliseconds_le_elapsed hbase ha)
      have hlastCycle := Int.ediv_le_ediv hpos
        (elapsed_le_numMilliseconds (hbase.trans hab.le) hb)
      refine periodAfter_of_cycle (offsetMs base (elapsedMilliseconds a base / cycle * cycle))
        hab (fun c hc => hcand (.inr (.inr (.inr ?_)))) (fun m => ?_) fun m => ?_
      · rw [hcycle]
        exact List.mem_flatMap.mpr ⟨_, mem_intRange.mpr (by omega), hc⟩
      · rw [offsetMs_offsetMs, Option.elim_some, le_elapsed_mod rfl, le_elapsedMilliseconds]
      · rw [offsetMs_offsetMs, Option.elim_some, le_elapsed_mod hsame.symm, le_elapsedMilliseconds]

end KirbyOcpp
