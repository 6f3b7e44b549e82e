import KirbyOcpp.Data.Windows

/-!
# Integrals of step functions

A function that is constant on the inside of every stretch between consecutive cuts integrates to
the sum of its values times the lengths. Its values at the cuts themselves do not matter.
-/

namespace KirbyOcpp

open MeasureTheory intervalIntegral

/-- On one stretch: a function constant on the open interval is integrable, with the value times
the length as its integral. -/
theorem integral_constant_inside {g : ℝ → ℝ} {a b v : ℝ} (hab : a ≤ b)
    (h : ∀ x ∈ Set.Ioo a b, g x = v) :
    IntervalIntegrable g volume a b ∧ ∫ x in a..b, g x = v * (b - a) := by
  have hae : g =ᵐ[volume.restrict (Set.Ioc a b)] fun _ => v := by
    rw [← Measure.restrict_congr_set Ioo_ae_eq_Ioc]
    exact (ae_restrict_iff' measurableSet_Ioo).mpr (Filter.Eventually.of_forall h)
  constructor
  · rw [intervalIntegrable_iff_integrableOn_Ioc_of_le hab]
    exact (integrable_congr hae).mpr (integrable_const v)
  · rw [integral_of_le hab, integral_congr_ae hae, ← integral_of_le hab, intervalIntegral.integral_const,
      smul_eq_mul, mul_comm]

/-- **The integral over all stretches.** -/
theorem integral_steps {g : ℝ → ℝ} {value : Int × Int → ℝ} :
    ∀ {a : Int} {rest : List Int}, (a :: rest).Pairwise (· < ·) →
      (∀ pair ∈ windows (a :: rest), ∀ x ∈ Set.Ioo (pair.1 : ℝ) pair.2, g x = value pair) →
      IntervalIntegrable g volume a ((a :: rest).getLast (List.cons_ne_nil _ _)) ∧
        ∫ x in (a : ℝ)..((a :: rest).getLast (List.cons_ne_nil _ _) : Int), g x =
          ((windows (a :: rest)).map fun pair => value pair * ((pair.2 : ℝ) - pair.1)).sum
  | a, [], _, _ => by
    simp only [List.getLast_singleton, intervalIntegral.integral_same, windows, List.map_nil,
      List.sum_nil, and_true]
    exact IntervalIntegrable.refl
  | a, b :: rest, hl, h => by
    have hab : a < b := (List.pairwise_cons.mp hl).1 b List.mem_cons_self
    have hfirst := integral_constant_inside (le_of_lt (Int.cast_lt.mpr hab))
      (h (a, b) List.mem_cons_self)
    have hrest := integral_steps (List.pairwise_cons.mp hl).2
      fun pair hp => h pair (List.mem_cons_of_mem _ hp)
    rw [List.getLast_cons (List.cons_ne_nil b rest)]
    refine ⟨hfirst.1.trans hrest.1, ?_⟩
    rw [← integral_add_adjacent_intervals hfirst.1 hrest.1, hfirst.2, hrest.2, windows,
      List.map_cons, List.sum_cons]

end KirbyOcpp
