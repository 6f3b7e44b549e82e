import Mathlib

/-!
# Consecutive pairs and sorted cuts

`windows l` lists the consecutive pairs of `l`. On a strictly increasing list they are the
stretches between neighbouring cuts: nothing of the list lies strictly inside one
(`windows_gap`). `sortDedup` makes a strictly increasing list of the same members.
-/

namespace KirbyOcpp

/-- Consecutive pairs of a list. -/
def windows {α : Type} : List α → List (α × α)
  | a :: b :: rest => (a, b) :: windows (b :: rest)
  | _ => []

/-- Sorts and removes duplicates. -/
def sortDedup (l : List Int) : List Int := (l.insertionSort (· ≤ ·)).dedup

theorem mem_of_mem_windows {α : Type} {pair : α × α} :
    ∀ {l : List α}, pair ∈ windows l → pair.1 ∈ l ∧ pair.2 ∈ l
  | [], h | [_], h => by cases h
  | a :: b :: rest, h => by
    rw [windows, List.mem_cons] at h
    rcases h with rfl | h
    · exact ⟨List.mem_cons_self, List.mem_cons_of_mem _ List.mem_cons_self⟩
    · obtain ⟨h1, h2⟩ := mem_of_mem_windows h
      exact ⟨List.mem_cons_of_mem _ h1, List.mem_cons_of_mem _ h2⟩

/-- A relation that holds on every window holds along the list. -/
theorem isChain_iff_windows {α : Type} {r : α → α → Prop} :
    ∀ {l : List α}, l.IsChain r ↔ ∀ pair ∈ windows l, r pair.1 pair.2
  | [] | [_] => by simp [windows]
  | a :: b :: rest => by
    rw [List.isChain_cons_cons, isChain_iff_windows (l := b :: rest)]
    simp only [windows, List.forall_mem_cons]

/-- In a strictly increasing list a window runs upwards. -/
theorem windows_lt {l : List Int} (h : l.Pairwise (· < ·)) {pair : Int × Int}
    (hp : pair ∈ windows l) : pair.1 < pair.2 :=
  isChain_iff_windows.mp h.isChain pair hp

/-- Nothing of a strictly increasing list lies strictly inside a window. -/
theorem windows_gap : ∀ {l : List Int}, l.Pairwise (· < ·) → ∀ {pair : Int × Int},
    pair ∈ windows l → ∀ c ∈ l, c ≤ pair.1 ∨ pair.2 ≤ c
  | [], _, _, h, _, _ | [_], _, _, h, _, _ => by cases h
  | a :: b :: rest, hl, pair, h, c, hc => by
    obtain ⟨ha, hrest⟩ := List.pairwise_cons.mp hl
    rw [windows, List.mem_cons] at h
    rcases h with rfl | h
    · rcases List.mem_cons.mp hc with rfl | hc
      · exact .inl (Int.le_refl _)
      · rcases List.mem_cons.mp hc with rfl | hc
        · exact .inr (Int.le_refl _)
        · exact .inr (Int.le_of_lt ((List.pairwise_cons.mp hrest).1 c hc))
    · rcases List.mem_cons.mp hc with rfl | hc
      · exact .inl (Int.le_of_lt (ha _ (mem_of_mem_windows h).1))
      · exact windows_gap hrest h c hc

theorem mem_sortDedup {l : List Int} {a : Int} : a ∈ sortDedup l ↔ a ∈ l := by
  rw [sortDedup, List.mem_dedup, List.mem_insertionSort]

theorem sortDedup_increasing (l : List Int) : (sortDedup l).Pairwise (· < ·) := by
  have hsorted : (sortDedup l).Pairwise (· ≤ ·) :=
    List.Pairwise.sublist (List.dedup_sublist _) (List.pairwise_insertionSort _ l)
  have hnodup : (sortDedup l).Pairwise (· ≠ ·) := List.nodup_dedup _
  exact (hsorted.and hnodup).imp fun hab => lt_of_le_of_ne hab.1 hab.2

/-- The least member of a strictly increasing list is its first one. -/
theorem cons_of_least {l : List Int} (hl : l.Pairwise (· < ·)) {a : Int} (ha : a ∈ l)
    (hleast : ∀ b ∈ l, a ≤ b) : ∃ rest, l = a :: rest := by
  cases l with
  | nil => cases ha
  | cons first rest =>
    rcases List.mem_cons.mp ha with rfl | hlater
    · exact ⟨rest, rfl⟩
    · have hlt := (List.pairwise_cons.mp hl).1 a hlater
      have hle := hleast first List.mem_cons_self
      omega

/-- The greatest member of a strictly increasing list is its last one. -/
theorem getLast_of_greatest {l : List Int} (hl : l.Pairwise (· < ·)) {a : Int} (ha : a ∈ l)
    (hgreatest : ∀ b ∈ l, b ≤ a) (hne : l ≠ []) : l.getLast hne = a := by
  have hle := hgreatest _ (List.getLast_mem hne)
  rcases eq_or_ne (l.getLast hne) a with heq | hneq
  · exact heq
  · have hfront : a ∈ l.dropLast := List.mem_dropLast_of_mem_of_ne_getLast ha hneq.symm
    rw [← List.dropLast_append_getLast hne] at hl
    have hlt := (List.pairwise_append.mp hl).2.2 a hfront _ (List.mem_singleton_self _)
    omega

/-- A sum over the windows whose terms lie between zero and `c` times the window's length lies
between zero and `c` times the length of the whole. -/
theorem windows_sum_bounds {f : Int × Int → ℚ} {c : ℚ} :
    ∀ (a : Int) (rest : List Int),
      (∀ pair ∈ windows (a :: rest), 0 ≤ f pair ∧ f pair ≤ c * ((pair.2 : ℚ) - pair.1)) →
      0 ≤ ((windows (a :: rest)).map f).sum ∧
        ((windows (a :: rest)).map f).sum ≤
          c * (((a :: rest).getLast (List.cons_ne_nil _ _) : ℚ) - a)
  | a, [], _ => by
    simp only [windows, List.map_nil, List.sum_nil, List.getLast_singleton, sub_self, mul_zero,
      le_refl, and_self]
  | a, b :: rest, h => by
    obtain ⟨hnonneg, hle⟩ := windows_sum_bounds b rest fun pair hp => h pair (List.mem_cons_of_mem _ hp)
    obtain ⟨hnonneg', hle'⟩ := h (a, b) List.mem_cons_self
    rw [List.getLast_cons (List.cons_ne_nil b rest)]
    simp only [windows, List.map_cons, List.sum_cons]
    constructor
    · exact add_nonneg hnonneg' hnonneg
    · calc f (a, b) + ((windows (b :: rest)).map f).sum
          ≤ c * ((b : ℚ) - a) +
              c * (((b :: rest).getLast (List.cons_ne_nil _ _) : ℚ) - b) := add_le_add hle' hle
        _ = c * (((b :: rest).getLast (List.cons_ne_nil _ _) : ℚ) - a) := by ring

end KirbyOcpp
