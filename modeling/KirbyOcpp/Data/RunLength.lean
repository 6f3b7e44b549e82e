import Mathlib

/-!
# Run-length lists over an integer axis

A list of pieces, each with a start on the integer axis and a value, is read as a step function:
at a point, the last piece that has started. `pushRun` appends a piece unless it repeats the value
of the last one, so folding it over a list merges equal neighbours.

**The law** (`inForce_runs`): merging changes no reading. With `inForce_of_samples`, a list that
samples a function wherever the function can change reads back as the function itself, and merging
keeps it so. `runs_adjacent` says that no two neighbours of a merged list agree.
-/

namespace KirbyOcpp.RunLength

variable {P V : Type} (start : P → Int) (value : P → V)

/-- The last piece that has started at `k`. -/
def inForce (k : Int) (pieces : List P) : Option P :=
  (pieces.filter fun p => start p ≤ k).getLast?

/-- Pieces in strictly increasing order of their starts. -/
def Ordered (pieces : List P) : Prop := pieces.Pairwise fun a b => start a < start b

/-- Appends `p` unless the last piece already has its value. -/
def pushRun [DecidableEq V] (acc : List P) (p : P) : List P :=
  if acc.getLast?.map value = some (value p) then acc else acc ++ [p]

/-- Merges equal neighbours. -/
def runs [DecidableEq V] (pieces : List P) : List P := pieces.foldl (pushRun value) []

/-! ## Reading a list of pieces -/

theorem inForce_append_started {pieces : List P} {p : P} {k : Int} (h : start p ≤ k) :
    inForce start k (pieces ++ [p]) = some p := by
  simp only [inForce, List.filter_append, List.filter_cons, h, decide_true, if_true,
    List.filter_nil, List.getLast?_append, List.getLast?_singleton, Option.some_or]

theorem inForce_append_later {pieces : List P} {p : P} {k : Int} (h : k < start p) :
    inForce start k (pieces ++ [p]) = inForce start k pieces := by
  have hp : ¬ start p ≤ k := by omega
  simp only [inForce, List.filter_append, List.filter_cons, hp, decide_false, Bool.false_eq_true,
    if_false, List.filter_nil, List.append_nil]

/-- When every piece has started, the last one is in force. -/
theorem inForce_all_started {pieces : List P} {k : Int} (h : ∀ p ∈ pieces, start p ≤ k) :
    inForce start k pieces = pieces.getLast? := by
  rw [inForce, List.filter_eq_self.mpr]
  intro p hp
  exact decide_eq_true (h p hp)

theorem inForce_mem {pieces : List P} {k : Int} {p : P} (h : inForce start k pieces = some p) :
    p ∈ pieces ∧ start p ≤ k := by
  have hmem := List.mem_of_getLast? h
  rw [List.mem_filter] at hmem
  exact ⟨hmem.1, of_decide_eq_true hmem.2⟩

/-- In an ordered list no other started piece comes after the one in force. -/
theorem inForce_latest {pieces : List P} (hord : Ordered start pieces) {k : Int} {p q : P}
    (hp : inForce start k pieces = some p) (hq : q ∈ pieces) (hqk : start q ≤ k) :
    start q ≤ start p := by
  induction pieces using List.reverseRecOn with
  | nil => cases hq
  | append_singleton pieces last ih =>
    have hsplit := List.pairwise_append.mp hord
    by_cases hlast : start last ≤ k
    · rw [inForce_append_started start hlast] at hp
      cases hp
      rcases List.mem_append.mp hq with hq | hq
      · exact le_of_lt (hsplit.2.2 q hq _ (List.mem_singleton_self _))
      · rw [List.mem_singleton.mp hq]
    · rw [inForce_append_later start (by omega)] at hp
      rcases List.mem_append.mp hq with hq | hq
      · exact ih hsplit.1 hp hq
      · rw [List.mem_singleton.mp hq] at hqk
        exact absurd hqk hlast

/-- A list whose first piece has started has a piece in force. -/
theorem inForce_isSome {first : P} (rest : List P) {k : Int} (h : start first ≤ k) :
    ∃ p, inForce start k (first :: rest) = some p := by
  have hne : (first :: rest).filter (fun p => start p ≤ k) ≠ [] :=
    List.ne_nil_of_mem (List.mem_filter.mpr ⟨List.mem_cons_self, decide_eq_true h⟩)
  exact ⟨_, List.getLast?_eq_some_getLast hne⟩

/-- Cutting an ordered list leaves the readings before the first cut piece as they were. -/
theorem inForce_take {pieces : List P} (hord : Ordered start pieces) {n : Nat} {cut : P}
    (hcut : pieces[n]? = some cut) {k : Int} (hk : k < start cut) :
    inForce start k (pieces.take n) = inForce start k pieces := by
  have hdrop : (pieces.drop n).filter (fun p => start p ≤ k) = [] := by
    rw [List.filter_eq_nil_iff]
    intro p hp
    obtain ⟨hn, rfl⟩ := List.getElem?_eq_some_iff.mp hcut
    rw [List.drop_eq_getElem_cons hn] at hp
    have hge : start pieces[n] ≤ start p := by
      have hsub : (pieces.drop n).Pairwise fun a b => start a < start b :=
        List.Pairwise.sublist (List.drop_sublist n pieces) hord
      rw [List.drop_eq_getElem_cons hn] at hsub
      rcases List.mem_cons.mp hp with rfl | hp
      · exact le_refl _
      · exact le_of_lt ((List.pairwise_cons.mp hsub).1 p hp)
    simp only [decide_eq_true_eq, not_le]
    omega
  conv_rhs => rw [inForce, ← List.take_append_drop n pieces, List.filter_append, hdrop,
    List.append_nil]
  rfl

/-- In an ordered list, everything before a piece has started just before it does. -/
theorem inForce_before {pieces : List P} (hord : Ordered start pieces) {n : Nat} {cut : P}
    (hcut : pieces[n]? = some cut) :
    inForce start (start cut - 1) pieces = (pieces.take n).getLast? := by
  rw [← inForce_take start hord hcut (by omega)]
  refine inForce_all_started start fun p hp => ?_
  obtain ⟨hn, rfl⟩ := List.getElem?_eq_some_iff.mp hcut
  rw [Ordered, ← List.take_append_drop n pieces] at hord
  have hlater : pieces[n] ∈ pieces.drop n := by
    rw [List.drop_eq_getElem_cons hn]
    exact List.mem_cons_self
  have := (List.pairwise_append.mp hord).2.2 p hp _ hlater
  omega

/-! ## Merging -/

variable [DecidableEq V]

theorem runs_append (pieces : List P) (p : P) :
    runs value (pieces ++ [p]) = pushRun value (runs value pieces) p := by
  simp only [runs, List.foldl_append, List.foldl_cons, List.foldl_nil]

theorem pushRun_sublist {acc pieces : List P} (h : acc.Sublist pieces) (p : P) :
    (pushRun value acc p).Sublist (pieces ++ [p]) := by
  unfold pushRun
  split
  · exact h.trans (List.sublist_append_left _ _)
  · exact h.append (List.Sublist.refl _)

theorem runs_sublist (pieces : List P) : (runs value pieces).Sublist pieces := by
  induction pieces using List.reverseRecOn with
  | nil => exact List.Sublist.refl _
  | append_singleton pieces p ih =>
    rw [runs_append]
    exact pushRun_sublist value ih p

theorem runs_ordered {pieces : List P} (h : Ordered start pieces) :
    Ordered start (runs value pieces) :=
  List.Pairwise.sublist (runs_sublist value pieces) h

/-- A merged list starts with the first piece. -/
theorem runs_head (first : P) (rest : List P) : (runs value (first :: rest)).head? = some first := by
  induction rest using List.reverseRecOn with
  | nil => rfl
  | append_singleton rest p ih =>
    rw [← List.cons_append, runs_append, pushRun]
    split
    · exact ih
    · rw [List.head?_append, ih, Option.some_or]

/-- No two neighbours of a merged list have the same value. -/
theorem runs_adjacent (pieces : List P) :
    (runs value pieces).IsChain fun a b => value a ≠ value b := by
  induction pieces using List.reverseRecOn with
  | nil => exact List.IsChain.nil
  | append_singleton pieces p ih =>
    rw [runs_append, pushRun]
    split
    · exact ih
    next hlast =>
      refine List.isChain_append.mpr ⟨ih, List.IsChain.singleton _, ?_⟩
      intro a ha b hb hab
      rw [List.head?_cons, Option.mem_some_iff] at hb
      rw [Option.mem_def] at ha
      rw [ha, Option.map_some, hab, hb] at hlast
      exact hlast rfl

/-- The piece before a piece of a merged list has another value. -/
theorem runs_before {pieces : List P} {n : Nat} {cut prev : P}
    (hcut : (runs value pieces)[n]? = some cut)
    (hprev : ((runs value pieces).take n).getLast? = some prev) : value prev ≠ value cut := by
  have hchain := runs_adjacent value pieces
  rw [← List.take_append_drop n (runs value pieces), List.isChain_append] at hchain
  refine hchain.2.2 prev hprev cut ?_
  rw [List.head?_drop]
  exact hcut

/-- **Merging changes no reading.** -/
theorem inForce_runs {pieces : List P} (hord : Ordered start pieces) (k : Int) :
    (inForce start k (runs value pieces)).map value = (inForce start k pieces).map value := by
  induction pieces using List.reverseRecOn with
  | nil => rfl
  | append_singleton pieces p ih =>
    have hsplit := List.pairwise_append.mp hord
    have ih := ih hsplit.1
    rw [runs_append, pushRun]
    by_cases hp : start p ≤ k
    · rw [inForce_append_started start hp]
      split
      next hlast =>
        -- every earlier piece has started, so the last one kept is in force
        rw [inForce_all_started start, hlast, Option.map_some]
        intro q hq
        have hmem := (runs_sublist value pieces).subset hq
        exact le_trans (le_of_lt (hsplit.2.2 q hmem p (List.mem_singleton_self p))) hp
      · rw [inForce_append_started start hp]
    · have hp : k < start p := by omega
      rw [inForce_append_later start hp]
      split
      · exact ih
      · rw [inForce_append_later start hp, ih]

/-! ## Samples of a function -/

omit [DecidableEq V]

/-- A function that is constant from `a` on to `b`. -/
theorem constant_between {f : Int → V} {a b : Int} (hab : a ≤ b)
    (h : ∀ k, a < k → k ≤ b → f k = f (k - 1)) : f b = f a := by
  induction b, hab using Int.leInduction with
  | base => rfl
  | succ n hn ih =>
    have hstep := h (n + 1) (by omega) le_rfl
    rw [add_sub_cancel_right] at hstep
    exact hstep.trans (ih fun k h1 h2 => h k h1 (by omega))

/-- Pieces that sample `f` at their starts read back as `f`, when `f` changes only at starts. -/
theorem inForce_of_samples {f : Int → V} {first : P} {rest : List P} {stop : Int}
    (hord : Ordered start (first :: rest))
    (hvalue : ∀ p ∈ first :: rest, value p = f (start p))
    (hchange : ∀ k, start first < k → k < stop → (∀ p ∈ first :: rest, start p ≠ k) →
      f k = f (k - 1))
    {k : Int} (hk : start first ≤ k) (hstop : k < stop) :
    (inForce start k (first :: rest)).map value = some (f k) := by
  obtain ⟨p, hp⟩ := inForce_isSome start rest hk
  obtain ⟨hmem, hpk⟩ := inForce_mem start hp
  have hfirst : start first ≤ start p := inForce_latest start hord hp List.mem_cons_self hk
  rw [hp, Option.map_some, hvalue p hmem]
  refine congrArg some (constant_between hpk fun j hj hjk => ?_).symm
  refine hchange j (by omega) (by omega) fun q hq hqj => ?_
  have hlate := inForce_latest start hord hp hq (by omega)
  omega

end KirbyOcpp.RunLength
