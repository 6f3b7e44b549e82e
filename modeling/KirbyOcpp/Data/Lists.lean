import Mathlib

/-!
# Lists related element by element

Composition of element-wise relations, and lookups in related lists: when related elements agree on
the test, the lookups find related elements. A list without repeated keys keeps them distinct under
replacement. A property that a fold loses is lost at one element. The best element of a list is found by one pass, the first or the last among equals.
-/

namespace KirbyOcpp.Lists

variable {A B : Type*} {R : A → A → Prop} {S : A → B → Prop} {p : A → Bool} {q : B → Bool}

theorem forall₂_trans (trans : ∀ {a b c}, R a b → R b c → R a c) {xs ys zs : List A}
    (h : List.Forall₂ R xs ys) (h' : List.Forall₂ R ys zs) : List.Forall₂ R xs zs := by
  induction h generalizing zs with
  | nil => exact h'
  | cons head _ ih =>
    cases h' with
    | cons head' tail' => exact .cons (trans head head') (ih tail')

theorem forall₂_find?_some (agree : ∀ a b, S a b → q b = p a) {xs : List A} {ys : List B}
    (h : List.Forall₂ S xs ys) {a : A} (found : xs.find? p = some a) :
    ∃ b, ys.find? q = some b ∧ S a b := by
  induction h with
  | nil => cases found
  | @cons x y xs ys head _ ih =>
    rw [List.find?_cons] at found ⊢
    rw [agree x y head]
    split at found
    · obtain rfl : x = a := by simpa using found
      exact ⟨y, rfl, head⟩
    · exact ih found

/-- What a map that keeps the test finds. -/
theorem find?_map_keeps {f : A → B} (keeps : ∀ a, q (f a) = p a) (xs : List A) :
    (xs.map f).find? q = (xs.find? p).map f := by
  have same : q ∘ f = p := funext keeps
  rw [List.find?_map, same]

theorem length_flatMap_le {f g : A → List B} {xs : List A} (le : ∀ x ∈ xs, (f x).length ≤ (g x).length) :
    (xs.flatMap f).length ≤ (xs.flatMap g).length := by
  induction xs with
  | nil => exact Nat.le_refl _
  | cons x xs ih =>
    obtain ⟨here, later⟩ := List.forall_mem_cons.mp le
    rw [List.flatMap_cons, List.flatMap_cons, List.length_append, List.length_append]
    exact Nat.add_le_add here (ih later)

/-- Two concatenations that agree, of which no piece of the one is longer than that of the other, agree piece
by piece. -/
theorem eq_of_flatMap_eq {f g : A → List B} {xs : List A} (le : ∀ x ∈ xs, (f x).length ≤ (g x).length)
    (eq : xs.flatMap f = xs.flatMap g) : ∀ x ∈ xs, f x = g x := by
  induction xs with
  | nil => exact fun x none => absurd none List.not_mem_nil
  | cons x xs ih =>
    obtain ⟨here, later⟩ := List.forall_mem_cons.mp le
    rw [List.flatMap_cons, List.flatMap_cons] at eq
    have total := congrArg List.length eq
    rw [List.length_append, List.length_append] at total
    have rest := length_flatMap_le later
    obtain ⟨head, tail⟩ := List.append_inj eq (by omega)
    exact List.forall_mem_cons.mpr ⟨head, ih later tail⟩

theorem exists_of_forall₂_right {xs : List A} {ys : List B} (h : List.Forall₂ S xs ys) {b : B}
    (mem : b ∈ ys) : ∃ a ∈ xs, S a b := by
  induction h with
  | nil => cases mem
  | @cons x y xs ys head _ ih =>
    rcases List.mem_cons.mp mem with rfl | tail
    · exact ⟨x, List.mem_cons_self, head⟩
    · obtain ⟨a, inXs, related⟩ := ih tail
      exact ⟨a, List.mem_cons_of_mem _ inXs, related⟩

/-- A list without repeated keys stays so when an element takes the place of those with its key. -/
theorem nodup_map_filter_append {K : Type*} {key : A → K} {keep : A → Bool} {xs : List A} {y : A}
    (h : (xs.map key).Nodup) (fresh : ∀ x ∈ xs, keep x = true → key x ≠ key y) :
    ((xs.filter keep ++ [y]).map key).Nodup := by
  rw [List.map_append, List.nodup_append]
  refine ⟨h.sublist (List.filter_sublist.map key), by simp, ?_⟩
  intro k mem k' mem'
  obtain ⟨x, kept, rfl⟩ := List.mem_map.mp mem
  obtain ⟨inXs, keeps⟩ := List.mem_filter.mp kept
  have last : k' = key y := by simpa using mem'
  exact last ▸ fresh x inXs keeps

/-- Distinct keys make an element the only one with its key. -/
theorem eq_of_nodup_map {K : Type*} {key : A → K} {xs : List A} (h : (xs.map key).Nodup) {x y : A}
    (hx : x ∈ xs) (hy : y ∈ xs) (same : key x = key y) : x = y :=
  List.inj_on_of_nodup_map h hx hy same

/-- A property that a fold loses is lost at one element. -/
theorem foldl_loses {S : Type*} {f : S → A → S} {P : S → Prop} (xs : List A) {s : S} (holds : P s)
    (lost : ¬P (xs.foldl f s)) : ∃ front x back, xs = front ++ x :: back ∧ P (front.foldl f s) ∧
      ¬P (f (front.foldl f s) x) := by
  induction xs generalizing s with
  | nil => exact absurd holds lost
  | cons x xs ih =>
    by_cases next : P (f s x)
    · obtain ⟨front, y, back, rfl, before, gone⟩ := ih next lost
      exact ⟨x :: front, y, back, rfl, before, gone⟩
    · exact ⟨[], x, xs, rfl, holds, next⟩

theorem getElem?_concat_cases {xs : List A} {x y : A} {i : Nat} (found : (xs ++ [x])[i]? = some y) :
    xs[i]? = some y ∨ i = xs.length ∧ y = x := by
  rcases Nat.lt_or_ge i xs.length with below | above
  · exact .inl (by rwa [List.getElem?_append_left below] at found)
  · rw [List.getElem?_append_right above, List.getElem?_singleton] at found
    obtain ⟨last, same⟩ := Option.ite_none_right_eq_some.mp found
    exact .inr ⟨by omega, (Option.some.inj same).symm⟩

/-! ## Two lists in step

A list as long as another one loses the elements at its front that the other one loses. -/

theorem rtake_length_drop {xs : List A} {ys : List B} (same : xs.length = ys.length) (n : Nat) :
    xs.rtake (ys.drop n).length = xs.drop n := by
  rw [List.rtake, List.length_drop, ← same]
  rcases Nat.le_total n xs.length with le | ge
  · rw [Nat.sub_sub_self le]
  · rw [Nat.sub_eq_zero_of_le ge, Nat.sub_zero, List.drop_length, List.drop_of_length_le ge]

theorem rdrop_length_drop {xs : List A} {ys : List B} (same : xs.length = ys.length) (n : Nat) :
    xs.rdrop (ys.drop n).length = xs.take n := by
  rw [List.rdrop, List.length_drop, ← same]
  rcases Nat.le_total n xs.length with le | ge
  · rw [Nat.sub_sub_self le]
  · rw [Nat.sub_eq_zero_of_le ge, Nat.sub_zero, List.take_length, List.take_of_length_le ge]

/-! ## The best of a list -/

section Best

variable (ge : A → A → Bool)

/-- The better of the best so far and the next element; the earlier one wins a tie. -/
def keepBest (best : Option A) (next : A) : A :=
  match best with
  | some best => if ge best next then best else next
  | none => next

/-- The best element of a list, the first among equals. -/
def bestOf (xs : List A) : Option A := xs.foldl (fun best next => some (keepBest ge best next)) none

theorem bestOf_append_singleton (xs : List A) (x : A) :
    bestOf ge (xs ++ [x]) = some (keepBest ge (bestOf ge xs) x) := by
  simp [bestOf, List.foldl_append]

@[simp]
theorem bestOf_eq_none {xs : List A} : bestOf ge xs = none ↔ xs = [] := by
  induction xs using List.reverseRecOn with
  | nil => simp [bestOf]
  | append_singleton xs x => simp [bestOf_append_singleton]

variable {ge}

theorem bestOf_mem {xs : List A} {b : A} (h : bestOf ge xs = some b) : b ∈ xs := by
  induction xs using List.reverseRecOn generalizing b with
  | nil => cases h
  | append_singleton xs x ih =>
    rw [bestOf_append_singleton, Option.some.injEq] at h
    subst h
    unfold keepBest
    split
    case h_1 best found =>
      split
      · exact List.mem_append_left _ (ih found)
      · exact List.mem_append_right _ (List.mem_singleton_self x)
    case h_2 => exact List.mem_append_right _ (List.mem_singleton_self x)

/-- Nothing in the list beats the best of it. -/
theorem bestOf_ge (refl : ∀ a, ge a a = true) (total : ∀ {a b}, ge a b = false → ge b a = true)
    (trans : ∀ {a b c}, ge a b = true → ge b c = true → ge a c = true) {xs : List A} {b : A}
    (h : bestOf ge xs = some b) : ∀ x ∈ xs, ge b x = true := by
  induction xs using List.reverseRecOn generalizing b with
  | nil => cases h
  | append_singleton xs y ih =>
    rw [bestOf_append_singleton, Option.some.injEq] at h
    subst h
    intro x mem
    unfold keepBest
    split
    case h_1 best found =>
      have atop := ih found
      by_cases wins : ge best y = true
      · rw [if_pos wins]
        rcases List.mem_append.mp mem with old | new
        · exact atop x old
        · exact List.mem_singleton.mp new ▸ wins
      · rw [if_neg wins]
        have beaten := total (Bool.not_eq_true _ ▸ wins)
        rcases List.mem_append.mp mem with old | new
        · exact trans beaten (atop x old)
        · exact List.mem_singleton.mp new ▸ refl y
    case h_2 found =>
      obtain rfl := (bestOf_eq_none ge).mp found
      obtain rfl := List.mem_singleton.mp mem
      exact refl x

end Best

/-! ## The greatest key of a list -/

section Latest

variable {K : Type*} [LinearOrder K] (key : A → Option K)

/-- The element with the greater key of the best so far and the next element; the later one wins a tie, and an
element without a key takes no part. -/
def keepLatest (best : Option (K × A)) (next : A) : Option (K × A) :=
  match key next with
  | none => best
  | some k =>
    match best with
    | none => some (k, next)
    | some (top, a) => if k < top then some (top, a) else some (k, next)

/-- The element with the greatest key, the last among equals, with its key. -/
def latest (xs : List A) : Option (K × A) := xs.foldl (keepLatest key) none

theorem latest_append_singleton (xs : List A) (x : A) :
    latest key (xs ++ [x]) = keepLatest key (latest key xs) x := by
  simp [latest, List.foldl_append]

variable {key}

/-- `best` holds the greatest key of `xs` and an element with this key. -/
def HasGreatest (key : A → Option K) (xs : List A) (best : Option (K × A)) : Prop :=
  match best with
  | none => ∀ x ∈ xs, key x = none
  | some (k, a) => a ∈ xs ∧ key a = some k ∧ ∀ x ∈ xs, ∀ k', key x = some k' → k' ≤ k

theorem HasGreatest.keepLatest {xs : List A} {best : Option (K × A)} (h : HasGreatest key xs best) (y : A) :
    HasGreatest key (xs ++ [y]) (keepLatest key best y) := by
  have either {x : A} (mem : x ∈ xs ++ [y]) : x ∈ xs ∨ x = y := by simpa using mem
  unfold Lists.keepLatest
  cases keyed : key y with
  | none =>
    cases best with
    | none =>
      intro x mem
      rcases either mem with old | rfl
      · exact h x old
      · exact keyed
    | some pair =>
      obtain ⟨mem, own, top⟩ := h
      refine ⟨List.mem_append_left _ mem, own, fun x mem k' keyed' => ?_⟩
      rcases either mem with old | rfl
      · exact top x old k' keyed'
      · rw [keyed] at keyed'
        cases keyed'
  | some k =>
    have last (below : ∀ x ∈ xs, ∀ k', key x = some k' → k' ≤ k) : HasGreatest key (xs ++ [y]) (some (k, y)) := by
      refine ⟨by simp, keyed, fun x mem k' keyed' => ?_⟩
      rcases either mem with old | rfl
      · exact below x old k' keyed'
      · rw [keyed] at keyed'
        exact (Option.some.inj keyed').ge
    cases best with
    | none =>
      refine last fun x mem k' keyed' => ?_
      rw [h x mem] at keyed'
      cases keyed'
    | some pair =>
      obtain ⟨mem, own, top⟩ := h
      dsimp only
      split
      · rename_i less
        refine ⟨List.mem_append_left _ mem, own, fun x mem k' keyed' => ?_⟩
        rcases either mem with old | rfl
        · exact top x old k' keyed'
        · rw [keyed] at keyed'
          exact (Option.some.inj keyed') ▸ less.le
      · rename_i notLess
        exact last fun x mem k' keyed' => (top x mem k' keyed').trans (not_lt.mp notLess)

/-- The pass finds the greatest key. -/
theorem latest_greatest (key : A → Option K) (xs : List A) : HasGreatest key xs (latest key xs) := by
  induction xs using List.reverseRecOn with
  | nil => exact nofun
  | append_singleton xs x ih =>
    rw [latest_append_singleton]
    exact ih.keepLatest x

/-- An element with the greatest key wins from the last place. -/
theorem latest_append_greatest {xs : List A} {a : A} {k : K} (own : key a = some k)
    (top : ∀ x ∈ xs, ∀ k', key x = some k' → k' ≤ k) : latest key (xs ++ [a]) = some (k, a) := by
  rw [latest_append_singleton]
  unfold keepLatest
  rw [own]
  have greatest := latest_greatest key xs
  cases best : latest key xs with
  | none => rfl
  | some pair =>
    rw [best] at greatest
    obtain ⟨mem, keyed, -⟩ := greatest
    exact if_neg (not_lt.mpr (top _ mem _ keyed))

end Latest

end KirbyOcpp.Lists
