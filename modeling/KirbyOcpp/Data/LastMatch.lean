import Mathlib

/-!
# The last element that passes a test

A list is searched from its end and the element found is changed in place; elements are removed from the
front. Both commute with a projection that carries the test.
-/

namespace KirbyOcpp.LastMatch

variable {A B : Type*}

/-- The last element that passes. -/
def last (p : A → Bool) (xs : List A) : Option A := xs.reverse.find? p

/-- The list with the last element that passes changed; none if no element passes. -/
def update (p : A → Bool) (f : A → A) : List A → Option (List A)
  | [] => none
  | x :: xs =>
    match update p f xs with
    | some ys => some (x :: ys)
    | none => if p x then some (f x :: xs) else none

variable {p : A → Bool} {f : A → A}

theorem update_eq_none {xs : List A} : update p f xs = none ↔ ∀ x ∈ xs, p x = false := by
  induction xs with
  | nil => simp [update]
  | cons x xs ih =>
    unfold update
    cases rest : update p f xs with
    | some ys =>
      refine iff_of_false (fun found => nomatch found) fun all => ?_
      have := ih.mpr fun y mem => all y (List.mem_cons_of_mem _ mem)
      exact absurd (rest.symm.trans this) (fun eq => nomatch eq)
    | none =>
      have tail := ih.mp rest
      by_cases here : p x = true
      · simp [here]
      · rw [if_neg here]
        refine iff_of_true rfl fun y mem => ?_
        rcases List.mem_cons.mp mem with rfl | mem
        · exact eq_false_of_ne_true here
        · exact tail y mem

/-- What an update does: it changes one element that passes, and none passes after it. -/
theorem update_eq_some {xs ys : List A} (found : update p f xs = some ys) :
    ∃ front x back, xs = front ++ x :: back ∧ p x = true ∧ (∀ y ∈ back, p y = false) ∧
      ys = front ++ f x :: back := by
  induction xs generalizing ys with
  | nil => cases found
  | cons x xs ih =>
    unfold update at found
    cases rest : update p f xs with
    | some zs =>
      rw [rest] at found
      obtain ⟨front, y, back, rfl, pass, none, rfl⟩ := ih rest
      cases found
      exact ⟨x :: front, y, back, rfl, pass, none, rfl⟩
    | none =>
      rw [rest] at found
      dsimp only at found
      split at found
      · next pass =>
        cases found
        exact ⟨[], x, xs, rfl, pass, update_eq_none.mp rest, rfl⟩
      · cases found

theorem update_append {front back : List A} {x : A} (pass : p x = true) (none : ∀ y ∈ back, p y = false) :
    update p f (front ++ x :: back) = some (front ++ f x :: back) := by
  induction front with
  | nil =>
    rw [List.nil_append, update, update_eq_none.mpr none]
    simp [pass]
  | cons y front ih => rw [List.cons_append, update, ih]; rfl

theorem last_append {front back : List A} {x : A} (pass : p x = true) (none : ∀ y ∈ back, p y = false) :
    last p (front ++ x :: back) = some x := by
  unfold last
  rw [List.reverse_append, List.reverse_cons, List.append_assoc, List.find?_append,
    List.find?_eq_none.mpr (by simpa using none), Option.none_or]
  exact List.find?_cons_of_pos pass

theorem last_eq_none {xs : List A} : last p xs = none ↔ ∀ x ∈ xs, p x = false := by
  unfold last
  rw [List.find?_eq_none]
  simp

/-- Where the search ends: at the one element that passes with none after it. -/
theorem last_eq_some_iff {xs : List A} {x : A} :
    last p xs = some x ↔ ∃ front back, xs = front ++ x :: back ∧ p x = true ∧ ∀ y ∈ back, p y = false := by
  constructor
  · intro found
    unfold last at found
    obtain ⟨pass, before, after, turned, none⟩ := List.find?_eq_some_iff_append.mp found
    refine ⟨after.reverse, before.reverse, ?_, pass, fun y mem => ?_⟩
    · have := congrArg List.reverse turned
      simpa using this
    · simpa using none y (List.mem_reverse.mp mem)
  · rintro ⟨front, back, rfl, pass, none⟩
    exact last_append pass none

/-- A search through what is left of a list. -/
theorem last_cons (x : A) (xs : List A) : last p (x :: xs) = (last p xs).or (if p x then some x else none) := by
  unfold last
  rw [List.reverse_cons, List.find?_append]
  cases h : p x <;> simp [h]

/-- An update seen through a projection. -/
theorem update_map {g : A → B} {q : B → Bool} {h : B → B} (test : ∀ x, q (g x) = p x)
    (change : ∀ x, g (f x) = h (g x)) (xs : List A) :
    update q h (xs.map g) = (update p f xs).map (List.map g) := by
  induction xs with
  | nil => rfl
  | cons x xs ih =>
    rw [List.map_cons, update, update, ih]
    cases update p f xs with
    | some ys => rfl
    | none =>
      simp only [Option.map_none, test]
      split
      · rw [Option.map_some, List.map_cons, change]
      · rfl

end KirbyOcpp.LastMatch
