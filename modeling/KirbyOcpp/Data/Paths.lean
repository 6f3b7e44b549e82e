import Mathlib

/-!
# Invariants along paths

A transition relation, the predicates that its steps keep, and programs that refine it: a program
state is read as a state of the relation, and an operation is correct when its reading is a path.

**The rules**: an invariant of the steps is an invariant of the paths (`Preserves.path`), an invariant
may be assumed while a second one is shown to survive (`Preserves.and`), and paths compose along the
loops of a program (`path_foldl`).
-/

namespace KirbyOcpp.Paths

open Relation

variable {S C X : Type*} {R : S → S → Prop} {I J : S → Prop} {s t : S}

/-- `I` survives every step of `R`. -/
def Preserves (R : S → S → Prop) (I : S → Prop) : Prop := ∀ ⦃s t⦄, R s t → I s → I t

/-- What every step keeps, every path keeps. -/
theorem Preserves.path (h : Preserves R I) (path : ReflTransGen R s t) (hs : I s) : I t := by
  induction path with
  | refl => exact hs
  | tail _ step ih => exact h step ih

/-- An invariant may be used to show that another one survives. -/
theorem Preserves.and (hI : Preserves R I) (hJ : ∀ ⦃s t⦄, R s t → I s → J s → J t) :
    Preserves R fun s => I s ∧ J s := by
  intro s t step h
  exact ⟨hI step h.1, hJ step h.1 h.2⟩

/-- A loop whose rounds are paths is a path. -/
theorem path_foldl (read : C → S) {f : C → X → C} (xs : List X)
    (h : ∀ x ∈ xs, ∀ c, ReflTransGen R (read c) (read (f c x))) (c : C) :
    ReflTransGen R (read c) (read (xs.foldl f c)) := by
  induction xs generalizing c with
  | nil => exact .refl
  | cons x xs ih =>
    have first := h x (by simp) c
    exact first.trans (ih (fun y hy => h y (by simp [hy])) (f c x))

end KirbyOcpp.Paths
