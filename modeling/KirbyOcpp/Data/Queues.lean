import Mathlib

/-!
# A family of queues

One first-in-first-out queue a key. Values are pushed behind, taken from the front one at a time, and a
queue may be dropped as a whole.

**The law** `run_conserves`: over any sequence of operations that does not drop a queue, what was in it and what
was pushed since is what was taken, in the same order, and what is left. Nothing is lost, doubled or overtaken,
and no queue sees what is done to another.
-/

namespace KirbyOcpp.Queues

variable {K V : Type*} [DecidableEq K]

/-- The queue of each key, its front first. -/
abbrev State (K V : Type*) := K → List V

inductive Op (K V : Type*) where
  | push (key : K) (values : List V)
  | pop (key : K)
  | drop (key : K)

def step (s : State K V) : Op K V → State K V
  | .push key values => Function.update s key (s key ++ values)
  | .pop key => Function.update s key (s key).tail
  | .drop key => Function.update s key []

def run (ops : List (Op K V)) (s : State K V) : State K V := ops.foldl step s

/-- What the operation pushes into the queue of `key`. -/
def Op.pushed (key : K) : Op K V → List V
  | push other values => if other = key then values else []
  | _ => []

/-- What the operation takes from the queue of `key`. -/
def Op.taken (key : K) (s : State K V) : Op K V → List V
  | pop other => if other = key then (s key).take 1 else []
  | _ => []

/-- What was pushed into the queue of `key`, in order. -/
def pushed (key : K) (ops : List (Op K V)) : List V := ops.flatMap (Op.pushed key)

/-- What was taken from the queue of `key`, in order. -/
def taken (key : K) : List (Op K V) → State K V → List V
  | [], _ => []
  | op :: ops, s => op.taken key s ++ taken key ops (step s op)

/-! ## One operation -/

@[simp] theorem step_push (s : State K V) (name key : K) (values : List V) :
    step s (.push name values) key = if name = key then s key ++ values else s key := by
  by_cases same : name = key
  · subst same
    simp [step]
  · simp [step, same, Ne.symm same]

@[simp] theorem step_pop (s : State K V) (name key : K) :
    step s (.pop name) key = if name = key then (s key).tail else s key := by
  by_cases same : name = key
  · subst same
    simp [step]
  · simp [step, same, Ne.symm same]

@[simp] theorem step_drop (s : State K V) (name key : K) :
    step s (.drop name) key = if name = key then [] else s key := by
  by_cases same : name = key
  · subst same
    simp [step]
  · simp [step, same, Ne.symm same]

theorem step_conserves (s : State K V) {op : Op K V} {key : K} (kept : op ≠ .drop key) :
    s key ++ op.pushed key = op.taken key s ++ step s op key := by
  cases op with
  | push name values => by_cases same : name = key <;> simp [Op.pushed, Op.taken, same]
  | pop name =>
    by_cases same : name = key
    · cases line : s key <;> simp [Op.pushed, Op.taken, same, line]
    · simp [Op.pushed, Op.taken, same]
  | drop name =>
    have other : name ≠ key := fun same => kept (same ▸ rfl)
    simp [Op.pushed, Op.taken, other]

/-! ## Any sequence of operations -/

@[simp] theorem run_nil (s : State K V) : run ([] : List (Op K V)) s = s := rfl

@[simp] theorem run_cons (op : Op K V) (ops : List (Op K V)) (s : State K V) :
    run (op :: ops) s = run ops (step s op) := rfl

theorem run_append (front back : List (Op K V)) (s : State K V) :
    run (front ++ back) s = run back (run front s) := List.foldl_append

theorem taken_append (key : K) (front back : List (Op K V)) (s : State K V) :
    taken key (front ++ back) s = taken key front s ++ taken key back (run front s) := by
  induction front generalizing s with
  | nil => rfl
  | cons op front ih => simp [taken, ih]

/-- What went in is what came out, in the same order, and what is left. -/
theorem run_conserves (key : K) (ops : List (Op K V)) (s : State K V) (kept : .drop key ∉ ops) :
    s key ++ pushed key ops = taken key ops s ++ run ops s key := by
  induction ops generalizing s with
  | nil => simp [pushed, taken]
  | cons op ops ih =>
    simp only [List.mem_cons, not_or] at kept
    have first := step_conserves s (Ne.symm kept.1)
    have rest := ih (step s op) kept.2
    calc s key ++ pushed key (op :: ops)
        = (s key ++ op.pushed key) ++ pushed key ops := by simp [pushed]
      _ = op.taken key s ++ (step s op key ++ pushed key ops) := by rw [first, List.append_assoc]
      _ = taken key (op :: ops) s ++ run (op :: ops) s key := by rw [rest]; simp [taken]

theorem pushed_quiet {key : K} {ops : List (Op K V)} (quiet : ∀ values, .push key values ∉ ops) :
    pushed key ops = [] := by
  rw [pushed, List.flatMap_eq_nil_iff]
  intro op mem
  cases op with
  | push name values =>
    have other : name ≠ key := fun same => quiet values (same ▸ mem)
    simp [Op.pushed, other]
  | pop name => rfl
  | drop name => rfl

/-- Nothing comes out of an empty queue into which nothing is pushed. -/
theorem taken_quiet (key : K) (ops : List (Op K V)) (s : State K V) (empty : s key = [])
    (quiet : ∀ values, .push key values ∉ ops) : taken key ops s = [] ∧ run ops s key = [] := by
  induction ops generalizing s with
  | nil => exact ⟨rfl, empty⟩
  | cons op ops ih =>
    simp only [List.mem_cons, not_or] at quiet
    have still : step s op key = [] := by
      cases op with
      | push name values =>
        have other : name ≠ key := fun same => (quiet values).1 (same ▸ rfl)
        simp [other, empty]
      | pop name => by_cases same : name = key <;> simp [same, empty]
      | drop name => by_cases same : name = key <;> simp [same, empty]
    have none : op.taken key s = [] := by cases op <;> simp [Op.taken, empty]
    obtain ⟨rest, left⟩ := ih (step s op) still fun values => (quiet values).2
    exact ⟨by rw [taken, none, rest]; rfl, left⟩

end KirbyOcpp.Queues
