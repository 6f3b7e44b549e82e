import Mathlib

/-!
# Association lists

A finite map as a list of pairs without repeated keys. An edit writes or deletes one key; a row of
edits is applied from the left, so the last edit of a key decides it, and applying the same row again
changes nothing. The number of pairs is the number of keys the map has.
-/

namespace KirbyOcpp.Assoc

variable {K V : Type*} [DecidableEq K]

/-- The value of a key. -/
def get (entries : List (K × V)) (k : K) : Option V :=
  (entries.find? fun entry => decide (entry.1 = k)).map (·.2)

/-- The pairs of every other key. -/
def erase (entries : List (K × V)) (k : K) : List (K × V) :=
  entries.filter fun entry => decide (entry.1 ≠ k)

/-- The pairs of the keys that are not dropped. -/
def eraseWhere (entries : List (K × V)) (drops : K → Bool) : List (K × V) :=
  entries.filter fun entry => !drops entry.1

/-- The map with one key written. -/
def write (entries : List (K × V)) (k : K) (v : V) : List (K × V) := erase entries k ++ [(k, v)]

/-- One edit: a key with its new value, or without one to delete it. -/
def edit (entries : List (K × V)) (change : K × Option V) : List (K × V) :=
  match change.2 with
  | some v => write entries change.1 v
  | none => erase entries change.1

/-- No key is there twice. -/
def Keyed (entries : List (K × V)) : Prop := (entries.map (·.1)).Nodup

/-! ## Lookups -/

private theorem get_erase (entries : List (K × V)) (k key : K) :
    get (erase entries k) key = if key = k then none else get entries key := by
  simp only [get, erase, List.find?_filter]
  split
  · next same =>
    subst same
    rw [List.find?_eq_none.mpr (by simp), Option.map_none]
  · next other =>
    congr 2
    funext entry
    have : entry.1 = key → ¬ entry.1 = k := fun here there => other (here.symm.trans there)
    by_cases here : entry.1 = key
    · simp [here, other]
    · simp [here]

/-- A dropped key is gone, another one stays. -/
theorem get_eraseWhere (entries : List (K × V)) (drops : K → Bool) (key : K) :
    get (eraseWhere entries drops) key = if drops key then none else get entries key := by
  simp only [get, eraseWhere, List.find?_filter]
  split
  · next dropped =>
    have gone (entry : K × V) : (!drops entry.1 && decide (entry.1 = key)) = false := by
      by_cases here : entry.1 = key
      · simp [here, dropped]
      · simp [here]
    rw [List.find?_eq_none.mpr fun entry _ => by simp [gone entry], Option.map_none]
  · next kept =>
    congr 2
    funext entry
    by_cases here : entry.1 = key
    · simp [here, kept]
    · simp [here]

/-- A written key has its value, another one stays. -/
theorem get_write (entries : List (K × V)) (k : K) (v : V) (key : K) :
    get (write entries k v) key = if key = k then some v else get entries key := by
  have erased := get_erase entries k key
  unfold get at erased ⊢
  rw [write, List.find?_append, Option.map_or, erased]
  by_cases same : key = k
  · simp [same]
  · simp [same, Ne.symm same]

/-- An edit updates the map as a function. -/
theorem get_edit (entries : List (K × V)) (change : K × Option V) :
    get (edit entries change) = Function.update (get entries) change.1 change.2 := by
  funext key
  obtain ⟨k, value⟩ := change
  cases value with
  | some v => rw [edit, get_write, Function.update_apply]
  | none => rw [edit, get_erase, Function.update_apply]

/-- A list of edits is a list of updates. -/
theorem get_edits (entries : List (K × V)) (changes : List (K × Option V)) :
    get (changes.foldl edit entries) =
      changes.foldl (fun map change => Function.update map change.1 change.2) (get entries) := by
  induction changes generalizing entries with
  | nil => rfl
  | cons change rest ih => rw [List.foldl_cons, List.foldl_cons, ih, get_edit]

/-! ## Keys -/

private theorem keyed_erase {entries : List (K × V)} (h : Keyed entries) (k : K) : Keyed (erase entries k) :=
  h.sublist (List.filter_sublist.map _)

private theorem keyed_edit {entries : List (K × V)} (h : Keyed entries) (change : K × Option V) :
    Keyed (edit entries change) := by
  obtain ⟨k, value⟩ := change
  cases value with
  | none => exact keyed_erase h k
  | some v =>
    change (((erase entries k) ++ [(k, v)]).map (·.1)).Nodup
    rw [List.map_append, List.nodup_append]
    refine ⟨keyed_erase h k, by simp, ?_⟩
    intro key mem key' last
    obtain ⟨entry, kept, rfl⟩ := List.mem_map.mp mem
    have away : entry.1 ≠ k := of_decide_eq_true (List.mem_filter.mp kept).2
    rwa [show key' = k by simpa using last]

/-- Edits keep the keys distinct. -/
theorem keyed_edits {entries : List (K × V)} (h : Keyed entries) (changes : List (K × Option V)) :
    Keyed (changes.foldl edit entries) := by
  induction changes generalizing entries with
  | nil => exact h
  | cons change rest ih => exact ih (keyed_edit h change)

/-- A key is found exactly when it is there. -/
theorem isSome_get {entries : List (K × V)} {k : K} :
    (get entries k).isSome = true ↔ k ∈ entries.map (·.1) := by
  simp only [get, Option.isSome_map, List.find?_isSome, decide_eq_true_eq, List.mem_map]

/-- As many pairs as keys with a value. -/
theorem length_eq_ncard {entries : List (K × V)} (h : Keyed entries) :
    entries.length = {k | (get entries k).isSome = true}.ncard := by
  have keys : {k | (get entries k).isSome = true} = ↑(entries.map (·.1)).toFinset := by
    ext k
    rw [Set.mem_ofPred_eq, isSome_get, List.coe_toFinset, Set.mem_ofPred_eq]
  rw [keys, Set.ncard_coe_finset, List.toFinset_card_of_nodup h, List.length_map]

/-! ## Rows of edits -/

section Rows

/-- The last edit of a key decides it. -/
theorem updates_last (map : K → Option V) (changes : List (K × Option V)) (k : K) :
    changes.foldl (fun map change => Function.update map change.1 change.2) map k =
      match changes.reverse.find? fun change => decide (change.1 = k) with
      | some change => change.2
      | none => map k := by
  induction changes using List.reverseRecOn with
  | nil => rfl
  | append_singleton rest change ih =>
    rw [List.foldl_append, List.foldl_cons, List.foldl_nil, Function.update_apply, List.reverse_append,
      List.reverse_singleton, List.singleton_append, List.find?_cons]
    by_cases same : change.1 = k
    · simp [same]
    · simp only [same, decide_false, Ne.symm same, if_false]
      exact ih

/-- A row of edits applied twice does what it does once. -/
theorem updates_again (map : K → Option V) (changes : List (K × Option V)) :
    changes.foldl (fun map change => Function.update map change.1 change.2)
        (changes.foldl (fun map change => Function.update map change.1 change.2) map) =
      changes.foldl (fun map change => Function.update map change.1 change.2) map := by
  funext k
  rw [updates_last _ changes k]
  cases found : changes.reverse.find? fun change => decide (change.1 = k) with
  | none => rfl
  | some change => rw [updates_last map changes k, found]

end Rows

end KirbyOcpp.Assoc
