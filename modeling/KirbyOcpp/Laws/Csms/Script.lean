import KirbyOcpp.Csms.Script
import KirbyOcpp.Laws.Scenario

/-!
# A `wait_call` takes the oldest CALL that fits, and never sleeps through one

A run of both tasks beside all CALLs that came. The CALLs remembered are the last ones that came, each marked if it
was taken (`Tracked.stored`); a runner that looked in vain sleeps only until the pump has told it of the next change
(`Tracked.awake`).

**The law** `script_waits`.
-/

namespace KirbyOcpp.Csms.Script

open Ws (Json Frame)
open Runner (Values)

variable {values : Values} {b : Backlog}

/-! ## The backlog -/

namespace Backlog

/-- The bytes are those of the CALLs remembered. -/
def Counted (b : Backlog) : Prop := b.bytes = (b.calls.map (·.bytes)).sum

theorem push_calls (b : Backlog) (seen : Seen) : (b.push seen).calls = b.calls ++ [seen] := rfl

/-- These CALLs are too many, or too large, to be remembered. -/
def Crowded (maxBytes : Nat) (sizes : List Nat) : Prop := seenCap < sizes.length ∨ maxBytes < sizes.sum

theorem Crowded.append {maxBytes : Nat} {sizes : List Nat} (crowded : Crowded maxBytes sizes) (later : List Nat) :
    Crowded maxBytes (sizes ++ later) := by
  rcases crowded with many | large
  · exact .inl (by rw [List.length_append]; omega)
  · exact .inr (by rw [List.sum_append]; omega)

/-- Making room forgets some of the oldest CALLs, none that would still fit, and changes nothing else. -/
theorem makeRoom_spec (b : Backlog) (counted : b.Counted) :
    ∃ k, k ≤ b.calls.length ∧ b.makeRoom.calls = b.calls.drop k ∧
      (∀ i, i < k → Crowded b.maxBytes ((b.calls.drop i).map (·.bytes))) ∧ b.makeRoom.Counted ∧ ¬ b.makeRoom.Full ∧
      b.makeRoom.wanted = b.wanted ∧ b.makeRoom.maxBytes = b.maxBytes ∧ b.makeRoom.lagged = b.lagged ∧
        b.makeRoom.closed = b.closed := by
  fun_induction makeRoom b with
  | case1 b full ih =>
    obtain ⟨first, rest, line⟩ : ∃ first rest, b.calls = first :: rest := by
      cases line : b.calls with
      | nil => simp [Full, line] at full
      | cons first rest => exact ⟨first, rest, rfl⟩
    have fewer : Counted { b with
        calls := b.calls.tail
        bytes := b.bytes - ((b.calls.head?.map (·.bytes)).getD 0) } := by
      have sum : b.bytes = first.bytes + (rest.map (·.bytes)).sum := by
        rw [counted, line, List.map_cons, List.sum_cons]
      simp [Counted, line, sum]
    obtain ⟨k, few, calls, crowded, rest'⟩ := ih fewer
    refine ⟨k + 1, ?_, ?_, ?_, rest'⟩
    · simp only [line, List.tail_cons, List.length_cons] at few ⊢
      omega
    · rw [calls, line]
      rfl
    · intro i lt
      cases i with
      | zero =>
        have bytes : b.bytes = (b.calls.map (·.bytes)).sum := counted
        simpa [Crowded, ← bytes] using full.2
      | succ i =>
        have later := crowded i (by omega)
        rw [line] at later ⊢
        exact later
  | case2 b room => exact ⟨0, Nat.zero_le _, rfl, by simp, counted, room, rfl, rfl, rfl, rfl⟩

end Backlog

/-! ## What the steps want -/

/-- A `wait_call` as the `expect_call` that wants as much. -/
def Step.expects : Step → Runner.Action
  | .waitCall wait => .expectCall
    { call := wait.call, direction := none, payload := wait.payloadContains, timeoutMs := wait.timeoutMs }
  | .waitStation _ | .other => .other

theorem wanted_wait {steps : List Step} {wait : WaitCall} (mem : .waitCall wait ∈ steps) :
    ∃ needed, Assoc.get (Backlog.new steps).wanted wait.call = some needed ∧
      (wait.payloadContains.isSome = true → needed = true) := by
  have same : (Backlog.new steps).wanted = Runner.wantedCalls { steps := steps.map Step.expects } := by
    simp only [Runner.wantedCalls, List.foldl_map, Backlog.new]
    congr 1
    funext wanted step
    cases step <;> rfl
  rw [same]
  have expects : Step.expects (.waitCall wait) ∈ steps.map Step.expects := List.mem_map_of_mem mem
  exact Runner.wantedCalls_expected expects

/-! ## Runs -/

/-- A CALL that came: its station, its action, its payload. -/
structure Came where
  station : String
  action : String
  payload : Json

def WaitCall.takes (values : Values) (wait : WaitCall) (came : Came) : Bool :=
  wait.fits values came.station came.action came.payload

/-- The CALL that a move of the pump adds to the backlog. -/
def Watch.hears (w : Watch) : Move → Option Came
  | .receive (.frame station .in (.call _ action payload)) =>
    if w.notifying || w.backlog.closed then none
    else (Assoc.get w.backlog.wanted action).map fun _ => { station, action, payload }
  | _ => none

/-- Both tasks, beside the CALLs that came and the places of those that were taken. -/
structure Run where
  watch : Watch
  came : List Came := []
  taken : List Nat := []

namespace Run

/-- How many CALLs are not remembered any more. -/
def forgotten (r : Run) : Nat := r.came.length - r.watch.backlog.calls.length

/-- The place of the CALL that a move takes. -/
def takes (values : Values) (r : Run) : Move → Option Nat
  | .look _ =>
    match r.watch.phase with
    | .looking (.call wait) => (r.watch.backlog.find values wait).map (r.forgotten + ·)
    | _ => none
  | _ => none

def move (values : Values) (steps : List Step) (r : Run) (m : Move) : Run where
  watch := (r.watch.move values steps m).1
  came := r.came ++ (r.watch.hears m).toList
  taken := r.taken ++ (r.takes values m).toList

end Run

def run (values : Values) (steps : List Step) (moves : List Move) : Run :=
  moves.foldl (Run.move values steps) { watch := { backlog := Backlog.new steps } }

/-- A CALL remembered, as it was kept. -/
def Came.seen (values : Values) (wanted : List (String × Bool)) (came : Came) (consumed : Bool) : Seen :=
  { Backlog.seenOf values ((Assoc.get wanted came.action).getD false) came.station came.action came.payload with
    consumed }

/-- What a CALL takes up in the backlog. -/
def Came.size (values : Values) (wanted : List (String × Bool)) (came : Came) : Nat :=
  (came.seen values wanted false).bytes

structure Tracked (values : Values) (steps : List Step) (r : Run) : Prop where
  wanted : r.watch.backlog.wanted = (Backlog.new steps).wanted
  known : ∀ came ∈ r.came, (Assoc.get (Backlog.new steps).wanted came.action).isSome
  fewer : r.watch.backlog.calls.length ≤ r.came.length
  stored : ∀ i, r.watch.backlog.calls[i]? = r.came[r.forgotten + i]?.map fun came =>
    came.seen values (Backlog.new steps).wanted (decide (r.forgotten + i ∈ r.taken))
  taken : r.taken.Nodup
  past : ∀ place ∈ r.taken, place < r.came.length
  counted : r.watch.backlog.Counted
  bound : r.watch.backlog.maxBytes = seenBytes
  room : ¬ r.watch.backlog.Full
  /-- A CALL is forgotten where it does not fit with those that came after it. -/
  crowded : ∀ place, place < r.forgotten →
    Backlog.Crowded seenBytes ((r.came.drop place).map (Came.size values (Backlog.new steps).wanted))
  /-- The runner waits for a CALL of its script. -/
  step : ∀ wait, r.watch.phase = .looking (.call wait) ∨ r.watch.phase = .missed (.call wait) ∨
    r.watch.phase = .sleeping (.call wait) → .waitCall wait ∈ steps
  /-- A runner that has looked in vain is told of any CALL that came since. -/
  awake : ∀ wait, r.watch.phase = .missed (.call wait) ∨ r.watch.phase = .sleeping (.call wait) →
    (r.watch.backlog.find values wait).isSome → r.watch.permit ∨ r.watch.notifying

theorem Tracked.start (values : Values) (steps : List Step) :
    Tracked values steps { watch := { backlog := Backlog.new steps } } where
  wanted := rfl
  known := by simp
  fewer := by simp [Backlog.new]
  stored i := by simp [Backlog.new, Run.forgotten]
  taken := by simp
  past := by simp
  counted := by simp [Backlog.Counted, Backlog.new]
  bound := rfl
  room := by simp [Backlog.Full, Backlog.new]
  crowded := by simp [Run.forgotten]
  step := by simp
  awake := by simp

/-! ## Which CALLs fit -/

section Fits

variable {steps : List Step} {r : Run} {wait : WaitCall}

/-- The copy that was kept of a CALL fits when the CALL does. -/
theorem fits_seen (mem : .waitCall wait ∈ steps) {came : Came} {consumed : Bool} :
    wait.fits values (came.seen values (Backlog.new steps).wanted consumed).station
        (came.seen values (Backlog.new steps).wanted consumed).action
        (came.seen values (Backlog.new steps).wanted consumed).payload = wait.takes values came := by
  obtain ⟨needed, found, payload⟩ := wanted_wait mem
  by_cases name : came.action = wait.call
  · rw [← name] at found
    cases needed with
    | true => simp [Came.seen, Backlog.seenOf, WaitCall.takes, found]
    | false =>
      have none : wait.payloadContains = none := by
        by_contra some
        have needs := payload (Option.isSome_iff_ne_none.mpr some)
        cases needs
      simp only [WaitCall.takes, WaitCall.fits, none, Option.all_none]
      rfl
  · simp [Came.seen, Backlog.seenOf, WaitCall.takes, WaitCall.fits, name]

/-- A CALL that the step can take: it is remembered, no other step took it, and it fits. -/
def Run.Offers (values : Values) (r : Run) (wait : WaitCall) (place : Nat) : Prop :=
  r.forgotten ≤ place ∧ place ∉ r.taken ∧ ∃ came, r.came[place]? = some came ∧ wait.takes values came = true

/-- What `find` looks for, said of the CALLs that came. -/
theorem Tracked.offers_iff (tracked : Tracked values steps r) (mem : .waitCall wait ∈ steps) (i : Nat) :
    r.Offers values wait (r.forgotten + i) ↔
      ∃ seen, r.watch.backlog.calls[i]? = some seen ∧
        (!seen.consumed && wait.fits values seen.station seen.action seen.payload) = true := by
  have stored := tracked.stored i
  constructor
  · rintro ⟨-, free, came, here, fits⟩
    rw [here, Option.map_some] at stored
    refine ⟨_, stored, ?_⟩
    rw [fits_seen mem, fits]
    simp [Came.seen, free]
  · rintro ⟨seen, here, fits⟩
    rw [here, eq_comm, Option.map_eq_some_iff] at stored
    obtain ⟨came, place, rfl⟩ := stored
    rw [fits_seen mem] at fits
    simp only [Came.seen, Bool.and_eq_true, Bool.not_eq_true', decide_eq_false_iff_not] at fits
    exact ⟨Nat.le_add_right _ _, fits.1, came, place, fits.2⟩

theorem Tracked.find_some (tracked : Tracked values steps r) (mem : .waitCall wait ∈ steps) {i : Nat}
    (found : r.watch.backlog.find values wait = some i) :
    r.Offers values wait (r.forgotten + i) ∧ ∀ place, r.Offers values wait place → r.forgotten + i ≤ place := by
  obtain ⟨bound, fits, earlier⟩ := List.findIdx?_eq_some_iff_getElem.mp found
  refine ⟨(tracked.offers_iff mem i).mpr ⟨_, List.getElem?_eq_getElem bound, fits⟩, ?_⟩
  intro place offers
  obtain ⟨j, rfl⟩ := Nat.exists_eq_add_of_le offers.1
  by_contra before
  obtain ⟨seen, here, fits'⟩ := (tracked.offers_iff mem j).mp offers
  obtain ⟨short, rfl⟩ := List.getElem?_eq_some_iff.mp here
  exact earlier j (by omega) fits'

theorem Tracked.find_none (tracked : Tracked values steps r) (mem : .waitCall wait ∈ steps)
    (none : r.watch.backlog.find values wait = none) (place : Nat) : ¬ r.Offers values wait place := by
  intro offers
  obtain ⟨i, rfl⟩ := Nat.exists_eq_add_of_le offers.1
  obtain ⟨seen, here, fits⟩ := (tracked.offers_iff mem i).mp offers
  have unfit := List.findIdx?_eq_none_iff.mp none seen (List.mem_of_getElem? here)
  rw [fits] at unfit
  cases unfit

end Fits

/-! ## One move -/

section Moves

variable {steps : List Step} {r : Run}

/-- Only the tasks' own places change. -/
theorem Tracked.advance (tracked : Tracked values steps r) {watch : Watch}
    (backlog : watch.backlog.calls = r.watch.backlog.calls ∧ watch.backlog.bytes = r.watch.backlog.bytes ∧
      watch.backlog.wanted = r.watch.backlog.wanted ∧ watch.backlog.maxBytes = r.watch.backlog.maxBytes)
    (step : ∀ wait, watch.phase = .looking (.call wait) ∨ watch.phase = .missed (.call wait) ∨
      watch.phase = .sleeping (.call wait) → .waitCall wait ∈ steps)
    (awake : ∀ wait, watch.phase = .missed (.call wait) ∨ watch.phase = .sleeping (.call wait) →
      (r.watch.backlog.find values wait).isSome → watch.permit ∨ watch.notifying) :
    Tracked values steps { r with watch } where
  wanted := backlog.2.2.1.trans tracked.wanted
  known := tracked.known
  fewer := by
    rw [backlog.1]
    exact tracked.fewer
  stored i := by
    simp only [Run.forgotten, backlog.1]
    exact tracked.stored i
  taken := tracked.taken
  past := tracked.past
  counted := by
    have counted := tracked.counted
    simpa [Backlog.Counted, backlog.1, backlog.2.1] using counted
  bound := backlog.2.2.2.trans tracked.bound
  room := by
    have room := tracked.room
    simpa [Backlog.Full, backlog.1, backlog.2.1, backlog.2.2.2] using room
  crowded := by
    simp only [Run.forgotten, backlog.1]
    exact tracked.crowded
  step := step
  awake wait waits found := by
    apply awake wait waits
    simpa [Backlog.find, backlog.1] using found

/-- The sizes of the CALLs remembered are those of the last ones that came. -/
theorem Tracked.sizes (tracked : Tracked values steps r) :
    r.watch.backlog.calls.map (·.bytes) =
      (r.came.drop r.forgotten).map (Came.size values (Backlog.new steps).wanted) := by
  apply List.ext_getElem?
  intro i
  rw [List.getElem?_map, List.getElem?_map, List.getElem?_drop, tracked.stored i, Option.map_map]
  rfl

/-- The pump adds a CALL, and the oldest are forgotten where there is no room. -/
theorem Tracked.hear (tracked : Tracked values steps r) (station id : String) {action : String} (payload : Json)
    {needs : Bool}
    (wanted : Assoc.get r.watch.backlog.wanted action = some needs) :
    Tracked values steps
      { r with
        watch := { r.watch with
          backlog := r.watch.backlog.record values (.frame station .in (.call id action payload))
          notifying := true }
        came := r.came ++ [{ station, action, payload }] } := by
  have known : Assoc.get (Backlog.new steps).wanted action = some needs := by rw [← tracked.wanted, wanted]
  have fewer := tracked.fewer
  have seen : Backlog.seenOf values needs station action payload =
      Came.seen values (Backlog.new steps).wanted { station, action, payload } false := by
    simp only [Came.seen, known, Option.getD_some]
    rfl
  have pushed : (r.watch.backlog.push (Backlog.seenOf values needs station action payload)).Counted := by
    have bytes : r.watch.backlog.bytes = _ := tracked.counted
    simp [Backlog.Counted, Backlog.push, bytes]
  obtain ⟨k, few, calls, crowded, counted, room, kept⟩ := Backlog.makeRoom_spec _ pushed
  have record : r.watch.backlog.record values (.frame station .in (.call id action payload)) =
      (r.watch.backlog.push (Backlog.seenOf values needs station action payload)).makeRoom := by
    simp [Backlog.record, wanted]
  rw [record]
  rw [Backlog.push_calls] at few calls crowded
  rw [List.length_append, List.length_singleton] at few
  have forgotten : r.came.length + 1 - (r.watch.backlog.calls.length + 1 - k) =
      r.came.length - r.watch.backlog.calls.length + k := by
    omega
  refine ⟨kept.1.trans tracked.wanted, ?_, ?_, ?_, tracked.taken, ?_, counted, kept.2.1.trans tracked.bound, room, ?_,
    tracked.step, ?_⟩
  · intro came mem
    rcases List.mem_append.mp mem with old | new
    · exact tracked.known came old
    · obtain rfl : came = { station, action, payload } := by simpa using new
      simp [known]
  · simp only [calls, List.length_drop, List.length_append, List.length_singleton]
    omega
  · intro i
    simp only [Run.forgotten, calls, List.length_drop, List.length_append, List.length_singleton, forgotten,
      List.getElem?_drop]
    rcases Nat.lt_trichotomy (k + i) r.watch.backlog.calls.length with old | last | beyond
    · have before : r.came.length - r.watch.backlog.calls.length + k + i < r.came.length := by omega
      have stored := tracked.stored (k + i)
      simp only [Run.forgotten, ← Nat.add_assoc] at stored
      rw [List.getElem?_append_left old, List.getElem?_append_left before, stored]
    · have place : r.came.length - r.watch.backlog.calls.length + k + i = r.came.length := by omega
      have free : r.came.length ∉ r.taken := fun mem => Nat.lt_irrefl _ (tracked.past _ mem)
      rw [last, place]
      simp [free, seen]
    · have past : r.came.length < r.came.length - r.watch.backlog.calls.length + k + i := by omega
      rw [List.getElem?_eq_none (by simp; omega), List.getElem?_eq_none (by simp; omega)]
      rfl
  · intro place mem
    have bound := tracked.past place mem
    rw [List.length_append]
    omega
  · intro place lt
    have gone : place < r.forgotten + k := by
      simp only [Run.forgotten, calls, List.length_drop, List.length_append, List.length_singleton] at lt ⊢
      omega
    rcases Nat.lt_or_ge place r.forgotten with earlier | now
    · have inside : place ≤ r.came.length := earlier.le.trans (Nat.sub_le _ _)
      rw [List.drop_append_of_le_length inside, List.map_append]
      exact (tracked.crowded place earlier).append _
    · obtain ⟨i, rfl⟩ := Nat.exists_eq_add_of_le now
      have past := crowded i (by omega)
      have bound : (r.watch.backlog.push (Backlog.seenOf values needs station action payload)).maxBytes = seenBytes :=
        tracked.bound
      have size : (Backlog.seenOf values needs station action payload).bytes =
          Came.size values (Backlog.new steps).wanted { station, action, payload } := by
        rw [seen]
        rfl
      rw [bound, List.map_drop, List.map_append, tracked.sizes, List.map_singleton, size] at past
      have inside : r.forgotten ≤ r.came.length := Nat.sub_le _ _
      dsimp only
      rw [← List.drop_drop, List.drop_append_of_le_length inside, List.map_drop, List.map_append, List.map_singleton]
      exact past
  · intro wait waits found
    exact .inr rfl

/-- The runner takes the CALL that it found. -/
theorem Tracked.take (tracked : Tracked values steps r) {wait : WaitCall} {i : Nat}
    (found : r.watch.backlog.find values wait = some i) :
    Tracked values steps
      { r with
        watch := { r.watch with
          backlog := { r.watch.backlog with
            calls := r.watch.backlog.calls.modify i fun seen => { seen with consumed := true } }
          phase := .idle
          next := r.watch.next + 1 }
        taken := r.taken ++ [r.forgotten + i] } := by
  obtain ⟨bound, fits, -⟩ := List.findIdx?_eq_some_iff_getElem.mp found
  have fewer := tracked.fewer
  have here := tracked.stored i
  rw [List.getElem?_eq_getElem bound, eq_comm, Option.map_eq_some_iff] at here
  obtain ⟨came, place, eq⟩ := here
  have free : r.forgotten + i ∉ r.taken := by
    intro mem
    rw [← eq] at fits
    simp [Came.seen, mem] at fits
  have sizes : (r.watch.backlog.calls.modify i fun seen => { seen with consumed := true }).map (·.bytes) =
      r.watch.backlog.calls.map (·.bytes) := by
    apply List.ext_getElem?
    intro j
    rw [List.getElem?_map, List.getElem?_map, List.getElem?_modify]
    cases r.watch.backlog.calls[j]? with
    | none => rfl
    | some seen => by_cases same : i = j <;> simp [same]
  refine ⟨tracked.wanted, tracked.known, ?_, ?_, ?_, ?_, ?_, tracked.bound, ?_, ?_, by simp, by simp⟩
  · simpa using fewer
  · intro j
    have stored := tracked.stored j
    simp only [Run.forgotten, List.length_modify, List.getElem?_modify] at stored ⊢
    rw [stored]
    cases r.came[r.came.length - r.watch.backlog.calls.length + j]? with
    | none => rfl
    | some came =>
      by_cases same : i = j
      · simp [same, Came.seen]
      · simp [same, Came.seen, eq_comm]
        congr
  · rw [List.nodup_append]
    refine ⟨tracked.taken, by simp, ?_⟩
    intro place mem last one same
    obtain rfl : last = r.forgotten + i := by simpa using one
    exact free (same ▸ mem)
  · intro place' mem
    rcases List.mem_append.mp mem with old | new
    · exact tracked.past place' old
    · obtain rfl : place' = r.forgotten + i := by simpa using new
      exact (List.getElem?_eq_some_iff.mp place).1
  · simpa [Backlog.Counted, sizes] using tracked.counted
  · simpa [Backlog.Full] using tracked.room
  · simpa [Run.forgotten] using tracked.crowded

theorem Tracked.receive (tracked : Tracked values steps r) (event : CsmsEvent) :
    Tracked values steps (r.move values steps (.receive event)) := by
  by_cases busy : (r.watch.notifying || r.watch.backlog.closed) = true
  · have same : r.move values steps (.receive event) = r := by
      cases event with
      | frame station direction frame => cases direction <;> cases frame <;>
          simp [Run.move, Watch.move, Watch.hears, Run.takes, busy]
      | _ => simp [Run.move, Watch.move, Watch.hears, Run.takes, busy]
    rw [same]
    exact tracked
  · have idle (same : r.watch.backlog.record values event = r.watch.backlog)
        (silent : r.watch.hears (.receive event) = none) : Tracked values steps (r.move values steps (.receive event)) := by
      have next : r.move values steps (.receive event) = { r with watch := { r.watch with notifying := true } } := by
        simp [Run.move, Watch.move, busy, same, silent, Run.takes]
      rw [next]
      exact tracked.advance ⟨rfl, rfl, rfl, rfl⟩ tracked.step fun wait waits found => .inr rfl
    cases event with
    | frame station direction frame =>
      cases direction with
      | out => exact idle rfl rfl
      | «in» =>
        cases frame with
        | call id action payload =>
          cases wanted : Assoc.get r.watch.backlog.wanted action with
          | none => exact idle (by simp [Backlog.record, wanted]) (by simp [Watch.hears, wanted])
          | some needs =>
            have next := tracked.hear station id payload wanted
            simpa [Run.move, Watch.move, Watch.hears, busy, wanted, Run.takes] using next
        | callResult id payload => exact idle rfl rfl
        | callError id code description details => exact idle rfl rfl
    | _ => exact idle rfl rfl

/-- The step that runs is over. -/
theorem Tracked.ended (tracked : Tracked values steps r) (outcome : Outcome) :
    Tracked values steps { r with watch := (r.watch.ended outcome).1 } :=
  tracked.advance ⟨rfl, rfl, rfl, rfl⟩ (by simp [Watch.ended]) (by simp [Watch.ended])

theorem Tracked.look (tracked : Tracked values steps r) (views : List StationView) :
    Tracked values steps (r.move values steps (.look views)) := by
  cases phase : r.watch.phase with
  | looking waiting =>
    cases waiting with
    | call wait =>
      cases found : r.watch.backlog.find values wait with
      | none =>
        have next : r.move values steps (.look views) =
            { r with watch := { r.watch with phase := .missed (.call wait) } } := by
          simp [Run.move, Watch.move, Watch.hears, Run.takes, phase, Backlog.takeCall, found]
        rw [next]
        refine tracked.advance ⟨rfl, rfl, rfl, rfl⟩ ?_ ?_
        · intro other waits
          obtain rfl : wait = other := by simpa using waits
          exact tracked.step wait (.inl phase)
        · intro other waits some
          obtain rfl : wait = other := by simpa using waits
          simp [found] at some
      | some i =>
        have next := tracked.take found
        simpa [Run.move, Watch.move, Watch.hears, Run.takes, Watch.ended, phase, Backlog.takeCall, found] using next
    | station wait =>
      by_cases ready : stationsReady views wait = true
      · simpa [Run.move, Watch.move, Watch.hears, Run.takes, phase, ready] using tracked.ended .passed
      · have next : r.move values steps (.look views) =
            { r with watch := { r.watch with phase := .missed (.station wait) } } := by
          simp [Run.move, Watch.move, Watch.hears, Run.takes, phase, ready]
        rw [next]
        exact tracked.advance ⟨rfl, rfl, rfl, rfl⟩ (by simp) (by simp)
  | idle | busy | missed _ | sleeping _ =>
    simpa [Run.move, Watch.move, Watch.hears, Run.takes, phase] using tracked

theorem Tracked.begin (tracked : Tracked values steps r) : Tracked values steps (r.move values steps .begin) := by
  have idle (same : r.watch.move values steps .begin = (r.watch, none)) :
      Tracked values steps (r.move values steps .begin) := by
    simpa [Run.move, same, Watch.hears, Run.takes] using tracked
  cases phase : r.watch.phase with
  | idle =>
    cases step : steps[r.watch.next]? with
    | none => exact idle (by simp [Watch.move, phase, step])
    | some step' =>
      by_cases failed : r.watch.failed = true
      · exact idle (by simp [Watch.move, phase, step, failed])
      · have next : r.move values steps .begin = { r with watch := { r.watch with phase := step'.begin } } := by
          simp [Run.move, Watch.move, Watch.hears, Run.takes, phase, step, failed]
        rw [next]
        refine tracked.advance ⟨rfl, rfl, rfl, rfl⟩ ?_ ?_
        · intro wait waits
          cases step' with
          | waitCall other =>
            obtain rfl : other = wait := by simpa [Step.begin] using waits
            exact List.mem_of_getElem? step
          | waitStation _ | other => simp [Step.begin] at waits
        · cases step' <;> simp [Step.begin]
  | busy | looking _ | missed _ | sleeping _ => exact idle (by simp [Watch.move, phase])

theorem Tracked.check (tracked : Tracked values steps r) (views : List StationView) :
    Tracked values steps (r.move values steps (.check views)) := by
  cases phase : r.watch.phase with
  | missed waiting =>
    by_cases closed : r.watch.backlog.closed = true
    · simpa [Run.move, Watch.move, Watch.hears, Run.takes, phase, closed] using
        tracked.ended (.failed (waiting.reason r.watch.backlog.lagged views))
    · have next : r.move values steps (.check views) =
          { r with watch := { r.watch with phase := .sleeping waiting } } := by
        simp [Run.move, Watch.move, Watch.hears, Run.takes, phase, closed]
      rw [next]
      refine tracked.advance ⟨rfl, rfl, rfl, rfl⟩ ?_ ?_
      · intro wait waits
        obtain rfl : waiting = .call wait := by simpa using waits
        exact tracked.step wait (.inr (.inl phase))
      · intro wait waits found
        obtain rfl : waiting = .call wait := by simpa using waits
        exact tracked.awake wait (.inl phase) found
  | idle | busy | looking _ | sleeping _ =>
    simpa [Run.move, Watch.move, Watch.hears, Run.takes, phase] using tracked

theorem Tracked.wake (tracked : Tracked values steps r) : Tracked values steps (r.move values steps .wake) := by
  cases phase : r.watch.phase with
  | sleeping waiting =>
    by_cases permit : r.watch.permit = true
    · have next : r.move values steps .wake =
          { r with watch := { r.watch with permit := false, phase := .looking waiting } } := by
        simp [Run.move, Watch.move, Watch.hears, Run.takes, phase, permit]
      rw [next]
      refine tracked.advance ⟨rfl, rfl, rfl, rfl⟩ ?_ (by simp)
      intro wait waits
      obtain rfl : waiting = .call wait := by simpa using waits
      exact tracked.step wait (.inr (.inr phase))
    · simpa [Run.move, Watch.move, Watch.hears, Run.takes, phase, permit] using tracked
  | idle | busy | looking _ | missed _ =>
    simpa [Run.move, Watch.move, Watch.hears, Run.takes, phase] using tracked

theorem Tracked.move (tracked : Tracked values steps r) (m : Move) : Tracked values steps (r.move values steps m) := by
  cases m with
  | receive event => exact tracked.receive event
  | look views => exact tracked.look views
  | begin => exact tracked.begin
  | check views => exact tracked.check views
  | wake => exact tracked.wake
  | lag =>
    by_cases busy : (r.watch.notifying || r.watch.backlog.closed) = true
    · simpa [Run.move, Watch.move, Watch.hears, Run.takes, busy] using tracked
    · have next : r.move values steps .lag =
          { r with watch := { r.watch with
              backlog := { r.watch.backlog with lagged := true }, notifying := true } } := by
        simp [Run.move, Watch.move, Watch.hears, Run.takes, busy]
      rw [next]
      exact tracked.advance ⟨rfl, rfl, rfl, rfl⟩ tracked.step fun wait waits found => .inr rfl
  | close =>
    by_cases busy : (r.watch.notifying || r.watch.backlog.closed) = true
    · simpa [Run.move, Watch.move, Watch.hears, Run.takes, busy] using tracked
    · have next : r.move values steps .close =
          { r with watch := { r.watch with
              backlog := { r.watch.backlog with closed := true }, notifying := true } } := by
        simp [Run.move, Watch.move, Watch.hears, Run.takes, busy]
      rw [next]
      exact tracked.advance ⟨rfl, rfl, rfl, rfl⟩ tracked.step fun wait waits found => .inr rfl
  | notify =>
    by_cases told : r.watch.notifying = true
    · have next : r.move values steps .notify =
          { r with watch := { r.watch with permit := true, notifying := false } } := by
        simp [Run.move, Watch.move, Watch.hears, Run.takes, told]
      rw [next]
      exact tracked.advance ⟨rfl, rfl, rfl, rfl⟩ tracked.step fun wait waits found => .inl rfl
    · simpa [Run.move, Watch.move, Watch.hears, Run.takes, told] using tracked
  | finish result =>
    cases phase : r.watch.phase with
    | busy =>
      cases result with
      | ok _ => simpa [Run.move, Watch.move, Watch.hears, Run.takes, phase] using tracked.ended .passed
      | error reason =>
        simpa [Run.move, Watch.move, Watch.hears, Run.takes, phase] using tracked.ended (.failed reason)
    | idle | looking _ | missed _ | sleeping _ =>
      simpa [Run.move, Watch.move, Watch.hears, Run.takes, phase] using tracked
  | timeout views =>
    cases phase : r.watch.phase with
    | sleeping waiting =>
      by_cases permit : r.watch.permit = true
      · simpa [Run.move, Watch.move, Watch.hears, Run.takes, phase, permit] using tracked
      · simpa [Run.move, Watch.move, Watch.hears, Run.takes, phase, permit] using
          tracked.ended (.failed (waiting.reason r.watch.backlog.lagged views))
    | idle | busy | looking _ | missed _ =>
      simpa [Run.move, Watch.move, Watch.hears, Run.takes, phase] using tracked
  | deadline =>
    cases phase : r.watch.phase with
    | busy =>
      simpa [Run.move, Watch.move, Watch.hears, Run.takes, phase] using
        tracked.ended (.failed "the script --timeout was reached")
    | sleeping waiting =>
      by_cases permit : r.watch.permit = true
      · simpa [Run.move, Watch.move, Watch.hears, Run.takes, phase, permit] using tracked
      · simpa [Run.move, Watch.move, Watch.hears, Run.takes, phase, permit] using
          tracked.ended (.failed "the script --timeout was reached")
    | idle | looking _ | missed _ => simpa [Run.move, Watch.move, Watch.hears, Run.takes, phase] using tracked

end Moves

/-! ## Any order of moves -/

theorem tracked_run (values : Values) (steps : List Step) (moves : List Move) :
    Tracked values steps (run values steps moves) := by
  rw [run]
  have start := Tracked.start values steps
  revert start
  generalize ({ watch := { backlog := Backlog.new steps } } : Run) = r
  induction moves generalizing r with
  | nil => exact id
  | cons m moves ih => exact fun tracked => ih _ (tracked.move m)

/-- What the steps of a script are given, after any moves of both tasks. -/
structure ScriptWaits (values : Values) (steps : List Step) (r : Run) : Prop where
  /-- What is remembered is bounded, whatever comes; one CALL may be of any size. -/
  memory : r.watch.backlog.calls.length ≤ seenCap ∧
    (r.watch.backlog.bytes ≤ seenBytes ∨ r.watch.backlog.calls.length ≤ 1)
  /-- No CALL is taken twice. -/
  once : r.taken.Nodup
  /-- A step that looks takes the oldest CALL that it can take. -/
  found : ∀ wait, r.watch.phase = .looking (.call wait) → ∀ views place, r.Offers values wait place →
    ∃ oldest, r.Offers values wait oldest ∧ (∀ other, r.Offers values wait other → oldest ≤ other) ∧
      (r.move values steps (.look views)).taken = r.taken ++ [oldest] ∧
      (r.watch.move values steps (.look views)).2 = some .passed
  /-- It takes none only if there is none. -/
  missed : ∀ wait, r.watch.phase = .looking (.call wait) → (∀ place, ¬ r.Offers values wait place) → ∀ views,
    (r.move values steps (.look views)).taken = r.taken ∧ (r.watch.move values steps (.look views)).2 = none
  /-- No other move takes a CALL. -/
  only : ∀ m, (∀ views wait, m = .look views → r.watch.phase ≠ .looking (.call wait)) →
    (r.move values steps m).taken = r.taken
  /-- While it sleeps with no news on the way there is none, so it times out for a reason. -/
  asleep : ∀ wait, r.watch.phase = .sleeping (.call wait) → r.watch.permit = false → r.watch.notifying = false →
    ∀ place, ¬ r.Offers values wait place
  /-- The CALLs remembered are the last ones that came, all but those that are too many or too large together with
  what came after them. -/
  newest : r.watch.backlog.calls.length + r.forgotten = r.came.length ∧ ∀ place, place < r.forgotten →
    seenCap < r.came.length - place ∨
      seenBytes < ((r.came.drop place).map (Came.size values (Backlog.new steps).wanted)).sum

/-- In any order of the two tasks, a `wait_call` takes the oldest CALL that fits, and sleeps through none. -/
theorem script_waits (values : Values) (steps : List Step) (moves : List Move) :
    ScriptWaits values steps (run values steps moves) := by
  have tracked := tracked_run values steps moves
  generalize run values steps moves = r at tracked
  refine ⟨?_, tracked.taken, ?_, ?_, ?_, ?_, ?_⟩
  · have room := tracked.room
    have bound := tracked.bound
    simp only [Backlog.Full, seenCap, bound] at room ⊢
    omega
  · intro wait phase views place offers
    have mem := tracked.step wait (.inl phase)
    cases found : r.watch.backlog.find values wait with
    | none => exact absurd offers (tracked.find_none mem found place)
    | some i =>
      obtain ⟨here, least⟩ := tracked.find_some mem found
      exact ⟨_, here, least, by simp [Run.move, Run.takes, phase, found],
        by simp [Watch.move, Watch.ended, phase, Backlog.takeCall, found]⟩
  · intro wait phase none views
    have mem := tracked.step wait (.inl phase)
    cases found : r.watch.backlog.find values wait with
    | none => exact ⟨by simp [Run.move, Run.takes, phase, found],
        by simp [Watch.move, phase, Backlog.takeCall, found]⟩
    | some i => exact absurd (tracked.find_some mem found).1 (none _)
  · intro m other
    have none : r.takes values m = none := by
      cases m with
      | look views =>
        cases phase : r.watch.phase with
        | looking waiting =>
          cases waiting with
          | call wait => exact absurd phase (other views wait rfl)
          | station wait => simp [Run.takes, phase]
        | idle | busy | missed _ | sleeping _ => simp [Run.takes, phase]
      | _ => rfl
    simp [Run.move, none]
  · intro wait phase permit still place
    apply tracked.find_none (tracked.step wait (.inr (.inr phase)))
    by_contra found
    have told := tracked.awake wait (.inr phase) (Option.isSome_iff_ne_none.mpr found)
    simp [permit, still] at told
  · have fewer := tracked.fewer
    constructor
    · simp only [Run.forgotten]
      omega
    · intro place lt
      simpa [Backlog.Crowded] using tracked.crowded place lt

end KirbyOcpp.Csms.Script
