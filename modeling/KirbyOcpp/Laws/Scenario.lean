import KirbyOcpp.Data.Lists
import KirbyOcpp.Scenario

/-!
# An `expect_call` takes the first match

A run of the runner beside all that its station emitted: what it received, what the channel skipped and what it
dropped itself. The loss marks where frames may be missing (`Tracked.ahead`), and every event that a match can be is
kept or gone (`Tracked.present`). So a match before the loss is the first there is.

**The law** `expectCall_first`.
-/

namespace KirbyOcpp.Runner

open Ws (FrameRecord Json)
open Actor (saturatingAdd)

variable (values : Values)

/-! ## The buffer -/

namespace Ctx

/-- The bytes are those of the frames, and neither is over its bound; one frame may be of any size. -/
structure Bounded (ctx : Ctx) : Prop where
  bytes : ctx.frameBytes = (ctx.frames.map (·.2)).sum
  cap : ctx.frames.length ≤ frameCap
  size : ctx.frameBytes ≤ maxFrameBytes ∨ ctx.frames.length = 1

variable {values} {ctx : Ctx}

theorem foldl_sub (sizes : List (FrameRecord × Nat)) (bytes : Nat) :
    sizes.foldl (fun bytes frame => bytes - frame.2) bytes = bytes - (sizes.map (·.2)).sum := by
  induction sizes generalizing bytes with
  | nil => rfl
  | cons frame sizes ih =>
    rw [List.foldl_cons, ih, List.map_cons, List.sum_cons]
    omega

theorem dropFront_bytes (bytes : ctx.frameBytes = (ctx.frames.map (·.2)).sum) (n : Nat) :
    (ctx.dropFront n).frameBytes = ((ctx.dropFront n).frames.map (·.2)).sum := by
  have parts : (ctx.frames.map (·.2)).sum =
      ((ctx.frames.take n).map (·.2)).sum + ((ctx.frames.drop n).map (·.2)).sum := by
    rw [← List.sum_append, ← List.map_append, List.take_append_drop]
  change (ctx.frames.take n).foldl _ ctx.frameBytes = ((ctx.frames.drop n).map (·.2)).sum
  rw [foldl_sub, bytes, parts]
  exact Nat.add_sub_cancel_left _ _

theorem Bounded.dropFront (bounded : ctx.Bounded) (n : Nat) : (ctx.dropFront n).Bounded := by
  have bytes := dropFront_bytes bounded.bytes n
  have length : (ctx.dropFront n).frames.length = ctx.frames.length - n := List.length_drop
  have fewer : (ctx.dropFront n).frameBytes ≤ ctx.frameBytes := by
    change (ctx.frames.take n).foldl _ ctx.frameBytes ≤ _
    rw [foldl_sub]
    exact Nat.sub_le _ _
  refine ⟨bytes, by have := bounded.cap; omega, ?_⟩
  rcases bounded.size with small | one
  · exact .inl (fewer.trans small)
  · rcases Nat.eq_zero_or_pos n with rfl | some
    · exact .inr (by omega)
    · have none : (ctx.dropFront n).frames = [] := List.eq_nil_of_length_eq_zero (by omega)
      rw [bytes, none]
      exact .inl (Nat.zero_le _)

theorem makeRoom_bytes (ctx : Ctx) (bytes : ctx.frameBytes = (ctx.frames.map (·.2)).sum) :
    ctx.makeRoom.frameBytes = (ctx.makeRoom.frames.map (·.2)).sum := by
  fun_induction makeRoom ctx with
  | case1 ctx full ih => exact ih (dropFront_bytes bytes 1)
  | case2 ctx room => exact bytes

theorem makeRoom_room (ctx : Ctx) : ¬ ctx.makeRoom.Full := by
  fun_induction makeRoom ctx with
  | case1 ctx full ih => exact ih
  | case2 ctx room => exact room

/-- Room is made at the front, and the loss then stands before all that is left. -/
theorem makeRoom_spec (ctx : Ctx) :
    ctx.makeRoom = ctx ∨
      ctx.makeRoom.lossAt = some 0 ∧ ctx.makeRoom.wanted = ctx.wanted ∧
        ∃ n, ctx.makeRoom.frames = ctx.frames.drop n := by
  fun_induction makeRoom ctx with
  | case1 ctx full ih =>
    refine .inr ?_
    rcases ih with same | ⟨loss, wanted, n, frames⟩
    · rw [same]
      exact ⟨rfl, rfl, 1, rfl⟩
    · refine ⟨loss, wanted, 1 + n, ?_⟩
      rw [frames]
      exact List.drop_drop
  | case2 ctx room => exact .inl rfl

theorem Bounded.makeRoom (bytes : ctx.frameBytes = (ctx.frames.map (·.2)).sum) : ctx.makeRoom.Bounded := by
  have bytes := makeRoom_bytes ctx bytes
  have room := makeRoom_room ctx
  generalize ctx.makeRoom = made at bytes room
  unfold Full at room
  have cap : 1 ≤ frameCap := by decide
  refine ⟨bytes, by omega, ?_⟩
  by_cases one : made.frames.length = 1
  · exact .inr one
  · by_cases empty : made.frames = []
    · rw [bytes, empty]
      exact .inl (Nat.zero_le _)
    · have := List.length_pos_iff.mpr empty
      exact .inl (by omega)

theorem Bounded.receive (bounded : ctx.Bounded) (arrival : Arrival) : (ctx.receive values arrival).Bounded := by
  cases arrival with
  | lagged first rest => exact ⟨bounded.bytes, bounded.cap, bounded.size⟩
  | event event =>
    cases event with
    | other => exact bounded
    | frame record =>
      unfold Ctx.receive Ctx.record
      dsimp only
      split
      · exact bounded
      · next frame _ =>
        refine .makeRoom ?_
        unfold push
        dsimp only
        rw [List.map_append, List.sum_append, bounded.bytes]
        rfl

/-- An `expect_call` that gets no answer leaves all as it is, one that fails clears the loss, and one that succeeds
removes the frames up to the first match, which stands before the loss. -/
theorem answer_cases (values : Values) (ctx : Ctx) (expected : ExpectCall) :
    ctx.answer values expected = (ctx, none) ∧ ctx.lossAt = none ∨
    (∃ reason, ctx.answer values expected = ({ ctx with lagged := 0, lossAt := none }, some (.error reason))) ∨
    ∃ index, ctx.answer values expected = (ctx.dropFront (index + 1), some (.ok ())) ∧
      ctx.frames.findIdx? (fun frame => expected.matches values frame.1) = some index ∧
      ∀ loss, ctx.lossAt = some loss → index < loss := by
  unfold answer
  split
  · next index found =>
    obtain ⟨found, before⟩ := Option.filter_eq_some_iff.mp found
    refine .inr (.inr ⟨index, rfl, found, fun loss at_ => ?_⟩)
    rw [at_] at before
    exact of_decide_eq_true before
  · split
    · exact .inr (.inl ⟨_, rfl⟩)
    · next none => exact .inl ⟨rfl, Option.not_isSome_iff_eq_none.mp none⟩

end Ctx

/-! ## What is kept -/

/-- The CALL that an `expect_call` waits for. -/
def Event.IsMatch (expected : ExpectCall) : Event → Prop
  | .frame record => (item record.frame 0).bind Json.asU64 = some 2 ∧ expected.matches values record = true
  | .other => False

def Event.kept (wanted : List (String × Bool)) : Event → Option (FrameRecord × Nat)
  | .frame record => Runner.kept values wanted record
  | .other => none

theorem Ctx.record_eq (ctx : Ctx) (event : Event) :
    ctx.record values event = match event.kept values ctx.wanted with
      | none => ctx
      | some frame => (ctx.push frame).makeRoom := by
  cases event <;> rfl

/-- The step of `wantedCalls`. -/
def wantCall (wanted : List (String × Bool)) : Action → List (String × Bool)
  | .expectCall expected =>
    Assoc.write wanted expected.call ((Assoc.get wanted expected.call).getD false || expected.payload.isSome)
  | .other => wanted

/-- A wanted action stays wanted, with its payload if that was needed. -/
theorem get_wantCall {wanted : List (String × Bool)} {call : String} {needed : Bool}
    (found : Assoc.get wanted call = some needed) (step : Action) :
    ∃ still, Assoc.get (wantCall wanted step) call = some still ∧ (needed = true → still = true) := by
  cases step with
  | other => exact ⟨needed, found, id⟩
  | expectCall expected =>
    unfold wantCall
    rw [Assoc.get_write]
    split
    · next same =>
      refine ⟨_, rfl, fun needs => ?_⟩
      rw [← same, found, needs]
      rfl
    · exact ⟨needed, found, id⟩

theorem get_wantCalls {wanted : List (String × Bool)} {call : String} {needed : Bool}
    (found : Assoc.get wanted call = some needed) (steps : List Action) :
    ∃ still, Assoc.get (steps.foldl wantCall wanted) call = some still ∧ (needed = true → still = true) := by
  induction steps generalizing wanted needed with
  | nil => exact ⟨needed, found, id⟩
  | cons step steps ih =>
    obtain ⟨still, found, keeps⟩ := get_wantCall found step
    obtain ⟨last, found, keeps'⟩ := ih found
    exact ⟨last, found, fun needs => keeps' (keeps needs)⟩

/-- The calls of every `expect_call` are wanted, with the payload where it matches on one. -/
theorem wantedCalls_expected {scenario : Scenario} {expected : ExpectCall}
    (mem : .expectCall expected ∈ scenario.steps) :
    ∃ needed, Assoc.get (wantedCalls scenario) expected.call = some needed ∧
      (expected.payload.isSome = true → needed = true) := by
  have folded : wantedCalls scenario = scenario.steps.foldl wantCall [] := rfl
  obtain ⟨before, after, steps⟩ := List.append_of_mem mem
  rw [folded, steps, List.foldl_append, List.foldl_cons]
  have here : Assoc.get (wantCall (before.foldl wantCall []) (.expectCall expected)) expected.call =
      some ((Assoc.get (before.foldl wantCall []) expected.call).getD false || expected.payload.isSome) := by
    unfold wantCall
    rw [Assoc.get_write, if_pos rfl]
  obtain ⟨needed, found, keeps⟩ := get_wantCalls here after
  exact ⟨needed, found, fun payload => keeps (by rw [payload, Bool.or_true])⟩

section Kept

variable {values} {scenario : Scenario} {expected : ExpectCall}

/-- A match is kept. -/
theorem kept_of_isMatch (mem : .expectCall expected ∈ scenario.steps) {event : Event}
    (matched : event.IsMatch values expected) : (event.kept values (wantedCalls scenario)).isSome = true := by
  cases event with
  | other => exact matched.elim
  | frame record =>
    obtain ⟨call, matched⟩ := matched
    obtain ⟨needed, found, -⟩ := wantedCalls_expected mem
    have name : (item record.frame 2).bind Json.asStr = some expected.call := by
      unfold ExpectCall.matches at matched
      simp only [Bool.and_eq_true, decide_eq_true_eq] at matched
      exact matched.1.1
    change (Runner.kept values (wantedCalls scenario) record).isSome = true
    unfold Runner.kept
    rw [if_pos call, name, Option.bind_some, found]
    rfl

theorem item_truncate {value : Json} {index length : Nat} (below : index < length) :
    item (truncate value length) index = item value index := by
  cases value with
  | array items => exact List.getElem?_take_of_lt below
  | _ => rfl

/-- The copy kept of a CALL matches when the CALL does. -/
theorem isMatch_iff_of_kept (mem : .expectCall expected ∈ scenario.steps) {event : Event}
    {frame : FrameRecord × Nat} (kept : event.kept values (wantedCalls scenario) = some frame) :
    event.IsMatch values expected ↔ expected.matches values frame.1 = true := by
  cases event with
  | other => cases kept
  | frame record =>
    obtain ⟨needed, found, payload⟩ := wantedCalls_expected mem
    change Runner.kept values (wantedCalls scenario) record = some frame at kept
    unfold Runner.kept at kept
    split at kept
    · next call =>
      obtain ⟨needs, looked, rfl⟩ := Option.map_eq_some_iff.mp kept
      refine (and_iff_right call).trans ?_
      split
      · rfl
      · next stripped =>
        -- Without the payload only an action is left of which no `expect_call` matches on it.
        have name : item (truncate record.frame 3) 2 = item record.frame 2 := item_truncate (by decide)
        unfold ExpectCall.matches
        dsimp only
        rw [name]
        by_cases same : (item record.frame 2).bind Json.asStr = some expected.call
        · rw [same, Option.bind_some, found, Option.some.injEq] at looked
          have none : expected.payload = none := by
            refine Option.not_isSome_iff_eq_none.mp fun some => stripped ?_
            rw [← looked, payload some]
          rw [none]
          rfl
        · simp only [same, decide_false, Bool.false_and]
    · cases kept

end Kept

/-! ## Runs -/

/-- A run beside what the station emitted in it. The frames kept are the last ones recorded, so their places are the
last ones, too. -/
structure Run where
  ctx : Ctx
  emitted : List Event := []
  /-- Where the frames kept stand among the events emitted. -/
  places : List Nat := []
  /-- Where the events stand that the channel skipped or the runner dropped. -/
  gone : List Nat := []
  /-- The number of events up to the last frame that an `expect_call` consumed. -/
  consumed : Nat := 0
  /-- An `expect_call` has reported a loss. -/
  reported : Bool := false

namespace Run

def receive (run : Run) : Ctx.Arrival → Run
  | .event event =>
    let ctx := run.ctx.receive values (.event event)
    let places :=
      if (event.kept values run.ctx.wanted).isSome then run.places ++ [run.emitted.length] else run.places
    { run with
      ctx
      emitted := run.emitted ++ [event]
      places := places.rtake ctx.frames.length
      gone := run.gone ++ places.rdrop ctx.frames.length }
  | .lagged first rest =>
    { run with
      ctx := run.ctx.receive values (.lagged first rest)
      emitted := run.emitted ++ first :: rest
      gone := run.gone ++ List.range' run.emitted.length (rest.length + 1) }

/-- An `expect_call` looks for its answer. -/
def expect (run : Run) (expected : ExpectCall) : Run :=
  match run.ctx.answer values expected with
  | (ctx, some (.ok ())) =>
    { run with
      ctx
      places := run.places.rtake ctx.frames.length
      consumed := ((run.places.rdrop ctx.frames.length).getLast?.map (· + 1)).getD run.consumed }
  | (ctx, some (.error _)) => { run with ctx, reported := true }
  | (ctx, none) => { run with ctx }

/-- The event at a place is a CALL that an `expect_call` waits for. -/
def MatchAt (run : Run) (expected : ExpectCall) (place : Nat) : Prop :=
  ∃ event, run.emitted[place]? = some event ∧ event.IsMatch values expected

end Run

/-- The runner receives, or the `expect_call` of a step looks for its answer. -/
inductive Move where
  | receive (arrival : Ctx.Arrival)
  | expect (step : Nat)

def Run.move (scenario : Scenario) (run : Run) : Move → Run
  | .receive arrival => run.receive values arrival
  | .expect step =>
    match scenario.steps[step]? with
    | some (.expectCall expected) => run.expect values expected
    | _ => run

def run (scenario : Scenario) (moves : List Move) : Run :=
  moves.foldl (Run.move values scenario) { ctx := { wanted := wantedCalls scenario } }

/-! ## Where the frames stand -/

/-- The frame is what was kept of the event at the place. -/
def Stored (scenario : Scenario) (emitted : List Event) (place : Nat) (frame : FrameRecord × Nat) : Prop :=
  ∃ event, emitted[place]? = some event ∧ event.kept values (wantedCalls scenario) = some frame

structure Tracked (scenario : Scenario) (run : Run) : Prop where
  wanted : run.ctx.wanted = wantedCalls scenario
  stored : List.Forall₂ (Stored values scenario run.emitted) run.places run.ctx.frames
  ordered : run.places.Pairwise (· < ·)
  fresh : ∀ place ∈ run.places, run.consumed ≤ place
  past : run.consumed ≤ run.emitted.length
  /-- What can still be a match is kept or gone. -/
  present : ∀ place event, run.consumed ≤ place → run.emitted[place]? = some event →
    (event.kept values (wantedCalls scenario)).isSome = true → place ∈ run.places ∨ place ∈ run.gone
  whole : run.reported = false → run.ctx.lossAt = none → run.gone = []
  /-- The frames before the loss stand before all that is gone. -/
  ahead : run.reported = false → ∀ loss, run.ctx.lossAt = some loss →
    loss ≤ run.places.length ∧ ∀ place ∈ run.places.take loss, ∀ lost ∈ run.gone, place < lost

namespace Tracked

variable {values} {scenario : Scenario} {run : Run}

theorem Stored.more {emitted : List Event} {place : Nat} {frame : FrameRecord × Nat}
    (stored : Stored values scenario emitted place frame) (more : List Event) :
    Stored values scenario (emitted ++ more) place frame := by
  obtain ⟨event, at_, kept⟩ := stored
  obtain ⟨below, -⟩ := List.getElem?_eq_some_iff.mp at_
  exact ⟨event, by rw [List.getElem?_append_left below, at_], kept⟩

/-- The frame at an index and its place. -/
theorem get (tracked : Tracked values scenario run) {index : Nat} {frame : FrameRecord × Nat}
    (found : run.ctx.frames[index]? = some frame) :
    ∃ place, run.places[index]? = some place ∧ Stored values scenario run.emitted place frame := by
  obtain ⟨below, rfl⟩ := List.getElem?_eq_some_iff.mp found
  obtain ⟨length, each⟩ := List.forall₂_iff_get.mp tracked.stored
  have below' : index < run.places.length := by omega
  exact ⟨run.places[index], List.getElem?_eq_getElem below', each index below' below⟩

theorem place_lt (tracked : Tracked values scenario run) {place : Nat} (mem : place ∈ run.places) :
    place < run.emitted.length := by
  obtain ⟨index, below, rfl⟩ := List.getElem_of_mem mem
  obtain ⟨length, each⟩ := List.forall₂_iff_get.mp tracked.stored
  obtain ⟨event, at_, -⟩ := each index below (by omega)
  exact (List.getElem?_eq_some_iff.mp at_).1

theorem start (scenario : Scenario) : Tracked values scenario { ctx := { wanted := wantedCalls scenario } } where
  wanted := rfl
  stored := .nil
  ordered := .nil
  fresh := by simp
  past := Nat.le_refl _
  present := by simp
  whole := fun _ _ => rfl
  ahead := by simp

/-- An event of which nothing is kept. -/
theorem pass (tracked : Tracked values scenario run) {event : Event}
    (nothing : event.kept values (wantedCalls scenario) = none) :
    Tracked values scenario { run with emitted := run.emitted ++ [event] } where
  wanted := tracked.wanted
  stored := tracked.stored.imp fun _ _ stored => Stored.more stored [event]
  ordered := tracked.ordered
  fresh := tracked.fresh
  past := by
    have := tracked.past
    simp only [List.length_append]
    omega
  present := by
    intro place found after at_ kept
    rcases Lists.getElem?_concat_cases at_ with old | ⟨-, rfl⟩
    · exact tracked.present place found after old kept
    · rw [nothing] at kept
      cases kept
  whole := tracked.whole
  ahead := tracked.ahead

/-- An event of which a frame is kept. -/
theorem push (tracked : Tracked values scenario run) {event : Event} {frame : FrameRecord × Nat}
    (kept : event.kept values (wantedCalls scenario) = some frame) :
    Tracked values scenario { run with
      ctx := run.ctx.push frame
      emitted := run.emitted ++ [event]
      places := run.places ++ [run.emitted.length] } where
  wanted := tracked.wanted
  stored := by
    have here : Stored values scenario (run.emitted ++ [event]) run.emitted.length frame :=
      ⟨event, List.getElem?_concat_length, kept⟩
    exact List.rel_append (tracked.stored.imp fun _ _ stored => Stored.more stored [event]) (.cons here .nil)
  ordered := by
    refine List.pairwise_append.mpr ⟨tracked.ordered, List.pairwise_singleton _ _, fun place mem last is_last => ?_⟩
    rw [List.mem_singleton.mp is_last]
    exact tracked.place_lt mem
  fresh := by
    intro place mem
    rcases List.mem_append.mp mem with mem | last
    · exact tracked.fresh place mem
    · rw [List.mem_singleton.mp last]
      exact tracked.past
  past := by
    have := tracked.past
    simp only [List.length_append]
    omega
  present := by
    intro place found after at_ kept
    rcases Lists.getElem?_concat_cases at_ with old | ⟨rfl, -⟩
    · exact (tracked.present place found after old kept).imp_left (List.mem_append_left _)
    · exact .inl (List.mem_append_right _ (List.mem_singleton_self _))
  whole := tracked.whole
  ahead := by
    intro unreported loss at_
    obtain ⟨le, before⟩ := tracked.ahead unreported loss at_
    refine ⟨?_, ?_⟩
    · simp only [List.length_append]
      omega
    · rwa [List.take_append_of_le_length le]

/-- The events that the channel skips come after all that is kept. -/
theorem skip (tracked : Tracked values scenario run) (first : Event) (rest : List Event) :
    Tracked values scenario (run.receive values (.lagged first rest)) where
  wanted := tracked.wanted
  stored := tracked.stored.imp fun _ _ stored => Stored.more stored (first :: rest)
  ordered := tracked.ordered
  fresh := tracked.fresh
  past := by
    have := tracked.past
    simp only [Run.receive, List.length_append]
    omega
  present := by
    intro place found after at_ kept
    rcases Nat.lt_or_ge place run.emitted.length with below | above
    · have old : run.emitted[place]? = some found := by
        simp only [Run.receive] at at_
        rwa [List.getElem?_append_left below] at at_
      exact (tracked.present place found after old kept).imp_right (List.mem_append_left _)
    · have within := (List.getElem?_eq_some_iff.mp at_).1
      simp only [Run.receive, List.length_append, List.length_cons] at within
      exact .inr (List.mem_append_right _ (List.mem_range'_1.mpr ⟨above, by omega⟩))
  whole := by
    intro _ none
    cases none
  ahead := by
    intro unreported loss at_
    obtain rfl : run.ctx.lossAt.getD run.ctx.frames.length = loss := Option.some.inj at_
    have length := tracked.stored.length_eq
    have behind {place lost : Nat} (mem : place ∈ run.places)
        (skipped : lost ∈ List.range' run.emitted.length (rest.length + 1)) : place < lost :=
      (tracked.place_lt mem).trans_le (List.mem_range'_1.mp skipped).1
    cases before : run.ctx.lossAt with
    | none =>
      have whole := tracked.whole unreported before
      refine ⟨length.symm.le, fun place mem lost skipped => ?_⟩
      simp only [Run.receive, whole, List.nil_append] at skipped
      exact behind (List.mem_of_mem_take mem) skipped
    | some loss =>
      obtain ⟨le, ahead⟩ := tracked.ahead unreported loss before
      refine ⟨le, fun place mem lost skipped => ?_⟩
      rcases List.mem_append.mp skipped with old | new
      · exact ahead place mem lost old
      · exact behind (List.mem_of_mem_take mem) new

/-- Frames dropped at the front, with the loss at the front. -/
theorem overflow (tracked : Tracked values scenario run) {ctx : Ctx} {n : Nat} (wanted : ctx.wanted = run.ctx.wanted)
    (loss : ctx.lossAt = some 0) (frames : ctx.frames = run.ctx.frames.drop n) :
    Tracked values scenario { run with ctx, places := run.places.drop n, gone := run.gone ++ run.places.take n } where
  wanted := wanted.trans tracked.wanted
  stored := by
    change List.Forall₂ _ (run.places.drop n) ctx.frames
    rw [frames]
    exact List.forall₂_drop n tracked.stored
  ordered := tracked.ordered.drop
  fresh := fun place mem => tracked.fresh place (List.mem_of_mem_drop mem)
  past := tracked.past
  present := by
    intro place found after at_ kept
    rcases tracked.present place found after at_ kept with mem | gone
    · rw [← List.take_append_drop n run.places] at mem
      rcases List.mem_append.mp mem with taken | left
      · exact .inr (List.mem_append_right _ taken)
      · exact .inl left
    · exact .inr (List.mem_append_left _ gone)
  whole := by
    intro _ none
    rw [loss] at none
    cases none
  ahead := by
    intro _ at_loss at_
    rw [loss, Option.some.injEq] at at_
    subst at_
    exact ⟨Nat.zero_le _, by simp⟩

theorem receive (tracked : Tracked values scenario run) (arrival : Ctx.Arrival) :
    Tracked values scenario (run.receive values arrival) := by
  cases arrival with
  | lagged first rest => exact tracked.skip first rest
  | event event =>
    have length := tracked.stored.length_eq
    unfold Run.receive Ctx.receive
    dsimp only
    rw [Ctx.record_eq, tracked.wanted]
    cases kept : event.kept values (wantedCalls scenario) with
    | none =>
      rw [Option.isSome_none, if_neg Bool.false_ne_true, ← length]
      simpa [List.rtake, List.rdrop] using tracked.pass kept
    | some frame =>
      have pushed := tracked.push kept
      have length := pushed.stored.length_eq
      rw [Option.isSome_some, if_pos rfl]
      dsimp only
      rcases Ctx.makeRoom_spec (run.ctx.push frame) with same | ⟨loss, wanted, n, frames⟩
      · rw [same, ← length]
        simpa [List.rtake, List.rdrop] using pushed
      · rw [frames, Lists.rtake_length_drop length, Lists.rdrop_length_drop length]
        exact pushed.overflow wanted loss frames

/-- The frames up to one are consumed. -/
theorem consume (tracked : Tracked values scenario run) {index place : Nat} (at_ : run.places[index]? = some place) :
    Tracked values scenario { run with
      ctx := run.ctx.dropFront (index + 1)
      places := run.places.drop (index + 1)
      consumed := place + 1 } := by
  have taken : run.places.take (index + 1) = run.places.take index ++ [place] := by
    rw [List.take_add_one, at_, Option.toList_some]
  have ordered := tracked.ordered
  rw [← List.take_append_drop (index + 1) run.places, List.pairwise_append] at ordered
  obtain ⟨front, left, apart⟩ := ordered
  have last : place ∈ run.places.take (index + 1) := by
    rw [taken]
    exact List.mem_append_right _ (List.mem_singleton_self _)
  have le_last {other : Nat} (mem : other ∈ run.places.take (index + 1)) : other ≤ place := by
    rw [taken] at mem front
    rcases List.mem_append.mp mem with earlier | same
    · exact ((List.pairwise_append.mp front).2.2 other earlier place (List.mem_singleton_self _)).le
    · exact (List.mem_singleton.mp same).le
  have fresh := tracked.fresh place (List.mem_of_mem_take last)
  exact
    { wanted := tracked.wanted
      stored := List.forall₂_drop (index + 1) tracked.stored
      ordered := left
      fresh := fun later mem => apart place last later mem
      past := tracked.place_lt (List.mem_of_mem_take last)
      present := by
        intro later event after found kept
        have after : place < later := after
        rcases tracked.present later event (by omega) found kept with mem | gone
        · rw [← List.take_append_drop (index + 1) run.places] at mem
          rcases List.mem_append.mp mem with taken | stays
          · have := le_last taken
            omega
          · exact .inl stays
        · exact .inr gone
      whole := fun unreported none => tracked.whole unreported (Option.map_eq_none_iff.mp none)
      ahead := by
        intro unreported loss moved
        obtain ⟨loss, at_, rfl⟩ := Option.map_eq_some_iff.mp moved
        obtain ⟨le, ahead⟩ := tracked.ahead unreported loss at_
        refine ⟨?_, fun later mem => ahead later ?_⟩
        · rw [List.length_drop]
          omega
        · rw [← List.drop_take] at mem
          exact List.mem_of_mem_drop mem }

/-- A reported loss leaves only what is kept. -/
theorem report (tracked : Tracked values scenario run) :
    Tracked values scenario { run with ctx := { run.ctx with lagged := 0, lossAt := none }, reported := true } where
  wanted := tracked.wanted
  stored := tracked.stored
  ordered := tracked.ordered
  fresh := tracked.fresh
  past := tracked.past
  present := tracked.present
  whole := fun unreported => nomatch unreported
  ahead := fun unreported => nomatch unreported

/-- What an `expect_call` does when it finds its match at an index. -/
theorem expect_ok (tracked : Tracked values scenario run) {expected : ExpectCall} {index place : Nat}
    (answer : run.ctx.answer values expected = (run.ctx.dropFront (index + 1), some (.ok ())))
    (at_ : run.places[index]? = some place) :
    run.expect values expected = { run with
      ctx := run.ctx.dropFront (index + 1)
      places := run.places.drop (index + 1)
      consumed := place + 1 } := by
  have length := tracked.stored.length_eq
  have taken : run.places.take (index + 1) = run.places.take index ++ [place] := by
    rw [List.take_add_one, at_, Option.toList_some]
  have frames : (run.ctx.dropFront (index + 1)).frames = run.ctx.frames.drop (index + 1) := rfl
  unfold Run.expect
  rw [answer]
  dsimp only
  rw [frames, Lists.rtake_length_drop length, Lists.rdrop_length_drop length, taken, List.getLast?_concat]
  rfl

theorem expect (tracked : Tracked values scenario run) (expected : ExpectCall) :
    Tracked values scenario (run.expect values expected) := by
  rcases Ctx.answer_cases values run.ctx expected with ⟨answer, -⟩ | ⟨reason, answer⟩ | ⟨index, answer, found, -⟩
  · unfold Run.expect
    rw [answer]
    exact tracked
  · unfold Run.expect
    rw [answer]
    exact tracked.report
  · obtain ⟨below, -⟩ := List.findIdx?_eq_some_iff_getElem.mp found
    obtain ⟨place, at_, -⟩ := tracked.get (List.getElem?_eq_getElem below)
    rw [tracked.expect_ok answer at_]
    exact tracked.consume at_

theorem move (tracked : Tracked values scenario run) (move : Move) :
    Tracked values scenario (run.move values scenario move) := by
  cases move with
  | receive arrival => exact tracked.receive arrival
  | expect step =>
    unfold Run.move
    dsimp only
    split
    · next expected _ => exact tracked.expect expected
    · exact tracked

/-- A frame found before the loss is the first match there is, and stands before all that is gone. -/
theorem first (tracked : Tracked values scenario run) (unreported : run.reported = false) {expected : ExpectCall}
    (mem : .expectCall expected ∈ scenario.steps) {index : Nat}
    (found : run.ctx.frames.findIdx? (fun frame => expected.matches values frame.1) = some index)
    (before : ∀ loss, run.ctx.lossAt = some loss → index < loss) :
    ∃ place frame, run.places[index]? = some place ∧ run.ctx.frames[index]? = some frame ∧
      Stored values scenario run.emitted place frame ∧ expected.matches values frame.1 = true ∧
      run.MatchAt values expected place ∧ (∀ lost ∈ run.gone, place < lost) ∧
      ∀ earlier, run.consumed ≤ earlier → earlier < place → ¬ run.MatchAt values expected earlier := by
  obtain ⟨below, matched, unmatched⟩ := List.findIdx?_eq_some_iff_getElem.mp found
  obtain ⟨place, at_, stored⟩ := tracked.get (List.getElem?_eq_getElem below)
  have ahead : ∀ lost ∈ run.gone, place < lost := by
    intro lost gone
    cases marked : run.ctx.lossAt with
    | none =>
      rw [tracked.whole unreported marked] at gone
      cases gone
    | some loss =>
      have front : place ∈ run.places.take loss :=
        List.mem_of_getElem? ((List.getElem?_take_of_lt (before loss marked)).trans at_)
      exact (tracked.ahead unreported loss marked).2 place front lost gone
  refine ⟨place, run.ctx.frames[index], at_, List.getElem?_eq_getElem below, stored, matched, ?_, ahead, ?_⟩
  · obtain ⟨event, emitted, kept⟩ := stored
    exact ⟨event, emitted, (isMatch_iff_of_kept mem kept).mpr matched⟩
  · rintro earlier after lt ⟨event, emitted, matches_⟩
    rcases tracked.present earlier event after emitted (kept_of_isMatch mem matches_) with here | gone
    · -- A match kept before the first match found.
      obtain ⟨i, inside, rfl⟩ := List.getElem_of_mem here
      obtain ⟨indexed, rfl⟩ := List.getElem?_eq_some_iff.mp at_
      have lt : i < index := by
        rcases Nat.lt_trichotomy i index with lt | rfl | gt
        · exact lt
        · omega
        · have := List.pairwise_iff_getElem.mp tracked.ordered index i indexed inside gt
          omega
      obtain ⟨length, each⟩ := List.forall₂_iff_get.mp tracked.stored
      obtain ⟨event', emitted', kept⟩ := each i inside (by omega)
      obtain rfl : event' = event := Option.some.inj (emitted'.symm.trans emitted)
      exact unmatched i lt ((isMatch_iff_of_kept mem kept).mp matches_)
    · have := ahead earlier gone
      omega

end Tracked

theorem tracked_run (scenario : Scenario) (moves : List Move) : Tracked values scenario (run values scenario moves) := by
  induction moves using List.reverseRecOn with
  | nil => exact Tracked.start scenario
  | append_singleton moves last ih =>
    rw [run, List.foldl_concat]
    exact ih.move last

theorem bounded_run (scenario : Scenario) (moves : List Move) : (run values scenario moves).ctx.Bounded := by
  induction moves using List.reverseRecOn with
  | nil => exact ⟨rfl, Nat.zero_le _, .inl (Nat.zero_le _)⟩
  | append_singleton moves last ih =>
    rw [run, List.foldl_concat]
    change (Run.move values scenario (run values scenario moves) last).ctx.Bounded
    generalize run values scenario moves = before at ih
    cases last with
    | receive arrival =>
      have received : (before.receive values arrival).ctx = before.ctx.receive values arrival := by
        cases arrival <;> rfl
      exact received ▸ ih.receive arrival
    | expect step =>
      unfold Run.move
      dsimp only
      split
      · next expected _ =>
        unfold Run.expect
        rcases Ctx.answer_cases values before.ctx expected with ⟨answer, -⟩ | ⟨reason, answer⟩ | ⟨index, answer, -⟩
        · rw [answer]
          exact ih
        · rw [answer]
          exact ⟨ih.bytes, ih.cap, ih.size⟩
        · rw [answer]
          exact ih.dropFront (index + 1)
      · exact ih

/-! ## The steps of a scenario are runs -/

/-- The arrival that wakes a turn up, if it is one. -/
def Wake.arrivals : Wake → List Ctx.Arrival
  | .arrival received => [received]
  | .closed | .deadline | .cancelled => []

/-- All that the turns of an `expect_call` deliver. -/
def arrivals (turns : List (List Ctx.Arrival × Wake)) : List Ctx.Arrival :=
  turns.flatMap fun turn => turn.1 ++ turn.2.arrivals

namespace Run

variable {values}

def receiveAll (values : Values) (run : Run) (arrivals : List Ctx.Arrival) : Run :=
  arrivals.foldl (Run.receive values) run

theorem receive_ctx (run : Run) (arrival : Ctx.Arrival) :
    (run.receive values arrival).ctx = run.ctx.receive values arrival := by
  cases arrival <;> rfl

theorem receiveAll_ctx (run : Run) (arrivals : List Ctx.Arrival) :
    (run.receiveAll values arrivals).ctx = run.ctx.pump values arrivals := by
  induction arrivals generalizing run with
  | nil => rfl
  | cons arrival arrivals ih =>
    change ((run.receive values arrival).receiveAll values arrivals).ctx = _
    rw [ih, receive_ctx]
    rfl

theorem receiveAll_append (run : Run) (first rest : List Ctx.Arrival) :
    run.receiveAll values (first ++ rest) = (run.receiveAll values first).receiveAll values rest :=
  List.foldl_append

theorem receiveAll_same (values : Values) (run : Run) (arrivals : List Ctx.Arrival) :
    (run.receiveAll values arrivals).consumed = run.consumed ∧
      (run.receiveAll values arrivals).reported = run.reported := by
  induction arrivals generalizing run with
  | nil => exact ⟨rfl, rfl⟩
  | cons arrival arrivals ih =>
    have step : (run.receive values arrival).consumed = run.consumed ∧
        (run.receive values arrival).reported = run.reported := by
      cases arrival <;> exact ⟨rfl, rfl⟩
    change ((run.receive values arrival).receiveAll values arrivals).consumed = _ ∧
      ((run.receive values arrival).receiveAll values arrivals).reported = _
    rw [(ih _).1, (ih _).2]
    exact step

/-- A turn that finds no answer and is woken up by an arrival. -/
theorem expectCall_wait (run : Run) {expected : ExpectCall} {queue : List Ctx.Arrival}
    (none : (run.receiveAll values queue).ctx.answer values expected = ((run.receiveAll values queue).ctx, none))
    (arrival : Ctx.Arrival) (turns : List (List Ctx.Arrival × Wake)) :
    run.ctx.expectCall values expected ((queue, .arrival arrival) :: turns) =
      (run.receiveAll values (queue ++ [arrival])).ctx.expectCall values expected turns := by
  rw [receiveAll_append, Ctx.expectCall, ← receiveAll_ctx, none]
  dsimp only
  rw [← receive_ctx]
  rfl

theorem arrivals_cons (queue : List Ctx.Arrival) (arrival : Ctx.Arrival) (turns : List (List Ctx.Arrival × Wake)) :
    arrivals ((queue, .arrival arrival) :: turns) = queue ++ [arrival] ++ arrivals turns := rfl

/-- An `expect_call` that still waits has received all that its turns delivered. -/
theorem expectCall_append (run : Run) (expected : ExpectCall) (first rest : List (List Ctx.Arrival × Wake))
    (waits : (run.ctx.expectCall values expected first).2 = none) :
    run.ctx.expectCall values expected (first ++ rest) =
      (run.receiveAll values (arrivals first)).ctx.expectCall values expected rest := by
  induction first generalizing run with
  | nil => rfl
  | cons turn first ih =>
    obtain ⟨queue, wake⟩ := turn
    rcases Ctx.answer_cases values (run.receiveAll values queue).ctx expected with
      ⟨answer, -⟩ | ⟨_, answer⟩ | ⟨_, answer, -⟩
    · cases wake with
      | arrival arrival =>
        rw [expectCall_wait run answer] at waits
        rw [List.cons_append, expectCall_wait run answer, ih _ waits, arrivals_cons, receiveAll_append _ (queue ++ _)]
      | closed | deadline | cancelled =>
        rw [Ctx.expectCall, ← receiveAll_ctx, answer] at waits
        cases waits
    all_goals
      rw [Ctx.expectCall, ← receiveAll_ctx, answer] at waits
      cases waits

/-- An `expect_call` that succeeds found its answer in some turn, after all that was delivered up to then. -/
theorem expectCall_ok (run : Run) (expected : ExpectCall) (turns : List (List Ctx.Arrival × Wake)) {ctx : Ctx}
    (succeeds : run.ctx.expectCall values expected turns = (ctx, some (.ok ()))) :
    ∃ before queue wake after, turns = before ++ (queue, wake) :: after ∧
      (run.ctx.expectCall values expected before).2 = none ∧
      (run.receiveAll values (arrivals before ++ queue)).ctx.answer values expected = (ctx, some (.ok ())) := by
  induction turns generalizing run with
  | nil => cases succeeds
  | cons turn turns ih =>
    obtain ⟨queue, wake⟩ := turn
    rcases Ctx.answer_cases values (run.receiveAll values queue).ctx expected with
      ⟨answer, -⟩ | ⟨_, answer⟩ | ⟨_, answer, -⟩
    · cases wake with
      | arrival arrival =>
        rw [expectCall_wait run answer] at succeeds
        obtain ⟨before, last, wake, after, rfl, waits, found⟩ := ih _ succeeds
        refine ⟨(queue, .arrival arrival) :: before, last, wake, after, rfl, ?_, ?_⟩
        · rw [expectCall_wait run answer]
          exact waits
        · rw [arrivals_cons, List.append_assoc, receiveAll_append]
          exact found
      | closed | deadline | cancelled =>
        rw [Ctx.expectCall, ← receiveAll_ctx, answer] at succeeds
        cases succeeds
    all_goals
      rw [Ctx.expectCall, ← receiveAll_ctx, answer] at succeeds
      exact ⟨[], queue, wake, turns, rfl, rfl, answer.trans succeeds⟩

theorem expect_ctx (run : Run) (expected : ExpectCall) :
    (run.expect values expected).ctx = (run.ctx.answer values expected).1 := by
  unfold Run.expect
  split
  all_goals next answer => rw [answer]

variable {scenario : Scenario}

def moves (values : Values) (scenario : Scenario) (run : Run) (moves : List Move) : Run :=
  moves.foldl (Run.move values scenario) run

theorem moves_append (run : Run) (first rest : List Move) :
    run.moves values scenario (first ++ rest) = (run.moves values scenario first).moves values scenario rest :=
  List.foldl_append

theorem moves_receive (run : Run) (arrivals : List Ctx.Arrival) :
    run.moves values scenario (arrivals.map .receive) = run.receiveAll values arrivals := by
  unfold moves receiveAll
  rw [List.foldl_map]
  rfl

theorem expectCall_moves (run : Run) {expected : ExpectCall} (mem : .expectCall expected ∈ scenario.steps)
    (turns : List (List Ctx.Arrival × Wake)) :
    ∃ moves, (run.moves values scenario moves).ctx = (run.ctx.expectCall values expected turns).1 := by
  obtain ⟨step, at_⟩ := List.mem_iff_getElem?.mp mem
  induction turns generalizing run with
  | nil => exact ⟨[], rfl⟩
  | cons turn turns ih =>
    obtain ⟨queue, wake⟩ := turn
    have pumped : run.moves values scenario (queue.map .receive) = run.receiveAll values queue :=
      moves_receive run queue
    have asked : (run.moves values scenario (queue.map .receive ++ [.expect step])).ctx =
        ((run.ctx.pump values queue).answer values expected).1 := by
      rw [moves_append, pumped]
      unfold moves Run.move
      simp only [List.foldl_cons, List.foldl_nil, at_]
      rw [expect_ctx, receiveAll_ctx]
    unfold Ctx.expectCall
    split
    · next answer => exact ⟨_, asked.trans (by rw [answer])⟩
    · next waiting answer =>
      rw [answer] at asked
      cases wake with
      | arrival arrival =>
        obtain ⟨moves, here⟩ :=
          ih ((run.moves values scenario (queue.map .receive ++ [.expect step])).receive values arrival)
        refine ⟨(queue.map .receive ++ [.expect step]) ++ .receive arrival :: moves, ?_⟩
        rw [moves_append]
        refine here.trans ?_
        rw [receive_ctx, asked]
      | closed => exact ⟨_, asked⟩
      | deadline => exact ⟨_, asked⟩
      | cancelled => exact ⟨_, asked⟩

theorem runStep_moves (run : Run) {step : Action} (mem : step ∈ scenario.steps) (input : StepInput) :
    ∃ moves, (run.moves values scenario moves).ctx = (runStep values run.ctx input step).1 := by
  have pumped : (run.moves values scenario (input.queue.map .receive)).ctx = run.ctx.pump values input.queue := by
    rw [moves_receive, receiveAll_ctx]
  cases step with
  | other => exact ⟨_, pumped⟩
  | expectCall expected =>
    obtain ⟨moves, here⟩ :=
      expectCall_moves (run.moves values scenario (input.queue.map .receive)) mem input.turns
    refine ⟨input.queue.map .receive ++ moves, ?_⟩
    rw [moves_append, here, pumped]
    rfl

theorem runSteps_moves (run : Run) (steps : List (Action × StepInput)) (mem : ∀ step ∈ steps, step.1 ∈ scenario.steps) :
    ∃ moves, (run.moves values scenario moves).ctx = (runSteps values run.ctx steps).1 := by
  induction steps generalizing run with
  | nil => exact ⟨[], rfl⟩
  | cons head steps ih =>
    obtain ⟨step, input⟩ := head
    obtain ⟨mem, rest⟩ := List.forall_mem_cons.mp mem
    have first : ∃ moves, (run.moves values scenario moves).ctx =
        (if input.stopped then (run.ctx, .error "cancelled") else runStep values run.ctx input step).1 := by
      split
      · exact ⟨[], rfl⟩
      · exact runStep_moves run mem input
    obtain ⟨moves, first⟩ := first
    unfold runSteps
    split
    · next passed =>
      rw [passed] at first
      obtain ⟨moves', here⟩ := ih (run.moves values scenario moves) rest
      refine ⟨moves ++ moves', ?_⟩
      rw [moves_append, here, first]
    · next failed =>
      rw [failed] at first
      exact ⟨moves, first⟩

end Run

/-- The runner of a scenario only makes moves. -/
theorem runScenario_run (scenario : Scenario) (inputs : Nat → StepInput) :
    ∃ moves, (run values scenario moves).ctx = (runScenario values scenario inputs).1 := by
  refine Run.runSteps_moves { ctx := { wanted := wantedCalls scenario } } _ fun step mem => ?_
  obtain ⟨⟨action, index⟩, inside, rfl⟩ := List.mem_map.mp mem
  exact List.fst_mem_of_mem_zipIdx inside

/-! ## The law -/

/-- The state that an `expect_call` leaves behind: it has removed the frames up to a match, and no CALL before that one
is a match among those emitted since the last frame consumed, lost ones included. -/
def Run.ConsumesFirst (scenario : Scenario) (run : Run) (expected : ExpectCall) (ctx : Ctx) : Prop :=
  ∃ index place frame,
    run.ctx.frames[index]? = some frame ∧ run.places[index]? = some place ∧
    Stored values scenario run.emitted place frame ∧ ctx.frames = run.ctx.frames.drop (index + 1) ∧
    (run.expect values expected).consumed = place + 1 ∧
    expected.matches values frame.1 = true ∧ run.MatchAt values expected place ∧ run.consumed ≤ place ∧
    ∀ earlier, run.consumed ≤ earlier → earlier < place → ¬ run.MatchAt values expected earlier

theorem Tracked.consumesFirst {values} {scenario : Scenario} {run : Run} (tracked : Tracked values scenario run)
    (unreported : run.reported = false) {expected : ExpectCall} (mem : .expectCall expected ∈ scenario.steps) {ctx : Ctx}
    (answer : run.ctx.answer values expected = (ctx, some (.ok ()))) :
    run.ConsumesFirst values scenario expected ctx := by
  rcases Ctx.answer_cases values run.ctx expected with ⟨waits, -⟩ | ⟨_, fails⟩ | ⟨index, takes, found, before⟩
  · cases waits.symm.trans answer
  · cases fails.symm.trans answer
  · obtain rfl : run.ctx.dropFront (index + 1) = ctx := (Prod.mk.inj (takes.symm.trans answer)).1
    obtain ⟨place, frame, at_, kept, stored, matched, isMatch, -, earlier⟩ :=
      tracked.first unreported mem found before
    refine ⟨index, place, frame, kept, at_, stored, rfl, ?_, matched, isMatch, ?_, earlier⟩
    · rw [tracked.expect_ok takes at_]
    · exact tracked.fresh place (List.mem_of_getElem? at_)

/-- Behind a loss there is no answer but its report. -/
theorem Tracked.fails {values} {scenario : Scenario} {run : Run} (tracked : Tracked values scenario run)
    (unreported : run.reported = false) {expected : ExpectCall} (mem : .expectCall expected ∈ scenario.steps)
    {lost : Nat} (gone : lost ∈ run.gone)
    (behind : ∀ place ∈ run.places, run.MatchAt values expected place → lost < place) :
    ∃ reason, (run.ctx.answer values expected).2 = some (.error reason) := by
  rcases Ctx.answer_cases values run.ctx expected with ⟨-, whole⟩ | ⟨reason, fails⟩ | ⟨index, -, found, before⟩
  · rw [tracked.whole unreported whole] at gone
    cases gone
  · exact ⟨reason, by rw [fails]⟩
  · obtain ⟨place, frame, at_, -, -, -, isMatch, ahead, -⟩ := tracked.first unreported mem found before
    have := behind place (List.mem_of_getElem? at_) isMatch
    have := ahead lost gone
    omega

/-- What an `expect_call` may do with all that its turns deliver. -/
structure Run.Trustworthy (scenario : Scenario) (run : Run) (expected : ExpectCall) : Prop where
  /-- If it succeeds, it has waited through some turns and consumed the first match of all delivered up to then. -/
  succeeds : ∀ turns ctx, run.ctx.expectCall values expected turns = (ctx, some (.ok ())) →
    ∃ before queue wake after, turns = before ++ (queue, wake) :: after ∧
      (run.ctx.expectCall values expected before).2 = none ∧
      (run.receiveAll values (arrivals before ++ queue)).consumed = run.consumed ∧
      (run.receiveAll values (arrivals before ++ queue)).ConsumesFirst values scenario expected ctx
  /-- If it still waits when an event is lost before every match that it kept, it fails. -/
  fails : ∀ before queue wake after, (run.ctx.expectCall values expected before).2 = none →
    ∀ lost ∈ (run.receiveAll values (arrivals before ++ queue)).gone,
      (∀ place ∈ (run.receiveAll values (arrivals before ++ queue)).places,
        (run.receiveAll values (arrivals before ++ queue)).MatchAt values expected place → lost < place) →
      ∃ reason, (run.ctx.expectCall values expected (before ++ (queue, wake) :: after)).2 = some (.error reason)

theorem Tracked.receiveAll {values} {scenario : Scenario} {run : Run} (tracked : Tracked values scenario run)
    (arrivals : List Ctx.Arrival) : Tracked values scenario (run.receiveAll values arrivals) := by
  induction arrivals generalizing run with
  | nil => exact tracked
  | cons arrival arrivals ih => exact ih (tracked.move (.receive arrival))

theorem Tracked.trustworthy {values} {scenario : Scenario} {run : Run} (tracked : Tracked values scenario run)
    (unreported : run.reported = false) {expected : ExpectCall} (mem : .expectCall expected ∈ scenario.steps) :
    run.Trustworthy values scenario expected where
  succeeds turns ctx ok := by
    obtain ⟨before, queue, wake, after, split, waits, answer⟩ := Run.expectCall_ok run expected turns ok
    obtain ⟨consumed, reported⟩ := Run.receiveAll_same values run (arrivals before ++ queue)
    refine ⟨before, queue, wake, after, split, waits, consumed, ?_⟩
    exact (tracked.receiveAll _).consumesFirst (reported.trans unreported) mem answer
  fails before queue wake after waits lost gone behind := by
    obtain ⟨-, reported⟩ := Run.receiveAll_same values run (arrivals before ++ queue)
    obtain ⟨reason, answer⟩ := (tracked.receiveAll _).fails (reported.trans unreported) mem gone behind
    refine ⟨reason, ?_⟩
    rw [Run.expectCall_append run expected before _ waits]
    unfold Ctx.expectCall
    rw [← Run.receiveAll_ctx, ← Run.receiveAll_append]
    split
    · next found =>
      rw [found] at answer
      exact answer
    · next waiting =>
      rw [waiting] at answer
      cases answer

/-- **An `expect_call` takes the first match or fails.** In every run, whatever the channel skips and the runner drops,
the buffer keeps its bounds. Until a loss is reported, an `expect_call` that succeeds has consumed the first match
emitted after the frame consumed last, also among what reached it or was lost while it waited, and one with no match
kept before a lost event fails. -/
theorem expectCall_first (scenario : Scenario) (moves : List Move) :
    (run values scenario moves).ctx.Bounded ∧
      ((run values scenario moves).reported = false →
        ∀ expected, .expectCall expected ∈ scenario.steps →
          (run values scenario moves).Trustworthy values scenario expected) :=
  ⟨bounded_run values scenario moves, fun unreported _ mem =>
    (tracked_run values scenario moves).trustworthy unreported mem⟩

/-- A frame before a loss is still the first match; one behind it is not taken. -/
example :
    let heartbeat : Event :=
      .frame ⟨.in, none, none, .array [.integer 2, .string "1", .string "Heartbeat", .object []]⟩
    let expected : ExpectCall := ⟨"Heartbeat", none, none, 50⟩
    let values : Values := ⟨fun _ => "", fun _ _ => false⟩
    let moves : List Move := [.receive (.event heartbeat), .receive (.lagged .other []), .receive (.event heartbeat)]
    let taken := (run values ⟨[.expectCall expected]⟩ moves).expect values expected
    (taken.consumed, taken.places, taken.gone, taken.reported) = (1, [2], [1], false) ∧
      (taken.expect values expected).reported = true := by
  decide +kernel

end KirbyOcpp.Runner
