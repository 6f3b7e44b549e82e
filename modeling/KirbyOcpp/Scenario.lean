import KirbyOcpp.Data.Assoc
import KirbyOcpp.Station.Calls
import KirbyOcpp.Ws.Task

/-!
# Expecting CALLs in a scenario

`scenario/runner.rs`: the frames that the runner of a scenario keeps from the events of its station, and the step
`expect_call`, which looks for a CALL among them. The runner reads the events from a broadcast channel. When it falls
behind, the channel skips events and says how many; when too many frames wait, the runner drops the oldest.
-/

namespace KirbyOcpp.Runner

open Ws (Direction FrameRecord Json)
open Actor (saturatingAdd)

deriving instance DecidableEq for Direction

/-! ## JSON values -/

/-- `serde_json`: the text of a value, and when two values are equal. -/
structure Values where
  toString : Json → String
  eq : Json → Json → Bool

/-- The item of an array. -/
def item : Json → Nat → Option Json
  | .array items, index => items[index]?
  | _, _ => none

def truncate : Json → Nat → Json
  | .array items, length => .array (items.take length)
  | value, _ => value

variable (values : Values)

mutual

/-- Every part of the first value is present in the second. -/
def jsonSubset : Json → Json → Bool
  | .object expected, .object actual => fieldsSubset expected actual
  | .array expected, .array actual => decide (expected.length = actual.length) && itemsSubset expected actual
  | expected, actual => values.eq expected actual

def fieldsSubset : List (String × Json) → List (String × Json) → Bool
  | [], _ => true
  | (key, value) :: expected, actual =>
    (match actual.lookup key with
      | some found => jsonSubset value found
      | none => false) && fieldsSubset expected actual

def itemsSubset : List Json → List Json → Bool
  | expected :: es, actual :: as => jsonSubset expected actual && itemsSubset es as
  | _, _ => true

end

/-! ## Scenarios -/

/-- What an `expect_call` waits for. -/
structure ExpectCall where
  call : String
  direction : Option Direction
  /-- Subset the CALL payload must contain. -/
  payload : Option Json
  timeoutMs : Nat

inductive Action where
  | expectCall (expected : ExpectCall)
  /-- A wait or a command. -/
  | other

structure Scenario where
  steps : List Action

/-- The action names some `expect_call` waits for, and whether any of them matches on the payload. -/
def wantedCalls (scenario : Scenario) : List (String × Bool) :=
  scenario.steps.foldl (fun wanted step => match step with
    | .expectCall expected =>
      Assoc.write wanted expected.call
        ((Assoc.get wanted expected.call).getD false || expected.payload.isSome)
    | .other => wanted) []

/-! ## The frames kept -/

inductive Event where
  | frame (record : FrameRecord)
  /-- A log line, or a change of the snapshot. -/
  | other

/-- CALL frames kept at most. -/
def frameCap : Nat := 10000

/-- Approximate bytes of kept frames at most. -/
def maxFrameBytes : Nat := 16 * 1024 * 1024

structure Ctx where
  /-- Events lost since the last report. -/
  lagged : Nat := 0
  /-- Where the earliest loss sits: lost frames would come after `frames.take lossAt`. -/
  lossAt : Option Nat := none
  wanted : List (String × Bool)
  /-- CALL frames that a later `expect_call` can still match, with their sizes. -/
  frames : List (FrameRecord × Nat) := []
  frameBytes : Nat := 0

/-- What is kept of a frame: nothing unless it is a CALL that some `expect_call` waits for, and its payload only if one
matches on it. -/
def kept (wanted : List (String × Bool)) (record : FrameRecord) : Option (FrameRecord × Nat) :=
  if (item record.frame 0).bind Json.asU64 = some 2 then
    (((item record.frame 2).bind Json.asStr).bind (Assoc.get wanted)).map fun needsPayload =>
      if needsPayload then (record, (values.toString record.frame).utf8ByteSize)
      else ({ record with frame := truncate record.frame 3 }, 128)
  else none

namespace Ctx

/-- Removes the `n` oldest frames. -/
def dropFront (ctx : Ctx) (n : Nat) : Ctx :=
  { ctx with
    frames := ctx.frames.drop n
    frameBytes := (ctx.frames.take n).foldl (fun bytes frame => bytes - frame.2) ctx.frameBytes
    lossAt := ctx.lossAt.map (· - n) }

/-- Too many frames, or too many bytes of them. -/
def Full (ctx : Ctx) : Prop :=
  1 < ctx.frames.length ∧ (frameCap < ctx.frames.length ∨ maxFrameBytes < ctx.frameBytes)

instance (ctx : Ctx) : Decidable ctx.Full := inferInstanceAs (Decidable (_ ∧ _))

/-- Drops the oldest frames while there are too many; the dropped frame could have been the one a later `expect_call`
wants. -/
def makeRoom (ctx : Ctx) : Ctx :=
  if ctx.Full then
    { ctx.dropFront 1 with lagged := saturatingAdd ctx.lagged 1, lossAt := some 0 }.makeRoom
  else ctx
termination_by ctx.frames.length
decreasing_by
  next full =>
    have := full.1
    simp only [dropFront, List.length_drop]
    omega

def push (ctx : Ctx) (frame : FrameRecord × Nat) : Ctx :=
  { ctx with frameBytes := ctx.frameBytes + frame.2, frames := ctx.frames ++ [frame] }

def record (ctx : Ctx) : Event → Ctx
  | .other => ctx
  | .frame record =>
    match kept values ctx.wanted record with
    | none => ctx
    | some frame => (ctx.push frame).makeRoom

def noteLost (ctx : Ctx) (missed : Nat) : Ctx :=
  { ctx with
    lagged := saturatingAdd ctx.lagged missed
    lossAt := some (ctx.lossAt.getD ctx.frames.length) }

/-- What one receive from the channel gives: an event, or how many the channel skipped. -/
inductive Arrival where
  | event (event : Event)
  /-- The events skipped, of which the runner only learns the number. -/
  | lagged (first : Event) (rest : List Event)

def receive (ctx : Ctx) : Arrival → Ctx
  | .event event => ctx.record values event
  | .lagged _ rest => ctx.noteLost (rest.length + 1)

/-- Takes all that the channel holds. -/
def pump (ctx : Ctx) (queue : List Arrival) : Ctx := queue.foldl (receive values) ctx

end Ctx

/-! ## `expect_call` -/

def ExpectCall.matches (expected : ExpectCall) (record : FrameRecord) : Bool :=
  decide ((item record.frame 2).bind Json.asStr = some expected.call) &&
    expected.direction.all (fun direction => decide (direction = record.direction)) &&
      expected.payload.all fun payload => jsonSubset values payload ((item record.frame 3).getD .null)

/-- Why the loop wakes up after it found no answer. -/
inductive Wake where
  | arrival (arrival : Ctx.Arrival)
  | closed
  | deadline
  | cancelled

namespace Ctx

/-- The answer from the frames kept, if there is one yet: the first match if it stands before the earliest loss, and
the report of the loss, which clears it, if there is one. -/
def answer (ctx : Ctx) (expected : ExpectCall) : Ctx × Option (Except String Unit) :=
  match (ctx.frames.findIdx? fun frame => expected.matches values frame.1).filter
      fun index => ctx.lossAt.all fun loss => decide (index < loss) with
  | some index => (ctx.dropFront (index + 1), some (.ok ()))
  | none =>
    if ctx.lossAt.isSome then
      ({ ctx with lagged := 0, lossAt := none },
        some (.error (s!"the scenario runner fell behind and {ctx.lagged} station events were dropped; " ++
          "CALL frames may have been missed, so `expect_call` cannot be trusted")))
    else (ctx, none)

/-- The loop of `expect_call`, from what the channel holds in each turn and what wakes the turn up. There is no result
while it waits. -/
def expectCall (ctx : Ctx) (expected : ExpectCall) :
    List (List Arrival × Wake) → Ctx × Option (Except String Unit)
  | [] => (ctx, none)
  | (queue, wake) :: turns =>
    match (ctx.pump values queue).answer values expected with
    | (ctx, some result) => (ctx, some result)
    | (ctx, none) =>
      match wake with
      | .arrival arrival => (ctx.receive values arrival).expectCall expected turns
      | .closed => (ctx, some (.error "station stopped"))
      | .deadline =>
        (ctx, some (.error s!"timed out after {expected.timeoutMs} ms waiting for a {expected.call} CALL"))
      | .cancelled => (ctx, some (.error "cancelled"))

end Ctx

/-! ## The run -/

/-- What happens in one step: what the channel holds at its start, the turns of its `expect_call`, and the result of
any other step. -/
structure StepInput where
  /-- The run was cancelled before the step. -/
  stopped : Bool := false
  queue : List Ctx.Arrival := []
  turns : List (List Ctx.Arrival × Wake) := []
  result : Except String Unit := .ok ()

def runStep (ctx : Ctx) (input : StepInput) : Action → Ctx × Except String Unit
  | .expectCall expected =>
    let (ctx, result) := (ctx.pump values input.queue).expectCall values expected input.turns
    -- A step whose turns have run out is stopped with the run.
    (ctx, result.getD (.error "cancelled"))
  | .other => (ctx.pump values input.queue, input.result)

inductive StepStatus where
  | passed
  | failed (reason : String)
  | skipped

/-- The steps in order; those behind one that failed are skipped. -/
def runSteps (ctx : Ctx) : List (Action × StepInput) → Ctx × List StepStatus
  | [] => (ctx, [])
  | (step, input) :: steps =>
    match if input.stopped then (ctx, .error "cancelled") else runStep values ctx input step with
    | (ctx, .ok ()) =>
      let (ctx, statuses) := runSteps ctx steps
      (ctx, .passed :: statuses)
    | (ctx, .error reason) => (ctx, .failed reason :: steps.map fun _ => .skipped)

def runScenario (scenario : Scenario) (inputs : Nat → StepInput) : Ctx × List StepStatus :=
  runSteps values { wanted := wantedCalls scenario } (scenario.steps.zipIdx.map fun (step, index) => (step, inputs index))

end KirbyOcpp.Runner
