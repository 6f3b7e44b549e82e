import KirbyOcpp.Csms.Registry
import KirbyOcpp.Scenario

/-!
# Waiting in a script of the central system: `script.rs`

Two tasks share the `Backlog`: the pump moves the events of the server into it; the runner looks in it for the CALL
that its `wait_call` step waits for, or at the stations that its `wait_station` step waits for, and sleeps on `wake`
between two looks. `Watch` is both tasks, one atomic action at a time, in any order.
-/

namespace KirbyOcpp.Csms.Script

open Ws (Json Frame)
open Runner (Values jsonSubset)

/-- Inbound CALLs remembered for `wait_call`. -/
def seenCap : Nat := 10000

/-- Approximate bytes of remembered CALLs. -/
def seenBytes : Nat := 16 * 1024 * 1024

structure WaitCall where
  station : Option String
  call : String
  payloadContains : Option Json
  timeoutMs : Nat

structure WaitStation where
  station : Option String
  count : Option Nat
  booted : Bool
  timeoutMs : Nat

inductive Step where
  | waitCall (wait : WaitCall)
  | waitStation (wait : WaitStation)
  /-- Any other step. -/
  | other

/-- An inbound CALL seen by the pump. -/
structure Seen where
  station : String
  action : String
  /-- `Null` unless a `wait_call` for this action matches on the payload. -/
  payload : Json
  /-- A `wait_call` took it already. -/
  consumed : Bool := false
  /-- Approximate memory of the entry. -/
  bytes : Nat

/-- What the pump task collects while steps run. -/
structure Backlog where
  calls : List Seen := []
  bytes : Nat := 0
  /-- Actions some `wait_call` waits for, and whether any such step matches on the payload. -/
  wanted : List (String × Bool)
  maxBytes : Nat := seenBytes
  lagged : Bool := false
  closed : Bool := false

variable (values : Values)

namespace Backlog

/-- `Backlog::new`. -/
def new (steps : List Step) : Backlog where
  wanted := steps.foldl (fun wanted step => match step with
    | .waitCall wait =>
      Assoc.write wanted wait.call ((Assoc.get wanted wait.call).getD false || wait.payloadContains.isSome)
    | .waitStation _ | .other => wanted) []

/-- More than one CALL, and too many or too large. -/
def Full (b : Backlog) : Prop := 1 < b.calls.length ∧ (seenCap < b.calls.length ∨ b.maxBytes < b.bytes)

instance (b : Backlog) : Decidable b.Full := inferInstanceAs (Decidable (_ ∧ _))

/-- Forgets the oldest CALLs while there are too many. -/
def makeRoom (b : Backlog) : Backlog :=
  if b.Full then
    makeRoom { b with calls := b.calls.tail, bytes := b.bytes - ((b.calls.head?.map (·.bytes)).getD 0) }
  else b
termination_by b.calls.length
decreasing_by
  next full =>
    have := full.1
    simp only [List.length_tail]
    omega

/-- What is kept of a CALL. -/
def seenOf (needsPayload : Bool) (station action : String) (payload : Json) : Seen :=
  let payload := if needsPayload then payload else .null
  { station, action, payload
    bytes := station.utf8ByteSize + action.utf8ByteSize + 64 +
      if needsPayload then (values.toString payload).utf8ByteSize else 0 }

def push (b : Backlog) (seen : Seen) : Backlog :=
  { b with calls := b.calls ++ [seen], bytes := b.bytes + seen.bytes }

def record (b : Backlog) : CsmsEvent → Backlog
  | .frame station .in (.call _ action payload) =>
    match Assoc.get b.wanted action with
    | none => b
    | some needsPayload => (b.push (seenOf values needsPayload station action payload)).makeRoom
  | _ => b

end Backlog

/-- Whether a CALL is one that the step waits for. -/
def WaitCall.fits (wait : WaitCall) (station action : String) (payload : Json) : Bool :=
  decide (action = wait.call) && wait.station.all (fun id => decide (station = id)) &&
    wait.payloadContains.all fun expected => jsonSubset values expected payload

/-- The place of the oldest unconsumed CALL that fits. -/
def Backlog.find (b : Backlog) (wait : WaitCall) : Option Nat :=
  b.calls.findIdx? fun seen => !seen.consumed && wait.fits values seen.station seen.action seen.payload

/-- Consumes the oldest unconsumed CALL that fits. -/
def Backlog.takeCall (b : Backlog) (wait : WaitCall) : Backlog × Bool :=
  match b.find values wait with
  | some i => ({ b with calls := b.calls.modify i fun seen => { seen with consumed := true } }, true)
  | none => (b, false)

/-! ## The stations -/

/-- What the server says of a station. -/
structure StationView where
  id : String
  connected : Bool
  /-- Its BootNotification was seen. -/
  hasBoot : Bool

/-- `is_ready`. -/
def StationView.isReady (view : StationView) (booted : Bool) : Bool := !booted || view.hasBoot

/-- The number of connected stations that are ready. -/
def connected (views : List StationView) (booted : Bool) : Nat :=
  (views.filter fun view => view.connected && view.isReady booted).length

/-- What a `wait_station` waits for. The server is asked for all of it at once here. -/
def stationsReady (views : List StationView) (wait : WaitStation) : Bool :=
  let namedOk := wait.station.all fun id =>
    (views.find? fun view => decide (view.id = id)).any fun view => view.connected && view.isReady wait.booted
  let countOk := match wait.station, wait.count with
    | some _, none => true
    | _, count => decide (count.getD 1 ≤ connected views wait.booted)
  namedOk && countOk

/-! ## The pump and the runner -/

/-- What a step waits for. -/
inductive Waiting where
  | call (wait : WaitCall)
  | station (wait : WaitStation)

/-- Where the runner stands. -/
inductive Phase where
  /-- Between two steps. -/
  | idle
  /-- In a step that waits for no event. -/
  | busy
  /-- About to look for what it waits for. -/
  | looking (waiting : Waiting)
  /-- In `next_event`: it found nothing, and asks whether the events have ended. -/
  | missed (waiting : Waiting)
  /-- In `next_event`: it sleeps until `wake`. -/
  | sleeping (waiting : Waiting)

def Step.begin : Step → Phase
  | .waitCall wait => .looking (.call wait)
  | .waitStation wait => .looking (.station wait)
  | .other => .busy

/-- The pump task and the runner, with what they share. -/
structure Watch where
  backlog : Backlog
  /-- `Notify` keeps one permit. -/
  permit : Bool := false
  /-- The pump has changed the backlog and has not notified the runner yet. -/
  notifying : Bool := false
  phase : Phase := .idle
  /-- The step that is next. -/
  next : Nat := 0
  /-- A step has failed; the rest are skipped. -/
  failed : Bool := false

/-- One atomic action of a task. -/
inductive Move where
  /-- The pump takes the next event, learns that events were lost, or that there are no more. -/
  | receive (event : CsmsEvent)
  | lag
  | close
  | notify
  /-- The runner begins the next step. -/
  | begin
  /-- A step that waits for no event is over. -/
  | finish (result : Except String Unit)
  /-- The runner looks for a CALL, or at the stations as they are now. -/
  | look (views : List StationView)
  | check (views : List StationView)
  | wake
  /-- The time of the step is over. -/
  | timeout (views : List StationView)
  /-- The time of the whole script is over. -/
  | deadline

/-- How a step ended. -/
inductive Outcome where
  | passed
  | failed (reason : String)
deriving DecidableEq

/-- What a step says that has waited in vain. -/
def Waiting.reason (lagged : Bool) (views : List StationView) : Waiting → String
  | .call wait =>
    let lost := if lagged then " (events were dropped, a CALL may have been missed)" else ""
    s!"no matching {wait.call} CALL within {wait.timeoutMs} ms{lost}"
  | .station wait =>
    let connected := connected views wait.booted
    match wait.station with
    | some id => s!"station {id} did not connect within {wait.timeoutMs} ms ({connected} connected)"
    | none =>
      let need := wait.count.getD 1
      s!"fewer than {need} stations connected within {wait.timeoutMs} ms ({connected} connected)"

/-- The step is over. -/
def Watch.ended (w : Watch) (outcome : Outcome) : Watch × Option Outcome :=
  ({ w with phase := .idle, next := w.next + 1, failed := w.failed || decide (outcome ≠ .passed) }, some outcome)

/-- One action; a task does not do what it is not about to do. -/
def Watch.move (steps : List Step) (w : Watch) : Move → Watch × Option Outcome
  | .receive event =>
    if w.notifying || w.backlog.closed then (w, none)
    else ({ w with backlog := w.backlog.record values event, notifying := true }, none)
  | .lag =>
    if w.notifying || w.backlog.closed then (w, none)
    else ({ w with backlog := { w.backlog with lagged := true }, notifying := true }, none)
  | .close =>
    if w.notifying || w.backlog.closed then (w, none)
    else ({ w with backlog := { w.backlog with closed := true }, notifying := true }, none)
  | .notify => if w.notifying then ({ w with permit := true, notifying := false }, none) else (w, none)
  | .begin =>
    match w.phase, steps[w.next]? with
    | .idle, some step => if w.failed then (w, none) else ({ w with phase := step.begin }, none)
    | _, _ => (w, none)
  | .finish result =>
    match w.phase with
    | .busy =>
      match result with
      | .ok () => w.ended .passed
      | .error reason => w.ended (.failed reason)
    | _ => (w, none)
  | .look views =>
    match w.phase with
    | .looking (.call wait) =>
      match w.backlog.takeCall values wait with
      | (backlog, true) => { w with backlog }.ended .passed
      | (_, false) => ({ w with phase := .missed (.call wait) }, none)
    | .looking (.station wait) =>
      if stationsReady views wait then w.ended .passed else ({ w with phase := .missed (.station wait) }, none)
    | _ => (w, none)
  | .check views =>
    match w.phase with
    | .missed waiting =>
      if w.backlog.closed then w.ended (.failed (waiting.reason w.backlog.lagged views))
      else ({ w with phase := .sleeping waiting }, none)
    | _ => (w, none)
  | .wake =>
    match w.phase with
    | .sleeping waiting =>
      if w.permit then ({ w with permit := false, phase := .looking waiting }, none) else (w, none)
    | _ => (w, none)
  | .timeout views =>
    match w.phase with
    | .sleeping waiting =>
      -- `timeout_at` looks at the permit first.
      if w.permit then (w, none) else w.ended (.failed (waiting.reason w.backlog.lagged views))
    | _ => (w, none)
  | .deadline =>
    -- Looked at only when the step has nothing to do.
    match w.phase with
    | .busy => w.ended (.failed "the script --timeout was reached")
    | .sleeping _ => if w.permit then (w, none) else w.ended (.failed "the script --timeout was reached")
    | _ => (w, none)

end KirbyOcpp.Csms.Script
