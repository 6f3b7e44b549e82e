import KirbyOcpp.Data.Assoc

/-!
# The timer wheel: `timers.rs`

The wheel keeps a generation for each armed key and reads what its tasks send. The tasks run beside it: the
runtime polls them in any order, never before their sleep has ended. An abort stops a task where it sleeps; a
task that is just being polled goes on to its next sleep or to its end, so a task may be polled after its abort.

Times and delays are nanoseconds. `cancel_where` asks its predicate once for each key, so what a predicate with
a memory of its own drops is dropped by a function of the keys. A future of `next` keeps nothing between two
turns of its loop, so a future that is dropped shows only in the turns that it does not take.

`Timers` is the wheel with its tasks and a ghost `log`, latest first: what was armed, disarmed and returned,
and which arming has fired.
-/

namespace KirbyOcpp

variable {K : Type} [DecidableEq K]

/-- Longest single sleep of a timer task (24 hours). -/
def maxDelay : Nat := 24 * 60 * 60 * 10 ^ 9

/-- Longest total delay of one arming (200 years). -/
def TimerWheel.maxTotalDelay : Nat := 200 * 365 * 24 * 60 * 60 * 10 ^ 9

structure Armed where
  generation : UInt64
  /-- The number of its task. -/
  task : Nat
deriving DecidableEq

/-- Named one-shot timers feeding one receiver. -/
structure TimerWheel (K : Type) where
  rx : List (K × UInt64) := []
  armed : List (K × Armed) := []
  nextGeneration : UInt64 := 0

/-- The task of one arming. -/
structure TimerTask (K : Type) where
  number : Nat
  fired : K
  generation : UInt64
  remaining : Nat
  /-- When the sleep ends; none before the first poll. -/
  sleepUntil : Option Nat := none
  aborted : Bool := false

/-- The wheel and the tasks that it has spawned. -/
structure Runtime (K : Type) where
  wheel : TimerWheel K := {}
  tasks : List (TimerTask K) := []
  /-- The number of the next task. -/
  spawned : Nat := 0
  now : Nat := 0

/-! ## The tasks -/

namespace TimerTask

/-- One round of sleep, of the whole rest if it is short enough. -/
def sleep (task : TimerTask K) (now : Nat) : TimerTask K :=
  { task with sleepUntil := some (now + min task.remaining maxDelay) }

/-- One poll: the task at its next sleep, or none if its whole delay is over. -/
def poll (task : TimerTask K) (now : Nat) : Option (TimerTask K) :=
  match task.sleepUntil with
  | none => some (task.sleep now)
  | some stop =>
    if now < stop then some task
    else if maxDelay < task.remaining then
      some ({ task with remaining := task.remaining - maxDelay }.sleep now)
    else none

end TimerTask

namespace Runtime

def abort (r : Runtime K) (number : Nat) : Runtime K :=
  { r with tasks := r.tasks.map fun task => if task.number = number then { task with aborted := true } else task }

/-- Drops entries of the map, which aborts their tasks. -/
def dropArmed (r : Runtime K) (dropped : List (K × Armed)) : Runtime K :=
  dropped.foldl (fun r entry => r.abort entry.2.task) r

/-- The runtime polls a task. A task whose delay is over sends its key and its generation. -/
def pollTask (r : Runtime K) (number : Nat) : Runtime K :=
  match r.tasks.find? fun task => task.number == number with
  | none => r
  | some task =>
    match task.poll r.now with
    | some task => { r with tasks := r.tasks.map fun other => if other.number = number then task else other }
    | none =>
      { r with
        tasks := r.tasks.filter fun other => other.number ≠ number
        wheel := { r.wheel with rx := r.wheel.rx ++ [(task.fired, task.generation)] } }

/-- The runtime drops a task that was aborted. -/
def reap (r : Runtime K) (number : Nat) : Runtime K :=
  { r with tasks := r.tasks.filter fun task => !(task.number == number && task.aborted) }

/-! ## The wheel -/

/-- Arms `key` to fire after `delay`; an armed `key` is replaced. -/
def set (r : Runtime K) (key : K) (delay : Nat) : Runtime K :=
  let generation := r.wheel.nextGeneration
  let task := { number := r.spawned, fired := key, generation, remaining := min delay TimerWheel.maxTotalDelay }
  let replaced := r.wheel.armed.filter fun entry => entry.1 = key
  let wheel := { r.wheel with
    nextGeneration := r.wheel.nextGeneration + 1
    armed := Assoc.write r.wheel.armed key { generation, task := r.spawned } }
  ({ r with wheel, tasks := r.tasks ++ [task], spawned := r.spawned + 1 }).dropArmed replaced

/-- Whether `key` is armed and has not fired yet. -/
def isArmed (r : Runtime K) (key : K) : Bool := (Assoc.get r.wheel.armed key).isSome

/-- Arms `key` only if it is not armed already; whether it was armed now. -/
def setIfIdle (r : Runtime K) (key : K) (delay : Nat) : Bool × Runtime K :=
  if r.isArmed key then (false, r) else (true, r.set key delay)

/-- Disarms every key for which `predicate` holds. -/
def cancelWhere (r : Runtime K) (predicate : K → Bool) : Runtime K :=
  let dropped := r.wheel.armed.filter fun entry => predicate entry.1
  ({ r with wheel := { r.wheel with armed := Assoc.eraseWhere r.wheel.armed predicate } }).dropArmed dropped

/-- Disarms `key`; whether it was armed. -/
def cancel (r : Runtime K) (key : K) : Bool × Runtime K := (r.isArmed key, r.cancelWhere fun other => other = key)

/-- Disarms everything. -/
def cancelAll (r : Runtime K) : Runtime K := r.cancelWhere fun _ => true

/-- One turn of the loop in `next`: none if it waits, else the key that it returns, if the message is current. -/
def turn (r : Runtime K) : Option (Option K × Runtime K) :=
  match r.wheel.rx with
  | [] => none
  | (key, generation) :: rx =>
    let r := { r with wheel := { r.wheel with rx } }
    let current := (Assoc.get r.wheel.armed key).any fun armed => armed.generation == generation
    if current then some (some key, (r.cancel key).2) else some (none, r)

/-- The turns of one poll of `next`; it waits when the channel is empty. -/
def nextTurns : Nat → Runtime K → Option K × Runtime K
  | 0, r => (none, r)
  | turns + 1, r =>
    match r.turn with
    | none => (none, r)
    | some (some key, r) => (some key, r)
    | some (none, r) => nextTurns turns r

/-- A poll of `next`: the key that fires next, or none if it waits. -/
def next (r : Runtime K) : Option K × Runtime K := r.nextTurns r.wheel.rx.length

end Runtime

/-! ## Runs -/

inductive TimerEvent (K : Type) where
  /-- The arming of that number, with its delay and its time. -/
  | armed (number : Nat) (key : K) (delay time : Nat)
  | disarmed (which : K → Bool)
  /-- The task of the arming has sent. -/
  | fired (number : Nat)
  | returned (key : K) (time : Nat)

inductive TimerInput (K : Type) where
  | set (key : K) (delay : Nat)
  | setIfIdle (key : K) (delay : Nat)
  | cancel (key : K)
  | cancelWhere (predicate : K → Bool)
  | cancelAll
  /-- One turn of a `next` that is being polled. -/
  | turn
  | pollTask (number : Nat)
  | reap (number : Nat)
  /-- Time passes. -/
  | advance (duration : Nat)

structure Timers (K : Type) where
  runtime : Runtime K := {}
  log : List (TimerEvent K) := []

namespace Timers

def step (s : Timers K) : TimerInput K → Timers K
  | .set key delay =>
    ⟨s.runtime.set key delay, .armed s.runtime.spawned key delay s.runtime.now :: s.log⟩
  | .setIfIdle key delay =>
    match s.runtime.setIfIdle key delay with
    | (true, runtime) => ⟨runtime, .armed s.runtime.spawned key delay s.runtime.now :: s.log⟩
    | (false, runtime) => ⟨runtime, s.log⟩
  | .cancel key => ⟨(s.runtime.cancel key).2, .disarmed (fun other => other = key) :: s.log⟩
  | .cancelWhere predicate => ⟨s.runtime.cancelWhere predicate, .disarmed predicate :: s.log⟩
  | .cancelAll => ⟨s.runtime.cancelAll, .disarmed (fun _ => true) :: s.log⟩
  | .turn =>
    match s.runtime.turn with
    | none => s
    | some (some key, runtime) => ⟨runtime, .returned key s.runtime.now :: s.log⟩
    | some (none, runtime) => ⟨runtime, s.log⟩
  | .pollTask number =>
    let sent := (s.runtime.tasks.find? fun task => task.number == number).any fun task =>
      (task.poll s.runtime.now).isNone
    ⟨s.runtime.pollTask number, if sent then .fired number :: s.log else s.log⟩
  | .reap number => ⟨s.runtime.reap number, s.log⟩
  | .advance duration => ⟨{ s.runtime with now := s.runtime.now + duration }, s.log⟩

def run (s : Timers K) (inputs : List (TimerInput K)) : Timers K := inputs.foldl step s

end Timers

end KirbyOcpp
