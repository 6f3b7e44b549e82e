import KirbyOcpp.Station.Step

/-!
# The tasks of the CALLs: `call_raw`

`call_raw` spawns a task for each CALL. The task hands one attempt after the other to the connection until
one is answered, its error is final or its attempts are used up; its result comes back to the actor as a
`CallDone`. The task of a CALL that is no longer pending has ended or is aborted.

The system is the actor with its tasks and the results on their way. Its moves happen in any order: the
actor wakes up, a task hands over its next attempt or learns the outcome of the last one, the actor
receives a result.

* `handed` is a ghost: every attempt, latest first, with the registration of the station at that moment.
* `exposed` is a ghost: while the CALL was in flight the station lost a registration that it needs.
-/

namespace KirbyOcpp

/-- Where a task is in its loop. -/
inductive TaskPhase where
  /-- The next attempt is due. -/
  | ready
  /-- An attempt has been handed to the connection. -/
  | awaiting
  /-- The result has been sent to the actor. -/
  | finished
deriving DecidableEq

/-- The task of a CALL. -/
structure CallTask where
  call : PendingCall
  phase : TaskPhase := .ready
  /-- Attempts handed to the connection. -/
  attempt : Nat := 0
  exposed : Bool := false

/-- One attempt of a CALL. -/
structure Attempt where
  call : PendingCall
  registration : Option RegistrationStatus
  exposed : Bool

/-- A `CallDone` on its way to the actor. -/
structure Completion where
  token : Nat
  generation : Nat
  result : CallResult

/-- The actor and the tasks of its CALLs. -/
structure StationTasks where
  actor : Actor
  tasks : List CallTask := []
  /-- The results on their way, oldest first. -/
  inbox : List Completion := []
  handed : List Attempt := []

/-- `may_send` lets `call` through. -/
def PendingCall.passes (call : PendingCall) (registration : Option RegistrationStatus) : Bool :=
  match call.origin, registration with
  | .raw, _ => true
  | _, some .accepted => true
  | .triggered, some .pending => true
  | _, _ => call.request.isBoot

namespace Actor

/-- The registration that `input` leaves, if it ends one: a reset, a boot that is not accepted, the end of
the station. -/
def lowers (a : Actor) (input : Input) : Option (Option RegistrationStatus) :=
  if a.stopped then none
  else match input with
    | .shutdown _ => some none
    | .incoming (.reset _) => if a.link.conn then some none else none
    | .callDone token generation result =>
      if generation ≠ a.link.generation then none
      else match a.calls.find? fun call => call.token == token with
        | some { continuation := .boot _ _, .. } =>
          match decodeBoot result with
          | .ok response => if response.status = .accepted then none else some (some response.status)
          | .error _ => none
        | _ => none
    | _ => none

end Actor

namespace StationTasks

/-- The task of `call` after an iteration that lowers the registration to `lowered`. -/
def exposeTo (lowered : Option (Option RegistrationStatus)) (task : CallTask) : CallTask :=
  { task with exposed := task.exposed || lowered.any fun registration => !task.call.passes registration }

/-- The actor wakes up; the tasks of new CALLs are spawned, those of CALLs that are gone end. -/
def wake (s : StationTasks) (wake : Wake) : StationTasks :=
  let a := s.actor.step wake
  let kept := s.tasks.filter fun task => decide (task.call ∈ a.calls)
  let spawned := (a.calls.filter fun call => decide (call ∉ s.actor.calls)).map fun call =>
    ({ call } : CallTask)
  { s with actor := a, tasks := (kept ++ spawned).map (exposeTo (s.actor.lowers wake.input)) }

/-- The task `index` hands its next attempt to the connection. -/
def hand (s : StationTasks) (index : Nat) : StationTasks :=
  match s.tasks[index]? with
  | some task =>
    if task.phase = .ready then
      { s with
        tasks := s.tasks.set index { task with phase := .awaiting, attempt := task.attempt + 1 }
        handed := { call := task.call, registration := s.actor.registration, exposed := task.exposed } ::
          s.handed }
    else s
  | none => s

/-- Whether a failed attempt is followed by another one. -/
def retries (task : CallTask) (result : CallResult) : Bool :=
  match result with
  | .error error => decide (task.attempt < task.call.attempts) && error.retryable
  | .ok _ => false

/-- The task `index` learns the outcome of its attempt. -/
def outcome (s : StationTasks) (index : Nat) (result : CallResult) : StationTasks :=
  match s.tasks[index]? with
  | some task =>
    if task.phase = .awaiting then
      if retries task result then { s with tasks := s.tasks.set index { task with phase := .ready } }
      else
        { s with
          tasks := s.tasks.set index { task with phase := .finished }
          inbox := s.inbox ++
            [{ token := task.call.token, generation := task.call.generation, result }] }
    else s
  | none => s

/-- The actor receives the oldest result. -/
def receive (s : StationTasks) (now : Instant) (mono : Int) : StationTasks :=
  match s.inbox with
  | [] => s
  | done :: inbox =>
    ({ s with inbox }).wake
      { input := .callDone done.token done.generation done.result, now, mono }

/-- A move of the system. -/
inductive Move where
  /-- Anything but a result wakes the actor. -/
  | wake (wake : Wake)
  | receive (now : Instant) (mono : Int)
  | hand (index : Nat)
  | outcome (index : Nat) (result : CallResult)

def move (s : StationTasks) : Move → StationTasks
  | .wake { input := .callDone _ _ _, .. } => s
  | .wake wake => s.wake wake
  | .receive now mono => s.receive now mono
  | .hand index => s.hand index
  | .outcome index result => s.outcome index result

/-- The system after `moves`. -/
def run (s : StationTasks) (moves : List Move) : StationTasks := moves.foldl move s

/-- The system when the loop of the actor begins. -/
def start (config : StationConfig) (registry : ConfigRegistry) (now : Instant) (mono : Int)
    (saved : Option PersistedStation) : StationTasks :=
  { actor := .start config registry now mono saved }

end StationTasks

end KirbyOcpp
