import KirbyOcpp.Csms.Registry
import KirbyOcpp.Data.Rpc

/-!
# The sessions and callers of the central system: `Session::run`, `CsmsHandle::call_timeout`

One task a connection, which writes its queued CALLs one at a time, and one future a caller. The tasks share
the registry (`Registry`), which they enter under its lock, and the counter of message ids. They interleave
wherever one of them awaits or has left the lock: each `Turn` of a session is what runs without either.

A session keeps a log of its CALLs in the words of `Rpc.Event`, latest first.
-/

namespace KirbyOcpp.Csms

open Ws (Json Frame ErrorCode FrameError MessageId)

/-- What a future of `CsmsHandle::call` returns. -/
inductive CallResult where
  | answer (frame : Frame)
  | timeout (station : StationId) (action : String) (timeout : Nat)
  | connectionClosed (station : StationId) (action : String)
  | unknownStation (station : StationId)
  | notConnected (station : StationId)

structure QueuedCall where
  action : String
  payload : Json
  timeout : Nat
  reply : Caller

inductive SessionCmd where
  | call (call : QueuedCall)
  | close (code : Nat) (reason : String)

structure InFlight where
  id : MessageId
  action : String
  timeout : Nat
  /-- When the CALL was on the wire. -/
  written : Nat
  deadline : Nat
  reply : Caller

/-- Where the task of a session stands. -/
inductive Phase where
  /-- At the top of the loop, before `pump`. -/
  | top
  /-- It awaits its next input. -/
  | select
  /-- A frame is recorded and not handled yet. -/
  | received (frame : Frame)
  /-- A frame is to be recorded and written; the queued CALL that it is. -/
  | sending (frame : Frame) (call : Option QueuedCall)
  /-- It awaits the socket. -/
  | writing (frame : Frame) (call : Option QueuedCall)
  /-- The close frame is being written. -/
  | closing (reason : DisconnectReason)
  /-- The future is gone, its end not reported yet. -/
  | ended (reason : DisconnectReason)
  | reported

abbrev CallEvent := Rpc.Event Caller MessageId CallResult

structure Session where
  station : StationId
  /-- The command channel. -/
  commands : List SessionCmd := []
  queue : List QueuedCall := []
  inFlight : Option InFlight := none
  phase : Phase := .top
  log : List CallEvent := []

/-- What a caller keeps of its CALL. -/
structure Request where
  session : SessionId
  station : StationId
  action : String
  payload : Json

structure Server (Reported : Type) where
  registry : Registry Reported := {}
  sessions : SessionId → Option Session := fun _ => none
  /-- Message ids drawn so far. -/
  nextMessage : Nat := 0
  /-- Callers so far. -/
  callers : Nat := 0
  /-- The CALLs that were queued. -/
  requests : Caller → Option Request := fun _ => none
  /-- What was sent through the reply channels, or `connectionClosed` where one was dropped. -/
  results : Caller → Option CallResult := fun _ => none
  /-- Callers whose future was dropped. -/
  gone : List Caller := []
  /-- What the futures returned, latest first. -/
  returned : List (Caller × CallResult) := []

/-- What one session does without awaiting and without leaving the lock. -/
inductive Turn where
  | pump
  | command
  | inbound (text : String) (now : Nat)
  /-- The frame is handled; `reply` is what `decide` chooses for a CALL. -/
  | handle (reply : Reply) (now : Nat)
  | record (now : Nat)
  | written (now : Nat)
  | deadline (now : Nat)
  /-- The server shuts down. -/
  | stop
  /-- The socket fails, the watchdog gives up, the task is aborted or panics, or the close frame is written. -/
  | finish (reason : DisconnectReason)
  /-- `EndGuard` reports the end. -/
  | report (now : Nat)

inductive Input where
  | register (station : StationId) (peer : String) (subprotocol : Option String) (now : Nat)
  | forget (station : StationId)
  /-- `shutdown` raises its flag. -/
  | stop
  /-- `shutdown` ends what is still registered. -/
  | sweep (now : Nat)
  | call (station : StationId) (action : String) (payload : Json) (timeout : Nat)
  /-- The future of a caller is dropped. -/
  | giveUp (caller : Caller)
  /-- A caller goes on with its result. -/
  | resume (caller : Caller) (now : Nat)
  | session (id : SessionId) (turn : Turn)

/-- Longest timeout of a CALL: a day, in nanoseconds. -/
def maxCallTimeout : Nat := 24 * 60 * 60 * 1000000000

def Phase.live : Phase → Bool
  | .ended _ | .reported => false
  | _ => true

/-- The queued CALL that is being written. -/
def Phase.call? : Phase → Option QueuedCall
  | .sending _ call | .writing _ call => call
  | _ => none

/-- The callers in the command channel. -/
def commandCallers (commands : List SessionCmd) : List Caller :=
  commands.filterMap fun command => match command with
    | .call call => some call.reply
    | .close _ _ => none

namespace Session

/-- The callers whose CALLs are not written yet, in the order of the line. -/
def line (s : Session) : List Caller :=
  (s.phase.call?.toList.map (·.reply)) ++ s.queue.map (·.reply) ++ commandCallers s.commands

def note (event : CallEvent) (s : Session) : Session := { s with log := event :: s.log }

end Session

variable {Reported : Type}

namespace Server

def setSession (id : SessionId) (s : Session) (c : Server Reported) : Server Reported :=
  { c with sessions := Function.update c.sessions id (some s) }

/-- What the caller gets from its reply channel. -/
def sent (c : Server Reported) (caller : Caller) (result : CallResult) : Option (Caller × CallResult) :=
  if caller ∈ c.gone then none else some (caller, result)

/-- A result goes through the reply channel of a caller. -/
def resolve (caller : Caller) (result : CallResult) (c : Server Reported) : Server Reported :=
  { c with results := Function.update c.results caller (some result) }

/-- A command for a session; nothing if its receiver is dropped. -/
def tell (id : SessionId) (command : SessionCmd) (c : Server Reported) : Server Reported :=
  match c.sessions id with
  | some s => if s.phase.live then c.setSession id { s with commands := s.commands ++ [command] } else c
  | none => c

def tellOld (old : Option SessionId) (reason : String) (c : Server Reported) : Server Reported :=
  match old with
  | some id => c.tell id (.close 1000 reason)
  | none => c

/-- `call_timeout`, up to the await: the CALL is queued, or fails at once. -/
def call (station : StationId) (action : String) (payload : Json) (timeout : Nat) (c : Server Reported) :
    Server Reported :=
  let caller := c.callers
  let c := { c with callers := caller + 1 }
  match c.registry.stations.lookup station with
  | none => { c with returned := (caller, .unknownStation station) :: c.returned }
  | some record =>
    match record.session.bind fun id => (c.sessions id).map fun s => (id, s) with
    | some (id, s) =>
      if s.phase.live then
        let queued : QueuedCall := { action, payload, timeout := min timeout maxCallTimeout, reply := caller }
        let s := { s with commands := s.commands ++ [SessionCmd.call queued] }
        let c := { c with
          requests := Function.update c.requests caller (some { session := id, station, action, payload }) }
        c.setSession id (s.note (.submitted caller))
      else { c with returned := (caller, .notConnected station) :: c.returned }
    | none => { c with returned := (caller, .notConnected station) :: c.returned }

/-- The future is dropped before it returned. -/
def giveUp (caller : Caller) (c : Server Reported) : Server Reported :=
  match c.requests caller with
  | none => c
  | some request =>
    if caller ∈ c.gone ∨ caller ∈ c.returned.map (·.1) then c
    else
      let c := { c with gone := caller :: c.gone }
      match c.sessions request.session with
      | some s => c.setSession request.session (s.note (.gaveUp caller))
      | none => c

/-- `call_timeout`, after the await. -/
def resume (env : Env Reported) (caller : Caller) (now : Nat) (c : Server Reported) : Server Reported :=
  match c.requests caller, c.results caller with
  | some request, some result =>
    if caller ∈ c.gone ∨ caller ∈ c.returned.map (·.1) then c
    else
      let c := { c with returned := (caller, result) :: c.returned }
      match result with
      | .answer (.callResult _ payload) =>
        if request.action = "GetInstalledCertificateIds" then
          { c with registry :=
              c.registry.trackResult env request.station request.action request.payload payload now }
        else c
      | .answer (.callError _ _ _ _) | .timeout _ _ _ =>
        { c with registry := c.registry.noteFailedCall request.station }
      | _ => c
  | _, _ => c

/-! ## One session -/

/-- Ids of CALLs are numbered across all sessions. -/
def messageId (n : Nat) : MessageId := "csms-" ++ Nat.repr n

/-- Writes the next queued CALL if none is outstanding. -/
def pump (id : SessionId) (s : Session) (c : Server Reported) : Server Reported :=
  match s.inFlight, s.queue with
  | none, call :: rest =>
    -- The caller gave up before it was sent.
    if call.reply ∈ c.gone then c.setSession id ({ s with queue := rest }.note (.withdrawn call.reply))
    else
      let message := messageId (c.nextMessage + 1)
      let c := { c with nextMessage := c.nextMessage + 1 }
      c.setSession id { s with
        queue := rest, phase := .sending (.call message call.action call.payload) (some call) }
  | _, _ => c.setSession id { s with phase := .select }

def command (id : SessionId) (s : Session) (c : Server Reported) : Server Reported :=
  match s.commands with
  | [] => c
  | .call call :: rest =>
    c.setSession id { s with commands := rest, queue := s.queue ++ [call], phase := .top }
  | .close _ _ :: rest => c.setSession id { s with commands := rest, phase := .closing .closed }

/-- A text arrives. One that is no frame is answered if it was a CALL. -/
def onText (env : Env Reported) (id : SessionId) (s : Session) (text : String) (now : Nat) (c : Server Reported) :
    Server Reported :=
  match Frame.parse env.fromStr text with
  | .error error =>
    let event := CsmsEvent.malformed s.station (String.ofList (text.toList.take 512))
    let c := { c with registry := c.registry.emit event }
    match error.reply env.render with
    | some frame => c.setSession id { s with phase := .sending frame none }
    | none => c.setSession id { s with phase := .top }
  | .ok frame =>
    let c := { c with registry := c.registry.recordFrame env s.station id .in frame now }
    c.setSession id { s with phase := .received frame }

/-- The recorded frame is handled. -/
def onFrame (env : Env Reported) (id : SessionId) (s : Session) (frame : Frame) (reply : Reply) (now : Nat)
    (c : Server Reported) : Server Reported :=
  match frame with
  | .call message action payload =>
    let c := { c with registry := c.registry.track env s.station id action payload reply now }
    match reply with
    | .result payload => c.setSession id { s with phase := .sending (.callResult message payload) none }
    | .error code description =>
      c.setSession id { s with phase := .sending (.error message code description) none }
    | .silence => c.setSession id { s with phase := .top }
    | .close => c.setSession id { s with phase := .closing .injected }
  | answer =>
    match s.inFlight with
    | some flight =>
      if flight.id = answer.id then
        let s := { s with inFlight := none, phase := .top }
        (c.resolve flight.reply (.answer answer)).setSession id
          (s.note (.answered answer.id (c.sent flight.reply (.answer answer))))
      -- It answers a CALL that timed out, or was never sent.
      else c.setSession id ({ s with phase := .top }.note (.answered answer.id none))
    | none => c.setSession id ({ s with phase := .top }.note (.answered answer.id none))

/-- The write is done. -/
def written (id : SessionId) (s : Session) (frame : Frame) (call : Option QueuedCall) (now : Nat)
    (c : Server Reported) : Server Reported :=
  match call with
  | none => c.setSession id { s with phase := .top }
  | some call =>
    let flight : InFlight := { id := frame.id, action := call.action, timeout := call.timeout, written := now
                               deadline := now + call.timeout, reply := call.reply }
    c.setSession id ({ s with inFlight := some flight, phase := .top }.note (.sent call.reply frame.id))

def expireInFlight (id : SessionId) (s : Session) (now : Nat) (c : Server Reported) : Server Reported :=
  match s.inFlight with
  | none => c
  | some flight =>
    if flight.deadline ≤ now then
      let result := CallResult.timeout s.station flight.action flight.timeout
      let s := { s with inFlight := none, phase := .top }
      (c.resolve flight.reply result).setSession id (s.note (.expired flight.id (c.sent flight.reply result)))
    else c

/-- A reply channel is dropped. -/
def dropReply (id : SessionId) (c : Server Reported) (caller : Caller) (action : String) : Server Reported :=
  match c.sessions id with
  | none => c
  | some s =>
    let result := CallResult.connectionClosed s.station action
    (c.resolve caller result).setSession id (s.note (.failed caller (c.sent caller result)))

/-- The CALLs that a session holds: the one in flight, the one being written, those queued. -/
def Session.calls (s : Session) : List (Caller × String) :=
  (s.inFlight.toList.map fun flight => (flight.reply, flight.action)) ++
    (s.phase.call?.toList ++ s.queue ++ s.commands.filterMap fun command => match command with
      | .call call => some call
      | .close _ _ => none).map fun call => (call.reply, call.action)

/-- The future of the session is dropped, and with it the CALLs that it holds. -/
def endSession (id : SessionId) (s : Session) (reason : DisconnectReason) (c : Server Reported) : Server Reported :=
  let idle := { s with inFlight := none, queue := [], commands := [], phase := .ended reason }
  let c := (Session.calls s).foldl (fun c call => dropReply id c call.1 call.2) (c.setSession id idle)
  match c.sessions id with
  | some s => c.setSession id (s.note .ended)
  | none => c

def turn (env : Env Reported) (id : SessionId) (s : Session) (turn : Turn) (c : Server Reported) : Server Reported :=
  match turn, s.phase with
  | .pump, .top => pump id s c
  | .command, .select => command id s c
  | .inbound text now, .select => onText env id s text now c
  | .handle reply now, .received frame => onFrame env id s frame reply now c
  | .record now, .sending frame call =>
    let c := { c with registry := c.registry.recordFrame env s.station id .out frame now }
    c.setSession id { s with phase := .writing frame call }
  | .written now, .writing frame call => written id s frame call now c
  | .deadline now, .select => expireInFlight id s now c
  | .stop, .select => if c.registry.shutdown then c.setSession id { s with phase := .closing .shutdown } else c
  | .finish reason, phase => if phase.live then endSession id s reason c else c
  | .report now, .ended reason =>
    let c := { c with registry := c.registry.sessionEnded s.station id reason now }
    c.setSession id { s with phase := .reported }
  | _, _ => c

/-! ## The server -/

def step (env : Env Reported) (c : Server Reported) : Input → Server Reported
  | .register station peer subprotocol now =>
    match c.registry.register env station peer subprotocol now with
    | .error _ => c
    | .ok (registry, id, old) =>
      ({ c with registry }.tellOld old "replaced by a new connection").setSession id { station }
  | .forget station =>
    let (registry, old) := c.registry.forget station
    { c with registry }.tellOld old "station forgotten"
  | .stop => { c with registry := { c.registry with shutdown := true } }
  | .sweep now => if c.registry.shutdown then { c with registry := c.registry.sweep now } else c
  | .call station action payload timeout => c.call station action payload timeout
  | .giveUp caller => c.giveUp caller
  | .resume caller now => c.resume env caller now
  | .session id turn =>
    match c.sessions id with
    | none => c
    | some s => c.turn env id s turn

def run (env : Env Reported) (inputs : List Input) (c : Server Reported) : Server Reported := inputs.foldl (step env) c

end Server

end KirbyOcpp.Csms
