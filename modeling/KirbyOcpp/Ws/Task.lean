import KirbyOcpp.Data.Rpc
import KirbyOcpp.Ocpp.Frame

/-!
# The connection task

`ws/task.rs`: one task owns the socket, the queue of outbound CALLs, the pending table (our CALLs that
await an answer) and the incoming table (CALLs of the CSMS that await our reply). It handles one input
at a time; a method that stops the connection says why, and `finish` then fails every outstanding CALL.

The JSON reader and writer, the schemas and the id generator are parameters (`Env`). What a write to
the socket or an event for the owner comes to is an input of the step (`Io`), with the callers that
give up while it lasts.

`Run` is the task with the ends of its channels and with what an observer sees: the frames written, the
events emitted, and the log of the remote calls in the words of `Rpc.Event`, each latest first.
-/

namespace KirbyOcpp.Ws

/-- A caller of `Connection::call`, by the order of the calls. -/
abbrev Caller := Nat

structure SchemaViolation where
  errorCode : ErrorCode
  errors : List String
  display : String

inductive CallError where
  | schema (violation : SchemaViolation)
  | rpc (action : String) (code : ErrorCode) (description : String) (details : Json)
  | timeout (action : String) (after : Nat)
  | closed (code : Option Nat)

abbrev CallResult := Except CallError Json

/-- A CALL waiting for its turn on the wire. -/
structure OutboundCall where
  action : String
  payload : Json
  timeout : Nat
  reply : Caller

/-- A CALL we sent and have not got an answer to. -/
structure Pending where
  action : String
  timeout : Nat
  deadline : Nat
  reply : Caller

inductive Command where
  | call (call : OutboundCall)
  | close

structure CloseFrame where
  code : Nat
  reason : String

/-- Why the loop ends. -/
inductive Stop where
  | requested
  | peer (frame : Option CloseFrame)
  | abort (reason : String) (byUs : Bool)

inductive Direction where
  | «in» | out

structure FrameRecord where
  direction : Direction
  msgId : Option MessageId
  action : Option String
  frame : Json

inductive ConnectionEvent where
  | frame (record : FrameRecord)
  | call (id : MessageId) (action : String) (payload : Json)
  | protocolWarning (text : String)
  | closed (code : Option Nat) (reason : String) (byUs : Bool)

/-- How a write to the socket fails. -/
inductive Failure where
  | broken (error : String)
  | timedOut

/-- One write or one event for the owner: who gives up meanwhile, and how it fails. -/
structure Io where
  gaveUp : List Caller := []
  failure : Option Failure := none

inductive Message where
  | text (text : String)
  /-- A binary message, and its bytes as UTF-8. -/
  | binary (utf8 : Option String)
  | ping
  | pong
  | close (frame : Option CloseFrame)
  | frame

/-- One input to the loop. -/
inductive Step where
  | command (command : Option Command)
  | reply (frame : Frame)
  | socket (message : Option (Except String Message))
  | timeouts
  | ping

structure Env where
  fromStr : String → Except String Json
  render : Json → String
  knowsAction : String → Bool
  validateRequest : String → Json → Except SchemaViolation Unit
  validateResponse : String → Json → Except SchemaViolation Unit
  /-- The ids drawn one after the other. -/
  newV4 : Nat → MessageId
  /-- The last instant the clock can hold. -/
  latest : Nat

structure Task where
  serialize : Bool := true
  showSecrets : Bool := false
  queue : List OutboundCall := []
  pending : List (MessageId × Pending) := []
  incoming : List (MessageId × String) := []
  awaitingPong : Bool := false

structure Run extends Task where
  /-- What the writes and events to come do; those beyond the list go through. -/
  io : List Io := []
  now : Nat := 0
  /-- Callers that gave up: their end of the reply channel is closed. -/
  gone : List Caller := []
  drawn : Nat := 0
  commands : List Command := []
  replies : List Frame := []
  /-- Callers so far. -/
  callers : Nat := 0
  ended : Bool := false
  wire : List Frame := []
  events : List ConnectionEvent := []
  log : List (Rpc.Event Caller MessageId CallResult) := []

abbrev Flow := Run × Option Stop

/-- `?`: the rest runs unless the connection stopped. -/
def Flow.andThen (flow : Flow) (rest : Run → Flow) : Flow :=
  match flow with
  | (r, none) => rest r
  | (r, some stop) => (r, some stop)

def normalClose : Nat := 1000
def abnormalClose : Nat := 1006

/-- A day, in nanoseconds. -/
def farFuture : Nat := 24 * 60 * 60 * 1000000000

def writeTimedOut : Stop := .abort "WebSocket write timed out (the peer stopped reading)" true

def Failure.stop : Failure → Stop
  | broken error => .abort error false
  | timedOut => writeTimedOut

/-- The close code known when the loop ends. -/
def Stop.knownCode : Stop → Option Nat
  | requested => some normalClose
  | peer frame => frame.map (·.code)
  | abort _ _ => some abnormalClose

/-- The last event; `handshake` is what a close handshake comes to. -/
def Stop.closed (handshake : Option Nat × String) : Stop → ConnectionEvent
  | requested => .closed handshake.1 handshake.2 true
  | peer frame => .closed (frame.map (·.code)) ((frame.map (·.reason)).getD "") false
  | abort reason byUs => .closed (some abnormalClose) reason byUs

namespace Run

variable (env : Env)

def note (entry : Rpc.Event Caller MessageId CallResult) (r : Run) : Run :=
  { r with log := entry :: r.log }

def giveUp (r : Run) (caller : Caller) : Run :=
  { r with gone := caller :: r.gone, log := .gaveUp caller :: r.log }

/-- What the caller gets from its reply channel. -/
def send (r : Run) (caller : Caller) (result : CallResult) : Option (Caller × CallResult) :=
  if caller ∈ r.gone then none else some (caller, result)

/-- One write or one event; `done` is what it comes to if it goes through. -/
def attempt (done : Run → Run) (r : Run) : Run × Option Failure :=
  match r.io with
  | [] => (done r, none)
  | io :: rest =>
    match io.failure with
    | none => (io.gaveUp.foldl giveUp (done { r with io := rest }), none)
    | some failure => (io.gaveUp.foldl giveUp { r with io := rest }, some failure)

/-- Writes one message. -/
def sendMessage (done : Run → Run) (r : Run) : Flow :=
  match r.attempt done with
  | (r, none) => (r, none)
  | (r, some failure) => (r, some failure.stop)

/-- Hands an event to the owner; `done` is what the log says of it. -/
def hand (event : ConnectionEvent) (done : Run → Run) (r : Run) : Flow :=
  match r.attempt fun r => done { r with events := event :: r.events } with
  | (r, none) => (r, none)
  | (r, some _) => (r, some .requested)

def emit (event : ConnectionEvent) (r : Run) : Flow := r.hand event id

def warn (message : String) (r : Run) : Flow := r.emit (.protocolWarning message)

def recorded (r : Run) (frame : Frame) : Json :=
  if r.showSecrets then frame.toValue else (redactSecrets frame).toValue

/-- Writes one frame and reports it; `entry` is what the log says of it. -/
def write (frame : Frame) (action : Option String) (entry : Rpc.Event Caller MessageId CallResult)
    (r : Run) : Flow :=
  (r.sendMessage fun r => { r with wire := frame :: r.wire, log := entry :: r.log }).andThen fun r =>
    r.emit (.frame { direction := .out, msgId := some frame.id, action, frame := r.recorded frame })

def deadlineAfter (r : Run) (timeout : Nat) : Nat :=
  if r.now + timeout ≤ env.latest then r.now + timeout else r.now + farFuture

/-- Sends queued CALLs while the serialization rule allows it; the queue is the first argument. -/
def pumpQueue : List OutboundCall → Run → Flow
  | [], r => (r, none)
  | call :: rest, r =>
    if r.serialize && !r.pending.isEmpty then (r, none)
    else if call.reply ∈ r.gone then
      pumpQueue rest { r with queue := rest, log := .withdrawn call.reply :: r.log }
    else
      let id := env.newV4 r.drawn
      match write (.call id call.action call.payload) (some call.action) (.sent call.reply id)
          { r with queue := rest, drawn := r.drawn + 1 } with
      | (r, some stop) =>
        (r.note (.failed call.reply (r.send call.reply (.error (.closed (some abnormalClose))))),
          some stop)
      | (r, none) =>
        let pending : Pending :=
          { action := call.action, timeout := call.timeout
            deadline := deadlineAfter env r call.timeout, reply := call.reply }
        pumpQueue rest
          { r with pending := (id, pending) :: r.pending.filter fun entry => decide (entry.1 ≠ id) }

def pump (r : Run) : Flow := pumpQueue env r.queue r

/-- Withdraws queued CALLs whose caller gave up; `kept` are those in front that stay. -/
def withdraw (kept : List OutboundCall) : List OutboundCall → Run → Run
  | [], r => { r with queue := kept }
  | call :: rest, r =>
    if call.reply ∈ r.gone then
      withdraw kept rest { r with queue := kept ++ rest, log := .withdrawn call.reply :: r.log }
    else withdraw (kept ++ [call]) rest r

def enqueue (call : OutboundCall) (r : Run) : Run :=
  let r := withdraw [] r.queue r
  { r with queue := r.queue ++ [call] }

/-- Writes our reply to a CALL of the CSMS, validated against the response schema. -/
def reply (frame : Frame) (r : Run) : Flow :=
  match r.incoming.lookup frame.id with
  | none => (r, none)
  | some action =>
    let r := { r with incoming := r.incoming.filter fun entry => decide (entry.1 ≠ frame.id) }
    match frame with
    | .callResult id payload =>
      match env.validateResponse action payload with
      | .ok () => r.write (.callResult id payload) (some action) (.replied id)
      | .error violation =>
        (r.warn ("reply to " ++ action ++ " violates the OCPP 1.6J schema, InternalError sent instead: " ++
            violation.display)).andThen fun r =>
          r.write (.error id .internalError ("; ".intercalate violation.errors)) (some action) (.replied id)
    | other => r.write other (some action) (.replied other.id)

def rejection (action : String) (payload : Json) : Option (ErrorCode × String) :=
  if env.knowsAction action then
    match env.validateRequest action payload with
    | .ok () => none
    | .error violation => some (violation.errorCode, "; ".intercalate violation.errors)
  else some (.notImplemented, action ++ " is not an OCPP 1.6J action")

/-- Validates a CALL of the CSMS. Invalid ones are answered here; valid ones are delivered. -/
def incomingCall (id : MessageId) (action : String) (payload : Json) (r : Run) : Flow :=
  let valid := (rejection env action payload).isNone
  -- A CALL id that is still being handled is a retransmission.
  if r.incoming.any fun entry => entry.1 == id then
    (r.note (.inbound id valid .ignored)).warn ("ignored duplicate CALL " ++ id ++ " (" ++ action ++
      "): the first one is still being handled")
  else
    match rejection env action payload with
    | some (code, description) =>
      (r.warn ("rejected CALL " ++ id ++ " (" ++ action ++ ") with " ++ code.asStr ++ ": " ++
          description)).andThen fun r =>
        r.write (.error id code description) (some action) (.inbound id false .rejected)
    | none =>
      match hand (.call id action payload) (note (.inbound id true .delivered))
          { r with incoming := (id, action) :: r.incoming } with
      | (r, none) => (r, none)
      | (r, some stop) => (r.note (.inbound id true .lost), some stop)

def callResult (id : MessageId) (payload : Json) (r : Run) : Flow :=
  match r.pending.lookup id with
  | none => (r.note (.answered id none), none)
  | some pending =>
    let r := { r with pending := r.pending.filter fun entry => decide (entry.1 ≠ id) }
    match env.validateResponse pending.action payload with
    | .ok () => pump env (r.note (.answered id (r.send pending.reply (.ok payload))))
    | .error violation =>
      match r.warn ("CALLRESULT for " ++ pending.action ++ " violates the OCPP 1.6J schema: " ++
          violation.display) with
      -- The dropped sender fails the CALL.
      | (r, some stop) =>
        (r.note (.failed pending.reply (r.send pending.reply (.error (.closed none)))), some stop)
      | (r, none) =>
        pump env (r.note (.answered id (r.send pending.reply (.error (.schema violation)))))

def callError (id : MessageId) (code : ErrorCode) (description : String) (details : Json) (r : Run) :
    Flow :=
  match r.pending.lookup id with
  | none => (r.note (.answered id none), none)
  | some pending =>
    let r := { r with pending := r.pending.filter fun entry => decide (entry.1 ≠ id) }
    pump env (r.note (.answered id
      (r.send pending.reply (.error (.rpc pending.action code description details)))))

/-- A text that is no frame: reported, and answered if it was a CALL. -/
def brokenText (text : String) (error : FrameError) (r : Run) : Flow :=
  (r.emit (.frame { direction := .in, msgId := error.messageId, action := none
                    frame := .string text })).andThen fun r =>
    (r.warn ("invalid OCPP-J frame: invalid OCPP-J frame: " ++ error.kind.display env.render)).andThen
      fun r =>
        match error.reply env.render with
        | some frame => r.write frame none (.inbound frame.id false .rejected)
        | none => (r, none)

def frameAction (r : Run) : Frame → Option String
  | .call _ action _ => some action
  | other => (r.pending.lookup other.id).map (·.action)

def incomingText (text : String) (r : Run) : Flow :=
  match Frame.parse env.fromStr text with
  | .error error => r.brokenText env text error
  | .ok frame =>
    match r.emit (.frame { direction := .in, msgId := some frame.id, action := r.frameAction frame
                           frame := r.recorded frame }) with
    | (r, some stop) =>
      match frame with
      | .call id action payload =>
        (r.note (.inbound id (rejection env action payload).isNone .lost), some stop)
      | _ => (r, some stop)
    | (r, none) =>
      match frame with
      | .call id action payload => r.incomingCall env id action payload
      | .callResult id payload => r.callResult env id payload
      | .callError id code description details => r.callError env id code description details

def incomingMessage (message : Message) (r : Run) : Flow :=
  match message with
  | .text text => r.incomingText env text
  | .binary (some text) => r.incomingText env text
  | .binary none => r.warn "binary WebSocket message ignored, OCPP-J is text only"
  | .ping => r.sendMessage id
  | .pong => ({ r with awaitingPong := false }, none)
  | .close frame => (r, some (.peer frame))
  | .frame => (r, none)

/-- Fails the CALLs whose response did not arrive in time. -/
def expire (r : Run) : Flow :=
  let due := r.pending.filter fun entry => decide (entry.2.deadline ≤ r.now)
  let r := { r with pending := r.pending.filter fun entry => decide (¬ entry.2.deadline ≤ r.now) }
  pump env (due.foldl (fun r entry => r.note (.expired entry.1
    (r.send entry.2.reply (.error (.timeout entry.2.action entry.2.timeout))))) r)

/-- Watchdog tick: a ping whose pong never came terminates the socket. -/
def ping (r : Run) : Flow :=
  if r.awaitingPong then (r, some (.abort "WebSocket pong timed out" true))
  else sendMessage id { r with awaitingPong := true }

def handle (step : Step) (r : Run) : Flow :=
  match step with
  | .command (some (.call call)) => pump env (r.enqueue call)
  | .command (some .close) | .command none => (r, some .requested)
  | .reply frame => r.reply env frame
  | .socket (some (.ok message)) => r.incomingMessage env message
  | .socket (some (.error error)) => (r, some (.abort error false))
  | .socket none => (r, some (.abort "connection lost" false))
  | .timeouts => r.expire env
  | .ping => r.ping

def failWith (code : Option Nat) (r : Run) (caller : Caller) : Run :=
  r.note (.failed caller (r.send caller (.error (.closed code))))

/-- The callers of the commands. -/
def commandCallers (commands : List Command) : List Caller :=
  commands.filterMap fun command => match command with
    | .call call => some call.reply
    | .close => none

/-- Ends the connection: every outstanding CALL fails, also those not yet taken from the channel.
`handshake` is what a close handshake comes to. -/
def finish (stop : Stop) (handshake : Option Nat × String) (r : Run) : Run :=
  let code := stop.knownCode
  let r := (r.pending.map (·.2.reply)).foldl (failWith code) { r with pending := [] }
  let r := (r.queue.map (·.reply)).foldl (failWith code) { r with queue := [] }
  let r := (commandCallers r.commands).foldl (failWith code) { r with commands := [] }
  note .ended { r with incoming := [], ended := true, events := stop.closed handshake :: r.events }

/-! ## Runs -/

/-- What an owner makes of a reply handle. -/
inductive Answer where
  | accept (payload : Json)
  | reject (code : ErrorCode) (description : String) (details : Json)

def Answer.frame (id : MessageId) : Answer → Frame
  | accept payload => .callResult id payload
  | reject code description details => .callError id code description details

/-- Where the loop takes its input from. -/
inductive Source where
  | commands
  /-- Every handle of the connection is dropped. -/
  | handlesDropped
  | replies
  | socket (message : Option (Except String Message))
  | timeouts
  | ping

inductive Input where
  /-- `Connection::call`, once its checks passed. -/
  | submit (action : String) (payload : Json) (timeout : Nat)
  | giveUp (caller : Caller)
  | answer (id : MessageId) (answer : Answer)
  | close
  /-- One turn of the loop. Whichever source is ready may come first: the order in which the sources
  become ready is free, so their priority excludes nothing. -/
  | turn (source : Source) (now : Nat) (io : List Io) (handshake : Option Nat × String)

/-- The input that the source has ready. -/
def take (source : Source) (r : Run) : Option (Step × Run) :=
  match source with
  | .commands =>
    match r.commands with
    | [] => none
    | command :: rest => some (.command (some command), { r with commands := rest })
  | .handlesDropped => if r.commands.isEmpty then some (.command none, r) else none
  | .replies =>
    match r.replies with
    | [] => none
    | frame :: rest => some (.reply frame, { r with replies := rest })
  | .socket message => some (.socket message, r)
  | .timeouts => some (.timeouts, r)
  | .ping => some (.ping, r)

def turn (step : Step) (handshake : Option Nat × String) (r : Run) : Run :=
  match r.handle env step with
  | (r, none) => r
  | (r, some stop) => r.finish stop handshake

def input (r : Run) (input : Input) : Run :=
  match input with
  | .giveUp caller => r.giveUp caller
  | .answer id answer => { r with replies := r.replies ++ [answer.frame id] }
  | .submit action payload timeout =>
    if r.ended then r
    else
      { r with
        commands := r.commands ++ [.call { action, payload, timeout, reply := r.callers }]
        callers := r.callers + 1, log := .submitted r.callers :: r.log }
  | .close => if r.ended then r else { r with commands := r.commands ++ [.close] }
  | .turn source now io handshake =>
    if r.ended then r
    else
      match take source { r with now, io } with
      | none => r
      | some (step, r) => r.turn env step handshake

def run (inputs : List Input) (r : Run) : Run := inputs.foldl (input env) r

end Run

end KirbyOcpp.Ws
