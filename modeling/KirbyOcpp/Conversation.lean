import KirbyOcpp.Csms.Session
import KirbyOcpp.Ws.Task

/-!
# A station and the central system on one connection

The connection task of a station (`Ws.Run`) at one end, one session of the central system at the other, with all its
other sessions and its callers (`Csms.Server`). The two interleave freely. A text that reaches an end is one that the
other end wrote; nothing is said of when, in which order or how often it does.

A frame that an end fails to write does not arrive. What was asked and answered is kept beside the two ends.
-/

namespace KirbyOcpp

open Ws (Json MessageId)
open Csms (Server SessionId)

structure Conversation (Reported : Type) where
  station : Ws.Run := {}
  csms : Server Reported
  /-- The CALLs of the station's callers, in the order of the callers. -/
  asked : List (String × Json) := []
  /-- What the owner of the connection answered, latest first. -/
  answers : List (MessageId × Ws.Run.Answer) := []
  /-- What the central system decided for the CALLs of the station, latest first. -/
  decided : List (Ws.Frame × Csms.Reply) := []
  /-- The frames that the session began to write, latest first. -/
  written : List Ws.Frame := []

namespace Conversation

inductive Input where
  | station (input : Ws.Run.Input)
  | csms (input : Csms.Input)

variable {Reported : Type}

/-- The text that an input brings to the station. -/
def stationHears : Ws.Run.Input → Option String
  | .turn (.socket (some (.ok (.text text)))) _ _ _ => some text
  | .turn (.socket (some (.ok (.binary utf8)))) _ _ _ => utf8
  | _ => none

/-- The text that an input brings to the session. -/
def csmsHears (sid : SessionId) : Csms.Input → Option String
  | .session id (.inbound text _) => if id = sid then some text else none
  | _ => none

/-- The texts on the way to the station. -/
def toStation (csms : Csms.Env Reported) (p : Conversation Reported) : List String :=
  p.written.map fun frame => csms.render frame.toValue

/-- The texts on the way to the session. -/
def toCsms (station : Ws.Env) (p : Conversation Reported) : List String :=
  p.station.wire.map fun frame => station.render frame.toValue

/-- What the input adds to the records of the station's end. -/
def noteStation (input : Ws.Run.Input) (p : Conversation Reported) : Conversation Reported :=
  match input with
  | .submit action payload _ => if p.station.ended then p else { p with asked := p.asked ++ [(action, payload)] }
  | .answer id answer => { p with answers := (id, answer) :: p.answers }
  | _ => p

/-- What the input adds to the records of the session. -/
def noteCsms (sid : SessionId) (input : Csms.Input) (p : Conversation Reported) : Conversation Reported :=
  match input with
  | .session id turn =>
    if id = sid then
      match turn, (p.csms.sessions sid).map Csms.Session.phase with
      | .handle reply _, some (.received frame) => { p with decided := (frame, reply) :: p.decided }
      | .record _, some (.sending frame _) => { p with written := frame :: p.written }
      | _, _ => p
    else p
  | _ => p

def step (station : Ws.Env) (csms : Csms.Env Reported) (sid : SessionId) (p : Conversation Reported) :
    Input → Conversation Reported
  | .station input =>
    if (stationHears input).all (· ∈ p.toStation csms) then
      { p.noteStation input with station := p.station.input station input }
    else p
  | .csms input =>
    if (csmsHears sid input).all (· ∈ p.toCsms station) then
      { p.noteCsms sid input with csms := p.csms.step csms input }
    else p

def run (station : Ws.Env) (csms : Csms.Env Reported) (sid : SessionId) (inputs : List Input)
    (p : Conversation Reported) : Conversation Reported :=
  inputs.foldl (step station csms sid) p

/-- A new connection, whose station records its frames with or without their secrets. -/
def start (showSecrets : Bool) (config : Csms.CsmsConfig) : Conversation Reported where
  station := { showSecrets }
  csms := { registry := { config } }

/-- The answers in a log, with their ids and the callers they reached. -/
def answersIn {C I R : Type} (log : List (Rpc.Event C I R)) : List (I × C × R) :=
  log.filterMap fun event => match event with
    | .answered id (some (caller, result)) => some (id, caller, result)
    | _ => none

end Conversation

end KirbyOcpp
