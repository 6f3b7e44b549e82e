import KirbyOcpp.Ocpp.Frame

/-!
# The registry of the central system: `server.rs`, `event.rs`

What the server knows about each station, and the operations that run under its lock. A record outlives the
connections of its station; the connection that may write into it is the one of its `session`.

The fold of inbound CALLs into `StationState` (`StationState::apply`) writes fields that nothing here reads:
they are the type `Reported`, and the fold is a parameter (`Env.apply`).
-/

namespace KirbyOcpp.Csms

open Ws (Json Frame ErrorCode redactSecrets)

abbrev StationId := String
abbrev SessionId := Nat

/-- A caller of `CsmsHandle::call`, by the order of the calls. -/
abbrev Caller := Nat

/-- Direction of a frame relative to the central system. -/
inductive Direction where
  | «in» | out
deriving DecidableEq

structure FrameEntry where
  ts : Nat
  direction : Direction
  frame : Frame

/-- Why a station's connection ended. -/
inductive DisconnectReason where
  | closed | replaced | shutdown | injected | forgotten | pingTimeout
deriving DecidableEq

inductive CsmsEvent where
  | connected (station : StationId)
  | disconnected (station : StationId) (reason : DisconnectReason)
  | frame (station : StationId) (direction : Direction) (frame : Frame)
  | malformed (station : StationId) (text : String)
  | forgotten (station : StationId)
  | stateChanged (station : StationId)

/-- What the registry knows about one station. -/
structure StationInfo where
  id : StationId
  connected : Bool := false
  connectedAt : Option Nat := none
  disconnectedAt : Option Nat := none
  remoteAddr : Option String := none
  subprotocol : Option String := none
  receivedCalls : Nat := 0
  receivedByAction : List (String × Nat) := []

structure HistoryItem where
  entry : FrameEntry
  /-- Size of the frame as JSON text. -/
  bytes : Nat

/-- An answered `GetInstalledCertificateIds`. -/
structure InstalledCertificates where
  status : String
  certificates : List Json
  total : Nat
  at' : Nat

/-- The protocol state of a station. -/
structure StationState (Reported : Type) where
  /-- Calls to this station that ended in a CALLERROR or a timeout. -/
  failedCalls : Nat := 0
  /-- The last answered `GetInstalledCertificateIds` per `certificateType`. -/
  installedCertificates : List (String × InstalledCertificates) := []
  reported : Reported

structure StationRec (Reported : Type) where
  info : StationInfo
  history : List HistoryItem := []
  /-- Sum of `HistoryItem.bytes`. -/
  historyBytes : Nat := 0
  state : StationState Reported
  /-- The connection of the station; its `tx` is the command channel of that session. -/
  session : Option SessionId := none

structure CsmsConfig where
  historyCap : Nat := 1000
  historyBytesCap : Nat := 8 * 1024 * 1024
  maxStations : Nat := 100000
  showSecrets : Bool := false

/-- What the server calls: the JSON reader and writer, the typed messages, and the fold of inbound CALLs. -/
structure Env (Reported : Type) where
  fromStr : String → Except String Json
  render : Json → String
  /-- `StationState::default`. -/
  unreported : Reported
  /-- `StationState::apply`: action, request, response, now; whether the state changed. -/
  apply : String → Json → Json → Nat → Reported → Reported × Bool
  /-- The `certificateType` of a `GetInstalledCertificateIds.req`. -/
  certificateType : Json → Option String
  /-- The status and the certificates of a `GetInstalledCertificateIds.conf`, each cut to the schema. -/
  installed : Json → Option (String × List Json)

def maxActionKeys : Nat := 64
def maxActionKeyChars : Nat := 64
def maxInstalledCertificates : Nat := 64
def otherAction : String := "other"

/-- What the server does with one CALL of a station. -/
inductive Reply where
  | result (payload : Json)
  | error (code : ErrorCode) (description : String)
  | silence
  | close

variable {Reported : Type}

/-! ## One record -/

/-- Adds one to the count of `key`. -/
def countAction (key : String) : List (String × Nat) → List (String × Nat)
  | [] => [(key, 1)]
  | (name, n) :: rest => if name = key then (name, n + 1) :: rest else (name, n) :: countAction key rest

namespace StationInfo

def countCall (info : StationInfo) (action : String) : StationInfo :=
  let short := decide (action.length ≤ maxActionKeyChars)
  let known := info.receivedByAction.any fun entry => entry.1 == action
  let key := if short && (known || decide (info.receivedByAction.length < maxActionKeys)) then action
    else otherAction
  { info with
    receivedCalls := info.receivedCalls + 1, receivedByAction := countAction key info.receivedByAction }

end StationInfo

/-- The oldest frames go until there is room for one more of `bytes`. -/
def makeRoom (cap bytesCap bytes : Nat) : List HistoryItem → Nat → List HistoryItem × Nat
  | [], total => ([], total)
  | item :: rest, total =>
    if cap ≤ rest.length + 1 ∨ bytesCap < total + bytes then makeRoom cap bytesCap bytes rest (total - item.bytes)
    else (item :: rest, total)

/-- A frame that is too big for the history, with a marker for its payload. -/
def truncatedFrame (frame : Frame) (originalBytes : Nat) : Frame :=
  let marker := Json.object [("truncated", .bool true), ("originalBytes", .integer originalBytes)]
  match frame with
  | .call id action _ => .call id action marker
  | .callResult id _ => .callResult id marker
  | .callError id code description _ => .callError id code (String.ofList (description.toList.take 128)) marker

/-- `to_json_string().len()`. -/
def Env.size (env : Env Reported) (frame : Frame) : Nat := (env.render frame.toValue).utf8ByteSize

namespace StationRec

/-- The history with one more frame. -/
def remember (env : Env Reported) (config : CsmsConfig) (direction : Direction) (frame : Frame) (now : Nat)
    (record : StationRec Reported) : StationRec Reported :=
  if config.historyCap = 0 then record
  else
    let whole := env.size frame
    let stored := if config.historyBytesCap < whole then truncatedFrame frame whole else frame
    let bytes := env.size stored
    let (history, total) := makeRoom config.historyCap config.historyBytesCap bytes record.history record.historyBytes
    if total + bytes ≤ config.historyBytesCap then
      { record with
        history := history ++ [{ entry := { ts := now, direction, frame := stored }, bytes }]
        historyBytes := total + bytes }
    else { record with history, historyBytes := total }

end StationRec

/-- `apply_result`: the answer of a `GetInstalledCertificateIds`; whether the state changed. -/
def StationState.applyResult (env : Env Reported) (action : String) (request response : Json) (now : Nat)
    (state : StationState Reported) : StationState Reported × Bool :=
  if action = "GetInstalledCertificateIds" then
    match env.certificateType request, env.installed response with
    | some key, some (status, sent) =>
      let answer := { status, certificates := sent.take maxInstalledCertificates, total := sent.length, at' := now }
      let others := state.installedCertificates.filter fun entry => entry.1 != key
      ({ state with installedCertificates := (key, answer) :: others }, true)
    | _, _ => (state, false)
  else (state, false)

/-! ## The registry -/

abbrev Stations (Reported : Type) := AList fun _ : StationId => StationRec Reported

structure Registry (Reported : Type) where
  config : CsmsConfig := {}
  stations : Stations Reported := ∅
  nextSession : SessionId := 0
  /-- The flag of `shutdown`. -/
  shutdown : Bool := false
  /-- What subscribers see, latest first. -/
  events : List CsmsEvent := []

inductive RegisterError where
  | shutdown | tooManyStations
deriving DecidableEq

namespace Registry

def emit (event : CsmsEvent) (r : Registry Reported) : Registry Reported := { r with events := event :: r.events }

def put (station : StationId) (record : StationRec Reported) (r : Registry Reported) : Registry Reported :=
  { r with stations := r.stations.insert station record }

/-- The record of a station, if `session` is its connection. -/
def owned (r : Registry Reported) (station : StationId) (session : SessionId) : Option (StationRec Reported) :=
  (r.stations.lookup station).filter fun record => decide (record.session = some session)

/-- Registers a new connection, replacing an older one with the same id, which is then told to close. -/
def register (env : Env Reported) (station : StationId) (peer : String) (subprotocol : Option String) (now : Nat)
    (r : Registry Reported) : Except RegisterError (Registry Reported × SessionId × Option SessionId) :=
  if r.shutdown then .error .shutdown
  else if r.config.maxStations ≤ r.stations.keys.length ∧ station ∉ r.stations then .error .tooManyStations
  else
    let session := r.nextSession + 1
    let r := { r with nextSession := session }
    let record := (r.stations.lookup station).getD
      { info := { id := station }, state := { reported := env.unreported } }
    let old := record.session
    let r := if old.isSome then r.emit (.disconnected station .replaced) else r
    let info := { record.info with
      connected := true, connectedAt := some now, disconnectedAt := none, remoteAddr := some peer, subprotocol }
    .ok (((r.put station { record with info, session := some session }).emit (.connected station)), session, old)

/-- Marks a session as ended, unless it was replaced or forgotten already. -/
def sessionEnded (station : StationId) (session : SessionId) (reason : DisconnectReason) (now : Nat)
    (r : Registry Reported) : Registry Reported :=
  match r.owned station session with
  | none => r
  | some record =>
    let info := { record.info with connected := false, disconnectedAt := some now }
    (r.put station { record with info, session := none }).emit (.disconnected station reason)

/-- Removes a station; its connection, if any, is then told to close. -/
def forget (station : StationId) (r : Registry Reported) : Registry Reported × Option SessionId :=
  match r.stations.lookup station with
  | none => (r, none)
  | some record =>
    let r := { r with stations := r.stations.erase station }
    let r := if record.session.isSome then r.emit (.disconnected station .forgotten) else r
    (r.emit (.forgotten station), record.session)

/-- One record of the last step of `shutdown`. -/
def disconnect (now : Nat) (r : Registry Reported) (station : StationId) : Registry Reported :=
  match r.stations.lookup station with
  | none => r
  | some record =>
    if record.session.isSome then
      let info := { record.info with connected := false, disconnectedAt := some now }
      (r.put station { record with info, session := none }).emit (.disconnected station .shutdown)
    else r

/-- The last step of `shutdown`: the sessions that are still registered. -/
def sweep (now : Nat) (r : Registry Reported) : Registry Reported :=
  (r.stations.keys.mergeSort fun a b => decide (a ≤ b)).foldl (disconnect now) r

def recordFrame (env : Env Reported) (station : StationId) (session : SessionId) (direction : Direction)
    (frame : Frame) (now : Nat) (r : Registry Reported) : Registry Reported :=
  match r.owned station session with
  -- A session that was replaced or forgotten must not write into the record.
  | none => r
  | some record =>
    let record := match direction, frame with
      | .in, .call _ action _ => { record with info := record.info.countCall action }
      | _, _ => record
    let frame := if r.config.showSecrets then frame else redactSecrets frame
    (r.put station (record.remember env r.config direction frame now)).emit (.frame station direction frame)

/-- Folds an answered inbound CALL into the station's state. -/
def track (env : Env Reported) (station : StationId) (session : SessionId) (action : String) (request : Json)
    (reply : Reply) (now : Nat) (r : Registry Reported) : Registry Reported :=
  match reply with
  | .result response =>
    match r.owned station session with
    | none => r
    | some record =>
      let (reported, changed) := env.apply action request response now record.state.reported
      let r := r.put station { record with state := { record.state with reported } }
      if changed then r.emit (.stateChanged station) else r
  | _ => r

def noteFailedCall (station : StationId) (r : Registry Reported) : Registry Reported :=
  match r.stations.lookup station with
  | none => r
  | some record =>
    (r.put station { record with state := { record.state with failedCalls := record.state.failedCalls + 1 } }).emit
      (.stateChanged station)

/-- Folds the answer of a CALL of ours into the station's state. -/
def trackResult (env : Env Reported) (station : StationId) (action : String) (request response : Json) (now : Nat)
    (r : Registry Reported) : Registry Reported :=
  match r.stations.lookup station with
  | none => r
  | some record =>
    let (state, changed) := record.state.applyResult env action request response now
    let r := r.put station { record with state }
    if changed then r.emit (.stateChanged station) else r

end Registry

end KirbyOcpp.Csms
