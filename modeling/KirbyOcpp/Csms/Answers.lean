import KirbyOcpp.Csms.Registry
import KirbyOcpp.Ocpp.Schema
import KirbyOcpp.Ocpp.Text

/-!
# What the central system answers: `Inner::decide`, `fault.rs`, `defaults.rs`, `policy.rs`

The decision about one CALL of a station, and the operations of `CsmsHandle` that script it. All of them run
under the lock of the server, which every session shares.

A responder runs outside the lock, after the decision: `decide` names it, and what it returns is not modelled.
-/

namespace KirbyOcpp.Csms

open Ws (Json ErrorCode)
open Schema (SchemaRegistry)

/-! ## Faults -/

/-- A scripted failure of the next `remaining` CALLs of `action`. -/
structure Fault where
  action : String
  /-- What to do instead of the normal answer. -/
  reply : Reply
  remaining : Nat

/-! ## Transaction ids -/

/-- How the default answer allocates transaction ids. -/
inductive TransactionIds where
  | fixed (id : Int32)
  | incrementing (id : Int32)
deriving DecidableEq

structure TransactionIdAllocator where
  policy : TransactionIds
  next : Int32
deriving DecidableEq

/-- A fresh allocator following the policy. -/
def TransactionIds.allocator (policy : TransactionIds) : TransactionIdAllocator where
  policy := policy
  next := match policy with
    | .fixed id | .incrementing id => id

/-- The id for the next `StartTransaction`. Wraps instead of overflowing. -/
def TransactionIdAllocator.allocate (a : TransactionIdAllocator) : Int32 × TransactionIdAllocator :=
  match a.policy with
  | .fixed id => (id, a)
  | .incrementing _ => (a.next, { a with next := a.next + 1 })

/-! ## Default answers -/

/-- Every action of OCPP 1.6 and of the Security Whitepaper: `ACTIONS`. -/
def actions : List String :=
  ["Authorize", "BootNotification", "CancelReservation", "CertificateSigned", "ChangeAvailability",
    "ChangeConfiguration", "ClearCache", "ClearChargingProfile", "DataTransfer", "DeleteCertificate",
    "DiagnosticsStatusNotification", "ExtendedTriggerMessage", "FirmwareStatusNotification",
    "GetCompositeSchedule", "GetConfiguration", "GetDiagnostics", "GetInstalledCertificateIds",
    "GetLocalListVersion", "GetLog", "Heartbeat", "InstallCertificate", "LogStatusNotification", "MeterValues",
    "RemoteStartTransaction", "RemoteStopTransaction", "ReserveNow", "Reset", "SecurityEventNotification",
    "SendLocalList", "SetChargingProfile", "SignCertificate", "SignedFirmwareStatusNotification",
    "SignedUpdateFirmware", "StartTransaction", "StatusNotification", "StopTransaction", "TriggerMessage",
    "UnlockConnector", "UpdateFirmware"]

/-- The actions a charge point may send to a central system. -/
def chargePointActions : List String :=
  ["Authorize", "BootNotification", "DataTransfer", "DiagnosticsStatusNotification",
    "FirmwareStatusNotification", "Heartbeat", "LogStatusNotification", "MeterValues",
    "SecurityEventNotification", "SignCertificate", "SignedFirmwareStatusNotification", "StartTransaction",
    "StatusNotification", "StopTransaction"]

def isChargePointAction (action : String) : Bool := chargePointActions.contains action

/-- What `decide` reads and never changes. A time is in milliseconds; `iso` writes one. -/
structure AnswerEnv where
  /-- Nothing if the embedded schemas do not compile. -/
  schemas : Option SchemaRegistry
  iso : Int → String
  validateInbound : Bool := true
  heartbeatInterval : Nat := 300

/-- A timestamp one minute in the past, so the idTag is already expired. -/
def AnswerEnv.expired (env : AnswerEnv) (now : Int) : String := env.iso (now - 60000)

/-- Magic idTags for `Authorize`. -/
def authorizeInfo (env : AnswerEnv) (idTag : String) (now : Int) : Json :=
  match idTag with
  | "BADTAG" => .object [("status", .string "Blocked")]
  | "EXPIREDAUTH" => .object [("status", .string "Accepted"), ("expiryDate", .string (env.expired now))]
  | "PARENTAUTH" => .object [("status", .string "Accepted"), ("parentIdTag", .string "PARENTTAG")]
  | "CONCURRENTAUTH" => .object [("status", .string "ConcurrentTx")]
  | _ => .object [("status", .string "Accepted")]

/-- Magic idTags for `StartTransaction`. -/
def startInfo (env : AnswerEnv) (idTag : String) (now : Int) : Json :=
  match idTag with
  | "BLOCKSTART" => .object [("status", .string "Blocked")]
  | "EXPIREDSTART" => .object [("status", .string "Accepted"), ("expiryDate", .string (env.expired now))]
  | "CONCURRENTSTART" => .object [("status", .string "ConcurrentTx")]
  | _ => .object [("status", .string "Accepted")]

/-- `payload.get("idTag")` as a text, or the empty one. -/
def idTagOf : Json → String
  | .object fields => ((fields.lookup "idTag").bind Json.asStr).getD ""
  | _ => ""

/-- The default answer for `action`; `transactionId` is that of a `StartTransaction`. -/
def defaultReply (env : AnswerEnv) (action : String) (payload : Json) (transactionId : Option Int32) (now : Int) :
    Json :=
  let idTag := idTagOf payload
  match action with
  | "BootNotification" =>
    .object [("status", .string "Accepted"), ("currentTime", .string (env.iso now)),
      ("interval", .integer env.heartbeatInterval)]
  | "Heartbeat" => .object [("currentTime", .string (env.iso now))]
  | "Authorize" => .object [("idTagInfo", authorizeInfo env idTag now)]
  | "StartTransaction" =>
    .object [("transactionId", .integer (transactionId.getD 0).toInt), ("idTagInfo", startInfo env idTag now)]
  | "DataTransfer" => .object [("status", .string "Accepted"), ("data", .string "pong")]
  | "SignCertificate" => .object [("status", .string "Accepted")]
  | _ => .object []

/-! ## The decision -/

/-- Which rule answers a CALL. -/
inductive Decision (Responder : Type) where
  | fault (reply : Reply)
  | invalid (code : ErrorCode) (description : String)
  | responder (responder : Responder)
  /-- Not an action that a charge point may send. -/
  | refused (code : ErrorCode) (description : String)
  | default (transactionId : Option Int32) (payload : Json)

/-- The reply; `call` runs a responder. -/
def Decision.reply {Responder : Type} (call : Responder → Reply) : Decision Responder → Reply
  | fault reply => reply
  | invalid code description | refused code description => .error code description
  | responder r => call r
  | default _ payload => .result payload

/-- The part of the state of the server that decides. -/
structure Answering (Responder : Type) where
  faults : List Fault := []
  responders : AList fun _ : String => Responder := ∅
  txIds : TransactionIdAllocator

def maxErrorDescription : Nat := 255

def truncateChars (text : String) (max : Nat) : String := String.ofList (text.toList.take max)

/-- `char::is_control`. -/
def isControl (c : Char) : Bool := c.toNat < 0x20 || (0x7F ≤ c.toNat && c.toNat ≤ 0x9F)

/-- The action name for a CALLERROR text: at most 64 characters, control characters replaced. -/
def sanitizeAction (action : String) : String :=
  (truncateChars action maxActionKeyChars).map fun c => if isControl c then '?' else c

/-- The first fault of `action` that has occurrences left is used once. -/
def fireFault (action : String) : List Fault → Option (Reply × List Fault)
  | [] => none
  | fault :: rest =>
    if fault.action = action ∧ 0 < fault.remaining then
      some (fault.reply, { fault with remaining := fault.remaining - 1 } :: rest)
    else (fireFault action rest).map fun (reply, rest) => (reply, fault :: rest)

variable {Responder : Type}

namespace Answering

/-- What is wrong with the payload, if it is validated. -/
def violation (env : AnswerEnv) (action : String) (payload : Json) : Option Schema.SchemaViolation :=
  match env.schemas with
  | none => none
  | some schemas =>
    if env.validateInbound && SchemaRegistry.knowsAction action then
      match schemas.validate action .request payload with
      | .ok () => none
      | .error violation => some violation
    else none

/-- The reply to a CALL: fault, then schema validation, then responder, then default. -/
def decide (env : AnswerEnv) (action : String) (payload : Json) (now : Int) (s : Answering Responder) :
    Decision Responder × Answering Responder :=
  match fireFault action s.faults with
  | some (reply, faults) =>
    (.fault reply, { s with faults := faults.filter fun fault => 0 < fault.remaining })
  | none =>
    match violation env action payload with
    | some violation =>
      (.invalid violation.errorCode (truncateChars ("; ".intercalate violation.errors) maxErrorDescription), s)
    | none =>
      match s.responders.lookup action with
      | some responder => (.responder responder, s)
      | none =>
        if !isChargePointAction action then
          if actions.contains action then
            (.refused .notSupported ("action " ++ sanitizeAction action ++ " is not supported"), s)
          else (.refused .notImplemented ("action " ++ sanitizeAction action ++ " is not implemented"), s)
        else if action = "StartTransaction" then
          let (id, txIds) := s.txIds.allocate
          (.default (some id) (defaultReply env action payload (some id) now), { s with txIds })
        else (.default none (defaultReply env action payload none now), s)

/-- `CsmsHandle::inject`. -/
def inject (fault : Fault) (s : Answering Responder) : Answering Responder :=
  if 0 < fault.remaining then { s with faults := s.faults ++ [fault] } else s

/-- `CsmsHandle::faults_remaining`. -/
def faultsRemaining (s : Answering Responder) : Nat := (s.faults.map (·.remaining)).sum

/-! ## Runs -/

/-- What happens under the lock of the server. -/
inductive Input (Responder : Type) where
  | inject (fault : Fault)
  | clearFaults
  | respond (action : String) (responder : Responder)
  | clearResponder (action : String)
  /-- A CALL of any station. -/
  | call (action : String) (payload : Json) (now : Int)

def step (env : AnswerEnv) (s : Answering Responder) : Input Responder → Answering Responder
  | .inject fault => s.inject fault
  | .clearFaults => { s with faults := [] }
  | .respond action responder => { s with responders := s.responders.insert action responder }
  | .clearResponder action => { s with responders := s.responders.erase action }
  | .call action payload now => (s.decide env action payload now).2

def run (env : AnswerEnv) (inputs : List (Input Responder)) (s : Answering Responder) : Answering Responder :=
  inputs.foldl (step env) s

/-- The decisions of a run, each with its action, in order. -/
def decisions (env : AnswerEnv) : List (Input Responder) → Answering Responder →
    List (String × Decision Responder)
  | [], _ => []
  | input :: inputs, s =>
    match input with
    | .call action payload now =>
      (action, (s.decide env action payload now).1) :: decisions env inputs (step env s input)
    | _ => decisions env inputs (step env s input)

end Answering

end KirbyOcpp.Csms
