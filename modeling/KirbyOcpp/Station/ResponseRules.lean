import KirbyOcpp.Ocpp.Frame
import KirbyOcpp.Ocpp.Text

/-!
# Response rules: `response_rules.rs`

The compact text of a rule and its parser, the list of rules of a station, and the command that sets
one. The payload of a rejection is not modelled here.
-/

namespace KirbyOcpp

open Ws (ErrorCode)

/-- The inbound actions a rule can target. -/
def inboundActions : List Text :=
  ["CancelReservation".toList, "CertificateSigned".toList, "ChangeAvailability".toList,
    "ChangeConfiguration".toList, "ClearCache".toList, "ClearChargingProfile".toList, "DataTransfer".toList,
    "DeleteCertificate".toList, "ExtendedTriggerMessage".toList, "GetCompositeSchedule".toList,
    "GetConfiguration".toList, "GetDiagnostics".toList, "GetInstalledCertificateIds".toList,
    "GetLocalListVersion".toList, "GetLog".toList, "InstallCertificate".toList,
    "RemoteStartTransaction".toList, "RemoteStopTransaction".toList, "ReserveNow".toList, "Reset".toList,
    "SendLocalList".toList, "SetChargingProfile".toList, "SignedUpdateFirmware".toList,
    "TriggerMessage".toList, "UnlockConnector".toList, "UpdateFirmware".toList]

/-- Longest accepted `delay` (one hour). -/
def maxDelayMs : Nat := 3600000

/-- What to do instead of the normal handling. -/
inductive Behavior where
  | reject
  | delay (ms : UInt64)
  | error (code : ErrorCode) (description : Option Text)
  | drop
  | ignore
deriving DecidableEq

/-- One rule: `behavior` for the next `remaining` CALLs of `action`. -/
structure ResponseRule where
  action : Text
  behavior : Behavior
  remaining : Option UInt32
deriving DecidableEq

/-- A rule that cannot be parsed. -/
inductive RuleError where
  | format
  | unknownAction (name : Text)
  | unknownBehavior (text : Text)
  | badDelay
  | unknownErrorCode (code : Text)
  | badCount
deriving DecidableEq

/-- The text of the error. -/
def RuleError.text : RuleError → Text
  | format =>
    "expected <Action>=<behavior>[*<count>], e.g. Reset=reject or GetConfiguration=delay:5000".toList
  | unknownAction name =>
    "unknown action `".toList ++ name ++ "` (expected one of the CSMS commands, e.g. Reset)".toList
  | unknownBehavior text =>
    "unknown behavior `".toList ++ text ++
      "` (expected reject, delay:<ms>, error:<Code>[:<text>], drop or ignore)".toList
  | badDelay => "delay must be a number of milliseconds between 0 and ".toList ++ Text.ofNat maxDelayMs
  | unknownErrorCode code =>
    "unknown error code `".toList ++ code ++
      "` (expected one of the ten OCPP 1.6 CALLERROR codes)".toList
  | badCount => "count must be a positive integer".toList

/-! ## Parsing -/

/-- Canonical spelling of an inbound action name. -/
def canonicalAction (name : Text) : Except RuleError Text :=
  match inboundActions.find? fun known => known.eqIgnoreAsciiCase name.trim with
  | some known => .ok known
  | none => .error (.unknownAction name.trim)

/-- The error code of that name, in any case. -/
def standardCode (code : Text) : Option ErrorCode :=
  ErrorCode.standard.find? fun known => Text.eqIgnoreAsciiCase known.asStr.toList code

/-- The argument of `error`. -/
def parseError (arg : Text) : Except RuleError Behavior :=
  let (code, description) := match arg.splitOnce ':' with
    | some (code, text) => (code.trim, some text.trim)
    | none => (arg.trim, none)
  match standardCode code with
  | some code => .ok (.error code (description.filter fun t => !t.isEmpty))
  | none => .error (.unknownErrorCode code)

/-- The argument of `delay`. -/
def parseDelay (arg : Text) : Except RuleError Behavior :=
  match arg.trim.parseU64 with
  | none => .error .badDelay
  | some ms => if maxDelayMs < ms then .error .badDelay else .ok (.delay (UInt64.ofNat ms))

def parseBehavior (text : Text) : Except RuleError Behavior :=
  let (name, arg) := match text.splitOnce ':' with
    | some (name, arg) => (name.trim, some arg)
    | none => (text.trim, none)
  let name := name.toAsciiLowercase
  match arg with
  | none =>
    if name = "reject".toList then .ok .reject
    else if name = "drop".toList then .ok .drop
    else if name = "ignore".toList then .ok .ignore
    else if name = "delay".toList then .error .badDelay
    else if name = "error".toList then .error (.unknownErrorCode [])
    else .error (.unknownBehavior text.trim)
  | some arg =>
    if name = "delay".toList then parseDelay arg
    else if name = "error".toList then parseError arg
    else .error (.unknownBehavior text.trim)

/-- The behavior text and the count: a trailing `*<digits>` is the count, anything else stays part of
the behavior. -/
def splitCount (rest : Text) : Except RuleError (Text × Option UInt32) :=
  match rest.rsplitOnce '*' with
  | some (head, tail) =>
    if !tail.isEmpty && tail.all Text.isAsciiDigit then
      match tail.parseU32 with
      | none => .error .badCount
      | some 0 => .error .badCount
      | some count => .ok (head.trimEnd, some (UInt32.ofNat count))
    else .ok (rest, none)
  | none => .ok (rest, none)

/-- `ResponseRule::from_str`. -/
def ResponseRule.fromStr (text : Text) : Except RuleError ResponseRule :=
  match text.splitOnce '=' with
  | none => .error .format
  | some (action, rest) =>
    match canonicalAction action with
    | .error error => .error error
    | .ok action =>
      match splitCount rest.trim with
      | .error error => .error error
      | .ok (behaviorText, remaining) =>
        match parseBehavior behaviorText with
        | .error error => .error error
        | .ok behavior => .ok { action, behavior, remaining }

/-! ## Printing -/

/-- `Display` of a behavior. -/
def Behavior.display : Behavior → Text
  | .reject => "reject".toList
  | .delay ms => "delay:".toList ++ Text.ofNat ms.toNat
  | .error code description =>
    "error:".toList ++ code.asStr.toList ++
      (match description with
        | some text => ':' :: text
        | none => [])
  | .drop => "drop".toList
  | .ignore => "ignore".toList

/-- `Display` of a rule: the compact form. -/
def ResponseRule.display (rule : ResponseRule) : Text :=
  rule.action ++ '=' :: rule.behavior.display ++
    (match rule.remaining with
      | some count => '*' :: Text.ofNat count.toNat
      | none => [])

/-! ## The rules of a station -/

/-- Adds `rule`, replacing the rule of the same action. -/
def setRule (rule : ResponseRule) : List ResponseRule → List ResponseRule
  | [] => [rule]
  | slot :: rest => if slot.action = rule.action then rule :: rest else slot :: setRule rule rest

/-- Removes the rules of `action`, or all of them; with how many went away. -/
def clearRules (action : Option Text) (rules : List ResponseRule) : List ResponseRule × Nat :=
  let kept := rules.filter fun rule => action.any fun action => decide (rule.action ≠ action)
  (kept, rules.length - kept.length)

/-- The rule with one application used up, if it has more. -/
def ResponseRule.usedUp (rule : ResponseRule) : Option ResponseRule :=
  match rule.remaining with
  | some left =>
    -- `saturating_sub`
    let left := if left = 0 then 0 else left - 1
    if left = 0 then none else some { rule with remaining := some left }
  | none => some rule

/-- Picks the behavior for the next CALL of `action` and uses up one application. -/
def takeRule (action : Text) : List ResponseRule → Option Behavior × List ResponseRule
  | [] => (none, [])
  | rule :: rest =>
    if rule.action = action then (some rule.behavior, rule.usedUp.toList ++ rest)
    else
      let (behavior, rest) := takeRule action rest
      (behavior, rule :: rest)

/-- `SetResponseRule`: the rule as it is stored, or the text of the refusal. -/
def setResponseRule (rule : ResponseRule) : Except Text ResponseRule :=
  match canonicalAction rule.action with
  | .error error => .error error.text
  | .ok canonical =>
    if rule.remaining = some 0 then .error "count must be a positive integer".toList
    else .ok { rule with action := canonical }

/-- What happens to the list of rules. -/
inductive RuleOp where
  | set (rule : ResponseRule)
  | clear (action : Option Text)
  | take (action : Text)
deriving DecidableEq

/-- The list after one operation. -/
def RuleOp.apply (rules : List ResponseRule) : RuleOp → List ResponseRule
  | .set rule => setRule rule rules
  | .clear action => (clearRules action rules).1
  | .take action => (takeRule action rules).2

/-- What the CALLs of `action` are answered with in a run, in order. -/
def takenBehaviors (action : Text) : List ResponseRule → List RuleOp → List (Option Behavior)
  | _, [] => []
  | rules, op :: ops =>
    (if op = .take action then [(takeRule action rules).1] else []) ++
      takenBehaviors action (op.apply rules) ops

end KirbyOcpp
