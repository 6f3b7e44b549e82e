import KirbyOcpp.Ws.Task

/-!
# JSON-schema validation of OCPP payloads: `ocpp/schema.rs`

What the compiled schema of a payload has to say of a value (`iter_errors` of the `jsonschema` crate) is a
parameter: where in the payload, which keyword, and a text that may quote the offending value.
-/

namespace KirbyOcpp.Schema

open Ws

/-- Which payload of an action a schema describes. -/
inductive PayloadKind where
  | request | response
deriving DecidableEq

def PayloadKind.display : PayloadKind → String
  | request => "request"
  | response => "response"

/-- The JSON-schema keyword that a validation error originated from. -/
inductive SchemaKeyword where
  | required | type | additionalProperties | enum | maxLength | minLength | minimum | maximum | multipleOf | format
  | other (name : String)
deriving DecidableEq

namespace SchemaKeyword

def keywordName : SchemaKeyword → String
  | required => "required"
  | type => "type"
  | additionalProperties => "additionalProperties"
  | enum => "enum"
  | maxLength => "maxLength"
  | minLength => "minLength"
  | minimum => "minimum"
  | maximum => "maximum"
  | multipleOf => "multipleOf"
  | format => "format"
  | other name => name

/-- The keywords that have a variant. -/
def known : List SchemaKeyword :=
  [required, type, additionalProperties, enum, maxLength, minLength, minimum, maximum, multipleOf, format]

def fromName (name : String) : SchemaKeyword :=
  (known.find? fun keyword => keyword.keywordName == name).getD (other name)

end SchemaKeyword

/-- What the validator reports. -/
structure ValidationError where
  instancePath : String
  keyword : String
  message : String
deriving DecidableEq

/-- Why a payload was rejected. -/
inductive ViolationCause where
  | unknownAction
  /-- One entry per error. -/
  | keywords (keywords : List SchemaKeyword)
deriving DecidableEq

/-- One schema error: where in the payload, which keyword, what the validator said. -/
structure SchemaIssue where
  /-- JSON pointer to the offending value (`""` is the payload root). -/
  instancePath : String
  keyword : SchemaKeyword
  message : String
deriving DecidableEq

namespace SchemaIssue

def display (issue : SchemaIssue) : String :=
  (if issue.instancePath = "" then "/" else issue.instancePath) ++ ": " ++ issue.message

def sortKey (issue : SchemaIssue) : String ×ₗ String ×ₗ String :=
  toLex (issue.instancePath, toLex (issue.keyword.keywordName, issue.message))

end SchemaIssue

/-- A payload that does not conform to the schema of its action. -/
structure SchemaViolation where
  action : String
  kind : PayloadKind
  cause : ViolationCause
  errors : List String
  issues : List SchemaIssue
deriving DecidableEq

namespace SchemaViolation

def unknownAction (action : String) (kind : PayloadKind) : SchemaViolation :=
  { action, kind, cause := .unknownAction, errors := ["`" ++ action ++ "` is not an OCPP 1.6J action"], issues := [] }

def fromIssues (action : String) (kind : PayloadKind) (issues : List SchemaIssue) : SchemaViolation :=
  let issues := issues.mergeSort fun a b => decide (a.sortKey ≤ b.sortKey)
  { action, kind, cause := .keywords (issues.map (·.keyword)), errors := issues.map (·.display), issues }

/-- The CALLERROR code to answer with. -/
def errorCode (violation : SchemaViolation) : ErrorCode :=
  match violation.cause with
  | .unknownAction => .notImplemented
  | .keywords keywords =>
    if .required ∈ keywords then .occurenceConstraintViolation
    else if .type ∈ keywords then .typeConstraintViolation
    else if keywords.any fun keyword => decide (keyword ∈ ([.additionalProperties, .enum, .maxLength, .minLength, .minimum,
        .maximum, .multipleOf, .format] : List SchemaKeyword)) then .propertyConstraintViolation
    else .formationViolation

def display (violation : SchemaViolation) : String :=
  violation.action ++ " " ++ violation.kind.display ++ " violates OCPP 1.6J schema (" ++ violation.errorCode.asStr ++
    "): " ++ "; ".intercalate violation.errors

end SchemaViolation

/-- The actions with an embedded schema. -/
def embedded : List String :=
  ["Authorize", "BootNotification", "CancelReservation", "ChangeAvailability", "ChangeConfiguration", "ClearCache",
    "ClearChargingProfile", "DataTransfer", "DiagnosticsStatusNotification", "FirmwareStatusNotification",
    "GetCompositeSchedule", "GetConfiguration", "GetDiagnostics", "GetLocalListVersion", "Heartbeat", "MeterValues",
    "RemoteStartTransaction", "RemoteStopTransaction", "ReserveNow", "Reset", "SendLocalList", "SetChargingProfile",
    "StartTransaction", "StatusNotification", "StopTransaction", "TriggerMessage", "UnlockConnector",
    "UpdateFirmware", "CertificateSigned", "DeleteCertificate", "ExtendedTriggerMessage",
    "GetInstalledCertificateIds", "GetLog", "InstallCertificate", "LogStatusNotification",
    "SecurityEventNotification", "SignCertificate", "SignedFirmwareStatusNotification", "SignedUpdateFirmware"]

/-- `str::eq_ignore_ascii_case("AuthorizationKey")`. -/
def isAuthorizationKey (key : String) : Bool := key.map Char.toLower == "authorizationkey"

/-- A `ChangeConfiguration` payload that sets `AuthorizationKey`. -/
def carriesAuthorizationKey (action : String) (payload : Json) : Bool :=
  match payload with
  | .object fields =>
    decide (action = "ChangeConfiguration") && ((fields.lookup "key").bind Json.asStr).any isAuthorizationKey
  | _ => false

/-- The compiled schemas, as what each has to say of a payload. -/
structure SchemaRegistry where
  iterErrors : String → PayloadKind → Json → List ValidationError

namespace SchemaRegistry

def knowsAction (action : String) : Bool := decide (action ∈ embedded)

/-- The issue of an error; the text of the validator is hidden if it may quote a secret. -/
def issueOf (secret : Bool) (error : ValidationError) : SchemaIssue :=
  { instancePath := error.instancePath
    keyword := .fromName error.keyword
    message := if secret then "violates `" ++ error.keyword ++ "` (details hidden: the value is a secret)"
               else error.message }

def validate (schemas : SchemaRegistry) (action : String) (kind : PayloadKind) (payload : Json) :
    Except SchemaViolation Unit :=
  if !knowsAction action then .error (.unknownAction action kind)
  else
    let secret := decide (kind = .request) && carriesAuthorizationKey action payload
    let issues := (schemas.iterErrors action kind payload).map (issueOf secret)
    if issues.isEmpty then .ok () else .error (.fromIssues action kind issues)

/-- What the connection task makes of a violation. -/
def reported (result : Except SchemaViolation Unit) : Except Ws.SchemaViolation Unit :=
  match result with
  | .ok () => .ok ()
  | .error violation =>
    .error { errorCode := violation.errorCode, errors := violation.errors, display := violation.display }

/-- The task with these schemas. -/
def env (schemas : SchemaRegistry) (base : Env) : Env :=
  { base with
    knowsAction
    validateRequest := fun action payload => reported (schemas.validate action .request payload)
    validateResponse := fun action payload => reported (schemas.validate action .response payload) }

end SchemaRegistry

end KirbyOcpp.Schema
