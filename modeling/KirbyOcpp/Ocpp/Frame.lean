import Mathlib

/-!
# OCPP-J frames

The frames of `ocpp/frame.rs` and the strict decoder of a JSON array into one. A frame that does not
decode keeps its message type and id where they could still be read, so that a broken CALL can be
answered (`FrameError.reply`).
-/

namespace KirbyOcpp.Ws

/-- A JSON value. A number is an integer, or the text of any other number. -/
inductive Json where
  | null
  | bool (value : Bool)
  | integer (value : Int)
  | number (text : String)
  | string (text : String)
  | array (items : List Json)
  | object (fields : List (String × Json))
deriving Inhabited

namespace Json

def asU64 : Json → Option Nat
  | integer value => if 0 ≤ value ∧ value < 2 ^ 64 then some value.toNat else none
  | _ => none

def asStr : Json → Option String
  | string text => some text
  | _ => none

end Json

abbrev MessageId := String

/-! ## Error codes -/

inductive ErrorCode where
  | notImplemented | notSupported | internalError | protocolError | securityError | formationViolation
  | propertyConstraintViolation | occurenceConstraintViolation | typeConstraintViolation | genericError
  /-- A code that is not part of OCPP 1.6, as received. -/
  | other (code : String)
deriving DecidableEq, Repr

namespace ErrorCode

def standard : List ErrorCode :=
  [notImplemented, notSupported, internalError, protocolError, securityError, formationViolation,
    propertyConstraintViolation, occurenceConstraintViolation, typeConstraintViolation, genericError]

def asStr : ErrorCode → String
  | notImplemented => "NotImplemented"
  | notSupported => "NotSupported"
  | internalError => "InternalError"
  | protocolError => "ProtocolError"
  | securityError => "SecurityError"
  | formationViolation => "FormationViolation"
  | propertyConstraintViolation => "PropertyConstraintViolation"
  | occurenceConstraintViolation => "OccurenceConstraintViolation"
  | typeConstraintViolation => "TypeConstraintViolation"
  | genericError => "GenericError"
  | other code => code

def fromWire (code : String) : ErrorCode :=
  (standard.find? fun known => known.asStr == code).getD (other code)

end ErrorCode

/-! ## Frames -/

inductive Frame where
  | call (id : MessageId) (action : String) (payload : Json)
  | callResult (id : MessageId) (payload : Json)
  | callError (id : MessageId) (code : ErrorCode) (description : String) (details : Json)

namespace Frame

/-- A CALLERROR with empty details. -/
def error (id : MessageId) (code : ErrorCode) (description : String) : Frame :=
  callError id code description (.object [])

def id : Frame → MessageId
  | call id _ _ | callResult id _ | callError id _ _ _ => id

/-- The JSON array of the frame. -/
def toValue : Frame → Json
  | call id action payload => .array [.integer 2, .string id, .string action, payload]
  | callResult id payload => .array [.integer 3, .string id, payload]
  | callError id code description details =>
    .array [.integer 4, .string id, .string code.asStr, .string description, details]

def isCall : Frame → Bool
  | call _ _ _ => true
  | _ => false

/-- The id of the CALL that the frame answers. -/
def answers : Frame → Option MessageId
  | call _ _ _ => none
  | callResult id _ | callError id _ _ _ => some id

end Frame

/-- What replaces a secret in a recorded frame. -/
def redacted : String := "***"

/-- The frame with the value of an `AuthorizationKey` hidden; only for the recorded copy. -/
def redactSecrets : Frame → Frame
  | .call id "ChangeConfiguration" (.object fields) =>
    let secret := ((fields.lookup "key").bind Json.asStr).any fun key =>
      key.map Char.toLower == "authorizationkey"
    let fields := if secret then
        fields.map fun field => if field.1 == "value" then (field.1, .string redacted) else field
      else fields
    .call id "ChangeConfiguration" (.object fields)
  | frame => frame

/-! ## Decoding -/

inductive FrameErrorKind where
  | invalidJson (error : String)
  | notAnArray
  | emptyArray
  | unknownMessageType (value : Json)
  | wrongLength (expected actual : Nat)
  | invalidField (field expected : String)

/-- The text of the error; `render` writes a JSON value. -/
def FrameErrorKind.display (render : Json → String) : FrameErrorKind → String
  | invalidJson error => "not valid JSON: " ++ error
  | notAnArray => "expected a JSON array"
  | emptyArray => "empty array"
  | unknownMessageType value => "unsupported message type " ++ render value
  | wrongLength expected actual =>
    "wrong number of elements: expected " ++ toString expected ++ ", got " ++ toString actual
  | invalidField field expected => field ++ " must be " ++ expected

structure FrameError where
  kind : FrameErrorKind
  /-- 2, 3 or 4 if the first element was a message type. -/
  messageType : Option Nat := none
  /-- The message id if the second element was a string. -/
  messageId : Option MessageId := none

namespace FrameError

/-- The CALL whose id could be read, if the broken frame was one. -/
def brokenCall (error : FrameError) : Option MessageId :=
  if error.messageType = some 2 then error.messageId else none

/-- The CALLERROR to send back, if the broken frame was a CALL whose id could be read. -/
def reply (render : Json → String) (error : FrameError) : Option Frame :=
  error.brokenCall.map fun id => .error id .formationViolation (error.kind.display render)

end FrameError

namespace Frame

def takeString (fail : FrameErrorKind → FrameError) (item : Option Json) (field : String) :
    Except FrameError String :=
  match item with
  | some (.string text) => .ok text
  | _ => .error (fail (.invalidField field "a string"))

def takeObject (fail : FrameErrorKind → FrameError) (item : Option Json) (field : String) :
    Except FrameError Json :=
  match item with
  | some (.object fields) => .ok (.object fields)
  | _ => .error (fail (.invalidField field "a JSON object"))

def tryFrom (value : Json) : Except FrameError Frame :=
  match value with
  | .array [] => .error { kind := .emptyArray }
  | .array (head :: tail) =>
    let items := head :: tail
    let messageId := (tail.head?).bind Json.asStr
    match head.asU64 with
    | some 2 =>
      let fail kind : FrameError := { kind, messageType := some 2, messageId }
      if items.length ≠ 4 then .error (fail (.wrongLength 4 items.length))
      else do
        let id ← takeString fail items[1]? "messageId"
        let action ← takeString fail items[2]? "action"
        let payload ← takeObject fail items[3]? "payload"
        return .call id action payload
    | some 3 =>
      let fail kind : FrameError := { kind, messageType := some 3, messageId }
      if items.length ≠ 3 then .error (fail (.wrongLength 3 items.length))
      else do
        let id ← takeString fail items[1]? "messageId"
        let payload ← takeObject fail items[2]? "payload"
        return .callResult id payload
    | some 4 =>
      let fail kind : FrameError := { kind, messageType := some 4, messageId }
      if items.length ≠ 5 then .error (fail (.wrongLength 5 items.length))
      else do
        let id ← takeString fail items[1]? "messageId"
        let code ← takeString fail items[2]? "errorCode"
        let description ← takeString fail items[3]? "errorDescription"
        let details ← takeObject fail items[4]? "errorDetails"
        return .callError id (.fromWire code) description details
    | _ => .error { kind := .unknownMessageType head, messageId }
  | _ => .error { kind := .notAnArray }

/-- Decodes a text; `fromStr` reads JSON. -/
def parse (fromStr : String → Except String Json) (text : String) : Except FrameError Frame :=
  match fromStr text with
  | .error error => .error { kind := .invalidJson error }
  | .ok value => tryFrom value

end Frame

end KirbyOcpp.Ws
