import KirbyOcpp.Station.Step

/-!
# The status notifications of a station that can send: `status.rs`

What the actor keeps about the status of each connector, next to the notifications that the history tells of,
and the operations that touch it: changes of a connector, the debounce timers, changes of
`MinimumStatusDuration`, forced sends and answers, in any order and at any time.

`entered` is a ghost: when the state of a connector last became what it is.
-/

namespace KirbyOcpp

/-- A `StatusNotification` that went out. -/
structure Notice where
  call : PendingCall
  key : StatusKey
  /-- Its continuation ran with an error. -/
  failed : Bool
deriving DecidableEq

/-- What the actor keeps about the status of one connector. -/
structure Notifier where
  /-- The reportable state, if there is such a connector. -/
  key : Option StatusKey
  tracker : StatusTracker
  /-- The debounce timer is armed. -/
  armed : Bool
  /-- Latest first. -/
  notices : List Notice
deriving DecidableEq

namespace Notifier

/-- The state is what was sent last, and that send has not failed. -/
def isBack (n : Notifier) : Bool :=
  n.notices.head?.any fun notice => decide (n.key = some notice.key) && !notice.failed

/-- The last notification that was sent successfully or is in flight. -/
def lastShown (n : Notifier) : Option Notice := n.notices.find? fun notice => !notice.failed

end Notifier

/-- The event is the failure of `call`. -/
def Event.fails (call : PendingCall) : Event → Bool
  | .completed other result => decide (other = call) && !(decodeAny result).toBool
  | _ => false

/-- The notification of connector `id` that the event sends. -/
def Event.notice (history : List Event) (id : ConnectorId) : Event → Option Notice
  | .called call =>
    match call.continuation with
    | .status other key _ => if other = id then some { call, key, failed := history.any (fails call) } else none
    | _ => none
  | _ => none

/-- The payload of a `StatusNotification`. -/
def StatusKey.request (key : StatusKey) (id : ConnectorId) (timestamp : Instant) : StatusNotificationRequest :=
  { connectorId := id, errorCode := key.errorCode, info := key.info, status := key.status
    timestamp := some timestamp, vendorId := key.vendorId, vendorErrorCode := key.vendorErrorCode }

/-- A CALL of a `StatusNotification`. -/
def PendingCall.isStatus (call : PendingCall) : Bool :=
  match call.continuation with
  | .status _ _ _ => true
  | _ => false

namespace Actor

def notifier (a : Actor) (id : ConnectorId) : Notifier :=
  { key := (a.findConnector id).map statusKeyOf
    tracker := a.tracker id
    armed := decide (.statusDebounce id ∈ a.timers)
    notices := a.history.filterMap (Event.notice a.history id) }

end Actor

/-- What happens to the status of the connectors. -/
inductive StatusMove where
  /-- A connector changes, and `status_changed` follows. -/
  | change (id : ConnectorId) (edit : ConnectorSnapshot → ConnectorSnapshot)
  /-- A debounce timer fires. -/
  | fire (id : ConnectorId)
  | setMinimum (seconds : Nat)
  | force (id : ConnectorId) (origin : Origin) (reply : Option Reply)
  /-- A `StatusNotification` is answered, or it fails. -/
  | answer (token generation : Nat) (result : CallResult)

/-- The actor, and when the state of each connector last became what it is. -/
structure StatusBoard where
  actor : Actor
  entered : ConnectorId → Instant

namespace StatusBoard

def notifier (s : StatusBoard) (id : ConnectorId) : Notifier := s.actor.notifier id

/-- The CALL that `on_call_done` completes. -/
def answering (a : Actor) (token generation : Nat) : Option PendingCall :=
  if generation = a.link.generation then a.calls.find? fun call => call.token == token else none

/-- A connector keeps its id. -/
def keepId (edit : ConnectorSnapshot → ConnectorSnapshot) (c : ConnectorSnapshot) : ConnectorSnapshot :=
  { edit c with id := c.id }

/-- What the actor does, at the time of its clock. -/
def act (a : Actor) : StatusMove → Actor
  | .change id edit => (a.withConnector id (keepId edit)).statusChanged id
  | .fire id =>
    if .statusDebounce id ∈ a.timers then (a.cancelTimer (.statusDebounce id)).onTimer (.statusDebounce id) else a
  | .setMinimum seconds =>
    a.applyConfigurationChange
      { registry := { a.registry with minimumStatusDuration := seconds }, key := .minimumStatusDuration }
  | .force id origin reply => a.sendStatusForced id origin reply
  | .answer token generation result =>
    if (answering a token generation).any (·.isStatus) then a.onCallDone token generation result else a

def move (s : StatusBoard) (time : Instant) (m : StatusMove) : StatusBoard :=
  let a := act { s.actor with now := time } m
  { actor := a
    entered := fun id => if (a.notifier id).key = (s.notifier id).key then s.entered id else time }

/-- Moves and their times. -/
def run (s : StatusBoard) (moves : List (Instant × StatusMove)) : StatusBoard :=
  moves.foldl (fun s m => s.move m.1 m.2) s

end StatusBoard

end KirbyOcpp
