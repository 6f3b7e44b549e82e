import KirbyOcpp.Station.Tasks
import KirbyOcpp.Data.Paths
import KirbyOcpp.Data.Lists

/-!
# The ledger: what the actor does to transactions, the queue and its CALLs

The abstract model of the station actor. A `Ledger` keeps the connectors, the offline queue, the
offline sync and the CALLs in flight; timers, meters, debounce state and authorization are gone. A
handler of the actor is a path of small transitions (`Trans`). Between two of them the running
operation may hold something that is neither in the queue nor in flight (`Hand`), and the CALLs that
a lost link still has to fail are in `rest`.

`Allow` names the transitions under which a property of the station is lost. A run that avoids one of
them is a path with that permission off.
-/

namespace KirbyOcpp

/-! ## States -/

/-- What the running operation holds. -/
inductive Hand where
  | none
  /-- A start past its checks: its CALL or its queue entry comes next. -/
  | start (id : ConnectorId) (pending : PendingStart)
  /-- A start whose connector charges: its queue entry comes next. -/
  | charging (id : ConnectorId) (pending : PendingStart)
  /-- A `StartTransaction` that failed. -/
  | startFailed (id : ConnectorId) (localId : TxId)
  /-- A `StartTransaction` that was answered. -/
  | opened (id : ConnectorId) (localId : TxId) (pending : PendingStart) (transactionId : Int)
  /-- A session that the CSMS opened and the station does not keep; within a sync or not. -/
  | refused (session : Nat) (sync : Bool)
  /-- A stop past its checks. -/
  | stop (id : ConnectorId) (tx : TxId) (info : StopInfo)
  /-- A stop whose connector is stopping. -/
  | stopping (id : ConnectorId) (tx : TxId) (info : StopInfo)
  /-- A stop that was answered. -/
  | stopped (id : ConnectorId) (tx : TxId) (info : StopInfo)
  /-- The CALL of a queue entry has completed. -/
  | slot (key : Nat)
  /-- The start of a queue entry was answered. -/
  | slotOpened (key : Nat) (transactionId : Int)
  /-- The start of a queue entry was answered and its id taken over. -/
  | slotReady (key : Nat)
  /-- The stop of a queue entry was answered. -/
  | slotStopped (key : Nat) (info : StopInfo)
  /-- The running sync goes on with its next entry. -/
  | sync
  /-- A boot was answered `Accepted`. -/
  | booted
  /-- A boot was accepted, or the sync that followed one has ended. -/
  | boot
  /-- A security event that could not be delivered. -/
  | returned (event : PendingSecurityEvent)
deriving DecidableEq

/-- What the completion of a CALL puts into the hand. -/
def Hand.ofResult (continuation : Cont) (result : CallResult) : Hand :=
  match continuation with
  | .startResult id localId pending _ =>
    match decodeStart result with
    | .ok response => .opened id localId pending response.transactionId
    | .error _ => .startFailed id localId
  | .stopResult id tx _ _ _ info _ =>
    match decodeAny result with
    | .ok _ => .stopped id tx info
    | .error _ => .stopping id tx info
  | .syncStart key =>
    match decodeStart result with
    | .ok response => .slotOpened key response.transactionId
    | .error _ => .slot key
  | .syncStop key info =>
    match decodeAny result with
    | .ok _ => .slotStopped key info
    | .error _ => .slot key
  | .boot _ _ =>
    match decodeBoot result with
    | .ok response => if response.status = .accepted then .booted else .none
    | .error _ => .none
  | .securityEvent event =>
    match decodeAny result with
    | .ok _ => .none
    | .error error => if error.isLinkError then .returned event else .none
  | _ => .none

/-- The hand holds a stop of a connector. -/
def Hand.holdsStop : Hand → Bool
  | .stop _ _ _ | .stopping _ _ _ | .stopped _ _ _ => true
  | _ => false

/-- The books of the station. -/
structure Ledger where
  connectors : List ConnectorSnapshot
  chargePoint : ConnectorSnapshot
  conn : Bool
  generation : Nat
  registration : Option RegistrationStatus
  queue : OfflineQueue
  nextLocal : Nat
  syncOutstanding : Nat
  syncKeys : List Nat
  syncBoot : Bool
  calls : List PendingCall
  nextCallToken : Nat
  sampleCalls : List Nat
  /-- The connectors whose transaction has an energy limit. -/
  limits : List ConnectorId
  securityEvents : List PendingSecurityEvent
  written : List PersistedStation
  /-- The state file is behind, or there is none. -/
  unsaved : Bool
  stopped : Bool
  history : List Event
  /-- The CALLs that are still to be failed. -/
  rest : List PendingCall
  hand : Hand

/-- The connectors whose transaction has an energy limit. -/
abbrev Actor.limited (a : Actor) : List ConnectorId := a.invalidLimits.map (·.1)

/-- The books of an actor in the middle of an operation. -/
def Actor.ledger (a : Actor) (rest : List PendingCall) (hand : Hand) : Ledger :=
  { connectors := a.connectors, chargePoint := a.chargePoint, conn := a.link.conn, generation := a.link.generation
    registration := a.registration, queue := a.queue, nextLocal := a.nextLocal
    syncOutstanding := a.syncOutstanding, syncKeys := a.syncKeys, syncBoot := a.syncBoot
    calls := a.calls, nextCallToken := a.nextCallToken, sampleCalls := a.sampleCalls
    limits := a.limited
    securityEvents := a.securityEvents, written := a.written
    unsaved := a.persistence.dirty || !a.persistence.store
    stopped := a.stopped, history := a.history, rest, hand }

/-! ## Permissions -/

/-- The transitions that cost the station a property. -/
structure Allow where
  /-- A status set by hand. -/
  manual : Bool := true
  /-- A connector that is only waiting for the answer to a CALL resumes or is suspended. -/
  resume : Bool := true
  /-- A start gets the id of a queued stop of its connector. -/
  reuse : Bool := true
  /-- A queued start gets the id of another entry of its connector, and one of them waits for its stop. -/
  share : Bool := true
  /-- A confirmed stop leaves the delivered start of its transaction in the queue. -/
  leave : Bool := true
  /-- A full queue drops the start of a running transaction. -/
  evict : Bool := true
  /-- A boot is accepted while a sync runs that does not follow one. -/
  forgetBoot : Bool := true
  /-- The station stops with CALLs in flight. -/
  abandon : Bool := true
  /-- The link comes up. -/
  opens : Bool := true
  /-- The link goes down. -/
  closes : Bool := true
  /-- The registration is lost, or a boot is not accepted. -/
  lowers : Bool := true
  /-- A status is written over a fault, or a fault is set. -/
  mask : Bool := true
  /-- A connector without its EV is switched on. -/
  bare : Bool := true
  /-- A scheduled availability is applied while another transaction goes on. -/
  early : Bool := true
  /-- A reservation ends. -/
  releases : Bool := true
  /-- The availability of a connector is changed, or its change scheduled. -/
  changes : Bool := true
  /-- A start is opened, taken over or queued. -/
  starts : Bool := true
  /-- The connectors whose transaction is stopped. -/
  stops : ConnectorId → Bool := fun _ => true

/-- The connectors in `limits` may be stopped, and they stay the only ones with an energy limit. -/
def Allow.StopsLimited (allow : Allow) (limits : List ConnectorId) : Prop :=
  (∀ id, allow.stops id = true) ∨ (allow.starts = false ∧ ∀ id ∈ limits, allow.stops id = true)

/-- What the loss of a link may do. -/
structure Allow.Closes (allow : Allow) (limits : List ConnectorId) : Prop where
  closes : allow.closes = true
  early : allow.early = true
  stops : allow.StopsLimited limits

/-! ## Connectors -/

/-- A status without power. -/
def ConnectorStatus.calm : ConnectorStatus → Bool
  | .charging | .suspendedEV | .suspendedEVSE => false
  | _ => true

namespace TransactionState

def isStopping : TransactionState → Bool
  | .stopping _ => true
  | _ => false

def isActive : TransactionState → Bool
  | .active _ => true
  | _ => false

end TransactionState

namespace ConnectorSnapshot

/-- The status and the error code agree on a fault. -/
def Sound (c : ConnectorSnapshot) : Prop := c.status = .faulted ↔ c.errorCode ≠ .noError

/-- A connector that charges has an EV. -/
def Live (c : ConnectorSnapshot) : Prop := c.status = .charging → c.evConnected = true

/-- The EV of a transaction is gone and the connector shows a reservation: it charges when the reservation
ends. -/
def Stranded (c : ConnectorSnapshot) : Prop :=
  c.status = .reserved ∧ c.transaction.isIdle = false ∧ c.evConnected = false

/-- A connector that shows a reservation has one. -/
def Booked (c : ConnectorSnapshot) : Prop := c.status = .reserved → c.reservation.isSome = true

/-- What `apply_pending_availability` makes of a connector with the change `pending`. -/
def applied (pending : Option AvailabilityType) (c : ConnectorSnapshot) : ConnectorSnapshot :=
  match pending with
  | none => c
  | some kind =>
    let c := { c with pendingAvailability := none, availability := kind }
    { c with status := statusAfterAvailabilityChange c kind }

end ConnectorSnapshot

/-- The reservations of the connectors have distinct ids. -/
def DistinctReservations (connectors : List ConnectorSnapshot) : Prop :=
  ∀ c ∈ connectors, ∀ d ∈ connectors, ∀ r s, c.reservation = some r → d.reservation = some s →
    r.id = s.id → c.id = d.id

/-- The check of the start let `reservation` pass: it accepts the idTag, or it had expired. -/
def PendingStart.Passes (pending : PendingStart) (reservation : Reservation) : Prop :=
  reservation.accepts pending.idTag pending.parentIdTag = true ∨
    reservation.isExpired pending.startedAt = true

/-- The start of `c` is in the queue. -/
def startQueued (queue : OfflineQueue) (c : ConnectorSnapshot) : Prop :=
  ∃ p, c.transaction = .pendingStart p ∧ ∃ e ∈ queue, e.txId = p.txId

namespace Ledger

/-- A physical connector. -/
def connector (l : Ledger) (id : ConnectorId) : Option ConnectorSnapshot :=
  if isStation id then none else l.connectors.find? fun c => c.id == id

/-- A connector by id; `0` is the charge point. -/
def find (l : Ledger) (id : ConnectorId) : Option ConnectorSnapshot :=
  if isStation id then some l.chargePoint else l.connectors.find? fun c => c.id == id

/-- The availability that waits for the transaction on `id` to end. -/
def scheduled (l : Ledger) (id : ConnectorId) : Option AvailabilityType :=
  (l.find id).bind (·.pendingAvailability)

/-- Changes the connector that `find` gives. -/
def update (l : Ledger) (id : ConnectorId) (f : ConnectorSnapshot → ConnectorSnapshot) : Ledger :=
  { l with
    connectors := if isStation id then l.connectors else updateConnector l.connectors id f
    chargePoint := if isStation id then f l.chargePoint else l.chargePoint }

end Ledger

/-- The status of a connector with a transaction may become `status`. -/
def MayResume (allow : Allow) (l : Ledger) (c : ConnectorSnapshot) (status : ConnectorStatus) : Prop :=
  (status = .charging ∧
    (c.reservation.isSome ∨ allow.resume = true ∨ c.transaction.isStopping = false)) ∨
  (status = .suspendedEV ∧
    (allow.resume = true ∨ c.transaction.isActive = true ∨ startQueued l.queue c))

/-- How a connector changes when nothing of note happens to it. -/
structure Mild (c c' : ConnectorSnapshot) : Prop where
  id : c'.id = c.id
  transaction : c'.transaction = c.transaction
  reservation : c'.reservation = none ∨ c'.reservation = c.reservation ∨ c.transaction.isIdle = true
  status : c'.status = c.status ∨ c'.status.calm = true
  availability : c'.availability = c.availability
  pendingAvailability : c'.pendingAvailability = c.pendingAvailability
  sound : c.Sound → c'.Sound
  faulted : c'.status = .faulted → c.status = .faulted
  live : c.Live → c'.Live
  stranded : c'.Stranded → c.Stranded
  booked : c.Booked → c'.Booked

/-- How a connector changes when its power is switched or its fault is. -/
structure Powered (allow : Allow) (l : Ledger) (c c' : ConnectorSnapshot) : Prop where
  id : c'.id = c.id
  transaction : c'.transaction = c.transaction
  reservation : c'.reservation = none ∨ c'.reservation = c.reservation
  status : c'.status.calm = true ∨ allow.manual = true ∨
    (l.hand.holdsStop = false ∧ c.transaction.isIdle = false ∧ MayResume allow l c c'.status)
  availability : c'.availability = c.availability
  pendingAvailability : c'.pendingAvailability = c.pendingAvailability
  sound : allow.mask = true ∨ (c.Sound → c'.Sound)
  faulted : allow.mask = true ∨ (c'.status = .faulted → c.status = .faulted)
  live : allow.bare = true ∨ (c.Live → c'.Live) ∨
    (allow.releases = true ∧ (c.Live → ¬c.Stranded → c'.Live))
  stranded : allow.bare = true ∨ (c'.Stranded → c.Stranded)
  booked : allow.manual = true ∨ (c.Booked → c'.Booked)

/-- How a connector changes when its transaction is stopped. -/
structure Halts (c c' : ConnectorSnapshot) : Prop where
  id : c'.id = c.id
  transaction : c'.transaction = c.transaction
  reservation : c'.reservation = c.reservation
  calm : c'.status.calm = true
  availability : c'.availability = c.availability
  pendingAvailability : c'.pendingAvailability = c.pendingAvailability
  errorCode : c'.errorCode = c.errorCode
  faulted : c'.status ≠ .faulted
  reserved : c'.status ≠ .reserved

/-- The scheduled availability that ends with `tx` on `id` is that of `tx`. -/
def Ends (allow : Allow) (find : ConnectorId → Option ConnectorSnapshot) (id : ConnectorId) (tx : TxId) :
    Prop :=
  allow.early = true ∨ ∀ c, find id = some c → c.txId = some tx ∨ c.pendingAvailability = none

/-! ## The queue -/

/-- A push would drop the start of a transaction that still runs. -/
def evictsRunning (queue : OfflineQueue) : Prop :=
  maxQueuedTransactions ≤ queue.length ∧ (∀ e ∈ queue, e.startPending = true) ∧
    ∃ e, queue.head? = some e ∧ e.stop = none

/-- A stop of `id` with the id `tx` is queued. -/
def stopQueued (queue : OfflineQueue) (id : ConnectorId) (tx : TxId) : Prop :=
  ∃ e ∈ queue, OfflineQueue.isTxOn id tx e = true ∧ e.stop.isSome = true

/-- An entry of `id` whose start was delivered with the id `tx` waits for its stop. -/
def delivered (queue : OfflineQueue) (id : ConnectorId) (tx : TxId) : Prop :=
  ∃ e ∈ queue, OfflineQueue.isTxOn id tx e = true ∧ e.stop = none

namespace Ledger

def note (l : Ledger) (event : Event) : Ledger := { l with history := event :: l.history }

/-- `push_queue`. -/
def push (l : Ledger) (entry : OfflineTx) : Ledger :=
  { l with
    queue := (OfflineQueue.push l.queue entry).1
    history := ((OfflineQueue.push l.queue entry).2.map Event.dropped).toList ++ l.history }

/-- `push_bounded`. -/
def queueEvent (l : Ledger) (event : PendingSecurityEvent) : Ledger :=
  { l with
    securityEvents := Actor.pushBounded l.securityEvents event
    history := .pushed l.securityEvents event :: l.history }

/-- A CALL goes out. -/
def accept (l : Ledger) (call : PendingCall) : Ledger :=
  { l with
    calls := l.calls ++ [call]
    nextCallToken := l.nextCallToken + 1
    history := .called call :: l.history }

/-- `call_raw` hands `call` to the connection. -/
structure Sends (l : Ledger) (call : PendingCall) : Prop where
  conn : l.conn = true
  token : call.token = l.nextCallToken
  generation : call.generation = l.generation
  passes : call.passes l.registration = true
  boot : call.request.isBoot = true → call.origin = .station

/-- The link is torn down. -/
def dropLink (l : Ledger) : Ledger :=
  { l with
    generation := l.generation + 1, conn := false, registration := none
    syncOutstanding := 0, syncKeys := [], syncBoot := false, calls := [], rest := l.calls }

end Ledger

/-- Continuations that keep no transaction, no sync and no security event. -/
def Cont.isNeutral : Cont → Bool
  | .startResult _ _ _ _ | .stopResult _ _ _ _ _ _ _ | .syncStart _ | .syncStop _ _ | .closeRefused _
  | .securityEvent _ =>
    false
  | _ => true

/-- Events that concern no CALL, no session and no sync. -/
def Event.isNeutral : Event → Bool
  | .replied _ _ | .responded _ => true
  | _ => false

/-! ## Transitions -/

/-- The transaction of `c` may be stopped as `tx`, in the session `session`. -/
def Stoppable (l : Ledger) (c : ConnectorSnapshot) (tx : TxId) (session : Nat) : Prop :=
  (∃ t, c.transaction = .active t ∧ tx = t.txId ∧ session = t.session) ∨
  (∃ p, c.transaction = .pendingStart p ∧ tx = p.txId ∧ session = p.txId.localKey ∧
    ∃ e ∈ l.queue, e.txId = p.txId)

/-- A step that concerns no transaction and no sync. -/
inductive QuietStep : Ledger → Ledger → Prop
  | reshape (l : Ledger) (f : ConnectorSnapshot → ConnectorSnapshot)
      (h : ∀ c ∈ l.connectors, Mild c (f c))
      (distinct : DistinctReservations l.connectors → DistinctReservations (l.connectors.map f)) :
      QuietStep l { l with connectors := l.connectors.map f }
  | station (l : Ledger) (f : ConnectorSnapshot → ConnectorSnapshot) (h : Mild l.chargePoint (f l.chargePoint)) :
      QuietStep l { l with chargePoint := f l.chargePoint }
  | note (l : Ledger) (event : Event) (h : event.isNeutral = true) : QuietStep l (l.note event)
  | save (l : Ledger) (data : PersistedStation) (queue : data.offlineQueue = l.queue)
      (connectors : data.connectors = l.connectors.map Actor.persistedConnector)
      (events : data.securityEvents = l.securityEvents) :
      QuietStep l { l with written := data :: l.written, unsaved := false }
  | touch (l : Ledger) : QuietStep l { l with unsaved := true }
  | raise (l : Ledger) (event : PendingSecurityEvent) :
      QuietStep l { (l.note (.raised event)).queueEvent event with unsaved := true }
  | sendEvent (l : Ledger) (call : PendingCall) (sends : l.Sends call) (event : PendingSecurityEvent)
      (events : List PendingSecurityEvent) (queue : l.securityEvents = event :: events)
      (cont : call.continuation = .securityEvent event) (unsaved : l.unsaved = true) :
      QuietStep l { l.accept call with securityEvents := events }
  | send (l : Ledger) (call : PendingCall) (sends : l.Sends call)
      (neutral : call.continuation.isNeutral = true) : QuietStep l (l.accept call)

/-- A small step of the station. -/
inductive Trans (allow : Allow) : Ledger → Ledger → Prop
  | quiet {l l' : Ledger} (step : QuietStep l l') : Trans allow l l'
  -- connectors
  | power (l : Ledger) (f : ConnectorSnapshot → ConnectorSnapshot)
      (h : ∀ c ∈ l.connectors, Mild c (f c) ∨ Powered allow l c (f c))
      (kept : ∀ c ∈ l.connectors, (f c).reservation = none ∨ (f c).reservation = c.reservation) :
      Trans allow l { l with connectors := l.connectors.map f }
  | powerStation (l : Ledger) (f : ConnectorSnapshot → ConnectorSnapshot)
      (h : Powered allow l l.chargePoint (f l.chargePoint)) :
      Trans allow l { l with chargePoint := f l.chargePoint }
  | change (l : Ledger) (id : ConnectorId) (kind : AvailabilityType) (changes : allow.changes = true) :
      Trans allow l (l.update id (Actor.changedAvailability kind))
  | changeStation (l : Ledger) (kind : AvailabilityType) (changes : allow.changes = true) :
      Trans allow l { l with chargePoint := Actor.stationAvailability kind l.chargePoint }
  | grow (l : Ledger) (id : ConnectorId) (known : ∀ c ∈ l.connectors, c.id ≠ id)
      (physical : isStation id = false) :
      Trans allow l { l with connectors := l.connectors ++ [newConnector id] }
  -- CALLs
  | takeCall (l : Ledger) (call : PendingCall) (result : CallResult) (hand : l.hand = .none)
      (rest : l.rest = []) (running : l.stopped = false)
      (found : (l.calls.find? fun c => c.token == call.token) = some call) :
      Trans allow l
        { l.note (.completed call result) with
          calls := l.calls.filter fun c => !(c.token == call.token)
          hand := .ofResult call.continuation result }
  | takeRest (l : Ledger) (call : PendingCall) (rest : List PendingCall) (error : CallError)
      (hand : l.hand = .none) (head : l.rest = call :: rest) :
      Trans allow l
        { l.note (.completed call (.error error)) with
          rest, hand := .ofResult call.continuation (.error error) }
  | abandon (l : Ledger) (call : PendingCall)
      (found : (l.calls.find? fun c => c.token == call.token) = some call)
      (sample : call.token ∈ l.sampleCalls) :
      Trans allow l
        { l.note (.abandoned call) with calls := l.calls.filter fun c => !(c.token == call.token) }
  | requeue (l : Ledger) (event : PendingSecurityEvent) (hand : l.hand = .returned event) :
      Trans allow l
        { l.queueEvent event with
          securityEvents := (l.queueEvent event).securityEvents.insertionSort fun e f => e.timestamp ≤ f.timestamp
          unsaved := true, hand := .none }
  | trim (l : Ledger) (kept : List Nat) (h : ∀ token ∈ kept, token ∈ l.sampleCalls) :
      Trans allow l { l with sampleCalls := kept }
  | limit (l : Ledger) (limits : List ConnectorId)
      (h : ∀ id ∈ limits, id ∈ l.limits ∨ allow.starts = true) : Trans allow l { l with limits }
  | sample (l : Ledger) (call : PendingCall) (id : ConnectorId) (pending : call ∈ l.calls)
      (cont : call.continuation = .meterValues id none) :
      Trans allow l { l with sampleCalls := l.sampleCalls ++ [call.token] }
  -- starts
  | openStart (l : Ledger) (id : ConnectorId) (c : ConnectorSnapshot) (pending : PendingStart)
      (hand : l.hand = .none) (found : l.connector id = some c)
      (idle : c.transaction.isIdle = true) (key : pending.txId = .loc (l.nextLocal + 1))
      (usable : c.status ≠ .faulted) (operative : c.availability = .operative)
      (starts : allow.starts = true) (passes : ∀ r, c.reservation = some r → pending.Passes r) :
      Trans allow l
        { (l.update id (Actor.startedConnector pending)).note (.sessionStarted id (l.nextLocal + 1)) with
          nextLocal := l.nextLocal + 1, hand := .start id pending }
  | sendStart (l : Ledger) (id : ConnectorId) (pending : PendingStart) (call : PendingCall) (done : Done)
      (hand : l.hand = .start id pending) (sends : l.Sends call)
      (cont : call.continuation = .startResult id pending.txId pending done) :
      Trans allow l { l.accept call with hand := .none }
  | charge (l : Ledger) (id : ConnectorId) (pending : PendingStart) (c : ConnectorSnapshot)
      (hand : l.hand = .start id pending) (found : l.connector id = some c)
      (held : c.txId = some pending.txId) (usable : c.status ≠ .faulted)
      (plugged : c.evConnected = true) (starts : allow.starts = true) (now : Instant) :
      Trans allow l
        { (l.update id (Actor.chargingConnector pending.idTag)).note
            (.charged id pending c.reservation now) with
          hand := .charging id pending }
  | queueStart (l : Ledger) (id : ConnectorId) (pending : PendingStart) (entry : OfflineTx)
      (hand : l.hand = .charging id pending) (key : pending.txId = .loc entry.key)
      (tx : entry.txId = pending.txId) (connector : entry.connector = id)
      (starts : entry.startPending = true) (stop : entry.stop = none)
      (room : allow.evict = true ∨ ¬evictsRunning l.queue) (queues : allow.starts = true) :
      Trans allow l { l.push entry with hand := .none }
  | abandonStart (l : Ledger) (id : ConnectorId) (localId : TxId) (c : ConnectorSnapshot)
      (hand : l.hand = .startFailed id localId) (found : l.find id = some c)
      (held : c.txId = some localId) :
      Trans allow l { l.update id (fun c => (Actor.abandonedConnector c).applied (l.scheduled id)) with hand := .none }
  | loseStart (l : Ledger) (id : ConnectorId) (localId : TxId) (hand : l.hand = .startFailed id localId)
      (lost : ∀ c, l.find id = some c → c.txId ≠ some localId) :
      Trans allow l { l with hand := .none }
  | activate (l : Ledger) {pending : PendingStart} (id : ConnectorId) (localId : TxId) (transactionId : Int)
      (c : ConnectorSnapshot) (active : ActiveTransaction)
      (hand : l.hand = .opened id localId pending transactionId) (found : l.find id = some c)
      (held : c.txId = some localId) (tx : active.txId = .csms transactionId)
      (session : active.session = localId.localKey) (usable : c.status ≠ .faulted)
      (plugged : allow.bare = true ∨ c.evConnected = true) (starts : allow.starts = true)
      (unused : allow.reuse = true ∨ ¬stopQueued l.queue id (.csms transactionId)) (now : Instant) :
      Trans allow l
        { (l.update id fun c =>
              Actor.chargingConnector active.idTag { c with transaction := .active active }).note
            (.charged id pending c.reservation now) with
          hand := .none }
  | refuseOpened (l : Ledger) {pending : PendingStart} (id : ConnectorId) (localId : TxId) (transactionId : Int)
      (c : ConnectorSnapshot) (hand : l.hand = .opened id localId pending transactionId)
      (found : l.find id = some c) (held : c.txId = some localId) :
      Trans allow l
        { l.update id (fun c => (Actor.abandonedConnector c).applied (l.scheduled id)) with
          hand := .refused localId.localKey false }
  | refuseLost (l : Ledger) {pending : PendingStart} (id : ConnectorId) (localId : TxId) (transactionId : Int)
      (hand : l.hand = .opened id localId pending transactionId)
      (lost : ∀ c, l.find id = some c → c.txId ≠ some localId) :
      Trans allow l { l with hand := .refused localId.localKey false }
  | sendClose (l : Ledger) (session : Nat) (sync : Bool) (call : PendingCall)
      (hand : l.hand = .refused session sync) (sends : l.Sends call)
      (cont : call.continuation = .closeRefused session) :
      Trans allow l { l.accept call with hand := if sync then .slot session else .none }
  | skipClose (l : Ledger) (session : Nat) (sync : Bool) (hand : l.hand = .refused session sync) :
      Trans allow l { l with hand := if sync then .slot session else .none }
  -- stops
  | beginStop (l : Ledger) (id : ConnectorId) (c : ConnectorSnapshot) (tx : TxId) (info : StopInfo)
      (f : ConnectorSnapshot → ConnectorSnapshot) (hand : l.hand = .none)
      (found : l.connector id = some c) (target : Stoppable l c tx info.session)
      (kept : ∀ c ∈ l.connectors, c.id = id → Halts c (f c)) (stops : allow.stops id = true) :
      Trans allow l
        { (l.update id f).note (.stopRequested id info) with hand := .stop id tx info }
  | markStopping (l : Ledger) (id : ConnectorId) (tx : TxId) (info : StopInfo)
      (stopping : StoppingTransaction) (c : ConnectorSnapshot) (hand : l.hand = .stop id tx info)
      (found : l.connector id = some c) (held : c.txId = some tx) (stops : stopping.txId = tx)
      (session : stopping.session = info.session) (wire : tx.isLocal = false) :
      Trans allow l
        { l.update id (fun c => { c with transaction := .stopping stopping }) with
          hand := .stopping id tx info }
  | sendStop (l : Ledger) (id : ConnectorId) (tx : TxId) (tag : IdTag) (startedAt : Instant)
      (meterStartWh : Nat) (info : StopInfo) (done : Done) (call : PendingCall) (wire : Int)
      (hand : l.hand = .stopping id tx info) (sends : l.Sends call)
      (cont : call.continuation = .stopResult id tx tag startedAt meterStartWh info done)
      (request : call.request = .stopTransaction (stopRequest info wire)) (sent : tx.wire = some wire) :
      Trans allow l { l.accept call with hand := .none }
  | queueStop (l : Ledger) (id : ConnectorId) (tx : TxId) (info : StopInfo) (e : OfflineTx)
      (hand : l.hand = .stop id tx info ∨ l.hand = .stopping id tx info)
      (found : OfflineQueue.findByTxOn l.queue id tx = some e) (ends : Ends allow l.find id tx) :
      Trans allow l
        { l.update id (fun c => (Actor.forgetTransaction tx c).applied (l.scheduled id)) with
          queue := OfflineQueue.updateFirst (OfflineQueue.isTxOn id tx)
            (fun entry => { entry with stop := some info }) l.queue
          hand := .none }
  | queueNewStop (l : Ledger) (id : ConnectorId) (tx : TxId) (info : StopInfo) (entry : OfflineTx)
      (hand : l.hand = .stop id tx info ∨ l.hand = .stopping id tx info)
      (missing : OfflineQueue.findByTxOn l.queue id tx = none) (key : entry.key = l.nextLocal + 1)
      (entryTx : entry.txId = tx) (connector : entry.connector = id)
      (starts : entry.startPending = false) (stop : entry.stop = some info)
      (ends : Ends allow l.find id tx) :
      Trans allow l
        { (l.update id (fun c => (Actor.forgetTransaction tx c).applied (l.scheduled id))).push entry with
          nextLocal := l.nextLocal + 1, hand := .none }
  | confirmStop (l : Ledger) (id : ConnectorId) (tx : TxId) (info : StopInfo)
      (hand : l.hand = .stopped id tx info)
      (clean : allow.leave = true ∨ ¬delivered l.queue id tx) (ends : Ends allow l.find id tx) :
      Trans allow l { l.update id (fun c => (Actor.forgetTransaction tx c).applied (l.scheduled id)) with hand := .none }
  -- the offline sync
  | beginSync (l : Ledger) (boot : Bool) (keys : List Nat)
      (hand : l.hand = if boot then .boot else .none) (conn : boot = false → l.conn = true)
      (free : l.syncOutstanding = 0) (some : keys ≠ []) (ordered : keys.Sublist (l.queue.map (·.key))) :
      Trans allow l
        { l.note (.syncStarted boot keys (l.queue.map (·.key))) with
          syncOutstanding := keys.length, syncKeys := keys, syncBoot := boot, hand := .sync }
  | sendNext (l : Ledger) (key : Nat) (keys : List Nat) (e : OfflineTx) (request : Request) (cont : Cont)
      (call : PendingCall) (hand : l.hand = .sync) (next : l.syncKeys = key :: keys)
      (sends : l.Sends call) (found : OfflineQueue.get l.queue key = some e)
      (message : (e.startPending = true ∧ Actor.startOf e = (request, cont)) ∨
        (e.startPending = false ∧ Actor.stopOf e = some (request, cont)))
      (sent : call.request = request) (continuation : call.continuation = cont) :
      Trans allow l { l.accept call with syncKeys := keys, hand := .none }
  | skipNext (l : Ledger) (key : Nat) (keys : List Nat) (hand : l.hand = .sync)
      (next : l.syncKeys = key :: keys) :
      Trans allow l { l with syncKeys := keys, syncOutstanding := l.syncOutstanding - 1 }
  | release (l : Ledger) (key : Nat) (hand : l.hand = .slot key ∨ l.hand = .slotReady key) :
      Trans allow l { l with hand := .sync, syncOutstanding := l.syncOutstanding - 1 }
  | finishSync (l : Ledger) (hand : l.hand = .sync) (empty : l.syncKeys = []) :
      Trans allow l
        { l with
          syncOutstanding := 0, syncBoot := false
          hand := if l.syncBoot ∧ l.registration = some .accepted then .boot else .none }
  | missing (l : Ledger) (key : Nat) (transactionId : Int)
      (hand : l.hand = .slotOpened key transactionId) (gone : OfflineQueue.get l.queue key = none) :
      Trans allow l { l with hand := .slot key }
  | assign (l : Ledger) (key : Nat) (transactionId : Int) (e : OfflineTx)
      (hand : l.hand = .slotOpened key transactionId) (found : OfflineQueue.get l.queue key = some e)
      (unused : allow.reuse = true ∨
        (¬stopQueued l.queue e.connector (.csms transactionId) ∧
          (e.stop.isSome → ∀ c ∈ l.connectors, c.id = e.connector → c.txId ≠ some (.csms transactionId))))
      (unshared : allow.share = true ∨
        ∀ e' ∈ l.queue, OfflineQueue.isTxOn e.connector (.csms transactionId) e' = true →
          e.stop.isSome = true ∧ e'.stop.isSome = true)
      (starts : allow.starts = true) :
      Trans allow l
        { l.update e.connector (Actor.activatedConnector e.txId (.csms transactionId) e) with
          queue := OfflineQueue.modify l.queue key fun queued =>
            { queued with txId := .csms transactionId, startPending := false }
          hand := .slotReady key }
  | refuseQueued (l : Ledger) (key : Nat) (transactionId : Int) (e : OfflineTx)
      (hand : l.hand = .slotOpened key transactionId) (found : OfflineQueue.get l.queue key = some e)
      (ends : Ends allow l.find e.connector e.txId)
      (unmasked : allow.mask = true ∨
        ∀ c, l.find e.connector = some c → c.txId = some e.txId → c.status ≠ .faulted) :
      Trans allow l
        { (l.update e.connector
              (fun c => (Actor.droppedConnector e.txId c).applied (l.scheduled e.connector))).note
            (.startRefused e) with
          queue := OfflineQueue.remove l.queue key, hand := .refused key true }
  | sendReady (l : Ledger) (key : Nat) (e : OfflineTx) (request : Request) (cont : Cont)
      (call : PendingCall) (hand : l.hand = .slotReady key) (sends : l.Sends call)
      (found : OfflineQueue.get l.queue key = some e) (message : Actor.stopOf e = some (request, cont))
      (sent : call.request = request) (continuation : call.continuation = cont) :
      Trans allow l { l.accept call with hand := .none }
  | confirmQueued (l : Ledger) (key : Nat) (info : StopInfo) (hand : l.hand = .slotStopped key info) :
      Trans allow l { l with queue := OfflineQueue.remove l.queue key, hand := .slot key }
  | giveUp (l : Ledger) (key : Nat) (e : OfflineTx) (found : OfflineQueue.get l.queue key = some e)
      (delivered : ∃ e' ∈ l.queue, e'.key = key ∧ e'.startPending = false) :
      Trans allow l { l.note (.gaveUp e) with queue := OfflineQueue.remove l.queue key }
  -- the link and the registration
  | dropLink (l : Ledger) (hand : l.hand = .none) (rest : l.rest = []) (running : l.stopped = false)
      (closes : allow.closes = true) : Trans allow l l.dropLink
  | drain (l : Ledger) (hand : l.hand = .none) (rest : l.rest = []) (running : l.stopped = false) :
      Trans allow l { l with calls := [], rest := l.calls }
  | openLink (l : Ledger) (hand : l.hand = .none) (rest : l.rest = []) (running : l.stopped = false)
      (opens : allow.opens = true) : Trans allow l { l with conn := true }
  | bump (l : Ledger) (conn : l.conn = false) : Trans allow l { l with generation := l.generation + 1 }
  | register (l : Ledger) (status : Option RegistrationStatus) (h : status ≠ some .accepted)
      (lowers : allow.lowers = true) :
      Trans allow l { l with registration := status }
  | acceptBoot (l : Ledger) (hand : l.hand = .booted) :
      Trans allow l { l.note .bootAccepted with registration := some .accepted, hand := .boot }
  | joinSync (l : Ledger) (hand : l.hand = .boot) (running : 0 < l.syncOutstanding)
      (boot : allow.forgetBoot = true ∨ l.syncBoot = true) : Trans allow l { l with hand := .none }
  | finishBoot (l : Ledger) (hand : l.hand = .boot) (registered : l.registration = some .accepted) :
      Trans allow l { l.note .bootFinished with hand := .none }
  | halt (l : Ledger) (hand : l.hand = .none) (rest : l.rest = []) (closes : allow.closes = true)
      (done : allow.abandon = true ∨ l.calls = []) :
      Trans allow l
        { l with generation := l.generation + 1, conn := false, registration := none, stopped := true }

/-- A path of transitions. -/
abbrev Path (allow : Allow) : Ledger → Ledger → Prop := Relation.ReflTransGen (Trans allow)

end KirbyOcpp
