import KirbyOcpp.Station.Connector

/-!
# The offline queue: `offline.rs`

One entry per transaction that the CSMS has not fully seen. The queue is bounded: an append beyond
the bound drops one entry, a stop-only one first.

`StopInfo.session` is a ghost: the key of the session that the stop ends. A session is stopped at
most once, so it tells apart stops that carry equal data.
-/

namespace KirbyOcpp

/-- Most entries the queue keeps. -/
def maxQueuedTransactions : Nat := 1000

/-- What a queued `StopTransaction` carries. -/
structure StopInfo where
  idTag : Option IdTag
  meterStopWh : Nat
  timestamp : Instant
  reason : StopReason
  transactionData : List MeterValue
  /-- Ghost: the key of the stopped session. -/
  session : Nat
deriving DecidableEq

/-- A transaction waiting for delivery of its start and/or stop. -/
structure OfflineTx where
  /-- Unique key of the entry (the number inside a local id). -/
  key : Nat
  connector : ConnectorId
  /-- `Local` until the start was delivered, then `Csms`. -/
  txId : TxId
  idTag : IdTag
  startedAt : Instant
  meterStartWh : Nat
  reservationId : Option ReservationId
  startPending : Bool
  stop : Option StopInfo
deriving DecidableEq

/-- The queue, oldest entry first. -/
abbrev OfflineQueue := List OfflineTx

namespace OfflineQueue

/-- Appends `entry`; over the bound one entry is dropped and returned. -/
def push (entries : OfflineQueue) (entry : OfflineTx) : OfflineQueue × Option OfflineTx :=
  let entries := entries ++ [entry]
  if entries.length ≤ maxQueuedTransactions then (entries, none)
  else match entries.findIdx? fun e => !e.startPending with
    | some index => (entries.eraseIdx index, entries[index]?)
    | none => (entries.eraseIdx 0, entries[0]?)

def get (entries : OfflineQueue) (key : Nat) : Option OfflineTx :=
  entries.find? fun entry => entry.key == key

/-- Applies `f` to the first entry that satisfies `p`. -/
def updateFirst (p : OfflineTx → Bool) (f : OfflineTx → OfflineTx) : OfflineQueue → OfflineQueue
  | [] => []
  | entry :: rest => if p entry then f entry :: rest else entry :: updateFirst p f rest

/-- `get_mut`. -/
def modify (entries : OfflineQueue) (key : Nat) (f : OfflineTx → OfflineTx) : OfflineQueue :=
  updateFirst (fun entry => entry.key == key) f entries

/-- Whether `entry` is the entry of transaction `tx` on `connector`. -/
def isTxOn (connector : ConnectorId) (tx : TxId) (entry : OfflineTx) : Bool :=
  decide (entry.txId = tx) && entry.connector == connector

/-- The entry of transaction `tx` on `connector`. -/
def findByTxOn (entries : OfflineQueue) (connector : ConnectorId) (tx : TxId) : Option OfflineTx :=
  entries.find? (isTxOn connector tx)

def remove (entries : OfflineQueue) (key : Nat) : OfflineQueue :=
  entries.eraseP fun entry => entry.key == key

def keys (entries : OfflineQueue) : List Nat := entries.map (·.key)

end OfflineQueue

end KirbyOcpp
