import KirbyOcpp.Station.Step

/-!
# The samples of a transaction

`station/sampling.rs`, `station/power.rs`: each sample reports the energy since the one before, which it counts
from the base that the sample before left.

The system is the actor with the samples of one connector. Everything else that the actor does to the meters
is a settlement, a flush, a reading, an addition to a register or a new connector; the rest of it leaves the meters
and the registers alone.
-/

namespace KirbyOcpp

namespace Actor

/-- The sample of `id` can be sent: the actor may talk, and the transaction is not a local one. -/
def sendable (a : Actor) (id : ConnectorId) : Bool :=
  a.canTalk && (a.connector id).any fun c => !c.txId.any TxId.isLocal

/-- `b` has the meters and the registers of `a`. -/
def sameMeters (a b : Actor) : Bool :=
  decide (b.meters = a.meters) &&
    decide (b.connectors.map (fun c => (c.id, c.meterWh)) = a.connectors.map fun c => (c.id, c.meterWh))

/-- The new connector of `add_connector`. -/
def connectorAdded (a : Actor) : Actor :=
  { a with connectors := a.connectors ++ [newConnector ((a.connectors.map (·.id)).foldr max 0 + 1)] }

/-- The transaction of a connector, as the Central System knows it. -/
def wireTx (a : Actor) (id : ConnectorId) : Option Int := ((a.connector id).bind (·.txId)).bind TxId.wire

/-- A settlement finds that connector `id` has begun to charge since the one before, and counts the interval from
another energy than before. -/
def rebased (a : Actor) (id : ConnectorId) : Bool :=
  match a.connectors.find? (fun c => c.id == id), a.meters.lookup id with
  | some c, some runtime =>
    decide (c.status = .charging) && !runtime.charging &&
      decide (c.meterWh + runtime.carryWh + runtime.pendingWh ≠ runtime.sampleBaseWh)
  | _, _ => false

end Actor

/-- What happens to the meters. -/
inductive MeterMove where
  /-- Time passes, transactions start and stop, charging is suspended and resumed, .. -/
  | other (actor : Actor)
  /-- `add_connector` before it writes and reports. -/
  | addConnector
  | settle
  | flush
  /-- `sample_meter` up to the sample, when that cannot be sent. -/
  | add (id : ConnectorId) (deltaWh : Nat)
  /-- A reading that is no sample. -/
  | read (id : ConnectorId)
  | sample (id : ConnectorId) (context : ReadingContext) (deltaWh : Nat) (measurands : List Measurand)
      (reply : Option Reply)

/-- The actor and the samples of a connector. -/
structure Sampling where
  actor : Actor
  id : ConnectorId
  /-- The transaction of the last sample, while it goes on. -/
  tx : Option Int := none
  /-- The samples of this transaction, latest first. -/
  taken : List MeterReading := []
  /-- The samples of the transactions before. -/
  closed : List (List MeterReading) := []

namespace Sampling

/-- What the actor becomes. -/
def become (a : Actor) : MeterMove → Actor
  | .other b => if a.sameMeters b then b else a
  | .addConnector => a.connectorAdded
  | .settle => a.settleMeters
  | .flush => a.flushMeters
  | .add id deltaWh =>
    a.flushMeters.withConnector id fun c => { c with meterWh := Actor.saturatingAdd c.meterWh deltaWh }
  | .read id => (a.meterReading id false).1
  | .sample id context deltaWh measurands reply =>
    if a.sendable id then a.sampleMeter id context deltaWh measurands reply else a

/-- The transaction and the reading of the last CALL, if it is a sample of connector `id`. -/
def sampleIn (a : Actor) (id : ConnectorId) : Option (Option Int × MeterReading) :=
  match a.calls.getLast? with
  | some { request := .meterValues { connectorId, transactionId, meterValue := [value] }, .. } =>
    if connectorId = id then some (transactionId, value.reading) else none
  | _ => none

/-- The sample that a move takes. -/
def sampled (a : Actor) (id : ConnectorId) : MeterMove → Option (Option Int × MeterReading)
  | .sample other context deltaWh measurands reply =>
    if a.sendable other then sampleIn (a.sampleMeter other context deltaWh measurands reply) id else none
  | _ => none

/-- The samples after a move to the actor `a`, with a sample that it takes. -/
def follow (s : Sampling) (a : Actor) : Option (Option Int × MeterReading) → Sampling
  | some (some tx, reading) =>
    if s.tx = some tx then { s with actor := a, taken := reading :: s.taken }
    else { s with actor := a, tx := some tx, taken := [reading], closed := s.taken :: s.closed }
  | some (none, _) => { s with actor := a, tx := none, taken := [], closed := s.taken :: s.closed }
  | none =>
    if s.tx = none ∨ s.tx = a.wireTx s.id then { s with actor := a }
    else { s with actor := a, tx := none, taken := [], closed := s.taken :: s.closed }

def move (s : Sampling) (m : MeterMove) : Sampling := s.follow (become s.actor m) (sampled s.actor s.id m)

def run (s : Sampling) (moves : List MeterMove) : Sampling := moves.foldl move s

/-- The move settles the meters. -/
def settles (a : Actor) : MeterMove → Bool
  | .other _ | .addConnector => false
  | .sample id _ _ _ _ => a.sendable id
  | _ => true

/-- The move settles, and that moves the base of the interval while the sampled transaction goes on. -/
def resumes (s : Sampling) (m : MeterMove) : Bool := s.tx.isSome && settles s.actor m && s.actor.rebased s.id

/-- The samples of a transaction, latest first, add up to the register. -/
structure AddsUp (taken : List MeterReading) : Prop where
  /-- Every sample reports the growth of the register since the one before. -/
  interval : taken.IsChain fun later earlier => later.intervalWh = later.energyWh - earlier.energyWh
  total : ∀ latest first, taken.head? = some latest → taken.getLast? = some first →
    (taken.dropLast.map (·.intervalWh)).sum = latest.energyWh - first.energyWh

/-- The system before the first sample of connector `id`. -/
def start (a : Actor) (id : ConnectorId) : Sampling := { actor := a, id }

/-- Every transaction's samples add up. -/
def Lawful (s : Sampling) : Prop := ∀ taken ∈ s.taken :: s.closed, AddsUp taken

end Sampling

end KirbyOcpp
