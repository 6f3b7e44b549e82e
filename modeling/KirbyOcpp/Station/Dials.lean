import KirbyOcpp.Station.Step

/-!
# The connection attempts: `start_connect`, `ReconnectConfig`

`start_connect` spawns a task that opens a connection; its result comes back to the actor. An attempt that was
aborted may have posted its result already, so the result of any attempt may still arrive.

The system is the actor with its attempts and the deadline of its reconnect timer, which no other timer of the
model has. `log` is a ghost: what becomes of the attempts that the station makes by itself, latest first. A
counter that is set back when it is zero does not show. The counters do not overflow.
-/

namespace KirbyOcpp

structure ReconnectConfig where
  enabled : Bool := true
  initialDelayMs : UInt64 := 1000
  maxDelayMs : UInt64 := 30000
  /-- `0` is unlimited. -/
  maxAttempts : Nat := 0

namespace ReconnectConfig

/-- Delay before attempt number `attempt`, in milliseconds. -/
def delayForAttempt (policy : ReconnectConfig) (attempt : Nat) : Nat :=
  let factor := 2 ^ min (attempt - 1) 63
  let product := min (policy.initialDelayMs.toNat * factor) Actor.u64Max
  min product policy.maxDelayMs.toNat

/-- Whether attempt number `attempt` may still be made. -/
def allowsAttempt (policy : ReconnectConfig) (attempt : Nat) : Bool :=
  policy.enabled && (policy.maxAttempts == 0 || decide (attempt ≤ policy.maxAttempts))

end ReconnectConfig

inductive DialEvent where
  /-- The counter of attempts is set back. -/
  | reset
  /-- The reconnect timer is armed for an attempt, at a time in nanoseconds, with a delay in milliseconds. -/
  | armed (attempt : Nat) (time : Int) (delay : Nat)
  /-- The timer makes the attempt. -/
  | attempted (attempt : Nat) (time : Int)

/-- The actor and its connection attempts. -/
structure StationDials where
  actor : Actor
  policy : ReconnectConfig
  /-- The generations of the attempts whose result has not been received, latest first. -/
  dials : List Nat := []
  /-- When the reconnect timer fires. -/
  due : Int := 0
  log : List DialEvent := []

namespace StationDials

/-- The iteration spawned an attempt. -/
def dialed (before after : Actor) : Bool :=
  after.link.connecting && decide (after.link.generation ≠ before.link.generation)

/-- The iteration armed the reconnect timer. -/
def rearmed (before after : Actor) : Bool :=
  decide (.reconnect ∈ after.timers) && decide (.reconnect ∉ before.timers)

/-- What the iteration did to the attempts of the station. -/
def eventOf (policy : ReconnectConfig) (before after : Actor) (wake : Wake) : Option DialEvent :=
  if rearmed before after then
    some (.armed after.link.attempts wake.mono (policy.delayForAttempt after.link.attempts))
  else if after.link.attempts = 0 ∧ before.link.attempts ≠ 0 then some .reset
  else match wake.input with
    | .timer .reconnect => if dialed before after then some (.attempted after.link.attempts wake.mono) else none
    | _ => none

/-- Milliseconds in nanoseconds. -/
def ofMillis (ms : Nat) : Int := ms * 1000000

/-- One iteration of the actor. -/
def iterate (s : StationDials) (wake : Wake) : StationDials :=
  let a := s.actor.step wake
  { s with
    actor := a
    dials := if dialed s.actor a then a.link.generation :: s.dials else s.dials
    due := if rearmed s.actor a then wake.mono + ofMillis (s.policy.delayForAttempt a.link.attempts) else s.due
    log := (eventOf s.policy s.actor a wake).toList ++ s.log }

inductive DialMove where
  /-- Anything but the result of an attempt wakes the actor. -/
  | wake (wake : Wake)
  /-- The result of the attempt `index` arrives. -/
  | result (index : Nat) (ok : Bool) (event : Option String) (now : Instant) (mono : Int)

/-- The reconnect timer does not fire before it is due. -/
def move (s : StationDials) : DialMove → StationDials
  | .wake { input := .connected _ _ _, .. } => s
  | .wake { input := .timer .reconnect, now, mono } =>
    if s.due ≤ mono then s.iterate { input := .timer .reconnect, now, mono } else s
  | .wake wake => s.iterate wake
  | .result index ok event now mono =>
    match s.dials[index]? with
    | none => s
    | some generation =>
      ({ s with dials := s.dials.eraseIdx index }).iterate { input := .connected generation ok event, now, mono }

def run (s : StationDials) (moves : List DialMove) : StationDials := moves.foldl move s

/-- The system when the loop of the actor begins. -/
def start (config : StationConfig) (policy : ReconnectConfig) (registry : ConfigRegistry) (now : Instant) (mono : Int)
    (saved : Option PersistedStation) : StationDials :=
  { policy
    actor := .start { config with reconnectEnabled := policy.enabled, reconnectMaxAttempts := policy.maxAttempts }
      registry now mono saved }

end StationDials

end KirbyOcpp
