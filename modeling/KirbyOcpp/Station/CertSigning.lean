import KirbyOcpp.Station.Step

/-!
# The `SignCertificate` series and its back-off timer

`station/secure.rs`: the continuation of each request remembers the key that its own displaced, and the timer
`CertSigning` repeats the request after a wait that doubles.

The system is the actor with the deadline of that timer, which no other timer of the model has. The key pairs are
numbered like their series, from 1. `log` is a ghost, latest first: what became of the requests. The counters do
not overflow.
-/

namespace KirbyOcpp

/-- Longest total delay of one arming of a timer (200 years), in seconds. -/
def maxTotalDelay : Nat := 200 * 365 * 24 * 60 * 60

/-- Seconds in nanoseconds. -/
def ofSeconds (seconds : Nat) : Int := seconds * 1000000000

/-- The back-off after `repeats` repeats: `base` doubled `repeats` times. -/
def certSigningWait (base repeats : Nat) : Nat :=
  min (base * if repeats < 64 then 2 ^ repeats else Actor.u64Max) Actor.u64Max

/-- A continuation of `SignCertificate`. -/
def Cont.isSigning : Cont → Bool
  | .signCertificate _ _ _ _ => true
  | _ => false

inductive SigningEvent where
  /-- `SignCertificate` with the CSR of `key`, after `repeats` repeats. -/
  | sent (key repeats : Nat) (time : Int)
  /-- The request was answered, or it failed. -/
  | answered (key : Nat) (accepted : Bool) (time : Int)
  /-- `CertificateSigned` came when `begun` series had begun, and adopted the chain of a key. -/
  | signed (key : Option Nat) (begun : Nat)
deriving DecidableEq

namespace Actor

/-- The `SignCertificate` requests without an answer, oldest first. -/
def signing (a : Actor) : List PendingCall := a.calls.filter (·.continuation.isSigning)

/-- `b` has the same certificate requests as `a`, with the same timer. -/
def undisturbed (a b : Actor) : Bool :=
  decide (b.signSeries = a.signSeries) && decide (b.nextSignSeries = a.nextSignSeries) &&
    decide (b.pendingKey = a.pendingKey) && decide (b.signing = a.signing) &&
    decide (b.timers.filter (· = .certSigning) = a.timers.filter (· = .certSigning)) &&
    decide (b.registry.certSigningRepeatTimes = a.registry.certSigningRepeatTimes) &&
    decide (a.nextCallToken ≤ b.nextCallToken)

end Actor

/-- The actor and the timer of its `SignCertificate` series. -/
structure CertSigning where
  actor : Actor
  /-- `CertSigningWaitMinimum`, in seconds. -/
  waitMinimum : Nat
  /-- When the timer fires. -/
  due : Int := 0
  log : List SigningEvent := []

namespace CertSigning

/-- When a timer fires that is armed now. -/
def deadline (s : CertSigning) (a : Actor) : Int :=
  let repeats := (a.signSeries.map (·.repeats)).getD 0
  a.mono + ofSeconds (min (certSigningWait s.waitMinimum repeats) maxTotalDelay)

/-- The actor has become `a`. If the timer is armed for `series` now, it was armed just now. -/
def advance (s : CertSigning) (a : Actor) (series : Option Nat) (events : List SigningEvent) : CertSigning :=
  { s with
    actor := a
    due := if .certSigning ∈ a.timers ∧ series.isSome ∧ a.signSeries.map (·.id) = series then s.deadline a else s.due
    log := events ++ s.log }

/-- What `send_sign_certificate` did for `key`: a request that cannot be sent fails at once. -/
def sendEvents (before after : Actor) (key repeats : Nat) : List SigningEvent :=
  if after.nextCallToken = before.nextCallToken then
    [.answered key false before.mono, .sent key repeats before.mono]
  else [.sent key repeats before.mono]

/-- The series that has begun. -/
def begun (before after : Actor) : Option Nat :=
  if after.nextSignSeries = before.nextSignSeries then none else some after.nextSignSeries

/-- What `request_certificate` did. -/
def requestEvents (before after : Actor) : List SigningEvent :=
  match begun before after with
  | some series => sendEvents before after series 0
  | none => []

/-- What `on_cert_signing_timer` did. -/
def timerEvents (before after : Actor) : List SigningEvent :=
  match after.signSeries with
  | some series =>
    if after.nextCallToken = before.nextCallToken then [] else [.sent series.key series.repeats before.mono]
  | none => []

/-- The answer to a request. -/
def answerEvents (continuation : Cont) (result : CallResult) (time : Int) : List SigningEvent :=
  match continuation with
  | .signCertificate _ key _ _ => [.answered key (decide (decodeSign result = .ok true)) time]
  | _ => []

/-- The series that a request belongs to. -/
def seriesOf : Cont → Option Nat
  | .signCertificate series _ _ _ => some series
  | _ => none

inductive SigningMove where
  /-- The command `RequestCertificate`, or without a reply `ExtendedTriggerMessage`. -/
  | request (reply : Option Reply)
  /-- The request `token` is answered, or fails. -/
  | answer (token : Nat) (result : CallResult)
  | certificateSigned (valid : Bool)
  /-- The timer `CertSigning` fires. -/
  | timer
  /-- The link is lost: its CALLs fail with it, each by an `answer`. -/
  | linkLost
  /-- The rest of the station. -/
  | other (actor : Actor)

/-- The unanswered request that an answer belongs to. -/
def callOf (a : Actor) (token : Nat) : Option PendingCall :=
  (a.calls.find? fun call => call.token == token).filter (·.continuation.isSigning)

/-- One move, at a time that does not run back. The timer does not fire before it is due. -/
def move (s : CertSigning) (mono : Int) (m : SigningMove) : CertSigning :=
  if mono < s.actor.mono then s
  else
    let a := { s.actor with mono }
    match m with
    | .request reply =>
      let b := a.requestCertificate (a.nextSignSeries + 1) reply
      s.advance b (begun a b) (requestEvents a b)
    | .answer token result =>
      match callOf a token with
      | none => s
      | some call =>
        s.advance (a.onCallDone token a.link.generation result) (seriesOf call.continuation)
          (answerEvents call.continuation result mono)
    | .certificateSigned valid =>
      let adopted := if valid then a.pendingKey else none
      s.advance (a.certificateSigned valid) none [.signed adopted a.nextSignSeries]
    | .timer =>
      if .certSigning ∈ a.timers ∧ s.due ≤ mono then
        let a := a.cancelTimer .certSigning
        s.advance a.onCertSigningTimer (a.signSeries.map (·.id)) (timerEvents a a.onCertSigningTimer)
      else s
    | .linkLost => s.advance a.dropLink none []
    | .other b => if a.undisturbed b && decide (b.mono = mono) then s.advance b none [] else s

/-- A move and its time. -/
abbrev Timed := Int × SigningMove

def run (s : CertSigning) (moves : List Timed) : CertSigning := moves.foldl (fun s m => s.move m.1 m.2) s

/-- Nothing has been asked for. -/
def idle (a : Actor) : Bool :=
  a.signSeries.isNone && a.pendingKey.isNone && a.signing.isEmpty && decide (.certSigning ∉ a.timers)

/-- The system when the actor has not asked for a certificate yet. -/
def start (a : Actor) (waitMinimum : Nat) : CertSigning := { actor := a, waitMinimum }

/-! ## What the requests are to do -/

/-- A request for `key` was answered `Accepted`. -/
def acceptedIn (log : List SigningEvent) (key : Nat) : Bool :=
  log.any fun event => match event with
    | .answered key' accepted _ => decide (key' = key) && accepted
    | _ => false

/-- An accepted `CertificateSigned` has ended the request for `key`. -/
def endedIn (log : List SigningEvent) (key : Nat) : Bool :=
  log.any fun event => match event with
    | .signed adopted _ => decide (adopted = some key)
    | _ => false

/-- One of `calls` asks for `key`, or a request for it was accepted and has not been ended. -/
def grounded (log : List SigningEvent) (calls : List PendingCall) (key : Nat) : Bool :=
  calls.any (fun call => decide (call.request = .signCertificate key)) || (acceptedIn log key && !endedIn log key)

/-- The unanswered request that a move answers, and whether it is accepted. -/
def answerOf (s : CertSigning) (mono : Int) : SigningMove → Option (PendingCall × Bool)
  | .answer token result =>
    if mono < s.actor.mono then none
    else (callOf s.actor token).map fun call => (call, decide (decodeSign result = .ok true))
  | _ => none

/-- The request of the pending key fails, and puts back a key that nothing else asks for any more. -/
def restoresRefused (s : CertSigning) (mono : Int) (m : SigningMove) : Bool :=
  match answerOf s mono m with
  | some (call, false) =>
    match call.continuation with
    | .signCertificate _ key (some previous) _ =>
      decide (s.actor.pendingKey = some key) &&
        !grounded s.log (s.actor.signing.filter fun other => decide (other.token ≠ call.token)) previous
    | _ => false
  | _ => false

/-- The key that is pending is asked for. -/
def Justified (s : CertSigning) : Prop :=
  ∀ key, s.actor.pendingKey = some key → grounded s.log s.actor.signing key = true

/-- After how many repeats the CSR of `key` was sent each time, latest first. -/
def sends (log : List SigningEvent) (key : Nat) : List Nat :=
  log.filterMap fun event => match event with
    | .sent key' repeats _ => if key' = key then some repeats else none
    | _ => none

/-- The event is no later than `time` if it is about `key`, and no `CertificateSigned` after `key` was made. -/
def Before (key : Nat) (time : Int) : SigningEvent → Prop
  | .sent key' _ time' => key' = key → time' ≤ time
  | .answered key' _ time' => key' = key → time' ≤ time
  | .signed _ begun => begun < key

/-- What the event `later` may be after the event `earlier`: a repeat comes `wait` after all that happened to its
series, and no series goes on after a `CertificateSigned`. -/
def Follows (wait : Nat → Nat) (later earlier : SigningEvent) : Prop :=
  match later with
  | .sent key 0 time => Before key time earlier
  | .sent key (repeats + 1) time => Before key (time - ofSeconds (wait repeats)) earlier
  | _ => True

/-- The back-off of every series. -/
structure Disciplined (s : CertSigning) (limit : Nat) : Prop where
  /-- A series sends its CSR and then repeats 1, 2, .., at most `limit`. -/
  sends : ∀ key, ∃ count ≤ 1 + limit, sends s.log key = (List.range count).reverse
  follows : s.log.Pairwise (Follows fun repeats => s.waitMinimum * 2 ^ repeats)
  /-- No timer is armed but for the series in progress. -/
  single : s.actor.timers.count .certSigning ≤ 1
  armed : .certSigning ∈ s.actor.timers → s.actor.signSeries.isSome

/-- What the requests are to do. -/
def Lawful (s : CertSigning) (limit : Nat) : Prop := s.Justified ∧ s.Disciplined limit

end CertSigning

end KirbyOcpp
