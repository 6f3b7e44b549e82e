import KirbyOcpp.Ledger.Runs
import KirbyOcpp.Station.CertSigning

/-!
# The `SignCertificate` series over whole runs

**The law** `signing_lawful`: the back-off holds in every run, and the pending key is asked for in every state of a
run in which no failed request puts back a key that is not asked for any more. **Where it fails**:
`refused_key_restored`.
-/

namespace KirbyOcpp

/-! ## What leaves the requests alone -/

/-- What an actor keeps of its certificate requests. -/
structure Requests where
  series : Option SignSeries
  begun : Nat
  pending : Option Nat
  signing : List PendingCall
  timer : List TimerKey
  limit : Nat
  mono : Int

namespace Actor

def requests (a : Actor) : Requests :=
  { series := a.signSeries, begun := a.nextSignSeries, pending := a.pendingKey, signing := a.signing
    timer := a.timers.filter (· = .certSigning), limit := a.registry.certSigningRepeatTimes, mono := a.mono }

end Actor

namespace Requests

/-- `arm_cert_signing_retry`. -/
def arm (r : Requests) (id : Nat) : Requests :=
  match r.series.filter fun series => series.id == id with
  | none => r
  | some series =>
    if r.limit ≤ series.repeats then { r with series := none, timer := [] } else { r with timer := [.certSigning] }

/-- `restore_pending_key`. -/
def restore (r : Requests) (key : Nat) (previous : Option Nat) : Requests :=
  if r.pending = some key then { r with pending := previous } else r

/-- The answer to a request for `key`. -/
def answer (r : Requests) (series key : Nat) (previous : Option Nat) (accepted : Bool) : Requests :=
  (if accepted then r else r.restore key previous).arm series

/-- The timer is armed, or the series stops, if it is the series in progress. -/
theorem arm_cases (r : Requests) (id : Nat) :
    (r.arm id = r ∧ r.series.map (·.id) ≠ some id) ∨
      ∃ series, r.series = some series ∧ series.id = id ∧
        ((r.limit ≤ series.repeats ∧ r.arm id = { r with series := none, timer := [] }) ∨
          (series.repeats < r.limit ∧ r.arm id = { r with timer := [.certSigning] })) := by
  cases kept : r.series.filter fun series => series.id == id with
  | none =>
    refine .inl ⟨?_, fun own => ?_⟩
    · unfold arm
      rw [kept]
    · obtain ⟨series, found, same⟩ := Option.map_eq_some_iff.mp own
      rw [found] at kept
      simp [Option.filter, same] at kept
  | some series =>
    obtain ⟨own, same⟩ := Option.filter_eq_some_iff.mp kept
    refine .inr ⟨series, own, beq_iff_eq.mp same, ?_⟩
    unfold arm
    rw [kept]
    by_cases reached : r.limit ≤ series.repeats
    · exact .inl ⟨reached, if_pos reached⟩
    · exact .inr ⟨not_le.mp reached, if_neg reached⟩

private theorem arm_keeps (r : Requests) (id : Nat) :
    (r.arm id).pending = r.pending ∧ (r.arm id).signing = r.signing ∧ (r.arm id).begun = r.begun ∧
      ∀ series, (r.arm id).series = some series → r.series = some series := by
  rcases r.arm_cases id with ⟨same, -⟩ | ⟨series, own, -, ⟨-, stopped⟩ | ⟨-, armed⟩⟩
  · rw [same]
    exact ⟨rfl, rfl, rfl, fun _ own => own⟩
  · rw [stopped]
    exact ⟨rfl, rfl, rfl, nofun⟩
  · rw [armed]
    exact ⟨rfl, rfl, rfl, fun _ own => own⟩

/-- Only the key that is pending is restored. -/
theorem restore_eq (r : Requests) (key : Nat) (previous : Option Nat) :
    r.restore key previous = { r with pending := if r.pending = some key then previous else r.pending } := by
  unfold restore
  split <;> rfl

private theorem answer_keeps (r : Requests) (series key : Nat) (previous : Option Nat) (accepted : Bool) :
    (r.answer series key previous accepted).pending =
        (if accepted = false ∧ r.pending = some key then previous else r.pending) ∧
      (r.answer series key previous accepted).signing = r.signing ∧
      (r.answer series key previous accepted).begun = r.begun ∧
      ∀ running, (r.answer series key previous accepted).series = some running → r.series = some running := by
  unfold answer
  cases accepted with
  | true => simpa using r.arm_keeps series
  | false =>
    have kept := (r.restore key previous).arm_keeps series
    rw [r.restore_eq] at kept ⊢
    simpa using kept

end Requests

/-- `b` has the same certificate requests as `a`, with the same timer. -/
def Aside (a b : Actor) : Prop := b.requests = a.requests ∧ a.nextCallToken ≤ b.nextCallToken

namespace Aside

variable {a b c : Actor}

/-- Nothing happens. -/
theorem refl : Aside a a := ⟨rfl, le_rfl⟩

/-- What stays aside goes on. -/
theorem trans (first : Aside a b) (second : Aside b c) : Aside a c :=
  ⟨second.1.trans first.1, first.2.trans second.2⟩

/-- No request begins. -/
theorem begun (h : Aside a b) : b.nextSignSeries = a.nextSignSeries := congrArg Requests.begun h.1

/-- Only the timers change. -/
theorem of_timers {timers : List TimerKey}
    (same : timers.filter (· = .certSigning) = a.timers.filter (· = .certSigning)) : Aside a { a with timers } := by
  refine ⟨?_, le_rfl⟩
  unfold Actor.requests
  dsimp only
  rw [same]
  rfl

/-- A loop whose turns stay aside. -/
theorem foldl {X : Type} {f : Actor → X → Actor} (xs : List X) (h : ∀ x a, Aside a (f a x)) (a : Actor) :
    Aside a (xs.foldl f a) := by
  induction xs generalizing a with
  | nil => exact refl
  | cons x xs ih =>
    rw [List.foldl_cons]
    exact (h x a).trans (ih _)

end Aside

namespace Actor

variable (a : Actor)

private theorem filter_filter_ne {key : TimerKey} (other : key ≠ .certSigning) (timers : List TimerKey) :
    (timers.filter fun timer => decide (timer ≠ key)).filter (· = .certSigning) = timers.filter (· = .certSigning) := by
  rw [List.filter_filter]
  refine List.filter_congr fun timer _ => ?_
  by_cases same : timer = .certSigning
  · rw [same]
    simpa using other.symm
  · simp [same]

private theorem setTimer_aside {key : TimerKey} (other : key ≠ .certSigning) : Aside a (a.setTimer key) := by
  refine .of_timers ?_
  rw [List.filter_cons_of_neg (by simpa using other)]
  exact filter_filter_ne other _

private theorem cancelTimer_aside {key : TimerKey} (other : key ≠ .certSigning) : Aside a (a.cancelTimer key) :=
  .of_timers (filter_filter_ne other _)

private theorem setTimerIfIdle_aside {key : TimerKey} (other : key ≠ .certSigning) :
    Aside a (a.setTimerIfIdle key) := by
  unfold setTimerIfIdle
  split
  · exact .refl
  · exact a.setTimer_aside other

private theorem cancelTimersWhere_aside {p : TimerKey → Bool} (other : p .certSigning = false) :
    Aside a (a.cancelTimersWhere p) := by
  refine .of_timers ?_
  rw [List.filter_filter]
  refine List.filter_congr fun timer _ => ?_
  by_cases same : timer = .certSigning
  · rw [same]
    simp [other]
  · simp [same]

private theorem replyIf_aside (reply : Option Reply) (result : Except StationError Outcome) :
    Aside a (a.replyIf reply result) := by
  cases reply <;> exact .refl

private theorem accept_aside (origin : Origin) (request : Request) {continuation : Cont}
    (other : continuation.isSigning = false) : Aside a (a.accept origin request continuation) := by
  refine ⟨?_, Nat.le_succ _⟩
  unfold requests signing accept
  dsimp only
  rw [List.filter_append, List.filter_cons_of_neg (by simp [other]), List.filter_nil, List.append_nil]

private theorem call_aside (origin : Origin) (request : Request) {continuation : Cont}
    (onFail : CallError → Actor → Actor)
    (other : continuation.isSigning = false) (fails : ∀ error, Aside a (onFail error a)) :
    Aside a (a.call origin request continuation onFail) := by
  rcases a.call_cases origin request continuation onFail with ⟨error, eq⟩ | ⟨-, -, eq⟩
  · rw [eq]
    exact fails error
  · rw [eq]
    exact a.accept_aside origin request other

private theorem markDirty_aside : Aside a a.markDirty := by
  unfold markDirty
  split
  · exact .refl
  · exact setTimerIfIdle_aside _ (by simp)

private theorem markSecretsDirty_aside : Aside a a.markSecretsDirty := markDirty_aside _

private theorem flushMeters_aside : Aside a a.flushMeters := by
  unfold flushMeters
  dsimp only
  split
  · exact markDirty_aside _
  · exact .refl

private theorem flushPersistence_aside : Aside a a.flushPersistence := by
  refine a.flushMeters_aside.trans ?_
  unfold flushPersistence
  dsimp only
  split
  · exact .refl
  · split <;> exact .refl

private theorem flushNow_aside : Aside a a.flushNow :=
  (a.markDirty_aside.trans (cancelTimer_aside _ (by simp))).trans (flushPersistence_aside _)

private theorem onSecurityEventResult_aside (event : PendingSecurityEvent) (result : Except CallError Unit) :
    Aside a (onSecurityEventResult event result a) := by
  cases result with
  | ok _ => exact .refl
  | error error =>
    unfold onSecurityEventResult
    dsimp only
    split
    · exact markDirty_aside _
    · exact .refl

private theorem flushSecurityEvents_aside : Aside a a.flushSecurityEvents := by
  unfold flushSecurityEvents
  split
  · exact .refl
  · have queued : Aside a ({ a with securityEvents := [] } : Actor).markDirty := markDirty_aside _
    exact queued.trans
      (.foldl _ (fun _ a => a.call_aside _ _ _ rfl fun _ => onSecurityEventResult_aside _ _ _) _)

private theorem securityEvent_aside (eventType : String) (techInfo : Option String) :
    Aside a (a.securityEvent eventType techInfo) := by
  let event : PendingSecurityEvent := { eventType, timestamp := a.now, techInfo }
  have queued : Aside a ((a.record (.raised event)).queueEvent event) := .refl
  exact queued.trans ((markDirty_aside _).trans (flushSecurityEvents_aside _))

private theorem reconnectForNewSecurityParameters_aside : Aside a a.reconnectForNewSecurityParameters := by
  unfold reconnectForNewSecurityParameters
  split
  · exact .refl
  · have noted : Aside a { a with hardResetDeadline := some (a.mono + hardResetWait) } := .refl
    exact noted.trans (setTimer_aside _ (by simp))

private theorem dropLink_aside : Aside a a.dropLink := by
  have reset (b : Actor) : Aside b b.resetStatusTracking := cancelTimersWhere_aside b rfl
  have timers : Aside a (a.cancelTimersWhere isLinkTimer).resetStatusTracking :=
    (a.cancelTimersWhere_aside rfl).trans (reset _)
  exact timers.trans .refl

/-! ## What an operation does to the requests -/

private theorem arm_requests (id : Nat) :
    (a.armCertSigningRetry id).requests = a.requests.arm id ∧
      (a.armCertSigningRetry id).nextCallToken = a.nextCallToken := by
  unfold armCertSigningRetry Requests.arm
  have series : a.requests.series = a.signSeries := rfl
  rw [series]
  cases a.signSeries.filter fun series => series.id == id with
  | none => exact ⟨rfl, rfl⟩
  | some own =>
    dsimp only
    have limit : a.requests.limit = a.registry.certSigningRepeatTimes := rfl
    rw [limit]
    split
    · refine ⟨?_, rfl⟩
      unfold requests cancelTimer
      simp [List.filter_filter, signing]
    · refine ⟨?_, rfl⟩
      unfold requests setTimer
      simp [List.filter_filter, signing]

private theorem markSecretsDirty_requests :
    a.markSecretsDirty.requests = a.requests ∧ a.markSecretsDirty.nextCallToken = a.nextCallToken := by
  refine ⟨a.markSecretsDirty_aside.1, ?_⟩
  unfold markSecretsDirty markDirty setTimerIfIdle setTimer
  dsimp only
  split <;> [rfl; (split <;> rfl)]

private theorem restore_requests (key : Nat) (previous : Option Nat) :
    (a.restorePendingKey key previous).requests = a.requests.restore key previous ∧
      (a.restorePendingKey key previous).nextCallToken = a.nextCallToken := by
  unfold restorePendingKey Requests.restore
  have pending : a.requests.pending = a.pendingKey := rfl
  rw [pending]
  split
  · exact markSecretsDirty_requests { a with pendingKey := previous }
  · exact ⟨rfl, rfl⟩

private theorem replyIf_requests (reply : Option Reply) (result : Except StationError Outcome) :
    (a.replyIf reply result).requests = a.requests ∧ (a.replyIf reply result).nextCallToken = a.nextCallToken := by
  cases reply <;> exact ⟨rfl, rfl⟩

private theorem onSignResult_requests (series key : Nat) (previous : Option Nat) (reply : Option Reply)
    (result : Except CallError Bool) :
    (onSignResult series key previous reply result a).requests =
        a.requests.answer series key previous (decide (result = .ok true)) ∧
      (onSignResult series key previous reply result a).nextCallToken = a.nextCallToken := by
  have restored := a.restore_requests key previous
  have failed (answer : Except StationError Outcome) :
      (((a.restorePendingKey key previous).armCertSigningRetry series).replyIf reply answer).requests =
          (a.requests.restore key previous).arm series ∧
        (((a.restorePendingKey key previous).armCertSigningRetry series).replyIf reply answer).nextCallToken =
          a.nextCallToken := by
    have replied := replyIf_requests ((a.restorePendingKey key previous).armCertSigningRetry series) reply answer
    have armed := arm_requests (a.restorePendingKey key previous) series
    rw [restored.1, restored.2] at armed
    exact ⟨replied.1.trans armed.1, replied.2.trans armed.2⟩
  cases result with
  | error error => exact failed _
  | ok accepted =>
    cases accepted with
    | false => exact failed _
    | true =>
      have replied := replyIf_requests (a.armCertSigningRetry series) reply (.ok .response)
      have armed := a.arm_requests series
      exact ⟨replied.1.trans armed.1, replied.2.trans armed.2⟩

/-- A request that cannot be sent leaves the key that was pending. -/
theorem answer_unsent (r : Requests) (series key : Nat) :
    ({ r with pending := some key } : Requests).answer series key r.pending false = r.arm series := by
  simp [Requests.answer, Requests.restore]

/-- `send_sign_certificate` for the series in progress. -/
theorem sendSignCertificate_requests {a : Actor} {series : SignSeries} (own : a.signSeries = some series)
    (reply : Option Reply) :
    (∃ call : PendingCall, call.token = a.nextCallToken ∧ call.request = .signCertificate series.key ∧
      call.continuation = .signCertificate series.id series.key a.pendingKey reply ∧
      (a.sendSignCertificate series.id reply).requests =
        { a.requests with pending := some series.key, signing := a.signing ++ [call] } ∧
      (a.sendSignCertificate series.id reply).nextCallToken = a.nextCallToken + 1) ∨
    (a.canTalk = false ∧ (a.sendSignCertificate series.id reply).requests = a.requests.arm series.id ∧
      (a.sendSignCertificate series.id reply).nextCallToken = a.nextCallToken) := by
  let b := ({ a with pendingKey := some series.key } : Actor).markSecretsDirty
  have marked : b.requests = { a.requests with pending := some series.key } ∧ b.nextCallToken = a.nextCallToken :=
    markSecretsDirty_requests { a with pendingKey := some series.key }
  have talks : b.canTalk = a.canTalk := (markDirty_quiet _).canTalk
  let continuation := Cont.signCertificate series.id series.key a.pendingKey reply
  let onFail (error : CallError) := onSignResult series.id series.key a.pendingKey reply (.error error)
  have sent : a.sendSignCertificate series.id reply =
      b.call .station (.signCertificate series.key) continuation onFail := by
    have kept : (a.signSeries.filter fun other => other.id == series.id) = some series := by
      rw [own]
      simp [Option.filter]
    unfold sendSignCertificate
    rw [kept]
  rw [sent]
  have accepted : b.call .station (.signCertificate series.key) continuation onFail =
      b.accept .station (.signCertificate series.key) continuation →
      ∃ call : PendingCall, call.token = a.nextCallToken ∧ call.request = .signCertificate series.key ∧
        call.continuation = continuation ∧
        (b.call .station (.signCertificate series.key) continuation onFail).requests =
          { a.requests with pending := some series.key, signing := a.signing ++ [call] } ∧
        (b.call .station (.signCertificate series.key) continuation onFail).nextCallToken = a.nextCallToken + 1 := by
    intro eq
    rw [eq]
    let call : PendingCall :=
      { token := b.nextCallToken, generation := b.link.generation, origin := .station
        request := .signCertificate series.key, continuation
        attempts := b.callAttempts .station (.signCertificate series.key) }
    refine ⟨call, marked.2, rfl, rfl, ?_, congrArg (· + 1) marked.2⟩
    have asked : (b.accept .station (.signCertificate series.key) continuation).requests =
        { b.requests with signing := b.signing ++ [call] } := by
      unfold accept requests signing
      dsimp only
      rw [List.filter_append, List.filter_cons_of_pos rfl, List.filter_nil]
    have signing : b.signing = a.signing := congrArg Requests.signing marked.1
    rw [asked, marked.1, signing]
  cases able : a.canTalk with
  | true => exact .inl (accepted (b.call_of_canTalk (talks.trans able) _ _ _ _))
  | false =>
    rcases b.call_cases .station (.signCertificate series.key) continuation onFail with ⟨error, eq⟩ | ⟨-, -, eq⟩
    · have failed := onSignResult_requests b series.id series.key a.pendingKey reply (.error error)
      rw [marked.1, marked.2] at failed
      rw [eq]
      exact .inr ⟨rfl, failed.1.trans (answer_unsent a.requests series.id series.key), failed.2⟩
    · exact .inl (accepted eq)

end Actor

/-! ## The moves -/

/-- What the law is about. -/
structure Signing extends Requests where
  tokens : Nat
  wait : Nat
  due : Int
  log : List SigningEvent

namespace Signing

/-- How long a timer waits that is armed after `repeats` repeats, in seconds. -/
def pause (wait repeats : Nat) : Nat := min (certSigningWait wait repeats) maxTotalDelay

/-- The requests have become `r`. -/
def become (v : Signing) (r : Requests) (tokens : Nat) (series : Option Nat) (events : List SigningEvent) : Signing :=
  { r with
    tokens, wait := v.wait
    due := if r.timer ≠ [] ∧ series.isSome ∧ r.series.map (·.id) = series then
        r.mono + ofSeconds (pause v.wait ((r.series.map (·.repeats)).getD 0))
      else v.due
    log := events ++ v.log }

/-- The requests when the series `key` begins. -/
def begin (v : Signing) (mono : Int) : Requests :=
  { v.toRequests with
    series := some { id := v.begun + 1, key := v.begun + 1, repeats := 0 }, begun := v.begun + 1, timer := [], mono }

/-- What a move does; the unanswered request that it answers, and whether it is accepted. -/
inductive Step (v : Signing) : Option (PendingCall × Bool) → Signing → Prop
  | aside (mono : Int) (later : v.mono ≤ mono) (tokens : Nat) (more : v.tokens ≤ tokens) :
    Step v none (v.become { v.toRequests with mono } tokens none [])
  | sent (mono : Int) (later : v.mono ≤ mono) (call : PendingCall) (token : call.token = v.tokens)
      (request : call.request = .signCertificate (v.begun + 1)) (reply : Option Reply)
      (continuation : call.continuation = .signCertificate (v.begun + 1) (v.begun + 1) v.pending reply) :
    Step v none (v.become { v.begin mono with pending := some (v.begun + 1), signing := v.signing ++ [call] }
      (v.tokens + 1) (some (v.begun + 1)) [.sent (v.begun + 1) 0 mono])
  | unsent (mono : Int) (later : v.mono ≤ mono) :
    Step v none (v.become ((v.begin mono).arm (v.begun + 1)) v.tokens (some (v.begun + 1))
      [.answered (v.begun + 1) false mono, .sent (v.begun + 1) 0 mono])
  | answered (mono : Int) (later : v.mono ≤ mono) (call : PendingCall) (asked : call ∈ v.signing) (accepted : Bool)
      (series key : Nat) (previous : Option Nat) (reply : Option Reply)
      (continuation : call.continuation = .signCertificate series key previous reply) :
    Step v (some (call, accepted))
      (v.become (Requests.answer
          { v.toRequests with signing := v.signing.filter fun other => decide (other.token ≠ call.token), mono }
          series key previous accepted)
        v.tokens (some series) [.answered key accepted mono])
  | signed (mono : Int) (later : v.mono ≤ mono) (tokens : Nat) (more : v.tokens ≤ tokens) (adopted : Option Nat)
      (own : adopted.isSome → adopted = v.pending) :
    Step v none (v.become
      { v.toRequests with
        series := none, timer := [], pending := if adopted.isSome then none else v.pending, mono }
      tokens none [.signed adopted v.begun])
  | lapsed (mono : Int) (armed : v.timer ≠ []) (idle : v.series = none) (w : Signing) : Step v none w
  | deferred (mono : Int) (later : v.mono ≤ mono) (armed : v.timer ≠ []) (series : SignSeries)
      (own : v.series = some series) :
    Step v none (v.become { v.toRequests with timer := [.certSigning], mono } v.tokens (some series.id) [])
  | repeated (mono : Int) (later : v.mono ≤ mono) (armed : v.timer ≠ []) (due : v.due ≤ mono) (series : SignSeries)
      (own : v.series = some series) (call : PendingCall) (token : call.token = v.tokens)
      (request : call.request = .signCertificate series.key) (reply : Option Reply)
      (continuation : call.continuation = .signCertificate series.id series.key v.pending reply) :
    Step v none (v.become
      { v.toRequests with
        series := some { series with repeats := series.repeats + 1 }, pending := some series.key
        signing := v.signing ++ [call], timer := [], mono }
      (v.tokens + 1) (some series.id) [.sent series.key (series.repeats + 1) mono])

end Signing

namespace CertSigning

variable (s : CertSigning)

def view : Signing :=
  { s.actor.requests with tokens := s.actor.nextCallToken, wait := s.waitMinimum, due := s.due, log := s.log }

private theorem armed_iff (a : Actor) : .certSigning ∈ a.timers ↔ a.requests.timer ≠ [] := by
  have timer : a.requests.timer = a.timers.filter (· = .certSigning) := rfl
  rw [timer, ne_eq, List.filter_eq_nil_iff]
  simp

private theorem view_advance (a : Actor) (series : Option Nat) (events : List SigningEvent) :
    (s.advance a series events).view = s.view.become a.requests a.nextCallToken series events := by
  unfold view advance Signing.become deadline
  dsimp only
  simp only [armed_iff]
  rfl

/-- Nothing happens to the requests. -/
theorem step_aside {a : Actor} {mono : Int} (later : s.actor.mono ≤ mono) (aside : Aside { s.actor with mono } a) :
    Signing.Step s.view none (s.advance a none []).view := by
  rw [view_advance, aside.1]
  exact .aside mono later a.nextCallToken aside.2

private theorem step_stay : Signing.Step s.view none s.view := by
  have step := Signing.Step.aside (v := s.view) s.actor.mono le_rfl s.view.tokens le_rfl
  have same : s.view.become { s.view.toRequests with mono := s.actor.mono } s.view.tokens none [] = s.view := by
    unfold Signing.become
    simp
    rfl
  rwa [same] at step

private theorem step_request {mono : Int} (later : s.actor.mono ≤ mono) (reply : Option Reply) :
    Signing.Step s.view none (s.move mono (.request reply)).view := by
  let a : Actor := { s.actor with mono }
  let b := a.requestCertificate (a.nextSignSeries + 1) reply
  have moved : s.move mono (.request reply) = s.advance b (begun a b) (requestEvents a b) := by
    unfold move
    rw [if_neg (not_lt.mpr later)]
  rw [moved]
  cases conn : a.link.conn with
  | false =>
    have aside : Aside a b := by
      change Aside a (a.requestCertificate _ reply)
      unfold Actor.requestCertificate
      rw [conn]
      exact a.replyIf_aside reply _
    have none : begun a b = none := if_pos aside.begun
    unfold requestEvents
    rw [none]
    exact s.step_aside later aside
  | true =>
    let series : SignSeries := { id := a.nextSignSeries + 1, key := a.nextSignSeries + 1, repeats := 0 }
    let c : Actor :=
      { ({ a with nextSignSeries := a.nextSignSeries + 1 } : Actor).cancelTimer .certSigning with
        signSeries := some series }
    have sends : b = c.sendSignCertificate series.id reply := by
      change a.requestCertificate _ reply = _
      unfold Actor.requestCertificate
      rw [conn]
      rfl
    have begins : c.requests = s.view.begin mono := by
      unfold Actor.requests Signing.begin Actor.signing
      simp [c, series, a, Actor.cancelTimer, List.filter_filter, view, Actor.requests, Actor.signing]
    have own : c.signSeries = some series := rfl
    rcases Actor.sendSignCertificate_requests own reply with
      ⟨call, token, request, continuation, requests, tokens⟩ | ⟨-, requests, tokens⟩
    · rw [← sends] at requests tokens
      have series' : begun a b = some (s.view.begun + 1) := by
        have count : b.nextSignSeries = a.nextSignSeries + 1 := congrArg Requests.begun requests
        unfold begun
        rw [count, if_neg (Nat.succ_ne_self _)]
        rfl
      have events : requestEvents a b = [.sent (s.view.begun + 1) 0 mono] := by
        unfold requestEvents sendEvents
        rw [series']
        have more : b.nextCallToken = a.nextCallToken + 1 := tokens
        dsimp only
        rw [more, if_neg (Nat.succ_ne_self _)]
      rw [view_advance, requests, tokens, series', events, begins]
      exact .sent mono later call token request reply continuation
    · rw [← sends] at requests tokens
      have count : b.nextSignSeries = a.nextSignSeries + 1 := by
        refine (congrArg Requests.begun requests).trans ?_
        exact (Requests.arm_keeps _ _).2.2.1.trans (congrArg Requests.begun begins)
      have series' : begun a b = some (s.view.begun + 1) := by
        unfold begun
        rw [count, if_neg (Nat.succ_ne_self _)]
        rfl
      have events : requestEvents a b =
          [.answered (s.view.begun + 1) false mono, .sent (s.view.begun + 1) 0 mono] := by
        unfold requestEvents sendEvents
        rw [series']
        have same : b.nextCallToken = a.nextCallToken := tokens
        dsimp only
        rw [same, if_pos rfl]
      rw [view_advance, requests, tokens, series', events, begins]
      exact .unsent mono later

private theorem step_answer {mono : Int} (later : s.actor.mono ≤ mono) (token : Nat) (result : CallResult) :
    Signing.Step s.view (answerOf s mono (.answer token result)) (s.move mono (.answer token result)).view := by
  let a : Actor := { s.actor with mono }
  have answers : answerOf s mono (.answer token result) =
      (callOf a token).map fun call => (call, decide (decodeSign result = .ok true)) := if_neg (not_lt.mpr later)
  rw [answers]
  unfold move
  rw [if_neg (not_lt.mpr later)]
  dsimp only
  cases found : callOf a token with
  | none => exact s.step_stay
  | some call =>
    obtain ⟨first, signs⟩ := Option.filter_eq_some_iff.mp found
    have mem := List.mem_of_find?_eq_some first
    have own : call.token = token := by simpa using List.find?_some first
    obtain ⟨series, key, previous, reply, continuation⟩ :
        ∃ series key previous reply, call.continuation = .signCertificate series key previous reply := by
      cases cont : call.continuation <;> simp_all [Cont.isSigning]
    have done : a.onCallDone token a.link.generation result =
        Actor.onSignResult series key previous reply (decodeSign result)
          (({ a with calls := a.calls.filter fun call => !(call.token == token) } : Actor).record
            (.completed call result)) := by
      unfold Actor.onCallDone Actor.complete
      rw [if_neg (not_not.mpr rfl), first]
      dsimp only
      rw [continuation]
      rfl
    obtain ⟨requests, tokens⟩ := Actor.onSignResult_requests
      (({ a with calls := a.calls.filter fun call => !(call.token == token) } : Actor).record
        (.completed call result)) series key previous reply (decodeSign result)
    have removed : (({ a with calls := a.calls.filter fun call => !(call.token == token) } : Actor).record
        (.completed call result)).requests =
        { a.requests with signing := a.signing.filter fun other => decide (other.token ≠ call.token) } := by
      unfold Actor.requests Actor.signing Actor.record
      dsimp only
      rw [List.filter_filter, List.filter_filter, own]
      congr 1
      exact List.filter_congr fun other _ => by simp [Bool.and_comm, beq_eq_decide]
    simp only [Option.map_some, seriesOf, answerEvents, continuation]
    rw [view_advance, done, requests, tokens, removed]
    exact .answered mono later call (List.mem_filter.mpr ⟨mem, signs⟩) _ series key previous reply continuation

private theorem step_certificateSigned {mono : Int} (later : s.actor.mono ≤ mono) (valid : Bool) :
    Signing.Step s.view none (s.move mono (.certificateSigned valid)).view := by
  let a : Actor := { s.actor with mono }
  let adopted := if valid then a.pendingKey else none
  unfold move
  rw [if_neg (not_lt.mpr later)]
  dsimp only
  let stopped : Actor := { a.cancelTimer .certSigning with signSeries := none }
  have ended : stopped.requests = { a.requests with series := none, timer := [] } := by
    unfold Actor.requests
    simp [stopped, Actor.cancelTimer, List.filter_filter, Actor.signing]
  have signed : (a.certificateSigned valid).requests =
        { a.requests with series := none, timer := [], pending := if adopted.isSome then none else a.pendingKey } ∧
      a.nextCallToken ≤ (a.certificateSigned valid).nextCallToken := by
    cases adopts : a.pendingKey.isSome && valid with
    | true =>
      have aside : Aside { stopped with pendingKey := none } (a.certificateSigned valid) := by
        unfold Actor.certificateSigned
        simp only [adopts, if_true]
        exact (((Actor.markSecretsDirty_aside _).trans (Actor.flushNow_aside _)).trans
          (Actor.reconnectForNewSecurityParameters_aside _)).trans .refl
      have own : adopted.isSome = true := by
        obtain ⟨some, accepts⟩ := Bool.and_eq_true_iff.mp adopts
        simpa [adopted, accepts] using some
      rw [own]
      exact ⟨aside.1.trans (congrArg (fun r : Requests => { r with pending := none }) ended), aside.2⟩
    | false =>
      have aside : Aside stopped (a.certificateSigned valid) := by
        unfold Actor.certificateSigned
        simp only [adopts, Bool.false_eq_true, if_false]
        have noted : Aside stopped (stopped.record (.responded (.certificateSigned false))) := .refl
        exact noted.trans (Actor.securityEvent_aside _ _ _)
      have own : adopted.isSome = false := by
        cases valid with
        | false => rfl
        | true => simpa [adopted] using adopts
      rw [own]
      exact ⟨aside.1.trans ended, aside.2⟩
  rw [view_advance, signed.1]
  refine .signed mono later _ signed.2 adopted fun some => ?_
  cases valid with
  | false => cases some
  | true => rfl

private theorem step_timer {mono : Int} (later : s.actor.mono ≤ mono) :
    Signing.Step s.view none (s.move mono .timer).view := by
  let a : Actor := { s.actor with mono }
  unfold move
  rw [if_neg (not_lt.mpr later)]
  dsimp only
  split
  · rename_i fires
    have armed : s.view.timer ≠ [] := (armed_iff _).mp fires.1
    let b := a.cancelTimer .certSigning
    have cancelled : b.requests = { s.view.toRequests with timer := [], mono } := by
      unfold Actor.requests
      simp [b, a, Actor.cancelTimer, List.filter_filter, Actor.signing, view, Actor.requests]
    rcases Option.eq_none_or_eq_some s.actor.signSeries with own | ⟨series, own⟩
    · exact .lapsed mono armed own _
    · have own' : b.signSeries = some series := own
      cases talks : b.canTalk with
      | false =>
        have deferred : b.onCertSigningTimer = b.setTimer .certSigning := by
          unfold Actor.onCertSigningTimer
          rw [own']
          simp [talks]
        have requests : (b.setTimer .certSigning).requests =
            { s.view.toRequests with timer := [.certSigning], mono } := by
          have set : (b.setTimer .certSigning).requests = { b.requests with timer := [.certSigning] } := by
            unfold Actor.requests Actor.setTimer
            simp [List.filter_filter, Actor.signing]
          rw [set, cancelled]
        have events : timerEvents b (b.setTimer .certSigning) = [] := by
          have kept : (b.setTimer .certSigning).signSeries = some series := own
          unfold timerEvents
          rw [kept]
          exact if_pos rfl
        change Signing.Step _ _ (s.advance b.onCertSigningTimer (b.signSeries.map (·.id))
          (timerEvents b b.onCertSigningTimer)).view
        rw [deferred, view_advance, requests, events, own']
        exact .deferred mono later armed series own
      | true =>
        let again : SignSeries := { series with repeats := series.repeats + 1 }
        let c : Actor := { b with signSeries := some again }
        have repeated : b.onCertSigningTimer = c.sendSignCertificate again.id none := by
          unfold Actor.onCertSigningTimer
          rw [own']
          simp [talks, c, again]
        have begins : c.requests = { s.view.toRequests with series := some again, timer := [], mono } :=
          congrArg (fun r : Requests => { r with series := some again }) cancelled
        have mine : c.signSeries = some again := rfl
        rcases Actor.sendSignCertificate_requests mine none with
          ⟨call, token, request, continuation, requests, tokens⟩ | ⟨mute, -, -⟩
        · rw [← repeated] at requests tokens
          have events : timerEvents b b.onCertSigningTimer = [.sent series.key (series.repeats + 1) mono] := by
            have kept : b.onCertSigningTimer.signSeries = some again := congrArg Requests.series requests
            have more : b.onCertSigningTimer.nextCallToken = b.nextCallToken + 1 := tokens
            unfold timerEvents
            rw [kept]
            dsimp only
            rw [more, if_neg (Nat.succ_ne_self _)]
            rfl
          change Signing.Step _ _ (s.advance b.onCertSigningTimer (b.signSeries.map (·.id))
            (timerEvents b b.onCertSigningTimer)).view
          rw [view_advance, requests, tokens, events, own', begins]
          exact .repeated mono later armed fires.2 series own call token request none continuation
        · exact absurd talks (by rw [show b.canTalk = c.canTalk from rfl, mute]; exact Bool.false_ne_true)
  · exact s.step_stay

private theorem undisturbed_aside {a b : Actor} (same : a.undisturbed b = true) (mono : b.mono = a.mono) :
    Aside a b := by
  unfold Actor.undisturbed at same
  simp only [Bool.and_eq_true, decide_eq_true_eq] at same
  obtain ⟨⟨⟨⟨⟨⟨series, begun⟩, pending⟩, signing⟩, timer⟩, limit⟩, tokens⟩ := same
  refine ⟨?_, tokens⟩
  unfold Actor.requests
  rw [series, begun, pending, signing, timer, limit, mono]

/-- Every move is a step of the requests. -/
theorem step_move (mono : Int) (m : SigningMove) : Signing.Step s.view (answerOf s mono m) (s.move mono m).view := by
  by_cases early : mono < s.actor.mono
  · have stays : s.move mono m = s := if_pos early
    have none : answerOf s mono m = none := by
      unfold answerOf
      split
      · exact if_pos early
      · rfl
    rw [stays, none]
    exact s.step_stay
  · have later := not_lt.mp early
    cases m with
    | request reply => exact s.step_request later reply
    | answer token result => exact s.step_answer later token result
    | certificateSigned valid => exact s.step_certificateSigned later valid
    | timer => exact s.step_timer later
    | linkLost =>
      have moved : s.move mono .linkLost = s.advance ({ s.actor with mono } : Actor).dropLink none [] := if_neg early
      rw [moved]
      exact s.step_aside later (Actor.dropLink_aside _)
    | other b =>
      unfold move
      rw [if_neg early]
      dsimp only
      split
      · rename_i same
        obtain ⟨same, time⟩ := Bool.and_eq_true_iff.mp same
        exact s.step_aside later (undisturbed_aside same (decide_eq_true_eq.mp time))
      · exact s.step_stay

end CertSigning

/-! ## The back-off -/

namespace Signing

open CertSigning

/-- `event` names no series after the `begun`-th, and no time after `mono`. -/
def Early (begun : Nat) (mono : Int) : SigningEvent → Prop
  | .sent key _ time => key ≤ begun ∧ time ≤ mono
  | .answered key _ time => key ≤ begun ∧ time ≤ mono
  | .signed _ n => n ≤ begun

section Events

variable {event : SigningEvent} {log : List SigningEvent} {key begun begun' : Nat} {mono mono' time time' : Int}

private theorem Early.weaken (h : Early begun mono event) (more : begun ≤ begun') (later : mono ≤ mono') :
    Early begun' mono' event := by
  cases event with
  | sent key repeats time => exact ⟨h.1.trans more, h.2.trans later⟩
  | answered key accepted time => exact ⟨h.1.trans more, h.2.trans later⟩
  | signed adopted n => exact le_trans (show n ≤ begun from h) more

/-- An event of an earlier series. -/
theorem Early.before (h : Early begun mono event) (new : begun < key) : Before key time event := by
  cases event with
  | sent key' repeats time' =>
    intro same
    exact absurd (same ▸ h.1) (not_le.mpr new)
  | answered key' accepted time' =>
    intro same
    exact absurd (same ▸ h.1) (not_le.mpr new)
  | signed adopted n => exact lt_of_le_of_lt (show n ≤ begun from h) new

/-- An event that has happened by `time`. -/
theorem Early.before_of_open (h : Early begun mono event) (past : mono ≤ time)
    (still : ∀ adopted n, event = .signed adopted n → n < key) : Before key time event := by
  cases event with
  | sent key' repeats time' => exact fun _ => h.2.trans past
  | answered key' accepted time' => exact fun _ => h.2.trans past
  | signed adopted n => exact still adopted n rfl

private theorem before_mono (h : Before key time event) (later : time ≤ time') : Before key time' event := by
  cases event with
  | sent key' repeats time'' => exact fun same => (h same).trans later
  | answered key' accepted time'' => exact fun same => (h same).trans later
  | signed adopted n => exact h

private theorem sends_sent (repeats : Nat) (key' : Nat) :
    sends (.sent key' repeats time :: log) key = if key' = key then repeats :: sends log key else sends log key := by
  unfold sends
  rw [List.filterMap_cons]
  dsimp only
  split <;> simp_all

/-- A series that has not begun has sent nothing. -/
theorem sends_new (early : ∀ event ∈ log, Early begun mono event) (new : begun < key) : sends log key = [] := by
  unfold sends
  rw [List.filterMap_eq_nil_iff]
  intro event mem
  have known := early event mem
  cases event with
  | sent key' repeats time =>
    refine if_neg fun same => ?_
    exact absurd (same ▸ known.1) (not_le.mpr new)
  | answered key' accepted time => rfl
  | signed adopted n => rfl

end Events

variable {v : Signing} {limit : Nat} {wait : Nat → Nat}

/-- The series in progress. -/
structure Running (v : Signing) (limit : Nat) (series : SignSeries) : Prop where
  own : series.id = series.key
  made : series.key ≤ v.begun
  few : series.repeats ≤ limit
  sends : sends v.log series.key = (List.range (series.repeats + 1)).reverse
  still : ∀ adopted n, .signed adopted n ∈ v.log → n < series.key
  single : ∀ call ∈ v.signing, ∀ call' ∈ v.signing, call.request = .signCertificate series.key →
    call'.request = .signCertificate series.key → call = call'

/-- The series waits for its timer. -/
structure Waiting (v : Signing) (limit : Nat) (wait : Nat → Nat) (series : SignSeries) : Prop where
  armed : v.timer = [.certSigning]
  more : series.repeats < limit
  answered : ∀ call ∈ v.signing, call.request ≠ .signCertificate series.key
  due : ∀ event ∈ v.log, Before series.key (v.due - ofSeconds (wait series.repeats)) event

/-- What holds of the requests in every run. -/
structure Orderly (v : Signing) (limit : Nat) (wait : Nat → Nat) : Prop where
  limited : v.limit = limit
  paused : ∀ repeats < limit, wait repeats ≤ pause v.wait repeats
  tokens : (v.signing.map (·.token)).Nodup
  fresh : ∀ call ∈ v.signing, call.token < v.tokens
  calls : ∀ call ∈ v.signing, ∃ key previous reply,
    call.continuation = .signCertificate key key previous reply ∧ call.request = .signCertificate key ∧ key ≤ v.begun
  series : ∀ series, v.series = some series → Running v limit series
  timer : v.timer = [] ∨ ∃ series, v.series = some series ∧ Waiting v limit wait series
  sends : ∀ key, ∃ count ≤ 1 + limit, sends v.log key = (List.range count).reverse
  follows : v.log.Pairwise (Follows wait)
  early : ∀ event ∈ v.log, Early v.begun v.mono event

private theorem become_due (r : Requests) (tokens : Nat) (events : List SigningEvent) :
    (v.become r tokens none events).due = v.due := by
  unfold become
  simp

/-- The timer is armed after everything else. -/
theorem become_arm (r : Requests) (tokens id : Nat) (events : List SigningEvent) :
    v.become (r.arm id) tokens (some id) events =
      (v.become r tokens none events).become (r.arm id) tokens (some id) [] := by
  unfold become
  simp

/-- The series goes on among fewer requests. -/
theorem Running.of {series : SignSeries} (h : Running v limit series) {w : Signing} (begun : v.begun ≤ w.begun)
    (sent : CertSigning.sends w.log series.key = CertSigning.sends v.log series.key)
    (signed : ∀ adopted n, .signed adopted n ∈ w.log → .signed adopted n ∈ v.log)
    (signing : ∀ call ∈ w.signing, call ∈ v.signing) : Running w limit series where
  own := h.own
  made := h.made.trans begun
  few := h.few
  sends := sent.trans h.sends
  still := fun adopted n mem => h.still adopted n (signed adopted n mem)
  single := fun call mem call' mem' => h.single call (signing call mem) call' (signing call' mem')

/-- What happened to the series in progress has happened by now. -/
theorem Orderly.before (h : Orderly v limit wait) {series : SignSeries} (own : v.series = some series) {time : Int}
    (past : v.mono ≤ time) : ∀ event ∈ v.log, Before series.key time event := by
  intro event mem
  refine (h.early event mem).before_of_open past fun adopted n same => ?_
  exact (h.series series own).still adopted n (same ▸ mem)

/-- A timer that is armed now is due after the wait. -/
theorem Orderly.due_le (h : Orderly v limit wait) {repeats : Nat} (more : repeats < limit) :
    v.mono ≤ v.mono + ofSeconds (pause v.wait repeats) - ofSeconds (wait repeats) := by
  have paused := h.paused repeats more
  unfold ofSeconds
  omega

/-- `arm_cert_signing_retry`, when the series has no request without an answer. -/
theorem Orderly.arm (h : Orderly v limit wait) (id : Nat)
    (free : ∀ series, v.series = some series → series.id = id → ∀ call ∈ v.signing,
      call.request ≠ .signCertificate series.key) :
    Orderly (v.become (v.toRequests.arm id) v.tokens (some id) []) limit wait := by
  rcases v.toRequests.arm_cases id with ⟨same, stale⟩ | ⟨series, own, mine, ⟨reached, stopped⟩ | ⟨more, armed⟩⟩
  · have unchanged : v.become (v.toRequests.arm id) v.tokens (some id) [] = v := by
      rw [same]
      unfold become
      rw [if_neg fun set => stale set.2.2]
      rfl
    rw [unchanged]
    exact h
  · rw [stopped]
    exact { h with series := nofun, timer := .inl rfl }
  · rw [armed]
    have few : series.repeats < limit := h.limited ▸ more
    have running := h.series series own
    have due : (v.become { v.toRequests with timer := [.certSigning] } v.tokens (some id) []).due =
        v.mono + ofSeconds (pause v.wait series.repeats) := by
      unfold become
      simp [own, mine]
    refine { h with series := fun other same => ?_, timer := .inr ⟨series, own, ?_⟩ }
    · exact (h.series other same).of le_rfl rfl (fun _ _ mem => mem) fun _ mem => mem
    · refine ⟨rfl, few, free series own mine, ?_⟩
      rw [due]
      exact h.before own (h.due_le few)

/-- Time passes. -/
theorem Orderly.aside (h : Orderly v limit wait) {mono : Int} (later : v.mono ≤ mono) {tokens : Nat}
    (more : v.tokens ≤ tokens) :
    Orderly (v.become { v.toRequests with mono } tokens none []) limit wait := by
  refine { h with fresh := ?_, series := ?_, timer := ?_, early := ?_ }
  · exact fun call mem => (h.fresh call mem).trans_le more
  · exact fun series own => (h.series series own).of le_rfl rfl (fun _ _ mem => mem) fun _ mem => mem
  · refine h.timer.imp_right fun ⟨series, own, waiting⟩ => ⟨series, own, ?_⟩
    refine ⟨waiting.armed, waiting.more, waiting.answered, ?_⟩
    rw [become_due]
    exact waiting.due
  · exact fun event mem => (h.early event mem).weaken le_rfl later

/-- The requests with one more. -/
theorem Orderly.asked (h : Orderly v limit wait) {call : PendingCall} (token : call.token = v.tokens) {key : Nat}
    (request : call.request = .signCertificate key) {previous : Option Nat} {reply : Option Reply}
    (continuation : call.continuation = .signCertificate key key previous reply)
    (free : ∀ other ∈ v.signing, other.request ≠ .signCertificate key) {begun : Nat} (made : key ≤ begun)
    (more : v.begun ≤ begun) :
    ((v.signing ++ [call]).map (·.token)).Nodup ∧ (∀ other ∈ v.signing ++ [call], other.token < v.tokens + 1) ∧
      (∀ other ∈ v.signing ++ [call], ∃ key previous reply,
        other.continuation = .signCertificate key key previous reply ∧ other.request = .signCertificate key ∧
          key ≤ begun) ∧
      ∀ one ∈ v.signing ++ [call], ∀ other ∈ v.signing ++ [call], one.request = .signCertificate key →
        other.request = .signCertificate key → one = other := by
  have only (other : PendingCall) (mem : other ∈ v.signing ++ [call]) (asks : other.request = .signCertificate key) :
      other = call := by
    rcases List.mem_append.mp mem with old | new
    · exact absurd asks (free other old)
    · exact List.mem_singleton.mp new
  refine ⟨?_, fun other mem => ?_, fun other mem => ?_, fun one mem other mem' asks asks' => ?_⟩
  · rw [List.map_append, List.map_singleton, ← List.concat_eq_append, List.nodup_concat]
    refine ⟨fun twice => ?_, h.tokens⟩
    obtain ⟨other, mem, same⟩ := List.mem_map.mp twice
    exact absurd (same.trans token) (h.fresh other mem).ne
  · rcases List.mem_append.mp mem with old | new
    · exact (h.fresh other old).trans (Nat.lt_succ_self _)
    · rw [List.mem_singleton.mp new, token]
      exact Nat.lt_succ_self _
  · rcases List.mem_append.mp mem with old | new
    · obtain ⟨key, previous, reply, cont, req, known⟩ := h.calls other old
      exact ⟨key, previous, reply, cont, req, known.trans more⟩
    · rw [List.mem_singleton.mp new]
      exact ⟨key, previous, reply, continuation, request, made⟩
  · exact (only one mem asks).trans (only other mem' asks').symm

/-- No request asks for the key of a series that has not begun. -/
theorem Orderly.free_new (h : Orderly v limit wait) :
    ∀ call ∈ v.signing, call.request ≠ .signCertificate (v.begun + 1) := by
  intro call mem asks
  obtain ⟨key, -, -, -, request, known⟩ := h.calls call mem
  cases request.symm.trans asks
  exact absurd known (Nat.not_succ_le_self _)

/-- The log of a series that begins. -/
theorem Orderly.log_begin (h : Orderly v limit wait) {mono : Int} (later : v.mono ≤ mono) :
    let log := SigningEvent.sent (v.begun + 1) 0 mono :: v.log
    CertSigning.sends log (v.begun + 1) = (List.range 1).reverse ∧
      (∀ key, ∃ count ≤ 1 + limit, CertSigning.sends log key = (List.range count).reverse) ∧
      log.Pairwise (Follows wait) ∧ (∀ event ∈ log, Early (v.begun + 1) mono event) ∧
      ∀ adopted n, .signed adopted n ∈ log → n < v.begun + 1 := by
  intro log
  have first : CertSigning.sends log (v.begun + 1) = (List.range 1).reverse := by
    rw [sends_sent, if_pos rfl, sends_new h.early (Nat.lt_succ_self _)]
    rfl
  refine ⟨first, fun key => ?_, ?_, fun event mem => ?_, fun adopted n mem => ?_⟩
  · by_cases new : v.begun + 1 = key
    · exact ⟨1, Nat.le_add_right _ _, new ▸ first⟩
    · rw [sends_sent, if_neg new]
      exact h.sends key
  · exact List.pairwise_cons.mpr
      ⟨fun event mem => (h.early event mem).before (Nat.lt_succ_self _), h.follows⟩
  · rcases List.mem_cons.mp mem with rfl | old
    · exact ⟨le_rfl, le_rfl⟩
    · exact (h.early event old).weaken (Nat.le_succ _) later
  · rcases List.mem_cons.mp mem with same | old
    · cases same
    · exact Nat.lt_succ_of_le (show n ≤ v.begun from h.early _ old)

/-- A request begins with its CALL. -/
theorem Orderly.sent (h : Orderly v limit wait) {mono : Int} (later : v.mono ≤ mono) {call : PendingCall}
    (token : call.token = v.tokens) (request : call.request = .signCertificate (v.begun + 1)) {reply : Option Reply}
    (continuation : call.continuation = .signCertificate (v.begun + 1) (v.begun + 1) v.pending reply) :
    Orderly (v.become { v.begin mono with pending := some (v.begun + 1), signing := v.signing ++ [call] }
      (v.tokens + 1) (some (v.begun + 1)) [.sent (v.begun + 1) 0 mono]) limit wait := by
  obtain ⟨nodup, fresh, calls, single⟩ := h.asked token request continuation h.free_new le_rfl (Nat.le_succ _)
  obtain ⟨first, sends, follows, early, still⟩ := h.log_begin later
  refine { h with tokens := nodup, fresh := fresh, calls := calls, series := ?_, timer := .inl rfl, sends := sends,
                  follows := follows, early := early }
  intro series own
  cases own
  exact ⟨rfl, le_rfl, Nat.zero_le _, first, still, single⟩

/-- A request begins without a link. -/
theorem Orderly.unsent (h : Orderly v limit wait) {mono : Int} (later : v.mono ≤ mono) :
    Orderly (v.become ((v.begin mono).arm (v.begun + 1)) v.tokens (some (v.begun + 1))
      [.answered (v.begun + 1) false mono, .sent (v.begun + 1) 0 mono]) limit wait := by
  rw [become_arm]
  obtain ⟨first, sends, follows, early, still⟩ := h.log_begin later
  have began : Orderly (v.become (v.begin mono) v.tokens none
      [.answered (v.begun + 1) false mono, .sent (v.begun + 1) 0 mono]) limit wait := by
    refine { h with calls := ?_, series := ?_, timer := .inl rfl, sends := sends
                    follows := List.pairwise_cons.mpr ⟨fun _ _ => trivial, follows⟩, early := ?_ }
    · intro call mem
      obtain ⟨key, previous, reply, cont, req, known⟩ := h.calls call mem
      exact ⟨key, previous, reply, cont, req, known.trans (Nat.le_succ _)⟩
    · intro series own
      cases own
      refine ⟨rfl, le_rfl, Nat.zero_le _, first, fun adopted n mem => ?_, fun call mem _ _ asks => ?_⟩
      · rcases List.mem_cons.mp mem with same | old
        · cases same
        · exact still adopted n old
      · exact absurd asks (h.free_new call mem)
    · intro event mem
      rcases List.mem_cons.mp mem with rfl | old
      · exact ⟨le_rfl, le_rfl⟩
      · exact early event old
  refine began.arm _ fun series own _ call mem => ?_
  cases own
  exact h.free_new call mem

/-- The CALL of a request ends. -/
theorem Orderly.answered (h : Orderly v limit wait) {mono : Int} (later : v.mono ≤ mono) {call : PendingCall}
    (asked : call ∈ v.signing) (accepted : Bool) {series key : Nat} {previous : Option Nat} {reply : Option Reply}
    (continuation : call.continuation = .signCertificate series key previous reply) :
    Orderly (v.become (Requests.answer
        { v.toRequests with signing := v.signing.filter fun other => decide (other.token ≠ call.token), mono }
        series key previous accepted)
      v.tokens (some series) [.answered key accepted mono]) limit wait := by
  let signing := v.signing.filter fun other => decide (other.token ≠ call.token)
  have fewer (other : PendingCall) (mem : other ∈ signing) : other ∈ v.signing ∧ other.token ≠ call.token := by
    obtain ⟨mem, other⟩ := List.mem_filter.mp mem
    exact ⟨mem, decide_eq_true_eq.mp other⟩
  obtain ⟨own, _, _, cont, request, known⟩ := h.calls call asked
  have same := cont.symm.trans continuation
  obtain ⟨pending, restored⟩ : ∃ pending,
      (if accepted then ({ v.toRequests with signing, mono } : Requests)
        else Requests.restore { v.toRequests with signing, mono } key previous) =
        { v.toRequests with signing, pending, mono } := by
    split
    · exact ⟨v.pending, rfl⟩
    · exact ⟨_, Requests.restore_eq _ _ _⟩
  have answers : Requests.answer { v.toRequests with signing, mono } series key previous accepted =
      ({ v.toRequests with signing, pending, mono } : Requests).arm series := by
    unfold Requests.answer
    rw [restored]
  rw [answers, become_arm]
  have removed : Orderly (v.become { v.toRequests with signing, pending, mono } v.tokens none
      [.answered key accepted mono]) limit wait := by
    refine { h with tokens := ?_, fresh := ?_, calls := ?_, series := ?_, timer := ?_, follows := ?_, early := ?_ }
    · exact h.tokens.sublist (List.filter_sublist.map _)
    · exact fun other mem => h.fresh other (fewer other mem).1
    · exact fun other mem => h.calls other (fewer other mem).1
    · refine fun running own => (h.series running own).of le_rfl rfl (fun adopted n mem => ?_) fun other mem => ?_
      · rcases List.mem_cons.mp mem with same | old
        · cases same
        · exact old
      · exact (fewer other mem).1
    · refine h.timer.imp_right fun ⟨running, owns, waiting⟩ => ⟨running, owns, ?_⟩
      refine ⟨waiting.armed, waiting.more, fun other mem => waiting.answered other (fewer other mem).1, ?_⟩
      rw [become_due]
      intro event mem
      rcases List.mem_cons.mp mem with rfl | old
      · -- the series that waits has no request
        intro mine
        cases same
        exact absurd (mine ▸ request) (waiting.answered call asked)
      · exact waiting.due event old
    · exact List.pairwise_cons.mpr ⟨fun _ _ => trivial, h.follows⟩
    · intro event mem
      rcases List.mem_cons.mp mem with rfl | old
      · cases same
        exact ⟨known, le_rfl⟩
      · exact (h.early event old).weaken le_rfl later
  refine removed.arm series fun running owns mine other mem asks => ?_
  have begun := h.series running owns
  cases same
  have both := begun.single other (fewer other mem).1 call asked asks (by rw [request, ← mine, begun.own])
  exact (fewer other mem).2 (congrArg PendingCall.token both)

/-- A certificate ends the series. -/
theorem Orderly.signed (h : Orderly v limit wait) {mono : Int} (later : v.mono ≤ mono) {tokens : Nat}
    (more : v.tokens ≤ tokens) (adopted pending : Option Nat) :
    Orderly (v.become { v.toRequests with series := none, timer := [], pending, mono } tokens none
      [.signed adopted v.begun]) limit wait := by
  refine { h with fresh := ?_, series := nofun, timer := .inl rfl, follows := ?_, early := ?_ }
  · exact fun call mem => (h.fresh call mem).trans_le more
  · exact List.pairwise_cons.mpr ⟨fun _ _ => trivial, h.follows⟩
  · intro event mem
    rcases List.mem_cons.mp mem with rfl | old
    · exact le_rfl
    · exact (h.early event old).weaken le_rfl later

/-- A timer that is armed belongs to the series in progress. -/
theorem Orderly.waiting (h : Orderly v limit wait) (armed : v.timer ≠ []) {series : SignSeries}
    (own : v.series = some series) : Waiting v limit wait series := by
  rcases h.timer with idle | ⟨running, owns, waiting⟩
  · exact absurd idle armed
  · cases owns.symm.trans own
    exact waiting

/-- A repetition waits for a link. -/
theorem Orderly.deferred (h : Orderly v limit wait) {mono : Int} (later : v.mono ≤ mono) (armed : v.timer ≠ [])
    {series : SignSeries} (own : v.series = some series) :
    Orderly (v.become { v.toRequests with timer := [.certSigning], mono } v.tokens (some series.id) []) limit wait := by
  have waiting := h.waiting armed own
  have passed := h.aside later le_rfl
  have due : (v.become { v.toRequests with timer := [.certSigning], mono } v.tokens (some series.id) []).due =
      mono + ofSeconds (pause v.wait series.repeats) := by
    unfold become
    simp [own]
  refine { passed with series := fun running owns => ?_, timer := .inr ⟨series, own, ?_⟩ }
  · exact (h.series running owns).of le_rfl rfl (fun _ _ mem => mem) fun _ mem => mem
  · refine ⟨rfl, waiting.more, waiting.answered, ?_⟩
    rw [due]
    exact h.before own (later.trans (passed.due_le waiting.more))

/-- A request is repeated when its timer is due. -/
theorem Orderly.repeated (h : Orderly v limit wait) {mono : Int} (later : v.mono ≤ mono) (armed : v.timer ≠ [])
    (due : v.due ≤ mono) {series : SignSeries} (own : v.series = some series) {call : PendingCall}
    (token : call.token = v.tokens) (request : call.request = .signCertificate series.key) {reply : Option Reply}
    (continuation : call.continuation = .signCertificate series.id series.key v.pending reply) :
    Orderly (v.become
      { v.toRequests with
        series := some { series with repeats := series.repeats + 1 }, pending := some series.key
        signing := v.signing ++ [call], timer := [], mono }
      (v.tokens + 1) (some series.id) [.sent series.key (series.repeats + 1) mono]) limit wait := by
  have waiting := h.waiting armed own
  have running := h.series series own
  rw [running.own] at continuation
  obtain ⟨nodup, fresh, calls, single⟩ := h.asked token request continuation waiting.answered running.made le_rfl
  have sent : CertSigning.sends (.sent series.key (series.repeats + 1) mono :: v.log) series.key =
      (List.range (series.repeats + 1 + 1)).reverse := by
    rw [sends_sent, if_pos rfl, running.sends, List.range_succ (n := series.repeats + 1), List.reverse_append]
    rfl
  refine { h with tokens := nodup, fresh := fresh, calls := calls, series := ?_, timer := .inl rfl, sends := ?_,
                  follows := ?_, early := ?_ }
  · intro again owns
    cases owns
    refine ⟨running.own, running.made, waiting.more, sent, fun adopted n mem => ?_, single⟩
    rcases List.mem_cons.mp mem with same | old
    · cases same
    · exact running.still adopted n old
  · intro key
    by_cases mine : series.key = key
    · exact ⟨series.repeats + 1 + 1, by have := waiting.more; omega, mine ▸ sent⟩
    · have same : CertSigning.sends (.sent series.key (series.repeats + 1) mono :: v.log) key =
          CertSigning.sends v.log key := (sends_sent _ _).trans (if_neg mine)
      obtain ⟨count, few, old⟩ := h.sends key
      exact ⟨count, few, same.trans old⟩
  · refine List.pairwise_cons.mpr ⟨fun event mem => ?_, h.follows⟩
    exact before_mono (waiting.due event mem) (Int.sub_le_sub_right due _)
  · intro event mem
    rcases List.mem_cons.mp mem with rfl | old
    · exact ⟨running.made, le_rfl⟩
    · exact (h.early event old).weaken le_rfl later

/-- The back-off holds in every run. -/
theorem Orderly.step (h : Orderly v limit wait) {answer : Option (PendingCall × Bool)} {w : Signing}
    (step : Step v answer w) : Orderly w limit wait := by
  cases step with
  | aside mono later tokens more => exact h.aside later more
  | sent mono later call token request reply continuation => exact h.sent later token request continuation
  | unsent mono later => exact h.unsent later
  | answered mono later call asked accepted series key previous reply continuation =>
    exact h.answered later asked accepted continuation
  | signed mono later tokens more adopted own => exact h.signed later more adopted _
  | lapsed mono armed idle w =>
    rcases h.timer with disarmed | ⟨series, own, -⟩
    · exact absurd disarmed armed
    · cases idle.symm.trans own
  | deferred mono later armed series own => exact h.deferred later armed own
  | repeated mono later armed due series own call token request reply continuation =>
    exact h.repeated later armed due own token request continuation

/-! ## The pending key -/

section Grounded

variable {log : List SigningEvent} {calls : List PendingCall} {key key' : Nat}

private theorem grounded_of_mem {call : PendingCall} (mem : call ∈ calls)
    (request : call.request = .signCertificate key) :
    grounded log calls key = true := by
  unfold grounded
  rw [Bool.or_eq_true]
  exact .inl (List.any_eq_true.mpr ⟨call, mem, decide_eq_true request⟩)

private theorem grounded_sent (repeats : Nat) (time : Int) :
    grounded (.sent key' repeats time :: log) calls key = grounded log calls key := by
  unfold grounded acceptedIn endedIn
  rw [List.any_cons, List.any_cons, Bool.false_or, Bool.false_or]

private theorem grounded_refused (time : Int) :
    grounded (.answered key' false time :: log) calls key = grounded log calls key := by
  unfold grounded acceptedIn endedIn
  simp

private theorem grounded_signed (n : Nat) : grounded (.signed none n :: log) calls key = grounded log calls key := by
  unfold grounded acceptedIn endedIn
  rw [List.any_cons, List.any_cons, Bool.false_or]
  simp

private theorem grounded_accepted (time : Int) (still : endedIn log key = false) :
    grounded (.answered key true time :: log) calls key = true := by
  have ended : endedIn (.answered key true time :: log) key = false := still
  unfold grounded
  rw [ended]
  simp [acceptedIn]

/-- An accepted request takes no ground away. -/
theorem grounded_of_accepted {accepted : Bool} {time : Int} (h : grounded log calls key = true) :
    grounded (.answered key' accepted time :: log) calls key = true := by
  have ended : endedIn (.answered key' accepted time :: log) key = endedIn log key := rfl
  have more : acceptedIn log key = true → acceptedIn (.answered key' accepted time :: log) key = true := by
    intro old
    unfold acceptedIn at old ⊢
    rw [List.any_cons, old, Bool.or_true]
  unfold grounded at h ⊢
  rw [ended]
  rw [Bool.or_eq_true, Bool.and_eq_true] at h ⊢
  exact h.imp_right fun old => ⟨more old.1, old.2⟩

end Grounded

/-- The request of the pending key fails, and puts back a key that nothing else asks for any more. -/
def refuses (v : Signing) : Option (PendingCall × Bool) → Bool
  | some (call, false) =>
    match call.continuation with
    | .signCertificate _ key (some previous) _ =>
      decide (v.pending = some key) &&
        !grounded v.log (v.signing.filter fun other => decide (other.token ≠ call.token)) previous
    | _ => false
  | _ => false

/-- No accepted `CertificateSigned` has ended a request for a key after the `floor`-th, and no earlier key comes
back. -/
structure Floored (v : Signing) (floor : Nat) : Prop where
  begun : floor ≤ v.begun
  ended : ∀ key, endedIn v.log key = true → key ≤ floor
  pending : ∀ key, v.pending = some key → floor < key ∧ key ≤ v.begun
  series : ∀ series, v.series = some series → floor < series.key
  calls : ∀ call ∈ v.signing, ∀ series key previous reply,
    call.continuation = .signCertificate series key (some previous) reply → floor < key →
      floor < previous ∧ previous ≤ v.begun

/-- The pending key is asked for. -/
def Justified (v : Signing) : Prop := ∀ key, v.pending = some key → grounded v.log v.signing key = true

variable {floor : Nat}

/-- What a new request displaces comes after the floor. -/
theorem Floored.calls_append (h : Floored v floor) {call : PendingCall} {series key begun : Nat} {reply : Option Reply}
    (continuation : call.continuation = .signCertificate series key v.pending reply) (more : v.begun ≤ begun) :
    ∀ other ∈ v.signing ++ [call], ∀ series key previous reply,
      other.continuation = .signCertificate series key (some previous) reply → floor < key →
        floor < previous ∧ previous ≤ begun := by
  intro other mem series' key' previous reply' cont after
  rcases List.mem_append.mp mem with old | new
  · obtain ⟨past, known⟩ := h.calls other old series' key' previous reply' cont after
    exact ⟨past, known.trans more⟩
  · rw [List.mem_singleton.mp new] at cont
    have displaced : v.pending = some previous := by
      have same := continuation.symm.trans cont
      injection same
    obtain ⟨past, known⟩ := h.pending previous displaced
    exact ⟨past, known.trans more⟩

/-- What has ended stays below a floor that only rises. -/
theorem Floored.step (h : Floored v floor) (orderly : Orderly v limit wait) {answer : Option (PendingCall × Bool)}
    {w : Signing} (step : Step v answer w) : ∃ floor, Floored w floor := by
  cases step with
  | aside mono later tokens more => exact ⟨floor, h.begun, h.ended, h.pending, h.series, h.calls⟩
  | deferred mono later armed series own => exact ⟨floor, h.begun, h.ended, h.pending, h.series, h.calls⟩
  | lapsed mono armed idle w =>
    rcases orderly.timer with disarmed | ⟨series, own, -⟩
    · exact absurd disarmed armed
    · cases idle.symm.trans own
  | sent mono later call token request reply continuation =>
    refine ⟨floor, h.begun.trans (Nat.le_succ _), h.ended, ?_, ?_, h.calls_append continuation (Nat.le_succ _)⟩
    · intro key own
      cases own
      exact ⟨Nat.lt_succ_of_le h.begun, le_rfl⟩
    · intro series own
      cases own
      exact Nat.lt_succ_of_le h.begun
  | unsent mono later =>
    obtain ⟨pending, signing, begun, series⟩ := (v.begin mono).arm_keeps (v.begun + 1)
    refine ⟨floor, ?_, h.ended, fun key own => ?_, fun running own => ?_, fun call mem => ?_⟩
    · exact (h.begun.trans (Nat.le_succ _)).trans begun.ge
    · obtain ⟨past, known⟩ := h.pending key (pending.symm.trans own)
      exact ⟨past, (known.trans (Nat.le_succ _)).trans begun.ge⟩
    · cases series running own
      exact Nat.lt_succ_of_le h.begun
    · intro series key previous reply cont after
      obtain ⟨past, known⟩ := h.calls call (signing ▸ mem) series key previous reply cont after
      exact ⟨past, (known.trans (Nat.le_succ _)).trans begun.ge⟩
  | answered mono later call asked accepted series key previous reply continuation =>
    let r : Requests :=
      { v.toRequests with signing := v.signing.filter fun other => decide (other.token ≠ call.token), mono }
    obtain ⟨pending, signing, begun, kept⟩ := r.answer_keeps series key previous accepted
    refine ⟨floor, h.begun.trans begun.ge, h.ended, fun key' own => ?_, fun running own => ?_, fun other mem => ?_⟩
    · change (r.answer series key previous accepted).pending = some key' at own
      rw [pending] at own
      change floor < key' ∧ key' ≤ (r.answer series key previous accepted).begun
      rw [begun]
      split at own
      · rename_i failed
        rw [own] at continuation
        exact h.calls call asked series key key' reply continuation (h.pending key failed.2).1
      · exact h.pending key' own
    · exact h.series running (kept running own)
    · intro series' key' previous' reply' cont after
      obtain ⟨past, known⟩ :=
        h.calls other (List.mem_filter.mp (signing ▸ mem)).1 series' key' previous' reply' cont after
      exact ⟨past, known.trans begun.ge⟩
  | signed mono later tokens more adopted own =>
    cases adopted with
    | none => exact ⟨floor, h.begun, h.ended, h.pending, nofun, h.calls⟩
    | some key =>
      -- everything that was asked for lies below the new floor
      refine ⟨v.begun, le_rfl, fun key' ended => ?_, nofun, nofun, fun call mem => ?_⟩
      · change endedIn (.signed (some key) v.begun :: v.log) key' = true at ended
        unfold endedIn at ended
        rw [List.any_cons, Bool.or_eq_true, decide_eq_true_eq] at ended
        rcases ended with same | old
        · exact (h.pending key' ((own rfl).symm.trans same)).2
        · exact (h.ended key' old).trans h.begun
      · intro series key' previous reply cont after
        obtain ⟨_, _, _, cont', _, known⟩ := orderly.calls call mem
        cases cont'.symm.trans cont
        exact absurd after (not_lt.mpr known)
  | repeated mono later armed due series own call token request reply continuation =>
    refine ⟨floor, h.begun, h.ended, ?_, ?_, h.calls_append continuation le_rfl⟩
    · intro key same
      cases same
      exact ⟨h.series series own, (orderly.series series own).made⟩
    · intro again same
      cases same
      exact h.series series own

/-- What asks for another key than an answered request still asks for it. -/
theorem grounded_removed (h : Orderly v limit wait) {call : PendingCall} (asked : call ∈ v.signing)
    {series key : Nat} {previous : Option Nat} {reply : Option Reply}
    (continuation : call.continuation = .signCertificate series key previous reply) {other : Nat} (differs : other ≠ key)
    (ground : grounded v.log v.signing other = true) :
    grounded v.log (v.signing.filter fun other => decide (other.token ≠ call.token)) other = true := by
  unfold grounded at ground ⊢
  rw [Bool.or_eq_true] at ground ⊢
  refine ground.imp_left fun asks => ?_
  obtain ⟨one, mem, request⟩ := List.any_eq_true.mp asks
  rw [decide_eq_true_eq] at request
  obtain ⟨own, _, _, cont, request', -⟩ := h.calls call asked
  have same : own = key := by
    have both := cont.symm.trans continuation
    injection both
  have apart : one.token ≠ call.token := by
    intro twice
    have equal := List.inj_on_of_nodup_map h.tokens mem asked twice
    rw [equal, request', same] at request
    injection request with equal
    exact differs equal.symm
  exact List.any_eq_true.mpr ⟨one, List.mem_filter.mpr ⟨mem, decide_eq_true apart⟩, decide_eq_true request⟩

/-- A step keeps the pending key justified exactly if it does not put back a key that is refused. -/
theorem Justified.step (just : Justified v) (h : Orderly v limit wait) (floored : Floored v floor)
    {answer : Option (PendingCall × Bool)} {w : Signing} (step : Step v answer w) :
    Justified w ↔ v.refuses answer = false := by
  cases step with
  | aside mono later tokens more => exact iff_of_true just rfl
  | deferred mono later armed series own => exact iff_of_true just rfl
  | lapsed mono armed idle w =>
    rcases h.timer with disarmed | ⟨series, own, -⟩
    · exact absurd disarmed armed
    · cases idle.symm.trans own
  | sent mono later call token request reply continuation =>
    refine iff_of_true (fun key own => ?_) rfl
    cases own
    exact grounded_of_mem (List.mem_append_right _ (List.mem_singleton_self call)) request
  | repeated mono later armed due series own call token request reply continuation =>
    refine iff_of_true (fun key own => ?_) rfl
    cases own
    exact grounded_of_mem (List.mem_append_right _ (List.mem_singleton_self call)) request
  | unsent mono later =>
    refine iff_of_true (fun key own => ?_) rfl
    obtain ⟨pending, signing, -, -⟩ := (v.begin mono).arm_keeps (v.begun + 1)
    change grounded (.answered (v.begun + 1) false mono :: .sent (v.begun + 1) 0 mono :: v.log)
      ((v.begin mono).arm (v.begun + 1)).signing key = true
    rw [signing, grounded_refused, grounded_sent]
    exact just key (pending.symm.trans own)
  | signed mono later tokens more adopted own =>
    refine iff_of_true (fun key pending => ?_) rfl
    cases adopted with
    | some adopted => cases pending
    | none =>
      change grounded (.signed none v.begun :: v.log) v.signing key = true
      rw [grounded_signed]
      exact just key pending
  | answered mono later call asked accepted series key previous reply continuation =>
    let r : Requests :=
      { v.toRequests with signing := v.signing.filter fun other => decide (other.token ≠ call.token), mono }
    obtain ⟨pending, signing, -, -⟩ := r.answer_keeps series key previous accepted
    have becomes : Justified (v.become (r.answer series key previous accepted) v.tokens (some series)
        [.answered key accepted mono]) ↔
        ∀ other, (if accepted = false ∧ v.pending = some key then previous else v.pending) = some other →
          grounded (.answered key accepted mono :: v.log) r.signing other = true := by
      unfold Justified
      change (∀ other, (r.answer series key previous accepted).pending = some other →
        grounded (.answered key accepted mono :: v.log) (r.answer series key previous accepted).signing other = true) ↔ _
      rw [pending, signing]
    refine becomes.trans ?_
    cases accepted with
    | true =>
      refine iff_of_true (fun other own => ?_) rfl
      have own : v.pending = some other := own
      by_cases same : other = key
      · rw [same]
        refine grounded_accepted mono (Bool.eq_false_iff.mpr fun ended => ?_)
        exact absurd (floored.pending other own).1 (not_lt.mpr (same ▸ floored.ended key ended))
      · exact grounded_of_accepted (grounded_removed h asked continuation same (just other own))
    | false =>
      by_cases mine : v.pending = some key
      · simp only [mine, and_self, if_true, grounded_refused]
        cases previous with
        | none => simp [refuses, continuation]
        | some previous => simp [refuses, continuation, mine, r]
      · have fine : v.refuses (some (call, false)) = false := by
          unfold refuses
          dsimp only
          rw [continuation]
          cases previous with
          | none => rfl
          | some previous => simp [mine]
        refine iff_of_true (fun other own => ?_) fine
        rw [if_neg fun both => mine both.2] at own
        have differs : other ≠ key := fun same => mine (same ▸ own)
        rw [grounded_refused]
        exact grounded_removed h asked continuation differs (just other own)

end Signing

/-! ## The law -/

namespace CertSigning

open Signing

private theorem move_waitMinimum (s : CertSigning) (mono : Int) (m : SigningMove) :
    (s.move mono m).waitMinimum = s.waitMinimum := by
  unfold move
  split
  · rfl
  · cases m <;> dsimp only <;> (try split) <;> rfl

/-- A run goes on where another one ends. -/
theorem run_append (s : CertSigning) (past : List Timed) (m : Timed) : s.run (past ++ [m]) = (s.run past).move m.1 m.2 :=
  List.foldl_append

/-- What holds of every run, the pending key apart. -/
structure Sound (s : CertSigning) (limit : Nat) : Prop where
  orderly : Orderly s.view limit fun repeats => s.waitMinimum * 2 ^ repeats
  floored : ∃ floor, Floored s.view floor

/-- Every move keeps the requests sound. -/
theorem Sound.move {s : CertSigning} {limit : Nat} (h : Sound s limit) (mono : Int) (m : SigningMove) :
    Sound (s.move mono m) limit := by
  have step := s.step_move mono m
  obtain ⟨floor, floored⟩ := h.floored
  refine ⟨?_, floored.step h.orderly step⟩
  rw [move_waitMinimum]
  exact h.orderly.step step

/-- Every run keeps the requests sound. -/
theorem Sound.run {s : CertSigning} {limit : Nat} (h : Sound s limit) (moves : List Timed) : Sound (s.run moves) limit := by
  induction moves generalizing s with
  | nil => exact h
  | cons m moves ih => exact ih (h.move m.1 m.2)

/-- The wait is what the timer wheel and the arithmetic of the source leave of it. -/
theorem le_pause {base repeats : Nat} (within : base * 2 ^ repeats ≤ maxTotalDelay) :
    base * 2 ^ repeats ≤ pause base repeats := by
  have small : maxTotalDelay ≤ Actor.u64Max := by decide
  refine le_min (le_min ?_ (within.trans small)) within
  split
  · exact le_rfl
  · rename_i many
    rcases Nat.eq_zero_or_pos base with rfl | positive
    · simp
    · have large : 2 ^ 64 ≤ 2 ^ repeats := Nat.pow_le_pow_right (by decide) (not_lt.mp many)
      have reached : 2 ^ 64 ≤ base * 2 ^ repeats := large.trans (Nat.le_mul_of_pos_left _ positive)
      exact absurd (reached.trans within) (by decide)

/-- An idle actor begins no request. -/
theorem sound_start {a : Actor} (idle : idle a = true) {waitMinimum : Nat}
    (within : waitMinimum * 2 ^ (a.registry.certSigningRepeatTimes - 1) ≤ maxTotalDelay) :
    Sound (start a waitMinimum) a.registry.certSigningRepeatTimes := by
  unfold CertSigning.idle at idle
  simp only [Bool.and_eq_true, Option.isNone_iff_eq_none, List.isEmpty_iff, decide_eq_true_eq] at idle
  obtain ⟨⟨⟨series, pending⟩, signing⟩, unarmed⟩ := idle
  have series' : (start a waitMinimum).view.series = none := series
  have pending' : (start a waitMinimum).view.pending = none := pending
  have signing' : (start a waitMinimum).view.signing = [] := signing
  have timer : (start a waitMinimum).view.timer = [] := by
    by_contra armed
    exact unarmed ((armed_iff a).mpr armed)
  refine ⟨{ limited := rfl, paused := fun repeats few => ?_, tokens := ?_, fresh := ?_, calls := ?_, series := ?_
            timer := .inl timer, sends := fun key => ⟨0, Nat.zero_le _, rfl⟩, follows := .nil
            early := fun _ mem => absurd mem List.not_mem_nil },
    0, Nat.zero_le _, fun key ended => ?_, ?_, ?_, ?_⟩
  · refine le_pause (le_trans (Nat.mul_le_mul_left _ (Nat.pow_le_pow_right (by decide) ?_)) within)
    exact Nat.le_sub_one_of_lt few
  · rw [signing']
    exact List.nodup_nil
  · rw [signing']
    exact fun _ mem => absurd mem List.not_mem_nil
  · rw [signing']
    exact fun _ mem => absurd mem List.not_mem_nil
  · rw [series']
    exact fun _ own => absurd own.symm (Option.some_ne_none _)
  · have never : endedIn [] key = false := rfl
    cases never.symm.trans ended
  · rw [pending']
    exact fun _ own => absurd own.symm (Option.some_ne_none _)
  · rw [series']
    exact fun _ own => absurd own.symm (Option.some_ne_none _)
  · rw [signing']
    exact fun _ mem => absurd mem List.not_mem_nil

/-- A sound run is disciplined. -/
theorem Sound.disciplined {s : CertSigning} {limit : Nat} (h : Sound s limit) : s.Disciplined limit where
  sends := h.orderly.sends
  follows := h.orderly.follows
  single := by
    have few : s.view.timer.length ≤ 1 := by
      rcases h.orderly.timer with idle | ⟨series, -, waiting⟩
      · rw [idle]
        exact Nat.zero_le _
      · rw [waiting.armed]
        exact le_rfl
    have count : s.actor.timers.count .certSigning = s.view.timer.length := by
      rw [List.count_eq_length_filter]
      rfl
    exact count.trans_le few
  armed := by
    intro armed
    rcases h.orderly.timer with idle | ⟨series, own, -⟩
    · exact absurd idle ((armed_iff _).mp armed)
    · exact Option.isSome_iff_exists.mpr ⟨series, own⟩

private theorem Sound.justified {s : CertSigning} {limit : Nat} (h : Sound s limit) (just : s.Justified) (m : Timed) :
    (s.move m.1 m.2).Justified ↔ s.restoresRefused m.1 m.2 = false := by
  obtain ⟨floor, floored⟩ := h.floored
  exact Signing.Justified.step (v := s.view) just h.orderly floored (s.step_move m.1 m.2)

/-- In every run the back-off of every series holds, and the pending key is asked for in every state exactly if no
request that fails puts back a key that nothing else asks for. -/
theorem signing_lawful {a : Actor} (idle : idle a = true) {waitMinimum : Nat}
    (within : waitMinimum * 2 ^ (a.registry.certSigningRepeatTimes - 1) ≤ maxTotalDelay) (moves : List Timed) :
    (∀ past ahead, moves = past ++ ahead →
      ((start a waitMinimum).run past).Lawful a.registry.certSigningRepeatTimes) ↔
    ∀ past m ahead, moves = past ++ m :: ahead → ((start a waitMinimum).run past).restoresRefused m.1 m.2 = false := by
  have sound (past : List Timed) := (sound_start idle within).run past
  constructor
  · intro lawful past m ahead split
    have before := (lawful past (m :: ahead) split).1
    have after := (lawful (past ++ [m]) ahead (by rw [split, List.append_assoc]; rfl)).1
    rw [run_append] at after
    exact ((sound past).justified before m).mp after
  · intro fine past ahead split
    refine ⟨?_, (sound past).disciplined⟩
    induction past using List.reverseRecOn generalizing ahead with
    | nil =>
      intro key own
      have none : a.pendingKey = none := by
        unfold CertSigning.idle at idle
        simp only [Bool.and_eq_true, Option.isNone_iff_eq_none] at idle
        exact idle.1.1.2
      cases none.symm.trans own
    | append_singleton past m ih =>
      have split' : moves = past ++ m :: ahead := by rw [split, List.append_assoc]; rfl
      rw [run_append]
      exact ((sound past).justified (ih (m :: ahead) split') m).mpr (fine past m ahead split')

/-- A station that the Central System has accepted. -/
def acceptedStation : Actor :=
  (Actor.start { connectorCount := 1 } {} 1000000000000 0 none).replay 1000000000000 0
    [.command .connect 0, .connected 1 true none, .callDone 0 1 (.ok (.boot .accepted 0 0))]

/-- Two requests, whose keys are 1 and 2, and the Central System refuses both. -/
def refusedTwice : List Timed :=
  [(0, .request none), (0, .request none), (0, .answer 4 (.ok (.signCertificate false))),
    (0, .answer 5 (.ok (.signCertificate false)))]

/-- A request is refused, and the station asks for another key, which the Central System grants. -/
def refusedThenGranted : List Timed :=
  [(0, .request none), (0, .answer 4 (.ok (.signCertificate false))), (0, .request none),
    (0, .answer 5 (.ok (.signCertificate true)))]

/-- The key that is pending at the end is the one that was granted. -/
theorem signing_lawful_granted :
    (∀ past ahead, refusedThenGranted = past ++ ahead → ((start acceptedStation 20).run past).Lawful 5) ∧
      ((start acceptedStation 20).run refusedThenGranted).actor.pendingKey = some 2 := by
  have within : 20 * 2 ^ (acceptedStation.registry.certSigningRepeatTimes - 1) ≤ maxTotalDelay := by decide +kernel
  refine ⟨(signing_lawful (by decide +kernel) within refusedThenGranted).mpr ?_, by decide +kernel⟩
  have fine : ∀ n (below : n < refusedThenGranted.length), ((start acceptedStation 20).run
      (refusedThenGranted.take n)).restoresRefused refusedThenGranted[n].1 refusedThenGranted[n].2 = false := by
    decide +kernel
  intro past m ahead split
  have taken : refusedThenGranted.take past.length = past := by rw [split, List.take_left]
  have below : past.length < refusedThenGranted.length := by simp [split]
  have here : refusedThenGranted[past.length] = m := by simp [split]
  have quiet := fine past.length below
  rwa [taken, here] at quiet

/-- The first key is pending after the Central System has refused the requests for both keys. -/
theorem refused_key_restored :
    ¬∀ (a : Actor) (waitMinimum : Nat) (moves : List Timed), idle a = true →
      waitMinimum * 2 ^ (a.registry.certSigningRepeatTimes - 1) ≤ maxTotalDelay →
        ((start a waitMinimum).run moves).Lawful a.registry.certSigningRepeatTimes := by
  intro claimed
  have lawful := claimed acceptedStation 20 refusedTwice (by decide +kernel) (by decide +kernel)
  have pending : ((start acceptedStation 20).run refusedTwice).actor.pendingKey = some 1 := by decide +kernel
  have refused : grounded ((start acceptedStation 20).run refusedTwice).log
      ((start acceptedStation 20).run refusedTwice).actor.signing 1 = false := by decide +kernel
  exact Bool.false_ne_true (refused.symm.trans (lawful.1 1 pending))

end CertSigning

end KirbyOcpp
