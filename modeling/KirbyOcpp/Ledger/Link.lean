import KirbyOcpp.Ledger.Transactions

/-!
# Results of CALLs and the link as paths

The completion of a CALL puts its outcome into the hand and runs the continuation. A continuation that
fails needs no permission: a lost link only ever takes transitions that every `Allow` has.
-/

namespace KirbyOcpp

open Paths Relation

namespace Actor

variable {allow : Allow} {rest : List PendingCall}

/-! ## Boot, heartbeat, certificates -/

private theorem armBootRetry_quiet (a : Actor) (p : Bool) :
    Quiet a (if p = true then a.setTimer .bootRetry else a) := by
  split
  · exact a.setTimer_quiet _
  · exact .refl

private theorem onBootResult_error_quiet (error : CallError) (reply : Option Reply) (a : Actor) :
    Quiet a (onBootResult (.error error) reply a) :=
  (a.armBootRetry_quiet _).trans (replyIf_quiet _ _ _)

private theorem onBootDone_error_quiet (generation : Nat) (reply : Option Reply) (error : CallError) (a : Actor) :
    Quiet a (onBootDone generation reply (.error error) a) := by
  unfold onBootDone
  dsimp only
  split
  · exact (onBootResult_error_quiet _ _ _).behind fun _ _ => rfl
  · exact onBootResult_error_quiet _ _ _

/-- A boot is sent. -/
theorem sendBoot_quiet (a : Actor) (reply : Option Reply) : Quiet a (a.sendBoot reply) := by
  unfold sendBoot
  split
  · exact .refl
  · exact (call_quiet _ _ _ _ _ rfl (.inr rfl) fun _ => onBootDone_error_quiet _ _ _ _).behind fun _ _ => rfl

/-- A CALL of the user ended. -/
theorem onUserCallResult_quiet (reply : Option Reply) (result : Except CallError Unit) (a : Actor) :
    Quiet a (onUserCallResult reply result a) := by
  cases result with
  | ok _ => exact a.replyIf_quiet _ _
  | error _ => exact a.replyIf_quiet _ _

/-- A heartbeat is sent. -/
theorem sendHeartbeat_quiet (a : Actor) (origin : Origin) (reply : Option Reply) :
    Quiet a (a.sendHeartbeat origin reply) :=
  a.call_quiet _ _ _ _ rfl (.inl rfl) fun _ => onUserCallResult_quiet _ _ _

/-- A heartbeat is sent when its timer fires. -/
theorem onHeartbeatTimer_quiet (a : Actor) : Quiet a a.onHeartbeatTimer := by
  unfold onHeartbeatTimer
  split
  · exact .refl
  · exact (a.setTimer_quiet _).trans (sendHeartbeat_quiet _ _ _)

private theorem restorePendingKey_quiet (a : Actor) (key : Nat) (previous : Option Nat) :
    Quiet a (a.restorePendingKey key previous) := by
  unfold restorePendingKey
  split
  · exact (markSecretsDirty_quiet _).behind fun _ _ => rfl
  · exact .refl

private theorem armCertSigningRetry_quiet (a : Actor) (id : Nat) : Quiet a (a.armCertSigningRetry id) := by
  unfold armCertSigningRetry
  split
  · exact .refl
  · split
    · exact .of_ledger fun _ _ => rfl
    · exact a.setTimer_quiet _

private theorem onSignResult_quiet (series key : Nat) (previous : Option Nat) (reply : Option Reply)
    (result : Except CallError Bool) (a : Actor) :
    Quiet a (onSignResult series key previous reply result a) := by
  cases result with
  | ok accepted =>
    refine .trans ?_ ((armCertSigningRetry_quiet _ _).trans (replyIf_quiet _ _ _))
    split
    · exact .refl
    · exact a.restorePendingKey_quiet _ _
  | error _ =>
    exact ((a.restorePendingKey_quiet _ _).trans (armCertSigningRetry_quiet _ _)).trans
      (replyIf_quiet _ _ _)

private theorem sendSignCertificate_quiet (a : Actor) (id : Nat) (reply : Option Reply) :
    Quiet a (a.sendSignCertificate id reply) := by
  unfold sendSignCertificate
  split
  · exact a.replyIf_quiet _ _
  · rename_i series _
    have marked : Quiet a ({ a with pendingKey := some series.key } : Actor).markSecretsDirty :=
      (markSecretsDirty_quiet _).behind fun _ _ => rfl
    exact marked.trans (call_quiet _ _ _ _ _ rfl (.inl rfl) fun _ => onSignResult_quiet _ _ _ _ _ _)

/-- A certificate is asked for. -/
theorem requestCertificate_quiet (a : Actor) (key : Nat) (reply : Option Reply) :
    Quiet a (a.requestCertificate key reply) := by
  unfold requestCertificate
  split
  · exact a.replyIf_quiet _ _
  · exact (sendSignCertificate_quiet _ _ _).behind fun _ _ => rfl

/-- A certificate is asked for again. -/
theorem onCertSigningTimer_quiet (a : Actor) : Quiet a a.onCertSigningTimer := by
  unfold onCertSigningTimer
  split
  · exact .refl
  · split
    · exact a.setTimer_quiet _
    · exact (sendSignCertificate_quiet _ _ _).behind fun _ _ => rfl

/-- An accepted boot: the sync that follows it begins, or there is nothing to sync. -/
theorem onBootAccepted_path (a : Actor) (response : BootNotificationResponse)
    (registered : a.registration = some .accepted)
    (free : allow.forgetBoot = true ∨ a.syncOutstanding = 0 ∨ a.syncBoot = true) :
    Path allow (a.ledger rest .boot) ((a.onBootAccepted response).ledger rest .none) := by
  unfold onBootAccepted afterBootAccepted
  dsimp only
  generalize hready : ({ Actor.markDirty _ with resetRetries := none } : Actor) = ready
  have same (hand : Hand) : ready.ledger rest hand = { a.ledger rest hand with unsaved := true } := by
    rw [← hready]
    refine (markDirty_ledger _ rest hand).trans ?_
    split <;> rfl
  have outstanding : ready.syncOutstanding = a.syncOutstanding :=
    congrArg Ledger.syncOutstanding (same .none)
  have boot : ready.syncBoot = a.syncBoot := congrArg Ledger.syncBoot (same .none)
  have registration : ready.registration = a.registration := congrArg Ledger.registration (same .none)
  refine .head (.quiet (.touch _)) ?_
  rw [← same]
  refine (startOfflineSync_boot_path ready (outstanding ▸ boot ▸ free)).trans ?_
  split
  · rename_i none
    refine finishBootAccepted_path _ ?_
    unfold startOfflineSync at none ⊢
    split at none
    · exact absurd none (by omega)
    · rename_i idle
      rw [if_neg idle]
      dsimp only at none ⊢
      split
      · exact registration.trans registered
      · rename_i some
        rw [if_neg some] at none
        simp at some none
        exact absurd none some
  · exact .refl

/-- The continuation of a `BootNotification` that was answered. -/
theorem onBootDone_ok_path (generation : Nat) (reply : Option Reply)
    (response : BootNotificationResponse) (a : Actor)
    (lowers : response.status ≠ .accepted → allow.lowers = true)
    (free : response.status = .accepted →
      allow.forgetBoot = true ∨ a.syncOutstanding = 0 ∨ a.syncBoot = true) :
    Path allow (a.ledger rest (if response.status = .accepted then .booted else .none))
      ((onBootDone generation reply (.ok response) a).ledger rest .none) := by
  unfold onBootDone
  dsimp only
  generalize hb : (if a.link.generation = generation then
    { a with link := { a.link with bootInFlight := false } } else a) = b
  have same (hand : Hand) : b.ledger rest hand = a.ledger rest hand := by
    rw [← hb]
    split <;> rfl
  have outstanding : b.syncOutstanding = a.syncOutstanding := congrArg Ledger.syncOutstanding (same .none)
  have boot : b.syncBoot = a.syncBoot := congrArg Ledger.syncBoot (same .none)
  rw [← same]
  unfold onBootResult
  dsimp only
  refine .trans ?_ ((replyIf_quiet _ _ _).path rest .none)
  cases status : response.status with
  | accepted =>
    rw [if_pos rfl]
    refine .head (.acceptBoot (b.ledger rest .booted) rfl) ?_
    exact onBootAccepted_path (({ b with registration := some .accepted } : Actor).record .bootAccepted)
      response rfl (outstanding ▸ boot ▸ free status)
  | pending =>
    have registered : Trans allow (b.ledger rest .none) _ :=
      .register (b.ledger rest .none) (some .pending) (by simp) (lowers (by simp [status]))
    rw [if_neg (by simp)]
    refine .head registered ?_
    dsimp only
    exact ((armBootRetry_quiet _ _).behind (a := { b with registration := some .pending }) (by intros; rfl)).path rest .none
  | rejected =>
    have registered : Trans allow (b.ledger rest .none) _ :=
      .register (b.ledger rest .none) (some .rejected) (by simp) (lowers (by simp [status]))
    rw [if_neg (by simp)]
    refine .head registered ?_
    dsimp only
    exact ((armBootRetry_quiet _ _).behind (a := { b with registration := some .rejected }) (by intros; rfl)).path rest .none

/-! ## Completion -/

/-- The completion of a CALL: what the permissions ask for. -/
def MayComplete (allow : Allow) (a : Actor) (continuation : Cont) (result : CallResult) : Prop :=
  match continuation with
  | .startResult id localId pending _ => ∀ response, decodeStart result = .ok response →
      a.takesOver id localId (applyOnlineIdTagInfo pending.idTag response.idTagInfo a.now a.authCache
        a.registry).2.accepted = true → MayTakeOver allow a id response.transactionId
  | .stopResult id tx _ _ _ _ _ => Ends allow a.findConnector id tx ∧
      (decodeAny result = .ok () → allow.leave = true ∨ ¬delivered a.queue id tx)
  | .syncStart key => ∀ response e, decodeStart result = .ok response →
      OfflineQueue.get a.queue key = some e → MayDeliver allow a e response
  | .authorize idTag (.remoteStart id tag _) => ∀ info, decodeAuthorize result = .ok info →
      MayRemoteStart allow (a.cached idTag info) id tag (a.answered idTag info)
  | .meterValues id _ => id ∈ a.limited → allow.stops id = true
  | .boot _ _ => ∀ response, decodeBoot result = .ok response →
      if response.status = .accepted then
        allow.forgetBoot = true ∨ a.syncOutstanding = 0 ∨ a.syncBoot = true
      else allow.lowers = true
  | _ => True

/-- A CALL that failed asks for little. -/
theorem mayComplete_error (a : Actor) (continuation : Cont) (error : CallError) (early : allow.early = true)
    (stops : allow.StopsLimited a.limited) : MayComplete allow a continuation (.error error) := by
  unfold MayComplete
  split
  · intro _ h
    cases h
  · exact ⟨.inl early, nofun⟩
  · intro _ _ h
    cases h
  · intro _ h
    cases h
  · intro limited
    rcases stops with all | ⟨-, stops⟩
    · exact all _
    · exact stops _ limited
  · intro _ h
    cases h
  · trivial

/-- That the CALL is taken does not matter to its completion. -/
theorem MayComplete.taken {a : Actor} {continuation : Cont} {result : CallResult}
    (may : MayComplete allow a continuation result) (calls : List PendingCall) (history : List Event) :
    MayComplete allow { a with calls, history } continuation result := by
  cases continuation with
  | authorize _ done => cases done <;> exact may
  | syncStart _ =>
    intro response e decoded found
    have may := may response e decoded found
    unfold MayDeliver at may ⊢
    split
    · rename_i refused
      rw [if_pos (by exact refused)] at may
      exact ⟨may.ends, may.unmasked⟩
    · rename_i kept
      rw [if_neg (by exact kept)] at may
      exact ⟨may.starts, may.unused, may.unshared⟩
  | startResult =>
    intro response decoded takes
    have may := may response decoded takes
    exact ⟨may.unused, may.plugged, may.starts⟩
  | _ => exact may

/-- A security event that the link lost goes back into the queue. -/
theorem onSecurityEventResult_error_path (a : Actor) (event : PendingSecurityEvent) (error : CallError) :
    Path allow (a.ledger rest (if error.isLinkError then .returned event else .none))
      ((onSecurityEventResult event (.error error) a).ledger rest .none) := by
  unfold onSecurityEventResult
  dsimp only
  split
  · rw [markDirty_ledger]
    exact .single (.requeue (a.ledger rest (.returned event)) event rfl)
  · exact .refl

/-- Every continuation is a path, if what it does is permitted. -/
theorem runCont_path (continuation : Cont) (result : CallResult) (a : Actor)
    (may : MayComplete allow a continuation result) :
    Path allow (a.ledger rest (.ofResult continuation result))
      ((runCont continuation result a).ledger rest .none) := by
  cases continuation with
  | startResult id localId pending done =>
    unfold runCont Hand.ofResult
    dsimp only
    cases decoded : decodeStart result with
    | ok response => exact onStartResult_ok_path id localId pending done response a (may response decoded)
    | error error => exact onStartResult_error_path id localId pending done error a
  | stopResult id tx tag startedAt meterStartWh info done =>
    unfold runCont Hand.ofResult
    dsimp only
    cases decoded : decodeAny result with
    | ok response => exact onStopResult_ok_path id tx tag startedAt meterStartWh info done _ a (may.2 decoded) may.1
    | error error => exact onStopResult_error_path id tx tag startedAt meterStartWh info done error a may.1
  | syncStart key =>
    unfold runCont Hand.ofResult
    dsimp only
    cases decoded : decodeStart result with
    | ok response => exact onSyncStart_ok_path a key response fun e found => may response e decoded found
    | error error => exact onSyncStart_error_path a key error
  | syncStop key info =>
    unfold runCont Hand.ofResult
    dsimp only
    cases decoded : decodeAny result with
    | ok response => exact onSyncStop_ok_path a key info response
    | error error => exact onSyncStop_error_path a key error (.inl rfl)
  | boot generation reply =>
    unfold runCont Hand.ofResult
    dsimp only
    cases decoded : decodeBoot result with
    | ok response =>
      have may := may response decoded
      refine onBootDone_ok_path generation reply response a (fun other => ?_) fun accepted => ?_
      · rwa [if_neg other] at may
      · rwa [if_pos accepted] at may
    | error error => exact (onBootDone_error_quiet _ _ _ _).path rest .none
  | authorize idTag done =>
    refine onAuthorizeResult_path idTag done _ a fun id tag profile info hdone decoded => ?_
    subst hdone
    exact may info decoded
  | meterValues id reply => exact onMeterValuesResult_path id reply _ a may
  | closeRefused _ => exact .refl
  | heartbeat reply => exact (onUserCallResult_quiet _ _ _).path rest .none
  | status id key reply => exact (onStatusResult_quiet _ _ _ _ _).path rest .none
  | securityEvent event =>
    unfold runCont Hand.ofResult
    dsimp only
    cases decodeAny result with
    | ok response => exact .refl
    | error error => exact onSecurityEventResult_error_path a event error
  | signCertificate series key previous reply =>
    exact (onSignResult_quiet _ _ _ _ _ _).path rest .none
  | userCall reply => exact (onUserCallResult_quiet _ _ _).path rest .none
  | ignore => exact .refl

/-- The completion that a `CallDone` brings: what the permissions ask for. -/
def MayReceive (allow : Allow) (a : Actor) (token : Nat) (result : CallResult) : Prop :=
  ∀ call, (a.calls.find? fun call => call.token == token) = some call →
    MayComplete allow a call.continuation result

/-- A result of this link runs its continuation. -/
theorem onCallDone_path (a : Actor) (token generation : Nat) (result : CallResult)
    (running : a.stopped = false) (may : MayReceive allow a token result) :
    Path allow (a.ledger [] .none) ((a.onCallDone token generation result).ledger [] .none) := by
  unfold onCallDone
  split
  · exact .refl
  · split
    · exact .refl
    · rename_i call found
      obtain rfl : call.token = token := by simpa using List.find?_some found
      have take : Trans allow _ _ := .takeCall (a.ledger [] .none) call result rfl rfl running found
      refine .head take (runCont_path call.continuation result
        (({ a with calls := a.calls.filter fun c => !(c.token == call.token) } : Actor).record
          (.completed call result)) ?_)
      exact (may call found).taken _ _

/-- The CALLs in `calls` fail one after the other. -/
theorem completeAll_path (error : CallError) (calls : List PendingCall) (a : Actor)
    (early : allow.early = true) (stops : allow.StopsLimited a.limited) :
    Path allow (a.ledger calls .none)
      ((calls.foldl (fun a call => complete call (.error error) a) a).ledger [] .none) := by
  induction calls generalizing a with
  | nil => exact .refl
  | cons call calls ih =>
    have take : Trans allow _ _ := .takeRest (a.ledger (call :: calls) .none) call calls error rfl rfl
    have done : Path allow (a.ledger (call :: calls) .none)
        ((complete call (.error error) a).ledger calls .none) :=
      .head take (runCont_path call.continuation _ (a.record (.completed call (.error error)))
        (mayComplete_error _ _ _ early stops))
    exact done.trans (ih _ ((stopsLimited_preserved allow).path done stops))

/-! ## The link -/

private theorem dropLink_ledger (a : Actor) (hand : Hand) :
    a.dropLink.ledger a.calls hand = { (a.ledger [] hand).dropLink with calls := a.calls } := rfl

/-- The CALLs of the lost link fail. -/
theorem linkDown_drains (a : Actor) (code : Option Nat) (early : allow.early = true)
    (stops : allow.StopsLimited a.limited) :
    Path allow (a.ledger [] .none).dropLink ((a.linkDown code).ledger [] .none) := by
  have pending : a.dropLink.calls = a.calls := rfl
  have books := a.dropLink_ledger .none
  unfold linkDown failPendingCalls
  rw [pending]
  have limited : a.dropLink.limited = a.limited := rfl
  generalize a.dropLink = closed at books limited
  have emptied : ({ closed with calls := [] } : Actor).ledger a.calls .none =
      (a.ledger [] .none).dropLink := by
    change ({ closed.ledger a.calls .none with calls := [] } : Ledger) = _
    rw [books]
    rfl
  rw [← emptied]
  exact completeAll_path (.closed code) a.calls { closed with calls := [] } early (limited ▸ stops)

/-- The CALLs in flight fail without a link. -/
theorem linkDown_path (a : Actor) (code : Option Nat) (running : a.stopped = false)
    (closes : allow.Closes a.limited) :
    Path allow (a.ledger [] .none) ((a.linkDown code).ledger [] .none) :=
  .head (.dropLink (a.ledger [] .none) rfl rfl running closes.closes)
    (a.linkDown_drains code closes.early closes.stops)

private theorem startConnect_path (a : Actor) (conn : a.link.conn = false) :
    Path allow (a.ledger rest .none) (a.startConnect.ledger rest .none) :=
  .single (.bump (a.ledger rest .none) conn)

/-- An attempt begins. -/
theorem connect_path (a : Actor) : Path allow (a.ledger rest .none) (a.connect.ledger rest .none) := by
  unfold connect
  dsimp only
  split
  · exact .refl
  · rename_i closed
    have conn : a.link.conn = false := by
      cases h : a.link.conn
      · rfl
      · exact absurd h (by simpa using (by simpa [cancelTimer] using closed : _ ∧ _).1)
    exact startConnect_path _ conn

/-- The next attempt is scheduled. -/
theorem scheduleReconnect_quiet (a : Actor) : Quiet a a.scheduleReconnect := by
  unfold scheduleReconnect
  split
  · exact .refl
  · dsimp only
    split
    · exact .of_ledger fun _ _ => rfl
    · exact .of_ledger fun _ _ => rfl

/-- Only an opened link comes up. -/
theorem stays_closed {l l' : Ledger} (closed : allow.opens = false) (path : Path allow l l')
    (conn : l.conn = false) : l'.conn = false := by
  refine Preserves.path (R := Trans allow) (I := fun l => l.conn = false) (fun l l' step conn => ?_)
    path conn
  cases step with
  | quiet step => exact step.frame.conn.trans conn
  | openLink _ _ _ opens => simp [closed] at opens
  | dropLink => rfl
  | halt => rfl
  | _ => exact conn

/-- The link is gone. -/
theorem linkDown_closed (a : Actor) (code : Option Nat) : (a.linkDown code).link.conn = false :=
  @stays_closed { opens := false } _ _ rfl (a.linkDown_drains code rfl (.inl fun _ => rfl)) rfl

/-- The next attempt begins. -/
theorem onReconnectTimer_path (a : Actor) :
    Path allow (a.ledger rest .none) (a.onReconnectTimer.ledger rest .none) := by
  unfold onReconnectTimer
  split
  · exact .refl
  · rename_i closed
    simp only [Bool.or_eq_true, Bool.not_eq_true', not_or, Bool.not_eq_true] at closed
    exact startConnect_path a closed.1.2

end Actor

end KirbyOcpp
