import KirbyOcpp.Ledger.Runs

/-!
# Who may start where: `start_transaction`, `remote_start` and the sources they ask

The rule that admits a start is written twice: once as the gate of `RemoteStartTransaction` and once as
the checks of `start_transaction`. Both ask the local list and the cache, through the decisions of
`authorization.rs` and through `known_parent`, which reads the two without their flags.
-/

namespace KirbyOcpp

namespace Actor

variable {a : Actor} {id : ConnectorId} {c : ConnectorSnapshot} {idTag : IdTag} {now : Instant}

/-! ## The decisions -/

/-- The parentIdTag of `idTag` as the station knows it now. -/
def parentOf (a : Actor) (idTag : IdTag) : Option IdTag :=
  knownParent idTag a.now a.localList a.authCache

/-- What `start_transaction` answers before it touches the state; `none` lets the start through. -/
def startAnswer (a : Actor) (id : ConnectorId) (idTag : IdTag) : Option (Except StationError Outcome) :=
  match a.flushMeters.connector id with
  | none => some (.error (.unknownConnector id))
  | some c => a.flushMeters.startRefusal id c idTag

/-- The connector and reservation checks of `start_transaction` find nothing. -/
def admits (a : Actor) (id : ConnectorId) (idTag : IdTag) : Bool :=
  (a.flushMeters.connector id).any fun c => (a.flushMeters.startRejection c idTag).isNone

/-- Whether a `RemoteStartTransaction` that waited for this decision is accepted. -/
def remoteStartVerdict (a : Actor) (id : ConnectorId) (idTag : IdTag) (decision : AuthorizationDecision) :
    Bool :=
  decision.accepted &&
    canRemoteStart (a.connector id) idTag (decision.idTagInfo.parentIdTag.or (a.parentOf idTag)) a.now

/-- The handler has answered `Accepted`. -/
def acceptRemoteStart (a : Actor) : Actor := a.record (.responded (.remoteStart true))

/-- Without an answer the start goes on. -/
theorem startTransaction_admitted (admitted : a.startAnswer id idTag = none) (done : Done) :
    ∃ c, a.flushMeters.connector id = some c ∧
      a.startTransaction id idTag done = a.flushMeters.startChecked id c idTag done := by
  unfold startAnswer at admitted
  cases found : a.flushMeters.connector id with
  | none =>
    rw [found] at admitted
    cases admitted
  | some c =>
    rw [found] at admitted
    refine ⟨c, rfl, ?_⟩
    unfold startTransaction
    dsimp only at admitted ⊢
    rw [found]
    dsimp only
    rw [admitted]

/-- The ways a `RemoteStartTransaction` goes on after the authorization. -/
theorem runAuthDone_remoteStart (a : Actor) (id : ConnectorId) (idTag : IdTag)
    (profile : Option (ChargingProfile Rat)) (decision : AuthorizationDecision) :
    runAuthDone (.remoteStart id idTag profile) (.ok decision) a =
      if a.remoteStartVerdict id idTag decision then
        a.acceptRemoteStart.startTransaction id idTag (.remoteStart id profile)
      else a.record (.responded (.remoteStart false)) := by
  unfold runAuthDone remoteStartVerdict
  dsimp only
  cases decision.accepted
  · rfl
  · simp only [Bool.true_and, if_true]
    rfl

/-! ## The flush before the checks -/

theorem startAnswer_missing (missing : a.connector id = none) :
    a.startAnswer id idTag = some (.error (.unknownConnector id)) := by
  obtain ⟨f, connector_eq, -, -⟩ := a.flushMeters_checks
  unfold startAnswer
  rw [connector_eq, missing]
  rfl

theorem startAnswer_found (found : a.connector id = some c) :
    a.startAnswer id idTag = a.startRefusal id c idTag := by
  obtain ⟨f, connector_eq, -, refusal⟩ := a.flushMeters_checks
  unfold startAnswer
  rw [connector_eq, found]
  exact refusal id c idTag

theorem admits_found (found : a.connector id = some c) :
    a.admits id idTag = (a.startRejection c idTag).isNone := by
  obtain ⟨f, connector_eq, rejection, -⟩ := a.flushMeters_checks
  unfold admits
  rw [connector_eq, found]
  simp only [Option.map_some, Option.any_some]
  rw [rejection]

/-! ## The two admission rules -/

theorem remoteStartUsable_iff :
    remoteStartUsable c = true ↔ c.transaction.isIdle = true ∧ c.availability = .operative ∧
      c.status ≠ .unavailable ∧ c.status ≠ .faulted := by
  unfold remoteStartUsable
  simp only [Bool.and_eq_true, decide_eq_true_eq, and_assoc]

/-- A reservation keeps out exactly the tags that a live one does not accept. -/
theorem reservedForOther_eq_false_iff {parent : Option IdTag} :
    reservedForOther c idTag parent now = false ↔
      ∀ r, liveReservation c now = some r → r.accepts idTag parent = true := by
  unfold reservedForOther
  cases liveReservation c now <;> simp

/-- The checks of a start: the gate's usable connector, not `Finishing`, not kept for another tag. -/
theorem startRejection_eq_none_iff :
    a.startRejection c idTag = none ↔ remoteStartUsable c = true ∧ c.status ≠ .finishing ∧
      reservedForOther c idTag (a.parentOf idTag) a.now = false := by
  rw [remoteStartUsable_iff]
  unfold startRejection parentOf TransactionState.blocksNewTransaction
  dsimp only
  by_cases idle : c.transaction.isIdle = true
  · by_cases operative : c.availability = .inoperative ∨ c.status = .unavailable
    · rcases operative with inoperative | unavailable
      · simp [idle, inoperative]
      · simp [idle, unavailable]
    · have available : c.availability = .operative := by
        cases kind : c.availability with
        | operative => rfl
        | inoperative => exact absurd (.inl kind) operative
      by_cases faulted : c.status = .faulted
      · simp [idle, faulted, available]
      · by_cases finishing : c.status = .finishing
        · simp [idle, finishing, available]
        · have usable : c.status ≠ .unavailable := fun unavailable => operative (.inr unavailable)
          simp [idle, available, faulted, finishing, usable]
  · simp [idle]

/-- The gate: a usable connector that no live reservation keeps for another tag, and that is not
`Reserved` without one. -/
theorem canRemoteStart_iff {parent : Option IdTag} :
    canRemoteStart (some c) idTag parent now = true ↔ remoteStartUsable c = true ∧
      reservedForOther c idTag parent now = false ∧
      (liveReservation c now = none → c.status ≠ .reserved) := by
  unfold canRemoteStart reservedForOther
  dsimp only
  cases remoteStartUsable c
  · simp
  cases liveReservation c now <;> simp

theorem remoteStartChoice_gate {requested : Option ConnectorId} {profile : Option (ChargingProfile Rat)}
    (chosen : a.remoteStartChoice requested idTag profile = some id)
    (direct : a.registry.authorizeRemoteTxRequests = false) :
    canRemoteStart (a.connector id) idTag (a.parentOf idTag) a.now = true := by
  unfold remoteStartChoice at chosen
  dsimp only at chosen
  obtain ⟨-, gate⟩ := Option.filter_eq_some_iff.mp chosen
  rw [direct] at gate
  exact (Bool.and_eq_true_iff.mp gate).2

theorem exists_of_canRemoteStart {connector : Option ConnectorSnapshot} {parent : Option IdTag}
    (gate : canRemoteStart connector idTag parent now = true) : ∃ c, connector = some c := by
  cases connector with
  | none => cases gate
  | some c => exact ⟨c, rfl⟩

/-- A start that follows the answer `Accepted` passes the connector and reservation checks exactly if
the connector is not `Finishing` and, when the parentIdTag came with the answer to an `Authorize`, a
live reservation accepts the idTag by what the station itself knows. -/
theorem remoteStart_agrees (a : Actor) (id : ConnectorId) (idTag : IdTag)
    (profile : Option (ChargingProfile Rat)) :
    (∀ requested, a.remoteStartChoice requested idTag profile = some id →
      a.registry.authorizeRemoteTxRequests = false →
      a.remoteStart requested idTag profile =
        a.acceptRemoteStart.startTransaction id idTag (.remoteStart id profile) ∧
      (a.acceptRemoteStart.admits id idTag = true ↔
        ∀ c, a.connector id = some c → c.status ≠ .finishing)) ∧
    ∀ decision, a.remoteStartVerdict id idTag decision = true →
      runAuthDone (.remoteStart id idTag profile) (.ok decision) a =
        a.acceptRemoteStart.startTransaction id idTag (.remoteStart id profile) ∧
      (a.acceptRemoteStart.admits id idTag = true ↔
        ∀ c, a.connector id = some c → c.status ≠ .finishing ∧
          ∀ r, liveReservation c a.now = some r → r.accepts idTag (a.parentOf idTag) = true) := by
  constructor
  · intro requested chosen direct
    constructor
    · unfold remoteStart
      rw [chosen]
      dsimp only
      rw [direct]
      rfl
    · have gate := remoteStartChoice_gate chosen direct
      obtain ⟨c, found⟩ := exists_of_canRemoteStart gate
      rw [found] at gate
      obtain ⟨usable, free, -⟩ := canRemoteStart_iff.mp gate
      have checks : a.acceptRemoteStart.admits id idTag = (a.startRejection c idTag).isNone :=
        admits_found (a := a.acceptRemoteStart) found
      rw [checks, Option.isNone_iff_eq_none, startRejection_eq_none_iff]
      constructor
      · rintro ⟨-, calm, -⟩ c' found'
        rw [found] at found'
        cases found'
        exact calm
      · intro calm
        exact ⟨usable, calm c found, free⟩
  · intro decision verdict
    constructor
    · rw [runAuthDone_remoteStart, verdict]
      rfl
    · unfold remoteStartVerdict at verdict
      have gate := (Bool.and_eq_true_iff.mp verdict).2
      obtain ⟨c, found⟩ := exists_of_canRemoteStart gate
      rw [found] at gate
      obtain ⟨usable, -, -⟩ := canRemoteStart_iff.mp gate
      have checks : a.acceptRemoteStart.admits id idTag = (a.startRejection c idTag).isNone :=
        admits_found (a := a.acceptRemoteStart) found
      rw [checks, Option.isNone_iff_eq_none, startRejection_eq_none_iff, reservedForOther_eq_false_iff]
      constructor
      · rintro ⟨-, calm, free⟩ c' found'
        rw [found] at found'
        cases found'
        exact ⟨calm, free⟩
      · intro calm
        exact ⟨usable, calm c found⟩

/-- The station after a transaction ended with the EV still plugged in. -/
def finishedStation : Actor :=
  (start { connectorCount := 1 } {} 1000000000000 0 none).replay 1000000000000 0
    [.command .connect 0, .connected 1 true none, .callDone 0 1 (.ok (.boot .accepted 0 0)),
      .command (.plugIn 1) 1, .command (.startTransaction 1 (.single 'A')) 2,
      .callDone 5 1 (.ok (.startTransaction 7 { status := .accepted })),
      .command (.stopTransaction 1 .«local» none) 3, .callDone 8 1 (.ok .accepted)]

/-- A station that asks before a remote start, with a reservation for the parentIdTag `P`. -/
def parentStation : Actor :=
  (start { connectorCount := 1 } { authorizeRemoteTxRequests := true } 1000000000000 0 none).replay 1000000000000 0
    [.command .connect 0, .connected 1 true none, .callDone 0 1 (.ok (.boot .accepted 0 0)),
      .incoming (.reserveNow
        { connectorId := 1, expiryDate := 2000000000000, idTag := .single 'B', parentIdTag := some (.single 'P')
          reservationId := 1 })]

/-- A direct start passes on a new connector and is refused on one that is `Finishing`. Past a reservation for the parent
that the answer named, a start passes when the station has remembered the answer, and is refused when it has not. -/
theorem remoteStart_agrees_stations :
    let a := start { connectorCount := 1 } {} 1000000000000 0 none
    let answer : IdTagInfo := { status := .accepted, parentIdTag := some (.single 'P') }
    a.acceptRemoteStart.admits 1 (.single 'A') = true ∧
      finishedStation.acceptRemoteStart.admits 1 (.single 'A') = false ∧
      (parentStation.applyIdTagInfo (.single 'A') answer).1.acceptRemoteStart.admits 1 (.single 'A') = true ∧
      parentStation.acceptRemoteStart.admits 1 (.single 'A') = false := by
  intro a answer
  let decision : AuthorizationDecision := { accepted := true, idTagInfo := answer, source := .centralSystem }
  let informed := (parentStation.applyIdTagInfo (.single 'A') answer).1
  have direct (b : Actor) (chosen : b.remoteStartChoice (some 1) (.single 'A') none = some 1)
      (unasked : b.registry.authorizeRemoteTxRequests = false) :=
    ((remoteStart_agrees b 1 (.single 'A') none).1 (some 1) chosen unasked).2
  have asked (b : Actor) (verdict : b.remoteStartVerdict 1 (.single 'A') decision = true) :=
    ((remoteStart_agrees b 1 (.single 'A') none).2 decision verdict).2
  refine ⟨(direct a (by decide +kernel) (by decide +kernel)).mpr ?_, ?_, (asked informed (by decide +kernel)).mpr ?_, ?_⟩
  · have calm : (a.connector 1).all fun c => decide (c.status ≠ .finishing) := by decide +kernel
    intro c found
    rw [found] at calm
    exact of_decide_eq_true calm
  · have finishing : (finishedStation.connector 1).map (·.status) = some .finishing := by decide +kernel
    rw [Bool.eq_false_iff, Ne, direct finishedStation (by decide +kernel) (by decide +kernel)]
    obtain ⟨c, found, status⟩ := Option.map_eq_some_iff.mp finishing
    exact fun calm => calm c found status
  · have calm : (informed.connector 1).all fun c => decide (c.status ≠ .finishing) &&
        (liveReservation c informed.now).all fun r => r.accepts (.single 'A') (informed.parentOf (.single 'A')) := by
      decide +kernel
    intro c found
    rw [found, Option.all_some, Bool.and_eq_true] at calm
    refine ⟨of_decide_eq_true calm.1, fun r live => ?_⟩
    rw [live] at calm
    exact calm.2
  · have kept : (parentStation.connector 1).any fun c => (liveReservation c parentStation.now).any fun r =>
        !r.accepts (.single 'A') (parentStation.parentOf (.single 'A')) := by decide +kernel
    rw [Bool.eq_false_iff, Ne, asked parentStation (by decide +kernel)]
    obtain ⟨c, found, kept⟩ := (Option.any_eq_true _ _).mp kept
    obtain ⟨r, live, refused⟩ := (Option.any_eq_true _ _).mp kept
    intro free
    rw [(free c found).2 r live] at refused
    cases refused

/-- A `RemoteStartTransaction` for a connector that is `Finishing` is accepted, and its start refused. -/
theorem finishing_disagrees :
    let a := finishedStation
    a.canTalk = true ∧ (a.connector 1).map (·.status) = some .finishing ∧
    a.remoteStartChoice (some 1) { chars := ['B'] } none = some 1 ∧
    a.registry.authorizeRemoteTxRequests = false ∧
    a.acceptRemoteStart.admits 1 { chars := ['B'] } = false := by
  decide +kernel

/-! ## Sources that are switched off -/

/-- A live reservation of `c` for another idTag stands or falls with the parentIdTag of `idTag`. -/
def ParentDecides (c : ConnectorSnapshot) (idTag : IdTag) (parent parent' : Option IdTag)
    (now : Instant) : Prop :=
  ∃ r, liveReservation c now = some r ∧ r.idTag ≠ idTag ∧
    ∃ reserved, r.parentIdTag = some reserved ∧ ¬(parent = some reserved ↔ parent' = some reserved)

/-- No usable connector of `a` is reserved for a parentIdTag that only one of the two stations knows
for `idTag`. -/
def Unswayed (a b : Actor) (idTag : IdTag) : Prop :=
  ∀ id c, a.connector id = some c → remoteStartUsable c = true →
    ¬ParentDecides c idTag (a.parentOf idTag) (b.parentOf idTag) a.now

/-- Two stations decide alike about `idTag`: the offline authorization, what `start_transaction` answers
before it starts, and the `RemoteStartTransaction` gate before and after an `Authorize`. -/
structure SameDecisions (a b : Actor) (idTag : IdTag) : Prop where
  offline : authorizeOffline idTag a.now a.localList a.authCache a.registry =
    authorizeOffline idTag b.now b.localList b.authCache b.registry
  start : ∀ id, a.startAnswer id idTag = b.startAnswer id idTag
  gate : ∀ requested profile,
    a.remoteStartChoice requested idTag profile = b.remoteStartChoice requested idTag profile
  verdict : ∀ id decision, a.remoteStartVerdict id idTag decision = b.remoteStartVerdict id idTag decision

/-- A switched off list has no say in a local authorization. -/
theorem authorizeLocally_list {config : ConfigRegistry} (off : config.localAuthListEnabled = false)
    (list list' : LocalAuthList) (cache : AuthorizationCache) (offline : Bool) :
    authorizeLocally idTag now list cache config offline =
      authorizeLocally idTag now list' cache config offline := by
  unfold authorizeLocally
  rw [off]
  rfl

/-- Nor has a switched off cache. -/
theorem authorizeLocally_cache {config : ConfigRegistry} (off : config.authorizationCacheEnabled = false)
    (list : LocalAuthList) (cache cache' : AuthorizationCache) (offline : Bool) :
    authorizeLocally idTag now list cache config offline =
      authorizeLocally idTag now list cache' config offline := by
  unfold authorizeLocally
  rw [off]
  rfl

theorem accepts_iff {r : Reservation} {parent : Option IdTag} :
    r.accepts idTag parent = true ↔
      r.idTag = idTag ∨ ∃ reserved, r.parentIdTag = some reserved ∧ parent = some reserved := by
  unfold Reservation.accepts
  by_cases own : r.idTag = idTag
  · simp [own]
  · cases r.parentIdTag <;> cases parent <;> simp [own, eq_comm]

/-- The parentIdTag decides exactly where the reservation's verdicts differ. -/
theorem parentDecides_iff {parent parent' : Option IdTag} :
    ParentDecides c idTag parent parent' now ↔
      reservedForOther c idTag parent now ≠ reservedForOther c idTag parent' now := by
  unfold ParentDecides reservedForOther
  cases liveReservation c now with
  | none => simp
  | some r =>
    have verdicts : (r.accepts idTag parent ≠ r.accepts idTag parent') ↔
        r.idTag ≠ idTag ∧ ∃ reserved, r.parentIdTag = some reserved ∧
          ¬(parent = some reserved ↔ parent' = some reserved) := by
      rw [ne_eq, Bool.eq_iff_iff, accepts_iff, accepts_iff]
      by_cases own : r.idTag = idTag
      · simp [own]
      · cases r.parentIdTag <;> simp [own]
    simp only [Option.some.injEq, exists_eq_left', Option.any_some, ne_eq, Bool.not_eq_eq_eq_not,
      Bool.not_not]
    rw [← ne_eq (r.accepts idTag parent), verdicts]

/-- The parentIdTag reaches the checks of a start through the reservation of a usable connector only. -/
theorem startRejection_congr {b : Actor}
    (same : remoteStartUsable c = true → reservedForOther c idTag (a.parentOf idTag) a.now =
      reservedForOther c idTag (b.parentOf idTag) b.now) :
    a.startRejection c idTag = b.startRejection c idTag := by
  unfold startRejection
  dsimp only
  by_cases usable : remoteStartUsable c = true
  · have reserved := same usable
    unfold parentOf at reserved
    rw [reserved]
  · rw [remoteStartUsable_iff] at usable
    by_cases idle : c.transaction.isIdle = true
    · by_cases shut : c.availability = .inoperative ∨ c.status = .unavailable
      · simp only [shut, if_true]
      · have operative : c.availability = .operative := by
          cases kind : c.availability with
          | operative => rfl
          | inoperative => exact absurd (.inl kind) shut
        have faulted : c.status = .faulted := by
          by_contra sound
          exact usable ⟨idle, operative, fun unavailable => shut (.inr unavailable), sound⟩
        simp [faulted]
    · simp [TransactionState.blocksNewTransaction, idle]

/-- Two stations with the same connectors and configuration, whose local authorizations agree. -/
structure Alike (a b : Actor) (idTag : IdTag) : Prop where
  now : b.now = a.now
  registry : b.registry = a.registry
  connector : ∀ id, b.connector id = a.connector id
  target : ∀ requested, b.remoteStartTarget requested = a.remoteStartTarget requested
  canTalk : b.canTalk = a.canTalk
  locally : ∀ offline, authorizeLocally idTag a.now a.localList a.authCache a.registry offline =
    authorizeLocally idTag a.now b.localList b.authCache a.registry offline

/-- Where nothing hangs on the parentIdTag, the reservations of usable connectors treat it alike. -/
theorem Unswayed.reserved {b : Actor} (unswayed : Unswayed a b idTag) (found : a.connector id = some c)
    (usable : remoteStartUsable c = true) :
    reservedForOther c idTag (a.parentOf idTag) a.now = reservedForOther c idTag (b.parentOf idTag) a.now := by
  by_contra differ
  exact unswayed id c found usable (parentDecides_iff.mpr differ)

theorem Alike.startAnswer {b : Actor} (alike : Alike a b idTag) (unswayed : Unswayed a b idTag)
    (id : ConnectorId) : a.startAnswer id idTag = b.startAnswer id idTag := by
  cases found : a.connector id with
  | none => rw [startAnswer_missing found, startAnswer_missing ((alike.connector id).trans found)]
  | some c =>
    rw [startAnswer_found found, startAnswer_found ((alike.connector id).trans found)]
    have rejection : a.startRejection c idTag = b.startRejection c idTag := by
      apply startRejection_congr
      intro usable
      rw [alike.now]
      exact unswayed.reserved found usable
    unfold startRefusal preAuthorize authorizeOffline
    rw [rejection, alike.canTalk, alike.now, alike.registry, alike.locally, alike.locally]

/-- The gate asks for the parentIdTag the station knows, unless the answer to an `Authorize` names one. -/
theorem Alike.gate {b : Actor} (alike : Alike a b idTag) (unswayed : Unswayed a b idTag)
    (id : ConnectorId) (answered : Option IdTag) :
    canRemoteStart (a.connector id) idTag (answered.or (a.parentOf idTag)) a.now =
      canRemoteStart (b.connector id) idTag (answered.or (b.parentOf idTag)) b.now := by
  rw [alike.connector, alike.now]
  cases answered with
  | some parent => rfl
  | none =>
    rw [Option.none_or, Option.none_or]
    cases found : a.connector id with
    | none => rfl
    | some c =>
      by_cases usable : remoteStartUsable c = true
      · rw [Bool.eq_iff_iff, canRemoteStart_iff, canRemoteStart_iff, unswayed.reserved found usable]
      · unfold canRemoteStart
        simp [usable]

/-- Stations that are alike decide alike exactly if no reservation hangs on what only one of them knows. -/
theorem Alike.sameDecisions_iff {b : Actor} (alike : Alike a b idTag) :
    SameDecisions a b idTag ↔ Unswayed a b idTag := by
  constructor
  · intro same id c found usable decides
    have differ := parentDecides_iff.mp decides
    obtain ⟨r, live, -⟩ := decides
    have verdict := same.verdict id { accepted := true, idTagInfo := { status := .accepted }, source := .none }
    unfold remoteStartVerdict at verdict
    rw [alike.connector, alike.now, found] at verdict
    simp only [Bool.true_and, Option.none_or] at verdict
    rw [Bool.eq_iff_iff, canRemoteStart_iff, canRemoteStart_iff, live] at verdict
    apply differ
    rw [Bool.eq_iff_iff]
    simp only [usable, true_and, reduceCtorEq, false_implies, and_true] at verdict
    rw [← Bool.not_eq_true, ← Bool.not_eq_true] at verdict
    exact not_iff_not.mp verdict
  · intro unswayed
    refine ⟨?_, alike.startAnswer unswayed, ?_, ?_⟩
    · unfold authorizeOffline
      rw [alike.now, alike.registry, alike.locally]
    · intro requested profile
      have gate (id : ConnectorId) := alike.gate unswayed id none
      unfold parentOf at gate
      unfold remoteStartChoice
      rw [alike.target, alike.registry]
      dsimp only
      congr 1
      funext id
      have direct := gate id
      rw [Option.none_or, Option.none_or] at direct
      rw [direct, alike.connector]
    · intro id decision
      unfold remoteStartVerdict
      rw [alike.gate unswayed]

theorem alike_list (off : a.registry.localAuthListEnabled = false) (list : LocalAuthList) :
    Alike a { a with localList := list } idTag where
  now := rfl
  registry := rfl
  connector _ := rfl
  target _ := rfl
  canTalk := rfl
  locally := authorizeLocally_list off a.localList list a.authCache

theorem alike_cache (off : a.registry.authorizationCacheEnabled = false) (cache : AuthorizationCache) :
    Alike a { a with authCache := cache } idTag where
  now := rfl
  registry := rfl
  connector _ := rfl
  target _ := rfl
  canTalk := rfl
  locally := authorizeLocally_cache off a.localList a.authCache cache

/-- A source that is switched off has a say exactly where a usable connector is reserved, for another
idTag, with the parentIdTag that only one of the two contents gives. -/
theorem disabled_source_sways (a : Actor) (idTag : IdTag) :
    (a.registry.localAuthListEnabled = false → ∀ list,
      (SameDecisions a { a with localList := list } idTag ↔
        Unswayed a { a with localList := list } idTag)) ∧
    (a.registry.authorizationCacheEnabled = false → ∀ cache,
      (SameDecisions a { a with authCache := cache } idTag ↔
        Unswayed a { a with authCache := cache } idTag)) := by
  constructor
  · intro off list
    exact (alike_list off list).sameDecisions_iff
  · intro off cache
    exact (alike_cache off cache).sameDecisions_iff

theorem disabled_source_sways_unreserved :
    let a := start { connectorCount := 1 } { localAuthListEnabled := false } 1000000000000 0 none
    SameDecisions a { a with localList := { entries := [({ chars := ['B'] }, { status := .blocked })] } }
      { chars := ['B'] } := by
  intro a
  have unreserved : ∀ c ∈ a.connectors, liveReservation c a.now = none := by decide +kernel
  refine ((disabled_source_sways a { chars := ['B'] }).1 (by decide +kernel) _).mpr ?_
  rintro id c found - ⟨r, live, -⟩
  rw [unreserved c (Ledger.mem_of_connector (l := a.ledger [] .none) found).1] at live
  cases live

/-- The station with a connector reserved for the tags of a parent, and the local list switched off. -/
def reservedStation : Actor :=
  (start { connectorCount := 1 } { localAuthListEnabled := false } 1000000000000 0 none).replay
    1000000000000 0
    [.command .connect 0, .connected 1 true none, .callDone 0 1 (.ok (.boot .accepted 0 0)),
      .incoming (.reserveNow { connectorId := 1, expiryDate := 2000000000000, idTag := .single 'A'
                               parentIdTag := some (.single 'P'), reservationId := 9 })]

/-- The list that is switched off lets a tag of the parent start, which the empty list does not. -/
theorem disabled_list_sways :
    let a := reservedStation
    let list : LocalAuthList :=
      { entries := [({ chars := ['B'] }, { status := .accepted, parentIdTag := some { chars := ['P'] } })] }
    a.registry.localAuthListEnabled = false ∧
    ¬SameDecisions a { a with localList := list } { chars := ['B'] } := by
  intro a list
  have before : (a.startAnswer 1 { chars := ['B'] }).isSome = true := by decide +kernel
  have after : ({ a with localList := list }.startAnswer 1 { chars := ['B'] }).isSome = false := by
    decide +kernel
  refine ⟨by decide +kernel, fun same => ?_⟩
  rw [same.start 1, after] at before
  cases before

end Actor

end KirbyOcpp
