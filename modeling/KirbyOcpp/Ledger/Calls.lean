import KirbyOcpp.Ledger.Basic

/-!
# CALLs, writes and notifications as paths

The operations of `Station.Calls` on the ledger. `Quiet` says that an operation is a path whatever the
running operation holds; almost every operation that is not about a transaction is quiet, and quiet
operations compose.
-/

namespace KirbyOcpp

open Paths Relation

/-! ## What quiet steps keep -/

/-- A connector that stays is changed mildly. -/
theorem Mild.refl (c : ConnectorSnapshot) : Mild c c where
  id := rfl
  transaction := rfl
  reservation := .inr (.inl rfl)
  status := .inl rfl
  availability := rfl
  pendingAvailability := rfl
  sound h := h
  faulted h := h
  live h := h
  stranded h := h
  booked h := h

/-- A change that shows in none of the fields the books are about. -/
theorem Mild.of_same {c c' : ConnectorSnapshot} (id : c'.id = c.id := by rfl)
    (transaction : c'.transaction = c.transaction := by rfl)
    (reservation : c'.reservation = c.reservation := by rfl) (status : c'.status = c.status := by rfl)
    (errorCode : c'.errorCode = c.errorCode := by rfl) (ev : c'.evConnected = c.evConnected := by rfl)
    (availability : c'.availability = c.availability := by rfl)
    (pending : c'.pendingAvailability = c.pendingAvailability := by rfl) : Mild c c' where
  id := id
  transaction := transaction
  reservation := .inr (.inl reservation)
  status := .inl status
  availability := availability
  pendingAvailability := pending
  sound h := by rwa [ConnectorSnapshot.Sound, status, errorCode]
  faulted h := status ▸ h
  live h := by rwa [ConnectorSnapshot.Live, status, ev]
  stranded h := by rwa [ConnectorSnapshot.Stranded, status, transaction, ev] at h
  booked h := by rwa [ConnectorSnapshot.Booked, status, reservation]

/-- Mild changes follow each other. -/
theorem Mild.trans {c d e : ConnectorSnapshot} (h : Mild c d) (h' : Mild d e) : Mild c e where
  id := h'.id.trans h.id
  transaction := h'.transaction.trans h.transaction
  reservation := by
    rcases h'.reservation with gone | same | idle
    · exact .inl gone
    · rw [same]
      exact h.reservation
    · exact .inr (.inr (h.transaction ▸ idle))
  status := by
    rcases h'.status with same | calm
    · rw [same]
      exact h.status
    · exact .inr calm
  availability := h'.availability.trans h.availability
  pendingAvailability := h'.pendingAvailability.trans h.pendingAvailability
  sound := fun sound => h'.sound (h.sound sound)
  faulted := fun faulted => h.faulted (h'.faulted faulted)
  live := fun live => h'.live (h.live live)
  stranded := fun stranded => h.stranded (h'.stranded stranded)
  booked := fun booked => h'.booked (h.booked booked)

/-- Reservations that end or stay leave the others distinct. -/
theorem DistinctReservations.lapse {connectors : List ConnectorSnapshot} {f : ConnectorSnapshot → ConnectorSnapshot}
    (ids : ∀ c ∈ connectors, (f c).id = c.id)
    (kept : ∀ c ∈ connectors, (f c).reservation = none ∨ (f c).reservation = c.reservation)
    (h : DistinctReservations connectors) : DistinctReservations (connectors.map f) := by
  have held {c : ConnectorSnapshot} (mem : c ∈ connectors) {r : Reservation} (holds : (f c).reservation = some r) :
      c.reservation = some r := by
    rcases kept c mem with gone | same
    · rw [gone] at holds
      cases holds
    · exact same.symm.trans holds
  intro c mem d mem' r s holds holds' same
  obtain ⟨c, known, rfl⟩ := List.mem_map.mp mem
  obtain ⟨d, known', rfl⟩ := List.mem_map.mp mem'
  rw [ids c known, ids d known']
  exact h c known d known' r s (held known holds) (held known' holds') same

/-- A reservation whose id no other connector holds leaves the reservations distinct. -/
theorem DistinctReservations.book {connectors : List ConnectorSnapshot} {id : ConnectorId} {reservation : Reservation}
    (unused : ∀ d ∈ connectors, d.id ≠ id → holdsReservation d reservation.id = false)
    (h : DistinctReservations connectors) :
    DistinctReservations (updateConnector connectors id fun c =>
      { c with reservation := some reservation, status := .reserved }) := by
  have free {d : ConnectorSnapshot} (mem : d ∈ connectors) (other : d.id ≠ id) {s : Reservation}
      (holds : d.reservation = some s) : s.id ≠ reservation.id := by
    intro same
    have unused := unused d mem other
    unfold holdsReservation at unused
    rw [holds] at unused
    simp [same] at unused
  intro c mem d mem' r s holds holds' same
  obtain ⟨c, known, rfl⟩ := List.mem_map.mp mem
  obtain ⟨d, known', rfl⟩ := List.mem_map.mp mem'
  by_cases this : c.id = id <;> by_cases that : d.id = id
  · simp [this, that]
  · simp only [this, that, beq_self_eq_true, if_true, beq_iff_eq, if_false, Option.some.injEq] at holds holds'
    exact absurd (holds ▸ same.symm) (free known' that holds')
  · simp only [this, that, beq_self_eq_true, if_true, beq_iff_eq, if_false, Option.some.injEq] at holds holds'
    exact absurd (holds' ▸ same) (free known this holds)
  · simp only [this, that, beq_iff_eq, if_false] at holds holds' ⊢
    exact h c known d known' r s holds holds' same

/-- The books that a quiet step leaves alone. -/
structure Frame (l l' : Ledger) : Prop where
  connectors : List.Forall₂ Mild l.connectors l'.connectors
  chargePoint : Mild l.chargePoint l'.chargePoint
  conn : l'.conn = l.conn
  generation : l'.generation = l.generation
  registration : l'.registration = l.registration
  queue : l'.queue = l.queue
  nextLocal : l'.nextLocal = l.nextLocal
  syncOutstanding : l'.syncOutstanding = l.syncOutstanding
  syncKeys : l'.syncKeys = l.syncKeys
  syncBoot : l'.syncBoot = l.syncBoot
  limits : l'.limits = l.limits
  stopped : l'.stopped = l.stopped

/-- Nothing happens. -/
theorem Frame.refl (l : Ledger) : Frame l l where
  connectors := List.forall₂_same.mpr fun c _ => .refl c
  chargePoint := .refl _
  conn := rfl
  generation := rfl
  registration := rfl
  queue := rfl
  nextLocal := rfl
  syncOutstanding := rfl
  syncKeys := rfl
  syncBoot := rfl
  limits := rfl
  stopped := rfl

/-- A quiet step leaves the frame. -/
theorem QuietStep.frame {l l' : Ledger} (h : QuietStep l l') : Frame l l' := by
  cases h with
  | reshape f mild distinct =>
    refine { Frame.refl l with connectors := ?_ }
    exact List.forall₂_map_right_iff.mpr (List.forall₂_same.mpr mild)
  | station f mild => exact { Frame.refl l with chargePoint := mild }
  | _ => exact { Frame.refl l with }

/-- Frames follow each other. -/
theorem Frame.trans {l m n : Ledger} (h : Frame l m) (h' : Frame m n) : Frame l n where
  connectors := Lists.forall₂_trans (fun first second => first.trans second) h.connectors h'.connectors
  chargePoint := h.chargePoint.trans h'.chargePoint
  conn := h'.conn.trans h.conn
  generation := h'.generation.trans h.generation
  registration := h'.registration.trans h.registration
  queue := h'.queue.trans h.queue
  nextLocal := h'.nextLocal.trans h.nextLocal
  syncOutstanding := h'.syncOutstanding.trans h.syncOutstanding
  syncKeys := h'.syncKeys.trans h.syncKeys
  syncBoot := h'.syncBoot.trans h.syncBoot
  limits := h'.limits.trans h.limits
  stopped := h'.stopped.trans h.stopped

/-- No other connector gets an energy limit. -/
theorem stopsLimited_preserved (allow : Allow) :
    Preserves (Trans allow) fun l => allow.StopsLimited l.limits := by
  intro l l' step h
  rcases h with all | ⟨starts, limited⟩
  · exact .inl all
  · refine .inr ⟨starts, ?_⟩
    cases step with
    | quiet step => exact step.frame.limits ▸ limited
    | limit limits kept =>
      intro id mem
      rcases kept id mem with old | grows
      · exact limited id old
      · simp [starts] at grows
    | _ => exact limited

/-! ## Quiet operations -/

/-- `b` follows from `a` by quiet steps, whatever the running operation holds. -/
def Quiet (a b : Actor) : Prop :=
  ∀ rest hand, ReflTransGen QuietStep (a.ledger rest hand) (b.ledger rest hand)

namespace Quiet

variable {a b c : Actor}

/-- Nothing happens. -/
theorem refl : Quiet a a := fun _ _ => .refl

/-- Quiet operations follow each other. -/
theorem trans (first : Quiet a b) (second : Quiet b c) : Quiet a c :=
  fun rest hand => (first rest hand).trans (second rest hand)

/-- The books do not notice. -/
theorem of_ledger (h : ∀ rest hand, b.ledger rest hand = a.ledger rest hand) : Quiet a b := by
  intro rest hand
  rw [h rest hand]

/-- An operation on what the books see as `a`. -/
theorem behind (next : Quiet b c)
    (same : ∀ rest hand, b.ledger rest hand = a.ledger rest hand) :
    Quiet a c := (of_ledger same).trans next

/-- A loop whose turns are quiet. -/
theorem foldl {X : Type} {f : Actor → X → Actor} (xs : List X)
    (h : ∀ x ∈ xs, ∀ a, Quiet a (f a x)) (a : Actor) : Quiet a (xs.foldl f a) :=
  fun rest hand => path_foldl (fun a => a.ledger rest hand) xs (fun x mem a => h x mem a rest hand) a

/-- A quiet operation is a path. -/
theorem path (h : Quiet a b) {allow : Allow} (rest : List PendingCall) (hand : Hand) :
    Path allow (a.ledger rest hand) (b.ledger rest hand) :=
  ReflTransGen.mono (fun _ _ step => .quiet step) _ _ (h rest hand)

/-- A quiet operation leaves the frame. -/
theorem frame (h : Quiet a b) : Frame (a.ledger [] .none) (b.ledger [] .none) :=
  Preserves.path (fun _ _ step ih => Frame.trans ih step.frame) (h [] .none) (.refl _)

/-- A quiet operation leaves the queue. -/
theorem queue (h : Quiet a b) : b.queue = a.queue := h.frame.queue

/-- A quiet operation leaves the link and the registration. -/
theorem canTalk (h : Quiet a b) : b.canTalk = a.canTalk := by
  have conn : b.link.conn = a.link.conn := h.frame.conn
  have registration : b.registration = a.registration := h.frame.registration
  simp only [Actor.canTalk, conn, registration]

/-- The connectors with an energy limit stay the same. -/
theorem limits (h : Quiet a b) : b.limited = a.limited := h.frame.limits

/-- A quiet operation leaves the registration. -/
theorem registration (h : Quiet a b) : b.registration = a.registration := h.frame.registration

/-- A connector is still there, with its transaction. -/
theorem connector (h : Quiet a b) {id : ConnectorId} {d : ConnectorSnapshot}
    (found : a.connector id = some d) : ∃ d', b.connector id = some d' ∧ Mild d d' := by
  unfold Actor.connector at found ⊢
  split at found
  · cases found
  · rename_i physical
    rw [if_neg physical]
    exact Lists.forall₂_find?_some (fun _ _ mild => by rw [mild.id]) h.frame.connectors found

end Quiet

namespace Actor

/-! ## Updates -/

@[simp] theorem record_ledger (a : Actor) (event : Event) (rest : List PendingCall) (hand : Hand) :
    (a.record event).ledger rest hand = (a.ledger rest hand).note event := rfl

@[simp] theorem connector_ledger (a : Actor) (id : ConnectorId) (rest : List PendingCall) (hand : Hand) :
    (a.ledger rest hand).connector id = a.connector id := rfl

@[simp] theorem find_ledger (a : Actor) (id : ConnectorId) (rest : List PendingCall) (hand : Hand) :
    (a.ledger rest hand).find id = a.findConnector id := rfl

@[simp] theorem withConnector_ledger (a : Actor) (id : ConnectorId)
    (f : ConnectorSnapshot → ConnectorSnapshot) (rest : List PendingCall) (hand : Hand) :
    (a.withConnector id f).ledger rest hand = (a.ledger rest hand).update id f := by
  unfold withConnector Ledger.update
  split <;> rfl

/-- Changing the connectors one by one. -/
theorem map_quiet (a : Actor) (f : ConnectorSnapshot → ConnectorSnapshot)
    (h : ∀ c ∈ a.connectors, Mild c (f c))
    (distinct : DistinctReservations a.connectors → DistinctReservations (a.connectors.map f)) :
    Quiet a { a with connectors := a.connectors.map f } := by
  intro rest hand
  exact .single (.reshape (a.ledger rest hand) f h distinct)

/-- A connector is changed mildly. -/
theorem withConnector_quiet (a : Actor) (id : ConnectorId) {f : ConnectorSnapshot → ConnectorSnapshot}
    (h : ∀ c, Mild c (f c)) (kept : ∀ c, (f c).reservation = c.reservation) :
    Quiet a (a.withConnector id f) := by
  unfold withConnector
  split
  · exact fun rest hand => .single (.station (a.ledger rest hand) f (h _))
  · refine map_quiet a _ (fun c _ => ?_) (DistinctReservations.lapse (fun c _ => ?_) fun c _ => ?_)
    · split
      · exact h c
      · exact .refl c
    · split
      · exact (h c).id
      · rfl
    · split
      · exact .inr (kept c)
      · exact .inr rfl

/-! ## Timers, trackers, replies -/

/-- A timer is armed. -/
theorem setTimer_quiet (a : Actor) (key : TimerKey) : Quiet a (a.setTimer key) :=
  .of_ledger fun _ _ => rfl

/-- A timer is armed, unless it is already. -/
theorem setTimerIfIdle_quiet (a : Actor) (key : TimerKey) : Quiet a (a.setTimerIfIdle key) := by
  unfold setTimerIfIdle
  split
  · exact .refl
  · exact a.setTimer_quiet key

/-- A timer is cancelled. -/
theorem cancelTimer_quiet (a : Actor) (key : TimerKey) : Quiet a (a.cancelTimer key) :=
  .of_ledger fun _ _ => rfl

/-- Timers are cancelled. -/
theorem cancelTimersWhere_quiet (a : Actor) (p : TimerKey → Bool) :
    Quiet a (a.cancelTimersWhere p) := .of_ledger fun _ _ => rfl

private theorem setTracker_quiet (a : Actor) (id : ConnectorId) (tracker : StatusTracker) :
    Quiet a (a.setTracker id tracker) := .of_ledger fun _ _ => rfl

/-- A neutral event is recorded. -/
theorem record_quiet (a : Actor) (event : Event) (h : event.isNeutral = true) :
    Quiet a (a.record event) := fun _ _ => .single (.note _ event h)

/-- A command is answered. -/
theorem reply_quiet (a : Actor) (reply : Reply) (result : Except StationError Outcome) :
    Quiet a (a.reply reply result) := a.record_quiet _ rfl

/-- A command is answered, if one waits. -/
theorem replyIf_quiet (a : Actor) (reply : Option Reply) (result : Except StationError Outcome) :
    Quiet a (a.replyIf reply result) := by
  cases reply with
  | none => exact .refl
  | some reply => exact a.reply_quiet reply result

/-! ## CALLs -/

/-- The CALL that `accept` adds. -/
def newCall (a : Actor) (origin : Origin) (request : Request) (continuation : Cont) : PendingCall :=
  { token := a.nextCallToken, generation := a.link.generation, origin, request, continuation
    attempts := a.callAttempts origin request }

/-- Only the station itself sends `BootNotification`. -/
def bootOfStation (origin : Origin) (request : Request) : Prop :=
  request.isBoot = false ∨ origin = .station

/-- A CALL that passes the gate is a step of the ledger. -/
theorem newCall_sends (a : Actor) (conn : a.link.conn = true) {origin : Origin} {request : Request}
    (passes : a.maySend request.isBoot origin = true) (boot : bootOfStation origin request)
    (continuation : Cont) (rest : List PendingCall) (hand : Hand) :
    (a.ledger rest hand).Sends (a.newCall origin request continuation) where
  conn := conn
  token := rfl
  generation := rfl
  passes := passes
  boot := fun isBoot => boot.resolve_left fun other => by
    have isBoot : request.isBoot = true := isBoot
    rw [isBoot] at other
    cases other

/-- A CALL fails at once, or it is accepted on an open connection. -/
theorem call_cases (a : Actor) (origin : Origin) (request : Request) (continuation : Cont)
    (onFail : CallError → Actor → Actor) :
    (∃ error, a.call origin request continuation onFail = onFail error a) ∨
      (a.link.conn = true ∧ a.maySend request.isBoot origin = true ∧
        a.call origin request continuation onFail = a.accept origin request continuation) := by
  unfold call
  split
  · exact .inl ⟨_, rfl⟩
  · split
    · exact .inl ⟨_, rfl⟩
    · exact .inr ⟨by simp_all, by simp_all, rfl⟩

/-- A registered station may send anything. -/
theorem maySend_of_canTalk (a : Actor) (h : a.canTalk = true) (isBoot : Bool) (origin : Origin) :
    a.maySend isBoot origin = true := by
  have registered : a.registration = some .accepted := by simpa using (Bool.and_eq_true_iff.mp h).2
  cases origin <;> simp [maySend, registered]

/-- Every CALL passes the gate of an actor that can talk. -/
theorem newCall_sends_of_canTalk (a : Actor) (h : a.canTalk = true) {origin : Origin} {request : Request}
    (boot : bootOfStation origin request) (continuation : Cont) (rest : List PendingCall) (hand : Hand) :
    (a.ledger rest hand).Sends (a.newCall origin request continuation) :=
  a.newCall_sends (Bool.and_eq_true_iff.mp h).1 (a.maySend_of_canTalk h _ _) boot continuation rest hand

/-- On an open connection it sends at once. -/
theorem call_of_canTalk (a : Actor) (h : a.canTalk = true) (origin : Origin) (request : Request)
    (continuation : Cont) (onFail : CallError → Actor → Actor) :
    a.call origin request continuation onFail = a.accept origin request continuation := by
  have conn : a.link.conn = true := (Bool.and_eq_true_iff.mp h).1
  simp [call, conn, a.maySend_of_canTalk h]

/-- A CALL whose continuation is neutral. -/
theorem call_quiet (a : Actor) (origin : Origin) (request : Request) (continuation : Cont)
    (onFail : CallError → Actor → Actor) (neutral : continuation.isNeutral = true)
    (boot : bootOfStation origin request) (fails : ∀ error, Quiet a (onFail error a)) :
    Quiet a (a.call origin request continuation onFail) := by
  rcases a.call_cases origin request continuation onFail with ⟨error, eq⟩ | ⟨conn, passes, eq⟩
  · rw [eq]
    exact fails error
  · rw [eq]
    intro rest hand
    exact .single (.send _ _ (a.newCall_sends conn passes boot continuation rest hand) neutral)

/-! ## Writes and meters -/

/-- The ledger only knows that a write is due. -/
theorem markDirty_ledger (a : Actor) (rest : List PendingCall) (hand : Hand) :
    a.markDirty.ledger rest hand = { a.ledger rest hand with unsaved := true } := by
  unfold markDirty
  cases store : a.persistence.store with
  | false => simp [ledger, store]
  | true =>
    unfold setTimerIfIdle
    simp only [Bool.not_true, Bool.false_eq_true, if_false]
    split <;> rfl

/-- A write is put off. -/
theorem markDirty_quiet (a : Actor) : Quiet a a.markDirty := by
  intro rest hand
  rw [markDirty_ledger]
  exact .single (.touch _)

/-- A write of the secrets is put off. -/
theorem markSecretsDirty_quiet (a : Actor) : Quiet a a.markSecretsDirty := by
  unfold markSecretsDirty
  exact (markDirty_quiet _).behind fun _ _ => rfl

/-- The meters are settled. -/
theorem settleMeters_quiet (a : Actor) : Quiet a a.settleMeters := .of_ledger fun _ _ => rfl

/-- A flush changes nothing but the registers. -/
theorem flushMeters_quiet (a : Actor) : Quiet a a.flushMeters := by
  let whole (c : ConnectorSnapshot) : ConnectorSnapshot :=
    { c with meterWh := saturatingAdd c.meterWh ((flushedWh a.settleMeters.meters c).getD 0) }
  have registers : Quiet a { a with connectors := a.connectors.map whole } :=
    a.map_quiet whole (fun c _ => .of_same) (.lapse (fun _ _ => rfl) fun _ _ => .inr rfl)
  refine registers.trans ?_
  unfold flushMeters
  dsimp only
  split
  · exact (markDirty_quiet _).behind fun _ _ => rfl
  · exact .of_ledger fun _ _ => rfl

/-- The meters are read. -/
theorem meterReading_quiet (a : Actor) (id : ConnectorId) (advance : Bool) :
    Quiet a (a.meterReading id advance).1 := by
  refine a.flushMeters_quiet.trans ?_
  unfold meterReading
  dsimp only
  split <;> exact .of_ledger fun _ _ => rfl

/-- The state file is written. -/
theorem flushPersistence_quiet (a : Actor) : Quiet a a.flushPersistence := by
  refine a.flushMeters_quiet.trans ?_
  unfold flushPersistence
  dsimp only
  split
  · exact .refl
  · rename_i writes
    split
    · exact .of_ledger fun _ _ => rfl
    · intro rest hand
      have store : a.flushMeters.persistence.store = true := by
        simp only [Bool.or_eq_true, Bool.not_eq_true', not_or, Bool.not_eq_false] at writes
        exact writes.1
      have saved : QuietStep (a.flushMeters.ledger rest hand)
          { a.flushMeters.ledger rest hand with
            written := a.flushMeters.buildPersisted :: a.flushMeters.written
            unsaved := false || !a.flushMeters.persistence.store } := by
        rw [store]
        exact .save _ a.flushMeters.buildPersisted rfl rfl rfl
      exact .single saved

/-- The state file is written at once. -/
theorem flushNow_quiet (a : Actor) : Quiet a a.flushNow :=
  (a.markDirty_quiet.trans (cancelTimer_quiet _ _)).trans (flushPersistence_quiet _)

/-- The file is behind as before, or a write has failed. -/
theorem persistence_quiet (a : Actor) (p : Persistence) (failed : Bool) (store : p.store = a.persistence.store)
    (dirty : p.dirty = (a.persistence.dirty || failed)) : Quiet a { a with persistence := p } := by
  intro rest hand
  have books : ({ a with persistence := p } : Actor).ledger rest hand =
      { a.ledger rest hand with unsaved := p.dirty || !p.store } := rfl
  rw [books, store, dirty]
  cases failed with
  | false =>
    rw [Bool.or_false]
    exact .refl
  | true =>
    rw [Bool.or_true, Bool.true_or]
    exact .single (.touch _)

/-- A write ended. -/
theorem onSaved_quiet (a : Actor) (ok : Bool) : Quiet a (a.onSaved ok) := by
  have noted := a.persistence_quiet
    { a.persistence with
      inFlight := false
      dirty := a.persistence.dirty || !ok
      secretsDirty := a.persistence.secretsDirty || !ok } (!ok) rfl rfl
  refine noted.trans ?_
  unfold onSaved
  dsimp only
  split
  · exact (flushPersistence_quiet _).behind fun _ _ => rfl
  · exact .refl

/-! ## Status notifications -/

/-- A status notification ended. -/
theorem onStatusResult_quiet (id : ConnectorId) (key : StatusKey) (reply : Option Reply)
    (result : Except CallError Unit) (a : Actor) :
    Quiet a (onStatusResult id key reply result a) := by
  cases result with
  | ok _ => exact a.replyIf_quiet reply _
  | error error => exact (a.setTracker_quiet _ _).trans (replyIf_quiet _ _ _)

private theorem dispatchStatus_quiet (a : Actor) (id : ConnectorId) (key : StatusKey) (timestamp : Instant)
    (origin : Origin) (reply : Option Reply) :
    Quiet a (a.dispatchStatus id key timestamp origin reply) :=
  (a.setTracker_quiet _ _).trans
    (call_quiet _ _ _ _ _ rfl (.inl rfl) fun _ => onStatusResult_quiet _ _ _ _ _)

/-- A status is reported at once, later or not at all. -/
theorem statusChanged_quiet (a : Actor) (id : ConnectorId) : Quiet a (a.statusChanged id) := by
  unfold statusChanged
  split
  · exact .refl
  · split
    · exact .refl
    · dsimp only
      split
      · exact a.setTracker_quiet _ _
      · exact (a.setTracker_quiet _ _).trans (cancelTimer_quiet _ _)
      · exact ((a.setTracker_quiet _ _).trans (cancelTimer_quiet _ _)).trans
          (dispatchStatus_quiet _ _ _ _ _ _)
      · exact (a.setTracker_quiet _ _).trans (setTimer_quiet _ _)

/-- A status that has settled is reported. -/
theorem statusTimerFired_quiet (a : Actor) (id : ConnectorId) :
    Quiet a (a.statusTimerFired id) := by
  unfold statusTimerFired
  split
  · exact .refl
  · split
    · exact a.setTracker_quiet _ _
    · dsimp only
      split
      · exact a.setTracker_quiet _ _
      · exact (a.setTracker_quiet _ _).trans (dispatchStatus_quiet _ _ _ _ _ _)

/-- A status is reported whatever was reported before. -/
theorem sendStatusForced_quiet (a : Actor) (id : ConnectorId) (origin : Origin) (reply : Option Reply) :
    Quiet a (a.sendStatusForced id origin reply) := by
  unfold sendStatusForced
  split
  · exact a.replyIf_quiet _ _
  · exact ((cancelTimer_quiet _ _).trans (setTracker_quiet _ _ _)).trans
      (dispatchStatus_quiet _ _ _ _ _ _)

/-- Every status is reported. -/
theorem resendAllStatuses_quiet (a : Actor) : Quiet a a.resendAllStatuses :=
  .foldl _ (fun _ _ a => a.sendStatusForced_quiet _ _ _) a

/-- Every status that waits is reported. -/
theorem flushPendingStatuses_quiet (a : Actor) : Quiet a a.flushPendingStatuses :=
  .foldl _ (fun _ _ a => (a.cancelTimer_quiet _).trans (statusTimerFired_quiet _ _)) a

/-! ## Security events -/

/-- The books with other security events. -/
def withEvents (a : Actor) (events : List PendingSecurityEvent) (rest : List PendingCall) (hand : Hand) :
    Ledger := { a.ledger rest hand with securityEvents := events }

/-- The CALL of a security event. -/
def eventCall (a : Actor) (event : PendingSecurityEvent) : PendingCall :=
  a.newCall .station (.securityEventNotification event) (.securityEvent event)

private theorem sendEvent_quiet (a : Actor) (talk : a.canTalk = true) (event : PendingSecurityEvent)
    (events : List PendingSecurityEvent) (rest : List PendingCall) (hand : Hand)
    (unsaved : (a.ledger rest hand).unsaved = true) :
    QuietStep (a.withEvents (event :: events) rest hand)
      ((a.accept .station (.securityEventNotification event) (.securityEvent event)).withEvents events rest
        hand) := by
  have sends : (a.ledger rest hand).Sends (a.eventCall event) :=
    newCall_sends_of_canTalk a talk (.inl rfl) _ rest hand
  exact .sendEvent (a.withEvents (event :: events) rest hand) (a.eventCall event)
    ⟨sends.conn, sends.token, sends.generation, sends.passes, sends.boot⟩ event events rfl rfl unsaved

/-- The events that are left go out one by one. -/
theorem sendEvents_path (events : List PendingSecurityEvent) (a : Actor) (talk : a.canTalk = true)
    (empty : a.securityEvents = []) (rest : List PendingCall) (hand : Hand)
    (unsaved : (a.ledger rest hand).unsaved = true) (onFail : PendingSecurityEvent → CallError → Actor → Actor) :
    ReflTransGen QuietStep (a.withEvents events rest hand)
      ((events.foldl (fun a event => a.call .station (.securityEventNotification event) (.securityEvent event)
        (onFail event)) a).ledger rest hand) := by
  induction events generalizing a with
  | nil =>
    have whole : a.withEvents [] rest hand = a.ledger rest hand :=
      congrArg (fun events => a.withEvents events rest hand) empty.symm
    rw [whole]
    exact .refl
  | cons event events ih =>
    rw [List.foldl_cons, a.call_of_canTalk talk]
    exact .head (a.sendEvent_quiet talk event events rest hand unsaved) (ih _ talk empty unsaved)

/-- The queue of events is sent. -/
theorem flushSecurityEvents_quiet (a : Actor) : Quiet a a.flushSecurityEvents := by
  unfold flushSecurityEvents
  split
  · exact .refl
  · rename_i ready
    have talk : a.canTalk = true := by
      simp only [Bool.or_eq_true, Bool.not_eq_true', not_or, Bool.not_eq_false] at ready
      exact ready.1
    intro rest hand
    have marked := markDirty_ledger { a with securityEvents := [] } rest hand
    have quiet := (markDirty_quiet { a with securityEvents := [] }).canTalk
    generalize ({ a with securityEvents := [] } : Actor).markDirty = b at marked quiet
    have none : b.securityEvents = [] := congrArg Ledger.securityEvents marked
    have sent := sendEvents_path a.securityEvents b (quiet.trans talk) none rest hand
      (congrArg Ledger.unsaved marked) fun event error => onSecurityEventResult event (.error error)
    refine .head (.touch (a.ledger rest hand)) ?_
    unfold withEvents at sent
    rw [marked] at sent
    exact sent

/-- An event is queued, and the queue sent. -/
theorem securityEvent_quiet (a : Actor) (eventType : String) (techInfo : Option String) :
    Quiet a (a.securityEvent eventType techInfo) := by
  unfold securityEvent
  refine .trans ?_ (flushSecurityEvents_quiet _)
  intro rest hand
  rw [markDirty_ledger]
  exact .single (.raise _ _)

end Actor

end KirbyOcpp
