import KirbyOcpp.Ledger.Link

/-!
# Work that places no CALL

What the actor looks at when it decides about a new CALL (`Face`), what a running sync looks at (`QueueBooks`), and
the operations that change neither: writes, profiles, replies, and the continuations that only keep what they hold.
-/

namespace KirbyOcpp.Actor

variable {a b : Actor}

/-- What decides about new CALLs. -/
structure Face where
  calls : List PendingCall
  conn : Bool
  registration : Option RegistrationStatus
  registry : ConfigRegistry
  limits : List (ConnectorId × Nat)
  trackers : List (ConnectorId × StatusTracker)
  connectors : List ConnectorSnapshot
  chargePoint : ConnectorSnapshot
  meters : List (ConnectorId × MeterRuntime)
  mono : Int

def face (a : Actor) : Face :=
  { calls := a.calls, conn := a.link.conn, registration := a.registration, registry := a.registry
    limits := a.invalidLimits, trackers := a.trackers, connectors := a.connectors, chargePoint := a.chargePoint
    meters := a.meters, mono := a.mono }

/-- What a running sync looks at. -/
structure QueueBooks where
  boot : Bool
  keys : List Nat
  queue : OfflineQueue
  counter : Nat
  outstanding : Nat

def books (a : Actor) : QueueBooks :=
  { boot := a.syncBoot, keys := a.syncKeys, queue := a.queue, counter := a.nextLocal
    outstanding := a.syncOutstanding }

/-- What a CALL that goes out changes, and what a running sync looks at. -/
structure Dealings where
  calls : List PendingCall
  talk : Bool
  books : QueueBooks

def dealings (a : Actor) : Dealings := { calls := a.calls, talk := a.canTalk, books := a.books }

/-- The connectors are part of the face. -/
theorem find_of_face (same : b.face = a.face) : b.findConnector = a.findConnector := by
  have connectors : b.connectors = a.connectors := congrArg Face.connectors same
  have chargePoint : b.chargePoint = a.chargePoint := congrArg Face.chargePoint same
  unfold findConnector
  rw [connectors, chargePoint]

/-- Whether the actor may talk is part of the face. -/
theorem talk_of_face (same : b.face = a.face) : b.canTalk = a.canTalk := by
  have conn : b.link.conn = a.link.conn := congrArg Face.conn same
  have registration : b.registration = a.registration := congrArg Face.registration same
  unfold canTalk
  rw [conn, registration]

/-- The dealings are part of the face and the books. -/
theorem dealings_of_face (same : b.face = a.face ∧ b.books = a.books) : b.dealings = a.dealings := by
  have calls : b.calls = a.calls := congrArg Face.calls same.1
  unfold dealings
  rw [calls, talk_of_face same.1, same.2]

/-! ## Operations -/

/-- The connectors and the meters after a flush. -/
theorem flushMeters_eq (a : Actor) : ∃ persistence timers, a.flushMeters =
    { a with
      settlements := a.settleMeters.settlements
      connectors := a.connectors.map fun c =>
        { c with meterWh := saturatingAdd c.meterWh ((flushedWh a.settleMeters.meters c).getD 0) }
      meters := a.settleMeters.meters.map fun entry =>
        (entry.1, if a.connectors.any fun c => c.id == entry.1 then flushedRuntime entry.2 else entry.2)
      persistence, timers } := by
  unfold flushMeters
  dsimp only
  split
  · unfold markDirty setTimerIfIdle setTimer
    dsimp only
    repeat' split
    all_goals exact ⟨_, _, rfl⟩
  · exact ⟨_, _, rfl⟩


private theorem markDirty_face (a : Actor) : a.markDirty.face = a.face := by
  unfold markDirty setTimerIfIdle setTimer
  dsimp only
  repeat' split
  all_goals rfl

private theorem markDirty_books (a : Actor) : a.markDirty.books = a.books := by
  unfold markDirty setTimerIfIdle setTimer
  dsimp only
  repeat' split
  all_goals rfl

/-- A write changes nothing but the registers. -/
theorem flushNow_eq (a : Actor) : ∃ (b : Actor) (persistence : Persistence) (timers : List TimerKey)
    (written : List PersistedStation), b.face = a.face ∧ b.books = a.books ∧
      a.flushNow = { b.flushMeters with persistence, timers, written } := by
  refine ⟨a.markDirty.cancelTimer .persistFlush, ?_⟩
  unfold flushNow flushPersistence
  dsimp only
  repeat' split
  all_goals exact ⟨_, _, _, a.markDirty_face, a.markDirty_books, rfl⟩

/-- A flush does not look at the queue. -/
theorem flushMeters_books (a : Actor) : a.flushMeters.books = a.books := by
  obtain ⟨persistence, timers, eq⟩ := a.flushMeters_eq
  rw [eq]
  rfl

/-- A write does not look at the queue. -/
theorem flushNow_books (a : Actor) : a.flushNow.books = a.books := by
  obtain ⟨b, persistence, timers, written, -, books, eq⟩ := a.flushNow_eq
  rw [eq]
  exact b.flushMeters_books.trans books

/-- A write places no CALL. -/
theorem flushNow_calls (a : Actor) : a.flushNow.calls = a.calls := by
  obtain ⟨b, persistence, timers, written, same, -, eq⟩ := a.flushNow_eq
  obtain ⟨persistence', timers', flushed⟩ := b.flushMeters_eq
  rw [eq, flushed]
  exact congrArg Face.calls same

/-- A connector is no part of the books. -/
theorem withConnector_books (a : Actor) (id : ConnectorId) (f : ConnectorSnapshot → ConnectorSnapshot) :
    (a.withConnector id f).books = a.books := by
  unfold withConnector
  split <;> rfl

/-- The profiles are no part of the face. -/
theorem endProfiles_face (a : Actor) (tx : TxId) : (a.endProfiles tx).face = a.face := by
  unfold endProfiles
  dsimp only
  split
  · exact markDirty_face _
  · rfl

/-- The profiles are no part of the books. -/
theorem endProfiles_books (a : Actor) (tx : TxId) : (a.endProfiles tx).books = a.books := by
  unfold endProfiles
  dsimp only
  split
  · exact markDirty_books _
  · rfl

/-- Who waits for a transaction is only told. -/
theorem runDone_error_face (done : Done) (error : StationError) (a : Actor) :
    (runDone done (.error error) a).face = a.face ∧ (runDone done (.error error) a).books = a.books := by
  cases done with
  | remoteStart id profile => cases profile <;> exact ⟨rfl, rfl⟩
  | _ => exact ⟨rfl, rfl⟩

/-- A reply is only told. -/
theorem replyIf_face (a : Actor) (reply : Option Reply) (result : Except StationError Outcome) :
    (a.replyIf reply result).face = a.face ∧ (a.replyIf reply result).books = a.books := by
  cases reply <;> exact ⟨rfl, rfl⟩

/-- A queued stop changes the books alone. -/
theorem queueStop_face (a : Actor) (id : ConnectorId) (tx : TxId) (tag : IdTag) (startedAt : Instant)
    (meterStartWh : Nat) (info : StopInfo) :
    (a.queueStop id tx tag startedAt meterStartWh info).2.face = a.face := by
  unfold queueStop
  split
  · rfl
  · unfold nextKey pushQueue
    dsimp only
    split <;> rfl

/-- A failed event goes back into its queue. -/
theorem onSecurityEventResult_face (event : PendingSecurityEvent) (error : CallError) (a : Actor) :
    (onSecurityEventResult event (.error error) a).face = a.face ∧
      (onSecurityEventResult event (.error error) a).books = a.books := by
  unfold onSecurityEventResult
  dsimp only
  split
  · exact ⟨markDirty_face _, markDirty_books _⟩
  · exact ⟨rfl, rfl⟩

/-- A failed signing request restores the key and arms its timer. -/
theorem onSignResult_face (series key : Nat) (previous : Option Nat) (reply : Option Reply) (error : CallError)
    (a : Actor) :
    (onSignResult series key previous reply (.error error) a).face = a.face ∧
      (onSignResult series key previous reply (.error error) a).books = a.books := by
  have restored : (a.restorePendingKey key previous).face = a.face ∧
      (a.restorePendingKey key previous).books = a.books := by
    unfold restorePendingKey
    split
    · exact ⟨markDirty_face _, markDirty_books _⟩
    · exact ⟨rfl, rfl⟩
  have armed (a : Actor) : (a.armCertSigningRetry series).face = a.face ∧
      (a.armCertSigningRetry series).books = a.books := by
    unfold armCertSigningRetry
    split
    · exact ⟨rfl, rfl⟩
    · split <;> exact ⟨rfl, rfl⟩
  obtain ⟨face, books⟩ := replyIf_face ((a.restorePendingKey key previous).armCertSigningRetry series) reply
    (.error (callFailure error))
  exact ⟨(face.trans (armed _).1).trans restored.1, (books.trans (armed _).2).trans restored.2⟩

/-- A failed boot arms its timer. -/
theorem onBootDone_face (generation : Nat) (reply : Option Reply) (error : CallError) (a : Actor) :
    (onBootDone generation reply (.error error) a).face = a.face ∧
      (onBootDone generation reply (.error error) a).books = a.books := by
  unfold onBootDone onBootResult
  dsimp only
  generalize noted : (if a.link.generation = generation then
      { a with link := { a.link with bootInFlight := false } } else a) = b
  have same : b.face = a.face ∧ b.books = a.books := by
    rw [← noted]
    split <;> exact ⟨rfl, rfl⟩
  generalize armed : (if b.link.conn && b.link.wanted then b.setTimer .bootRetry else b) = c
  have next : c.face = b.face ∧ c.books = b.books := by
    rw [← armed]
    split <;> exact ⟨rfl, rfl⟩
  obtain ⟨face, books⟩ := replyIf_face c reply (.error (callFailure error))
  exact ⟨(face.trans next.1).trans same.1, (books.trans next.2).trans same.2⟩

/-! ## What they leave of the CALLs and of the sync -/

@[simp] theorem markDirty_dealings (a : Actor) : a.markDirty.dealings = a.dealings :=
  dealings_of_face ⟨a.markDirty_face, a.markDirty_books⟩

@[simp] theorem flushMeters_dealings (a : Actor) : a.flushMeters.dealings = a.dealings := by
  obtain ⟨persistence, timers, eq⟩ := a.flushMeters_eq
  rw [eq]
  rfl

@[simp] theorem flushNow_dealings (a : Actor) : a.flushNow.dealings = a.dealings := by
  obtain ⟨b, persistence, timers, written, face, books, eq⟩ := a.flushNow_eq
  rw [eq]
  exact b.flushMeters_dealings.trans (dealings_of_face ⟨face, books⟩)

@[simp] theorem withConnector_dealings (a : Actor) (id : ConnectorId) (f : ConnectorSnapshot → ConnectorSnapshot) :
    (a.withConnector id f).dealings = a.dealings := by
  unfold withConnector
  split <;> rfl

@[simp] theorem endProfiles_dealings (a : Actor) (tx : TxId) : (a.endProfiles tx).dealings = a.dealings :=
  dealings_of_face ⟨a.endProfiles_face tx, a.endProfiles_books tx⟩

@[simp] theorem setTracker_dealings (a : Actor) (id : ConnectorId) (tracker : StatusTracker) :
    (a.setTracker id tracker).dealings = a.dealings := rfl

@[simp] theorem cancelTimer_dealings (a : Actor) (key : TimerKey) : (a.cancelTimer key).dealings = a.dealings := rfl

@[simp] theorem setTimerIfIdle_dealings (a : Actor) (key : TimerKey) :
    (a.setTimerIfIdle key).dealings = a.dealings := by
  unfold setTimerIfIdle
  split <;> rfl

@[simp] theorem replyIf_dealings (a : Actor) (reply : Option Reply) (result : Except StationError Outcome) :
    (a.replyIf reply result).dealings = a.dealings := dealings_of_face (a.replyIf_face reply result)

@[simp] theorem recordSyncFailure_dealings (a : Actor) (key : Nat) (error : CallError) :
    (a.recordSyncFailure key error).dealings = a.dealings := by
  unfold recordSyncFailure
  split <;> rfl

/-- Who waits for a transaction is only told. -/
theorem runDone_dealings (done : Done) (error : StationError) (a : Actor) :
    (runDone done (.error error) a).dealings = a.dealings := dealings_of_face (runDone_error_face done error a)

@[simp] theorem noteStop_dealings (a : Actor) (id : ConnectorId) (info : StopInfo) (plugged : Bool)
    (status : ConnectorStatus) : (a.noteStop id info plugged status).dealings = a.dealings :=
  withConnector_dealings (a.record (.stopRequested id info)) id fun c => { c with evConnected := plugged, status }

end KirbyOcpp.Actor
