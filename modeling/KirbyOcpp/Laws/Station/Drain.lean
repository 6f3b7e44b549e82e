import KirbyOcpp.Laws.Station.Sampling
import KirbyOcpp.Laws.Station.StartReservations
import KirbyOcpp.Laws.Station.Status
import KirbyOcpp.Laws.Station.Unheard

/-!
# Failing the CALLs in flight over a link that is up

`shutdown` runs the continuations of the CALLs in flight with an error while the connection is still there.

**Where no CALL goes out** (`FailsQuietly`): nothing can be sent, or each continuation by itself has nothing to
say: the connector that it sets free shows the status that was reported last, the sync has nothing left to send
and does not follow a boot, and no energy limit is reached.

`Hush` is what such a continuation keeps, and `Drained` what is known of the station after some of them.
-/

namespace KirbyOcpp

/-- The continuation ends the transaction of this connector. -/
def Cont.endsOn : Cont → Option ConnectorId
  | .startResult id _ _ _ => some id
  | .stopResult id _ _ _ _ _ _ => some id
  | _ => none

/-- The continuation puts the stop of `e` into the queue. -/
def Cont.stopsEntry (e : OfflineTx) : Cont → Bool
  | .stopResult id tx _ _ _ _ _ => OfflineQueue.isTxOn id tx e
  | _ => false

/-- The continuation takes the report of `key` for `id` back. -/
def Cont.unreports (id : ConnectorId) (key : StatusKey) : Cont → Bool
  | .status other reported _ => decide (other = id ∧ reported = key)
  | _ => false

namespace Actor

/-! ## What a failing CALL has to say -/

/-- The status that `f` gives connector `id`, after a change of availability that waits, is not sent: it is
debounced, or the one reported last, which no CALL of `front` takes back. -/
def Reported (a : Actor) (front : List PendingCall) (id : ConnectorId)
    (f : ConnectorSnapshot → ConnectorSnapshot) : Prop :=
  a.registry.minimumStatusDuration ≠ 0 ∨
    (∀ call ∈ front, call.continuation.endsOn ≠ some id) ∧
      ∀ c, a.findConnector id = some c →
        let key := statusKeyOf ((f c).applied c.pendingAvailability)
        (a.tracker id).lastSent = some key ∧ ∀ call ∈ front, call.continuation.unreports id key = false

/-- The continuation of a CALL that fails after those of `front` places no CALL. -/
def Harmless (a : Actor) (front : List PendingCall) : Cont → Prop
  | .startResult id localId _ _ =>
    (a.findConnector id).bind (·.txId) ≠ some localId ∨ a.Reported front id abandonedConnector
  | .stopResult id tx _ _ _ _ _ => a.Reported front id (forgetTransaction tx)
  | .syncStart _ | .syncStop _ _ =>
    a.syncBoot = false ∧ ∀ e ∈ a.queue, e.key ∈ a.syncKeys →
      e.startPending = false ∧ stopOf e = none ∧ ∀ call ∈ front, call.continuation.stopsEntry e = false
  | .meterValues id _ =>
    ∀ limit c, a.invalidLimits.lookup id = some limit → a.findConnector id = some c →
      limit ≤ c.meterWh → c.transaction = .idle
  | _ => True

/-- The CALLs in flight may fail one after the other without a new one. -/
def FailsQuietly (a : Actor) : Prop :=
  a.canTalk = false ∨ ∀ front call back, a.calls = front ++ call :: back → a.Harmless front call.continuation

/-! ## Registers that are up to date -/

/-- The registers have the energy up to now. -/
structure Flat (a : Actor) : Prop where
  distinct : (a.connectors.map (·.id)).Nodup
  fits : ∀ c ∈ a.connectors, c.meterWh ≤ u64Max
  metered : ∀ c ∈ a.connectors, ∃ runtime, a.meters.lookup c.id = some runtime ∧ a.mono ≤ runtime.last ∧
    runtime.pendingWh ≤ 0

variable {a b b' : Actor} {id : ConnectorId} {f : ConnectorSnapshot → ConnectorSnapshot}
  {changed : ConnectorId → Prop} {front : List PendingCall}

theorem settledRuntime_last (a : Actor) (c : ConnectorSnapshot) : (a.settledRuntime c).last = a.mono := by
  unfold settledRuntime
  dsimp only
  split <;> rfl

theorem flushedRuntime_last (runtime : MeterRuntime) : (flushedRuntime runtime).last = runtime.last := by
  unfold flushedRuntime
  split <;> rfl

theorem flushedRuntime_pending (runtime : MeterRuntime) : (flushedRuntime runtime).pendingWh ≤ 0 := by
  unfold flushedRuntime
  split
  · assumption
  · exact le_rfl

theorem settleMeters_known (distinct : (a.connectors.map (·.id)).Nodup) {c : ConnectorSnapshot}
    (mem : c ∈ a.connectors) : a.settleMeters.meters.lookup c.id = some (a.settledRuntime c) := by
  have settled := Metering.lookup_foldl_insertAt (fun c : ConnectorSnapshot => c.id) a.settledRuntime a.connectors
    distinct a.meters c.id
  have found : a.connectors.find? (fun d => d.id == c.id) = some c := by
    cases found : a.connectors.find? fun d => d.id == c.id with
    | none => exact absurd (List.find?_eq_none.mp found c mem) (by simp)
    | some d =>
      have same : d.id = c.id := by simpa using List.find?_some found
      rw [Lists.eq_of_nodup_map distinct (List.mem_of_find?_eq_some found) mem same]
  rw [found] at settled
  exact settled

theorem flushMeters_flat (distinct : (a.connectors.map (·.id)).Nodup) : Flat a.flushMeters := by
  obtain ⟨persistence, timers, eq⟩ := a.flushMeters_eq
  rw [eq]
  refine ⟨?_, fun c mem => ?_, fun c mem => ?_⟩
  · dsimp only
    rw [List.map_map]
    exact distinct
  · obtain ⟨d, -, rfl⟩ := List.mem_map.mp mem
    exact Nat.min_le_right _ _
  · obtain ⟨d, there, rfl⟩ := List.mem_map.mp mem
    have looked := Metering.lookup_map (fun key runtime =>
      if a.connectors.any fun c => c.id == key then flushedRuntime runtime else runtime) a.settleMeters.meters d.id
    rw [settleMeters_known distinct there] at looked
    have own : (a.connectors.any fun c => c.id == d.id) = true := List.any_eq_true.mpr ⟨d, there, by simp⟩
    simp only [own, if_true, Option.map_some] at looked
    refine ⟨_, looked, ?_, flushedRuntime_pending _⟩
    rw [flushedRuntime_last, settledRuntime_last]

/-- A second flush at the same instant has nothing to add. -/
theorem Flat.flushMeters (flat : Flat a) : a.flushMeters.connectors = a.connectors := by
  obtain ⟨persistence, timers, eq⟩ := a.flushMeters_eq
  rw [eq]
  dsimp only
  refine (List.map_congr_left fun c mem => ?_).trans a.connectors.map_id
  obtain ⟨runtime, known, last, pending⟩ := flat.metered c mem
  have idle : (a.settledRuntime c).pendingWh = runtime.pendingWh := by
    have span : a.spanEnergy c.id runtime = none := by
      have none : max (a.mono - runtime.last) 0 = 0 := by omega
      unfold spanEnergy
      simp [none]
    unfold settledRuntime
    rw [known]
    simp [span]
  have nothing : flushedWh a.settleMeters.meters c = none := by
    unfold flushedWh
    rw [settleMeters_known flat.distinct mem, Option.bind_some, if_pos (idle.trans_le pending)]
  rw [nothing]
  have fits := flat.fits c mem
  change { c with meterWh := min (c.meterWh + 0) u64Max } = c
  rw [Nat.add_zero, Nat.min_eq_left fits]

/-! ## Work that places no CALL -/

/-- No CALL goes out between `a` and `b`, and at most the connectors `changed` are different: with the same
register, and the same transaction or none. -/
structure Hush (changed : ConnectorId → Prop) (a b : Actor) : Prop where
  flat : Flat b
  calls : b.calls = a.calls
  talk : b.canTalk = a.canTalk
  registry : b.registry = a.registry
  limits : b.invalidLimits = a.invalidLimits
  sent : ∀ id, (b.tracker id).lastSent = (a.tracker id).lastSent
  other : ∀ id, ¬changed id → b.findConnector id = a.findConnector id
  fewer : ∀ id c', b.findConnector id = some c' → ∃ c, a.findConnector id = some c ∧ c'.meterWh = c.meterWh ∧
    (c'.transaction = c.transaction ∨ c'.transaction = .idle)

theorem Flat.of_face (flat : Flat a) (same : b.face = a.face) : Flat b := by
  have connectors : b.connectors = a.connectors := congrArg Face.connectors same
  have meters : b.meters = a.meters := congrArg Face.meters same
  have mono : b.mono = a.mono := congrArg Face.mono same
  refine ⟨?_, ?_, ?_⟩
  · rw [connectors]
    exact flat.distinct
  · rw [connectors]
    exact flat.fits
  · rw [connectors, meters, mono]
    exact flat.metered

theorem Hush.of_connectors (flat : Flat b) (calls : b.calls = a.calls) (talk : b.canTalk = a.canTalk)
    (registry : b.registry = a.registry) (limits : b.invalidLimits = a.invalidLimits)
    (sent : ∀ id, (b.tracker id).lastSent = (a.tracker id).lastSent) (connectors : b.connectors = a.connectors)
    (chargePoint : b.chargePoint = a.chargePoint) : Hush changed a b := by
  have find (id : ConnectorId) : b.findConnector id = a.findConnector id := by
    unfold findConnector
    rw [connectors, chargePoint]
  exact ⟨flat, calls, talk, registry, limits, sent, fun id _ => find id,
    fun id c' found => ⟨c', (find id).symm.trans found, rfl, .inl rfl⟩⟩

theorem Hush.of_face (flat : Flat a) (same : b.face = a.face) : Hush changed a b := by
  have trackers : b.trackers = a.trackers := congrArg Face.trackers same
  refine .of_connectors (flat.of_face same) (congrArg Face.calls same) ?_ (congrArg Face.registry same)
    (congrArg Face.limits same) (fun id => ?_) (congrArg Face.connectors same) (congrArg Face.chargePoint same)
  · have conn : b.link.conn = a.link.conn := congrArg Face.conn same
    have registration : b.registration = a.registration := congrArg Face.registration same
    unfold canTalk
    rw [conn, registration]
  · unfold tracker
    rw [trackers]

theorem Hush.refl (flat : Flat a) : Hush changed a a := .of_face flat rfl

theorem Hush.trans {c : Actor} (first : Hush changed a b) (second : Hush changed b c) : Hush changed a c where
  flat := second.flat
  calls := second.calls.trans first.calls
  talk := second.talk.trans first.talk
  registry := second.registry.trans first.registry
  limits := second.limits.trans first.limits
  sent id := (second.sent id).trans (first.sent id)
  other id same := (second.other id same).trans (first.other id same)
  fewer id c' found := by
    obtain ⟨d, mid, meter, transaction⟩ := second.fewer id c' found
    obtain ⟨e, before, meter', transaction'⟩ := first.fewer id d mid
    refine ⟨e, before, meter.trans meter', ?_⟩
    rcases transaction with same | idle
    · rw [same]
      exact transaction'
    · exact .inr idle

theorem flushNow_hush (flat : Flat a) : Hush changed a a.flushNow := by
  obtain ⟨b, persistence, timers, written, same, -, eq⟩ := a.flushNow_eq
  have before : Flat b := flat.of_face same
  refine (Hush.of_face flat same).trans ?_
  rw [eq]
  obtain ⟨persistence', timers', flushed⟩ := b.flushMeters_eq
  have after : Flat b.flushMeters := flushMeters_flat before.distinct
  have rest : b.flushMeters.calls = b.calls ∧ b.flushMeters.canTalk = b.canTalk ∧ b.flushMeters.registry = b.registry ∧
      b.flushMeters.invalidLimits = b.invalidLimits ∧ b.flushMeters.trackers = b.trackers ∧
      b.flushMeters.chargePoint = b.chargePoint := by
    rw [flushed]
    exact ⟨rfl, rfl, rfl, rfl, rfl, rfl⟩
  obtain ⟨calls, talk, registry, limits, trackers, chargePoint⟩ := rest
  refine .of_connectors ⟨after.distinct, after.fits, after.metered⟩ calls talk registry limits (fun id => ?_)
    before.flushMeters chargePoint
  unfold tracker
  exact congrArg (fun map => ((map.lookup id).getD {}).lastSent) trackers

/-- The connector `id` is changed. -/
theorem withConnector_hush (flat : Flat a) (own : changed id) (keeps : ∀ c, (f c).id = c.id)
    (register : ∀ c, (f c).meterWh = c.meterWh)
    (transaction : ∀ c, (f c).transaction = c.transaction ∨ (f c).transaction = .idle) :
    Hush changed a (a.withConnector id f) := by
  have listed : (a.withConnector id f).connectors.map (fun c => (c.id, c.meterWh)) =
      a.connectors.map fun c => (c.id, c.meterWh) := by
    unfold withConnector
    split
    · rfl
    · dsimp only
      unfold updateConnector
      rw [List.map_map]
      refine List.map_congr_left fun c _ => ?_
      simp only [Function.comp_apply]
      split
      · rw [keeps, register]
      · rfl
  have known (c' : ConnectorSnapshot) (mem : c' ∈ (a.withConnector id f).connectors) :
      ∃ c ∈ a.connectors, c.id = c'.id ∧ c.meterWh = c'.meterWh := by
    have there : (c'.id, c'.meterWh) ∈ a.connectors.map fun c => (c.id, c.meterWh) :=
      listed ▸ List.mem_map_of_mem mem
    obtain ⟨c, mem, eq⟩ := List.mem_map.mp there
    exact ⟨c, mem, congrArg Prod.fst eq, congrArg Prod.snd eq⟩
  have rest : (a.withConnector id f).face.calls = a.calls ∧ (a.withConnector id f).canTalk = a.canTalk ∧
      (a.withConnector id f).registry = a.registry ∧ (a.withConnector id f).invalidLimits = a.invalidLimits ∧
      (a.withConnector id f).trackers = a.trackers ∧ (a.withConnector id f).meters = a.meters ∧
      (a.withConnector id f).mono = a.mono := by
    unfold withConnector
    split <;> exact ⟨rfl, rfl, rfl, rfl, rfl, rfl, rfl⟩
  obtain ⟨calls, talk, registry, limits, trackers, meters, mono⟩ := rest
  have other (id' : ConnectorId) (apart : id' ≠ id) :
      (a.withConnector id f).findConnector id' = a.findConnector id' :=
    a.findConnector_withConnector_other keeps apart
  refine ⟨⟨?_, fun c mem => ?_, fun c mem => ?_⟩, calls, talk, registry, limits, fun id' => ?_, fun id' same => ?_,
    fun id' c' found => ?_⟩
  · have ids := congrArg (List.map Prod.fst) listed
    rw [List.map_map, List.map_map] at ids
    exact ids ▸ flat.distinct
  · obtain ⟨d, there, -, eq⟩ := known c mem
    exact eq ▸ flat.fits d there
  · obtain ⟨d, there, eq, -⟩ := known c mem
    rw [meters, mono, ← eq]
    exact flat.metered d there
  · unfold tracker
    rw [trackers]
  · exact other id' fun eq => same (eq ▸ own)
  · by_cases same : id' = id
    · subst same
      rw [a.findConnector_withConnector id' keeps] at found
      obtain ⟨c, there, rfl⟩ := Option.map_eq_some_iff.mp found
      exact ⟨c, there, register c, transaction c⟩
    · exact ⟨c', (other id' same).symm.trans found, rfl, .inl rfl⟩

theorem tracker_setTracker (a : Actor) (id other : ConnectorId) (tracker : StatusTracker) :
    (a.setTracker id tracker).tracker other = if other = id then tracker else a.tracker other := by
  unfold Actor.tracker setTracker
  rw [Metering.lookup_insertAt]
  split <;> rfl

/-- A tracker that keeps what was reported last. -/
theorem setTracker_hush (flat : Flat a) {tracker : StatusTracker}
    (same : tracker.lastSent = (a.tracker id).lastSent) : Hush changed a (a.setTracker id tracker) := by
  refine .of_connectors ⟨flat.distinct, flat.fits, flat.metered⟩ rfl rfl rfl rfl (fun other => ?_) rfl rfl
  rw [tracker_setTracker]
  split
  · rename_i own
    rw [own, same]
  · rfl

/-- Work between two states that is not heard of, and that the sync does not notice. -/
structure Silent (changed : ConnectorId → Prop) (a b : Actor) : Prop where
  hush : Hush changed a b
  books : b.books = a.books

theorem Silent.trans {c : Actor} (first : Silent changed a b) (second : Silent changed b c) : Silent changed a c :=
  ⟨first.hush.trans second.hush, second.books.trans first.books⟩

theorem Silent.of_face (flat : Flat a) (same : b.face = a.face) (books : b.books = a.books) : Silent changed a b :=
  ⟨.of_face flat same, books⟩

/-- A status that is debounced or reported already is not sent. -/
theorem statusChanged_silent (changed : ConnectorId → Prop) (id : ConnectorId) (flat : Flat a) (quiet : a.registry.minimumStatusDuration ≠ 0 ∨
      ∀ c, a.findConnector id = some c → (a.tracker id).lastSent = some (statusKeyOf c)) :
    Silent changed a (a.statusChanged id) ∧ (a.statusChanged id).findConnector = a.findConnector := by
  have tracked (tracker : StatusTracker) (same : tracker.lastSent = (a.tracker id).lastSent) :
      Silent changed a (a.setTracker id tracker) ∧ (a.setTracker id tracker).findConnector = a.findConnector :=
    ⟨⟨setTracker_hush flat same, rfl⟩, rfl⟩
  unfold statusChanged
  split
  · exact ⟨.of_face flat rfl rfl, rfl⟩
  · split
    · exact ⟨.of_face flat rfl rfl, rfl⟩
    · rename_i key found
      rcases Notifier.planChange_cases (a.tracker id) key a.now a.registry.minimumStatusDuration with
        ⟨-, eq⟩ | ⟨differs, zero, -⟩ | ⟨-, -, -, eq⟩ | ⟨-, -, -, eq⟩
      · rw [eq]
        have cancelled := tracked { a.tracker id with pending := none } rfl
        exact ⟨cancelled.1.trans (.of_face cancelled.1.hush.flat rfl rfl), cancelled.2⟩
      · -- the status goes out at once only if it differs from the one reported last
        refine absurd ?_ differs
        obtain ⟨c, there, rfl⟩ := Option.map_eq_some_iff.mp found
        exact (quiet.resolve_left (not_not.mpr zero)) c there
      · rw [eq]
        exact tracked _ rfl
      · rw [eq]
        have deferred := tracked { a.tracker id with pending := some (key, a.now) } rfl
        exact ⟨deferred.1.trans (.of_face deferred.1.hush.flat rfl rfl), deferred.2⟩

theorem flushNow_silent (flat : Flat a) : Silent changed a a.flushNow := ⟨flushNow_hush flat, a.flushNow_books⟩

/-- A connector is set free, and its status is not sent. -/
theorem applyPendingAvailability_silent (id : ConnectorId) (flat : Flat a) (own : changed id)
    (quiet : a.registry.minimumStatusDuration ≠ 0 ∨ ∀ c, a.findConnector id = some c →
      (a.tracker id).lastSent = some (statusKeyOf (c.applied c.pendingAvailability))) :
    Silent changed a (a.applyPendingAvailability id) ∧
      (a.applyPendingAvailability id).findConnector id =
        (a.findConnector id).map fun c => c.applied c.pendingAvailability := by
  unfold applyPendingAvailability
  cases found : a.findConnector id with
  | none => exact ⟨.of_face flat rfl rfl, found⟩
  | some c =>
    rw [Option.bind_some]
    cases pending : c.pendingAvailability with
    | none => exact ⟨.of_face flat rfl rfl, by rw [found, Option.map_some, pending]; rfl⟩
    | some kind =>
      let edit (c : ConnectorSnapshot) : ConnectorSnapshot := c.applied (some kind)
      have changes : Silent changed a (a.withConnector id edit) :=
        ⟨withConnector_hush flat own (fun _ => rfl) (fun _ => rfl) fun _ => .inl rfl, a.withConnector_books id edit⟩
      have written := changes.trans (flushNow_silent changes.hush.flat)
      have there : (a.withConnector id edit).flushNow.findConnector id = some (edit c) := by
        have kept : Hush (fun _ => False) (a.withConnector id edit) (a.withConnector id edit).flushNow :=
          flushNow_hush changes.hush.flat
        rw [kept.other id not_false, a.findConnector_withConnector id (f := edit) fun _ => rfl, found]
        rfl
      obtain ⟨told, same⟩ := statusChanged_silent changed id written.hush.flat <| by
        rw [written.hush.registry, written.hush.sent]
        refine quiet.imp_right fun reported d found' => ?_
        rw [there] at found'
        cases found'
        rw [reported c found, pending]
      refine ⟨written.trans told, ?_⟩
      refine (congrFun same id).trans (there.trans ?_)
      rw [Option.map_some, pending]

/-- The status of a connector that `f` sets free is not sent. -/
def Unsaid (a : Actor) (id : ConnectorId) (f : ConnectorSnapshot → ConnectorSnapshot) : Prop :=
  a.registry.minimumStatusDuration ≠ 0 ∨ ∀ c, a.findConnector id = some c →
    (a.tracker id).lastSent = some (statusKeyOf ((f c).applied c.pendingAvailability))

/-- The connector that `f` sets free. -/
theorem freed_silent (flat : Flat a) (own : changed id) (keeps : ∀ c, (f c).id = c.id)
    (register : ∀ c, (f c).meterWh = c.meterWh) (pending : ∀ c, (f c).pendingAvailability = c.pendingAvailability)
    (transaction : ∀ c, (f c).transaction = c.transaction ∨ (f c).transaction = .idle) (quiet : a.Unsaid id f)
    (same : b.face = (a.withConnector id f).face) (books : b.books = a.books) :
    Silent changed a (b.applyPendingAvailability id) ∧
      (b.applyPendingAvailability id).findConnector id =
        (a.findConnector id).map fun c => (f c).applied c.pendingAvailability := by
  have freed := withConnector_hush flat own keeps register transaction
  have next : Hush changed a b := freed.trans (.of_face freed.flat same)
  have found : b.findConnector id = (a.findConnector id).map f := by
    rw [find_of_face same, a.findConnector_withConnector id keeps]
  obtain ⟨applied, eq⟩ := applyPendingAvailability_silent id next.flat own <| by
    rw [next.registry, next.sent]
    refine quiet.imp_right fun reported c' there => ?_
    rw [found] at there
    obtain ⟨c, known, rfl⟩ := Option.map_eq_some_iff.mp there
    rw [reported c known, pending]
  refine ⟨⟨next.trans applied.hush, applied.books.trans books⟩, ?_⟩
  rw [eq, found, Option.map_map]
  refine congrArg (fun g => (a.findConnector id).map g) (funext fun c => ?_)
  rw [Function.comp_apply, pending]

/-- The end of `freed_silent`: the status is looked at once more. -/
theorem toldFreed_silent (freed : Silent changed a b)
    (found : b.findConnector id = (a.findConnector id).map fun c => (f c).applied c.pendingAvailability)
    (quiet : a.Unsaid id f) : Silent changed a (b.statusChanged id) := by
  refine freed.trans (statusChanged_silent changed id freed.hush.flat ?_).1
  rw [freed.hush.registry, freed.hush.sent]
  refine quiet.imp_right fun reported c' there => ?_
  rw [found] at there
  obtain ⟨c, known, rfl⟩ := Option.map_eq_some_iff.mp there
  exact reported c known

theorem abandonStart_silent (flat : Flat a) (own : changed id) (quiet : a.Unsaid id abandonedConnector) :
    Silent changed a (a.abandonStart id) := by
  obtain ⟨freed, found⟩ := freed_silent (f := abandonedConnector) flat own (fun _ => rfl) (fun _ => rfl)
    (fun _ => rfl) (fun _ => .inr rfl) quiet rfl (a.withConnector_books id _)
  exact toldFreed_silent freed found quiet

theorem forgetTransaction_same (tx : TxId) (c : ConnectorSnapshot) :
    (forgetTransaction tx c).id = c.id ∧ (forgetTransaction tx c).meterWh = c.meterWh ∧
      (forgetTransaction tx c).pendingAvailability = c.pendingAvailability ∧
      ((forgetTransaction tx c).transaction = c.transaction ∨ (forgetTransaction tx c).transaction = .idle) := by
  unfold forgetTransaction
  split
  · exact ⟨rfl, rfl, rfl, .inr rfl⟩
  · exact ⟨rfl, rfl, rfl, .inl rfl⟩

theorem finishStop_silent (flat : Flat a) (own : changed id) {tx : TxId}
    (quiet : a.Unsaid id (forgetTransaction tx)) : Silent changed a (a.finishStop id tx) := by
  obtain ⟨freed, found⟩ := freed_silent (f := forgetTransaction tx) flat own
    (fun c => (forgetTransaction_same tx c).1) (fun c => (forgetTransaction_same tx c).2.1)
    (fun c => (forgetTransaction_same tx c).2.2.1) (fun c => (forgetTransaction_same tx c).2.2.2) quiet
    ((a.withConnector id (forgetTransaction tx)).endProfiles_face tx)
    (((a.withConnector id (forgetTransaction tx)).endProfiles_books tx).trans (a.withConnector_books id _))
  have kept (untouched : ConnectorId → Prop) : Hush untouched _ _ := flushNow_hush freed.hush.flat
  refine toldFreed_silent (freed.trans (flushNow_silent freed.hush.flat)) ?_ quiet
  exact ((kept fun _ => False).other id not_false).trans found

/-! ## The sync -/

/-- Entries are dropped. -/
structure Trimmed (x y : QueueBooks) : Prop where
  boot : y.boot = x.boot
  keys : y.keys = x.keys
  queue : y.queue.Sublist x.queue
  counter : y.counter = x.counter

theorem giveUp_hush (flat : Flat a) (key : Nat) :
    Hush changed a (a.giveUp key) ∧ Trimmed a.books (a.giveUp key).books := by
  have dropped : ∃ b : Actor, b.face = a.face ∧ Trimmed a.books b.books ∧ a.giveUp key = b.flushNow := by
    unfold giveUp
    split
    · refine ⟨_, ?_, ?_, rfl⟩
      · rfl
      · exact ⟨rfl, rfl, List.eraseP_sublist, rfl⟩
    · refine ⟨_, ?_, ?_, rfl⟩
      · rfl
      · exact ⟨rfl, rfl, .refl _, rfl⟩
  obtain ⟨b, same, trimmed, eq⟩ := dropped
  have quiet : Hush changed a b := .of_face flat same
  rw [eq]
  refine ⟨quiet.trans (flushNow_hush quiet.flat), ?_⟩
  rw [b.flushNow_books]
  exact trimmed

theorem armSyncRetryIfIdle_hush (changed : ConnectorId → Prop) (flat : Flat a) :
    Hush changed a a.armSyncRetryIfIdle ∧ Trimmed a.books a.armSyncRetryIfIdle.books := by
  have stays (a : Actor) : Trimmed a.books a.books := ⟨rfl, rfl, .refl _, rfl⟩
  have drops (keys : List Nat) {a : Actor} (flat : Flat a) :
      Hush changed a (keys.foldl giveUp a) ∧ Trimmed a.books (keys.foldl giveUp a).books := by
    induction keys generalizing a with
    | nil => exact ⟨.refl flat, stays a⟩
    | cons key keys ih =>
      obtain ⟨quiet, trimmed⟩ : Hush changed a (a.giveUp key) ∧ _ := giveUp_hush flat key
      obtain ⟨quiet', trimmed'⟩ := ih quiet.flat
      exact ⟨quiet.trans quiet', trimmed'.boot.trans trimmed.boot, trimmed'.keys.trans trimmed.keys,
        trimmed'.queue.trans trimmed.queue, trimmed'.counter.trans trimmed.counter⟩
  unfold armSyncRetryIfIdle
  split
  · split
    · have unmarked : Hush changed a { a with syncFailed := false } := .of_face flat rfl
      unfold armSyncRetry
      dsimp only
      split
      · exact ⟨unmarked, stays a⟩
      · generalize (List.map _ _ : List Nat) = keys
        obtain ⟨quiet, trimmed⟩ := drops keys unmarked.flat
        split
        · exact ⟨unmarked.trans (quiet.trans (.of_face quiet.flat rfl)), trimmed⟩
        · exact ⟨unmarked.trans quiet, trimmed⟩
    · exact ⟨.refl flat, stays a⟩
  · exact ⟨.refl flat, stays a⟩

/-- A sync that has nothing left to send, and does not follow a boot, ends. -/
theorem runSyncWith_nothing (keys : List Nat) (a : Actor) (nothing : ∀ key ∈ keys, a.syncCallOf key = none)
    (boot : a.syncBoot = false) :
    runSyncWith keys a = ({ a with syncKeys := [], syncOutstanding := 0 } : Actor).armSyncRetryIfIdle := by
  induction keys generalizing a with
  | nil =>
    unfold runSyncWith syncFinished
    dsimp only
    rw [if_neg (by rw [boot]; exact Bool.false_ne_true), ← boot]
  | cons key keys ih =>
    obtain ⟨first, rest⟩ := List.forall_mem_cons.mp nothing
    have none : ({ a with syncKeys := keys } : Actor).syncCallOf key = none := first
    unfold runSyncWith
    dsimp only
    rw [none]
    exact ih _ rest boot

/-! ## After some of the CALLs -/

/-- The entry `e` of the queue, after the CALLs of `front`. -/
structure Entered (front : List PendingCall) (e e' : OfflineTx) : Prop where
  key : e'.key = e.key
  connector : e'.connector = e.connector
  txId : e'.txId = e.txId
  startPending : e'.startPending = e.startPending
  stop : e'.stop = e.stop ∨ ∃ call ∈ front, call.continuation.stopsEntry e = true

/-- What is known of `b` when the CALLs of `front` have failed since `a`. -/
structure Drained (a : Actor) (front : List PendingCall) (b : Actor) : Prop where
  flat : Flat b
  calls : b.calls = []
  talk : b.canTalk = a.canTalk
  registry : b.registry = a.registry
  limits : b.invalidLimits = a.invalidLimits
  sent : ∀ id, (b.tracker id).lastSent = (a.tracker id).lastSent ∨ ∃ key, (a.tracker id).lastSent = some key ∧
    ∃ call ∈ front, call.continuation.unreports id key = true
  other : ∀ id, (∀ call ∈ front, call.continuation.endsOn ≠ some id) → b.findConnector id = a.findConnector id
  fewer : ∀ id c', b.findConnector id = some c' → ∃ c, a.findConnector id = some c ∧ c'.meterWh = c.meterWh ∧
    (c'.transaction = c.transaction ∨ c'.transaction = .idle)
  boot : a.syncBoot = false → b.syncBoot = false
  keys : ∀ key ∈ b.syncKeys, key ∈ a.syncKeys
  queue : ∀ e' ∈ b.queue, a.nextLocal < e'.key ∨ ∃ e ∈ a.queue, Entered front e e'
  counter : a.nextLocal ≤ b.nextLocal

variable {call : PendingCall}

theorem Entered.more {e e' : OfflineTx} (h : Entered front e e') (call : PendingCall) :
    Entered (front ++ [call]) e e' :=
  ⟨h.key, h.connector, h.txId, h.startPending, h.stop.imp_right fun ⟨d, mem, stops⟩ => ⟨d, List.mem_append_left _ mem, stops⟩⟩

/-- One more CALL has failed: what became of the connectors, of the reports and of the queue. -/
theorem Drained.more (h : Drained a front b) (quiet : Hush (fun id => call.continuation.endsOn = some id) b b')
    (boot : b.syncBoot = false → b'.syncBoot = false) (keys : ∀ key ∈ b'.syncKeys, key ∈ b.syncKeys)
    (queue : ∀ e' ∈ b'.queue, b.nextLocal < e'.key ∨ ∃ d ∈ b.queue, Entered [call] d e')
    (counter : b.nextLocal ≤ b'.nextLocal) : Drained a (front ++ [call]) b' where
  flat := quiet.flat
  calls := quiet.calls.trans h.calls
  talk := quiet.talk.trans h.talk
  registry := quiet.registry.trans h.registry
  limits := quiet.limits.trans h.limits
  sent id := by
    rw [quiet.sent]
    exact (h.sent id).imp_right fun ⟨key, last, d, mem, takes⟩ => ⟨key, last, d, List.mem_append_left _ mem, takes⟩
  other id untouched := by
    have apart : call.continuation.endsOn ≠ some id := untouched call (by simp)
    exact (quiet.other id apart).trans (h.other id fun d mem => untouched d (List.mem_append_left _ mem))
  fewer id c' found := by
    obtain ⟨d, mid, meter, transaction⟩ := quiet.fewer id c' found
    obtain ⟨c, before, meter', transaction'⟩ := h.fewer id d mid
    refine ⟨c, before, meter.trans meter', ?_⟩
    rcases transaction with same | idle
    · rw [same]
      exact transaction'
    · exact .inr idle
  boot none := boot (h.boot none)
  keys key mem := h.keys key (keys key mem)
  queue e' mem := by
    rcases queue e' mem with late | ⟨d, there, entered⟩
    · exact .inl (h.counter.trans_lt late)
    · rcases h.queue d there with late | ⟨e, known, earlier⟩
      · exact .inl (entered.key ▸ late)
      · refine .inr ⟨e, known, entered.key.trans earlier.key, entered.connector.trans earlier.connector,
          entered.txId.trans earlier.txId, entered.startPending.trans earlier.startPending, ?_⟩
        rcases entered.stop with same | ⟨stopping, mem, stops⟩
        · rw [same]
          exact (earlier.more call).stop
        · refine .inr ⟨stopping, List.mem_append_right _ mem, ?_⟩
          have alike : stopping.continuation.stopsEntry d = stopping.continuation.stopsEntry e := by
            unfold Cont.stopsEntry OfflineQueue.isTxOn
            rw [earlier.txId, earlier.connector]
          exact alike ▸ stops
  counter := h.counter.trans counter

/-- The sync does not notice the CALL. -/
theorem Drained.moreSilent (h : Drained a front b)
    (silent : Silent (fun id => call.continuation.endsOn = some id) b b') : Drained a (front ++ [call]) b' := by
  have boot : b'.syncBoot = b.syncBoot := congrArg QueueBooks.boot silent.books
  have keys : b'.syncKeys = b.syncKeys := congrArg QueueBooks.keys silent.books
  have queue : b'.queue = b.queue := congrArg QueueBooks.queue silent.books
  have counter : b'.nextLocal = b.nextLocal := congrArg QueueBooks.counter silent.books
  refine h.more silent.hush (fun none => boot.trans none) (fun key mem => keys ▸ mem) (fun e mem => ?_) counter.ge
  exact .inr ⟨e, queue ▸ mem, rfl, rfl, rfl, rfl, .inl rfl⟩

theorem Drained.unsaid (h : Drained a front b) (reported : a.Reported front id f) : b.Unsaid id f := by
  unfold Unsaid
  rw [h.registry]
  refine reported.imp_right fun ⟨first, shown⟩ c found => ?_
  rw [h.other id first] at found
  obtain ⟨last, kept⟩ := shown c found
  rcases h.sent id with same | ⟨key, last', d, mem, takes⟩
  · exact same.trans last
  · rw [last] at last'
    cases last'
    rw [kept d mem] at takes
    cases takes

/-- The CALL changes nothing but what `Face` and `QueueBooks` leave out. -/
theorem Drained.aside (h : Drained a front b) (same : b'.face = b.face) (books : b'.books = b.books) :
    Drained a (front ++ [call]) b' := h.moreSilent (.of_face h.flat same books)

/-- The stop of a transaction goes into the queue. -/
theorem queueStop_books (call : PendingCall) (a : Actor) (id : ConnectorId) (tx : TxId) (tag : IdTag) (startedAt : Instant)
    (meterStartWh : Nat) (info : StopInfo) (cont : ∀ e, call.continuation.stopsEntry e = OfflineQueue.isTxOn id tx e) :
    (a.queueStop id tx tag startedAt meterStartWh info).2.face = a.face ∧
      (a.queueStop id tx tag startedAt meterStartWh info).2.syncBoot = a.syncBoot ∧
      (a.queueStop id tx tag startedAt meterStartWh info).2.syncKeys = a.syncKeys ∧
      (∀ e' ∈ (a.queueStop id tx tag startedAt meterStartWh info).2.queue,
        a.nextLocal < e'.key ∨ ∃ e ∈ a.queue, Entered [call] e e') ∧
      a.nextLocal ≤ (a.queueStop id tx tag startedAt meterStartWh info).2.nextLocal := by
  unfold queueStop
  split
  · refine ⟨rfl, rfl, rfl, fun e' mem => .inr ?_, le_rfl⟩
    rcases mem_updateFirst mem with kept | ⟨d, known, own, rfl⟩
    · exact ⟨e', kept, rfl, rfl, rfl, rfl, .inl rfl⟩
    · refine ⟨d, known, rfl, rfl, rfl, rfl, .inr ⟨call, List.mem_singleton_self _, ?_⟩⟩
      rw [cont]
      exact own
  · unfold nextKey pushQueue
    dsimp only
    generalize pushed : OfflineQueue.push a.queue _ = result
    have entries (e' : OfflineTx) (mem : e' ∈ result.1) :
        a.nextLocal < e'.key ∨ ∃ e ∈ a.queue, Entered [call] e e' := by
      rw [← pushed] at mem
      rcases mem_push mem with kept | rfl
      · exact .inr ⟨e', kept, rfl, rfl, rfl, rfl, .inl rfl⟩
      · exact .inl (Nat.lt_succ_self _)
    split <;> exact ⟨rfl, rfl, rfl, entries, Nat.le_succ _⟩

theorem onStopResult_drained (h : Drained a front b) {id : ConnectorId} {tx : TxId} {tag : IdTag}
    {startedAt : Instant} {meterStartWh : Nat} {info : StopInfo} {done : Done}
    (cont : call.continuation = .stopResult id tx tag startedAt meterStartWh info done)
    (reported : a.Reported front id (forgetTransaction tx)) :
    Drained a (front ++ [call])
      (onStopResult id tx tag startedAt meterStartWh info done (.error (.closed none)) b) := by
  obtain ⟨same, boot, keys, queue, counter⟩ := queueStop_books call b id tx tag startedAt meterStartWh info fun e => by
    rw [cont]; rfl
  have own : call.continuation.endsOn = some id := by rw [cont]; rfl
  unfold onStopResult
  dsimp only
  generalize b.queueStop id tx tag startedAt meterStartWh info = queued at same boot keys queue counter ⊢
  have entered : Hush (fun id => call.continuation.endsOn = some id) b queued.2 := .of_face h.flat same
  have unsaid : queued.2.Unsaid id (forgetTransaction tx) := by
    unfold Unsaid
    rw [entered.registry, entered.sent, find_of_face same]
    exact h.unsaid reported
  have finished : Silent (fun id => call.continuation.endsOn = some id) queued.2 (queued.2.finishStop id tx) :=
    finishStop_silent entered.flat own unsaid
  obtain ⟨armed, trimmed⟩ := armSyncRetryIfIdle_hush (fun id => call.continuation.endsOn = some id) finished.hush.flat
  obtain ⟨doneFace, doneBooks⟩ := runDone_error_face done (callFailure (.closed none))
    (queued.2.finishStop id tx).armSyncRetryIfIdle
  have hush := (entered.trans finished.hush).trans (armed.trans (.of_face armed.flat doneFace))
  -- the failure is that of the link, so it does not count against the entry
  change Drained a (front ++ [call]) (runDone done (.error (callFailure (.closed none)))
    (queued.2.finishStop id tx).armSyncRetryIfIdle)
  have ends : Trimmed queued.2.books (runDone done (.error (callFailure (.closed none)))
      (queued.2.finishStop id tx).armSyncRetryIfIdle).books := by
    rw [doneBooks, ← finished.books]
    exact trimmed
  refine h.more hush (fun none => ?_) (fun key mem => ?_) (fun e mem => queue e (ends.queue.subset mem)) ?_
  · exact (ends.boot.trans boot).trans none
  · have listed : (runDone done (.error (callFailure (.closed none)))
        (queued.2.finishStop id tx).armSyncRetryIfIdle).syncKeys = b.syncKeys := ends.keys.trans keys
    exact listed ▸ mem
  · exact counter.trans ends.counter.ge

/-- The CALL of a sync that has nothing left to send. -/
theorem syncDone_drained (h : Drained a front b) (boot : a.syncBoot = false)
    (drawn : ∀ key ∈ a.syncKeys, key ≤ a.nextLocal)
    (nothing : ∀ e ∈ a.queue, e.key ∈ a.syncKeys →
      e.startPending = false ∧ stopOf e = none ∧ ∀ call ∈ front, call.continuation.stopsEntry e = false) :
    Drained a (front ++ [call]) b.syncDone := by
  have empty : ∀ key ∈ b.syncKeys, b.syncCallOf key = none := by
    intro key mem
    have left := h.keys key mem
    unfold syncCallOf
    cases found : OfflineQueue.get b.queue key with
    | none => rfl
    | some e' =>
      have own : e'.key = key := by simpa using List.find?_some found
      rcases h.queue e' (List.mem_of_find?_eq_some found) with late | ⟨e, known, entered⟩
      · have := drawn key left
        omega
      · obtain ⟨sent, silent, untouched⟩ := nothing e known (by rw [← entered.key, own]; exact left)
        have stop : e'.stop = e.stop := entered.stop.resolve_right fun ⟨d, mem, stops⟩ => by
          rw [untouched d mem] at stops
          cases stops
        have none : stopOf e' = none := by
          unfold stopOf at silent ⊢
          rw [stop, entered.txId]
          split at silent
          · cases silent
          · rfl
        rw [Option.bind_some, if_neg (by rw [entered.startPending, sent]; exact Bool.false_ne_true), none]
  have ended : b.syncDone = ({ b with syncKeys := [], syncOutstanding := 0 } : Actor).armSyncRetryIfIdle :=
    runSyncWith_nothing b.syncKeys { b with syncOutstanding := b.syncOutstanding - 1 } empty (h.boot boot)
  rw [ended]
  have cleared : Hush (fun id => call.continuation.endsOn = some id) b
      { b with syncKeys := [], syncOutstanding := 0 } := .of_face h.flat rfl
  obtain ⟨armed, trimmed⟩ := armSyncRetryIfIdle_hush (fun id => call.continuation.endsOn = some id) cleared.flat
  refine h.more (cleared.trans armed) (fun none => trimmed.boot.trans none) (fun key mem => ?_) (fun e mem => .inr ?_)
    trimmed.counter.ge
  · have none : ({ b with syncKeys := [], syncOutstanding := 0 } : Actor).armSyncRetryIfIdle.syncKeys = [] :=
      trimmed.keys
    rw [none] at mem
    cases mem
  · exact ⟨e, trimmed.queue.subset mem, rfl, rfl, rfl, rfl, .inl rfl⟩

/-- A status that could not be reported is no longer the one reported last. -/
theorem onStatusResult_drained (h : Drained a front b) {id : ConnectorId} {key : StatusKey} {reply : Option Reply}
    (cont : call.continuation = .status id key reply) :
    Drained a (front ++ [call]) (onStatusResult id key reply (.error (.closed none)) b) := by
  obtain ⟨same, books⟩ := replyIf_face (b.setTracker id (markFailed (b.tracker id) key)) reply
    (.error (callFailure (.closed none)))
  have trackers : (onStatusResult id key reply (.error (.closed none)) b).trackers =
      (b.setTracker id (markFailed (b.tracker id) key)).trackers := congrArg Face.trackers same
  have find : (onStatusResult id key reply (.error (.closed none)) b).findConnector = b.findConnector :=
    (find_of_face same).trans rfl
  have keys : (onStatusResult id key reply (.error (.closed none)) b).syncKeys = b.syncKeys :=
    congrArg QueueBooks.keys books
  have queue : (onStatusResult id key reply (.error (.closed none)) b).queue = b.queue := congrArg QueueBooks.queue books
  have taken : Flat (b.setTracker id (markFailed (b.tracker id) key)) :=
    ⟨h.flat.distinct, h.flat.fits, h.flat.metered⟩
  have quiet : Hush (fun _ => False) (b.setTracker id (markFailed (b.tracker id) key))
      (onStatusResult id key reply (.error (.closed none)) b) := .of_face taken same
  refine ⟨quiet.flat, quiet.calls.trans h.calls, quiet.talk.trans h.talk, quiet.registry.trans h.registry,
    quiet.limits.trans h.limits, fun other => ?_, fun other untouched => ?_, fun other c' found => ?_,
    fun none => (congrArg QueueBooks.boot books).trans (h.boot none), fun k mem => h.keys k (keys ▸ mem),
    fun e mem => ?_, h.counter.trans (congrArg QueueBooks.counter books).ge⟩
  · rw [quiet.sent, tracker_setTracker]
    have earlier : (b.tracker other).lastSent = (a.tracker other).lastSent ∨ ∃ key,
        (a.tracker other).lastSent = some key ∧ ∃ d ∈ front ++ [call], d.continuation.unreports other key = true :=
      (h.sent other).imp_right fun ⟨key, last, d, mem, takes⟩ => ⟨key, last, d, List.mem_append_left _ mem, takes⟩
    split
    · rename_i own
      subst own
      unfold markFailed
      split
      · rename_i last
        rcases earlier with same | known
        · refine .inr ⟨key, same.symm.trans last, call, List.mem_append_right _ (List.mem_singleton_self _), ?_⟩
          rw [cont]
          exact decide_eq_true ⟨rfl, rfl⟩
        · exact .inr known
      · exact earlier
    · exact earlier
  · exact (congrFun find other).trans (h.other other fun d mem => untouched d (List.mem_append_left _ mem))
  · exact h.fewer other c' ((congrFun find other).symm.trans found)
  · exact (h.queue e (queue ▸ mem)).imp_right fun ⟨d, known, entered⟩ => ⟨d, known, entered.more call⟩

/-- A register that has not reached its limit stops nothing. -/
theorem checkEnergyLimit_drained (h : Drained a front b)
    (within : ∀ limit c, a.invalidLimits.lookup id = some limit → a.findConnector id = some c →
      limit ≤ c.meterWh → c.transaction = .idle) : b.checkEnergyLimit id = b := by
  unfold checkEnergyLimit
  split
  · rename_i limit c' known found
    obtain ⟨c, before, meter, transaction⟩ := h.fewer id c' found
    rw [h.limits] at known
    refine if_neg fun reached => ?_
    simp only [Bool.and_eq_true, decide_eq_true_eq, Bool.not_eq_true', meter] at reached
    have idle : c'.transaction = .idle :=
      transaction.elim (fun same => same.trans (within limit c known before reached.1)) fun idle => idle
    rw [idle] at reached
    cases reached.2
  · rfl

/-- The next CALL fails. -/
theorem complete_drained (h : Drained a front b) (drawn : ∀ key ∈ a.syncKeys, key ≤ a.nextLocal)
    (harmless : a.Harmless front call.continuation) :
    Drained a (front ++ [call]) (complete call (.error (.closed none)) b) := by
  have recorded : Drained a front (b.record (.completed call (.error (.closed none)))) :=
    ⟨⟨h.flat.distinct, h.flat.fits, h.flat.metered⟩, h.calls, h.talk, h.registry, h.limits, h.sent, h.other, h.fewer,
      h.boot, h.keys, h.queue, h.counter⟩
  unfold complete
  generalize b.record (.completed call (.error (.closed none))) = b at recorded
  cases cont : call.continuation with
  | startResult id localId pending done =>
    rw [cont] at harmless
    have own : call.continuation.endsOn = some id := by rw [cont]; rfl
    change Drained a (front ++ [call]) (runDone done (.error (callFailure (.closed none)))
      (if decide ((b.findConnector id).bind (·.txId) = some localId) then b.abandonStart id else b))
    have abandoned : Silent (fun id => call.continuation.endsOn = some id) b
        (if decide ((b.findConnector id).bind (·.txId) = some localId) then b.abandonStart id else b) := by
      split
      · rename_i ours
        refine abandonStart_silent recorded.flat own (recorded.unsaid (harmless.resolve_left fun foreign => ?_))
        -- a connector that holds the start now held it before
        obtain ⟨c', found, tx⟩ := Option.bind_eq_some_iff.mp (of_decide_eq_true ours)
        obtain ⟨c, before, -, same | idle⟩ := recorded.fewer id c' found
        · refine foreign ?_
          rw [before, Option.bind_some, ← tx]
          unfold ConnectorSnapshot.txId
          rw [same]
        · unfold ConnectorSnapshot.txId at tx
          rw [idle] at tx
          cases tx
      · exact .of_face recorded.flat rfl rfl
    obtain ⟨face, books⟩ := runDone_error_face done (callFailure (.closed none))
      (if decide ((b.findConnector id).bind (·.txId) = some localId) then b.abandonStart id else b)
    exact recorded.moreSilent (abandoned.trans (.of_face abandoned.hush.flat face books))
  | stopResult id tx tag startedAt meterStartWh info done =>
    rw [cont] at harmless
    exact onStopResult_drained recorded cont harmless
  | syncStart key =>
    rw [cont] at harmless
    exact syncDone_drained recorded harmless.1 drawn harmless.2
  | syncStop key info =>
    rw [cont] at harmless
    exact syncDone_drained recorded harmless.1 drawn harmless.2
  | closeRefused session => exact recorded.aside rfl rfl
  | authorize idTag done =>
    cases done with
    | reply reply => exact recorded.aside rfl rfl
    | remoteStart id idTag profile => exact recorded.aside rfl rfl
  | boot generation reply =>
    obtain ⟨face, books⟩ := onBootDone_face generation reply (.closed none) b
    exact recorded.aside face books
  | heartbeat reply =>
    obtain ⟨face, books⟩ := replyIf_face b reply (.error (callFailure (.closed none)))
    exact recorded.aside face books
  | status id key reply => exact onStatusResult_drained recorded cont
  | meterValues id reply =>
    rw [cont] at harmless
    obtain ⟨face, books⟩ := replyIf_face b reply (.error (callFailure (.closed none)))
    have answered : Drained a (front ++ [call]) (b.replyIf reply (.error (callFailure (.closed none)))) :=
      recorded.aside face books
    change Drained a (front ++ [call]) ((b.replyIf reply (.error (callFailure (.closed none)))).checkEnergyLimit id)
    rw [checkEnergyLimit_drained answered harmless]
    exact answered
  | securityEvent event =>
    obtain ⟨face, books⟩ := onSecurityEventResult_face event (.closed none) b
    exact recorded.aside face books
  | signCertificate series key previous reply =>
    obtain ⟨face, books⟩ := onSignResult_face series key previous reply (.closed none) b
    exact recorded.aside face books
  | userCall reply => exact recorded.aside rfl rfl
  | ignore => exact recorded.aside rfl rfl

/-- All of them fail. -/
theorem completeAll_drained (drawn : ∀ key ∈ a.syncKeys, key ≤ a.nextLocal)
    (harmless : ∀ front call back, a.calls = front ++ call :: back → a.Harmless front call.continuation)
    (front back : List PendingCall) (split : a.calls = front ++ back) (h : Drained a front b) :
    (back.foldl (fun b call => complete call (.error (.closed none)) b) b).calls = [] := by
  induction back generalizing front b with
  | nil => exact h.calls
  | cons call back ih =>
    rw [List.foldl_cons]
    refine ih (front ++ [call]) (by rw [split]; simp) ?_
    exact complete_drained h drawn (harmless front call back split)

/-- The CALLs in flight fail, and no new one is placed. -/
theorem drain_quiet (a : Actor) (distinct : (a.connectors.map (·.id)).Nodup)
    (drawn : ∀ key ∈ a.syncKeys, key ≤ a.nextLocal) (quiet : a.flushMeters.FailsQuietly) : a.drain.calls = [] := by
  have flat := flushMeters_flat distinct
  have books := a.flushMeters_books
  unfold drain failPendingCalls
  dsimp only
  generalize a.flushMeters = b at flat books quiet
  let empty : Actor := { b with link := { b.link with wanted := false }, timers := [], calls := [] }
  rcases quiet with silent | harmless
  · have mute : Mute (empty.failing b.calls).dealings :=
      List.foldlRecOn (motive := fun c : Actor => Mute c.dealings) _ _ ⟨rfl, silent⟩ fun _ mute call _ =>
        complete_mute mute call
    exact mute.calls
  · have keys : b.syncKeys = a.syncKeys := congrArg QueueBooks.keys books
    have counter : b.nextLocal = a.nextLocal := congrArg QueueBooks.counter books
    refine completeAll_drained (a := b) (b := empty) ?_ harmless [] b.calls rfl ?_
    · rw [keys, counter]
      exact drawn
    · exact ⟨⟨flat.distinct, flat.fits, flat.metered⟩, rfl, rfl, rfl, rfl, fun _ => .inl rfl, fun _ _ => rfl,
        fun _ c found => ⟨c, found, rfl, .inl rfl⟩, fun none => none, fun _ mem => mem,
        fun e mem => .inr ⟨e, mem, rfl, rfl, rfl, rfl, .inl rfl⟩, le_rfl⟩

end Actor

end KirbyOcpp
