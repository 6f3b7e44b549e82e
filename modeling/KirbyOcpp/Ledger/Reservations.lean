import KirbyOcpp.Ledger.TxIds

/-!
# Reservations in the ledger

The ids of the reservations stay distinct, a connector that shows `Reserved` has one as long as no status is
set by hand, and a start that waits for its answer passes the reservation of its connector.

A start is checked before its CALL and consumes the reservation after the answer. In between its connector is
not idle, so that its slot can only be emptied: what the check saw is what is consumed. **The rule**
`orderly_preserved` says so for every transition.
-/

namespace KirbyOcpp

open Paths Relation

variable {allow : Allow} {l l' : Ledger} {c c' : ConnectorSnapshot}

/-! ## One connector -/

/-- The start that the connector waits for passes its reservation. -/
def ConnectorSnapshot.Admitted (c : ConnectorSnapshot) : Prop :=
  ∀ p r, c.transaction = .pendingStart p → c.reservation = some r → p.Passes r

theorem applied_reservation (pending : Option AvailabilityType) (c : ConnectorSnapshot) :
    (c.applied pending).reservation = c.reservation := by
  cases pending <;> rfl

theorem statusAfterAvailabilityChange_booked {kind : AvailabilityType}
    (reserved : statusAfterAvailabilityChange c kind = .reserved) : c.reservation.isSome = true := by
  unfold statusAfterAvailabilityChange at reserved
  repeat' split at reserved
  all_goals try cases reserved
  assumption

theorem Booked.applied (booked : c.Booked) (pending : Option AvailabilityType) : (c.applied pending).Booked := by
  cases pending with
  | none => exact booked
  | some kind => exact statusAfterAvailabilityChange_booked (c := { c with pendingAvailability := none, availability := kind })

theorem changedAvailability_reservation (kind : AvailabilityType) (c : ConnectorSnapshot) :
    (Actor.changedAvailability kind c).reservation = c.reservation := by
  unfold Actor.changedAvailability
  dsimp only
  split <;> rfl

theorem forgetTransaction_reservation (tx : TxId) (c : ConnectorSnapshot) :
    (Actor.forgetTransaction tx c).reservation = c.reservation := by
  unfold Actor.forgetTransaction
  split <;> rfl

theorem activatedConnector_reservation (localId real : TxId) (entry : OfflineTx) (c : ConnectorSnapshot) :
    (Actor.activatedConnector localId real entry c).reservation = c.reservation := by
  unfold Actor.activatedConnector
  dsimp only
  split <;> rfl

theorem droppedConnector_reservation (localId : TxId) (c : ConnectorSnapshot) :
    (Actor.droppedConnector localId c).reservation = c.reservation := by
  unfold Actor.droppedConnector
  split <;> rfl

/-- A reservation ends or stays, unless a connector without a transaction gets one. -/
theorem Edit.reservation (h : Edit allow l c c') :
    c'.reservation = none ∨ c'.reservation = c.reservation ∨ c.transaction.isIdle = true := by
  cases h with
  | mild h => exact h.reservation
  | powered h => exact h.reservation.imp_right .inl
  | change kind => exact .inr (.inl (changedAvailability_reservation kind c))
  | changeStation => exact .inr (.inl rfl)
  | start => exact .inr (.inl rfl)
  | charge => exact .inl (clearReservation_reservation c)
  | abandon => exact .inr (.inl (applied_reservation _ _))
  | activate => exact .inl (clearReservation_reservation _)
  | halt _ _ h => exact .inr (.inl h.reservation)
  | mark => exact .inr (.inl rfl)
  | forget tx => exact .inr (.inl ((applied_reservation _ _).trans (forgetTransaction_reservation tx c)))
  | assign localId transactionId entry => exact .inr (.inl (activatedConnector_reservation localId _ entry c))
  | drop localId => exact .inr (.inl ((applied_reservation _ _).trans (droppedConnector_reservation localId c)))

/-- A connector shows a reservation only if it has one, as long as no status is set by hand. -/
theorem Edit.booked (unmanual : allow.manual = false) (h : Edit allow l c c') (booked : c.Booked) :
    c'.Booked := by
  cases h with
  | mild h => exact h.booked booked
  | powered h => exact h.booked.resolve_left (by simp [unmanual]) booked
  | change kind =>
    unfold Actor.changedAvailability
    dsimp only
    split
    · exact booked
    · exact Booked.applied booked (some kind)
  | changeStation kind =>
    intro reserved
    unfold Actor.stationAvailability chargePointStatus at reserved
    dsimp only at reserved
    repeat' split at reserved
    all_goals cases reserved
  | start pending =>
    intro reserved
    unfold Actor.startedConnector at reserved
    dsimp only at reserved
    split at reserved
    · cases reserved
    · exact booked reserved
  | charge => exact nofun
  | abandon =>
    refine Booked.applied (fun reserved => ?_) _
    unfold Actor.abandonedConnector at reserved
    dsimp only at reserved
    repeat' split at reserved
    all_goals first | cases reserved | exact booked reserved
  | activate => exact nofun
  | halt _ _ h => exact fun reserved => absurd reserved h.reserved
  | mark => exact booked
  | forget tx =>
    refine Booked.applied ?_ _
    unfold Actor.forgetTransaction
    split <;> exact booked
  | assign =>
    unfold Actor.activatedConnector
    dsimp only
    split <;> exact booked
  | drop localId =>
    refine Booked.applied ?_ _
    unfold Actor.droppedConnector
    split
    · intro reserved
      dsimp only at reserved
      repeat' split at reserved
      all_goals cases reserved
    · exact booked

/-- A start that waits has waited before, or has just passed the reservation of its connector. -/
theorem Edit.waits {p : PendingStart} (h : Edit allow l c c') (waits : c'.transaction = .pendingStart p) :
    c.transaction = .pendingStart p ∨ ∀ r, c'.reservation = some r → p.Passes r := by
  cases h with
  | mild h => exact .inl (h.transaction ▸ waits)
  | powered h => exact .inl (h.transaction ▸ waits)
  | change kind =>
    unfold Actor.changedAvailability at waits
    dsimp only at waits
    split at waits
    · exact .inl waits
    · exact .inl waits
  | changeStation => exact .inl waits
  | start q idle key usable operative starts passes =>
    obtain rfl : q = p := by simpa [Actor.startedConnector] using waits
    exact .inr passes
  | charge => exact .inl ((clearReservation_transaction c).symm.trans waits)
  | abandon =>
    rw [applied_transaction] at waits
    cases waits
  | activate =>
    have waits := (clearReservation_transaction _).symm.trans waits
    cases waits
  | halt _ _ h => exact .inl (h.transaction ▸ waits)
  | mark => cases waits
  | forget tx =>
    rw [applied_transaction] at waits
    unfold Actor.forgetTransaction at waits
    split at waits
    · cases waits
    · exact .inl waits
  | assign =>
    unfold Actor.activatedConnector at waits
    dsimp only at waits
    split at waits
    · cases waits
    · exact .inl waits
  | drop =>
    rw [applied_transaction] at waits
    unfold Actor.droppedConnector at waits
    split at waits
    · cases waits
    · exact .inl waits

/-- A start that waits goes on passing the reservation of its connector. -/
theorem Edit.admitted (h : Edit allow l c c') (admitted : c.Admitted) : c'.Admitted := by
  intro p r waits held
  rcases h.waits waits with before | passes
  · rcases h.reservation with gone | kept | idle
    · rw [gone] at held
      cases held
    · exact admitted p r before (kept ▸ held)
    · simp [before, TransactionState.isIdle] at idle
  · exact passes r held

/-! ## The connectors of the ledger -/

/-- No connector gets a reservation that another one holds. -/
theorem Trans.distinct (step : Trans allow l l') (h : DistinctReservations l.connectors) :
    DistinctReservations l'.connectors := by
  have update (id : ConnectorId) (f : ConnectorSnapshot → ConnectorSnapshot)
      (connectors : l'.connectors = (l.update id f).connectors)
      (kept : ∀ c ∈ l.connectors, c.id = id → (f c).id = c.id ∧
        ((f c).reservation = none ∨ (f c).reservation = c.reservation)) : DistinctReservations l'.connectors := by
    rw [connectors, l.update_connectors]
    refine h.lapse (fun c mem => updated_id fun same => (kept c mem same).1) fun c mem => ?_
    unfold updated
    split
    · rename_i same
      exact (kept c mem same.2).2
    · exact .inr rfl
  have forget (id : ConnectorId) (tx : TxId) (pending : Option AvailabilityType)
      (connectors : l'.connectors = (l.update id fun c =>
        (Actor.forgetTransaction tx c).applied pending).connectors) : DistinctReservations l'.connectors :=
    update id _ connectors fun c _ _ =>
      ⟨by simp, .inr ((applied_reservation _ _).trans (forgetTransaction_reservation tx c))⟩
  cases step with
  | quiet step =>
    cases step with
    | reshape f _ distinct => exact distinct h
    | _ => exact h
  | power f changes kept =>
    refine h.lapse (fun c mem => ?_) kept
    rcases changes c mem with mild | powered
    · exact mild.id
    · exact powered.id
  | change id kind =>
    exact update id _ rfl fun c _ _ => ⟨by simp, .inr (changedAvailability_reservation kind c)⟩
  | grow id =>
    have held {d : ConnectorSnapshot} (mem : d ∈ l.connectors ++ [newConnector id]) {r : Reservation}
        (holds : d.reservation = some r) : d ∈ l.connectors := by
      rcases List.mem_append.mp mem with old | fresh
      · exact old
      · obtain rfl := List.mem_singleton.mp fresh
        cases holds
    exact fun c mem d mem' r s holds holds' => h c (held mem holds) d (held mem' holds') r s holds holds'
  | openStart id => exact update id _ rfl fun c _ _ => ⟨by simp, .inr rfl⟩
  | charge id => exact update id _ rfl fun c _ _ => ⟨by simp, .inl (clearReservation_reservation c)⟩
  | abandonStart id =>
    exact update id _ rfl fun c _ _ => ⟨by simp, .inr (applied_reservation _ _)⟩
  | activate id => exact update id _ rfl fun c _ _ => ⟨by simp, .inl (clearReservation_reservation _)⟩
  | refuseOpened id =>
    exact update id _ rfl fun c _ _ => ⟨by simp, .inr (applied_reservation _ _)⟩
  | beginStop id c tx info f hand found target kept =>
    exact update id f rfl fun d mem same => ⟨(kept d mem same).id, .inr (kept d mem same).reservation⟩
  | markStopping id => exact update id _ rfl fun c _ _ => ⟨rfl, .inr rfl⟩
  | queueStop id tx => exact forget id tx _ rfl
  | queueNewStop id tx => exact forget id tx _ rfl
  | confirmStop id tx => exact forget id tx _ rfl
  | assign key transactionId e =>
    exact update e.connector _ rfl fun c _ _ => ⟨by simp, .inr (activatedConnector_reservation _ _ e c)⟩
  | refuseQueued key transactionId e =>
    exact update e.connector _ rfl fun c _ _ =>
      ⟨by simp, .inr ((applied_reservation _ _).trans (droppedConnector_reservation _ c))⟩
  | _ => exact h

/-! ## The starts in flight -/

/-- The start whose answer a continuation awaits: its connector, the id it has there, the start. -/
def Cont.waits : Cont → Option (ConnectorId × TxId × PendingStart)
  | .startResult id localId pending _ => some (id, localId, pending)
  | _ => none

/-- The start that the hand holds. -/
def Hand.waits : Hand → Option (ConnectorId × TxId × PendingStart)
  | .start id pending => some (id, pending.txId, pending)
  | .opened id localId pending _ => some (id, localId, pending)
  | _ => Option.none

/-- The starts past their check whose connector does not charge yet. -/
def Ledger.Waits (l : Ledger) (start : ConnectorId × TxId × PendingStart) : Prop :=
  l.hand.waits = some start ∨ ∃ call ∈ l.rest ++ l.calls, call.continuation.waits = some start

/-- A start in flight belongs to the connector that has its id. -/
structure Guarded (l : Ledger) (start : ConnectorId × TxId × PendingStart) : Prop where
  own : start.2.1 = start.2.2.txId
  key : ∃ key ≤ l.nextLocal, start.2.2.txId = .loc key
  connector : ∀ c ∈ l.connectors, c.id = start.1 → c.txId = some start.2.1 →
    c.transaction = .pendingStart start.2.2

theorem Cont.waits_of_isNeutral {k : Cont} (neutral : k.isNeutral = true) : k.waits = none := by
  cases k with
  | startResult => cases neutral
  | _ => rfl

theorem stopOf_waits {entry : OfflineTx} {request : Request} {cont : Cont}
    (stop : Actor.stopOf entry = some (request, cont)) : cont.waits = none := by
  unfold Actor.stopOf at stop
  split at stop
  · cases stop
    rfl
  · cases stop

/-- The completion of a CALL hands its start on, or ends it. -/
theorem ofResult_waits (continuation : Cont) (result : CallResult) {start : ConnectorId × TxId × PendingStart}
    (waits : (Hand.ofResult continuation result).waits = some start) : continuation.waits = some start := by
  unfold Hand.ofResult at waits
  cases continuation with
  | startResult =>
    dsimp only at waits
    split at waits
    · exact waits
    · cases waits
  | _ =>
    dsimp only at waits
    repeat' split at waits
    all_goals cases waits

/-- A start in flight was so before, or has just been checked. -/
theorem Trans.waits (step : Trans allow l l') {start : ConnectorId × TxId × PendingStart} (waits : l'.Waits start) :
    l.Waits start ∨ ∃ id pending, start = (id, pending.txId, pending) ∧ pending.txId = .loc (l.nextLocal + 1) ∧
      l'.nextLocal = l.nextLocal + 1 ∧
      ∀ c ∈ l'.connectors, c.id = id → c.transaction = .pendingStart pending := by
  have same (hand : l'.hand.waits = none ∨ l'.hand.waits = l.hand.waits)
      (calls : ∀ call ∈ l'.rest ++ l'.calls, call.continuation.waits = some start →
        l.Waits start) : l.Waits start := by
    rcases waits with held | ⟨call, mem, waits⟩
    · rcases hand with empty | hand
      · rw [empty] at held
        cases held
      · exact .inl (hand ▸ held)
    · exact calls call mem waits
  have known (call : PendingCall) (mem : call ∈ l.rest ++ l.calls) (waits : call.continuation.waits = some start) :
      l.Waits start := .inr ⟨call, mem, waits⟩
  have sent (new : PendingCall) (plain : new.continuation.waits = none) (call : PendingCall)
      (mem : call ∈ l.rest ++ (l.calls ++ [new])) (waits : call.continuation.waits = some start) :
      l.Waits start := by
    rw [← List.append_assoc, List.mem_append] at mem
    rcases mem with old | fresh
    · exact known call old waits
    · obtain rfl : call = new := by simpa using fresh
      rw [plain] at waits
      cases waits
  have filtered (p : PendingCall → Bool) (call : PendingCall) (mem : call ∈ l.rest ++ l.calls.filter p)
      (waits : call.continuation.waits = some start) : l.Waits start := by
    rcases List.mem_append.mp mem with rest | kept
    · exact known call (List.mem_append_left _ rest) waits
    · exact known call (List.mem_append_right _ (List.mem_of_mem_filter kept)) waits
  cases step with
  | quiet step =>
    cases step with
    | send new sends neutral => exact .inl (same (.inr rfl) (sent new (Cont.waits_of_isNeutral neutral)))
    | sendEvent new sends event events queue cont =>
      refine .inl (same (.inr rfl) (sent new ?_))
      rw [cont]
      rfl
    | _ => exact .inl (same (.inr rfl) known)
  | openStart id c pending hand found idle key =>
    rcases waits with held | ⟨call, mem, waits⟩
    · obtain rfl := Option.some.inj held
      refine .inr ⟨id, pending, rfl, key, rfl, fun d mem same => ?_⟩
      have mem : d ∈ (l.update id (Actor.startedConnector pending)).connectors := mem
      rw [l.update_connectors] at mem
      obtain ⟨d, known, rfl⟩ := List.mem_map.mp mem
      have physical := Ledger.physical_of_connector found
      have same : d.id = id := by rwa [updated_id fun _ => rfl] at same
      unfold updated
      rw [if_pos ⟨physical, same⟩]
      rfl
    · exact .inl (known call mem waits)
  | sendStart id pending new done hand sends cont =>
    refine .inl (same (.inl rfl) fun call mem told => ?_)
    have mem : call ∈ l.rest ++ (l.calls ++ [new]) := mem
    rw [← List.append_assoc, List.mem_append] at mem
    rcases mem with old | fresh
    · exact known call old told
    · obtain rfl : call = new := by simpa using fresh
      rw [cont] at told
      left
      rw [hand]
      exact told
  | takeCall call result hand rest running found =>
    rcases waits with held | ⟨other, mem, waits⟩
    · have mem := List.mem_append_right l.rest (List.mem_of_find?_eq_some found)
      exact .inl (known call mem (ofResult_waits _ _ held))
    · exact .inl (filtered _ other mem waits)
  | takeRest call rest error hand head =>
    rcases waits with held | ⟨other, mem, waits⟩
    · exact .inl (known call (by simp [head]) (ofResult_waits _ (.error error) held))
    · refine .inl (known other ?_ waits)
      rw [head]
      exact List.mem_cons_of_mem _ mem
  | abandon => exact .inl (same (.inr rfl) (filtered _))
  | sendClose session sync new hand sends cont =>
    refine .inl (same (.inl (by cases sync <;> rfl)) (sent new ?_))
    rw [cont]
    rfl
  | skipClose session sync => exact .inl (same (.inl (by cases sync <;> rfl)) known)
  | sendStop _ _ _ _ _ _ _ new _ _ sends cont =>
    refine .inl (same (.inl rfl) (sent new ?_))
    rw [cont]
    rfl
  | sendNext _ _ e _ _ new _ _ sends found message _ cont =>
    refine .inl (same (.inl rfl) (sent new ?_))
    rw [cont]
    rcases message with ⟨-, start⟩ | ⟨-, stop⟩
    · rw [← (Prod.mk.inj start).2]
      rfl
    · exact stopOf_waits stop
  | sendReady _ e _ _ new _ sends found stop _ cont =>
    refine .inl (same (.inl rfl) (sent new ?_))
    rw [cont]
    exact stopOf_waits stop
  | finishSync => exact .inl (same (.inl (by dsimp only; split <;> rfl)) known)
  | dropLink hand rest =>
    refine .inl (same (.inr rfl) fun call mem waits => known call ?_ waits)
    rw [rest]
    simpa [Ledger.dropLink] using mem
  | drain hand rest =>
    refine .inl (same (.inr rfl) fun call mem waits => known call ?_ waits)
    rw [rest]
    simpa using mem
  | _ => first | exact .inl (same (.inr rfl) known) | exact .inl (same (.inl rfl) known)

theorem Trans.nextLocal (step : Trans allow l l') : l.nextLocal ≤ l'.nextLocal := by
  cases step with
  | quiet step => exact step.frame.nextLocal.ge
  | openStart => exact Nat.le_succ _
  | queueNewStop => exact Nat.le_succ _
  | _ => exact le_rfl

/-- A start in flight stays with its connector, or the connector has given it up. -/
theorem Guarded.step {start : ConnectorId × TxId × PendingStart} (h : Guarded l start) (ids : Ids l)
    (step : Trans allow l l') : Guarded l' start := by
  obtain ⟨key, old, eq⟩ := h.key
  have named : start.2.1 = .loc key := h.own.trans eq
  refine ⟨h.own, ⟨key, old.trans step.nextLocal, eq⟩, fun c mem same held => ?_⟩
  obtain ⟨f, added, connectors, edits, new⟩ := (step.edits ids).connectors
  rw [connectors, List.mem_append] at mem
  rcases mem with mapped | fresh
  · obtain ⟨d, known, rfl⟩ := List.mem_map.mp mapped
    have edit := edits d known
    have guarded := h.connector d known (edit.id.symm.trans same)
    unfold ConnectorSnapshot.txId at held guarded
    rcases edit.transaction with kept | idle | ⟨p, eq, fresh, -⟩ | ⟨t, transactionId, eq, wire, -⟩ |
        ⟨s, eq, -, wire⟩
    · rw [kept] at held ⊢
      exact guarded held
    · cases state : (f d).transaction with
      | idle => simp [state, TransactionState.txId] at held
      | _ => simp [state, TransactionState.isIdle] at idle
    · -- the key of a new start has not been drawn before
      rw [eq] at held
      have held : p.txId = start.2.1 := Option.some.inj held
      rw [named, fresh] at held
      have held : l.nextLocal + 1 = key := TxId.loc.inj held
      omega
    · rw [eq] at held
      have held : t.txId = start.2.1 := Option.some.inj held
      rw [named, wire] at held
      cases held
    · rw [eq] at held
      have held : s.txId = start.2.1 := Option.some.inj held
      rw [held, named] at wire
      cases wire
  · obtain ⟨id, rfl, -⟩ := new c fresh
    cases held

/-! ## What begins to charge -/

/-- A reservation that was consumed had let the start pass. -/
def Event.Passed : Event → Prop
  | .charged _ pending consumed _ => ∀ r, consumed = some r → pending.Passes r
  | _ => True

theorem passed_of_isNeutral {event : Event} (neutral : event.isNeutral = true) : event.Passed := by
  cases event with
  | charged => cases neutral
  | _ => trivial

theorem Guarded.passes {id : ConnectorId} {localId : TxId} {pending : PendingStart}
    (h : Guarded l (id, localId, pending)) (admitted : ∀ c ∈ l.connectors, c.Admitted) (mem : c ∈ l.connectors)
    (same : c.id = id) (held : c.txId = some localId) (r : Reservation) (holds : c.reservation = some r) :
    pending.Passes r := by
  have waits : c.transaction = .pendingStart pending := h.connector c mem same held
  exact admitted c mem pending r waits holds

/-- What is consumed has let the start pass. -/
theorem Trans.passed (step : Trans allow l l') (station : l.chargePoint.transaction = .idle)
    (guarded : ∀ start, l.Waits start → Guarded l start) (admitted : ∀ c ∈ l.connectors, c.Admitted)
    (h : ∀ event ∈ l.history, event.Passed) : ∀ event ∈ l'.history, event.Passed := by
  have noted {event : Event} (passed : event.Passed) : ∀ e ∈ event :: l.history, e.Passed := by
    intro e mem
    rcases List.mem_cons.mp mem with rfl | old
    · exact passed
    · exact h e old
  have pushed (entry : OfflineTx) : ∀ e ∈ (l.push entry).history, e.Passed := by
    intro e mem
    rcases List.mem_append.mp mem with dropped | old
    · obtain ⟨lost, -, rfl⟩ := Option.map_eq_some_iff.mp (Option.mem_toList.mp dropped)
      trivial
    · exact h e old
  cases step with
  | quiet step =>
    cases step with
    | note event neutral => exact noted (passed_of_isNeutral neutral)
    | raise event =>
      intro e mem
      rcases List.mem_cons.mp mem with rfl | old
      · trivial
      · have passed : (Event.raised event).Passed := trivial
        exact noted passed e old
    | _ => first | exact h | exact noted trivial
  | charge id pending c hand found held =>
    obtain ⟨mem, same⟩ := Ledger.mem_of_connector found
    have waits : l.Waits (id, pending.txId, pending) := by
      left
      rw [hand]
      rfl
    exact noted fun r holds => (guarded _ waits).passes admitted mem same held r holds
  | @activate pending id localId transactionId c active hand found held =>
    have mem : c ∈ l.connectors ∧ c.id = id := by
      unfold Ledger.find at found
      split at found
      · obtain rfl := Option.some.inj found
        rw [txId_of_idle station] at held
        cases held
      · exact ⟨List.mem_of_find?_eq_some found, by simpa using List.find?_some found⟩
    have waits : l.Waits (id, localId, pending) := by
      left
      rw [hand]
      rfl
    exact noted fun r holds => (guarded _ waits).passes admitted mem.1 mem.2 held r holds
  | queueStart => exact pushed _
  | queueNewStop => exact pushed _
  | _ => first | exact h | exact noted trivial

/-! ## The books -/

/-- Connectors whose reservations are in order. -/
structure Orderly (connectors : List ConnectorSnapshot) : Prop where
  distinct : DistinctReservations connectors
  booked : ∀ c ∈ connectors, c.Booked
  admitted : ∀ c ∈ connectors, c.Admitted

/-- The books of the reservations are in order, and so are those of every file. -/
structure OrderlyBooks (l : Ledger) : Prop where
  orderly : Orderly l.connectors
  guarded : ∀ start, l.Waits start → Guarded l start
  passed : ∀ event ∈ l.history, event.Passed
  saved : ∀ data ∈ l.written, ∃ connectors, data.connectors = connectors.map Actor.persistedConnector ∧
    Orderly connectors

theorem newConnector_orderly (id : ConnectorId) : (newConnector id).Booked ∧ (newConnector id).Admitted :=
  ⟨nofun, nofun⟩

theorem Trans.orderly (step : Trans allow l l') (unmanual : allow.manual = false) (ids : Ids l)
    (h : Orderly l.connectors) : Orderly l'.connectors := by
  obtain ⟨f, added, connectors, edits, new⟩ := (step.edits ids).connectors
  have each (P : ConnectorSnapshot → Prop) (edited : ∀ c ∈ l.connectors, P (f c)) (fresh : ∀ id, P (newConnector id)) :
      ∀ c ∈ l'.connectors, P c := by
    intro c mem
    rw [connectors, List.mem_append] at mem
    rcases mem with mapped | fresh'
    · obtain ⟨d, old, rfl⟩ := List.mem_map.mp mapped
      exact edited d old
    · obtain ⟨id, rfl, -⟩ := new c fresh'
      exact fresh id
  refine ⟨step.distinct h.distinct, each _ (fun c mem => ?_) fun id => (newConnector_orderly id).1,
    each _ (fun c mem => ?_) fun id => (newConnector_orderly id).2⟩
  · exact (edits c mem).booked unmanual (h.booked c mem)
  · exact (edits c mem).admitted (h.admitted c mem)

theorem orderly_preserved (unmanual : allow.manual = false) :
    Preserves (Trans allow) fun l => (Ids l ∧ Worded l) ∧ OrderlyBooks l := by
  intro l l' step ⟨⟨ids, worded⟩, h⟩
  refine ⟨worded_preserved allow step ⟨ids, worded⟩, step.orderly unmanual ids h.orderly, fun start waits => ?_,
    step.passed worded.station h.guarded h.orderly.admitted h.passed, fun data mem => ?_⟩
  · rcases step.waits waits with before | ⟨id, pending, rfl, key, drawn, guarded⟩
    · exact (h.guarded start before).step ids step
    · exact ⟨rfl, ⟨_, drawn.ge, key⟩, fun c mem same _ => guarded c mem same⟩
  · rcases step.saved mem with old | ⟨-, now⟩
    · exact h.saved data old
    · exact ⟨l.connectors, now, h.orderly⟩

end KirbyOcpp
