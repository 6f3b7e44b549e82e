import KirbyOcpp.Laws.Station.Permissions
import KirbyOcpp.Ledger.Reservations

/-!
# Reservations: `reserve_now`, `cancel_reservation`, `expire_due`, `begin_charging`

A reservation is in the slot of one connector. `ReserveNow` fills a slot, and `begin_charging`, a
cancellation, the expiry and a reset empty it.

**The law** `reservations_kept`: in every reachable state without statuses set by hand the ids of the
reservations are distinct and a connector that shows `Reserved` has one; a `ReserveNow` that is refused
changes nothing after the release of what has expired, and one that is accepted leaves one reservation with its
id; and a reservation that was live when a start was checked and is consumed by it accepts its idTag.

* The wall clock may be set back between the check and the answer: then a reservation that had expired is
  consumed while it is live (`clock_set_back_consumes`).
-/

namespace KirbyOcpp

open Paths Relation

variable {allow : Allow} {l l' : Ledger}

/-! ## The start of a process -/

namespace Actor

private theorem withoutLostStart_reservation (queue : OfflineQueue) (c : ConnectorSnapshot) :
    (withoutLostStart queue c).reservation = c.reservation := by
  unfold withoutLostStart
  repeat' split
  all_goals rfl

private theorem withoutLostStop_reservation (c : ConnectorSnapshot) :
    (withoutLostStop c).reservation = c.reservation := by
  unfold withoutLostStop
  split <;> rfl

private theorem withAvailability_reservation (c : ConnectorSnapshot) :
    (withAvailability c).reservation = c.reservation := by
  unfold withAvailability
  repeat' split
  all_goals rfl

private theorem withoutLostStart_booked (queue : OfflineQueue) {c : ConnectorSnapshot} (booked : c.Booked) :
    (withoutLostStart queue c).Booked := by
  unfold withoutLostStart
  split
  · split
    · exact booked
    · intro reserved
      dsimp only at reserved
      repeat' split at reserved
      all_goals cases reserved
  · exact booked

private theorem withoutLostStop_booked {c : ConnectorSnapshot} (booked : c.Booked) : (withoutLostStop c).Booked := by
  unfold withoutLostStop
  split <;> exact booked

private theorem withAvailability_booked {c : ConnectorSnapshot} (booked : c.Booked) : (withAvailability c).Booked := by
  unfold withAvailability
  split
  · rename_i kind _
    split
    · exact statusAfterAvailabilityChange_booked (c := { c with pendingAvailability := none, availability := kind })
    · exact booked
  · exact booked

private theorem restoredConnector_booked {d : ConnectorSnapshot} (booked : d.Booked) (c : ConnectorSnapshot) :
    (restoredConnector (persistedConnector d) c).Booked := by
  intro reserved
  unfold restoredConnector at reserved
  dsimp only at reserved
  split at reserved
  · cases reserved
  · exact booked reserved

/-- A start that still waits after the repairs of a restart waited in the file. -/
theorem restored_waits {queue : OfflineQueue} {c : ConnectorSnapshot} {p : PendingStart}
    (waits : (withAvailability (withoutLostStop (withoutLostStart queue c))).transaction = .pendingStart p) :
    c.transaction = .pendingStart p := by
  rw [withAvailability_transaction, withoutLostStop_transaction] at waits
  split at waits
  · cases waits
  · rcases withoutLostStart_transaction queue c with same | idle
    · exact same.symm.trans waits
    · rw [idle] at waits
      cases waits

private theorem restoredConnector_waits {d c : ConnectorSnapshot} {p : PendingStart}
    (waits : (restoredConnector (persistedConnector d) c).transaction = .pendingStart p) :
    d.transaction = .pendingStart p := by
  unfold restoredConnector at waits
  dsimp only at waits
  split at waits
  · cases waits
  · cases waits
  · exact waits

/-- A connector of a process that starts from a file of `connectors`. -/
structure Restored (connectors : List ConnectorSnapshot) (c : ConnectorSnapshot) : Prop where
  booked : c.Booked
  admitted : c.Admitted
  source : ∀ r, c.reservation = some r → ∃ d ∈ connectors, d.id = c.id ∧ d.reservation = some r

private theorem mem_restore_restored {config : StationConfig} {registry : ConfigRegistry} {now : Instant} {mono : Int}
    {saved : PersistedStation} {connectors : List ConnectorSnapshot}
    (source : saved.connectors = connectors.map persistedConnector) (nodup : (saved.connectors.map (·.id)).Nodup)
    (orderly : Orderly connectors) {c : ConnectorSnapshot}
    (mem : c ∈ ((fresh config registry now mono).restore saved).connectors) : Restored connectors c := by
  obtain ⟨d, known, rfl⟩ := mem_restore mem
  have reservation : (withAvailability (withoutLostStop
      (withoutLostStart (saved.offlineQueue.map restoredEntry) d))).reservation = d.reservation :=
    (withAvailability_reservation _).trans ((withoutLostStop_reservation _).trans (withoutLostStart_reservation _ d))
  have booked (h : d.Booked) := withAvailability_booked (withoutLostStop_booked
    (withoutLostStart_booked (saved.offlineQueue.map restoredEntry) h))
  rcases restoredConnectors_cases config nodup known with ⟨id, rfl⟩ | ⟨pc, from', rfl⟩
  · refine ⟨booked (newConnector_orderly id).1, fun p r _ held => ?_, fun r held => ?_⟩
    · rw [reservation] at held
      cases held
    · rw [reservation] at held
      cases held
  · rw [source] at from'
    obtain ⟨old, member, rfl⟩ := List.mem_map.mp from'
    have holds : (restoredConnector (persistedConnector old) (newConnector old.id)).reservation =
      old.reservation := rfl
    refine ⟨booked (restoredConnector_booked (orderly.booked old member) _), fun p r waits held => ?_,
      fun r held => ?_⟩
    · exact orderly.admitted old member p r (restoredConnector_waits (restored_waits waits))
        ((reservation.trans holds).symm.trans held)
    · refine ⟨old, member, ?_, (reservation.trans holds).symm.trans held⟩
      rw [withAvailability_id, withoutLostStop_id, withoutLostStart_id]
      rfl

private theorem loaded_orderly (config : StationConfig) (registry : ConfigRegistry) (now : Instant) (mono : Int)
    {saved : Option PersistedStation}
    (source : ∀ data, saved = some data → (data.connectors.map (·.id)).Nodup ∧
      ∃ connectors, data.connectors = connectors.map persistedConnector ∧ Orderly connectors) :
    OrderlyBooks ((loaded config registry now mono saved).ledger [] .none) := by
  refine ⟨?_, fun start waits => ?_, ?_, ?_⟩
  · cases saved with
    | none =>
      have new (c : ConnectorSnapshot) (mem : c ∈ freshConnectors config.connectorCount) : ∃ id, c = newConnector id := by
        obtain ⟨index, -, rfl⟩ := List.mem_map.mp mem
        exact ⟨index + 1, rfl⟩
      refine ⟨fun c mem d _ r s holds => ?_, fun c mem => ?_, fun c mem => ?_⟩
      · obtain ⟨id, rfl⟩ := new c mem
        cases holds
      · obtain ⟨id, rfl⟩ := new c mem
        exact (newConnector_orderly id).1
      · obtain ⟨id, rfl⟩ := new c mem
        exact (newConnector_orderly id).2
    | some data =>
      obtain ⟨nodup, connectors, eq, orderly⟩ := source data rfl
      have restored (c : ConnectorSnapshot) (mem : c ∈ ((fresh config registry now mono).restore data).connectors) :
          Restored connectors c := mem_restore_restored eq nodup orderly mem
      refine ⟨fun c mem d mem' r s holds holds' same => ?_, fun c mem => (restored c mem).booked,
        fun c mem => (restored c mem).admitted⟩
      obtain ⟨c', known, id, held⟩ := (restored c mem).source r holds
      obtain ⟨d', known', id', held'⟩ := (restored d mem').source s holds'
      rw [← id, ← id']
      exact orderly.distinct c' known d' known' r s held held' same
  · rcases waits with held | ⟨call, mem, -⟩
    · cases held
    · cases saved <;> cases mem
  · intro event mem
    cases saved <;> cases mem
  · intro data mem
    cases saved <;> cases mem

/-! ## Every reachable state -/

/-- Everything is allowed but a status set by hand. -/
def unmanual : Allow := { manual := false }

private theorem orderly_unmanual : Preserves (Trans unmanual) fun l => (Ids l ∧ Worded l) ∧ OrderlyBooks l :=
  orderly_preserved rfl

private theorem permits_unmanual (a : Actor) {input : Input} (unset : ¬SetsStatus input) : Permits unmanual a input :=
  a.permits_allowing (.inr unset) (.inl rfl) (.inl rfl)

/-- The reservations of a process between two iterations are in order. -/
def KeepsReservations (a : Actor) : Prop :=
  (Ids (a.ledger [] .none) ∧ Worded (a.ledger [] .none)) ∧ OrderlyBooks (a.ledger [] .none)

private theorem start_keepsReservations (config : StationConfig) (registry : ConfigRegistry) (now : Instant)
    (mono : Int) {saved : Option PersistedStation}
    (source : ∀ data, saved = some data → (data.connectors.map (·.id)).Nodup ∧
      (∀ c ∈ data.connectors, c.transaction.Worded) ∧
      ∃ connectors, data.connectors = connectors.map persistedConnector ∧ Orderly connectors) :
    (start config registry now mono saved).KeepsReservations := by
  refine orderly_unmanual.path (start_path config registry now mono saved (.inl rfl)) ⟨⟨?_, ?_⟩, ?_⟩
  · exact loaded_ids config registry now mono saved
  · exact loaded_worded config registry now mono (fun data same => (source data same).1)
      fun data same => (source data same).2.1
  · exact loaded_orderly config registry now mono fun data same => ⟨(source data same).1, (source data same).2.2⟩

private theorem reachable_keepsReservations {a : Actor} (h : Reachable (fun _ wake => ¬SetsStatus wake.input) a) :
    a.KeepsReservations := by
  refine h.inductive (P := KeepsReservations) ?_ ?_ ?_
  · exact fun config registry now mono => start_keepsReservations config registry now mono fun _ h => nomatch h
  · intro config registry now mono b saved kept written _
    refine start_keepsReservations config registry now mono fun data same => ?_
    obtain rfl := Option.some.inj same
    obtain ⟨nodup, worded⟩ := kept.1.2.saved saved written
    exact ⟨nodup, worded, kept.2.saved saved written⟩
  · intro a wake kept unset
    exact orderly_unmanual.path
      (a.step_path wake kept.1.1 (permits_unmanual _ unset)) kept

end Actor

/-! ## `ReserveNow` -/

/-- A connector without its register. -/
def ConnectorSnapshot.withoutMeter (c : ConnectorSnapshot) : ConnectorSnapshot := { c with meterWh := 0 }

private theorem fields_of_withoutMeter {c d : ConnectorSnapshot} (same : c.withoutMeter = d.withoutMeter) :
    c.id = d.id ∧ c.reservation = d.reservation :=
  ⟨(congrArg ConnectorSnapshot.id same : c.withoutMeter.id = d.withoutMeter.id),
    (congrArg ConnectorSnapshot.reservation same : c.withoutMeter.reservation = d.withoutMeter.reservation)⟩

namespace Actor

/-- The connectors without their registers, which every write brings up to date. -/
def unmetered (a : Actor) : List ConnectorSnapshot := a.connectors.map ConnectorSnapshot.withoutMeter

private theorem unmetered_congr {a b : Actor} (same : b.connectors = a.connectors) : b.unmetered = a.unmetered := by
  unfold unmetered
  rw [same]

private theorem flushMeters_unmetered (a : Actor) : a.flushMeters.unmetered = a.unmetered := by
  obtain ⟨f, connectors, meter, -⟩ := a.flushMeters_fields
  unfold unmetered
  rw [connectors, List.map_map]
  refine List.map_congr_left fun c _ => ?_
  simp only [Function.comp_apply]
  rw [meter c]
  rfl

private theorem markDirty_connectors (a : Actor) : a.markDirty.connectors = a.connectors :=
  congrArg Ledger.connectors (a.markDirty_ledger [] .none)

private theorem flushNow_unmetered (a : Actor) : a.flushNow.unmetered = a.unmetered := by
  have written (b : Actor) : b.flushPersistence.unmetered = b.unmetered := by
    rw [← b.flushMeters_unmetered]
    unfold flushPersistence
    dsimp only
    repeat' split
    all_goals rfl
  unfold flushNow
  rw [written]
  exact unmetered_congr a.markDirty_connectors

/-- A notification changes neither the connectors nor the clock. -/
theorem statusChanged_fields (a : Actor) (id : ConnectorId) :
    (a.statusChanged id).connectors = a.connectors ∧ (a.statusChanged id).now = a.now := by
  have answered (key : StatusKey) (error : CallError) (b : Actor) :
      (onStatusResult id key none (.error error) b).connectors = b.connectors ∧
        (onStatusResult id key none (.error error) b).now = b.now := ⟨rfl, rfl⟩
  have sent (b : Actor) (key : StatusKey) (timestamp : Instant) :
      (b.dispatchStatus id key timestamp .station none).connectors = b.connectors ∧
        (b.dispatchStatus id key timestamp .station none).now = b.now := by
    unfold dispatchStatus
    dsimp only
    rcases call_cases (b.setTracker id { b.tracker id with lastSent := some key }) .station _
      (.status id key none) (fun error => onStatusResult id key none (.error error)) with
      ⟨error, failed⟩ | ⟨-, -, went⟩
    · rw [failed]
      exact answered key error _
    · rw [went]
      exact ⟨rfl, rfl⟩
  unfold statusChanged
  split
  · exact ⟨rfl, rfl⟩
  · split
    · exact ⟨rfl, rfl⟩
    · dsimp only
      split
      · exact ⟨rfl, rfl⟩
      · exact ⟨rfl, rfl⟩
      · exact sent _ _ _
      · exact ⟨rfl, rfl⟩

private theorem announceReleased_connectors (ids : List ConnectorId) (a : Actor) :
    (ids.foldl (fun a id => (a.cancelTimer (.reservationExpiry id)).statusChanged id) a).connectors =
      a.connectors := by
  induction ids generalizing a with
  | nil => rfl
  | cons id ids ih =>
    rw [List.foldl_cons, ih]
    exact (statusChanged_fields _ id).1

/-- `release_expired_reservations` does what `expire_due` says. -/
theorem releaseExpired_unmetered (a : Actor) :
    a.releaseExpiredReservations.unmetered =
      (expireDue a.connectors a.now).1.map ConnectorSnapshot.withoutMeter := by
  unfold releaseExpiredReservations
  generalize expireDue a.connectors a.now = due
  obtain ⟨connectors, released⟩ := due
  have told : ∀ b : Actor, b.connectors = connectors →
      b.unmetered = connectors.map ConnectorSnapshot.withoutMeter := by
    intro b same
    unfold unmetered
    rw [same]
  dsimp only
  split
  · exact told _ (announceReleased_connectors released _)
  · rw [flushNow_unmetered]
    exact told _ (announceReleased_connectors released _)

/-- A reservation that has not expired gets its timer. -/
theorem armReservation_connectors (a : Actor) (id : ConnectorId)
    (live : ∀ r, (a.findConnector id).bind (·.reservation) = some r → r.isExpired a.now = false) :
    (a.armReservation id).connectors = a.connectors := by
  unfold armReservation
  split
  · rfl
  · rename_i r held
    rw [if_neg (by simp [live r held])]
    rfl

end Actor

/-- What `reserve_now` makes of the connector that it chooses. -/
def reservedConnector (request : ReserveNowRequest) (c : ConnectorSnapshot) : ConnectorSnapshot :=
  { c with
    reservation := some
      { id := request.reservationId, idTag := request.idTag, parentIdTag := request.parentIdTag
        expiry := request.expiryDate }
    status := .reserved }

private theorem reserveNow_refused {connectors : List ConnectorSnapshot} {request : ReserveNowRequest} {now : Instant}
    {supported : Bool} {status : ReservationStatus}
    (h : reserveNow connectors request now supported = .error status) : status ≠ .accepted := by
  rintro rfl
  unfold reserveNow at h
  split at h
  · rename_i refused
    unfold reservationTarget at refused
    repeat' split at refused
    all_goals simp_all
  · repeat' split at h
    all_goals cases h

/-- An accepted `ReserveNow` books the connector `target`, and no other one has the reservation. -/
theorem reserveNow_accepted {connectors made : List ConnectorSnapshot} {request : ReserveNowRequest} {now : Instant}
    {supported : Bool} {target : ConnectorId}
    (h : reserveNow connectors request now supported = .ok (made, target)) :
    (∃ c ∈ connectors, c.id = target) ∧ now < request.expiryDate ∧
      made = updateConnector connectors target (reservedConnector request) ∧
      ∀ d ∈ connectors, d.id ≠ target → holdsReservation d request.reservationId = false := by
  unfold reserveNow at h
  split at h
  · cases h
  · rename_i c chosen
    split at h
    · cases h
    split at h
    · cases h
    split at h
    · cases h
    split at h
    · cases h
    rename_i unexpired
    split at h
    · cases h
    rename_i unused
    cases h
    refine ⟨⟨c, ?_, rfl⟩, lt_of_not_ge unexpired, rfl, fun d mem other => ?_⟩
    · unfold reservationTarget at chosen
      repeat' split at chosen
      all_goals cases chosen
      all_goals exact List.mem_of_find?_eq_some ‹_›
    · by_contra held
      refine unused (List.any_eq_true.mpr ⟨d, mem, ?_⟩)
      simpa [other] using held

/-- Exactly one connector holds the reservation `id`. -/
def HoldsOnce (connectors : List ConnectorSnapshot) (id : ReservationId) : Prop :=
  ∃ c ∈ connectors, holdsReservation c id = true ∧ ∀ d ∈ connectors, holdsReservation d id = true → d = c

private theorem holdsOnce_booked {connectors : List ConnectorSnapshot} (nodup : (connectors.map (·.id)).Nodup)
    {request : ReserveNowRequest} {target : ConnectorId} (known : ∃ c ∈ connectors, c.id = target)
    (unused : ∀ d ∈ connectors, d.id ≠ target → holdsReservation d request.reservationId = false) :
    HoldsOnce (updateConnector connectors target (reservedConnector request)) request.reservationId := by
  obtain ⟨c, mem, same⟩ := known
  have booked : reservedConnector request c ∈ updateConnector connectors target (reservedConnector request) := by
    refine List.mem_map.mpr ⟨c, mem, ?_⟩
    rw [if_pos (by simpa using same)]
  refine ⟨_, booked, by simp [holdsReservation, reservedConnector], fun d mem' held => ?_⟩
  obtain ⟨d, old, rfl⟩ := List.mem_map.mp mem'
  by_cases this : d.id = target
  · obtain rfl : d = c := List.inj_on_of_nodup_map nodup old mem (this.trans same.symm)
    rw [if_pos (by simpa using this)]
  · rw [if_neg (by simpa using this)] at held
    rw [unused d old this] at held
    cases held

/-- The registers do not matter for who holds a reservation. -/
theorem HoldsOnce.of_withoutMeter {connectors made : List ConnectorSnapshot} {id : ReservationId}
    (nodup : (connectors.map (·.id)).Nodup)
    (same : connectors.map ConnectorSnapshot.withoutMeter = made.map ConnectorSnapshot.withoutMeter)
    (once : HoldsOnce made id) : HoldsOnce connectors id := by
  obtain ⟨c, mem, held, only⟩ := once
  have there : c.withoutMeter ∈ connectors.map ConnectorSnapshot.withoutMeter := by
    rw [same]
    exact List.mem_map_of_mem mem
  obtain ⟨b, known, eq⟩ := List.mem_map.mp there
  obtain ⟨number, reservation⟩ := fields_of_withoutMeter eq
  refine ⟨b, known, ?_, fun d mem' held' => ?_⟩
  · unfold holdsReservation
    rw [reservation]
    exact held
  · have back : d.withoutMeter ∈ made.map ConnectorSnapshot.withoutMeter := by
      rw [← same]
      exact List.mem_map_of_mem mem'
    obtain ⟨e, known', eq'⟩ := List.mem_map.mp back
    obtain ⟨number', reservation'⟩ := fields_of_withoutMeter eq'
    have holds : holdsReservation e id = true := by
      unfold holdsReservation
      rw [reservation']
      exact held'
    obtain rfl := only e known' holds
    exact List.inj_on_of_nodup_map nodup mem' known (number'.symm.trans number.symm)

namespace Actor

/-- The booked connector has a reservation that has not expired. -/
theorem booked_live {a : Actor} {connectors : List ConnectorSnapshot} {request : ReserveNowRequest}
    {target : ConnectorId} (booked : a.connectors = updateConnector connectors target (reservedConnector request))
    (physical : isStation target = false) (live : a.now < request.expiryDate) (r : Reservation)
    (held : (a.findConnector target).bind (·.reservation) = some r) : r.isExpired a.now = false := by
  obtain ⟨d, found, holds⟩ := Option.bind_eq_some_iff.mp held
  unfold findConnector at found
  rw [if_neg (by simp [physical]), booked] at found
  have same : d.id = target := by simpa using List.find?_some found
  obtain ⟨e, -, rfl⟩ := List.mem_map.mp (List.mem_of_find?_eq_some found)
  split at holds
  · obtain rfl := Option.some.inj holds
    simpa [Reservation.isExpired] using live
  · rename_i other
    rw [if_neg other] at same
    simp [same] at other

/-- What an accepted `ReserveNow` does once the connector is booked. -/
theorem booked_told {a : Actor} {trial : List ConnectorSnapshot} {request : ReserveNowRequest} {target : ConnectorId}
    (booked : a.connectors = updateConnector trial target (reservedConnector request))
    (ids : (trial.map (·.id)).Nodup) (physical : ∀ c ∈ trial, isStation c.id = false)
    (known : ∃ c ∈ trial, c.id = target) (live : a.now < request.expiryDate)
    (unused : ∀ d ∈ trial, d.id ≠ target → holdsReservation d request.reservationId = false) :
    a.history <:+ (((a.armReservation target).flushNow).statusChanged target).history ∧
      HoldsOnce (((a.armReservation target).flushNow).statusChanged target).connectors request.reservationId := by
  have path : Path {} (a.ledger [] .none) ((((a.armReservation target).flushNow).statusChanged target).ledger [] .none) :=
    (armReservation_path (.inl rfl) a target).trans
      (((flushNow_quiet _).trans (statusChanged_quiet _ _)).path [] .none)
  refine ⟨path_history path, ?_⟩
  have armed : (a.armReservation target).connectors = a.connectors := by
    refine armReservation_connectors a target (booked_live booked ?_ live)
    obtain ⟨c, mem, rfl⟩ := known
    exact physical c mem
  have same : (((a.armReservation target).flushNow).statusChanged target).unmetered = a.unmetered := by
    rw [unmetered_congr (statusChanged_fields _ target).1, flushNow_unmetered, unmetered_congr armed]
  have once := holdsOnce_booked ids known unused
  rw [← booked] at once
  refine once.of_withoutMeter ?_ same
  have numbers : (((a.armReservation target).flushNow).statusChanged target).connectors.map (·.id) =
      a.connectors.map (·.id) := by
    have same := congrArg (List.map (·.id)) same
    unfold unmetered at same
    rw [List.map_map, List.map_map] at same
    exact same
  rw [numbers, booked, updateConnector_ids (f := reservedConnector request) trial target fun _ => rfl]
  exact ids

/-- What `ReserveNow` answers and does. -/
theorem reserve_cases (a : Actor) (request : ReserveNowRequest) (ids : Ids (a.ledger [] .none)) :
    (∃ status, status ≠ .accepted ∧
      a.reserve request = a.releaseExpiredReservations.record (.responded (.reservation status))) ∨
    (Event.responded (.reservation .accepted) :: a.releaseExpiredReservations.history <:+ (a.reserve request).history ∧
      HoldsOnce (a.reserve request).connectors request.reservationId) := by
  have released : Path {} (a.ledger [] .none) _ := releaseExpiredReservations_path (.inl rfl) a
  replace ids := (ids_preserved {}).path released ids
  clear released
  unfold reserve
  dsimp only
  generalize a.releaseExpiredReservations = b at ids ⊢
  generalize (b.connectors.find? _).map _ = movedFrom
  have tried : Path {} (b.ledger [] .none) _ := trialConnectors_path (.inl rfl) b request.reservationId movedFrom
  replace ids := (ids_preserved {}).path tried ids
  clear tried
  generalize b.trialConnectors request.reservationId movedFrom = trial at ids ⊢
  cases made : reserveNow trial request b.now b.registry.reserveConnectorZeroSupported with
  | error status => exact .inl ⟨status, reserveNow_refused made, rfl⟩
  | ok result =>
    obtain ⟨connectors, target⟩ := result
    obtain ⟨known, live, booked, unused⟩ := reserveNow_accepted made
    have nodup : (trial.map (·.id)).Nodup := ids.nodup
    right
    dsimp only
    generalize answered : ({ b with connectors } : Actor).record (.responded (.reservation .accepted)) = c
    have history : c.history = .responded (.reservation .accepted) :: b.history := by
      rw [← answered]
      rfl
    have same : c.connectors = updateConnector trial target (reservedConnector request) := by
      rw [← answered]
      exact booked
    have now : c.now = b.now := by
      rw [← answered]
      rfl
    rw [← history]
    cases movedFrom with
    | none => exact booked_told same nodup ids.physical known (now ▸ live) unused
    | some old =>
      have path : Path {} (c.ledger [] .none) (((c.cancelTimer (.reservationExpiry old)).statusChanged old).ledger [] .none) :=
        ((cancelTimer_quiet _ _).trans (statusChanged_quiet _ _)).path [] .none
      obtain ⟨kept, clock⟩ := statusChanged_fields (c.cancelTimer (.reservationExpiry old)) old
      have clock := clock.trans now
      obtain ⟨grown, once⟩ := booked_told (kept.trans same) nodup ids.physical known (clock ▸ live) unused
      exact ⟨(path_history path).trans grown, once⟩

end Actor

/-! ## The law -/

/-- The ids of the reservations. -/
def reservationIds (connectors : List ConnectorSnapshot) : List ReservationId :=
  connectors.filterMap fun c => c.reservation.map (·.id)

private theorem reservationIds_nodup {connectors : List ConnectorSnapshot} (nodup : (connectors.map (·.id)).Nodup)
    (distinct : DistinctReservations connectors) : (reservationIds connectors).Nodup := by
  unfold reservationIds
  refine List.pairwise_filterMap.mpr ((List.pairwise_map.mp nodup).imp_of_mem ?_)
  intro c d mem mem' other r held s held' same
  obtain ⟨reservation, holds, rfl⟩ := Option.map_eq_some_iff.mp held
  obtain ⟨reservation', holds', rfl⟩ := Option.map_eq_some_iff.mp held'
  exact other (distinct c mem d mem' reservation reservation' holds holds' same)

/-- A reservation that is live when `begin_charging` consumes it accepts the idTag that starts. -/
def Event.consumesOwn : Event → Bool
  | .charged _ pending (some reservation) time =>
    reservation.isExpired time || reservation.accepts pending.idTag pending.parentIdTag
  | _ => true

namespace Actor

/-- **Reservation discipline.** Without statuses set by hand the ids of the reservations are distinct in every
reachable state, and a connector that shows `Reserved` has a reservation; a refused `ReserveNow` changes nothing
after the release of what has expired, an accepted one leaves one reservation with its id; and a reservation
that was live when a start was checked and is consumed by it accepts its idTag. -/
theorem reservations_kept {a : Actor} (h : Reachable (fun _ wake => ¬SetsStatus wake.input) a) :
    (reservationIds a.connectors).Nodup ∧
    (∀ c ∈ a.connectors, c.status = .reserved → c.reservation.isSome = true) ∧
    (∀ (wake : Wake) (request : ReserveNowRequest),
      let b := (a.woken wake).releaseExpiredReservations
      b.unmetered = (expireDue a.connectors wake.now).1.map ConnectorSnapshot.withoutMeter ∧
      ((∃ status, status ≠ .accepted ∧
          (a.woken wake).reserve request = b.record (.responded (.reservation status))) ∨
        (Event.responded (.reservation .accepted) :: b.history <:+ ((a.woken wake).reserve request).history ∧
          HoldsOnce ((a.woken wake).reserve request).connectors request.reservationId))) ∧
    ∀ id pending reservation time, .charged id pending (some reservation) time ∈ a.history →
      reservation.isExpired time = false → reservation.isExpired pending.startedAt = false →
      reservation.accepts pending.idTag pending.parentIdTag = true := by
  obtain ⟨⟨ids, -⟩, books⟩ := reachable_keepsReservations h
  refine ⟨reservationIds_nodup ids.nodup books.orderly.distinct, books.orderly.booked, fun wake request => ?_, ?_⟩
  · have ids' : Ids ((a.woken wake).ledger [] .none) :=
      (ids_preserved {}).path ((a.woken_quiet wake).path [] .none) ids
    exact ⟨releaseExpired_unmetered _, reserve_cases _ request ids'⟩
  · intro id pending reservation time mem _ live
    have passes : pending.Passes reservation := books.passed _ mem reservation rfl
    exact passes.resolve_right (by simp [live])

/-- A reservation is made, used by its idTag and consumed. -/
theorem reservations_kept_used :
    let inputs : List Input :=
      [.command .connect 0, .connected 1 true none, .callDone 0 1 (.ok (.boot .accepted 0 0)),
        .incoming (.reserveNow { connectorId := 1, expiryDate := 1000000000010, idTag := { chars := ['B'] }
                                 parentIdTag := none, reservationId := 7 }),
        .command (.startTransaction 1 { chars := ['B'] }) 2,
        .callDone 5 1 (.ok (.startTransaction 7 { status := .accepted }))]
    let a := (start { connectorCount := 1 } {} 1000000000000 0 none).replay 1000000000000 0 inputs
    (a.connector 1).map (fun c => (c.status, c.reservation)) = some (.charging, none) ∧
    (reservationIds a.connectors).Nodup ∧
    ∀ id pending reservation time, .charged id pending (some reservation) time ∈ a.history →
      reservation.isExpired time = false → reservation.isExpired pending.startedAt = false →
      reservation.accepts pending.idTag pending.parentIdTag = true := by
  intro inputs a
  have reached : Reachable (fun _ wake => ¬SetsStatus wake.input) a := by
    refine .fresh _ _ _ _ (.replay _ _ _ inputs fun input mem _ => ?_)
    have unset : ∀ input ∈ inputs, ¬SetsStatus input := by simp [inputs, SetsStatus]
    exact unset input mem
  have law := reservations_kept reached
  exact ⟨by decide +kernel, law.1, law.2.2.2⟩

/-- A start is checked when the reservation of another idTag has just expired. The clock is set back, the
answer arrives, and the reservation is consumed while it is live. -/
theorem clock_set_back_consumes :
    let before : List Input :=
      [.command .connect 0, .connected 1 true none, .callDone 0 1 (.ok (.boot .accepted 0 0)),
        .incoming (.reserveNow { connectorId := 1, expiryDate := 1000000000010, idTag := { chars := ['B'] }
                                 parentIdTag := none, reservationId := 7 })]
    let check : List Input := [.command (.startTransaction 1 { chars := ['A'] }) 2]
    let answer : List Input := [.callDone 5 1 (.ok (.startTransaction 7 { status := .accepted }))]
    let a := (((start { connectorCount := 1 } {} 1000000000000 0 none).replay 1000000000000 0 before).replay
      1000000000010 0 check).replay 1000000000005 0 answer
    Reachable (fun _ wake => ¬SetsStatus wake.input) a ∧ ¬∀ event ∈ a.history, event.consumesOwn = true := by
  intro before check answer a
  have unset : ∀ input ∈ before ++ check ++ answer, ¬SetsStatus input := by
    simp [before, check, answer, SetsStatus]
  refine ⟨.fresh _ _ _ _ (((Runs.replay _ _ _ before ?_).trans (Runs.replay _ _ _ check ?_)).trans
    (Runs.replay _ _ _ answer ?_)), by decide +kernel⟩
  · exact fun input mem _ => unset input (by simp [mem])
  · exact fun input mem _ => unset input (by simp [mem])
  · exact fun input mem _ => unset input (by simp [mem])

end Actor

end KirbyOcpp
