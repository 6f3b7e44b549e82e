import KirbyOcpp.Csms.Session

/-!
# The registry of the central system over whole runs

Connections of one station replace each other, end late, are forgotten or swept at the shutdown, in any order.

**The law** `registry_consistent`: a record says it is connected when it has a session; for each station the
events `Connected` and `Disconnected` alternate, and the last one agrees with the registry; the registry stays
within its bound; and a session that lost its record never touches the registry again.
-/

namespace KirbyOcpp.Csms

open Ws (Json Frame)

variable {Reported : Type} {env : Env Reported} {r : Registry Reported} {station : StationId}
  {record : StationRec Reported}

/-! ## What the events say of a station -/

/-- The event opens (`true`) or ends (`false`) a connection of the station. -/
def CsmsEvent.turns (station : StationId) : CsmsEvent → Option Bool
  | .connected id => if id = station then some true else none
  | .disconnected id _ => if id = station then some false else none
  | _ => none

/-- The connections of a station that opened and ended, latest first. -/
def turns (station : StationId) (events : List CsmsEvent) : List Bool := events.filterMap (·.turns station)

/-- They alternate, and the first one opened. -/
def Alternate (turns : List Bool) : Prop := turns.IsChain (· ≠ ·) ∧ ∀ first ∈ turns.getLast?, first = true

/-- A turn the other way goes on. -/
theorem Alternate.cons {b : Bool} {rest : List Bool} (h : Alternate rest) (flips : rest.headD false ≠ b) :
    Alternate (b :: rest) := by
  obtain ⟨chain, first⟩ := h
  cases rest with
  | nil =>
    refine ⟨List.isChain_singleton b, fun c mem => ?_⟩
    obtain rfl : b = c := by simpa using mem
    simpa using flips.symm
  | cons c rest =>
    refine ⟨List.isChain_cons_cons.mpr ⟨fun eq => flips eq.symm, chain⟩, fun d mem => first d ?_⟩
    rwa [List.getLast?_cons_cons] at mem

namespace Registry

/-- The station has a connection. -/
def online (r : Registry Reported) (station : StationId) : Bool :=
  (r.stations.lookup station).any fun record => record.session.isSome

/-- The records, the event log and the cap agree. -/
structure Consistent (r : Registry Reported) : Prop where
  connected : ∀ station record, r.stations.lookup station = some record →
    record.info.connected = record.session.isSome
  alternate : ∀ station, Alternate (turns station r.events)
  agrees : ∀ station, (turns station r.events).headD false = r.online station
  bounded : r.stations.keys.length ≤ r.config.maxStations
  numbered : ∀ station record id, r.stations.lookup station = some record → record.session = some id →
    id ≤ r.nextSession

/-! ## Operations on one record -/

@[simp] theorem put_stations (station : StationId) (record : StationRec Reported) (r : Registry Reported) :
    (r.put station record).stations = r.stations.insert station record := rfl

@[simp] theorem emit_stations (event : CsmsEvent) (r : Registry Reported) : (r.emit event).stations = r.stations := rfl

/-- A session owns its station while the record is open under its id. -/
theorem owned_eq_some {id : SessionId} :
    r.owned station id = some record ↔ r.stations.lookup station = some record ∧ record.session = some id := by
  simp [owned, Option.filter_eq_some_iff]

/-- An operation that leaves the sessions, and says nothing of connections. -/
structure Quiet (r r' : Registry Reported) : Prop where
  records : ∀ station, (r'.stations.lookup station).map (fun record => (record.session, record.info.connected)) =
    (r.stations.lookup station).map fun record => (record.session, record.info.connected)
  keys : r'.stations.keys.Perm r.stations.keys
  turns : ∀ station, Csms.turns station r'.events = Csms.turns station r.events
  config : r'.config = r.config
  nextSession : r'.nextSession = r.nextSession

/-- Nothing happens. -/
theorem Quiet.refl (r : Registry Reported) : Quiet r r := ⟨fun _ => rfl, .rfl, fun _ => rfl, rfl, rfl⟩

/-- An event that opens and closes nothing. -/
theorem Quiet.emit {r' : Registry Reported} (h : Quiet r r') (event : CsmsEvent)
    (aside : ∀ id, event.turns id = none) : Quiet r (r'.emit event) := by
  refine { h with turns := fun id => ?_ }
  show List.filterMap _ (event :: r'.events) = _
  rw [List.filterMap_cons, aside id]
  exact h.turns id

/-- A record is written over. -/
private theorem quiet_put (found : r.stations.lookup station = some record) (record' : StationRec Reported)
    (session : record'.session = record.session) (connected : record'.info.connected = record.info.connected) :
    Quiet r (r.put station record') := by
  have known : station ∈ r.stations := AList.lookup_isSome.mp (by rw [found]; rfl)
  refine ⟨fun id => ?_, ?_, fun _ => rfl, rfl, rfl⟩
  · rw [put_stations]
    by_cases same : id = station
    · subst same
      rw [AList.lookup_insert, found, Option.map_some, Option.map_some, session, connected]
    · rw [AList.lookup_insert_ne same]
  · rw [put_stations, AList.keys_insert]
    exact (List.perm_cons_erase (AList.mem_keys.mp known)).symm

/-- A frame is recorded for the owner or for nobody. -/
theorem quiet_recordFrame (id : SessionId) (direction : Direction) (frame : Frame) (now : Nat) :
    Quiet r (r.recordFrame env station id direction frame now) := by
  unfold recordFrame
  cases found : r.owned station id with
  | none => exact .refl r
  | some record =>
    have remembered (frame : Frame) (record : StationRec Reported) :
        (record.remember env r.config direction frame now).session = record.session ∧
          (record.remember env r.config direction frame now).info = record.info := by
      unfold StationRec.remember
      dsimp only
      repeat' split
      all_goals exact ⟨rfl, rfl⟩
    refine (quiet_put (owned_eq_some.mp found).1 _ ((remembered _ _).1.trans ?_)
      ((congrArg _ (remembered _ _).2).trans ?_)).emit (.frame station direction _) (by intro id; rfl)
    · split <;> rfl
    · split <;> rfl

/-- What a CALL of the station shows is kept in its record. -/
theorem quiet_track (id : SessionId) (action : String) (request : Json) (reply : Reply) (now : Nat) :
    Quiet r (r.track env station id action request reply now) := by
  unfold track
  split
  · cases found : r.owned station id with
    | none => exact .refl r
    | some record =>
      dsimp only
      split
      · refine (quiet_put (owned_eq_some.mp found).1 _ ?_ ?_).emit _ ?_
        · rfl
        · rfl
        · exact fun _ => rfl
      · exact quiet_put (owned_eq_some.mp found).1 _ rfl rfl
  · exact .refl r

/-- A failed CALL is counted. -/
theorem quiet_noteFailedCall : Quiet r (r.noteFailedCall station) := by
  unfold noteFailedCall
  cases found : r.stations.lookup station with
  | none => exact .refl r
  | some record =>
    refine (quiet_put found _ ?_ ?_).emit _ ?_
    · rfl
    · rfl
    · exact fun _ => rfl

/-- What an answer of the station shows is kept in its record. -/
theorem quiet_trackResult (action : String) (request response : Json) (now : Nat) :
    Quiet r (r.trackResult env station action request response now) := by
  unfold trackResult
  cases found : r.stations.lookup station with
  | none => exact .refl r
  | some record =>
    dsimp only
    split
    · refine (quiet_put found _ ?_ ?_).emit _ ?_
      · rfl
      · rfl
      · exact fun _ => rfl
    · exact quiet_put found _ rfl rfl

/-- The sessions of a station stay open or closed. -/
theorem Quiet.session {r' : Registry Reported} (h : Quiet r r') {record' : StationRec Reported}
    (found : r'.stations.lookup station = some record') :
    ∃ record, r.stations.lookup station = some record ∧ record.session = record'.session ∧
      record.info.connected = record'.info.connected := by
  have same := h.records station
  rw [found, Option.map_some] at same
  obtain ⟨record, there, eq⟩ := Option.map_eq_some_iff.mp same.symm
  exact ⟨record, there, congrArg Prod.fst eq, congrArg Prod.snd eq⟩

/-- A station stays online or offline. -/
theorem Quiet.online {r' : Registry Reported} (h : Quiet r r') (station : StationId) :
    r'.online station = r.online station := by
  have any (found : Option (StationRec Reported)) : (found.any fun record => record.session.isSome) =
      (found.map fun record => (record.session, record.info.connected)).any fun pair => pair.1.isSome := by
    cases found <;> rfl
  unfold Registry.online
  rw [any, h.records station, ← any]

/-- A quiet step leaves the registry consistent. -/
theorem Consistent.quiet {r' : Registry Reported} (h : Consistent r) (quiet : Quiet r r') : Consistent r' where
  connected := fun station record' found => by
    obtain ⟨record, there, session, connected⟩ := quiet.session found
    rw [← session, ← connected]
    exact h.connected station record there
  alternate := fun station => (quiet.turns station).symm ▸ h.alternate station
  agrees := fun station => by
    rw [quiet.turns, quiet.online]
    exact h.agrees station
  bounded := by
    rw [quiet.keys.length_eq, quiet.config]
    exact h.bounded
  numbered := fun station record' id found session => by
    obtain ⟨record, there, same, -⟩ := quiet.session found
    rw [quiet.nextSession]
    exact h.numbered station record id there (same.trans session)

/-! ## Connections that open and end -/

private theorem turns_connected (station id : StationId) (events : List CsmsEvent) :
    turns id (.connected station :: events) = if station = id then true :: turns id events else turns id events := by
  unfold turns
  rw [List.filterMap_cons]
  by_cases same : station = id <;> simp [CsmsEvent.turns, same]

private theorem turns_disconnected (station id : StationId) (reason : DisconnectReason) (events : List CsmsEvent) :
    turns id (.disconnected station reason :: events) =
      if station = id then false :: turns id events else turns id events := by
  unfold turns
  rw [List.filterMap_cons]
  by_cases same : station = id <;> simp [CsmsEvent.turns, same]

private theorem online_put_same (record : StationRec Reported) (r : Registry Reported) :
    (r.put station record).online station = record.session.isSome := by
  simp [Registry.online, AList.lookup_insert]

private theorem online_put_other {id : StationId} (other : id ≠ station) (record : StationRec Reported)
    (r : Registry Reported) : (r.put station record).online id = r.online id := by
  simp [Registry.online, AList.lookup_insert_ne other]

/-- A record is written with a new session, or without one, and the event says so. -/
theorem Consistent.turned (h : Consistent r) (record : StationRec Reported) (event : CsmsEvent) (b : Bool)
    (fresh : station ∈ r.stations ∨ r.stations.keys.length < r.config.maxStations)
    (connected : record.info.connected = record.session.isSome)
    (numbered : ∀ id, record.session = some id → id ≤ r.nextSession)
    (tells : ∀ id, turns id (event :: r.events) = if station = id then b :: turns id r.events else turns id r.events)
    (is : record.session.isSome = b) (flips : r.online station ≠ b) :
    Consistent ((r.put station record).emit event) where
  connected := fun id found there => by
    rw [emit_stations, put_stations] at there
    by_cases same : id = station
    · subst same
      rw [AList.lookup_insert] at there
      obtain rfl := Option.some.inj there
      exact connected
    · rw [AList.lookup_insert_ne same] at there
      exact h.connected id found there
  alternate := fun id => by
    show Alternate (turns id (event :: r.events))
    rw [tells]
    split
    · subst station
      refine (h.alternate id).cons ?_
      rwa [h.agrees]
    · exact h.alternate id
  agrees := fun id => by
    show (turns id (event :: r.events)).headD false = (r.put station record).online id
    rw [tells]
    by_cases same : station = id
    · subst same
      rw [if_pos rfl, online_put_same, is]
      rfl
    · rw [if_neg same, online_put_other (Ne.symm same)]
      exact h.agrees id
  bounded := by
    show (r.stations.insert station record).keys.length ≤ r.config.maxStations
    rw [AList.keys_insert, List.length_cons]
    by_cases known : station ∈ r.stations
    · rw [List.length_erase_of_mem (AList.mem_keys.mp known)]
      have some := List.length_pos_of_mem (AList.mem_keys.mp known)
      have := h.bounded
      omega
    · rw [List.erase_of_not_mem known]
      exact fresh.resolve_left known
  numbered := fun id found session there has => by
    rw [emit_stations, put_stations] at there
    by_cases same : id = station
    · subst same
      rw [AList.lookup_insert] at there
      obtain rfl := Option.some.inj there
      exact numbered session has
    · rw [AList.lookup_insert_ne same] at there
      exact h.numbered id found session there has

/-- A session that ends takes its station offline. -/
theorem Consistent.ends (h : Consistent r) (found : r.stations.lookup station = some record)
    (session : record.session.isSome = true) (disconnectedAt : Option Nat) (reason : DisconnectReason) :
    Consistent ((r.put station { record with
      info := { record.info with connected := false, disconnectedAt }, session := none }).emit
        (.disconnected station reason)) := by
  refine h.turned _ _ false (.inl ?_) rfl (fun _ none => nomatch none)
    (fun id => turns_disconnected station id reason r.events) rfl ?_
  · exact AList.lookup_isSome.mp (by rw [found]; rfl)
  · simp [Registry.online, found, session]

/-- `session_ended` of the owner, or of a session that owns nothing any more. -/
theorem Consistent.sessionEnded (h : Consistent r) (id : SessionId) (reason : DisconnectReason) (now : Nat) :
    Consistent (r.sessionEnded station id reason now) := by
  unfold Registry.sessionEnded
  cases owned : r.owned station id with
  | none => exact h
  | some record =>
    obtain ⟨found, session⟩ := owned_eq_some.mp owned
    exact h.ends found (by rw [session]; rfl) _ reason

/-- `disconnect`, whether or not the station is online. -/
theorem Consistent.disconnect (h : Consistent r) (now : Nat) (station : StationId) :
    Consistent (r.disconnect now station) := by
  unfold Registry.disconnect
  cases found : r.stations.lookup station with
  | none => exact h
  | some record =>
    dsimp only
    split
    · rename_i session
      exact h.ends found session _ .shutdown
    · exact h

/-- Stations that are swept are offline, and their turns are over. -/
theorem Consistent.sweep (h : Consistent r) (now : Nat) : Consistent (r.sweep now) := by
  unfold Registry.sweep
  generalize r.stations.keys.mergeSort _ = stations
  induction stations generalizing r with
  | nil => exact h
  | cons station rest ih => exact ih (h.disconnect now station)

/-- A station is forgotten with its record; an online one is not. -/
theorem Consistent.forget (h : Consistent r) (station : StationId) : Consistent (r.forget station).1 := by
  unfold Registry.forget
  cases found : r.stations.lookup station with
  | none => exact h
  | some record =>
    have erased {r : Registry Reported} (h : Consistent r) (offline : r.online station = false) :
        Consistent ({ r with stations := r.stations.erase station }.emit (.forgotten station)) := by
      have known (id : StationId) (record : StationRec Reported)
          (there : (r.stations.erase station).lookup id = some record) : r.stations.lookup id = some record := by
        by_cases same : id = station
        · subst same
          rw [AList.lookup_erase] at there
          cases there
        · rwa [AList.lookup_erase_ne same] at there
      refine ⟨fun id record there => h.connected id record (known id record there), fun id => ?_, fun id => ?_,
        ?_, fun id record session there => h.numbered id record session (known id record there)⟩
      · exact h.alternate id
      · show (turns id r.events).headD false = ((r.stations.erase station).lookup id).any _
        rw [h.agrees]
        by_cases same : id = station
        · subst same
          rw [AList.lookup_erase, offline]
          rfl
        · rw [AList.lookup_erase_ne same]
          rfl
      · show (r.stations.erase station).keys.length ≤ r.config.maxStations
        rw [AList.keys_erase]
        exact (List.erase_sublist.length_le).trans h.bounded
    cases session : record.session with
    | none =>
      simp only [session, Option.isSome_none]
      refine erased h ?_
      simp [Registry.online, found, session]
    | some id =>
      -- the connection ends first, and its record is what goes
      have ended := h.ends found (by rw [session]; rfl) none .forgotten
      have gone := erased ended (by simp [Registry.online, AList.lookup_insert])
      have erase (record : StationRec Reported) :
          (r.stations.insert station record).erase station = r.stations.erase station := by
        refine AList.ext ?_
        simp [AList.erase, AList.insert]
      simpa [session, emit, put, erase] using gone

/-- A registration opens a session, after it has closed the one that was open. -/
theorem Consistent.register {peer : String} {subprotocol : Option String} {now : Nat} {r' : Registry Reported}
    {id : SessionId} {old : Option SessionId} (h : Consistent r)
    (registered : r.register env station peer subprotocol now = .ok (r', id, old)) : Consistent r' := by
  unfold Registry.register at registered
  split at registered
  · cases registered
  split at registered
  · cases registered
  rename_i room
  have fresh : station ∈ r.stations ∨ r.stations.keys.length < r.config.maxStations := by
    by_cases known : station ∈ r.stations
    · exact .inl known
    · exact .inr (by by_contra full; exact room ⟨by omega, known⟩)
  simp only [Except.ok.injEq, Prod.mk.injEq] at registered
  obtain ⟨rfl, -, -⟩ := registered
  have counted : Consistent { r with nextSession := r.nextSession + 1 } :=
    ⟨h.connected, h.alternate, h.agrees, h.bounded,
      fun id record session found has => Nat.le_succ_of_le (h.numbered id record session found has)⟩
  have opens {r : Registry Reported} (h : Consistent r) (record : StationRec Reported) (id : SessionId)
      (fresh : station ∈ r.stations ∨ r.stations.keys.length < r.config.maxStations)
      (connected : record.info.connected = true) (session : record.session = some id)
      (numbered : id ≤ r.nextSession) (offline : r.online station = false) :
      Consistent ((r.put station record).emit (.connected station)) := by
    refine h.turned record _ true fresh (by rw [connected, session]; rfl) (fun id' has => ?_)
      (fun id => turns_connected station id r.events) (by rw [session]; rfl) (by rw [offline]; simp)
    rw [session] at has
    obtain rfl := Option.some.inj has
    exact numbered
  cases found : r.stations.lookup station with
  | none => exact opens counted _ _ fresh rfl rfl le_rfl (by simp [Registry.online, found])
  | some record =>
    cases session : record.session with
    | none =>
      simp only [Option.getD_some, session, Option.isSome_none]
      exact opens counted _ _ fresh rfl rfl le_rfl (by simp [Registry.online, found, session])
    | some old =>
      -- the old connection ends first
      have ended := counted.ends found (by rw [session]; rfl) none .replaced
      have opened := opens ended
        { record with
          info := { record.info with
            connected := true, connectedAt := some now, disconnectedAt := none, remoteAddr := some peer, subprotocol }
          session := some (r.nextSession + 1) } (r.nextSession + 1)
        (.inl (AList.lookup_isSome.mp (by simp [AList.lookup_insert]))) rfl rfl le_rfl (by simp [Registry.online, AList.lookup_insert])
      have insert (a b : StationRec Reported) :
          (r.stations.insert station a).insert station b = r.stations.insert station b :=
        AList.insert_insert r.stations
      simpa [session, emit, put, insert] using opened

/-! ## Sessions without a record -/

/-- The record of the station has this session. -/
def Owns (r : Registry Reported) (station : StationId) (id : SessionId) : Prop :=
  ∃ record, r.stations.lookup station = some record ∧ record.session = some id

/-- A session that owns nothing finds no record. -/
theorem not_owns_iff {id : SessionId} : ¬Owns r station id ↔ r.owned station id = none := by
  constructor
  · intro none
    cases found : r.owned station id with
    | none => rfl
    | some record => exact absurd ⟨record, owned_eq_some.mp found⟩ none
  · rintro none ⟨record, found⟩
    rw [owned_eq_some.mpr found] at none
    cases none

/-- No session that is numbered gets a record. -/
structure Sheds (r r' : Registry Reported) : Prop where
  later : r.nextSession ≤ r'.nextSession
  owns : ∀ station id, id ≤ r.nextSession → Owns r' station id → Owns r station id

/-- Nothing is opened. -/
theorem Sheds.refl (r : Registry Reported) : Sheds r r := ⟨le_rfl, fun _ _ _ owns => owns⟩

/-- Nothing is opened in between. -/
theorem Sheds.trans {r' r'' : Registry Reported} (h : Sheds r r') (h' : Sheds r' r'') : Sheds r r'' :=
  ⟨h.later.trans h'.later, fun station id le owns =>
    h.owns station id le (h'.owns station id (le.trans h.later) owns)⟩

private theorem Quiet.sheds {r' : Registry Reported} (h : Quiet r r') : Sheds r r' := by
  refine ⟨h.nextSession.ge, fun station id _ ⟨record', found, session⟩ => ?_⟩
  obtain ⟨record, there, same, -⟩ := h.session found
  exact ⟨record, there, same.trans session⟩

/-- A record that is written without a session, or with a new one. -/
private theorem sheds_put {r' : Registry Reported} (record : StationRec Reported)
    (stations : r'.stations = r.stations.insert station record) (later : r.nextSession ≤ r'.nextSession)
    (fresh : ∀ id, record.session = some id → r.nextSession < id) : Sheds r r' := by
  refine ⟨later, fun id session le ⟨found, there, has⟩ => ?_⟩
  rw [stations] at there
  by_cases same : id = station
  · subst same
    rw [AList.lookup_insert] at there
    obtain rfl := Option.some.inj there
    exact absurd le (Nat.not_le.mpr (fresh session has))
  · rw [AList.lookup_insert_ne same] at there
    exact ⟨found, there, has⟩

/-- A session that ends opens none. -/
theorem sheds_sessionEnded (id : SessionId) (reason : DisconnectReason) (now : Nat) :
    Sheds r (r.sessionEnded station id reason now) := by
  unfold Registry.sessionEnded
  cases r.owned station id with
  | none => exact .refl r
  | some record => exact sheds_put _ rfl le_rfl fun _ none => nomatch none

/-- The sweep opens no session. -/
theorem sheds_sweep (now : Nat) (r : Registry Reported) : Sheds r (r.sweep now) := by
  unfold Registry.sweep
  generalize r.stations.keys.mergeSort _ = stations
  induction stations generalizing r with
  | nil => exact .refl r
  | cons station rest ih =>
    have one : Sheds r (r.disconnect now station) := by
      unfold Registry.disconnect
      cases r.stations.lookup station with
      | none => exact .refl r
      | some record =>
        dsimp only
        split
        · exact sheds_put _ rfl le_rfl fun _ none => nomatch none
        · exact .refl r
    exact one.trans (ih _)

/-- To forget a station opens no session. -/
theorem sheds_forget (station : StationId) (r : Registry Reported) : Sheds r (r.forget station).1 := by
  unfold Registry.forget
  cases r.stations.lookup station with
  | none => exact .refl r
  | some record =>
    have erased {r' : Registry Reported} (stations : r'.stations = r.stations.erase station)
        (later : r'.nextSession = r.nextSession) : Sheds r (r'.emit (.forgotten station)) := by
      refine ⟨later.ge, fun id session _ ⟨found, there, has⟩ => ⟨found, ?_, has⟩⟩
      rw [emit_stations, stations] at there
      by_cases eq : id = station
      · subst eq
        rw [AList.lookup_erase] at there
        cases there
      · rwa [AList.lookup_erase_ne eq] at there
    dsimp only
    split
    · exact erased rfl rfl
    · exact erased rfl rfl

/-- What an accepted connection changes: it gets the next number, and the record of its station. -/
theorem register_ok {peer : String} {subprotocol : Option String} {now : Nat} {r' : Registry Reported}
    {id : SessionId} {old : Option SessionId}
    (registered : r.register env station peer subprotocol now = .ok (r', id, old)) :
    ∃ record events, record.session = some (r.nextSession + 1) ∧ id = r.nextSession + 1 ∧
      r' = { r with stations := r.stations.insert station record, nextSession := r.nextSession + 1, events } := by
  unfold Registry.register at registered
  split at registered
  · cases registered
  split at registered
  · cases registered
  simp only [Except.ok.injEq, Prod.mk.injEq] at registered
  obtain ⟨rfl, rfl, -⟩ := registered
  split
  · exact ⟨_, _, rfl, rfl, rfl⟩
  · exact ⟨_, _, rfl, rfl, rfl⟩

private theorem sheds_register {peer : String} {subprotocol : Option String} {now : Nat} {r' : Registry Reported}
    {id : SessionId} {old : Option SessionId}
    (registered : r.register env station peer subprotocol now = .ok (r', id, old)) : Sheds r r' := by
  obtain ⟨record, events, session, rfl, rfl⟩ := register_ok registered
  refine sheds_put record rfl (Nat.le_succ _) fun id has => ?_
  exact Option.some.inj (session.symm.trans has) ▸ Nat.lt_succ_self _

end Registry

/-! ## What the tasks do to the registry -/

/-- One visit to the registry. -/
inductive Visit (env : Env Reported) : Registry Reported → Registry Reported → Prop
  | quiet {r r' : Registry Reported} (quiet : r.Quiet r') : Visit env r r'
  | register {r r' : Registry Reported} {station : StationId} {peer : String} {subprotocol : Option String}
      {now : Nat} {id : SessionId} {old : Option SessionId}
      (registered : r.register env station peer subprotocol now = .ok (r', id, old)) : Visit env r r'
  | sessionEnded (r : Registry Reported) (station : StationId) (id : SessionId) (reason : DisconnectReason)
      (now : Nat) : Visit env r (r.sessionEnded station id reason now)
  | forget (r : Registry Reported) (station : StationId) : Visit env r (r.forget station).1
  | sweep (r : Registry Reported) (now : Nat) : Visit env r (r.sweep now)
  | stop (r : Registry Reported) : Visit env r { r with shutdown := true }

private theorem Visit.consistent {r' : Registry Reported} (visit : Visit env r r') (h : r.Consistent) :
    r'.Consistent := by
  cases visit with
  | quiet quiet => exact h.quiet quiet
  | register registered => exact h.register registered
  | sessionEnded _ id reason now => exact h.sessionEnded id reason now
  | forget station => exact h.forget station
  | sweep now => exact h.sweep now
  | stop => exact ⟨h.connected, h.alternate, h.agrees, h.bounded, h.numbered⟩

private theorem Visit.sheds {r' : Registry Reported} (visit : Visit env r r') : r.Sheds r' := by
  cases visit with
  | quiet quiet => exact quiet.sheds
  | register registered => exact Registry.sheds_register registered
  | sessionEnded _ id reason now => exact Registry.sheds_sessionEnded id reason now
  | forget station => exact Registry.sheds_forget station r
  | sweep now => exact Registry.sheds_sweep now r
  | stop => exact ⟨le_rfl, fun _ _ _ owns => owns⟩

/-- Nothing happens. -/
theorem Visit.refl (env : Env Reported) (r : Registry Reported) : Visit env r r := .quiet (.refl r)

namespace Server

variable {c : Server Reported} {id : SessionId} {s : Session}

@[simp] theorem setSession_registry (c : Server Reported) : (c.setSession id s).registry = c.registry := rfl

@[simp] theorem resolve_registry (caller : Caller) (result : CallResult) (c : Server Reported) :
    (c.resolve caller result).registry = c.registry := rfl

/-- A session is told through its own channel. -/
@[simp] theorem tell_registry (id : SessionId) (command : SessionCmd) (c : Server Reported) :
    (c.tell id command).registry = c.registry := by
  unfold tell
  split
  · split <;> rfl
  · rfl

@[simp] theorem tellOld_registry (old : Option SessionId) (reason : String) (c : Server Reported) :
    (c.tellOld old reason).registry = c.registry := by
  cases old with
  | none => rfl
  | some id => exact tell_registry id _ c

/-- A caller who waits for a session that ends. -/
@[simp] theorem dropReply_registry (id : SessionId) (c : Server Reported) (caller : Caller) (action : String) :
    (dropReply id c caller action).registry = c.registry := by
  unfold dropReply
  split <;> rfl

/-- The end of a session is told elsewhere. -/
theorem endSession_registry (reason : DisconnectReason) : (endSession id s reason c).registry = c.registry := by
  have dropped (calls : List (Caller × String)) (c : Server Reported) :
      (calls.foldl (fun c call => dropReply id c call.1 call.2) c).registry = c.registry := by
    induction calls generalizing c with
    | nil => rfl
    | cons call rest ih => rw [List.foldl_cons, ih, dropReply_registry]
  unfold endSession
  dsimp only
  split
  · rw [setSession_registry, dropped, setSession_registry]
  · rw [dropped, setSession_registry]

private theorem turn_visit (env : Env Reported) (turn : Turn) (c : Server Reported) :
    Visit env c.registry (c.turn env id s turn).registry := by
  unfold Server.turn
  split
  · unfold pump
    split
    · dsimp only
      split <;> exact .refl env _
    · exact .refl env _
  · unfold command
    split <;> exact .refl env _
  · unfold onText
    split
    · dsimp only
      split
      · exact .quiet ((Registry.Quiet.refl _).emit _ fun _ => rfl)
      · exact .quiet ((Registry.Quiet.refl _).emit _ fun _ => rfl)
    · rw [setSession_registry]
      exact .quiet (Registry.quiet_recordFrame _ _ _ _)
  · unfold onFrame
    split
    · dsimp only
      split
      all_goals
        rw [setSession_registry]
        dsimp only
        exact .quiet (Registry.quiet_track _ _ _ _ _)
    · dsimp only
      split
      · split <;> exact .refl env _
      · exact .refl env _
  · rw [setSession_registry]
    exact .quiet (Registry.quiet_recordFrame _ _ _ _)
  · unfold written
    split <;> exact .refl env _
  · unfold expireInFlight
    split
    · exact .refl env _
    · split <;> exact .refl env _
  · split <;> exact .refl env _
  · split
    · rw [endSession_registry]
      exact .refl env _
    · exact .refl env _
  · exact .sessionEnded _ _ _ _ _
  · exact .refl env _

private theorem step_visit (env : Env Reported) (input : Input) (c : Server Reported) :
    Visit env c.registry (step env c input).registry := by
  unfold step
  split
  · rename_i station peer subprotocol now
    cases registered : c.registry.register env station peer subprotocol now with
    | error _ => exact .refl env _
    | ok result =>
      dsimp only
      rw [setSession_registry, tellOld_registry]
      exact .register registered
  · dsimp only
    rw [tellOld_registry]
    exact .forget _ _
  · exact .stop _
  · split
    · exact .sweep _ _
    · exact .refl env _
  · unfold call
    dsimp only
    split
    · exact .refl env _
    · split
      · split <;> exact .refl env _
      · exact .refl env _
  · unfold giveUp
    split
    · exact .refl env _
    · split
      · exact .refl env _
      · dsimp only
        split <;> exact .refl env _
  · unfold resume
    split
    · split
      · exact .refl env _
      · dsimp only
        split
        · split
          · exact .quiet (Registry.quiet_trackResult _ _ _ _)
          · exact .refl env _
        · exact .quiet Registry.quiet_noteFailedCall
        · exact .quiet Registry.quiet_noteFailedCall
        · exact .refl env _
    · exact .refl env _
  · split
    · exact .refl env _
    · exact turn_visit env _ c

private theorem run_consistent (env : Env Reported) (inputs : List Input) (c : Server Reported)
    (h : c.registry.Consistent) : (c.run env inputs).registry.Consistent := by
  unfold run
  induction inputs generalizing c with
  | nil => exact h
  | cons input rest ih => exact ih _ ((step_visit env input c).consistent h)

private theorem run_sheds (env : Env Reported) (inputs : List Input) (c : Server Reported) :
    c.registry.Sheds (c.run env inputs).registry := by
  unfold run
  induction inputs generalizing c with
  | nil => exact .refl _
  | cons input rest ih => exact (step_visit env input c).sheds.trans (ih _)

private theorem visit_config {r' : Registry Reported} (visit : Visit env r r') : r'.config = r.config := by
  cases visit with
  | quiet quiet => exact quiet.config
  | register registered =>
    obtain ⟨record, events, -, -, rfl⟩ := Registry.register_ok registered
    rfl
  | sessionEnded _ id reason now =>
    unfold Registry.sessionEnded
    split <;> rfl
  | forget station =>
    unfold Registry.forget
    split
    · rfl
    · dsimp only
      split <;> rfl
  | sweep now =>
    unfold Registry.sweep
    generalize r.stations.keys.mergeSort _ = stations
    induction stations generalizing r with
    | nil => rfl
    | cons station rest ih =>
      rw [List.foldl_cons, ih]
      unfold Registry.disconnect
      split
      · rfl
      · split <;> rfl
  | stop => rfl

private theorem run_config (env : Env Reported) (inputs : List Input) (c : Server Reported) :
    (c.run env inputs).registry.config = c.registry.config := by
  unfold run
  induction inputs generalizing c with
  | nil => rfl
  | cons input rest ih => rw [List.foldl_cons, ih, visit_config (step_visit env input c)]

/-- A server that starts. -/
def start (config : CsmsConfig) : Server Reported := { registry := { config } }

private theorem start_consistent (config : CsmsConfig) : (start config : Server Reported).registry.Consistent where
  connected := fun _ _ found => nomatch found
  alternate := fun _ => ⟨.nil, fun _ mem => nomatch mem⟩
  agrees := fun _ => rfl
  bounded := Nat.zero_le _
  numbered := fun _ _ _ found => nomatch found

/-- **The registry over whole runs.** The records and the events of each station agree, the registry stays within
its bound, and the end of a session that lost its record changes nothing, at any later time. -/
theorem registry_consistent (env : Env Reported) (config : CsmsConfig) (inputs : List Input) :
    let c := (start config).run env inputs
    (∀ station record, c.registry.stations.lookup station = some record →
      (record.info.connected = true ↔ record.session.isSome)) ∧
    (∀ station, Alternate (turns station c.registry.events) ∧
      ((turns station c.registry.events).head? = some true ↔
        ∃ record, c.registry.stations.lookup station = some record ∧ record.session.isSome)) ∧
    c.registry.stations.keys.length ≤ config.maxStations ∧
    ∀ station id input later, c.registry.Owns station id → ¬(c.step env input).registry.Owns station id →
      ∀ reason now, (((c.step env input).run env later).registry.sessionEnded station id reason now) =
        ((c.step env input).run env later).registry := by
  intro c
  have h := run_consistent env inputs _ (start_consistent config)
  refine ⟨fun station record found => ?_, fun station => ⟨h.alternate station, ?_⟩, ?_,
    fun station id input later owned lost reason now => ?_⟩
  · rw [h.connected station record found]
  · have last : (turns station c.registry.events).head? = some true ↔
        (turns station c.registry.events).headD false = true := by
      cases turns station c.registry.events <;> simp
    rw [last, h.agrees, Registry.online]
    cases found : c.registry.stations.lookup station <;> simp
  · have := h.bounded
    rwa [run_config] at this
  · obtain ⟨record, found, session⟩ := owned
    have numbered := h.numbered station record id found session
    have before := (step_visit env input c).sheds
    have after := run_sheds env later (c.step env input)
    have none : ¬((c.step env input).run env later).registry.Owns station id := fun owns =>
      lost (after.owns station id (numbered.trans before.later) owns)
    rw [Registry.not_owns_iff] at none
    unfold Registry.sessionEnded
    rw [none]

end Server

end KirbyOcpp.Csms
