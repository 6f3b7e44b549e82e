import KirbyOcpp.Laws.Csms.Registry

/-!
# Who writes into a record

The frames of a session go into a record only while the session is the one of the record. What a caller adds
after its await, a failed call or an answer with certificates, goes into the record that is registered then.

**The law** `isolated_iff`: in every run, no step of a session or of one of its callers changes the record of
another session, if and only if no caller goes on with such a result after its session lost the record.
-/

namespace KirbyOcpp.Csms

open Ws (Json Frame)

variable {Reported : Type} {env : Env Reported} {r : Registry Reported} {station : StationId} {id : SessionId}

namespace Registry

/-- The records of other sessions are what they were. -/
def Spares (id : SessionId) (r r' : Registry Reported) : Prop :=
  ∀ station, ¬r.Owns station id → r'.stations.lookup station = r.stations.lookup station

private theorem spares_put {record : StationRec Reported} (owned : r.owned station id = some record)
    (record' : StationRec Reported) : Spares id r (r.put station record') := by
  intro other none
  rw [put_stations]
  refine AList.lookup_insert_ne fun same => none ?_
  exact same ▸ ⟨record, owned_eq_some.mp owned⟩

private theorem spares_recordFrame (direction : Direction) (frame : Frame) (now : Nat) :
    Spares id r (r.recordFrame env station id direction frame now) := by
  unfold recordFrame
  cases owned : r.owned station id with
  | none => exact fun _ _ => rfl
  | some record => exact spares_put owned _

private theorem spares_track (action : String) (request : Json) (reply : Reply) (now : Nat) :
    Spares id r (r.track env station id action request reply now) := by
  unfold track
  split
  · cases owned : r.owned station id with
    | none => exact fun _ _ => rfl
    | some record =>
      dsimp only
      split
      · exact spares_put owned _
      · exact spares_put owned _
  · exact fun _ _ => rfl

private theorem spares_sessionEnded (reason : DisconnectReason) (now : Nat) :
    Spares id r (r.sessionEnded station id reason now) := by
  unfold sessionEnded
  cases owned : r.owned station id with
  | none => exact fun _ _ => rfl
  | some record => exact spares_put owned _

end Registry

namespace Server

variable {c : Server Reported} {s : Session}

/-- The session that a step originates from: its own, or the one that the CALL of a caller was queued on. -/
def origin (c : Server Reported) : Input → Option SessionId
  | .session id _ => some id
  | .resume caller _ => (c.requests caller).map (·.session)
  | _ => none

/-- No step of a session changes the record of another one. -/
def Isolated (env : Env Reported) (c : Server Reported) (input : Input) : Prop :=
  ∀ id, c.origin input = some id → c.registry.Spares id (c.step env input).registry

/-- The result adds something to the state of the record. -/
def Adds (env : Env Reported) (request : Request) (now : Nat) (record : StationRec Reported) : CallResult → Prop
  | .answer (.callResult _ payload) =>
    (record.state.applyResult env request.action request.payload payload now).1 ≠ record.state
  | .answer (.callError _ _ _ _) | .timeout _ _ _ => True
  | _ => False

/-- A caller that goes on with a result which adds something does so while its session has the record. -/
def Prompt (env : Env Reported) (c : Server Reported) : Input → Prop
  | .resume caller now => ∀ request result record, c.requests caller = some request →
      c.results caller = some result → ¬(caller ∈ c.gone ∨ caller ∈ c.returned.map (·.1)) →
      c.registry.stations.lookup request.station = some record → Adds env request now record result →
      record.session = some request.session
  | _ => True

private theorem turn_spares (env : Env Reported) (turn : Turn) (c : Server Reported) :
    c.registry.Spares id (c.turn env id s turn).registry := by
  unfold Server.turn
  split
  · unfold pump
    split
    · dsimp only
      split <;> exact fun _ _ => rfl
    · exact fun _ _ => rfl
  · unfold command
    split <;> exact fun _ _ => rfl
  · unfold onText
    split
    · dsimp only
      split <;> exact fun _ _ => rfl
    · rw [setSession_registry]
      exact Registry.spares_recordFrame _ _ _
  · unfold onFrame
    split
    · dsimp only
      split
      all_goals
        rw [setSession_registry]
        exact Registry.spares_track _ _ _ _
    · dsimp only
      split
      · split <;> exact fun _ _ => rfl
      · exact fun _ _ => rfl
  · rw [setSession_registry]
    exact Registry.spares_recordFrame _ _ _
  · unfold written
    split <;> exact fun _ _ => rfl
  · unfold expireInFlight
    split
    · exact fun _ _ => rfl
    · split <;> exact fun _ _ => rfl
  · split <;> exact fun _ _ => rfl
  · split
    · rw [endSession_registry]
      exact fun _ _ => rfl
    · exact fun _ _ => rfl
  · exact Registry.spares_sessionEnded _ _
  · exact fun _ _ => rfl

private theorem lookup_noteFailedCall {record : StationRec Reported}
    (found : r.stations.lookup station = some record) (other : StationId) :
    ((r.noteFailedCall station).stations.lookup other) =
      if other = station then
        some { record with state := { record.state with failedCalls := record.state.failedCalls + 1 } }
      else r.stations.lookup other := by
  unfold Registry.noteFailedCall
  rw [found]
  dsimp only
  rw [Registry.emit_stations, Registry.put_stations]
  by_cases same : other = station
  · subst same
    rw [AList.lookup_insert, if_pos rfl]
  · rw [AList.lookup_insert_ne same, if_neg same]

private theorem lookup_trackResult {record : StationRec Reported} (action : String) (request response : Json)
    (now : Nat) (found : r.stations.lookup station = some record) (other : StationId) :
    ((r.trackResult env station action request response now).stations.lookup other) =
      if other = station then
        some { record with state := (record.state.applyResult env action request response now).1 }
      else r.stations.lookup other := by
  unfold Registry.trackResult
  rw [found]
  have written (r' : Registry Reported) (stations : r'.stations = r.stations.insert station
      { record with state := (record.state.applyResult env action request response now).1 }) :
      r'.stations.lookup other = if other = station then
        some { record with state := (record.state.applyResult env action request response now).1 }
      else r.stations.lookup other := by
    rw [stations]
    by_cases same : other = station
    · subst same
      rw [AList.lookup_insert, if_pos rfl]
    · rw [AList.lookup_insert_ne same, if_neg same]
  dsimp only
  split
  · exact written _ rfl
  · exact written _ rfl

private theorem noteFailedCall_none (found : r.stations.lookup station = none) : r.noteFailedCall station = r := by
  unfold Registry.noteFailedCall
  rw [found]

private theorem trackResult_none (action : String) (request response : Json) (now : Nat)
    (found : r.stations.lookup station = none) : r.trackResult env station action request response now = r := by
  unfold Registry.trackResult
  rw [found]

/-- What a caller that goes on makes of the registry: it writes one record, or nothing. -/
theorem resume_registry (env : Env Reported) (caller : Caller) (now : Nat) {request : Request} {result : CallResult}
    (asked : c.requests caller = some request) (got : c.results caller = some result)
    (awaits : ¬(caller ∈ c.gone ∨ caller ∈ c.returned.map (·.1))) :
    (∀ other, other ≠ request.station →
      (c.resume env caller now).registry.stations.lookup other = c.registry.stations.lookup other) ∧
    ((c.resume env caller now).registry.stations.lookup request.station =
        c.registry.stations.lookup request.station ↔
      ∀ record, c.registry.stations.lookup request.station = some record → ¬Adds env request now record result) := by
  unfold resume
  rw [asked, got]
  dsimp only
  rw [if_neg awaits]
  have nothing (adds : ∀ record, ¬Adds env request now record result) :
      (∀ other, other ≠ request.station →
        c.registry.stations.lookup other = c.registry.stations.lookup other) ∧
      (c.registry.stations.lookup request.station = c.registry.stations.lookup request.station ↔
        ∀ record, c.registry.stations.lookup request.station = some record →
          ¬Adds env request now record result) :=
    ⟨fun _ _ => rfl, iff_of_true rfl fun record _ => adds record⟩
  have failed (adds : ∀ record, Adds env request now record result) :
      (∀ other, other ≠ request.station → (c.registry.noteFailedCall request.station).stations.lookup other =
        c.registry.stations.lookup other) ∧
      ((c.registry.noteFailedCall request.station).stations.lookup request.station =
          c.registry.stations.lookup request.station ↔
        ∀ record, c.registry.stations.lookup request.station = some record → ¬Adds env request now record result) := by
    cases found : c.registry.stations.lookup request.station with
    | none =>
      rw [noteFailedCall_none found]
      exact ⟨fun _ _ => rfl, by simp [found]⟩
    | some record =>
      refine ⟨fun other differs => by rw [lookup_noteFailedCall found, if_neg differs], ?_⟩
      rw [lookup_noteFailedCall found, if_pos rfl]
      constructor
      · intro same
        have counts := congrArg (fun record => record.state.failedCalls) (Option.some.inj same)
        simp at counts
      · intro none
        exact absurd (adds record) (none record rfl)
  cases result with
  | answer frame =>
    cases frame with
    | call message action payload => exact nothing fun _ adds => adds
    | callError message code description details => exact failed fun _ => trivial
    | callResult message payload =>
      dsimp only
      split
      · cases found : c.registry.stations.lookup request.station with
        | none =>
          rw [trackResult_none _ _ _ _ found]
          exact ⟨fun _ _ => rfl, by simp [found]⟩
        | some record =>
          refine ⟨fun other differs => by rw [lookup_trackResult _ _ _ _ found, if_neg differs], ?_⟩
          rw [lookup_trackResult _ _ _ _ found, if_pos rfl]
          constructor
          · intro same record' eq adds
            obtain rfl := Option.some.inj eq
            exact adds (congrArg StationRec.state (Option.some.inj same))
          · intro none
            have same : (record.state.applyResult env request.action request.payload payload now).1 = record.state :=
              not_not.mp (none record rfl)
            rw [same]
      · rename_i other
        refine nothing fun record adds => adds ?_
        unfold StationState.applyResult
        rw [if_neg other]
  | timeout station action timeout => exact failed fun _ => trivial
  | connectionClosed station action => exact nothing fun _ adds => adds
  | unknownStation station => exact nothing fun _ adds => adds
  | notConnected station => exact nothing fun _ adds => adds

private theorem isolated_step (env : Env Reported) (c : Server Reported) (input : Input) :
    Isolated env c input ↔ Prompt env c input := by
  cases input with
  | session id turn =>
    refine iff_of_true (fun id' from' => ?_) trivial
    obtain rfl := Option.some.inj from'
    unfold step
    dsimp only
    split
    · exact fun _ _ => rfl
    · exact turn_spares env turn c
  | resume caller now =>
    cases asked : c.requests caller with
    | none =>
      refine iff_of_true (fun id from' => ?_) fun request _ _ same => ?_
      · simp [origin, asked] at from'
      · rw [asked] at same
        cases same
    | some request =>
      have goes : Isolated env c (.resume caller now) ↔
          c.registry.Spares request.session (c.resume env caller now).registry := by
        constructor
        · exact fun isolated => isolated request.session (by simp [origin, asked])
        · intro spares id from'
          rw [origin, asked] at from'
          obtain rfl := Option.some.inj from'
          exact spares
      rw [goes]
      by_cases awaits : caller ∈ c.gone ∨ caller ∈ c.returned.map (·.1)
      · refine iff_of_true ?_ fun _ _ _ _ _ waits => absurd awaits waits
        unfold resume
        rw [asked]
        cases c.results caller with
        | none => exact fun _ _ => rfl
        | some result =>
          dsimp only
          rw [if_pos awaits]
          exact fun _ _ => rfl
      · cases got : c.results caller with
        | none =>
          refine iff_of_true ?_ fun _ _ _ _ same => ?_
          · unfold resume
            rw [asked, got]
            exact fun _ _ => rfl
          · rw [got] at same
            cases same
        | some result =>
          obtain ⟨others, own⟩ := resume_registry env caller now asked got awaits
          constructor
          · intro spares request' result' record asked' got' _ found adds
            obtain rfl := Option.some.inj (asked.symm.trans asked')
            obtain rfl := Option.some.inj (got.symm.trans got')
            by_contra lost
            have kept := spares request.station fun holds => by
              obtain ⟨record', found', session⟩ := holds
              obtain rfl := Option.some.inj (found.symm.trans found')
              exact lost session
            exact own.mp kept record found adds
          · intro prompt station none
            by_cases same : station = request.station
            · subst same
              refine own.mpr fun record found adds => none ?_
              exact ⟨record, found, prompt request result record asked got awaits found adds⟩
            · exact others station same
  | register | forget | stop | sweep | call | giveUp =>
    exact iff_of_true (by rintro _ ⟨⟩) trivial

/-! ## Runs -/

/-- Every step of a run satisfies `P` in the state that it is taken in. -/
def Each (P : Server Reported → Input → Prop) (env : Env Reported) : Server Reported → List Input → Prop
  | _, [] => True
  | c, input :: rest => P c input ∧ Each P env (c.step env input) rest

/-- **Isolation of sessions.** In every run, no step of a session or of a caller that queued on it changes the
record of another session, exactly when no caller adds to a record that its session has lost. -/
theorem isolated_iff (env : Env Reported) (config : CsmsConfig) (inputs : List Input) :
    Each (Isolated env) env (start config) inputs ↔ Each (Prompt env) env (start config) inputs := by
  have all (c : Server Reported) : Each (Isolated env) env c inputs ↔ Each (Prompt env) env c inputs := by
    induction inputs generalizing c with
    | nil => exact Iff.rfl
    | cons input rest ih => exact and_congr (isolated_step env c input) (ih _)
  exact all _

/-! ### On one station -/

/-- Reads the CALLERROR of the first CALL. -/
def bench : Env Unit where
  fromStr text :=
    if text == "[4,\"csms-1\",\"InternalError\",\"\",\x7b\x7d]" then
      .ok (.array [.integer 4, .string "csms-1", .string "InternalError", .string "", .object []])
    else .error "expected value at line 1 column 1"
  render _ := ""
  unreported := ()
  apply _ _ _ _ reported := (reported, false)
  certificateType _ := none
  installed _ := none

/-- The station refuses a CALL, is forgotten and comes back before the caller goes on. -/
def lateCaller : List Input :=
  [.register "CP-1" "10.0.0.1:5000" none 0, .call "CP-1" "Reset" (.object []) 30, .session 1 .pump,
    .session 1 .command, .session 1 .pump, .session 1 (.record 1), .session 1 (.written 1), .session 1 .pump,
    .session 1 (.inbound "[4,\"csms-1\",\"InternalError\",\"\",\x7b\x7d]" 2),
    .session 1 (.handle .silence 2), .forget "CP-1", .register "CP-1" "10.0.0.1:5001" none 3]

/-- The new record counts the failed call of the old session. -/
theorem lateCaller_not_isolated :
    ¬Isolated bench ((start {}).run bench lateCaller) (.resume 0 4) := by
  intro isolated
  have stale : ¬((start {}).run bench lateCaller).registry.Owns "CP-1" 1 := by
    rw [Registry.not_owns_iff]
    have session : (((start {}).run bench lateCaller).registry.owned "CP-1" 1).isNone = true := by decide +kernel
    exact Option.isNone_iff_eq_none.mp session
  have from' : ((start {}).run bench lateCaller).origin (.resume 0 4) = some 1 := by decide +kernel
  have same := congrArg (Option.map fun record => record.state.failedCalls) (isolated 1 from' "CP-1" stale)
  revert same
  decide +kernel

end Server

end KirbyOcpp.Csms
