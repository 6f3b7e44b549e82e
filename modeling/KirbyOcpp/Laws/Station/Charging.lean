import KirbyOcpp.Ledger.TxIds

/-!
# Charging and the EV

A connector that charges has an EV, whatever happens while the answer to a start or to a stop is awaited.
Three things break it: a start is taken over although the EV has gone, a fault is cleared on a connector
whose EV has gone, and a reservation ends on a connector that shows it although the EV has gone.
-/

namespace KirbyOcpp

open Paths Relation

variable {allow : Allow} {l l' : Ledger} {c c' : ConnectorSnapshot}

/-! ## One connector -/

private theorem applied_status (pending : Option AvailabilityType) (c : ConnectorSnapshot) :
    (c.applied pending).status = c.status ∨ (c.applied pending).status.calm = true := by
  cases pending with
  | none => exact .inl rfl
  | some kind => exact .inr (statusAfterAvailabilityChange_calm _ _)

private theorem applied_evConnected (pending : Option AvailabilityType) (c : ConnectorSnapshot) :
    (c.applied pending).evConnected = c.evConnected := by
  cases pending <;> rfl

private theorem clearReservation_evConnected (c : ConnectorSnapshot) :
    (clearReservation c).evConnected = c.evConnected := by
  unfold clearReservation
  dsimp only
  repeat' split
  all_goals rfl

namespace ConnectorSnapshot

private theorem Live.of_calm (calm : c.status.calm = true) : c.Live :=
  fun charging => absurd charging (ConnectorStatus.uncharging calm)

/-- The status and the EV decide. -/
theorem Live.of_same (live : c.Live) (status : c'.status = c.status) (ev : c'.evConnected = c.evConnected) :
    c'.Live := by
  unfold Live
  rwa [status, ev]

/-- A change of availability lets nothing charge. -/
theorem Live.applied (live : c.Live) (pending : Option AvailabilityType) : (c.applied pending).Live := by
  rcases applied_status pending c with same | calm
  · exact live.of_same same (applied_evConnected pending c)
  · exact .of_calm calm

end ConnectorSnapshot

/-- An edit without `bare` keeps the EV of a charging connector, if no reservation ends on a stranded one. -/
theorem Edit.live (bare : allow.bare = false) (h : Edit allow l c c')
    (safe : allow.releases = false ∨ ¬c.Stranded) (live : c.Live) : c'.Live := by
  cases h with
  | mild h => exact h.live live
  | powered h =>
    rcases h.live with broken | keeps | ⟨releases, keeps⟩
    · simp [bare] at broken
    · exact keeps live
    · exact keeps live (safe.resolve_left (by simp [releases]))
  | change kind =>
    unfold Actor.changedAvailability
    dsimp only
    split
    · exact live.of_same rfl rfl
    · exact live.applied (some kind)
  | changeStation kind =>
    refine .of_calm ?_
    unfold Actor.stationAvailability chargePointStatus
    dsimp only
    split <;> rfl
  | start => exact fun _ => rfl
  | charge idTag usable plugged => exact fun _ => (clearReservation_evConnected c).trans plugged
  | abandon =>
    refine ConnectorSnapshot.Live.applied ?_ _
    intro charging
    exfalso
    unfold Actor.abandonedConnector at charging
    dsimp only at charging
    split at charging
    · split at charging <;> cases charging
    · contradiction
  | activate active localId held transactionId tx usable plugged =>
    exact fun _ => (clearReservation_evConnected _).trans (plugged.resolve_left (by simp [bare]))
  | halt _ _ h => exact .of_calm h.calm
  | mark => exact live.of_same rfl rfl
  | forget tx =>
    refine ConnectorSnapshot.Live.applied ?_ _
    unfold Actor.forgetTransaction
    split
    · exact live.of_same rfl rfl
    · exact live
  | assign =>
    unfold Actor.activatedConnector
    dsimp only
    split
    · exact live.of_same rfl rfl
    · exact live
  | drop localId =>
    refine ConnectorSnapshot.Live.applied ?_ _
    unfold Actor.droppedConnector
    split
    · refine .of_calm ?_
      dsimp only
      repeat' split
      all_goals rfl
    · exact live

/-- A connector without a transaction is not stranded. -/
theorem unstranded_of_idle (idle : c.transaction.isIdle = true) : ¬c.Stranded := by
  rintro ⟨-, busy, -⟩
  simp [idle] at busy

private theorem busy_of_held {tx : TxId} (held : c.txId = some tx) : c.transaction.isIdle = false := by
  unfold ConnectorSnapshot.txId at held
  cases h : c.transaction with
  | idle =>
    rw [h] at held
    cases held
  | _ => rfl

/-- An edit without `bare` and `early` strands no connector. -/
theorem Edit.stranded (bare : allow.bare = false) (early : allow.early = false) (h : Edit allow l c c')
    (stranded : c'.Stranded) : c.Stranded := by
  cases h with
  | mild h => exact h.stranded stranded
  | powered h => exact h.stranded.resolve_left (by simp [bare]) stranded
  | change kind =>
    unfold Actor.changedAvailability at stranded
    dsimp only at stranded
    split at stranded
    · exact stranded
    · rename_i idle
      exact absurd stranded (unstranded_of_idle (by simpa using idle))
  | changeStation kind =>
    have shown : chargePointStatus kind c.status = .reserved := stranded.1
    unfold chargePointStatus at shown
    split at shown <;> cases shown
  | start =>
    have bare : true = false := stranded.2.2
    cases bare
  | charge =>
    have shown : ConnectorStatus.charging = .reserved := stranded.1
    cases shown
  | abandon =>
    refine absurd stranded (unstranded_of_idle ?_)
    rw [applied_transaction]
    rfl
  | activate =>
    have shown : ConnectorStatus.charging = .reserved := stranded.1
    cases shown
  | halt _ _ h => exact absurd stranded.1 h.reserved
  | mark stopping held => exact ⟨stranded.1, busy_of_held held, stranded.2.2⟩
  | forget tx ends =>
    unfold Actor.forgetTransaction at stranded
    split at stranded
    · refine absurd stranded (unstranded_of_idle ?_)
      rw [applied_transaction]
      rfl
    · rename_i other
      rcases ends with broken | held | none
      · simp [early] at broken
      · exact absurd held other
      · rwa [none] at stranded
  | assign localId transactionId entry =>
    unfold Actor.activatedConnector at stranded
    dsimp only at stranded
    split at stranded
    · rename_i held
      exact ⟨stranded.1, busy_of_held held, stranded.2.2⟩
    · exact stranded
  | drop localId ends =>
    unfold Actor.droppedConnector at stranded
    split at stranded
    · refine absurd stranded (unstranded_of_idle ?_)
      rw [applied_transaction]
      rfl
    · rename_i other
      rcases ends with broken | held | none
      · simp [early] at broken
      · exact absurd held other
      · rwa [none] at stranded

/-! ## All connectors -/

/-- Every connector that charges has an EV, also in the state files. -/
structure Lives (l : Ledger) : Prop where
  connectors : ∀ c ∈ l.connectors, c.Live
  saved : ∀ data ∈ l.written, ∀ c ∈ data.connectors, c.status = .charging → c.evConnected = true

/-- No connector is stranded. -/
def Unstranded (l : Ledger) : Prop := ∀ c ∈ l.connectors, ¬c.Stranded

private theorem lives_step (bare : allow.bare = false) (step : Trans allow l l') (ids : Ids l)
    (safe : allow.releases = false ∨ Unstranded l) (h : Lives l) : Lives l' := by
  obtain ⟨f, added, eq, edits, new⟩ := (step.edits ids).connectors
  refine ⟨fun c mem => ?_, fun data mem => ?_⟩
  · rw [eq, List.mem_append] at mem
    rcases mem with mapped | fresh
    · obtain ⟨d, old, rfl⟩ := List.mem_map.mp mapped
      exact (edits d old).live bare (safe.imp_right fun unstranded => unstranded d old) (h.connectors d old)
    · obtain ⟨id, rfl, -⟩ := new c fresh
      exact nofun
  · rcases step.saved mem with old | ⟨-, now⟩
    · exact h.saved data old
    · intro c known
      rw [now] at known
      obtain ⟨d, old, rfl⟩ := List.mem_map.mp known
      exact h.connectors d old

private theorem unstranded_step (bare : allow.bare = false) (early : allow.early = false) (step : Trans allow l l')
    (ids : Ids l) (h : Unstranded l) : Unstranded l' := by
  obtain ⟨f, added, eq, edits, new⟩ := (step.edits ids).connectors
  intro c mem stranded
  rw [eq, List.mem_append] at mem
  rcases mem with mapped | fresh
  · obtain ⟨d, old, rfl⟩ := List.mem_map.mp mapped
    exact h d old ((edits d old).stranded bare early stranded)
  · obtain ⟨id, rfl, -⟩ := new c fresh
    exact unstranded_of_idle rfl stranded

/-- What a run needs to know of the books. -/
structure Plugged (l : Ledger) : Prop where
  ids : Ids l
  worded : Worded l
  lives : Lives l

/-- A path without `bare` that ends no reservation, or meets no stranded connector. -/
theorem Plugged.path (h : Plugged l) (bare : allow.bare = false)
    (mode : allow.releases = false ∨ (allow.early = false ∧ Unstranded l)) (path : Path allow l l') :
    Plugged l' := by
  rcases mode with releases | ⟨early, unstranded⟩
  · have all := (worded_preserved allow).and (J := Lives) fun l l' step ⟨ids, _⟩ lives =>
      lives_step bare step ids (.inl releases) lives
    obtain ⟨⟨ids, worded⟩, lives⟩ := all.path path ⟨⟨h.ids, h.worded⟩, h.lives⟩
    exact ⟨ids, worded, lives⟩
  · have all := ((worded_preserved allow).and (J := Unstranded) fun l l' step ⟨ids, _⟩ unstranded =>
      unstranded_step bare early step ids unstranded).and (J := Lives)
        fun l l' step ⟨⟨ids, _⟩, unstranded⟩ lives => lives_step bare step ids (.inr unstranded) lives
    obtain ⟨⟨⟨ids, worded⟩, -⟩, lives⟩ := all.path path ⟨⟨⟨h.ids, h.worded⟩, unstranded⟩, h.lives⟩
    exact ⟨ids, worded, lives⟩

namespace Actor

/-! ## The inputs that keep the EV -/

/-- A status set by hand. -/
def SetsStatus : Input → Prop
  | .command (.setConnectorStatus _ _) _ | .command (.cycleConnectorStatus _) _ => True
  | _ => False

/-- The answer to a start that the connector takes over finds the EV. -/
def KeepsEvDone (a : Actor) (continuation : Cont) (result : CallResult) : Prop :=
  match continuation with
  | .startResult id localId pending _ => ∀ response, decodeStart result = .ok response →
      a.takesOver id localId (applyOnlineIdTagInfo pending.idTag response.idTagInfo a.now a.authCache
        a.registry).2.accepted = true → ∀ c, a.findConnector id = some c → c.evConnected = true
  | _ => True

/-- A connector whose EV has gone shows a reservation. -/
def Unstranded (a : Actor) : Prop := ∀ c ∈ a.connectors, ¬c.Stranded

/-- An input that switches no connector on whose EV has gone. -/
def KeepsEv (a : Actor) : Input → Prop
  | .command (.clearFault id) _ => ∀ c, a.connector id = some c → c.transaction.isIdle = false →
      c.availability = .inoperative ∨ c.evConnected = true
  | .incoming (.reserveNow _) | .incoming (.cancelReservation _) | .incoming (.reset _) =>
    a.link.conn = true → a.Unstranded
  | .timer (.reservationExpiry _) => a.Unstranded
  | .callDone token generation result => generation = a.link.generation → ∀ call,
      (a.calls.find? fun c => c.token == token) = some call → a.KeepsEvDone call.continuation result
  | _ => True

/-- A state file without stranded connectors. -/
def KeepsEvSaved (saved : PersistedStation) : Prop :=
  ∀ c ∈ saved.connectors, c.status = .reserved → c.transaction.isIdle = false → c.evConnected = true

/-! ## One iteration -/

/-- The permissions of an input that ends no reservation. -/
def holding : Allow := { bare := false, releases := false }

/-- The permissions of an input that ends reservations. -/
def freeing : Allow := { bare := false, early := false }

private theorem mayComplete_keepsEv (a : Actor) (continuation : Cont) (result : CallResult)
    (keeps : a.KeepsEvDone continuation result) : MayComplete holding a continuation result := by
  cases continuation with
  | startResult => exact fun response decoded takes => ⟨.inl rfl, .inr (keeps response decoded takes), rfl⟩
  | stopResult => exact ⟨.inl rfl, fun _ => .inl rfl⟩
  | syncStart key =>
    intro response e _ _
    unfold MayDeliver
    split
    · exact ⟨.inl rfl, .inl rfl⟩
    · exact ⟨rfl, .inl rfl, .inl rfl⟩
  | authorize _ done =>
    cases done with
    | reply => trivial
    | remoteStart => exact fun _ _ _ _ => ⟨rfl, fun _ => .inl rfl⟩
  | meterValues => exact fun _ => rfl
  | boot =>
    intro response _
    split
    · exact .inl rfl
    · rfl
  | _ => trivial

private theorem permits_keepsEv (a : Actor) (input : Input) (keeps : a.KeepsEv input) (unset : ¬SetsStatus input) :
    Permits holding a input ∨ (Permits freeing a input ∧ a.Unstranded) := by
  have closes : holding.Closes a.limited := ⟨rfl, rfl, .inl fun _ => rfl⟩
  cases input with
  | command command reply =>
    cases command with
    | startTransaction => exact .inl ⟨rfl, fun _ => .inl rfl⟩
    | stopTransaction => exact .inl rfl
    | meterValues => exact .inl fun _ => rfl
    | plugIn => exact .inl (.inl rfl)
    | unplug => exact .inl ⟨.inl rfl, .inl rfl, .inl rfl⟩
    | fault => exact .inl ⟨rfl, rfl⟩
    | clearFault => exact .inl ⟨.inl rfl, .inr keeps⟩
    | setConnectorStatus => exact absurd trivial unset
    | cycleConnectorStatus => exact absurd trivial unset
    | disconnect => exact .inl closes
    | reconnect => exact .inl closes
    | _ => exact .inl trivial
  | incoming call =>
    by_cases conn : a.link.conn = true
    · cases call with
      | remoteStart connectorId idTag profile =>
        refine .inl fun _ id _ => ?_
        split
        · exact fun _ _ _ => ⟨rfl, fun _ => .inl rfl⟩
        · exact ⟨rfl, fun _ => .inl rfl⟩
      | remoteStop => exact .inl fun _ _ _ _ => rfl
      | unlockConnector => exact .inl fun _ => rfl
      | changeAvailability => exact .inl fun _ => rfl
      | reserveNow => exact .inr ⟨fun _ => .inr rfl, keeps conn⟩
      | cancelReservation => exact .inr ⟨fun _ => .inr rfl, keeps conn⟩
      | reset => exact .inr ⟨fun _ => ⟨rfl, fun _ _ _ => rfl, .inr rfl, .inl rfl⟩, keeps conn⟩
      | _ => exact .inl fun _ => trivial
    · exact .inl fun h => absurd h conn
  | timer key =>
    cases key with
    | meterPeriodic => exact .inl fun _ => rfl
    | meterAligned => exact .inl (.inl fun _ => rfl)
    | reservationExpiry => exact .inr ⟨.inr rfl, keeps⟩
    | hardReset => exact .inl closes
    | _ => exact .inl trivial
  | closed => exact .inl closes
  | connected => exact .inl rfl
  | shutdown => exact .inl ⟨closes, .inl rfl⟩
  | saved => exact .inl trivial
  | maintenance => exact .inl trivial
  | callDone token generation result =>
    refine .inl fun current call found => ?_
    exact a.mayComplete_keepsEv call.continuation result (keeps current call found)

/-- What is known of an actor between two iterations. -/
def PluggedIn (a : Actor) : Prop := Plugged (a.ledger [] .none)

/-- A quiet operation unplugs nothing that charges. -/
theorem PluggedIn.quiet {a b : Actor} (h : a.PluggedIn) (quiet : Quiet a b) : b.PluggedIn :=
  h.path (show holding.bare = false from rfl) (.inl rfl) (quiet.path [] .none)

private theorem step_pluggedIn {a : Actor} (h : a.PluggedIn) (wake : Wake) (unset : ¬SetsStatus wake.input)
    (keeps : (a.woken wake).KeepsEv wake.input) : (a.step wake).PluggedIn := by
  unfold step
  split
  · exact h
  · rename_i running
    have running : a.stopped = false := by simpa using running
    have woken := h.quiet (a.woken_quiet wake)
    have handled : ((a.woken wake).handle wake.input).PluggedIn := by
      rcases permits_keepsEv _ _ keeps unset with permits | ⟨permits, unstranded⟩
      · exact woken.path (show holding.bare = false from rfl) (.inl rfl)
          (handle_path _ _ woken.ids running permits)
      · exact woken.path (show freeing.bare = false from rfl) (.inr ⟨rfl, unstranded⟩)
          (handle_path _ _ woken.ids running permits)
    dsimp only
    split
    · exact handled
    · exact handled.quiet (settleMeters_quiet _)

/-! ## A restart -/

private theorem withAvailability_live {c : ConnectorSnapshot} (live : c.Live) : (withAvailability c).Live := by
  unfold withAvailability
  split
  · split
    · exact live.applied (some _)
    · exact live
  · exact live

private theorem withAvailability_unstranded {c : ConnectorSnapshot} (unstranded : ¬c.Stranded) :
    ¬(withAvailability c).Stranded := by
  unfold withAvailability
  split
  · split
    · rename_i idle
      exact unstranded_of_idle idle
    · exact unstranded
  · exact unstranded

private theorem restoredConnector_live {pc : PersistedConnector} (queue : OfflineQueue)
    (live : pc.status = .charging → pc.evConnected = true) :
    (withAvailability (withoutLostStop (withoutLostStart queue
      (restoredConnector pc (newConnector pc.id))))).Live := by
  have restored : (restoredConnector pc (newConnector pc.id)).Live := by
    intro charging
    unfold restoredConnector at charging
    dsimp only at charging
    split at charging
    · cases charging
    · exact live charging
  refine withAvailability_live ?_
  have started : (withoutLostStart queue (restoredConnector pc (newConnector pc.id))).Live := by
    unfold withoutLostStart
    split
    · split
      · exact restored
      · refine .of_calm ?_
        dsimp only
        repeat' split
        all_goals rfl
    · exact restored
  unfold withoutLostStop
  split
  · exact started.of_same rfl rfl
  · exact started

private theorem restoredConnector_unstranded {pc : PersistedConnector} (queue : OfflineQueue)
    (kept : pc.status = .reserved → pc.transaction.isIdle = false → pc.evConnected = true) :
    ¬(withAvailability (withoutLostStop (withoutLostStart queue
      (restoredConnector pc (newConnector pc.id))))).Stranded := by
  have restored : ¬(restoredConnector pc (newConnector pc.id)).Stranded := by
    rintro ⟨status, busy, bare⟩
    unfold restoredConnector at status busy bare
    dsimp only at status busy bare
    split at status
    · cases status
    · have busy : pc.transaction.isIdle = false := by
        cases eq : pc.transaction <;> simp_all [TransactionState.isIdle]
      simp [kept status busy] at bare
  refine withAvailability_unstranded ?_
  have started : ¬(withoutLostStart queue (restoredConnector pc (newConnector pc.id))).Stranded := by
    unfold withoutLostStart
    split
    · split
      · exact restored
      · exact unstranded_of_idle rfl
    · exact restored
  unfold withoutLostStop
  split
  · exact unstranded_of_idle rfl
  · exact started

private theorem start_pluggedIn (config : StationConfig) (registry : ConfigRegistry) (now : Instant) (mono : Int)
    {saved : Option PersistedStation} (nodup : ∀ data, saved = some data → (data.connectors.map (·.id)).Nodup)
    (worded : ∀ data, saved = some data → ∀ c ∈ data.connectors, c.transaction.Worded)
    (live : ∀ data, saved = some data → ∀ c ∈ data.connectors, c.status = .charging → c.evConnected = true)
    (keeps : ∀ data, saved = some data → KeepsEvSaved data) :
    (start config registry now mono saved).PluggedIn := by
  have connectors : ∀ c ∈ (loaded config registry now mono saved).connectors, c.Live ∧ ¬c.Stranded := by
    intro c mem
    cases saved with
    | none =>
      obtain ⟨index, -, rfl⟩ := List.mem_map.mp mem
      exact ⟨nofun, unstranded_of_idle rfl⟩
    | some data =>
      obtain ⟨d, old, rfl⟩ := mem_restore mem
      rcases restoredConnectors_cases config (nodup data rfl) old with ⟨id, rfl⟩ | ⟨pc, known, rfl⟩
      · exact ⟨nofun, unstranded_of_idle rfl⟩
      · exact ⟨restoredConnector_live _ (live data rfl pc known),
          restoredConnector_unstranded _ (keeps data rfl pc known)⟩
  have written : (loaded config registry now mono saved).written = [] := by
    cases saved <;> rfl
  have plugged : Plugged ((loaded config registry now mono saved).ledger [] .none) := by
    refine ⟨loaded_ids config registry now mono saved, loaded_worded config registry now mono nodup worded,
      fun c mem => (connectors c mem).1, fun data mem => ?_⟩
    have mem : data ∈ (loaded config registry now mono saved).written := mem
    rw [written] at mem
    cases mem
  exact plugged.path (show freeing.bare = false from rfl) (.inr ⟨rfl, fun c mem => (connectors c mem).2⟩)
    (start_path config registry now mono saved (.inr rfl))

/-- **Charging implies an EV.** Without statuses set by hand, while no input switches on a connector whose EV
has gone, every connector that charges has an EV. -/
theorem charging_has_ev {a : Actor}
    (h : ReachableVia (fun a wake => ¬SetsStatus wake.input ∧ (a.woken wake).KeepsEv wake.input) KeepsEvSaved a) :
    ∀ c ∈ a.connectors, c.status = .charging → c.evConnected = true := by
  have plugged : a.PluggedIn := by
    refine h.inductive (P := PluggedIn) ?_ ?_ fun a wake plugged ok => step_pluggedIn plugged wake ok.1 ok.2
    · intro config registry now mono
      exact start_pluggedIn config registry now mono (fun _ h => nomatch h) (fun _ h => nomatch h)
        (fun _ h => nomatch h) fun _ h => nomatch h
    · intro config registry now mono b saved plugged written keeps
      have known := plugged.worded.saved saved written
      have live := plugged.lives.saved saved written
      refine start_pluggedIn config registry now mono ?_ ?_ ?_ ?_
      all_goals
        intro data same
        obtain rfl := Option.some.inj same
        first | exact known.1 | exact known.2 | exact live | exact keeps
  exact fun c mem => plugged.lives.connectors c mem

/-- An EV charges without the CSMS, while the other connector fails and is repaired. -/
theorem charging_has_ev_offline :
    let wake (command : Command) : Wake := { input := .command command 0, now := 1000000000000, mono := 0 }
    let a := (((start { connectorCount := 2 } {} 1000000000000 0 none).step (wake (.plugIn 1))).step
      (wake (.startTransaction 1 { chars := ['A'] }))).step (wake (.fault 2 .groundFailure none none))
    let b := a.step (wake (.clearFault 2))
    (b.connector 1).map (·.status) = some .charging ∧
      ∀ c ∈ b.connectors, c.status = .charging → c.evConnected = true := by
  intro wake a b
  have started : ReachableVia (fun a wake => ¬SetsStatus wake.input ∧ (a.woken wake).KeepsEv wake.input)
      KeepsEvSaved (start { connectorCount := 2 } {} 1000000000000 0 none) := .fresh _ _ _ _ .refl
  have failed := ((started.step (wake (.plugIn 1)) ⟨not_false, trivial⟩).step
    (wake (.startTransaction 1 { chars := ['A'] })) ⟨not_false, trivial⟩).step
      (wake (.fault 2 .groundFailure none none)) ⟨not_false, trivial⟩
  -- the connector that is repaired has no transaction
  have idle : ((a.woken (wake (.clearFault 2))).connector 2).map (·.transaction.isIdle) = some true := by
    decide +kernel
  refine ⟨by decide +kernel, charging_has_ev (failed.step (wake (.clearFault 2)) ⟨not_false, fun c found busy => ?_⟩)⟩
  rw [found] at idle
  cases busy.symm.trans (Option.some.inj idle)

/-- A reset takes the EV away while a start is in flight; the accepted start charges without it. -/
theorem resetDuringStart_charges :
    let inputs : List Input :=
      [.command .connect 0, .connected 1 true none, .callDone 0 1 (.ok (.boot .accepted 0 0)),
        .command (.plugIn 1) 1, .command (.startTransaction 1 { chars := ['A'] }) 2, .incoming (.reset .soft),
        .callDone 5 1 (.ok (.startTransaction 7 { status := .accepted }))]
    let a := (start { connectorCount := 1 } {} 1000000000000 0 none).replay 1000000000000 0 inputs
    Reachable (fun _ wake => ¬SetsStatus wake.input) a ∧
    (a.connector 1).map (fun c => (c.status, c.evConnected, c.txId)) = some (.charging, false, some (.csms 7)) ∧
    ¬∀ c ∈ a.connectors, c.status = .charging → c.evConnected = true := by
  intro inputs a
  refine ⟨.fresh _ _ _ _ (.replay _ _ _ inputs fun input mem _ => ?_), by decide +kernel⟩
  have unset : ∀ input ∈ inputs, ¬SetsStatus input := by simp [inputs, SetsStatus]
  exact unset input mem

end Actor

end KirbyOcpp
