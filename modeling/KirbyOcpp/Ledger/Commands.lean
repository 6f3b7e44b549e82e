import KirbyOcpp.Ledger.Link
import KirbyOcpp.Ledger.Edits

/-!
# Commands, requests of the CSMS and timers as paths

What the operations of `Station.Commands` do to the ledger. Power comes on and goes off in few places:
a connector is plugged in, unplugged, cleared of a fault or of a reservation, or set by hand.
-/

namespace KirbyOcpp

open Paths Relation

/-- What a status set by hand takes. -/
structure Allow.Manual (allow : Allow) : Prop where
  manual : allow.manual = true
  mask : allow.mask = true
  bare : allow.bare = true

/-! ## How connectors change -/

/-- A calm status is not Charging. -/
theorem ConnectorStatus.uncharging {status : ConnectorStatus} (calm : status.calm = true) :
    status ≠ .charging := by
  rintro rfl
  cases calm

private theorem statusAfterUnplug_calm (c : ConnectorSnapshot) : (statusAfterUnplug c).calm = true := by
  unfold statusAfterUnplug
  repeat' split
  all_goals rfl

private theorem statusAfterUnplug_unfaulted (c : ConnectorSnapshot) : statusAfterUnplug c ≠ .faulted := by
  unfold statusAfterUnplug
  repeat' split
  all_goals exact nofun

private theorem statusAfterUnplug_booked {c : ConnectorSnapshot} (reserved : statusAfterUnplug c = .reserved) :
    c.reservation.isSome = true := by
  unfold statusAfterUnplug at reserved
  split at reserved
  · cases reserved
  · split at reserved
    · assumption
    · cases reserved

private theorem statusAfterFaultClear_booked {c : ConnectorSnapshot} (reserved : statusAfterFaultClear c = .reserved) :
    c.reservation.isSome = true := by
  unfold statusAfterFaultClear at reserved
  repeat' split at reserved
  all_goals try cases reserved
  assumption

/-- A reservation that is cleared is gone. -/
theorem clearReservation_reservation (c : ConnectorSnapshot) : (clearReservation c).reservation = none := by
  unfold clearReservation
  split
  · assumption
  · dsimp only
    split <;> rfl

/-- A connector without a fault gets a status without power. -/
theorem Mild.of_status {c c' : ConnectorSnapshot} (id : c'.id = c.id)
    (transaction : c'.transaction = c.transaction)
    (reservation : c'.reservation = none ∨ c'.reservation = c.reservation ∨ c.transaction.isIdle = true)
    (availability : c'.availability = c.availability)
    (pending : c'.pendingAvailability = c.pendingAvailability) (errorCode : c'.errorCode = c.errorCode)
    (usable : c.status ≠ .faulted) (calm : c'.status.calm = true) (usable' : c'.status ≠ .faulted)
    (reserved : c'.status = .reserved → c.transaction.isIdle = true)
    (booked : c'.status = .reserved → c'.reservation.isSome = true) : Mild c c' where
  id := id
  transaction := transaction
  reservation := reservation
  status := .inr calm
  availability := availability
  pendingAvailability := pending
  sound sound := by
    unfold ConnectorSnapshot.Sound at sound ⊢
    rw [errorCode]
    exact ⟨fun faulted => absurd faulted usable', fun error => absurd (sound.mpr error) usable⟩
  faulted faulted := absurd faulted usable'
  live _ charging := absurd charging (ConnectorStatus.uncharging calm)
  stranded stranded := by
    obtain ⟨status, busy, -⟩ := stranded
    simp [transaction, reserved status] at busy
  booked _ := booked

/-- A connector that loses its reservation may go back to charging. -/
theorem clearReservation_change (allow : Allow) (l : Ledger) (c : ConnectorSnapshot)
    (free : l.hand.holdsStop = false) (releases : allow.bare = true ∨ allow.releases = true) :
    Mild c (clearReservation c) ∨ Powered allow l c (clearReservation c) := by
  unfold clearReservation
  split
  · exact .inl (.refl c)
  · rename_i reservation held
    dsimp only
    split
    · rename_i reserved
      have usable : c.status ≠ .faulted := by simp [reserved]
      have calm (status : ConnectorStatus) (calm : status.calm = true) (faulted : status ≠ .faulted)
          (other : status ≠ .reserved) :
          Mild c { c with reservation := none, status } :=
        .of_status rfl rfl (.inl rfl) rfl rfl rfl usable calm faulted (fun same => absurd same other)
            fun same => absurd same other
      unfold statusWithoutReservation
      dsimp only
      split
      · exact .inl (calm _ rfl nofun nofun)
      · split
        · rename_i busy
          have busy : c.transaction.isIdle = false := by simpa using busy
          refine .inr
            { id := rfl, transaction := rfl, reservation := .inl rfl, availability := rfl
              pendingAvailability := rfl, status := ?_, sound := .inr fun sound => ?_
              faulted := .inr nofun, live := ?_, stranded := .inr fun stranded => nomatch stranded.1
              booked := .inr fun _ => nofun }
          · refine .inr (.inr ⟨free, busy, .inl ⟨rfl, .inl ?_⟩⟩)
            rw [held]
            rfl
          · exact ⟨nofun, fun error => absurd (sound.mpr error) usable⟩
          · refine releases.imp_right fun releases => .inr ⟨releases, fun _ safe _ => ?_⟩
            by_contra bare
            exact safe ⟨reserved, busy, by simpa using bare⟩
        · split <;> exact .inl (calm _ rfl nofun nofun)
    · rename_i other
      exact .inl
        { Mild.refl c with
          reservation := .inl rfl
          sound := fun sound => sound
          live := fun live => live
          stranded := fun stranded => absurd stranded.1 other
          booked := fun _ reserved => absurd reserved other }

namespace Actor

variable {allow : Allow} {rest : List PendingCall} {hand : Hand}

/-- Changing a connector by a function that may switch power. -/
theorem withConnector_power (a : Actor) (id : ConnectorId) {f : ConnectorSnapshot → ConnectorSnapshot}
    (h : isStation id = false → ∀ c ∈ a.connectors, c.id = id →
      Mild c (f c) ∨ Powered allow (a.ledger rest hand) c (f c))
    (station : isStation id = true → Mild a.chargePoint (f a.chargePoint) ∨
      Powered allow (a.ledger rest hand) a.chargePoint (f a.chargePoint))
    (kept : ∀ c, (f c).reservation = none ∨ (f c).reservation = c.reservation) :
    Path allow (a.ledger rest hand) ((a.withConnector id f).ledger rest hand) := by
  unfold withConnector
  split
  · rename_i zero
    rcases station zero with mild | powered
    · exact .single (.quiet (.station (a.ledger rest hand) f mild))
    · exact .single (.powerStation (a.ledger rest hand) f powered)
  · rename_i physical
    refine .single (.power (a.ledger rest hand) _ (fun c mem => ?_) fun c _ => ?_)
    · split
      · rename_i same
        exact h (by simpa using physical) c mem (by simpa using same)
      · exact .inl (.refl c)
    · split
      · exact kept c
      · exact .inr rfl

/-! ## Connector commands -/

/-- The id of a new connector is above all others. -/
theorem newId_fresh (a : Actor) (c : ConnectorSnapshot) (mem : c ∈ a.connectors) :
    c.id ≠ (a.connectors.map (·.id)).foldr max 0 + 1 := by
  have below : c.id ≤ (a.connectors.map (·.id)).foldr max 0 :=
    List.le_max_of_le' 0 (List.mem_map_of_mem mem) le_rfl
  exact Nat.ne_of_lt (Nat.lt_succ_of_le below)

/-- A connector is added. -/
theorem addConnector_path (a : Actor) :
    Path allow (a.ledger rest hand) (a.addConnector.1.ledger rest hand) := by
  unfold addConnector
  dsimp only
  refine .trans ?_ (((flushNow_quiet _).trans (statusChanged_quiet _ _)).path rest hand)
  exact .single (.grow (a.ledger rest hand) _ a.newId_fresh (by simp [isStation, station]))

/-- An EV may be plugged in: what the permissions ask for. -/
def MayPlugIn (allow : Allow) (a : Actor) (id : ConnectorId) : Prop :=
  allow.resume = true ∨ ∀ c, a.connector id = some c → c.transaction.isStopping = true →
    c.evConnected = true ∨ c.availability = .inoperative ∨ c.status = .unavailable ∨ c.status = .faulted

/-- An EV is plugged in. -/
theorem plugIn_path (a : Actor) (id : ConnectorId) (ids : Ids (a.ledger rest .none))
    (may : MayPlugIn allow a id) :
    Path allow (a.ledger rest .none) ((a.plugIn id).1.ledger rest .none) := by
  unfold plugIn
  split
  · exact .refl
  · rename_i c found
    split
    · exact .refl
    · rename_i unplugged
      split
      · exact .refl
      · rename_i usable
        dsimp only
        refine .trans ?_ ((statusChanged_quiet _ _).path rest .none)
        have plugged : Path allow (a.ledger rest .none)
            ((a.withConnector id pluggedConnector).ledger rest .none) := by
          refine withConnector_power a id (fun physical d mem same => ?_)
            (by simp [physical_of_connector found]) fun _ => .inr rfl
          obtain rfl := ids.unique found mem same
          have unfaulted : d.status ≠ .faulted := fun faulted => usable (.inr (.inr faulted))
          cases idle : d.transaction.isIdle with
          | true =>
            have status : (pluggedConnector d).status = .reserved ∨
                (pluggedConnector d).status = .preparing := by
              simp only [pluggedConnector, idle, Bool.not_true, Bool.false_eq_true, if_false]
              split
              · exact .inl rfl
              · exact .inr rfl
            refine .inl (.of_status rfl rfl (.inr (.inl rfl)) rfl rfl rfl unfaulted ?_ ?_ (fun _ => idle)
              fun reserved => ?_)
            · rcases status with h | h <;> rw [h] <;> rfl
            · rcases status with h | h <;> rw [h] <;> exact nofun
            · simp only [pluggedConnector, idle, Bool.not_true, Bool.false_eq_true, if_false] at reserved
              split at reserved
              · assumption
              · cases reserved
          | false =>
            have status : (pluggedConnector d).status = .charging := by simp [pluggedConnector, idle]
            refine .inr
              { id := rfl, transaction := rfl, reservation := .inr rfl, availability := rfl
                pendingAvailability := rfl, status := .inr (.inr ⟨rfl, idle, .inl ⟨status, .inr ?_⟩⟩)
                sound := .inr fun sound => ?_, faulted := .inr fun h => nomatch status.symm.trans h
                live := .inr (.inl fun _ _ => rfl)
                stranded := .inr fun stranded => nomatch status.symm.trans stranded.1
                booked := .inr fun _ reserved => nomatch status.symm.trans reserved }
            · refine may.imp_right fun may => ?_
              by_contra stopping
              rcases may d found (by simpa using stopping) with plugged | blocked
              · exact unplugged plugged
              · exact usable blocked
            · unfold ConnectorSnapshot.Sound
              rw [status]
              exact ⟨nofun, fun error => absurd (sound.mpr error) unfaulted⟩
        refine plugged.trans ?_
        split
        · exact .refl
        · exact (rescheduleMetering_quiet _).path rest .none

/-- An EV may be unplugged: what the permissions ask for. -/
structure MayUnplug (allow : Allow) (a : Actor) (id : ConnectorId) : Prop where
  /-- A transaction that goes on has begun. -/
  suspend : allow.resume = true ∨ a.registry.stopTransactionOnEvSideDisconnect = true ∨
    ∀ c, a.connector id = some c → c.transaction.isIdle = false →
      c.transaction.isActive = true ∨ startQueued a.queue c
  /-- No fault is written over. -/
  unmasked : allow.mask = true ∨ ∀ c, a.connector id = some c → c.status = .faulted →
    if c.transaction.isIdle then c.evConnected = false
    else a.registry.stopTransactionOnEvSideDisconnect = true
  stops : allow.stops id = true ∨ a.registry.stopTransactionOnEvSideDisconnect = false

/-- An EV is unplugged, which may stop a transaction. -/
theorem unplug_path (a : Actor) (id : ConnectorId) (done : Done)
    (ids : Ids (a.ledger rest .none)) (may : MayUnplug allow a id) :
    Path allow (a.ledger rest .none) ((a.unplug id done).ledger rest .none) := by
  unfold unplug
  split
  · exact (runDone_quiet _ _ _).path rest .none
  · rename_i c found
    have physical := physical_of_connector found
    split
    · rename_i busy
      have busy : c.transaction.isIdle = false := by simpa using busy
      split
      · rename_i stops
        exact stopTransaction_path a id _ _ done (may.stops.resolve_right (by simp [stops]))
      · rename_i goes
        refine .trans ?_ (((statusChanged_quiet _ _).trans (runDone_quiet _ _ _)).path rest .none)
        refine withConnector_power a id (fun _ d mem same => ?_) (by simp [physical]) fun _ => .inr rfl
        obtain rfl := ids.unique found mem same
        refine .inr
          { id := rfl, transaction := rfl, reservation := .inr rfl, availability := rfl
            pendingAvailability := rfl, status := .inr (.inr ⟨rfl, busy, .inr ⟨rfl, ?_⟩⟩)
            sound := may.unmasked.imp_right fun unmasked sound => ?_, faulted := .inr nofun
            live := .inr (.inl nofun), stranded := .inr fun stranded => nomatch stranded.1
            booked := .inr fun _ => nofun }
        · refine may.suspend.imp_right fun suspend => ?_
          exact (suspend.resolve_left (by simpa using goes)) d found busy
        · refine ⟨nofun, fun error => ?_⟩
          have kept := unmasked d found (sound.mpr error)
          rw [if_neg (by simp [busy])] at kept
          exact absurd kept goes
    · rename_i idle
      have idle : c.transaction.isIdle = true := by simpa using idle
      split
      · exact (runDone_quiet _ _ _).path rest .none
      · rename_i unplugs
        refine .trans ?_ ((runDone_quiet _ _ _).path rest .none)
        refine .trans ?_ ((statusChanged_quiet _ _).path rest .none)
        refine withConnector_power a id (fun _ d mem same => ?_) (by simp [physical]) fun _ => .inr rfl
        obtain rfl := ids.unique found mem same
        have calm : (unpluggedConnector d).status.calm = true := statusAfterUnplug_calm d
        by_cases faulted : d.status = .faulted
        · have mask : allow.mask = true := by
            refine may.unmasked.resolve_right fun unmasked => unplugs ?_
            have bare := unmasked d found faulted
            rw [if_pos idle] at bare
            simp [bare, faulted]
          exact .inr
            { id := rfl, transaction := rfl, reservation := .inr rfl, availability := rfl
              pendingAvailability := rfl, status := .inl calm, sound := .inl mask, faulted := .inl mask
              live := .inr (.inl fun _ charging => absurd charging (ConnectorStatus.uncharging calm))
              stranded := .inr fun stranded => by
                have busy : d.transaction.isIdle = false := stranded.2.1
                simp [idle] at busy
              booked := .inr fun _ => statusAfterUnplug_booked (c := d) }
        · exact .inl (.of_status rfl rfl (.inr (.inl rfl)) rfl rfl rfl faulted calm
            (statusAfterUnplug_unfaulted d) (fun _ => idle) (statusAfterUnplug_booked (c := d)))

/-- A status is set by hand. -/
theorem setStatus_path (a : Actor) (id : ConnectorId) (status : ConnectorStatus) (manual : allow.Manual) :
    Path allow (a.ledger rest .none) ((a.setStatus id status).1.ledger rest .none) := by
  have powered (c : ConnectorSnapshot) :
      Powered allow (a.ledger rest .none) c (manualConnector a.config.vendor status c) :=
    ⟨rfl, rfl, .inr rfl, .inr (.inl manual.manual), rfl, rfl, .inl manual.mask, .inl manual.mask,
      .inl manual.bare, .inl manual.bare, .inl manual.manual⟩
  unfold setStatus
  split
  · exact .refl
  · refine .trans ?_ ((statusChanged_quiet _ _).path rest .none)
    exact withConnector_power a id (fun _ c _ _ => .inr (powered c)) (fun _ => .inr (powered _))
      fun _ => .inr rfl

/-- A fault is set. -/
theorem faultedConnector_powered (mask : allow.mask = true) (l : Ledger) (vendor : String)
    (code : ChargePointErrorCode) (info vendorCode : Option String) (c : ConnectorSnapshot) :
    Powered allow l c (faultedConnector vendor code info vendorCode c) where
  id := rfl
  transaction := rfl
  reservation := .inr rfl
  status := .inl rfl
  availability := rfl
  pendingAvailability := rfl
  sound := .inl mask
  faulted := .inl mask
  live := .inr (.inl nofun)
  stranded := .inr fun stranded => nomatch stranded.1
  booked := .inr fun _ => nofun

/-- A fault may stop a transaction. -/
theorem fault_path (a : Actor) (id : ConnectorId) (code : ChargePointErrorCode)
    (info vendorCode : Option String) (done : Done) (mask : allow.mask = true)
    (stops : allow.stops id = true) :
    Path allow (a.ledger rest .none) ((a.fault id code info vendorCode done).ledger rest .none) := by
  unfold fault
  split
  · exact (runDone_quiet _ _ _).path rest .none
  · rename_i c _
    dsimp only
    refine .trans ?_ (((statusChanged_quiet _ _).trans (runDone_quiet _ _ _)).path rest .none)
    refine .trans (b := Actor.ledger (if c.transaction.isIdle = true then a else
      a.stopTransaction id .other c.lastIdTag .ignore) rest .none) ?_ ?_
    · split
      · exact .refl
      · exact stopTransaction_path a id _ _ _ stops
    · exact withConnector_power _ id (fun _ c _ _ => .inr (faultedConnector_powered mask _ _ _ _ _ c))
        (fun _ => .inr (faultedConnector_powered mask _ _ _ _ _ _)) fun _ => .inr rfl

/-- A fault may be cleared: what the permissions ask for. -/
structure MayClear (allow : Allow) (a : Actor) (id : ConnectorId) : Prop where
  resume : allow.resume = true ∨ ∀ c, a.connector id = some c → c.transaction.isStopping = true →
    c.availability = .inoperative
  plugged : allow.bare = true ∨ ∀ c, a.connector id = some c → c.transaction.isIdle = false →
    c.availability = .inoperative ∨ c.evConnected = true

/-- A cleared connector that is not switched on. -/
theorem clearedConnector_mild {id : ConnectorId} {c : ConnectorSnapshot}
    (calm : (clearedConnector id c).status.calm = true) (unfaulted : (clearedConnector id c).status ≠ .faulted)
    (reserved : (clearedConnector id c).status = .reserved → c.transaction.isIdle = true)
    (booked : (clearedConnector id c).status = .reserved → c.reservation.isSome = true) :
    Mild c (clearedConnector id c) where
  id := rfl
  transaction := rfl
  reservation := .inr (.inl rfl)
  status := .inr calm
  availability := rfl
  pendingAvailability := rfl
  sound _ := ⟨fun faulted => absurd faulted unfaulted, fun error => absurd rfl error⟩
  faulted faulted := absurd faulted unfaulted
  live _ charging := absurd charging (ConnectorStatus.uncharging calm)
  stranded stranded := by
    have busy : c.transaction.isIdle = false := stranded.2.1
    simp [reserved stranded.1] at busy
  booked _ := booked

/-- A fault is cleared. -/
theorem clearFault_path (a : Actor) (id : ConnectorId) (ids : Ids (a.ledger rest .none))
    (may : MayClear allow a id) :
    Path allow (a.ledger rest .none) ((a.clearFault id).1.ledger rest .none) := by
  unfold clearFault
  split
  · exact .refl
  · refine .trans ?_ ((statusChanged_quiet _ _).path rest .none)
    refine withConnector_power a id (fun physical c mem same => ?_) (fun zero => .inl ?_) fun _ => .inr rfl
    · have found : a.connector id = some c := same ▸ ids.connector mem
      have status : (clearedConnector id c).status = statusAfterFaultClear c := by
        simp [clearedConnector, physical]
      by_cases charges : c.availability = .operative ∧ c.transaction.isIdle = false
      · obtain ⟨operative, busy⟩ := charges
        have charging : (clearedConnector id c).status = .charging := by
          rw [status]
          simp [statusAfterFaultClear, operative, busy]
        refine .inr
          { id := rfl, transaction := rfl, reservation := .inr rfl, availability := rfl
            pendingAvailability := rfl, status := .inr (.inr ⟨rfl, busy, .inl ⟨charging, .inr ?_⟩⟩)
            sound := .inr fun _ =>
              Iff.intro (fun h => nomatch charging.symm.trans h) fun error => absurd rfl error
            faulted := .inr fun h => nomatch charging.symm.trans h
            live := may.plugged.imp_right fun plugged => .inl fun _ _ => ?_
            stranded := .inr fun stranded => nomatch charging.symm.trans stranded.1
            booked := .inr fun _ reserved => nomatch charging.symm.trans reserved }
        · refine may.resume.imp_right fun resume => ?_
          by_contra stopping
          simp [resume c found (by simpa using stopping)] at operative
        · exact (plugged c found busy).resolve_left (by simp [operative])
      · have calm : (statusAfterFaultClear c).calm = true ∧ statusAfterFaultClear c ≠ .faulted ∧
            (statusAfterFaultClear c = .reserved → c.transaction.isIdle = true) := by
          unfold statusAfterFaultClear
          split
          · exact ⟨rfl, nofun, nofun⟩
          · rename_i inoperative
            have idle : c.transaction.isIdle = true := by
              by_contra busy
              refine charges ⟨?_, by simpa using busy⟩
              cases h : c.availability with
              | operative => rfl
              | inoperative => exact absurd h inoperative
            rw [if_neg (by simp [idle])]
            repeat' split
            all_goals exact ⟨rfl, nofun, fun _ => idle⟩
        rw [← status] at calm
        refine .inl (clearedConnector_mild calm.1 calm.2.1 calm.2.2 fun reserved => ?_)
        exact statusAfterFaultClear_booked (status.symm.trans reserved)
    · have status : (clearedConnector id a.chargePoint).status =
          chargePointStatus a.chargePoint.availability .available := by
        simp [clearedConnector, zero]
      refine clearedConnector_mild ?_ ?_ ?_ ?_
      all_goals
        rw [status]
        cases a.chargePoint.availability
        all_goals first | rfl | exact nofun

/-! ## Samples and the user's CALLs -/

/-- A sample may stop a transaction that has used up its energy. -/
theorem meterValuesCommand_path (a : Actor) (id : ConnectorId) (deltaWh : Nat)
    (measurands : Option (List Measurand)) (reply : Reply)
    (stops : id ∈ a.limited → allow.stops id = true) :
    Path allow (a.ledger rest .none)
      ((a.meterValuesCommand id deltaWh measurands reply).ledger rest .none) := by
  unfold meterValuesCommand
  split
  · exact (a.reply_quiet _ _).path rest .none
  · exact sampleMeter_path a id _ _ _ _ stops

/-- A CALL of the user touches no ledger. -/
theorem userCall_quiet (a : Actor) (origin : Origin) (action : String) (reply : Reply) :
    Quiet a (a.userCall origin action reply) :=
  a.call_quiet _ _ _ _ rfl (.inl rfl) fun _ => onUserCallResult_quiet _ _ _

/-- A periodic sample may stop a transaction that has used up its energy. -/
theorem onMeterPeriodic_path (a : Actor) (id : ConnectorId)
    (stops : id ∈ a.limited → allow.stops id = true) :
    Path allow (a.ledger rest .none) ((a.onMeterPeriodic id).ledger rest .none) := by
  unfold onMeterPeriodic
  split
  · exact .refl
  · exact sampleMeter_path (a.setTimer (.meterPeriodic id)) id _ _ _ _ stops

/-- The clock-aligned samples may stop such transactions. -/
theorem onMeterAligned_path (a : Actor) (stops : allow.StopsLimited a.limited) :
    Path allow (a.ledger rest .none) (a.onMeterAligned.ledger rest .none) := by
  unfold onMeterAligned
  dsimp only
  have timed : Path allow (a.ledger rest .none)
      (Actor.ledger (if 0 < a.registry.clockAlignedDataInterval then a.setTimer .meterAligned else a)
        rest .none) := by
    split <;> exact .refl
  refine timed.trans ?_
  replace stops := (stopsLimited_preserved allow).path timed stops
  generalize (if 0 < a.registry.clockAlignedDataInterval then a.setTimer .meterAligned else a) = b at stops
  generalize b.registry.meterValuesAlignedData = measurands
  generalize b.connectors.map (·.id) = ids
  induction ids generalizing b with
  | nil => exact .refl
  | cons id ids ih =>
    have sampled : Path allow (b.ledger rest .none)
        ((b.sampleMeter id .sampleClock 0 measurands none).ledger rest .none) := by
      refine sampleMeter_path b id _ _ _ _ fun limited => ?_
      rcases stops with all | ⟨-, stops⟩
      · exact all id
      · exact stops id limited
    exact sampled.trans (ih _ ((stopsLimited_preserved allow).path sampled stops))

private theorem restartMetering_quiet (a : Actor) : Quiet a a.restartMetering :=
  (cancelTimersWhere_quiet _ _).trans (rescheduleMetering_quiet _)

/-! ## Reservations -/

section

variable (releases : allow.bare = true ∨ allow.releases = true)
include releases

/-- Every connector loses its reservation, or keeps it. -/
theorem clearReservations_path (a : Actor) (p : ConnectorSnapshot → Bool) :
    Path allow (a.ledger rest .none)
      (({ a with connectors := a.connectors.map fun c => if p c then clearReservation c else c } :
        Actor).ledger rest .none) := by
  refine .single (.power (a.ledger rest .none) _ (fun c _ => ?_) fun c _ => ?_)
  · split
    · exact clearReservation_change allow _ c (by rfl) releases
    · exact .inl (.refl c)
  · split
    · exact .inl (clearReservation_reservation c)
    · exact .inr rfl

omit releases in
/-- A released reservation is reported. -/
theorem announceReleased_quiet (a : Actor) (ids : List ConnectorId) :
    Quiet a (ids.foldl (fun a id => (a.cancelTimer (.reservationExpiry id)).statusChanged id) a) :=
  .foldl ids (fun _ _ a => (a.cancelTimer_quiet _).trans (statusChanged_quiet _ _)) a

/-- Expired reservations are dropped. -/
theorem releaseExpiredReservations_path (a : Actor) :
    Path allow (a.ledger rest .none) (a.releaseExpiredReservations.ledger rest .none) := by
  refine (clearReservations_path releases a fun c => reservationExpired c a.now).trans ?_
  refine .trans ((announceReleased_quiet _ (expireDue a.connectors a.now).2).path rest .none) ?_
  unfold releaseExpiredReservations expireDue
  dsimp only
  split
  · exact .refl
  · exact (flushNow_quiet _).path rest .none

/-- Expired reservations are dropped when their timer fires. -/
theorem onReservationTimer_path (a : Actor) :
    Path allow (a.ledger rest .none) (a.onReservationTimer.ledger rest .none) := by
  unfold onReservationTimer
  refine .trans (releaseExpiredReservations_path releases a) ?_
  exact (Quiet.foldl _ (fun _ _ a => a.setTimer_quiet _) _).path rest .none

/-- A reservation may be expired when it is armed. -/
theorem armReservation_path (a : Actor) (id : ConnectorId) :
    Path allow (a.ledger rest .none) ((a.armReservation id).ledger rest .none) := by
  unfold armReservation
  split
  · exact .refl
  · split
    · exact onReservationTimer_path releases a
    · exact .refl

/-- A reservation that is cancelled. -/
theorem cancelReservation_path (a : Actor) (id : ReservationId) {connectors : List ConnectorSnapshot}
    {released : ConnectorId} (h : cancelReservation a.connectors id = some (connectors, released)) :
    Path allow (a.ledger rest .none) (({ a with connectors } : Actor).ledger rest .none) := by
  obtain ⟨c, -, eq⟩ := Option.map_eq_some_iff.mp h
  obtain ⟨rfl, -⟩ := Prod.mk.inj eq
  exact clearReservations_path releases a fun d => d.id == c.id

omit releases in
/-- A reservation that is made. -/
theorem reserveNow_path (a : Actor) (request : ReserveNowRequest) (supported : Bool)
    (ids : Ids (a.ledger rest .none)) {connectors : List ConnectorSnapshot} {target : ConnectorId}
    (h : reserveNow a.connectors request a.now supported = .ok (connectors, target)) :
    Path allow (a.ledger rest .none) (({ a with connectors } : Actor).ledger rest .none) := by
  unfold reserveNow at h
  split at h
  · cases h
  · rename_i c chosen
    split at h
    · cases h
    · rename_i free
      split at h
      · cases h
      · rename_i usable
        split at h
        · cases h
        split at h
        · cases h
        split at h
        · cases h
        rename_i unused
        cases h
        refine ((a.map_quiet _ (fun d mem => ?_) ?_).path rest .none)
        rotate_left
        · refine DistinctReservations.book fun d mem other => ?_
          by_contra held
          refine unused (List.any_eq_true.mpr ⟨d, mem, ?_⟩)
          simpa [other] using held
        split
        · rename_i same
          have mem' : c ∈ a.connectors := by
            unfold reservationTarget at chosen
            repeat' split at chosen
            all_goals cases chosen
            all_goals exact List.mem_of_find?_eq_some ‹_›
          obtain rfl : d = c := List.inj_on_of_nodup_map ids.nodup mem mem' (by simpa using same)
          have idle : d.transaction.isIdle = true := by
            unfold occupied at free
            by_contra busy
            simp [busy] at free
          exact .of_status rfl rfl (.inr (.inr idle)) rfl rfl rfl usable rfl nofun (fun _ => idle)
            fun _ => rfl
        · exact .refl d

/-- A reservation leaves its old connector. -/
theorem trialConnectors_path (a : Actor) (id : ReservationId) (movedFrom : Option ConnectorId) :
    Path allow (a.ledger rest .none)
      (({ a with connectors := a.trialConnectors id movedFrom } : Actor).ledger rest .none) := by
  unfold trialConnectors
  split
  · cases h : cancelReservation a.connectors id with
    | none => exact .refl
    | some changed => exact cancelReservation_path releases a id h
  · exact .refl

/-- A connector is reserved, or the request refused. -/
theorem reserve_path (a : Actor) (request : ReserveNowRequest) (ids : Ids (a.ledger rest .none)) :
    Path allow (a.ledger rest .none) ((a.reserve request).ledger rest .none) := by
  unfold reserve
  have expired : Path allow (a.ledger rest .none) _ := releaseExpiredReservations_path releases a
  refine expired.trans ?_
  replace ids := (ids_preserved allow).path expired ids
  generalize a.releaseExpiredReservations = a at ids
  dsimp only
  generalize (a.connectors.find? _).map _ = movedFrom
  have tried : Path allow (a.ledger rest .none) _ :=
    trialConnectors_path releases a request.reservationId movedFrom
  generalize a.trialConnectors request.reservationId movedFrom = trial at tried
  split
  · exact (record_quiet a _ rfl).path rest .none
  · rename_i connectors target made
    refine .trans tried (.trans (reserveNow_path _ request _ ((ids_preserved allow).path tried ids) made) ?_)
    refine .trans ((record_quiet _ (.responded (.reservation .accepted)) rfl).path rest .none) ?_
    refine .trans ?_ ((flushNow_quiet _).trans (statusChanged_quiet _ _) |>.path rest .none)
    refine .trans ?_ (armReservation_path releases _ _)
    split
    · exact ((cancelTimer_quiet _ _).trans (statusChanged_quiet _ _)).path rest .none
    · exact .refl

/-- A reservation is cancelled. -/
theorem cancel_path (a : Actor) (id : ReservationId) :
    Path allow (a.ledger rest .none) ((a.cancel id).ledger rest .none) := by
  unfold cancel
  split
  · exact (record_quiet a _ rfl).path rest .none
  · rename_i connectors released h
    dsimp only
    refine (cancelReservation_path releases a id h).trans ?_
    exact (((record_quiet _ (.responded (.cancelReservation true)) rfl).trans
      (cancelTimer_quiet _ _)).trans ((flushNow_quiet _).trans (statusChanged_quiet _ _))).path rest .none

end

/-! ## Availability, unlock -/

/-- The availability of some connectors changes, or waits. -/
theorem changeAvailability_path (a : Actor) (id : ConnectorId) (kind : AvailabilityType)
    (changes : allow.changes = true) :
    Path allow (a.ledger rest .none) ((a.changeAvailability id kind).ledger rest .none) := by
  unfold changeAvailability
  split
  · exact (record_quiet a _ rfl).path rest .none
  · dsimp only
    generalize (if isStation id then a.connectors.map (·.id) else [id]) = targets
    refine .trans ?_ ((Quiet.foldl _ (fun _ _ a => a.statusChanged_quiet _) _).path rest .none)
    refine .trans ?_ ((flushNow_quiet _).path rest .none)
    refine .trans ?_ ((record_quiet _ _ rfl).path rest .none)
    refine .trans ?_ (path_foldl (fun a : Actor => a.ledger rest .none) targets (fun target _ a => ?_) _)
    · split
      · exact .single (.changeStation (a.ledger rest .none) kind changes)
      · exact .refl
    · rw [withConnector_ledger]
      exact .single (.change (a.ledger rest .none) target kind changes)

/-- An unlocked connector stops its transaction. -/
theorem unlockConnector_path (a : Actor) (id : ConnectorId) (stops : allow.stops id = true) :
    Path allow (a.ledger rest .none) ((a.unlockConnector id).ledger rest .none) := by
  unfold unlockConnector
  split
  · exact (record_quiet a _ rfl).path rest .none
  · dsimp only
    refine .trans ((record_quiet a (.responded (.unlock true)) rfl).path rest .none) ?_
    split
    · exact .refl
    · exact stopTransaction_path _ id _ _ _ stops

/-! ## Remote start and stop -/

/-- A `RemoteStartTransaction`: what the permissions ask for. -/
def MayBegin (allow : Allow) (a : Actor) (connectorId : Option ConnectorId) (idTag : IdTag)
    (profile : Option (ChargingProfile Rat)) : Prop :=
  ∀ id, a.remoteStartChoice connectorId idTag profile = some id →
    if a.registry.authorizeRemoteTxRequests then
      a.canTalk = false → MayRemoteStart allow a id idTag
        (authorizeOffline idTag a.now a.localList a.authCache a.registry)
    else MayStart allow a id idTag

/-- A remote start is authorized or begins. -/
theorem remoteStart_path (a : Actor) (connectorId : Option ConnectorId) (idTag : IdTag)
    (profile : Option (ChargingProfile Rat)) (may : MayBegin allow a connectorId idTag profile) :
    Path allow (a.ledger rest .none) ((a.remoteStart connectorId idTag profile).ledger rest .none) := by
  unfold remoteStart
  split
  · exact (record_quiet a _ rfl).path rest .none
  · rename_i id chosen
    have may := may id chosen
    split
    · rename_i first
      rw [if_pos first] at may
      refine authorize_path a idTag _ fun id' tag profile' same offline => ?_
      obtain ⟨rfl, rfl, -⟩ : id = id' ∧ idTag = tag ∧ profile = profile' := by simpa using same
      exact may offline
    · rename_i direct
      rw [if_neg direct] at may
      refine .trans ((record_quiet a (.responded (.remoteStart true)) rfl).path rest .none) ?_
      exact startTransaction_path _ id idTag _ may

/-- A `RemoteStopTransaction`: what the permissions ask for. -/
def MayRemoteStop (allow : Allow) (a : Actor) (transactionId : Int) : Prop :=
  ∀ c ∈ a.connectors, c.txId = some (.csms transactionId) → allow.stops c.id = true

/-- A remote stop stops the transaction of its id. -/
theorem remoteStop_path (a : Actor) (transactionId : Int) (may : MayRemoteStop allow a transactionId) :
    Path allow (a.ledger rest .none) ((a.remoteStop transactionId).ledger rest .none) := by
  unfold remoteStop
  split
  · exact (record_quiet a _ rfl).path rest .none
  · rename_i c found
    refine .trans ((record_quiet a (.responded (.remoteStop true)) rfl).path rest .none) ?_
    exact stopTransaction_path _ c.id _ _ _
      (may c (List.mem_of_find?_eq_some found) (by simpa using List.find?_some found))

/-! ## Triggered messages -/

private theorem sendMeterValues_quiet (a : Actor) (id : ConnectorId) : Quiet a (a.sendMeterValues id) := by
  unfold sendMeterValues
  split
  · exact .refl
  · dsimp only
    exact (a.meterReading_quiet id false).trans (call_quiet _ _ _ _ _ rfl (.inl rfl) fun _ => .refl)

/-- A triggered message touches no ledger. -/
theorem triggerMessage_quiet (a : Actor) (message : MessageTrigger) (connector : Option ConnectorId) :
    Quiet a (a.triggerMessage message connector) := by
  unfold triggerMessage
  dsimp only
  refine .trans (record_quiet a (.responded (.trigger (a.triggerAccepted message connector))) rfl) ?_
  split
  · unfold startTriggered
    split
    · exact sendBoot_quiet _ _
    · exact sendHeartbeat_quiet _ _ _
    · exact call_quiet _ _ _ _ _ rfl (.inl rfl) fun _ => .refl
    · exact requestCertificate_quiet _ _ _
    · exact .foldl _ (fun _ _ a => a.sendStatusForced_quiet _ _ _) _
    · exact .foldl _ (fun _ _ a => a.sendMeterValues_quiet _) _
  · exact .refl

/-! ## Profiles, configuration, certificates -/

/-- A schedule is only computed. -/
theorem getCompositeSchedule_quiet (a : Actor) (id : ConnectorId) (duration : Int)
    (unit : Option ChargingRateUnitType) : Quiet a (a.getCompositeSchedule id duration unit) := by
  unfold getCompositeSchedule
  dsimp only
  refine .trans ?_ (record_quiet _ _ rfl)
  split
  · exact (markDirty_quiet _).behind fun _ _ => rfl
  · exact .of_ledger fun _ _ => rfl

private theorem reconnectForNewSecurityParameters_quiet (a : Actor) :
    Quiet a a.reconnectForNewSecurityParameters := by
  unfold reconnectForNewSecurityParameters
  split
  · exact .refl
  · exact .of_ledger fun _ _ => rfl

/-- A key touches no ledger. -/
theorem applyConfigurationChange_quiet (a : Actor) (change : ConfigChange) :
    Quiet a (a.applyConfigurationChange change) := by
  unfold applyConfigurationChange
  dsimp only
  generalize hset : ({ a with registry := change.registry } : Actor) = set
  have changed : Quiet a set := .of_ledger fun _ _ => by rw [← hset]; rfl
  refine changed.trans ?_
  generalize hsecured : (if change.key = .security then _ else set) = secured
  have secure : Quiet set secured := by
    rw [← hsecured]
    split
    · exact ((markSecretsDirty_quiet _).trans (securityEvent_quiet _ _ _)).trans
        (reconnectForNewSecurityParameters_quiet _)
    · exact .refl
  refine secure.trans ((flushNow_quiet _).trans ?_)
  split
  · split
    · exact setTimer_quiet _ _
    · exact .refl
  · split
    · exact flushPendingStatuses_quiet _
    · exact .refl
  · exact restartMetering_quiet _
  · exact .refl

/-- A certificate touches no ledger. -/
theorem certificateSigned_quiet (a : Actor) (valid : Bool) : Quiet a (a.certificateSigned valid) := by
  unfold certificateSigned
  dsimp only
  split
  · refine .trans ?_ (record_quiet _ _ rfl)
    refine .trans ?_ ((flushNow_quiet _).trans (reconnectForNewSecurityParameters_quiet _))
    exact (markSecretsDirty_quiet _).behind fun _ _ => rfl
  · exact ((record_quiet _ (.responded (.certificateSigned false)) rfl).trans
      (securityEvent_quiet _ _ _)).behind fun _ _ => rfl

/-! ## Reset -/

private theorem resetConnector_path (reason : StopReason) (a : Actor) (id : ConnectorId)
    (ids : Ids (a.ledger rest .none)) (physical : isStation id = false)
    (stops : allow.stops id = true)
    (unmasked : allow.mask = true ∨ (a.ledger rest .none).Unfaulted id) :
    Path allow (a.ledger rest .none) ((resetConnector reason a id).ledger rest .none) := by
  unfold resetConnector
  have stopped : Path allow (a.ledger rest .none) _ := stopTransaction_path a id reason none .ignore stops
  refine stopped.trans (.trans ?_ ((statusChanged_quiet _ _).path rest .none))
  have unmasked : allow.mask = true ∨
      ((a.stopTransaction id reason none .ignore).ledger rest .none).Unfaulted id := by
    cases mask : allow.mask with
    | true => exact .inl rfl
    | false =>
      have unfaulted := unmasked.resolve_left (by simp [mask])
      exact .inr ((unfaulted_preserved mask id).path stopped ⟨ids, unfaulted⟩).2
  have calm (kind : AvailabilityType) :
      (if kind = .inoperative then ConnectorStatus.unavailable else .available).calm = true ∧
        (if kind = .inoperative then ConnectorStatus.unavailable else .available) ≠ .faulted ∧
        (if kind = .inoperative then ConnectorStatus.unavailable else .available) ≠ .reserved := by
    cases kind
    · exact ⟨rfl, nofun, nofun⟩
    · exact ⟨rfl, nofun, nofun⟩
  have reset (l : Ledger) (c : ConnectorSnapshot) (unmasked : allow.mask = true ∨ c.status ≠ .faulted) :
      Mild c { c with evConnected := false,
                      status := if c.availability = .inoperative then .unavailable else .available } ∨
      Powered allow l c { c with evConnected := false,
                                 status := if c.availability = .inoperative then .unavailable
                                           else .available } := by
    obtain ⟨dark, unfaulted, free⟩ := calm c.availability
    rcases unmasked with mask | usable
    · exact .inr
        { id := rfl, transaction := rfl, reservation := .inr rfl, availability := rfl
          pendingAvailability := rfl, status := .inl dark, sound := .inl mask, faulted := .inl mask
          live := .inr (.inl fun _ charging => absurd charging (ConnectorStatus.uncharging dark))
          stranded := .inr fun stranded => absurd stranded.1 free
          booked := .inr fun _ reserved => absurd reserved free }
    · exact .inl (.of_status rfl rfl (.inr (.inl rfl)) rfl rfl rfl usable dark unfaulted
        (fun reserved => absurd reserved free) fun reserved => absurd reserved free)
  generalize a.stopTransaction id reason none .ignore = b at unmasked
  refine withConnector_power b id (fun _ c mem same => reset _ c ?_) (by simp [physical]) fun _ => .inr rfl
  exact unmasked.imp_right fun unfaulted => unfaulted c mem same

/-- The connectors in `running` are reset one after the other. -/
theorem resetConnectors_path (reason : StopReason) (running : List ConnectorId) (a : Actor)
    (ids : Ids (a.ledger rest .none)) (physical : ∀ id ∈ running, isStation id = false)
    (stops : ∀ id ∈ running, allow.stops id = true) (unmasked : allow.mask = true ∨ ∀ id ∈ running, (a.ledger rest .none).Unfaulted id) :
    Path allow (a.ledger rest .none) ((running.foldl (resetConnector reason) a).ledger rest .none) := by
  induction running generalizing a with
  | nil => exact .refl
  | cons id running ih =>
    have first : Path allow (a.ledger rest .none) _ := resetConnector_path reason a id ids
      (physical id List.mem_cons_self) (stops id List.mem_cons_self) (unmasked.imp_right fun unfaulted => unfaulted id List.mem_cons_self)
    refine first.trans (ih _ ((ids_preserved allow).path first ids)
      (fun other mem => physical other (List.mem_cons_of_mem _ mem))
      (fun other mem => stops other (List.mem_cons_of_mem _ mem)) ?_)
    cases mask : allow.mask with
    | true => exact .inl rfl
    | false =>
      refine .inr fun other mem => ?_
      have unfaulted := unmasked.resolve_left (by simp [mask]) other (List.mem_cons_of_mem _ mem)
      exact ((unfaulted_preserved mask other).path first ⟨ids, unfaulted⟩).2

private theorem resetReservation_path (a : Actor) (id : ConnectorId)
    (releases : allow.bare = true ∨ allow.releases = true) :
    Path allow (a.ledger rest .none) ((a.resetReservation id).ledger rest .none) := by
  unfold resetReservation
  refine .trans ?_ (((cancelTimer_quiet _ _).trans (statusChanged_quiet _ _)).path rest .none)
  exact withConnector_power a id (fun _ c _ _ => clearReservation_change allow _ c (by rfl) releases)
    (fun _ => clearReservation_change allow _ _ (by rfl) releases) fun c => .inl (clearReservation_reservation c)

/-- A reset: what the permissions ask for. -/
structure MayReset (allow : Allow) (a : Actor) : Prop where
  lowers : allow.lowers = true
  stops : ∀ c ∈ a.connectors, c.transaction.isIdle = false → allow.stops c.id = true
  releases : allow.bare = true ∨ allow.releases = true
  /-- No fault is written over. -/
  unmasked : allow.mask = true ∨ ∀ c ∈ a.connectors, c.transaction.isIdle = false → c.status ≠ .faulted

/-- A reset stops every transaction and drops every reservation. -/
theorem performReset_path (a : Actor) (kind : ResetType) (ids : Ids (a.ledger rest .none))
    (may : MayReset allow a) :
    Path allow (a.ledger rest .none) ((a.performReset kind).ledger rest .none) := by
  unfold performReset
  dsimp only
  refine .trans ?_ ((flushNow_quiet _).path rest .none)
  generalize hquiet : cancelTimersWhere _ _ = quieted
  have quiet : Quiet a quieted := by
    rw [← hquiet]
    exact (((securityEvent_quiet _ _ _).trans (cancelTimer_quiet _ _)).trans (cancelTimer_quiet _ _)).trans
      (cancelTimersWhere_quiet _ _)
  have ids : Ids (quieted.ledger rest .none) := (ids_preserved allow).path (quiet.path rest .none) ids
  have unmasked : allow.mask = true ∨ ∀ c ∈ quieted.connectors, c.transaction.isIdle = false →
      c.status ≠ .faulted := by
    refine may.unmasked.imp_right fun unmasked c mem busy faulted => ?_
    obtain ⟨d, old, mild⟩ := Lists.exists_of_forall₂_right quiet.frame.connectors mem
    exact unmasked d old (mild.transaction ▸ busy) (mild.faulted faulted)
  refine .trans (quiet.path rest .none) ?_
  generalize hrunning : (quieted.connectors.filter _).map _ = running
  have stops : ∀ c ∈ quieted.connectors, c.transaction.isIdle = false → allow.stops c.id = true := by
    intro c mem busy
    obtain ⟨d, old, mild⟩ := Lists.exists_of_forall₂_right quiet.frame.connectors mem
    rw [mild.id]
    exact may.stops d old (mild.transaction ▸ busy)
  refine .trans (resetConnectors_path (resetReason kind) running quieted ids ?_ ?_ ?_) ?_
  · intro id mem
    rw [← hrunning] at mem
    obtain ⟨d, chosen, rfl⟩ := List.mem_map.mp mem
    exact ids.physical d (List.mem_of_mem_filter chosen)
  · intro id mem
    rw [← hrunning] at mem
    obtain ⟨d, chosen, rfl⟩ := List.mem_map.mp mem
    obtain ⟨old, busy⟩ := List.mem_filter.mp chosen
    exact stops d old (by simpa using busy)
  · refine unmasked.imp_right fun unmasked id mem c old same => ?_
    rw [← hrunning] at mem
    obtain ⟨d, chosen, rfl⟩ := List.mem_map.mp mem
    obtain ⟨old', busy⟩ := List.mem_filter.mp chosen
    obtain rfl : c = d := List.inj_on_of_nodup_map ids.nodup old old' same
    exact unmasked c old (by simpa using busy)
  generalize running.foldl _ quieted = stopped
  generalize (stopped.connectors.filter _).map _ = reserved
  refine .trans (path_foldl (fun a => a.ledger rest .none) reserved
    (fun id _ a => a.resetReservation_path id may.releases) stopped) ?_
  generalize reserved.foldl _ stopped = released
  refine .head (.register (released.ledger rest .none) none (by simp) may.lowers) ?_
  split
  · split <;> exact .refl
  · exact .refl

private theorem reconnectForHardReset_path (a : Actor) (running : a.stopped = false) (closes : allow.Closes a.limited) :
    Path allow (a.ledger [] .none) (a.reconnectForHardReset.ledger [] .none) := by
  unfold reconnectForHardReset
  refine .trans (a.linkDown_path none running closes) ?_
  have closed := a.linkDown_closed none
  generalize a.linkDown none = down at closed
  exact .single (.bump (down.ledger [] .none) closed)

/-- The link of a hard reset is closed and opened again. -/
theorem onHardResetTimer_path (a : Actor) (running : a.stopped = false)
    (closes : allow.Closes a.limited) :
    Path allow (a.ledger [] .none) (a.onHardResetTimer.ledger [] .none) := by
  unfold onHardResetTimer
  split
  · exact .refl
  · split
    · exact .refl
    · split
      · exact .refl
      · exact reconnectForHardReset_path { a with hardResetDeadline := none } running closes

/-! ## The link -/

/-- A disconnect fails what is in flight. -/
theorem disconnect_path (a : Actor) (running : a.stopped = false)
    (closes : allow.Closes a.limited) :
    Path allow (a.ledger [] .none) (a.disconnect.ledger [] .none) := by
  unfold disconnect
  dsimp only
  generalize hcalm : ({ cancelTimer _ _ with link := _ } : Actor) = calm
  have same : calm.ledger [] .none = a.ledger [] .none := by rw [← hcalm]; rfl
  have running' : calm.stopped = false := by rw [← hcalm]; exact running
  have closes : allow.Closes calm.limited := by rw [← hcalm]; exact closes
  rw [← same]
  exact calm.linkDown_path none running' closes

/-- A loss fails what is in flight. -/
theorem onClosed_path (a : Actor) (code : Option Nat) (running : a.stopped = false)
    (closes : allow.Closes a.limited) :
    Path allow (a.ledger [] .none) ((a.onClosed code).ledger [] .none) := by
  unfold onClosed
  split
  · exact .refl
  · refine .trans (a.linkDown_path code running closes) ?_
    generalize a.linkDown code = down
    exact ((scheduleReconnect_quiet _).behind (a := down) (by intros; rfl)).path [] .none

/-- A new link begins with a boot. -/
theorem onConnectResult_path (a : Actor) (generation : Nat) (ok : Bool) (event : Option String)
    (running : a.stopped = false) (opens : allow.opens = true) :
    Path allow (a.ledger [] .none) ((a.onConnectResult generation ok event).ledger [] .none) := by
  unfold onConnectResult
  split
  · exact .refl
  · dsimp only
    split
    · refine .head (.openLink (a.ledger [] .none) rfl rfl running opens) ?_
      refine .trans ?_ ((sendBoot_quiet _ _).path [] .none)
      split
      · exact (((securityEvent_quiet _ _ _).trans (flushNow_quiet _)).behind
          (a := { a with link := { a.link with conn := true } }) (by intros; rfl)).path [] .none
      · exact .refl
    · refine .trans ?_ (((scheduleReconnect_quiet _).behind (by intros; rfl)).path [] .none)
      split
      · exact ((securityEvent_quiet _ _ _).behind (a := a) (by intros; rfl)).path [] .none
      · exact .refl

end Actor

end KirbyOcpp
