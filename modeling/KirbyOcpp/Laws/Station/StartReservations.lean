import KirbyOcpp.Laws.Station.Calls
import KirbyOcpp.Laws.Station.Permissions
import KirbyOcpp.Laws.Station.Admission
import KirbyOcpp.Laws.Station.Recovery

/-!
# The reservation that a start carries

`start_transaction` asks the live reservation whether the start may go on, and takes the `reservationId` from the
slot, live or not. The id is drawn into the `PendingStart` and reaches the Central System with the CALL, or with the
queue entry and the sync that delivers it. What a start carries is fixed when it passes its checks (`Carries`), so the
attached id is right exactly if the slot holds no expired reservation then.
-/

namespace KirbyOcpp

open Paths Relation

variable {allow : Allow} {l l' : Ledger} {key : Nat} {carried : Option ReservationId}

/-! ## The messages of a start -/

/-- The start that a continuation delivers, by its key. -/
def Cont.startKey? : Cont → Option Nat
  | .startResult _ localId _ _ => some localId.localKey
  | .syncStart key => some key
  | _ => none

/-- The start past its checks that the running operation holds. -/
def Hand.startKey? : Hand → Option Nat
  | .start _ pending | .charging _ pending => some pending.txId.localKey
  | _ => Option.none

/-- `request` is the `StartTransaction` of the start `key`: it was sent, or it waits in the queue. -/
def Ledger.StartOf (l : Ledger) (key : Nat) (request : StartTransactionRequest) : Prop :=
  (∃ call ∈ calledOf l.history, call.continuation.startKey? = some key ∧ call.request = .startTransaction request) ∨
    ∃ e ∈ l.queue, e.key = key ∧ e.startPending = true ∧ (Actor.startOf e).1 = .startTransaction request

theorem startKey?_ofResult (continuation : Cont) (result : CallResult) :
    (Hand.ofResult continuation result).startKey? = none := by
  unfold Hand.ofResult
  repeat' split
  all_goals rfl

theorem startKey?_of_neutral {continuation : Cont} (h : continuation.isNeutral = true) :
    continuation.startKey? = none := by
  cases continuation with
  | startResult => cases h
  | syncStart => cases h
  | _ => rfl

theorem startKey?_of_stopOf {e : OfflineTx} {request : Request} {cont : Cont}
    (message : Actor.stopOf e = some (request, cont)) : cont.startKey? = none := by
  unfold Actor.stopOf at message
  split at message
  · obtain ⟨-, rfl⟩ := Prod.mk.inj (Option.some.inj message)
    rfl
  · cases message

/-! ## What a transition does to the starts -/

theorem mem_push {queue : OfflineQueue} {entry e : OfflineTx} (mem : e ∈ (OfflineQueue.push queue entry).1) :
    e ∈ queue ∨ e = entry := by
  have appended : e ∈ queue ++ [entry] := by
    unfold OfflineQueue.push at mem
    dsimp only at mem
    split at mem
    · exact mem
    · split at mem
      all_goals exact List.mem_of_mem_eraseIdx mem
  rcases List.mem_append.mp appended with old | new
  · exact .inl old
  · exact .inr (List.mem_singleton.mp new)

theorem mem_updateFirst {p : OfflineTx → Bool} {f : OfflineTx → OfflineTx} {queue : OfflineQueue} {e : OfflineTx}
    (mem : e ∈ OfflineQueue.updateFirst p f queue) : e ∈ queue ∨ ∃ d ∈ queue, p d = true ∧ e = f d := by
  induction queue with
  | nil => cases mem
  | cons d rest ih =>
    unfold OfflineQueue.updateFirst at mem
    split at mem
    · rename_i holds
      rcases List.mem_cons.mp mem with rfl | later
      · exact .inr ⟨d, List.mem_cons_self, holds, rfl⟩
      · exact .inl (List.mem_cons_of_mem d later)
    · rcases List.mem_cons.mp mem with rfl | later
      · exact .inl List.mem_cons_self
      · rcases ih later with kept | ⟨d', known, rest⟩
        · exact .inl (List.mem_cons_of_mem d kept)
        · exact .inr ⟨d', List.mem_cons_of_mem d known, rest⟩

/-- The key was drawn by this transition. -/
def Draws (l l' : Ledger) (key : Nat) : Prop := key = l.nextLocal + 1 ∧ l'.nextLocal = l.nextLocal + 1

/-- How a transition treats the starts: a start in the hand has just been checked or was there before, a queue entry
keeps its key and its reservation, and a CALL of a start comes from the hand or from its entry. -/
structure StartMove (l l' : Ledger) : Prop where
  nextLocal : l.nextLocal ≤ l'.nextLocal
  hand : ∀ key, l'.hand.startKey? = some key → l.hand.startKey? = some key ∨ Draws l l' key
  queue : ∀ e' ∈ l'.queue, (∃ e ∈ l.queue, e'.key = e.key ∧ e'.reservationId = e.reservationId) ∨
    l.hand.startKey? = some e'.key ∨ Draws l l' e'.key
  called : ∀ call ∈ calledOf l'.history, call ∈ calledOf l.history ∨
    ∀ key, call.continuation.startKey? = some key → l.hand.startKey? = some key ∨
      ∃ e ∈ l.queue, e.key = key ∧ call.request = (Actor.startOf e).1

namespace StartMove

/-- An emptied hand holds no start. -/
theorem held_of_same (hand : l'.hand.startKey? = none ∨ l'.hand.startKey? = l.hand.startKey?) {key : Nat}
    (held : l'.hand.startKey? = some key) : l.hand.startKey? = some key := by
  rcases hand with empty | kept
  · rw [empty] at held
    cases held
  · exact kept ▸ held

/-- A transition that leaves the queue and the CALLs alone. -/
theorem same (nextLocal : l.nextLocal ≤ l'.nextLocal)
    (hand : l'.hand.startKey? = none ∨ l'.hand.startKey? = l.hand.startKey?) (queue : l'.queue = l.queue)
    (called : calledOf l'.history = calledOf l.history) : StartMove l l' where
  nextLocal := nextLocal
  hand _ held := .inl (held_of_same hand held)
  queue e mem := .inl ⟨e, queue ▸ mem, rfl, rfl⟩
  called _ mem := .inl (called ▸ mem)

/-- A transition that changes the entries of the queue. -/
theorem edited (nextLocal : l.nextLocal ≤ l'.nextLocal) (hand : l'.hand.startKey? = none)
    (queue : ∀ e' ∈ l'.queue, ∃ e ∈ l.queue, e'.key = e.key ∧ e'.reservationId = e.reservationId)
    (called : calledOf l'.history = calledOf l.history) : StartMove l l' where
  nextLocal := nextLocal
  hand key held := by
    rw [hand] at held
    cases held
  queue e mem := .inl (queue e mem)
  called call mem := .inl (called ▸ mem)

/-- A CALL goes out. -/
theorem sent (call : PendingCall) (nextLocal : l'.nextLocal = l.nextLocal)
    (hand : l'.hand.startKey? = none ∨ l'.hand.startKey? = l.hand.startKey?) (queue : l'.queue = l.queue)
    (called : calledOf l'.history = call :: calledOf l.history)
    (source : ∀ key, call.continuation.startKey? = some key → l.hand.startKey? = some key ∨
      ∃ e ∈ l.queue, e.key = key ∧ call.request = (Actor.startOf e).1) : StartMove l l' where
  nextLocal := nextLocal.ge
  hand key held := .inl (held_of_same hand held)
  queue e mem := .inl ⟨e, queue ▸ mem, rfl, rfl⟩
  called other mem := by
    rw [called] at mem
    rcases List.mem_cons.mp mem with rfl | old
    · exact .inr source
    · exact .inl old

end StartMove

theorem kept_of_updateFirst {p : OfflineTx → Bool} {f : OfflineTx → OfflineTx} {queue : OfflineQueue}
    (same : ∀ d, (f d).key = d.key ∧ (f d).reservationId = d.reservationId) :
    ∀ e' ∈ OfflineQueue.updateFirst p f queue, ∃ e ∈ queue, e'.key = e.key ∧ e'.reservationId = e.reservationId := by
  intro e mem
  rcases mem_updateFirst mem with kept | ⟨d, known, -, rfl⟩
  · exact ⟨e, kept, rfl, rfl⟩
  · exact ⟨d, known, same d⟩

theorem kept_of_remove {queue : OfflineQueue} (key : Nat) :
    ∀ e' ∈ OfflineQueue.remove queue key, ∃ e ∈ queue, e'.key = e.key ∧ e'.reservationId = e.reservationId :=
  fun e mem => ⟨e, List.mem_of_mem_eraseP mem, rfl, rfl⟩

theorem Trans.startMove (step : Trans allow l l') : StartMove l l' := by
  have silent {call : PendingCall} (none : call.continuation.startKey? = none) (key : Nat)
      (known : call.continuation.startKey? = some key) : l.hand.startKey? = some key ∨
        ∃ e ∈ l.queue, e.key = key ∧ call.request = (Actor.startOf e).1 := by
    rw [none] at known
    cases known
  cases step with
  | quiet step =>
    cases step with
    | send call sends neutral =>
      exact .sent call rfl (.inr rfl) rfl rfl (silent (startKey?_of_neutral neutral))
    | sendEvent call sends event events queue cont =>
      exact .sent call rfl (.inr rfl) rfl rfl (silent (by rw [cont]; rfl))
    | note event neutral =>
      cases event with
      | replied => exact .same le_rfl (.inr rfl) rfl rfl
      | responded => exact .same le_rfl (.inr rfl) rfl rfl
      | _ => cases neutral
    | _ => exact .same le_rfl (.inr rfl) rfl rfl
  | takeCall call result => exact .same le_rfl (.inl (startKey?_ofResult call.continuation result)) rfl rfl
  | takeRest call rest error => exact .same le_rfl (.inl (startKey?_ofResult call.continuation (.error error))) rfl rfl
  | openStart id c pending hand found idle drawn =>
    refine ⟨Nat.le_succ _, fun key held => .inr ⟨?_, rfl⟩, fun e mem => .inl ⟨e, mem, rfl, rfl⟩,
      fun call mem => .inl mem⟩
    have held : pending.txId.localKey = key := Option.some.inj held
    rw [← held, drawn]
    rfl
  | sendStart id pending call done hand sends cont =>
    refine .sent call rfl (.inl rfl) rfl rfl fun key known => .inl ?_
    rw [cont] at known
    rw [hand]
    exact known
  | charge id pending c hand =>
    exact .same le_rfl (.inr (by rw [hand]; rfl)) rfl rfl
  | queueStart id pending entry hand drawn =>
    refine ⟨le_rfl, nofun, fun e mem => ?_, fun call mem => .inl ((calledOf_push l entry).1 ▸ mem)⟩
    rcases mem_push mem with old | rfl
    · exact .inl ⟨e, old, rfl, rfl⟩
    · refine .inr (.inl ?_)
      rw [hand]
      change some pending.txId.localKey = _
      rw [drawn]
      rfl
  | sendClose session sync call hand sends cont =>
    refine .sent call rfl (.inl ?_) rfl rfl (silent (by rw [cont]; rfl))
    cases sync <;> rfl
  | skipClose session sync => exact .same le_rfl (.inl (by cases sync <;> rfl)) rfl rfl
  | sendStop id tx tag startedAt meterStartWh info done call wire hand sends cont =>
    exact .sent call rfl (.inl rfl) rfl rfl (silent (by rw [cont]; rfl))
  | queueStop =>
    exact .edited le_rfl rfl (kept_of_updateFirst fun d => ⟨rfl, rfl⟩) rfl
  | queueNewStop id tx info entry hand missing drawn =>
    refine ⟨Nat.le_succ _, nofun, fun e mem => ?_, fun call mem => .inl ((calledOf_push _ entry).1 ▸ mem)⟩
    rcases mem_push mem with old | rfl
    · exact .inl ⟨e, old, rfl, rfl⟩
    · exact .inr (.inr ⟨drawn, rfl⟩)
  | sendNext key keys e request cont call hand next sends found message sent continuation =>
    refine .sent call rfl (.inl rfl) rfl rfl fun other known => ?_
    rw [continuation] at known
    rcases message with ⟨-, start⟩ | ⟨-, stop⟩
    · obtain ⟨starts, rfl⟩ := Prod.mk.inj start
      refine .inr ⟨e, List.mem_of_find?_eq_some found, Option.some.inj known, ?_⟩
      rw [sent, ← starts]
      rfl
    · rw [startKey?_of_stopOf stop] at known
      cases known
  | finishSync hand empty => exact .same le_rfl (.inl (by dsimp only; split <;> rfl)) rfl rfl
  | assign =>
    exact .edited le_rfl rfl (kept_of_updateFirst fun d => ⟨rfl, rfl⟩) rfl
  | refuseQueued key => exact .edited le_rfl rfl (kept_of_remove key) rfl
  | sendReady key e request cont call hand sends found message sent continuation =>
    exact .sent call rfl (.inl rfl) rfl rfl (silent (by rw [continuation]; exact startKey?_of_stopOf message))
  | confirmQueued key => exact .edited le_rfl rfl (kept_of_remove key) rfl
  | giveUp key e found =>
    exact ⟨le_rfl, fun key held => .inl held, fun e mem => .inl (kept_of_remove key e mem), fun call mem => .inl mem⟩
  | _ => first | exact .same le_rfl (.inr rfl) rfl rfl | exact .same le_rfl (.inl rfl) rfl rfl

/-! ## What is known of a start -/

/-- The keys in use have been drawn. -/
structure Drawn (l : Ledger) : Prop where
  hand : ∀ key, l.hand.startKey? = some key → key ≤ l.nextLocal
  queue : ∀ e ∈ l.queue, e.key ≤ l.nextLocal
  called : ∀ call ∈ calledOf l.history, ∀ key, call.continuation.startKey? = some key → key ≤ l.nextLocal

/-- Whatever the station still sends for the start `key` names the reservation `carried`. -/
structure Carries (l : Ledger) (key : Nat) (carried : Option ReservationId) : Prop where
  drawn : key ≤ l.nextLocal
  hand : l.hand.startKey? ≠ some key
  queue : ∀ e ∈ l.queue, e.key = key → e.reservationId = carried
  called : ∀ call ∈ calledOf l.history, call.continuation.startKey? = some key →
    ∃ request, call.request = .startTransaction request ∧ request.reservationId = carried

theorem drawn_preserved (allow : Allow) : Preserves (Trans allow) Drawn := by
  intro l l' step h
  have move := step.startMove
  have new {key : Nat} (draws : Draws l l' key) : key ≤ l'.nextLocal := (draws.1.trans draws.2.symm).le
  refine ⟨fun key held => ?_, fun e mem => ?_, fun call mem key known => ?_⟩
  · rcases move.hand key held with old | draws
    · exact (h.hand key old).trans move.nextLocal
    · exact new draws
  · rcases move.queue e mem with ⟨d, old, same, -⟩ | held | draws
    · rw [same]
      exact (h.queue d old).trans move.nextLocal
    · exact (h.hand _ held).trans move.nextLocal
    · exact new draws
  · rcases move.called call mem with old | source
    · exact (h.called call old key known).trans move.nextLocal
    · rcases source key known with held | ⟨d, old, rfl, -⟩
      · exact (h.hand key held).trans move.nextLocal
      · exact (h.queue d old).trans move.nextLocal

/-- A start carries its reservation through the queue to the CALL. -/
theorem carries_preserved (allow : Allow) (key : Nat) (carried : Option ReservationId) :
    Preserves (Trans allow) fun l => Carries l key carried := by
  intro l l' step h
  have move := step.startMove
  have old {other : Nat} (draws : Draws l l' other) : other ≠ key := by
    have := h.drawn
    have := draws.1
    omega
  refine ⟨h.drawn.trans move.nextLocal, fun held => ?_, fun e mem same => ?_, fun call mem known => ?_⟩
  · rcases move.hand key held with before | draws
    · exact h.hand before
    · exact old draws rfl
  · rcases move.queue e mem with ⟨d, before, keys, carries⟩ | held | draws
    · rw [carries]
      exact h.queue d before (keys.symm.trans same)
    · exact absurd (same ▸ held) h.hand
    · exact absurd same (old draws)
  · rcases move.called call mem with before | source
    · exact h.called call before known
    · rcases source key known with held | ⟨d, before, same, message⟩
      · exact absurd held h.hand
      · exact ⟨_, message, h.queue d before same⟩

theorem Carries.startOf (h : Carries l key carried) {request : StartTransactionRequest}
    (start : l.StartOf key request) : request.reservationId = carried := by
  rcases start with ⟨call, mem, known, sent⟩ | ⟨e, mem, same, -, message⟩
  · obtain ⟨other, sent', carries⟩ := h.called call mem known
    rw [sent] at sent'
    cases sent'
    exact carries
  · rw [← h.queue e mem same]
    cases message
    rfl

/-- Nothing is known of a key that has not been drawn. -/
theorem Drawn.carries (h : Drawn l) (carried : Option ReservationId) (idle : l'.hand = .none)
    (nextLocal : l'.nextLocal = l.nextLocal + 1) (queue : l'.queue = l.queue)
    (called : calledOf l'.history = calledOf l.history) : Carries l' (l.nextLocal + 1) carried where
  drawn := nextLocal.ge
  hand := by
    rw [idle]
    exact nofun
  queue e mem same := by
    rw [queue] at mem
    have := h.queue e mem
    omega
  called call mem known := by
    rw [called] at mem
    have := h.called call mem _ known
    omega

/-- The same books, but for the connectors. -/
theorem Carries.same (h : Carries l key carried) (hand : l'.hand = l.hand) (nextLocal : l'.nextLocal = l.nextLocal)
    (queue : l'.queue = l.queue) (called : calledOf l'.history = calledOf l.history) : Carries l' key carried where
  drawn := nextLocal ▸ h.drawn
  hand := hand ▸ h.hand
  queue := queue ▸ h.queue
  called := called ▸ h.called

/-- A start is not what the queue drops to make room for it. -/
theorem push_keeps_start {entry : OfflineTx} (starts : entry.startPending = true) (queue : OfflineQueue) :
    entry ∈ (OfflineQueue.push queue entry).1 := by
  have last : (queue ++ [entry])[queue.length]? = some entry := by simp
  have kept {index : Nat} (other : queue.length ≠ index) : entry ∈ (queue ++ [entry]).eraseIdx index :=
    List.mem_eraseIdx_iff_getElem?.mpr ⟨queue.length, other, last⟩
  unfold OfflineQueue.push
  dsimp only
  split
  · exact List.mem_append_right _ (List.mem_singleton_self entry)
  · rename_i full
    split
    · rename_i index found
      refine kept fun same => ?_
      obtain ⟨bound, stop, -⟩ := List.findIdx?_eq_some_iff_getElem.mp found
      subst same
      have at_end : (queue ++ [entry])[queue.length] = entry := by simp
      rw [at_end, starts] at stop
      cases stop
    · refine kept fun empty => full ?_
      have : (queue ++ [entry]).length = 1 := by simp [empty]
      rw [this]
      decide

namespace Actor

variable {a b : Actor} {id : ConnectorId} {c : ConnectorSnapshot} {idTag : IdTag} {rest : List PendingCall}

/-! ## A start past its checks -/

theorem openStart_books (a : Actor) (id : ConnectorId) (c : ConnectorSnapshot) (idTag : IdTag) :
    (a.openStart id c idTag).2.nextLocal = a.nextLocal + 1 ∧ (a.openStart id c idTag).2.queue = a.queue ∧
      calledOf (a.openStart id c idTag).2.history = calledOf a.history := by
  unfold openStart nextKey withConnector record
  dsimp only
  split <;> exact ⟨rfl, rfl, rfl⟩

/-- The CALL of a start names the reservation of its `PendingStart`. -/
theorem startOnline_carries {pending : PendingStart} (talk : a.canTalk = true)
    (h : Carries (a.ledger rest .none) key pending.reservationId) (own : pending.txId.localKey = key) (done : Done) :
    Carries ((a.startOnline id pending done).ledger rest .none) key pending.reservationId ∧
      ∃ request, ((a.startOnline id pending done).ledger rest .none).StartOf key request := by
  have told := (carries_preserved {} key pending.reservationId).path ((statusChanged_quiet a id).path rest .none) h
  have talk' : (a.statusChanged id).canTalk = true := (statusChanged_quiet a id).canTalk.trans talk
  unfold startOnline
  rw [call_of_canTalk _ talk']
  refine ⟨⟨told.drawn, told.hand, told.queue, fun call mem known => ?_⟩, _, .inl ⟨_, List.mem_cons_self, ?_, rfl⟩⟩
  · rcases List.mem_cons.mp mem with rfl | old
    · exact ⟨_, rfl, rfl⟩
    · exact told.called call old known
  · rw [← own]
    rfl

/-- The queue entry of a start names it as well. -/
theorem startOffline_carries {pending : PendingStart}
    (h : Carries (a.ledger rest .none) key pending.reservationId) (own : pending.txId.localKey = key) (done : Done) :
    Carries ((a.startOffline id pending done).ledger rest .none) key pending.reservationId ∧
      ∃ request, ((a.startOffline id pending done).ledger rest .none).StartOf key request := by
  have charged : Carries ((a.beginCharging id pending).ledger rest .none) key pending.reservationId := by
    refine (carries_preserved {} key _).path ((beginCharging_quiet a id pending).path rest .none) ?_
    rw [withConnector_ledger]
    refine h.same ?_ ?_ ?_ ?_
    all_goals
      unfold Ledger.update
      split <;> rfl
  unfold startOffline
  dsimp only
  have quiet (b : Actor) : Quiet b (runDone done (.ok (.transactionStarted id pending.txId)) b.flushNow) :=
    (flushNow_quiet b).trans (runDone_quiet _ _ _)
  generalize a.beginCharging id pending = b at charged
  let entry : OfflineTx :=
    { key := pending.txId.localKey, connector := id, txId := pending.txId, idTag := pending.idTag
      startedAt := pending.startedAt, meterStartWh := pending.meterStartWh
      reservationId := pending.reservationId, startPending := true, stop := none }
  have pushed : (b.pushQueue entry).queue = (OfflineQueue.push b.queue entry).1 :=
    congrArg Ledger.queue (pushQueue_ledger b entry [] .none)
  constructor
  · refine (carries_preserved {} key _).path ((quiet _).path rest .none) ?_
    rw [pushQueue_ledger]
    refine ⟨charged.drawn, charged.hand, fun e mem same => ?_, fun call mem => ?_⟩
    · rcases mem_push mem with old | rfl
      · exact charged.queue e old same
      · rfl
    · exact charged.called call ((calledOf_push _ _).1 ▸ mem)
  · refine ⟨_, .inr ⟨entry, ?_, own, rfl, rfl⟩⟩
    change entry ∈ (runDone _ _ _).queue
    rw [(quiet _).queue, pushed]
    exact push_keeps_start rfl _

/-- A start past its checks has its message, and carries the reservation in the slot. -/
theorem startChecked_carries (drawn : Drawn (a.ledger rest .none)) (id : ConnectorId) (c : ConnectorSnapshot)
    (idTag : IdTag) (done : Done) :
    Carries ((a.startChecked id c idTag done).ledger rest .none) (a.nextLocal + 1) (c.reservation.map (·.id)) ∧
      ∃ request, ((a.startChecked id c idTag done).ledger rest .none).StartOf (a.nextLocal + 1) request := by
  obtain ⟨nextLocal, queue, called⟩ := a.openStart_books id c idTag
  have opened : Carries ((a.openStart id c idTag).2.ledger rest .none) (a.nextLocal + 1)
      (a.openStart id c idTag).1.reservationId := drawn.carries _ rfl nextLocal queue called
  unfold startChecked
  dsimp only
  split
  · rename_i online
    have talk : (a.openStart id c idTag).2.canTalk = a.canTalk := withConnector_canTalk _ _ _
    exact startOnline_carries (talk.trans online) opened rfl done
  · exact startOffline_carries opened rfl done

/-! ## Every state of the station -/

/-- The process goes from `a` to `b`: through the rest of an iteration, and the iterations that follow. -/
def LeadsTo (a b : Actor) : Prop := ∃ rest rest', Path {} (a.ledger rest .none) (b.ledger rest' .none)

/-- A state that the station reaches between two operations. -/
def Underway (a : Actor) : Prop := ∃ b, Reachable (fun _ _ => True) b ∧ b.LeadsTo a

theorem drawn_of_silent (counted : maxKey a.queue ≤ a.nextLocal) (silent : calledOf a.history = []) :
    Drawn (a.ledger [] .none) where
  hand := nofun
  queue e mem := (key_le_maxKey mem).trans counted
  called call mem := by
    have mem : call ∈ calledOf a.history := mem
    rw [silent] at mem
    cases mem

theorem loaded_drawn (config : StationConfig) (registry : ConfigRegistry) (now : Instant) (mono : Int)
    (saved : Option PersistedStation) : Drawn ((loaded config registry now mono saved).ledger [] .none) := by
  cases saved with
  | none => exact drawn_of_silent (Nat.zero_le _) rfl
  | some saved => exact drawn_of_silent (Nat.le_max_right _ _) rfl

theorem step_drawn (wake : Wake) (h : Ids (a.ledger [] .none) ∧ Drawn (a.ledger [] .none)) :
    Ids ((a.step wake).ledger [] .none) ∧ Drawn ((a.step wake).ledger [] .none) := by
  have permits : Permits (allowing true true true) (a.woken wake) wake.input :=
    permits_allowing _ (.inl rfl) (.inl rfl) (.inl rfl)
  have path := a.step_path wake h.1 permits
  exact ⟨(ids_preserved _).path path h.1, (drawn_preserved _).path path h.2⟩

theorem start_drawn (config : StationConfig) (registry : ConfigRegistry) (now : Instant) (mono : Int)
    (saved : Option PersistedStation) : Ids ((start config registry now mono saved).ledger [] .none) ∧
      Drawn ((start config registry now mono saved).ledger [] .none) :=
  ⟨start_ids config registry now mono saved,
    (drawn_preserved {}).path (start_path config registry now mono saved (.inl rfl))
      (loaded_drawn config registry now mono saved)⟩

theorem Underway.drawn (h : a.Underway) : ∃ rest, Drawn (a.ledger rest .none) := by
  obtain ⟨b, reached, rest, rest', path⟩ := h
  have between := reached.inductive (P := fun a => Ids (a.ledger [] .none) ∧ Drawn (a.ledger [] .none))
    (fun config registry now mono => start_drawn config registry now mono none)
    (fun config registry now mono _ saved _ _ _ => start_drawn config registry now mono (some saved))
    fun _ wake h _ => step_drawn wake h
  have before : Drawn (b.ledger rest .none) := ⟨between.2.hand, between.2.queue, between.2.called⟩
  exact ⟨rest', (drawn_preserved {}).path path before⟩

/-- Waking up moves the clocks, and leads on. -/
theorem underway_woken (reached : Reachable (fun _ _ => True) a) (wake : Wake) : (a.woken wake).Underway :=
  ⟨a, reached, [], [], (a.woken_quiet wake).path [] .none⟩

/-! ## The reservation of a start -/

/-- The reservation that `request` names was in the slot of `c`, live and good for `idTag`. -/
def Honest (a : Actor) (c : ConnectorSnapshot) (idTag : IdTag) (request : StartTransactionRequest) : Prop :=
  ∀ named, request.reservationId = some named → ∃ r, c.reservation = some r ∧ r.id = named ∧
    r.isExpired a.now = false ∧ r.accepts idTag (a.parentOf idTag) = true

/-- A flush leaves the slots alone. -/
theorem flushMeters_slot {d : ConnectorSnapshot} (found : a.connector id = some c)
    (flushed : a.flushMeters.connector id = some d) : d.reservation = c.reservation := by
  obtain ⟨f, connectors, meter, -⟩ := a.flushMeters_fields
  have keeps (c : ConnectorSnapshot) : ((f c).id == id) = (c.id == id) := by rw [meter c]
  have same : a.flushMeters.connector id = (a.connector id).map f := by
    unfold connector
    rw [connectors, Lists.find?_map_keeps keeps]
    split <;> rfl
  rw [same, found] at flushed
  cases flushed
  rw [meter c]

/-- A start that passes its checks sends or queues a message, and this names a live reservation for its idTag, now and
later, exactly if the slot holds no expired reservation. -/
theorem start_reservation_live (underway : a.Underway) (found : a.connector id = some c)
    (admitted : a.startAnswer id idTag = none) (done : Done) :
    (∃ request, ((a.startTransaction id idTag done).ledger [] .none).StartOf (a.nextLocal + 1) request) ∧
    ((∀ b request, (a.startTransaction id idTag done).LeadsTo b →
        (b.ledger [] .none).StartOf (a.nextLocal + 1) request → a.Honest c idTag request) ↔
      ∀ r, c.reservation = some r → r.isExpired a.now = false) := by
  obtain ⟨rest, drawn⟩ := underway.drawn
  have flushed : Drawn (a.flushMeters.ledger rest .none) :=
    (drawn_preserved {}).path ((flushMeters_quiet a).path rest .none) drawn
  have counter : a.flushMeters.nextLocal = a.nextLocal := (flushMeters_quiet a).frame.nextLocal
  obtain ⟨d, found', eq⟩ := startTransaction_admitted admitted done
  have slot := flushMeters_slot found found'
  obtain ⟨carries, request, start⟩ := startChecked_carries flushed id d idTag done
  rw [← eq, counter, slot] at carries
  rw [← eq, counter] at start
  have passes : reservedForOther c idTag (a.parentOf idTag) a.now = false := by
    rw [startAnswer_found found] at admitted
    have checked : a.startRejection c idTag = none := by
      unfold startRefusal at admitted
      split at admitted
      · cases admitted
      · assumption
    exact (startRejection_eq_none_iff.mp checked).2.2
  refine ⟨⟨request, start⟩, fun honest r held => ?_, fun live b other leads start' named names => ?_⟩
  · have named : request.reservationId = some r.id := by
      rw [carries.startOf start, held]
      rfl
    obtain ⟨r', held', -, live, -⟩ := honest _ request ⟨[], [], .refl⟩ start r.id named
    rw [held] at held'
    cases held'
    exact live
  · obtain ⟨rest', rest'', path⟩ := leads
    have before : Carries ((a.startTransaction id idTag done).ledger rest' .none) (a.nextLocal + 1)
      (c.reservation.map (·.id)) := ⟨carries.drawn, carries.hand, carries.queue, carries.called⟩
    have later := (carries_preserved {} _ _).path path before
    have carried : other.reservationId = c.reservation.map (·.id) := later.startOf start'
    rw [names] at carried
    obtain ⟨r, held, rfl⟩ := Option.map_eq_some_iff.mp carried.symm
    have lives := live r held
    have current : liveReservation c a.now = some r := by
      unfold liveReservation
      rw [held]
      simp [lives]
    exact ⟨r, held, rfl, lives, reservedForOther_eq_false_iff.mp passes r current⟩

/-- A connector that is kept for an idTag, at the time `now`. -/
def keptStation (now : Instant) : Actor :=
  ((start { connectorCount := 1 } {} 1000000000000 0 none).replay 1000000000000 0
    [.command .connect 0, .connected 1 true none, .callDone 0 1 (.ok (.boot .accepted 0 0)),
      .incoming (.reserveNow { connectorId := 1, expiryDate := 1000000000010, idTag := .single 'B'
                               parentIdTag := none, reservationId := 7 })]).woken
    { input := .command (.startTransaction 1 (.single 'A')) 2, now, mono := 0 }

theorem keptStation_underway (now : Instant) : (keptStation now).Underway :=
  underway_woken (Reachable.replay _ _ _ _ _ _) _

theorem start_reservation_live_used :
    let a := keptStation 1000000000005
    (a.connector 1).bind (·.reservation) =
      some { id := 7, expiry := 1000000000010, idTag := { chars := ['B'] }, parentIdTag := none } ∧
    ∀ c, a.connector 1 = some c → ∀ b request, (a.startTransaction 1 { chars := ['B'] } .ignore).LeadsTo b →
      (b.ledger [] .none).StartOf (a.nextLocal + 1) request → a.Honest c { chars := ['B'] } request := by
  intro a
  have slot : (a.connector 1).bind (·.reservation) =
      some { id := 7, expiry := 1000000000010, idTag := { chars := ['B'] }, parentIdTag := none } := by decide +kernel
  refine ⟨slot, fun c found => ?_⟩
  refine (start_reservation_live (keptStation_underway _) found (by decide +kernel) .ignore).2.mpr fun r held => ?_
  rw [found, Option.bind_some, held] at slot
  cases slot
  decide +kernel

/-- The reservation of `B` has expired and its timer has not fired: it is attached to a start of `A`. -/
theorem expired_reservation_attached :
    ¬∀ (a : Actor) (id : ConnectorId) (idTag : IdTag) (c : ConnectorSnapshot) (done : Done), a.Underway →
      a.connector id = some c → a.startAnswer id idTag = none → ∀ b request,
        (a.startTransaction id idTag done).LeadsTo b → (b.ledger [] .none).StartOf (a.nextLocal + 1) request →
          a.Honest c idTag request := by
  intro claimed
  let a := keptStation 1000000000010
  have slot : (a.connector 1).bind (·.reservation) =
      some { id := 7, expiry := 1000000000010, idTag := { chars := ['B'] }, parentIdTag := none } := by decide +kernel
  obtain ⟨c, found, held⟩ := Option.bind_eq_some_iff.mp slot
  let b := a.startTransaction 1 { chars := ['A'] } .ignore
  have sent : (calledOf b.history).any (fun call => decide (call.continuation.startKey? = some (a.nextLocal + 1)) &&
      decide (call.request = .startTransaction
        { connectorId := 1, idTag := { chars := ['A'] }, meterStart := 0, reservationId := some 7
          timestamp := 1000000000010 })) = true := by decide +kernel
  obtain ⟨call, mem, same⟩ := List.any_eq_true.mp sent
  obtain ⟨key, request⟩ := Bool.and_eq_true_iff.mp same
  obtain ⟨r, held', -, live, -⟩ := claimed a 1 { chars := ['A'] } c .ignore (keptStation_underway _) found
    (by decide +kernel) b _ ⟨[], [], .refl⟩ (.inl ⟨call, mem, of_decide_eq_true key, of_decide_eq_true request⟩) 7 rfl
  rw [held] at held'
  cases held'
  exact absurd live (by decide +kernel)

end Actor

end KirbyOcpp
