import KirbyOcpp.Csms.State

/-!
# What is kept of a station's reports

The fold of the answered CALLs stays within its bounds and changes nothing it does not report. Beside the
records runs a ghost order, the numbers of the starts and of the stops: the list of the records is in the
order of the starts, a stop or a reading changes the latest started active record of its id, and an
eviction takes the first stopped record of the list, which need not be the one that was stopped first.
-/

namespace KirbyOcpp.Csms

open Ws (Json)

variable {F : Type}

/-! ## The cases of the fold -/

namespace ReportedState

/-- The fields with a bound are untouched. -/
structure SameLists (state state' : ReportedState F) : Prop where
  connectors : state'.connectors = state.connectors
  transactions : state'.transactions = state.transactions
  securityEvents : state'.securityEvents = state.securityEvents
  securityEventsTotal : state'.securityEventsTotal = state.securityEventsTotal

theorem SameLists.refl (state : ReportedState F) : SameLists state state := ⟨rfl, rfl, rfl, rfl⟩

/-- What one answered CALL does: five handlers work on the lists; any other CALL leaves them, and changes
something exactly if it says so, a heartbeat apart. -/
theorem apply_cases (codec : Codec F) (historyCap : Nat) (call : AnsweredCall) (state : ReportedState F) :
    (call.action = "StatusNotification" ∧
      state.apply codec historyCap call.action call.request call.response call.now =
        state.onStatus codec call.request call.now) ∨
    (call.action = "StartTransaction" ∧
      state.apply codec historyCap call.action call.request call.response call.now =
        state.onStart codec call.request call.response) ∨
    (call.action = "StopTransaction" ∧
      state.apply codec historyCap call.action call.request call.response call.now =
        state.onStop codec call.request historyCap) ∨
    (call.action = "MeterValues" ∧
      state.apply codec historyCap call.action call.request call.response call.now =
        state.onMeter codec call.request) ∨
    (call.action = "SecurityEventNotification" ∧
      state.apply codec historyCap call.action call.request call.response call.now =
        state.onSecurityEvent codec call.request call.now) ∨
    (call.action ≠ "StartTransaction" ∧ call.action ≠ "StopTransaction" ∧ call.action ≠ "MeterValues" ∧
      SameLists state (state.apply codec historyCap call.action call.request call.response call.now).1 ∧
      ((state.apply codec historyCap call.action call.request call.response call.now).2 = false →
        call.action ≠ "Heartbeat" →
        (state.apply codec historyCap call.action call.request call.response call.now).1 = state)) := by
  obtain ⟨action, request, response, now⟩ := call
  -- a CALL that does not decode is refused; another one writes one field and says so
  have refused : SameLists state state ∧ (false = false → action ≠ "Heartbeat" → state = state) :=
    ⟨.refl state, fun _ _ => rfl⟩
  have written {state' : ReportedState F} (same : SameLists state state') :
      SameLists state state' ∧ (true = false → action ≠ "Heartbeat" → state' = state) :=
    ⟨same, fun flag => Bool.noConfusion flag⟩
  by_cases boot : action = "BootNotification"
  · subst boot
    refine .inr (.inr (.inr (.inr (.inr ⟨by simp, by simp, by simp, ?_⟩))))
    simp only [apply, if_true, onBoot]
    split
    · exact refused
    · exact written ⟨rfl, rfl, rfl, rfl⟩
  by_cases heartbeat : action = "Heartbeat"
  · subst heartbeat
    refine .inr (.inr (.inr (.inr (.inr ⟨by simp, by simp, by simp, ?_⟩))))
    exact ⟨⟨rfl, rfl, rfl, rfl⟩, fun _ other => absurd rfl other⟩
  by_cases status : action = "StatusNotification"
  · exact .inl ⟨status, by simp [apply, status]⟩
  by_cases start : action = "StartTransaction"
  · exact .inr (.inl ⟨start, by simp [apply, start]⟩)
  by_cases stop : action = "StopTransaction"
  · exact .inr (.inr (.inl ⟨stop, by simp [apply, stop]⟩))
  by_cases meter : action = "MeterValues"
  · exact .inr (.inr (.inr (.inl ⟨meter, by simp [apply, meter]⟩)))
  by_cases security : action = "SecurityEventNotification"
  · exact .inr (.inr (.inr (.inr (.inl ⟨security, by simp [apply, security]⟩))))
  refine .inr (.inr (.inr (.inr (.inr ⟨start, stop, meter, ?_⟩))))
  simp only [apply, boot, heartbeat, status, start, stop, meter, security, if_false]
  by_cases diagnostics : action = "DiagnosticsStatusNotification"
  · rw [if_pos diagnostics]
    split
    · exact refused
    · exact written ⟨rfl, rfl, rfl, rfl⟩
  rw [if_neg diagnostics]
  by_cases firmware : action = "FirmwareStatusNotification"
  · rw [if_pos firmware]
    split
    · exact refused
    · exact written ⟨rfl, rfl, rfl, rfl⟩
  rw [if_neg firmware]
  by_cases log : action = "LogStatusNotification"
  · rw [if_pos log]
    split
    · exact refused
    · exact written ⟨rfl, rfl, rfl, rfl⟩
  rw [if_neg log]
  by_cases signed : action = "SignedFirmwareStatusNotification"
  · rw [if_pos signed]
    split
    · exact refused
    · exact written ⟨rfl, rfl, rfl, rfl⟩
  rw [if_neg signed]
  by_cases certificate : action = "SignCertificate"
  · rw [if_pos certificate]
    split
    · exact refused
    · exact written ⟨rfl, rfl, rfl, rfl⟩
  rw [if_neg certificate]
  exact refused

end ReportedState

/-! ## Readings -/

namespace TransactionRecord

/-- A sample that is not used changes nothing, and a reading touches neither the id nor the status. -/
theorem sample_spec (codec : Codec F) (tx : TransactionRecord F × Bool) (value : SampledValue) :
    sample codec tx value = tx ∨
      (sample codec tx value).2 = true ∧ (sample codec tx value).1.id = tx.1.id ∧
        (sample codec tx value).1.status = tx.1.status := by
  unfold sample
  dsimp only
  split
  · exact .inl rfl
  split
  · split
    · exact .inr ⟨rfl, rfl, rfl⟩
    · exact .inr ⟨rfl, rfl, rfl⟩
    · exact .inl rfl
  split
  · split
    · exact .inr ⟨rfl, rfl, rfl⟩
    · exact .inr ⟨rfl, rfl, rfl⟩
    · exact .inl rfl
  · exact .inl rfl

/-- A fold of steps that change nothing unless they say so, and never the id or the status. -/
theorem foldl_spec {S : Type} {step : TransactionRecord F × Bool → S → TransactionRecord F × Bool}
    (spec : ∀ tx s, step tx s = tx ∨ (step tx s).2 = true ∧ (step tx s).1.id = tx.1.id ∧
      (step tx s).1.status = tx.1.status) (items : List S) (tx : TransactionRecord F × Bool) :
    items.foldl step tx = tx ∨ (items.foldl step tx).2 = true ∧ (items.foldl step tx).1.id = tx.1.id ∧
      (items.foldl step tx).1.status = tx.1.status := by
  induction items generalizing tx with
  | nil => exact .inl rfl
  | cons item items ih =>
    rw [List.foldl_cons]
    rcases spec tx item with same | ⟨changed, id, status⟩
    · rw [same]
      exact ih tx
    · rcases ih (step tx item) with same | ⟨changed', id', status'⟩
      · rw [same]
        exact .inr ⟨changed, id, status⟩
      · exact .inr ⟨changed', id'.trans id, status'.trans status⟩

theorem meter_spec (codec : Codec F) (tx : TransactionRecord F × Bool) (entry : SampledMeter) :
    meter codec tx entry = tx ∨ (meter codec tx entry).2 = true ∧ (meter codec tx entry).1.id = tx.1.id ∧
      (meter codec tx entry).1.status = tx.1.status := by
  unfold meter
  rcases foldl_spec (sample_spec codec) (entry.sampledValue.filter fun sample => sample.phase.isNone)
      (tx.1, false) with same | ⟨touched, id, status⟩
  · rw [same]
    exact .inl rfl
  · dsimp only
    rw [if_pos touched]
    exact .inr ⟨rfl, id, status⟩

/-- Readings change nothing unless they say so, and never the id or the status. -/
theorem meters_spec (codec : Codec F) (req : MeterValuesRequest) (tx : TransactionRecord F) :
    ((tx.meters codec req).2 = false → (tx.meters codec req).1 = tx) ∧ (tx.meters codec req).1.id = tx.id ∧
      (tx.meters codec req).1.status = tx.status := by
  unfold meters
  rcases foldl_spec (meter_spec codec) req.meterValue (tx, false) with same | ⟨changed, id, status⟩
  · rw [same]
    exact ⟨fun _ => rfl, rfl, rfl⟩
  · exact ⟨fun flag => absurd (changed.symm.trans flag) (by decide), id, status⟩

theorem isStopped_eq_not (tx : TransactionRecord F) : tx.isStopped = !tx.isActive := by
  unfold isStopped isActive
  cases tx.status <;> rfl

theorem isActive_of_names {id : Int} {tx : TransactionRecord F} (named : tx.names id = true) :
    tx.isActive = true :=
  (Bool.and_eq_true_iff.mp named).2

theorem isActive_congr {tx tx' : TransactionRecord F} (status : tx'.status = tx.status) :
    tx'.isActive = tx.isActive := by
  unfold isActive
  rw [status]

end TransactionRecord

/-! ## Bounds -/

/-- How many records count as stopped after some went. -/
theorem countP_eraseP_le {A : Type*} (p q : A → Bool) (xs : List A) : (xs.eraseP p).countP q ≤ xs.countP q :=
  List.eraseP_sublist.countP_le

theorem countP_eraseP_self {A : Type*} (p : A → Bool) (xs : List A) :
    (xs.eraseP p).countP p = xs.countP p - 1 := by
  induction xs with
  | nil => rfl
  | cons x xs ih =>
    by_cases here : p x = true
    · rw [List.eraseP_cons_of_pos here, List.countP_cons_of_pos here, Nat.add_sub_cancel]
    · rw [List.eraseP_cons_of_neg here, List.countP_cons_of_neg here, List.countP_cons_of_neg here, ih]

namespace ReportedState

theorem dropStopped_sublist (rounds : Nat) (transactions : List (TransactionRecord F)) :
    (dropStopped rounds transactions).Sublist transactions := by
  induction rounds generalizing transactions with
  | zero => exact List.Sublist.refl _
  | succ rounds ih => exact (ih _).trans List.eraseP_sublist

theorem dropStopped_count (rounds : Nat) (transactions : List (TransactionRecord F)) :
    (dropStopped rounds transactions).countP TransactionRecord.isStopped =
      transactions.countP TransactionRecord.isStopped - rounds := by
  induction rounds generalizing transactions with
  | zero => rfl
  | succ rounds ih =>
    rw [dropStopped, ih, countP_eraseP_self]
    omega

/-- The loop of `on_stop` ends within the cap. -/
theorem evictStopped_count (historyCap : Nat) (transactions : List (TransactionRecord F)) :
    (evictStopped historyCap transactions).countP TransactionRecord.isStopped ≤ historyCap := by
  rw [evictStopped, dropStopped_count]
  omega

/-- Every list of the state is within its bound. -/
structure Bounded (historyCap : Nat) (state : ReportedState F) : Prop where
  stopped : state.transactions.countP TransactionRecord.isStopped ≤ historyCap
  active : state.transactions.countP TransactionRecord.isActive ≤ maxActiveTransactions
  connectors : state.connectors.length ≤ maxConnectors
  events : state.securityEvents.length ≤ maxSecurityEvents
  total : state.securityEvents.length ≤ state.securityEventsTotal

theorem Bounded.congr {historyCap : Nat} {state state' : ReportedState F} (h : Bounded historyCap state)
    (same : SameLists state state') : Bounded historyCap state' where
  stopped := same.transactions ▸ h.stopped
  active := same.transactions ▸ h.active
  connectors := same.connectors ▸ h.connectors
  events := same.securityEvents ▸ h.events
  total := same.securityEvents ▸ same.securityEventsTotal ▸ h.total

theorem Bounded.onStatus {historyCap : Nat} {state : ReportedState F} (h : Bounded historyCap state)
    (codec : Codec F) (request : Json) (now : Nat) : Bounded historyCap (state.onStatus codec request now).1 := by
  unfold ReportedState.onStatus
  split
  · exact h
  next req _ =>
  dsimp only
  split
  · exact h
  next room =>
  refine { h with connectors := ?_ }
  change (Assoc.erase state.connectors req.connectorId ++ [_]).length ≤ maxConnectors
  rw [List.length_append, List.length_singleton]
  have shorter : (Assoc.erase state.connectors req.connectorId).length ≤ state.connectors.length :=
    List.length_filter_le _ _
  rw [Bool.and_eq_true, not_and_or] at room
  rcases room with known | free
  · have known : (Assoc.get state.connectors req.connectorId).isSome = true := by
      simpa [Option.isSome_iff_ne_none] using known
    obtain ⟨entry, mem, key⟩ := List.mem_map.mp (Assoc.isSome_get.mp known)
    have fewer : (Assoc.erase state.connectors req.connectorId).length < state.connectors.length :=
      List.length_filter_lt_length_iff_exists.mpr ⟨entry, mem, by simp [key]⟩
    have := h.connectors
    omega
  · have := of_decide_eq_false (eq_false_of_ne_true free)
    omega

theorem Bounded.onSecurityEvent {historyCap : Nat} {state : ReportedState F} (h : Bounded historyCap state)
    (codec : Codec F) (request : Json) (now : Nat) :
    Bounded historyCap (state.onSecurityEvent codec request now).1 := by
  unfold ReportedState.onSecurityEvent
  split
  · exact h
  next req _ =>
  have events := h.events
  have total := h.total
  refine { h with events := ?_, total := ?_ }
  · rw [List.length_drop, List.length_append, List.length_singleton]
    omega
  · rw [List.length_drop, List.length_append, List.length_singleton]
    change _ ≤ state.securityEventsTotal + 1
    omega

theorem Bounded.onStart {historyCap : Nat} {state : ReportedState F} (h : Bounded historyCap state)
    (codec : Codec F) (request response : Json) :
    Bounded historyCap (state.onStart codec request response).1 := by
  unfold ReportedState.onStart
  split
  · exact h
  next req _ =>
  split
  · exact h
  next res _ =>
  have stopped : (state.transactions ++ [TransactionRecord.started req res]).countP
      TransactionRecord.isStopped = state.transactions.countP TransactionRecord.isStopped := by
    rw [List.countP_append]
    rfl
  have active : (state.transactions ++ [TransactionRecord.started req res]).countP
      TransactionRecord.isActive = state.transactions.countP TransactionRecord.isActive + 1 := by
    rw [List.countP_append]
    rfl
  have few := h.active
  refine { h with stopped := ?_, active := ?_ }
  · change (withStarted _ _).countP _ ≤ _
    unfold withStarted
    dsimp only
    split
    · exact (countP_eraseP_le _ _ _).trans (stopped.le.trans h.stopped)
    · exact stopped.le.trans h.stopped
  · change (withStarted _ _).countP _ ≤ _
    unfold withStarted
    dsimp only
    split
    · rw [countP_eraseP_self, active]
      omega
    · omega

theorem Bounded.onStop {historyCap : Nat} {state : ReportedState F} (h : Bounded historyCap state)
    (codec : Codec F) (request : Json) : Bounded historyCap (state.onStop codec request historyCap).1 := by
  unfold ReportedState.onStop
  split
  · exact h
  next req _ =>
  split
  · exact { h with }
  next transactions found =>
  obtain ⟨front, tx, back, eq, named, -, rfl⟩ := LastMatch.update_eq_some found
  have few := h.active
  refine { h with stopped := evictStopped_count _ _, active := ?_ }
  refine ((dropStopped_sublist _ _).countP_le).trans ?_
  rw [eq, List.countP_append, List.countP_cons_of_pos (TransactionRecord.isActive_of_names named)] at few
  rw [List.countP_append, List.countP_cons_of_neg (by simp [TransactionRecord.isActive, TransactionRecord.stop])]
  omega

/-- Readings leave the status of every record. -/
theorem onMeter_count {codec : Codec F} {req : MeterValuesRequest} {id : Int}
    {before after : List (TransactionRecord F)}
    (found : LastMatch.update (TransactionRecord.names id) (fun tx => (tx.meters codec req).1) before = some after)
    {p : TransactionRecord F → Bool} (status : ∀ tx tx' : TransactionRecord F, tx'.status = tx.status → p tx' = p tx) :
    after.countP p = before.countP p := by
  obtain ⟨front, tx, back, rfl, -, -, rfl⟩ := LastMatch.update_eq_some found
  rw [List.countP_append, List.countP_append, List.countP_cons, List.countP_cons,
    status tx _ (TransactionRecord.meters_spec codec req tx).2.2]

theorem Bounded.onMeter {historyCap : Nat} {state : ReportedState F} (h : Bounded historyCap state)
    (codec : Codec F) (request : Json) : Bounded historyCap (state.onMeter codec request).1 := by
  unfold ReportedState.onMeter
  split
  · exact h
  split
  · exact h
  split
  · next found =>
    have active := onMeter_count found fun _ _ => TransactionRecord.isActive_congr
    have stopped := onMeter_count (p := TransactionRecord.isStopped) found fun tx tx' status => by
      rw [TransactionRecord.isStopped_eq_not, TransactionRecord.isStopped_eq_not,
        TransactionRecord.isActive_congr status]
    exact { h with stopped := stopped.le.trans h.stopped, active := active.le.trans h.active }
  · exact h

/-- Every answered CALL keeps the bounds. -/
theorem Bounded.fold {historyCap : Nat} {state : ReportedState F} (h : Bounded historyCap state)
    (codec : Codec F) (call : AnsweredCall) : Bounded historyCap (state.fold codec historyCap call) := by
  unfold ReportedState.fold
  rcases apply_cases codec historyCap call state with
    ⟨-, eq⟩ | ⟨-, eq⟩ | ⟨-, eq⟩ | ⟨-, eq⟩ | ⟨-, eq⟩ | ⟨-, -, -, same, -⟩
  · exact eq ▸ h.onStatus codec _ _
  · exact eq ▸ h.onStart codec _ _
  · exact eq ▸ h.onStop codec _
  · exact eq ▸ h.onMeter codec _
  · exact eq ▸ h.onSecurityEvent codec _ _
  · exact h.congr same

/-- What does not report a change, a heartbeat apart, changes nothing. -/
theorem apply_false {codec : Codec F} {historyCap : Nat} {call : AnsweredCall} {state : ReportedState F}
    (flag : (state.apply codec historyCap call.action call.request call.response call.now).2 = false)
    (other : call.action ≠ "Heartbeat") : state.fold codec historyCap call = state := by
  unfold ReportedState.fold
  rcases apply_cases codec historyCap call state with
    ⟨-, eq⟩ | ⟨-, eq⟩ | ⟨-, eq⟩ | ⟨-, eq⟩ | ⟨-, eq⟩ | ⟨-, -, -, -, unchanged⟩
  · rw [eq] at flag ⊢
    unfold onStatus at flag ⊢
    dsimp only at flag ⊢
    split at flag
    · rfl
    · split at flag
      · next full => rw [if_pos full]
      · exact Bool.noConfusion flag
  · rw [eq] at flag ⊢
    unfold onStart at flag ⊢
    split at flag
    · rfl
    · split at flag
      · rfl
      · exact Bool.noConfusion flag
  · rw [eq] at flag ⊢
    unfold onStop at flag ⊢
    split at flag
    · rfl
    · split at flag <;> exact Bool.noConfusion flag
  · rw [eq] at flag ⊢
    unfold onMeter at flag ⊢
    split at flag
    · rfl
    next req _ =>
    split at flag
    · rfl
    next id _ =>
    split at flag
    · next tx transactions last found =>
      obtain ⟨front, y, back, split', named, none, rfl⟩ := LastMatch.update_eq_some found
      rw [split', LastMatch.last_append named none] at last
      obtain rfl := Option.some.inj last
      rw [(TransactionRecord.meters_spec codec req y).1 flag, ← split']
    · rfl
  · rw [eq] at flag ⊢
    unfold onSecurityEvent at flag ⊢
    split at flag
    · rfl
    · exact Bool.noConfusion flag
  · exact unchanged flag other

end ReportedState

/-! ## The order of the starts and of the stops -/

/-- A record with the number of its start, and of its stop once there was one. -/
structure Tracked (F : Type) where
  tx : TransactionRecord F
  started : Nat
  stopped : Option Nat := none

namespace Tracked

def isActive (r : Tracked F) : Bool := r.tx.isActive

def isStopped (r : Tracked F) : Bool := r.tx.isStopped

def names (id : Int) (r : Tracked F) : Bool := r.tx.names id

/-- The stop with number `n`. -/
def stop (req : StopTransactionRequest) (n : Nat) (r : Tracked F) : Tracked F :=
  { r with tx := r.tx.stop req, stopped := some n }

def metered (codec : Codec F) (req : MeterValuesRequest) (r : Tracked F) : Tracked F :=
  { r with tx := (r.tx.meters codec req).1 }

end Tracked

/-- The records with their numbers, and how many starts and stops there were. -/
structure Story (F : Type) where
  records : List (Tracked F) := []
  starts : Nat := 0
  stops : Nat := 0

/-- What an answered CALL means for the transactions. -/
inductive TxEffect (F : Type) where
  | start (tx : TransactionRecord F)
  | stop (req : StopTransactionRequest)
  | meter (id : Int) (req : MeterValuesRequest)
  | none

/-- The effect of a CALL, as its payloads decode. -/
def AnsweredCall.effect (codec : Codec F) (call : AnsweredCall) : TxEffect F :=
  if call.action = "StartTransaction" then
    match codec.startTransaction call.request, codec.startTransactionResponse call.response with
    | some req, some res => .start (.started req res)
    | _, _ => .none
  else if call.action = "StopTransaction" then
    match codec.stopTransaction call.request with
    | some req => .stop req
    | none => .none
  else if call.action = "MeterValues" then
    match codec.meterValues call.request with
    | some req =>
      match req.transactionId with
      | some id => .meter id req
      | none => .none
    | none => .none
  else .none

namespace Story

/-- The first stopped records go until at most `historyCap` are left. -/
def drop : Nat → List (Tracked F) → List (Tracked F)
  | 0, records => records
  | rounds + 1, records => drop rounds (records.eraseP Tracked.isStopped)

/-- The story after one more effect: the records move as those of the state do. -/
def after (codec : Codec F) (historyCap : Nat) (story : Story F) : TxEffect F → Story F
  | .start tx =>
    let records := story.records ++ [{ tx, started := story.starts }]
    { story with
      starts := story.starts + 1
      records := if maxActiveTransactions < records.countP Tracked.isActive then
          records.eraseP Tracked.isActive
        else records }
  | .stop req =>
    { story with
      stops := story.stops + 1
      records := match LastMatch.update (Tracked.names req.transactionId) (Tracked.stop req story.stops)
          story.records with
        | some records => drop (records.countP Tracked.isStopped - historyCap) records
        | none => story.records }
  | .meter id req =>
    { story with
      records := (LastMatch.update (Tracked.names id) (Tracked.metered codec req) story.records).getD
        story.records }
  | .none => story

/-- The story of a run. -/
def fold (codec : Codec F) (historyCap : Nat) (story : Story F) (call : AnsweredCall) : Story F :=
  story.after codec historyCap (call.effect codec)

theorem map_drop (rounds : Nat) (records : List (Tracked F)) :
    (drop rounds records).map (·.tx) = ReportedState.dropStopped rounds (records.map (·.tx)) := by
  induction rounds generalizing records with
  | zero => rfl
  | succ rounds ih => rw [drop, ih, ReportedState.dropStopped, List.eraseP_map]; rfl

theorem countP_map_tx (p : TransactionRecord F → Bool) (records : List (Tracked F)) :
    (records.map (·.tx)).countP p = records.countP fun r => p r.tx := List.countP_map

theorem update_stop (req : StopTransactionRequest) (n : Nat) (records : List (Tracked F)) :
    LastMatch.update (TransactionRecord.names req.transactionId) (TransactionRecord.stop req)
        (records.map (·.tx)) =
      (LastMatch.update (Tracked.names req.transactionId) (Tracked.stop req n) records).map (List.map (·.tx)) :=
  LastMatch.update_map (g := fun r : Tracked F => r.tx) (fun _ => rfl) (fun _ => rfl) records

theorem update_metered (codec : Codec F) (id : Int) (req : MeterValuesRequest) (records : List (Tracked F)) :
    LastMatch.update (TransactionRecord.names id) (fun tx => (tx.meters codec req).1) (records.map (·.tx)) =
      (LastMatch.update (Tracked.names id) (Tracked.metered codec req) records).map (List.map (·.tx)) :=
  LastMatch.update_map (g := fun r : Tracked F => r.tx) (fun _ => rfl) (fun _ => rfl) records

/-- The records of the story are those of the state. -/
theorem fold_projects (codec : Codec F) (historyCap : Nat) {story : Story F} {state : ReportedState F}
    (h : story.records.map (·.tx) = state.transactions) (call : AnsweredCall) :
    (story.fold codec historyCap call).records.map (·.tx) =
      (state.fold codec historyCap call).transactions := by
  unfold fold AnsweredCall.effect ReportedState.fold
  rcases ReportedState.apply_cases codec historyCap call state with
    ⟨action, eq⟩ | ⟨action, eq⟩ | ⟨action, eq⟩ | ⟨action, eq⟩ | ⟨action, eq⟩ | ⟨start, stop, meter, same, -⟩
  · rw [eq, if_neg (by simp [action]), if_neg (by simp [action]), if_neg (by simp [action])]
    unfold ReportedState.onStatus
    dsimp only
    split
    · exact h
    · split <;> exact h
  · rw [eq, if_pos action]
    unfold ReportedState.onStart
    cases codec.startTransaction call.request with
    | none => exact h
    | some req =>
      cases codec.startTransactionResponse call.response with
      | none => exact h
      | some res =>
        have pushed : (story.records ++ [({ tx := .started req res, started := story.starts } : Tracked F)]).map
            (·.tx) = state.transactions ++ [.started req res] := by
          rw [List.map_append, h]
          rfl
        unfold after ReportedState.withStarted
        dsimp only
        rw [← pushed, countP_map_tx]
        by_cases many : maxActiveTransactions <
            (story.records ++ [({ tx := .started req res, started := story.starts } : Tracked F)]).countP
              Tracked.isActive
        · rw [if_pos many]
          refine Eq.trans ?_ (if_pos many).symm
          exact List.eraseP_map.symm
        · rw [if_neg many]
          exact (if_neg many).symm
  · rw [eq, if_neg (by simp [action]), if_pos action]
    unfold ReportedState.onStop
    cases codec.stopTransaction call.request with
    | none => exact h
    | some req =>
      unfold after
      dsimp only
      rw [← h, update_stop req story.stops]
      cases LastMatch.update (Tracked.names req.transactionId) (Tracked.stop req story.stops) story.records with
      | none => rfl
      | some records =>
        dsimp only [Option.map_some]
        rw [map_drop, ReportedState.evictStopped, countP_map_tx]
        rfl
  · rw [eq, if_neg (by simp [action]), if_neg (by simp [action]), if_pos action]
    unfold ReportedState.onMeter
    cases codec.meterValues call.request with
    | none => exact h
    | some req =>
      dsimp only
      cases req.transactionId with
      | none => exact h
      | some id =>
        unfold after
        dsimp only
        cases found : LastMatch.update (Tracked.names id) (Tracked.metered codec req) story.records with
        | none =>
          have gone : LastMatch.update (TransactionRecord.names id) (fun tx => (tx.meters codec req).1)
              state.transactions = none := by
            rw [← h, update_metered, found]
            rfl
          rw [gone]
          split
          · next impossible => cases impossible
          · exact h
        | some records =>
          obtain ⟨front, r, back, split', named, none, rfl⟩ := LastMatch.update_eq_some found
          have transactions : state.transactions = front.map (·.tx) ++ r.tx :: back.map (·.tx) := by
            rw [← h, split', List.map_append, List.map_cons]
          have none' : ∀ tx ∈ back.map (·.tx), TransactionRecord.names id tx = false := by
            intro tx mem
            obtain ⟨x, inBack, rfl⟩ := List.mem_map.mp mem
            exact none x inBack
          have named' : TransactionRecord.names id r.tx = true := named
          rw [transactions, LastMatch.last_append named' none', LastMatch.update_append named' none']
          simp [Tracked.metered]
  · rw [eq, if_neg (by simp [action]), if_neg (by simp [action]), if_neg (by simp [action])]
    unfold ReportedState.onSecurityEvent
    split <;> exact h
  · rw [if_neg start, if_neg stop, if_neg meter]
    exact h.trans same.transactions.symm

/-- The list is in the order of the starts, and every stopped record has the number of its stop. -/
structure Ordered (story : Story F) : Prop where
  ascending : story.records.Pairwise fun a b => a.started < b.started
  below : ∀ r ∈ story.records, r.started < story.starts
  stops : ∀ r ∈ story.records, r.isStopped = true → ∃ n, r.stopped = some n ∧ n < story.stops

theorem drop_sublist (rounds : Nat) (records : List (Tracked F)) : (drop rounds records).Sublist records := by
  induction rounds generalizing records with
  | zero => exact List.Sublist.refl _
  | succ rounds ih => exact (ih _).trans List.eraseP_sublist

/-- Only stopped records are dropped. -/
theorem mem_drop {rounds : Nat} {records : List (Tracked F)} {r : Tracked F} (mem : r ∈ records)
    (running : r.isStopped ≠ true) : r ∈ drop rounds records := by
  induction rounds generalizing records with
  | zero => exact mem
  | succ rounds ih => exact ih ((List.mem_eraseP_of_neg running).mpr mem)

/-- The order survives what takes records away or counts further. -/
theorem Ordered.sublist {story story' : Story F} (h : Ordered story)
    (records : story'.records.Sublist story.records) (starts : story.starts ≤ story'.starts)
    (stops : story.stops ≤ story'.stops) : Ordered story' where
  ascending := h.ascending.sublist records
  below := fun r mem => (h.below r (records.subset mem)).trans_le starts
  stops := fun r mem stopped =>
    have ⟨n, number, before⟩ := h.stops r (records.subset mem) stopped
    ⟨n, number, before.trans_le stops⟩

/-- The order survives a change of one record that keeps its number, and gives it the number of a stop if
it stops it. -/
theorem Ordered.update {story : Story F} (h : Ordered story) (stops : Nat) {p : Tracked F → Bool}
    {f : Tracked F → Tracked F} {records : List (Tracked F)}
    (found : LastMatch.update p f story.records = some records) (number : ∀ r, (f r).started = r.started)
    (later : story.stops ≤ stops)
    (stopped : ∀ r ∈ story.records, p r = true → (f r).isStopped = true → ∃ n, (f r).stopped = some n ∧ n < stops) :
    Ordered { story with records, stops } := by
  obtain ⟨front, r, back, eq, pass, -, rfl⟩ := LastMatch.update_eq_some found
  have numbers : (front ++ f r :: back).map (·.started) = story.records.map (·.started) := by
    rw [eq, List.map_append, List.map_append, List.map_cons, List.map_cons, number]
  have ascending := List.pairwise_map.mpr h.ascending
  rw [← numbers] at ascending
  refine ⟨List.pairwise_map.mp ascending, fun x mem => ?_, fun x mem stop => ?_⟩
  · have listed : x.started ∈ story.records.map (·.started) := numbers ▸ List.mem_map_of_mem mem
    obtain ⟨y, inRecords, same⟩ := List.mem_map.mp listed
    exact same ▸ h.below y inRecords
  · have old (x : Tracked F) (mem : x ∈ story.records) (stop : x.isStopped = true) :
        ∃ n, x.stopped = some n ∧ n < stops :=
      have ⟨n, number, before⟩ := h.stops x mem stop
      ⟨n, number, before.trans_le later⟩
    rcases List.mem_append.mp mem with inFront | rest
    · exact old x (eq ▸ List.mem_append_left _ inFront) stop
    · rcases List.mem_cons.mp rest with rfl | inBack
      · exact stopped r (eq ▸ by simp) pass stop
      · exact old x (eq ▸ List.mem_append_right _ (List.mem_cons_of_mem _ inBack)) stop

/-- A started record is active. -/
theorem active_of_start {codec : Codec F} {call : AnsweredCall} {tx : TransactionRecord F}
    (start : call.effect codec = .start tx) : tx.isStopped = false := by
  unfold AnsweredCall.effect at start
  split at start
  · split at start
    · cases start
      rfl
    · cases start
  split at start
  · split at start <;> cases start
  split at start
  · split at start
    · split at start <;> cases start
    · cases start
  · cases start

/-- Starts, stops and readings keep the order. -/
theorem Ordered.fold {story : Story F} (h : Ordered story) (codec : Codec F) (historyCap : Nat)
    (call : AnsweredCall) : Ordered (story.fold codec historyCap call) := by
  unfold Story.fold
  cases effect : call.effect codec with
  | none => exact h
  | start tx =>
    have pushed : Ordered { story with
        starts := story.starts + 1
        records := story.records ++ [({ tx, started := story.starts } : Tracked F)] } := by
      refine ⟨?_, fun r mem => ?_, fun r mem stopped => ?_⟩
      · refine List.pairwise_append.mpr ⟨h.ascending, List.pairwise_singleton _ _, fun a mem b last => ?_⟩
        rw [List.mem_singleton.mp last]
        exact h.below a mem
      · rcases List.mem_append.mp mem with old | new
        · exact Nat.lt_succ_of_lt (h.below r old)
        · rw [List.mem_singleton.mp new]
          exact Nat.lt_succ_self _
      · rcases List.mem_append.mp mem with old | new
        · exact h.stops r old stopped
        · rw [List.mem_singleton.mp new] at stopped
          exact absurd ((active_of_start effect).symm.trans stopped) Bool.false_ne_true
    refine pushed.sublist ?_ le_rfl le_rfl
    unfold Story.after
    dsimp only
    split
    · exact List.eraseP_sublist
    · exact List.Sublist.refl _
  | stop req =>
    unfold Story.after
    dsimp only
    split
    · next records found =>
      have stopped := h.update (story.stops + 1) found (fun _ => rfl) (Nat.le_succ _)
        fun r _ _ _ => ⟨story.stops, rfl, Nat.lt_succ_self _⟩
      exact stopped.sublist (drop_sublist _ _) le_rfl le_rfl
    · exact h.sublist (List.Sublist.refl _) le_rfl (Nat.le_succ _)
  | meter id req =>
    unfold Story.after
    dsimp only
    cases found : LastMatch.update (Tracked.names id) (Tracked.metered codec req) story.records with
    | none => exact h
    | some records =>
      refine h.update story.stops found (fun _ => rfl) le_rfl fun r mem named stopped => ?_
      -- a reading goes to an active record and leaves it active
      have running : r.tx.isActive = true := TransactionRecord.isActive_of_names named
      have status := TransactionRecord.isActive_congr (TransactionRecord.meters_spec codec req r.tx).2.2
      have active : ((r.tx.meters codec req).1).isStopped = false := by
        rw [TransactionRecord.isStopped_eq_not, status, running]
        rfl
      exact absurd (active.symm.trans stopped) Bool.false_ne_true

/-- The latest started active record of an id. -/
structure Latest (id : Int) (records : List (Tracked F)) (r : Tracked F) : Prop where
  mem : r ∈ records
  named : r.names id = true
  latest : ∀ x ∈ records, x.names id = true → x.started ≤ r.started

/-- The records with the one of that start changed. -/
def changeAt (n : Nat) (f : Tracked F → Tracked F) (records : List (Tracked F)) : List (Tracked F) :=
  records.map fun x => if x.started = n then f x else x

/-- An update in an ordered list is the change of the latest started record. -/
theorem update_latest {records changed : List (Tracked F)}
    (ascending : records.Pairwise fun a b => a.started < b.started) {id : Int} {f : Tracked F → Tracked F}
    (found : LastMatch.update (Tracked.names id) f records = some changed) :
    ∃ r, Latest id records r ∧ changed = changeAt r.started f records := by
  obtain ⟨front, r, back, rfl, named, none, rfl⟩ := LastMatch.update_eq_some found
  obtain ⟨-, tail, cross⟩ := List.pairwise_append.mp ascending
  have before : ∀ x ∈ front, x.started < r.started := fun x mem => cross x mem r List.mem_cons_self
  have behind : ∀ x ∈ back, r.started < x.started := (List.pairwise_cons.mp tail).1
  refine ⟨r, ⟨by simp, named, fun x mem pass => ?_⟩, ?_⟩
  · rcases List.mem_append.mp mem with inFront | rest
    · exact (before x inFront).le
    · rcases List.mem_cons.mp rest with rfl | inBack
      · exact le_rfl
      · exact absurd ((none x inBack).symm.trans pass) Bool.false_ne_true
  · have left : front.map (fun x => if x.started = r.started then f x else x) = front :=
      (List.map_congr_left fun x mem => if_neg (before x mem).ne).trans (List.map_id'' (fun _ => rfl) front)
    have right : back.map (fun x => if x.started = r.started then f x else x) = back :=
      (List.map_congr_left fun x mem => if_neg (behind x mem).ne').trans (List.map_id'' (fun _ => rfl) back)
    rw [changeAt, List.map_append, List.map_cons, if_pos rfl, left, right]

/-- A record of an id and a start is the only one with that start. -/
theorem Latest.unique {records : List (Tracked F)} (ascending : records.Pairwise fun a b => a.started < b.started)
    {id : Int} {r r' : Tracked F} (h : Latest id records r) (h' : Latest id records r') : r = r' := by
  have same : r.started = r'.started := le_antisymm (h'.latest r h.mem h.named) (h.latest r' h'.mem h'.named)
  have distinct : (records.map (·.started)).Nodup := (List.pairwise_map.mpr ascending).imp fun lt => lt.ne
  exact List.inj_on_of_nodup_map distinct h.mem h'.mem same

/-- What a `StopTransaction` changes: the latest started active record of its id, and stopped records go. -/
def StopChanges (story story' : Story F) (req : StopTransactionRequest) : Prop :=
  ((∀ x ∈ story.records, x.names req.transactionId = false) ∧ story'.records = story.records) ∨
  ∃ r, Latest req.transactionId story.records r ∧
    story'.records.Sublist (changeAt r.started (Tracked.stop req story.stops) story.records) ∧
    ∀ x ∈ changeAt r.started (Tracked.stop req story.stops) story.records, x ∉ story'.records →
      x.isStopped = true

/-- What `MeterValues` change: the latest started active record of their id. -/
def MeterChanges (codec : Codec F) (story story' : Story F) (id : Int) (req : MeterValuesRequest) : Prop :=
  ((∀ x ∈ story.records, x.names id = false) ∧ story'.records = story.records) ∨
  ∃ r, Latest id story.records r ∧
    story'.records = changeAt r.started (Tracked.metered codec req) story.records

theorem stopChanges {story : Story F} (h : Ordered story) (codec : Codec F) (historyCap : Nat)
    (req : StopTransactionRequest) : StopChanges story (story.after codec historyCap (.stop req)) req := by
  unfold StopChanges Story.after
  dsimp only
  cases found : LastMatch.update (Tracked.names req.transactionId) (Tracked.stop req story.stops)
      story.records with
  | none => exact .inl ⟨LastMatch.update_eq_none.mp found, rfl⟩
  | some changed =>
    obtain ⟨r, latest, rfl⟩ := update_latest h.ascending found
    refine .inr ⟨r, latest, drop_sublist _ _, fun x mem gone => ?_⟩
    by_contra running
    exact gone (mem_drop mem running)

theorem meterChanges {story : Story F} (h : Ordered story) (codec : Codec F) (historyCap : Nat) (id : Int)
    (req : MeterValuesRequest) :
    MeterChanges codec story (story.after codec historyCap (.meter id req)) id req := by
  unfold MeterChanges Story.after
  dsimp only
  cases found : LastMatch.update (Tracked.names id) (Tracked.metered codec req) story.records with
  | none => exact .inl ⟨LastMatch.update_eq_none.mp found, rfl⟩
  | some changed =>
    obtain ⟨r, latest, rfl⟩ := update_latest h.ascending found
    exact .inr ⟨r, latest, rfl⟩

end Story

/-! ## Any sequence of answered CALLs -/

/-- A state of a run, with its story: within the bounds, in the order of the starts, and changed by the
next CALL only as it may be. -/
structure StateLaws (codec : Codec F) (historyCap : Nat) (state : ReportedState F) (story : Story F) : Prop where
  bounded : state.Bounded historyCap
  tracked : story.records.map (·.tx) = state.transactions
  ordered : story.Ordered
  stop : ∀ call req, call.effect codec = .stop req →
    story.StopChanges (story.fold codec historyCap call) req ∧
      (story.fold codec historyCap call).records.map (·.tx) = (state.fold codec historyCap call).transactions
  meter : ∀ call id req, call.effect codec = .meter id req →
    story.MeterChanges codec (story.fold codec historyCap call) id req ∧
      (story.fold codec historyCap call).records.map (·.tx) = (state.fold codec historyCap call).transactions
  unchanged : ∀ call : AnsweredCall, call.action ≠ "Heartbeat" →
    (state.apply codec historyCap call.action call.request call.response call.now).2 = false →
    state.fold codec historyCap call = state

/-- Bounds, projection and order along a run. -/
theorem story_run (codec : Codec F) (historyCap : Nat) (calls : List AnsweredCall) :
    (calls.foldl (ReportedState.fold codec historyCap) {}).Bounded historyCap ∧
      ((calls.foldl (Story.fold codec historyCap) {}).records.map (·.tx) =
        (calls.foldl (ReportedState.fold codec historyCap) {}).transactions) ∧
      (calls.foldl (Story.fold codec historyCap) {}).Ordered := by
  induction calls using List.reverseRecOn with
  | nil =>
    exact ⟨⟨Nat.zero_le _, Nat.zero_le _, Nat.zero_le _, Nat.zero_le _, Nat.zero_le _⟩, rfl,
      ⟨List.Pairwise.nil, fun _ mem => absurd mem List.not_mem_nil, fun _ mem => absurd mem List.not_mem_nil⟩⟩
  | append_singleton calls call ih =>
    obtain ⟨bounded, tracked, ordered⟩ := ih
    rw [List.foldl_append, List.foldl_append]
    exact ⟨bounded.fold codec call, Story.fold_projects codec historyCap tracked call,
      ordered.fold codec historyCap call⟩

/-- After any sequence of answered CALLs the laws of the state hold. -/
theorem state_lawful (codec : Codec F) (historyCap : Nat) (calls : List AnsweredCall) :
    StateLaws codec historyCap (calls.foldl (ReportedState.fold codec historyCap) {})
      (calls.foldl (Story.fold codec historyCap) {}) := by
  obtain ⟨bounded, tracked, ordered⟩ := story_run codec historyCap calls
  refine ⟨bounded, tracked, ordered, fun call req effect => ⟨?_, ?_⟩, fun call id req effect => ⟨?_, ?_⟩,
    fun call other flag => ReportedState.apply_false flag other⟩
  · unfold Story.fold
    rw [effect]
    exact Story.stopChanges ordered codec historyCap req
  · exact Story.fold_projects codec historyCap tracked call
  · unfold Story.fold
    rw [effect]
    exact Story.meterChanges ordered codec historyCap id req
  · exact Story.fold_projects codec historyCap tracked call

/-! ## The record of a stop -/

namespace Story

/-- `a` was stopped before `b`. -/
def StoppedBefore (a b : Tracked F) : Prop := ∃ n m, a.stopped = some n ∧ b.stopped = some m ∧ n < m

/-- The record of the stop is there with what the request says, and a record that went to make room was
stopped before every stopped one that is left. -/
structure StopKept (story story' : Story F) (req : StopTransactionRequest) (r : Tracked F) : Prop where
  visible : r.stop req story.stops ∈ story'.records
  earliest : ∀ x ∈ changeAt r.started (Tracked.stop req story.stops) story.records, x.isStopped = true →
    x ∉ story'.records → ∀ y ∈ story'.records, y.isStopped = true → StoppedBefore x y

/-- There is room for one more stopped record, or the first stopped record of the list was started before
`r` and stopped before all others. -/
def FirstIsEarliest (historyCap : Nat) (records : List (Tracked F)) (r : Tracked F) : Prop :=
  records.countP Tracked.isStopped < historyCap ∨
    ∃ first, records.find? Tracked.isStopped = some first ∧ first.started < r.started ∧
      ∀ y ∈ records, y.isStopped = true → y.started ≠ first.started → StoppedBefore first y

/-- In an ordered list the eviction of one record keeps the stopped one, and takes the one that was
stopped first, exactly if the first of the list is that one. -/
theorem stopKept_eraseP {historyCap : Nat} {story : Story F} (h : Ordered story)
    (full : historyCap ≤ story.records.countP Tracked.isStopped) {req : StopTransactionRequest}
    {front back : List (Tracked F)} {r : Tracked F} (split : story.records = front ++ r :: back)
    (named : r.names req.transactionId = true) {story' : Story F}
    (after : story'.records = (front ++ r.stop req story.stops :: back).eraseP Tracked.isStopped)
    (changed : changeAt r.started (Tracked.stop req story.stops) story.records =
      front ++ r.stop req story.stops :: back) :
    StopKept story story' req r ↔ FirstIsEarliest historyCap story.records r := by
  have ascending := h.ascending
  rw [split] at ascending
  obtain ⟨frontOrder, tail, cross⟩ := List.pairwise_append.mp ascending
  have before : ∀ x ∈ front, x.started < r.started := fun x mem => cross x mem r List.mem_cons_self
  have behind : ∀ x ∈ back, r.started < x.started := (List.pairwise_cons.mp tail).1
  have running : r.isStopped = false := by
    have active : r.tx.isActive = true := TransactionRecord.isActive_of_names named
    exact (TransactionRecord.isStopped_eq_not r.tx).trans (by rw [active]; rfl)
  have halted : (r.stop req story.stops).isStopped = true := rfl
  cases first : front.find? Tracked.isStopped with
  | none =>
    -- the stopped record itself is the first one, and goes
    have none : ∀ x ∈ front, ¬x.isStopped = true := List.find?_eq_none.mp first
    rw [List.eraseP_append_right _ none, List.eraseP_cons_of_pos halted] at after
    refine iff_of_false (fun kept => ?_) ?_
    · have mem := kept.visible
      rw [after] at mem
      rcases List.mem_append.mp mem with inFront | inBack
      · exact (before _ inFront).ne rfl
      · exact (behind _ inBack).ne' rfl
    · rintro (room | ⟨x, found, older, -⟩)
      · omega
      · rw [split, List.find?_append, first, Option.none_or, List.find?_cons_of_neg (by simp [running])] at found
        exact absurd (behind x (List.mem_of_find?_eq_some found)) older.not_gt
  | some x =>
    -- an older stopped record goes
    obtain ⟨halts, left, right, rfl, leftRuns⟩ := List.find?_eq_some_iff_append.mp first
    have found : story.records.find? Tracked.isStopped = some x := by
      rw [split, List.find?_append, first, Option.some_or]
    have older : x.started < r.started := before x (by simp)
    have records : story'.records = left ++ right ++ r.stop req story.stops :: back := by
      have leftRuns' : ∀ y ∈ left, ¬y.isStopped = true := fun y mem => by simpa using leftRuns y mem
      rw [after, List.append_assoc, List.eraseP_append_right _ leftRuns', List.cons_append,
        List.eraseP_cons_of_pos halts, List.append_assoc]
    have visible : r.stop req story.stops ∈ story'.records := by simp [records]
    -- the records are told apart by the numbers of their starts
    have apart : ∀ y ∈ left ++ right ++ r :: back, y.started ≠ x.started := by
      have order := ascending
      intro y mem
      have nodup : ((left ++ x :: right ++ r :: back).map (·.started)).Nodup :=
        (List.pairwise_map.mpr order).imp fun lt => lt.ne
      have moved : ((left ++ x :: right ++ r :: back).map (·.started)).Perm
          ((x :: (left ++ right ++ r :: back)).map (·.started)) := by
        refine List.Perm.map _ ?_
        rw [List.append_assoc, List.append_assoc, List.cons_append]
        exact List.perm_middle
      have := (List.nodup_cons.mp (moved.nodup_iff.mp nodup)).1
      exact fun same => this (List.mem_map.mpr ⟨y, mem, same⟩)
    have gone : x ∉ story'.records := by
      intro mem
      rw [records, List.mem_append, List.mem_cons] at mem
      rcases mem with inside | rfl | inBack
      · exact apart x (List.mem_append_left _ inside) rfl
      · exact older.ne rfl
      · exact apart x (List.mem_append_right _ (List.mem_cons_of_mem _ inBack)) rfl
    -- whatever stays was there, or is the record of the stop
    have stays : ∀ y ∈ story'.records, y = r.stop req story.stops ∨
        y ∈ story.records ∧ y.started ≠ x.started := by
      intro y mem
      rw [records, List.mem_append, List.mem_cons] at mem
      rw [split]
      rcases mem with inside | rfl | inBack
      · refine .inr ⟨?_, apart y (List.mem_append_left _ inside)⟩
        rcases List.mem_append.mp inside with inLeft | inRight
        · simp [inLeft]
        · simp [inRight]
      · exact .inl rfl
      · exact .inr ⟨by simp [inBack], apart y (List.mem_append_right _ (List.mem_cons_of_mem _ inBack))⟩
    have member : x ∈ story.records := by simp [split]
    have newest : StoppedBefore x (r.stop req story.stops) := by
      obtain ⟨n, number, lt⟩ := h.stops x member halts
      exact ⟨n, story.stops, number, rfl, lt⟩
    constructor
    · intro kept
      refine .inr ⟨x, found, older, fun y mem stopped other => ?_⟩
      refine kept.earliest x ?_ halts gone y ?_ stopped
      · rw [changed]
        simp
      · rw [split] at mem
        rw [records, List.mem_append, List.mem_cons]
        rcases List.mem_append.mp mem with inFront | rest
        · refine .inl ?_
          rcases List.mem_append.mp inFront with inLeft | rest
          · simp [inLeft]
          · rcases List.mem_cons.mp rest with rfl | inRight
            · exact absurd rfl other
            · simp [inRight]
        · rcases List.mem_cons.mp rest with rfl | inBack
          · exact absurd (running.symm.trans stopped) Bool.false_ne_true
          · exact .inr (.inr inBack)
    · rintro (room | ⟨x', found', -, all⟩)
      · omega
      · obtain rfl : x = x' := Option.some.inj (found.symm.trans found')
        refine ⟨visible, fun z mem stopped lost y inside stoppedY => ?_⟩
        have only : z = x := by
          rw [changed, List.mem_append, List.mem_append, List.mem_cons, List.mem_cons] at mem
          by_contra other
          refine lost ?_
          rw [records, List.mem_append, List.mem_append, List.mem_cons]
          rcases mem with (inLeft | same | inRight) | same | inBack
          · exact .inl (.inl inLeft)
          · exact absurd same other
          · exact .inl (.inr inRight)
          · exact .inr (.inl same)
          · exact .inr (.inr inBack)
        rw [only]
        rcases stays y inside with rfl | ⟨old, other⟩
        · exact newest
        · exact all y old stoppedY other

/-- The record of a stop is kept, and the one stopped first goes for it, exactly if there is room or the
first stopped record of the list is older than it and was stopped first. -/
theorem stopKept_iff {historyCap : Nat} {story : Story F} (h : Ordered story)
    (bounded : story.records.countP Tracked.isStopped ≤ historyCap) {req : StopTransactionRequest}
    {r : Tracked F} (latest : Latest req.transactionId story.records r) (codec : Codec F) :
    StopKept story (story.after codec historyCap (.stop req)) req r ↔
      FirstIsEarliest historyCap story.records r := by
  unfold Story.after
  dsimp only
  cases found : LastMatch.update (Tracked.names req.transactionId) (Tracked.stop req story.stops)
      story.records with
  | none =>
    have absent := LastMatch.update_eq_none.mp found r latest.mem
    exact absurd (absent.symm.trans latest.named) Bool.false_ne_true
  | some records =>
    obtain ⟨r', latest', changed⟩ := update_latest h.ascending found
    obtain rfl := latest.unique h.ascending latest'
    obtain ⟨front, r', back, split, named, none, eq⟩ := LastMatch.update_eq_some found
    have here : r' = r := by
      have mem : r' ∈ story.records := split ▸ by simp
      suffices last : Latest req.transactionId story.records r' from last.unique h.ascending latest
      refine ⟨mem, named, ?_⟩
      obtain ⟨-, tail, cross⟩ := List.pairwise_append.mp (split ▸ h.ascending)
      intro x mem pass
      rw [split] at mem
      rcases List.mem_append.mp mem with inFront | rest
      · exact (cross x inFront r' List.mem_cons_self).le
      · rcases List.mem_cons.mp rest with rfl | inBack
        · exact le_rfl
        · exact absurd ((none x inBack).symm.trans pass) Bool.false_ne_true
    subst here
    have running : r'.isStopped = false := by
      have active : r'.tx.isActive = true := TransactionRecord.isActive_of_names named
      exact (TransactionRecord.isStopped_eq_not r'.tx).trans (by rw [active]; rfl)
    have more : records.countP Tracked.isStopped = story.records.countP Tracked.isStopped + 1 := by
      rw [eq, split, List.countP_append, List.countP_append, List.countP_cons_of_pos rfl,
        List.countP_cons_of_neg (by simp [running])]
      omega
    dsimp only
    by_cases room : story.records.countP Tracked.isStopped < historyCap
    · rw [show records.countP Tracked.isStopped - historyCap = 0 by omega]
      refine iff_of_true ⟨?_, fun x mem _ lost => absurd ?_ lost⟩ (.inl room)
      · change r'.stop req story.stops ∈ records
        rw [eq]
        simp
      · rw [← changed] at mem
        exact mem
    · rw [show records.countP Tracked.isStopped - historyCap = 1 by omega]
      exact stopKept_eraseP h (Nat.le_of_not_lt room) split named
        (by rw [eq]; rfl) (changed.symm.trans eq)

end Story

/-- In every run, a `StopTransaction` naming an active transaction leaves its record, and evicts the one
stopped first, exactly if there is room or the first stopped record of the list is older than it and was
stopped first. -/
theorem stopped_kept_iff (codec : Codec F) (historyCap : Nat) (calls : List AnsweredCall) (call : AnsweredCall)
    (req : StopTransactionRequest) (r : Tracked F) (stop : call.effect codec = .stop req)
    (latest : Story.Latest req.transactionId (calls.foldl (Story.fold codec historyCap) {}).records r) :
    ((calls ++ [call]).foldl (Story.fold codec historyCap) {}).records.map (·.tx) =
        ((calls ++ [call]).foldl (ReportedState.fold codec historyCap) {}).transactions ∧
      (Story.StopKept (calls.foldl (Story.fold codec historyCap) {})
          ((calls ++ [call]).foldl (Story.fold codec historyCap) {}) req r ↔
        Story.FirstIsEarliest historyCap (calls.foldl (Story.fold codec historyCap) {}).records r) := by
  obtain ⟨bounded, tracked, ordered⟩ := story_run codec historyCap calls
  obtain ⟨-, tracked', -⟩ := story_run codec historyCap (calls ++ [call])
  refine ⟨tracked', ?_⟩
  have few : (calls.foldl (Story.fold codec historyCap) {}).records.countP Tracked.isStopped ≤ historyCap := by
    have := bounded.stopped
    rwa [← tracked, Story.countP_map_tx] at this
  rw [List.foldl_append, List.foldl_cons, List.foldl_nil]
  have step := Story.stopKept_iff ordered few latest codec
  unfold Story.fold at step ⊢
  rw [stop]
  exact step

/-! ### Two transactions that stop in the other order -/

/-- The timestamp of the samples. -/
def epoch : Json := .string "1970-01-01T00:00:00.000Z"

def sampleStart (id : Int) : AnsweredCall where
  action := "StartTransaction"
  request := .object [("connectorId", .integer 1), ("idTag", .string "T"), ("meterStart", .integer 10),
    ("timestamp", epoch)]
  response := .object [("transactionId", .integer id), ("idTagInfo", .object [("status", .string "Accepted")])]
  now := 0

def sampleStop (id : Int) : AnsweredCall where
  action := "StopTransaction"
  request := .object [("transactionId", .integer id), ("meterStop", .integer 99), ("timestamp", epoch)]
  response := .object []
  now := 0

/-- The messages of the samples, as they decode. -/
def sampleCodec : Codec Unit where
  bootNotification := fun _ => none
  bootNotificationResponse := fun _ => none
  statusNotification := fun _ => none
  startTransaction
    | .object [("connectorId", .integer connector), ("idTag", .string "T"), ("meterStart", .integer meterStart),
        ("timestamp", .string "1970-01-01T00:00:00.000Z")] =>
      some { connectorId := connector.toNat, idTag := { chars := ['T'] }, meterStart, timestamp := 0 }
    | _ => none
  startTransactionResponse
    | .object [("transactionId", .integer transactionId),
        ("idTagInfo", .object [("status", .string "Accepted")])] =>
      some { transactionId, idTagInfo := { status := .accepted } }
    | _ => none
  stopTransaction
    | .object [("transactionId", .integer transactionId), ("meterStop", .integer meterStop),
        ("timestamp", .string "1970-01-01T00:00:00.000Z")] =>
      some { transactionId, meterStop, timestamp := 0, reason := none }
    | _ => none
  meterValues := fun _ => none
  diagnosticsStatus := fun _ => none
  firmwareStatus := fun _ => none
  securityEvent := fun _ => none
  logStatus := fun _ => none
  signedFirmwareStatus := fun _ => none
  signCertificate := fun _ => none
  parse := fun _ => none
  thousand := id

/-- The record of a sample start. -/
def sampleRecord (id : Int) : TransactionRecord Unit where
  id := id
  connector := 1
  idTag := { chars := ['T'] }
  idTagStatus := .accepted
  meterStart := 10
  startedAt := 0

def sampleStopRequest (id : Int) : StopTransactionRequest where
  transactionId := id
  meterStop := 99
  timestamp := 0
  reason := none

/-- Two starts, then the stop of the second. -/
def sampleCalls : List AnsweredCall := [sampleStart 1, sampleStart 2, sampleStop 2]

theorem sampleCalls_records : (sampleCalls.foldl (Story.fold sampleCodec 1) {}).records =
    [{ tx := sampleRecord 1, started := 0 },
      { tx := (sampleRecord 2).stop (sampleStopRequest 2), started := 1, stopped := some 0 }] := rfl

theorem sampleCalls_latest : Story.Latest (sampleStopRequest 1).transactionId
    (sampleCalls.foldl (Story.fold sampleCodec 1) {}).records { tx := sampleRecord 1, started := 0 } := by
  rw [sampleCalls_records]
  refine ⟨List.mem_cons_self, rfl, fun x mem named => ?_⟩
  rcases List.mem_cons.mp mem with rfl | mem
  · exact le_rfl
  · obtain rfl := List.mem_singleton.mp mem
    cases named

/-- One place, two transactions: the stop of the second one keeps its record when the first has stopped before it, and
the stop of the first one is lost when the second has. -/
theorem stopped_kept_iff_orders :
    let inOrder := [sampleStart 1, sampleStart 2, sampleStop 1]
    Story.StopKept (inOrder.foldl (Story.fold sampleCodec 1) {})
        ((inOrder ++ [sampleStop 2]).foldl (Story.fold sampleCodec 1) {}) (sampleStopRequest 2)
        { tx := sampleRecord 2, started := 1 } ∧
      ¬Story.StopKept (sampleCalls.foldl (Story.fold sampleCodec 1) {})
        ((sampleCalls ++ [sampleStop 1]).foldl (Story.fold sampleCodec 1) {}) (sampleStopRequest 1)
        { tx := sampleRecord 1, started := 0 } := by
  intro inOrder
  have records : (inOrder.foldl (Story.fold sampleCodec 1) {}).records =
      [{ tx := (sampleRecord 1).stop (sampleStopRequest 1), started := 0, stopped := some 0 },
        { tx := sampleRecord 2, started := 1 }] := rfl
  constructor
  · refine (stopped_kept_iff sampleCodec 1 inOrder (sampleStop 2) (sampleStopRequest 2)
      { tx := sampleRecord 2, started := 1 } rfl ?_).2.mpr ?_
    · rw [records]
      refine ⟨List.mem_cons_of_mem _ List.mem_cons_self, rfl, fun x mem named => ?_⟩
      rcases List.mem_cons.mp mem with rfl | mem
      · cases named
      · exact (congrArg Tracked.started (List.mem_singleton.mp mem)).le
    · rw [records]
      refine .inr ⟨_, rfl, Nat.zero_lt_one, fun y mem stopped apart => ?_⟩
      rcases List.mem_cons.mp mem with rfl | mem
      · exact absurd rfl apart
      · obtain rfl := List.mem_singleton.mp mem
        cases stopped
  · rw [(stopped_kept_iff sampleCodec 1 sampleCalls (sampleStop 1) (sampleStopRequest 1)
      { tx := sampleRecord 1, started := 0 } rfl sampleCalls_latest).2, sampleCalls_records]
    rintro (room | ⟨first, found, older, -⟩)
    · cases room with
      | step less => cases less
    · obtain rfl := Option.some.inj found
      cases older

/-- With one place, the transaction that started first and stops last evicts its own record. -/
theorem stopped_vanishes :
    ¬(∀ (codec : Codec Unit) (historyCap : Nat) (calls : List AnsweredCall) (call : AnsweredCall)
      (req : StopTransactionRequest) (r : Tracked Unit), 1 ≤ historyCap → call.effect codec = .stop req →
      Story.Latest req.transactionId (calls.foldl (Story.fold codec historyCap) {}).records r →
      Story.StopKept (calls.foldl (Story.fold codec historyCap) {})
        ((calls ++ [call]).foldl (Story.fold codec historyCap) {}) req r) := by
  intro keeps
  have kept := (keeps sampleCodec 1 sampleCalls (sampleStop 1) (sampleStopRequest 1)
    { tx := sampleRecord 1, started := 0 } le_rfl rfl sampleCalls_latest).visible
  have records : ((sampleCalls ++ [sampleStop 1]).foldl (Story.fold sampleCodec 1) {}).records =
      [{ tx := (sampleRecord 2).stop (sampleStopRequest 2), started := 1, stopped := some 0 }] := rfl
  rw [records] at kept
  have same := congrArg Tracked.started (List.mem_singleton.mp kept)
  exact absurd same (by decide)

end KirbyOcpp.Csms
