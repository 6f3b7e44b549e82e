import KirbyOcpp.Laws.Station.Sync

/-!
# The offline sync delivers in order: `run_sync`, `sync_entry`, `sync_stop`

A sync takes the keys of the queue as they are when it begins. It sends the messages of one entry after those of
the entries before it, and the start of an entry before its stop.
-/

namespace KirbyOcpp

open Paths Relation

variable {allow : Allow} {l l' : Ledger}

/-! ## The messages of a sync -/

/-- A message of a sync: the start or the stop of the entry `key`. -/
inductive SyncMessage where
  | start (key : Nat)
  | stop (key : Nat)
deriving DecidableEq

namespace SyncMessage

def key : SyncMessage → Nat
  | .start key | .stop key => key

/-- The messages of an entry. -/
def both (key : Nat) : List SyncMessage := [.start key, .stop key]

/-- The messages of an entry up to this one. -/
def upTo : SyncMessage → List SyncMessage
  | .start key => [.start key]
  | .stop key => both key

theorem upTo_sublist (message : SyncMessage) : message.upTo.Sublist (both message.key) := by
  cases message with
  | start key => exact List.Sublist.cons_cons _ (List.nil_sublist _)
  | stop key => exact .refl _

theorem singleton_sublist_upTo (message : SyncMessage) : [message].Sublist message.upTo := by
  cases message with
  | start key => exact .refl _
  | stop key => exact .cons _ (.refl _)

end SyncMessage

/-- The message whose answer a continuation of the sync takes. -/
def Cont.syncMessage? : Cont → Option SyncMessage
  | .syncStart key => some (.start key)
  | .syncStop key _ => some (.stop key)
  | _ => none

/-- How far the sync is with the entry in the hand. -/
def Hand.syncMessage? : Hand → Option SyncMessage
  | .slotOpened key _ | .slotReady key => some (.start key)
  | .slot key | .slotStopped key _ | .refused key true => some (.stop key)
  | _ => Option.none

/-- A sync: the keys it began with, the keys of the queue at that time, and the messages it has sent. -/
structure SyncRun where
  keys : List Nat
  queue : List Nat
  sent : List SyncMessage

/-- What a CALL of the sync adds; a CALL before the first sync would belong to a sync of no entries. -/
def addMessage (message : SyncMessage) : List SyncRun → List SyncRun
  | [] => [{ keys := [], queue := [], sent := [message] }]
  | sync :: earlier => { sync with sent := sync.sent ++ [message] } :: earlier

/-- The syncs that a history tells about, the latest first. -/
def syncsOf : List Event → List SyncRun
  | [] => []
  | .syncStarted _ keys queue :: history => { keys, queue, sent := [] } :: syncsOf history
  | .called call :: history =>
    match call.continuation.syncMessage? with
    | some message => addMessage message (syncsOf history)
    | none => syncsOf history
  | _ :: history => syncsOf history

/-- The sync has sent messages of its entries only, in the order of the queue, and the start of an entry before
its stop. -/
structure SyncRun.InOrder (sync : SyncRun) : Prop where
  keys : sync.keys.Sublist sync.queue
  sent : sync.sent.Sublist (sync.keys.flatMap SyncMessage.both)

/-- How far the sync is with the entries that it works on. -/
def Ledger.messages (l : Ledger) : List SyncMessage :=
  l.hand.syncMessage?.toList ++ l.open.filterMap (·.continuation.syncMessage?)

/-- The latest sync is at the entry of `message`. -/
def At (syncs : List SyncRun) (message : SyncMessage) (left : List Nat) : Prop :=
  ∃ done, ∃ sync earlier, syncs = sync :: earlier ∧ (done ++ message.key :: left).Sublist sync.keys ∧
    sync.sent.Sublist (done.flatMap SyncMessage.both ++ message.upTo)

/-- The latest sync is between two entries. -/
def Between (syncs : List SyncRun) (left : List Nat) : Prop :=
  ∃ done, ∃ sync earlier, syncs = sync :: earlier ∧ (done ++ left).Sublist sync.keys ∧
    sync.sent.Sublist (done.flatMap SyncMessage.both)

/-- The syncs so far are in order, and it is known how far the latest one is. -/
structure Sequenced (l : Ledger) : Prop where
  all : ∀ sync ∈ syncsOf l.history, sync.InOrder
  here : ∀ message ∈ l.messages, At (syncsOf l.history) message l.syncKeys
  between : l.hand = .sync → Between (syncsOf l.history) l.syncKeys

/-! ## One entry after the other -/

variable {syncs : List SyncRun} {message : SyncMessage} {keys fewer : List Nat}

theorem At.drop (h : At syncs message keys) (less : fewer.Sublist keys) : At syncs message fewer := by
  obtain ⟨done, sync, earlier, eq, within, sent⟩ := h
  exact ⟨done, sync, earlier, eq, ((less.cons_cons _).append_left done).trans within, sent⟩

/-- Further on in the same entry. -/
theorem At.on (h : At syncs message keys) {next : SyncMessage} (same : next.key = message.key)
    (further : message.upTo.Sublist next.upTo) : At syncs next keys := by
  obtain ⟨done, sync, earlier, eq, within, sent⟩ := h
  refine ⟨done, sync, earlier, eq, ?_, sent.trans (further.append_left _)⟩
  rw [same]
  exact within

/-- The entry is released. -/
theorem At.release (h : At syncs message keys) : Between syncs keys := by
  obtain ⟨done, sync, earlier, eq, within, sent⟩ := h
  refine ⟨done ++ [message.key], sync, earlier, eq, ?_, ?_⟩
  · rw [List.append_assoc]
    exact within
  · rw [List.flatMap_append, List.flatMap_singleton]
    exact sent.trans (message.upTo_sublist.append_left _)

theorem Between.drop (h : Between syncs keys) (less : fewer.Sublist keys) : Between syncs fewer := by
  obtain ⟨done, sync, earlier, eq, within, sent⟩ := h
  exact ⟨done, sync, earlier, eq, (less.append_left done).trans within, sent⟩

/-- The next message goes out. -/
theorem Between.send (h : Between syncs (message.key :: keys)) : At (addMessage message syncs) message keys := by
  obtain ⟨done, sync, earlier, rfl, within, sent⟩ := h
  exact ⟨done, _, earlier, rfl, within, sent.append message.singleton_sublist_upTo⟩

/-- The stop goes out after the start. -/
theorem At.send {key : Nat} (h : At syncs (.start key) keys) : At (addMessage (.stop key) syncs) (.stop key) keys := by
  obtain ⟨done, sync, earlier, rfl, within, sent⟩ := h
  refine ⟨done, _, earlier, rfl, within, ?_⟩
  have both := sent.append (List.Sublist.refl [SyncMessage.stop key])
  rw [List.append_assoc] at both
  exact both

/-- A sync that is under way keeps its order with the message that goes out. -/
theorem At.inOrder (h : At syncs message keys) (all : ∀ sync ∈ syncs.tail, sync.InOrder)
    (queue : ∀ sync ∈ syncs.head?, sync.keys.Sublist sync.queue) : ∀ sync ∈ syncs, sync.InOrder := by
  obtain ⟨done, sync, earlier, rfl, within, sent⟩ := h
  intro other mem
  rcases List.mem_cons.mp mem with rfl | old
  · refine ⟨queue other rfl, ?_⟩
    have entries : (done.flatMap SyncMessage.both ++ message.upTo).Sublist
        ((done ++ message.key :: keys).flatMap SyncMessage.both) := by
      rw [List.flatMap_append, List.flatMap_cons]
      exact (message.upTo_sublist.trans (List.sublist_append_left _ _)).append_left _
    exact (sent.trans entries).trans (within.flatMap _)
  · exact all other old

/-! ## What a transition does to the sync -/

theorem syncMessage?_of_neutral {continuation : Cont} (h : continuation.isNeutral = true) :
    continuation.syncMessage? = none := by
  cases continuation with
  | syncStart => cases h
  | syncStop => cases h
  | _ => rfl

theorem syncMessage?_of_stopOf {e : OfflineTx} {request : Request} {cont : Cont}
    (message : Actor.stopOf e = some (request, cont)) : cont.syncMessage? = some (.stop e.key) := by
  unfold Actor.stopOf at message
  split at message
  · obtain ⟨-, rfl⟩ := Prod.mk.inj (Option.some.inj message)
    rfl
  · cases message

/-- The answer to a message of the sync leaves the sync at the entry. -/
theorem syncMessage?_ofResult {continuation : Cont} {result : CallResult} {next : SyncMessage}
    (h : (Hand.ofResult continuation result).syncMessage? = some next) :
    ∃ message, continuation.syncMessage? = some message ∧ next.key = message.key ∧
      message.upTo.Sublist next.upTo := by
  unfold Hand.ofResult at h
  cases continuation with
  | syncStart key =>
    refine ⟨.start key, rfl, ?_⟩
    dsimp only at h
    split at h
    · obtain rfl := Option.some.inj h
      exact ⟨rfl, .refl _⟩
    · obtain rfl := Option.some.inj h
      exact ⟨rfl, SyncMessage.upTo_sublist (.start key)⟩
  | syncStop key info =>
    refine ⟨.stop key, rfl, ?_⟩
    dsimp only at h
    split at h <;> (obtain rfl := Option.some.inj h; exact ⟨rfl, .refl _⟩)
  | _ =>
    dsimp only at h
    repeat' split at h
    all_goals cases h

theorem messages_keys (l : Ledger) : l.messages.map SyncMessage.key = l.slots := by
  have hand : l.hand.syncMessage?.toList.map SyncMessage.key = l.hand.syncKey?.toList := by
    cases l.hand with
    | refused session sync => cases sync <;> rfl
    | _ => rfl
  have cont (continuation : Cont) : continuation.syncMessage?.map SyncMessage.key = continuation.syncKey? := by
    cases continuation <;> rfl
  unfold Ledger.messages Ledger.slots Ledger.pendingKeys
  rw [List.map_append, hand, List.map_filterMap]
  simp only [cont]

theorem messages_of_slots (h : l.slots = []) : l.messages = [] :=
  List.map_eq_nil_iff.mp ((messages_keys l).trans h)

theorem messages_accept (l : Ledger) (call : PendingCall) :
    (l.accept call).messages = l.messages ++ call.continuation.syncMessage?.toList := by
  unfold Ledger.messages Ledger.open Ledger.accept
  dsimp only
  rw [← List.append_assoc l.rest, List.filterMap_append, ← List.append_assoc]
  cases h : call.continuation.syncMessage? <;> simp [h]

theorem syncsOf_push (l : Ledger) (entry : OfflineTx) : syncsOf (l.push entry).history = syncsOf l.history := by
  unfold Ledger.push
  cases (OfflineQueue.push l.queue entry).2 <;> rfl

/-- What a transition does to the sync. -/
inductive SyncMove (l l' : Ledger) : Prop
  | aside (syncs : syncsOf l'.history = syncsOf l.history) (fewer : l'.syncKeys.Sublist l.syncKeys)
      (messages : ∀ next ∈ l'.messages, ∃ message ∈ l.messages, next.key = message.key ∧
        message.upTo.Sublist next.upTo)
      (hand : l'.hand = .sync → l.hand = .sync)
  | began (keys queue : List Nat)
      (syncs : syncsOf l'.history = { keys, queue, sent := [] } :: syncsOf l.history)
      (ordered : keys.Sublist queue) (next : l'.syncKeys = keys) (messages : l'.messages = [])
  | released (message : SyncMessage) (mem : message ∈ l.messages) (syncs : syncsOf l'.history = syncsOf l.history)
      (keys : l'.syncKeys = l.syncKeys) (messages : l'.messages = [])
  | sentNext (message : SyncMessage) (hand : l.hand = .sync) (next : l.syncKeys = message.key :: l'.syncKeys)
      (syncs : syncsOf l'.history = addMessage message (syncsOf l.history)) (messages : l'.messages = [message])
      (after : l'.hand = .none)
  | sentStop (key : Nat) (mem : .start key ∈ l.messages) (keys : l'.syncKeys = l.syncKeys)
      (syncs : syncsOf l'.history = addMessage (.stop key) (syncsOf l.history)) (messages : l'.messages = [.stop key])
      (after : l'.hand = .none)

theorem SyncMove.same (syncs : syncsOf l'.history = syncsOf l.history) (keys : l'.syncKeys = l.syncKeys)
    (messages : l'.messages = l.messages) (hand : l'.hand = .sync → l.hand = .sync) : SyncMove l l' :=
  .aside syncs (keys ▸ .refl _) (fun next mem => ⟨next, messages ▸ mem, rfl, .refl _⟩) hand

/-- The entry whose start was answered goes on to its stop. -/
theorem SyncMove.stopped (syncs : syncsOf l'.history = syncsOf l.history) (keys : l'.syncKeys = l.syncKeys)
    {key : Nat} (start : l.hand.syncMessage? = some (.start key)) (stop : l'.hand.syncMessage? = some (.stop key))
    (flying : l'.open = l.open) (hand : l'.hand = .sync → l.hand = .sync) : SyncMove l l' := by
  refine .aside syncs (keys ▸ .refl _) (fun next mem => ?_) hand
  unfold Ledger.messages at mem
  rw [stop, flying] at mem
  rcases List.mem_append.mp mem with answered | flies
  · obtain rfl := List.mem_singleton.mp answered
    refine ⟨.start key, List.mem_append_left _ ?_, rfl, SyncMessage.upTo_sublist (.start key)⟩
    rw [start]
    exact List.mem_cons_self
  · exact ⟨next, List.mem_append_right _ flies, rfl, .refl _⟩

theorem Sequenced.move (h : Sequenced l) (step : SyncMove l l') : Sequenced l' := by
  have ordered {sync : SyncRun} {earlier : List SyncRun} (eq : syncsOf l.history = sync :: earlier) :
      sync.keys.Sublist sync.queue ∧ ∀ other ∈ earlier, other.InOrder :=
    ⟨(h.all sync (eq ▸ List.mem_cons_self)).keys, fun other mem => h.all other (eq ▸ List.mem_cons_of_mem _ mem)⟩
  have added {message : SyncMessage} {keys : List Nat} (at' : At (addMessage message (syncsOf l.history)) message keys) :
      ∀ sync ∈ addMessage message (syncsOf l.history), sync.InOrder := by
    refine at'.inOrder ?_ ?_
    · cases eq : syncsOf l.history with
      | nil => exact nofun
      | cons sync earlier => exact (ordered eq).2
    · cases eq : syncsOf l.history with
      | nil =>
        intro sync mem
        obtain rfl := Option.some.inj mem
        exact List.nil_sublist _
      | cons sync earlier =>
        intro other mem
        obtain rfl := Option.some.inj mem
        exact (ordered eq).1
  cases step with
  | aside syncs fewer messages hand =>
    refine ⟨syncs ▸ h.all, fun next mem => ?_, fun going => ?_⟩
    · obtain ⟨message, old, key, further⟩ := messages next mem
      rw [syncs]
      exact ((h.here message old).drop fewer).on key further
    · rw [syncs]
      exact (h.between (hand going)).drop fewer
  | began keys queue syncs sorted next messages =>
    refine ⟨fun sync mem => ?_, fun message mem => ?_, fun _ => ?_⟩
    · rw [syncs] at mem
      rcases List.mem_cons.mp mem with rfl | old
      · exact ⟨sorted, List.nil_sublist _⟩
      · exact h.all sync old
    · rw [messages] at mem
      cases mem
    · rw [syncs, next]
      exact ⟨[], _, _, rfl, .refl _, .refl _⟩
  | released message mem syncs keys messages =>
    refine ⟨syncs ▸ h.all, fun next mem => ?_, fun _ => ?_⟩
    · rw [messages] at mem
      cases mem
    · rw [syncs, keys]
      exact (h.here message mem).release
  | sentNext message hand next syncs messages after =>
    have between := h.between hand
    rw [next] at between
    have sent := between.send
    refine ⟨syncs ▸ added sent, fun other mem => ?_, fun going => ?_⟩
    · rw [messages, List.mem_singleton] at mem
      rw [mem, syncs]
      exact sent
    · rw [after] at going
      cases going
  | sentStop key mem keys syncs messages after =>
    have sent := (h.here _ mem).send
    refine ⟨syncs ▸ added sent, fun other mem => ?_, fun going => ?_⟩
    · rw [messages, List.mem_singleton] at mem
      rw [mem, syncs, keys]
      exact sent
    · rw [after] at going
      cases going

theorem syncsOf_called (call : PendingCall) (history : List Event) :
    syncsOf (.called call :: history) =
      match call.continuation.syncMessage? with
      | some message => addMessage message (syncsOf history)
      | none => syncsOf history := rfl

/-- A CALL that is none of the sync's. -/
theorem syncsOf_foreign {call : PendingCall} (none : call.continuation.syncMessage? = none) :
    syncsOf (l.accept call).history = syncsOf l.history := by
  change syncsOf (.called call :: l.history) = _
  rw [syncsOf_called, none]

/-- A CALL of the sync. -/
theorem syncsOf_own {call : PendingCall} (some : call.continuation.syncMessage? = some message) :
    syncsOf (l.accept call).history = addMessage message (syncsOf l.history) := by
  change syncsOf (.called call :: l.history) = _
  rw [syncsOf_called, some]

namespace SyncMove

variable {call : PendingCall} {key : Nat} {keys : List Nat}

/-! ### One transition -/

/-- The hand is at the same message as before. -/
theorem keep (syncs : syncsOf l'.history = syncsOf l.history) (keys : l'.syncKeys = l.syncKeys)
    (flying : l'.open = l.open) {before : Hand} (is : l.hand = before)
    (message : l'.hand.syncMessage? = before.syncMessage?) (hand : l'.hand = .sync → l.hand = .sync) : SyncMove l l' := by
  refine .same syncs keys ?_ hand
  unfold Ledger.messages
  rw [message, flying, is]

/-- A CALL that is none of the sync's goes out from the hand. -/
theorem send {before after : Hand} (is : l.hand = before) (foreign : call.continuation.syncMessage? = none)
    (message : after.syncMessage? = before.syncMessage?) (other : after ≠ .sync) :
    SyncMove l { l.accept call with hand := after } := by
  refine .same (syncsOf_foreign foreign) rfl ?_ fun going => absurd going other
  have messages := messages_accept { l with hand := after } call
  rw [foreign] at messages
  refine (messages.trans (List.append_nil _)).trans ?_
  unfold Ledger.messages
  dsimp only
  rw [message, is]
  rfl

/-- A CALL that is none of the sync's goes out from elsewhere. -/
theorem foreign (foreign : call.continuation.syncMessage? = none) (history : l'.history = (l.accept call).history)
    (keys : l'.syncKeys = l.syncKeys) (flying : l'.open = (l.accept call).open) (hand : l'.hand = l.hand) :
    SyncMove l l' := by
  refine .same ((congrArg syncsOf history).trans (syncsOf_foreign foreign)) keys ?_ fun going => hand ▸ going
  have messages := messages_accept l call
  rw [foreign] at messages
  refine .trans ?_ (messages.trans (List.append_nil _))
  unfold Ledger.messages
  rw [hand, flying]
  rfl

/-- CALLs and keys are gone. -/
theorem shrink (syncs : syncsOf l'.history = syncsOf l.history) (keys : l'.syncKeys.Sublist l.syncKeys)
    (open' : ∀ call ∈ l'.open, call ∈ l.open) (hand : l'.hand = l.hand) : SyncMove l l' := by
  refine .aside syncs keys (fun next mem => ⟨next, ?_, rfl, .refl _⟩) fun going => hand ▸ going
  rcases List.mem_append.mp mem with held | flies
  · rw [hand] at held
    exact List.mem_append_left _ held
  · obtain ⟨other, mem, own⟩ := List.mem_filterMap.mp flies
    exact List.mem_append_right _ (List.mem_filterMap.mpr ⟨other, open' other mem, own⟩)

/-- A CALL is completed: its message goes over to the hand. -/
theorem take (result : CallResult) (syncs : syncsOf l'.history = syncsOf l.history) (keys : l'.syncKeys = l.syncKeys)
    (mem : call ∈ l.open) (open' : ∀ other ∈ l'.open, other ∈ l.open)
    (hand : l'.hand = .ofResult call.continuation result) : SyncMove l l' := by
  refine .aside syncs (keys ▸ .refl _) (fun next held => ?_)
    fun going => absurd (hand.symm.trans going) (ofResult_ne_sync _ _)
  rcases List.mem_append.mp held with answered | flies
  · rw [hand] at answered
    obtain ⟨message, own, key, further⟩ := syncMessage?_ofResult (Option.mem_toList.mp answered)
    exact ⟨message, List.mem_append_right _ (List.mem_filterMap.mpr ⟨call, mem, own⟩), key, further⟩
  · obtain ⟨other, flies, own⟩ := List.mem_filterMap.mp flies
    exact ⟨next, List.mem_append_right _ (List.mem_filterMap.mpr ⟨other, open' other flies, own⟩), rfl, .refl _⟩

/-- The first key that is left goes out. -/
theorem sendNext (h : Counted l) (hand : l.hand = .sync) (next : l.syncKeys = key :: keys)
    (kind : call.continuation.syncMessage? = some message) (own : message.key = key) :
    SyncMove l { l.accept call with syncKeys := keys, hand := .none } := by
  have none : l.open.filterMap (·.continuation.syncMessage?) = [] :=
    (List.append_eq_nil_iff.mp (messages_of_slots (h.free hand))).2
  refine .sentNext message hand (by rw [own]; exact next) (syncsOf_own kind) ?_ rfl
  have messages := messages_accept { l with hand := .none } call
  rw [kind] at messages
  refine messages.trans ?_
  change (([] : List SyncMessage) ++ l.open.filterMap _) ++ [message] = [message]
  rw [none]
  rfl

/-- The stop follows the answered start. -/
theorem sendReady (h : Counted l) (hand : l.hand = .slotReady key)
    (kind : call.continuation.syncMessage? = some (.stop key)) :
    SyncMove l { l.accept call with hand := .none } := by
  have mem : SyncMessage.start key ∈ l.messages := by
    unfold Ledger.messages
    rw [hand]
    exact List.mem_cons_self
  have none : l.open.filterMap (·.continuation.syncMessage?) = [] := by
    have one := h.one
    rw [← messages_keys, List.length_map] at one
    unfold Ledger.messages at one
    rw [hand, List.length_append] at one
    exact List.filterMap_eq_nil_iff.mpr (by simpa [Hand.syncMessage?] using one)
  refine .sentStop key mem rfl (syncsOf_own kind) ?_ rfl
  have messages := messages_accept { l with hand := .none } call
  rw [kind] at messages
  refine messages.trans ?_
  change (([] : List SyncMessage) ++ l.open.filterMap _) ++ [.stop key] = [.stop key]
  rw [none]
  rfl

/-- The entry in the hand is done. -/
theorem release (h : Counted l) (hand : l.hand = .slot key ∨ l.hand = .slotReady key) :
    SyncMove l { l with hand := .sync, syncOutstanding := l.syncOutstanding - 1 } := by
  obtain ⟨message, mem⟩ : ∃ message, message ∈ l.messages := by
    unfold Ledger.messages
    rcases hand with hand | hand
    · exact ⟨.stop key, by rw [hand]; exact List.mem_cons_self⟩
    · exact ⟨.start key, by rw [hand]; exact List.mem_cons_self⟩
  exact .released message mem rfl rfl (messages_of_slots ((h.release hand).free rfl))

theorem quiet (step : QuietStep l l') : SyncMove l l' := by
  cases step with
  | note event neutral =>
    refine .same ?_ rfl rfl id
    cases event with
    | replied => rfl
    | responded => rfl
    | _ => cases neutral
  | send call sends neutral => exact foreign (syncMessage?_of_neutral neutral) rfl rfl rfl rfl
  | sendEvent call sends event events queue cont => exact foreign (by rw [cont]; rfl) rfl rfl rfl rfl
  | _ => exact .same rfl rfl rfl id

end SyncMove

theorem SyncMove.step (step : Trans allow l l') (h : Counted l) : SyncMove l l' := by
  cases step with
  | quiet step => exact .quiet step
  | takeCall call result hand rest running found =>
    refine .take result rfl rfl (List.mem_append_right _ (List.mem_of_find?_eq_some found)) (fun other mem => ?_) rfl
    exact (List.mem_append.mp mem).elim (List.mem_append_left _)
      fun kept => List.mem_append_right _ (List.mem_of_mem_filter kept)
  | takeRest call rest error hand head =>
    refine .take (.error error) rfl rfl ?_ (fun other mem => ?_) rfl
    · rw [Ledger.open, head]
      exact List.mem_cons_self
    · rw [Ledger.open, head]
      exact List.mem_cons_of_mem _ mem
  | abandon call found sample =>
    refine .shrink rfl (.refl _) (fun other mem => ?_) rfl
    exact (List.mem_append.mp mem).elim (List.mem_append_left _)
      fun kept => List.mem_append_right _ (List.mem_of_mem_filter kept)
  | requeue event hand => exact .keep rfl rfl rfl hand rfl (by simp)
  | openStart id c pending hand => exact .keep rfl rfl rfl hand rfl (by simp)
  | sendStart id pending call done hand sends cont => exact .send hand (by rw [cont]; rfl) rfl (by simp)
  | charge id pending c hand => exact .keep rfl rfl rfl hand rfl (by simp)
  | queueStart id pending entry hand => exact .keep (syncsOf_push l entry) rfl rfl hand rfl (by simp)
  | abandonStart id localId c hand => exact .keep rfl rfl rfl hand rfl (by simp)
  | loseStart id localId hand => exact .keep rfl rfl rfl hand rfl (by simp)
  | activate id localId transactionId c active hand => exact .keep rfl rfl rfl hand rfl (by simp)
  | refuseOpened id localId transactionId c hand => exact .keep rfl rfl rfl hand rfl (by simp)
  | refuseLost id localId transactionId hand => exact .keep rfl rfl rfl hand rfl (by simp)
  | sendClose session sync call hand sends cont =>
    cases sync <;> exact .send hand (by rw [cont]; rfl) rfl (by simp)
  | skipClose session sync hand => cases sync <;> exact .keep rfl rfl rfl hand rfl (by simp)
  | beginStop id c tx info f hand => exact .keep rfl rfl rfl hand rfl (by simp)
  | markStopping id tx info stopping c hand => exact .keep rfl rfl rfl hand rfl (by simp)
  | sendStop id tx tag startedAt meterStartWh info done call wire hand sends cont =>
    exact .send hand (by rw [cont]; rfl) rfl (by simp)
  | queueStop id tx info e hand =>
    rcases hand with hand | hand <;> exact .keep rfl rfl rfl hand rfl (by simp)
  | queueNewStop id tx info entry hand =>
    rcases hand with hand | hand <;> exact .keep (syncsOf_push (l.update id _) entry) rfl rfl hand rfl (by simp)
  | confirmStop id tx info hand => exact .keep rfl rfl rfl hand rfl (by simp)
  | beginSync boot keys hand conn free some ordered =>
    exact .began keys (l.queue.map (·.key)) rfl ordered rfl (messages_of_slots ((h.beginSync hand conn free).free rfl))
  | sendNext key keys e request cont call hand next sends found message sent continuation =>
    have same : e.key = key := by simpa using List.find?_some found
    rcases message with ⟨-, start⟩ | ⟨-, stop⟩
    · obtain ⟨-, rfl⟩ := Prod.mk.inj start
      have kind : call.continuation.syncMessage? = some (.start e.key) := by rw [continuation]; rfl
      exact .sendNext h hand next kind same
    · have kind : call.continuation.syncMessage? = some (.stop e.key) := by
        rw [continuation, syncMessage?_of_stopOf stop]
      exact .sendNext h hand next kind same
  | skipNext key keys hand next =>
    exact .shrink rfl (next ▸ List.sublist_cons_self _ _) (fun _ mem => mem) rfl
  | release key hand => exact .release h hand
  | finishSync hand empty => exact .keep rfl rfl rfl hand (by dsimp only; split <;> rfl) fun _ => hand
  | missing key transactionId hand => exact .stopped rfl rfl (by rw [hand]; rfl) rfl rfl (by simp)
  | assign key transactionId e hand => exact .keep rfl rfl rfl hand rfl (by simp)
  | refuseQueued key transactionId e hand => exact .stopped rfl rfl (by rw [hand]; rfl) rfl rfl (by simp)
  | sendReady key e request cont call hand sends found message sent continuation =>
    have same : e.key = key := by simpa using List.find?_some found
    exact .sendReady h hand (by rw [continuation, syncMessage?_of_stopOf message, same])
  | confirmQueued key info hand => exact .keep rfl rfl rfl hand rfl (by simp)
  | dropLink hand rest running closes =>
    exact .shrink rfl (List.nil_sublist _) (fun other mem => by simpa [Ledger.open, Ledger.dropLink, rest] using mem) rfl
  | drain hand rest running =>
    exact .shrink rfl (.refl _) (fun other mem => by simpa [Ledger.open, rest] using mem) rfl
  | acceptBoot hand => exact .keep rfl rfl rfl hand rfl (by simp)
  | joinSync hand => exact .keep rfl rfl rfl hand rfl (by simp)
  | finishBoot hand => exact .keep rfl rfl rfl hand rfl (by simp)
  | _ => exact .same rfl rfl rfl id

/-- The syncs stay in order. -/
theorem sequenced_preserved (allow : Allow) :
    Preserves (Trans allow) fun l => (Fates l ∧ Counted l) ∧ Sequenced l :=
  (fates_counted allow).and fun _ _ step counted h => h.move (.step step counted.2)

end KirbyOcpp
