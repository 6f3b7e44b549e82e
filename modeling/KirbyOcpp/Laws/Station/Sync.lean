import KirbyOcpp.Laws.Station.Calls
import KirbyOcpp.Laws.Station.Permissions

/-!
# The offline sync counts its CALL

One sync runs at a time, and it has one CALL in flight at most. `sync_outstanding` counts the keys that are left
and this CALL (`Counted`), and nothing of a sync outlives its link.
-/

namespace KirbyOcpp

open Paths Relation

/-! ## Slots -/

/-- The queue entry that a continuation of the sync works on. -/
def Cont.syncKey? : Cont → Option Nat
  | .syncStart key | .syncStop key _ => some key
  | _ => none

/-- The queue entry whose CALL has completed. -/
def Hand.syncKey? : Hand → Option Nat
  | .slot key | .slotOpened key _ | .slotReady key | .slotStopped key _ | .refused key true => some key
  | _ => Option.none

/-- The operation belongs to a sync or to a boot. -/
def Hand.syncs : Hand → Bool
  | .slot _ | .slotOpened _ _ | .slotReady _ | .slotStopped _ _ | .refused _ true | .sync | .booted | .boot => true
  | _ => false

/-- The operation belongs to a boot. -/
def Hand.boots : Hand → Bool
  | .booted | .boot => true
  | _ => false

/-- The running sync goes on with its next entry. -/
def Hand.goes : Hand → Bool
  | .sync => true
  | _ => false

/-- The entries of the CALLs that a sync has in flight. -/
def Ledger.pendingKeys (l : Ledger) : List Nat := l.open.filterMap (·.continuation.syncKey?)

/-- The queue entries that the sync works on: in flight, or completed and not yet released. -/
def Ledger.slots (l : Ledger) : List Nat := l.hand.syncKey?.toList ++ l.pendingKeys

private theorem syncKey?_ofResult (continuation : Cont) (result : CallResult) :
    (Hand.ofResult continuation result).syncKey? = continuation.syncKey? := by
  unfold Hand.ofResult
  cases continuation <;> dsimp only <;> repeat' split
  all_goals rfl

/-- An answer does not leave the sync in hand. -/
theorem ofResult_ne_sync (continuation : Cont) (result : CallResult) :
    Hand.ofResult continuation result ≠ .sync := by
  unfold Hand.ofResult
  repeat' split
  all_goals exact nofun

private theorem boots_ofResult_error (continuation : Cont) (error : CallError) :
    (Hand.ofResult continuation (.error error)).boots = false := by
  unfold Hand.ofResult
  cases continuation with
  | securityEvent event =>
    dsimp only
    repeat' split
    all_goals rfl
  | _ => rfl

private theorem syncKey?_of_neutral {continuation : Cont} (h : continuation.isNeutral = true) :
    continuation.syncKey? = none := by
  cases continuation with
  | syncStart => cases h
  | syncStop => cases h
  | _ => rfl

private theorem syncKey?_of_idle {hand : Hand} (h : hand.syncs = false) : hand.syncKey? = none := by
  cases hand with
  | refused session sync =>
    cases sync with
    | false => rfl
    | true => cases h
  | slot => cases h
  | slotOpened => cases h
  | slotReady => cases h
  | slotStopped => cases h
  | _ => rfl

private theorem boots_of_idle {hand : Hand} (h : hand.syncs = false) : hand.boots = false := by
  cases hand with
  | booted => cases h
  | boot => cases h
  | _ => rfl

/-- The stop that `sync_stop` sends belongs to its entry. -/
theorem syncKey?_of_stopOf {e : OfflineTx} {request : Request} {cont : Cont}
    (message : Actor.stopOf e = some (request, cont)) : cont.syncKey? = some e.key := by
  unfold Actor.stopOf at message
  split at message
  · obtain ⟨-, rfl⟩ := Prod.mk.inj (Option.some.inj message)
    rfl
  · cases message

/-- A CALL of the sync belongs to the entry that it delivers. -/
theorem syncKey?_of_message {queue : OfflineQueue} {key : Nat} {e : OfflineTx} {request : Request}
    {cont : Cont} (found : OfflineQueue.get queue key = some e)
    (message : (e.startPending = true ∧ Actor.startOf e = (request, cont)) ∨
      (e.startPending = false ∧ Actor.stopOf e = some (request, cont))) : cont.syncKey? = some key := by
  have same : e.key = key := by simpa using List.find?_some found
  rw [← same]
  rcases message with ⟨-, message⟩ | ⟨-, message⟩
  · obtain ⟨-, rfl⟩ := Prod.mk.inj message
    rfl
  · exact syncKey?_of_stopOf message

private theorem pendingKeys_accept (l : Ledger) (call : PendingCall) :
    (l.accept call).pendingKeys = l.pendingKeys ++ call.continuation.syncKey?.toList := by
  unfold Ledger.pendingKeys Ledger.open Ledger.accept
  dsimp only
  rw [← List.append_assoc, List.filterMap_append]
  cases h : call.continuation.syncKey? <;> simp [h]

/-! ## The counter -/

/-- What a transition tells about a sync beside its CALLs. -/
structure SyncBooks where
  conn : Bool
  stopped : Bool
  outstanding : Nat
  keys : List Nat
  boot : Bool
  rest : List PendingCall

def Ledger.syncBooks (l : Ledger) : SyncBooks :=
  { conn := l.conn, stopped := l.stopped, outstanding := l.syncOutstanding, keys := l.syncKeys, boot := l.syncBoot
    rest := l.rest }

/-- The counter of the sync is right. -/
structure Counted (l : Ledger) : Prop where
  /-- One slot is taken at most. -/
  one : l.slots.length ≤ 1
  /-- A sync that goes on has no slot taken. -/
  free : l.hand = .sync → l.slots = []
  count : l.conn = true ∨ l.stopped = true → l.syncOutstanding = l.syncKeys.length + l.slots.length
  down : l.conn = false → l.stopped = false → l.syncOutstanding = 0 ∧ l.syncKeys = [] ∧ l.syncBoot = false
  /-- A boot is answered on an open link. -/
  boots : l.hand.boots = true → l.conn = true
  /-- A station that has stopped does nothing. -/
  halted : l.stopped = true → l.conn = false ∧ l.rest = [] ∧ l.hand.syncs = false
  /-- A sync that follows a boot has something to do. -/
  busy : l.syncBoot = true → l.hand = .sync ∨ 0 < l.syncOutstanding

namespace Counted

variable {l l' : Ledger}

/-- A transition that the sync does not notice. -/
theorem of (h : Counted l) (slots : l'.slots.Perm l.slots) (books : l'.syncBooks = l.syncBooks)
    (sync : l'.hand = .sync ↔ l.hand = .sync) (boots : l'.hand.boots = true → l.hand.boots = true)
    (idle : l.stopped = true → l'.hand.syncs = false) : Counted l' := by
  obtain ⟨conn, stopped, outstanding, keys, boot, rest⟩ := SyncBooks.mk.injEq .. ▸ books
  refine ⟨slots.length_eq ▸ h.one, fun going => ?_, ?_, ?_, fun boots' => conn ▸ h.boots (boots boots'),
    fun halted => ?_, ?_⟩
  · have empty := h.free (sync.mp going)
    rw [empty] at slots
    exact slots.eq_nil
  · rw [conn, stopped, outstanding, keys, slots.length_eq]
    exact h.count
  · rw [conn, stopped, outstanding, keys, boot]
    exact h.down
  · rw [stopped] at halted
    rw [conn, rest]
    exact ⟨(h.halted halted).1, (h.halted halted).2.1, idle halted⟩
  · rw [boot, outstanding, sync]
    exact h.busy

/-- The counter, the keys and the CALLs of the sync stay. -/
theorem same (h : Counted l) (hand : l'.hand = l.hand) (pending : l'.pendingKeys.Perm l.pendingKeys)
    (books : l'.syncBooks = l.syncBooks) : Counted l' := by
  refine h.of ?_ books (by rw [hand]) (by rw [hand]; exact id) fun halted => ?_
  · unfold Ledger.slots
    rw [hand]
    exact pending.append_left _
  · rw [hand]
    exact (h.halted halted).2.2

/-- A transition of an operation outside the sync. -/
theorem idle (h : Counted l) (before : l.hand.syncs = false) (after : l'.hand.syncs = false)
    (pending : l'.pendingKeys = l.pendingKeys) (books : l'.syncBooks = l.syncBooks) : Counted l' := by
  have never {hand : Hand} (idle : hand.syncs = false) : hand ≠ .sync := fun going => by
    rw [going] at idle
    cases idle
  refine h.of ?_ books ⟨fun going => absurd going (never after), fun going => absurd going (never before)⟩
    (fun boots => ?_) fun _ => after
  · unfold Ledger.slots
    rw [syncKey?_of_idle before, syncKey?_of_idle after, pending]
  · rw [boots_of_idle after] at boots
    cases boots

/-- A transition of a sync or of a boot that keeps the slot. -/
theorem work (h : Counted l) (syncs : l.hand.syncs = true) (slots : l'.slots.Perm l.slots)
    (books : l'.syncBooks = l.syncBooks) (before : l.hand.goes = false) (after : l'.hand.goes = false)
    (boots : l'.hand.boots = false ∨ l.hand.boots = true) : Counted l' := by
  refine h.of slots books ⟨fun going => ?_, fun going => ?_⟩ (fun boots' => ?_) fun halted => ?_
  · rw [going] at after
    cases after
  · rw [going] at before
    cases before
  · exact boots.resolve_left (by rw [boots']; exact Bool.noConfusion)
  · rw [(h.halted halted).2.2] at syncs
    cases syncs

/-- A connection is open only while the station runs. -/
theorem running (h : Counted l) (conn : l.conn = true) : l.stopped = false := by
  by_contra stopped
  rw [(h.halted (by simpa using stopped)).1] at conn
  cases conn

end Counted

/-- The completed CALL keeps its slot. -/
theorem slots_taken {l : Ledger} (l' : Ledger) {call : PendingCall} (result : CallResult) (before : l.hand = .none)
    (after : l'.hand = .ofResult call.continuation result) (taken : l.open.Perm (call :: l'.open)) :
    l'.slots.Perm l.slots := by
  unfold Ledger.slots Ledger.pendingKeys
  rw [before, after, syncKey?_ofResult]
  refine .trans ?_ (taken.symm.filterMap _)
  rw [List.filterMap_cons]
  cases call.continuation.syncKey? <;> exact .refl _

/-- A CALL that keeps no entry of the sync. -/
theorem pendingKeys_foreign (l : Ledger) {call : PendingCall} (none : call.continuation.syncKey? = none) :
    (l.accept call).pendingKeys = l.pendingKeys := by
  rw [pendingKeys_accept, none]
  exact List.append_nil _

/-- The hand passes from one work of a sync or of a boot to the next, with the same slot. -/
structure Hand.Passes (before after : Hand) : Prop where
  syncs : before.syncs = true
  key : after.syncKey? = before.syncKey?
  stays : before.goes = false
  waits : after.goes = false
  boots : after.boots = false ∨ before.boots = true

namespace Counted

variable {allow : Allow} {l l' : Ledger} {call : PendingCall} {key : Nat} {keys : List Nat}

/-! ### One transition -/

/-- The hand passes on what it holds. -/
theorem pass (h : Counted l) {before : Hand} (hand : l.hand = before) (passes : before.Passes l'.hand)
    (pending : l'.pendingKeys.Perm l.pendingKeys) (books : l'.syncBooks = l.syncBooks) : Counted l' := by
  subst hand
  refine h.work passes.syncs ?_ books passes.stays passes.waits passes.boots
  unfold Ledger.slots
  rw [passes.key]
  exact pending.append_left _

/-- A CALL of the sync ends. -/
theorem takeCall (h : Counted l) (fates : Fates l) (result : CallResult) (hand : l.hand = .none)
    (running : l.stopped = false) (found : (l.calls.find? fun c => c.token == call.token) = some call) :
    Counted { l.note (.completed call result) with
      calls := l.calls.filter fun c => !(c.token == call.token), hand := .ofResult call.continuation result } := by
  set l' : Ledger := { l.note (.completed call result) with
    calls := l.calls.filter fun c => !(c.token == call.token), hand := .ofResult call.continuation result }
  have taken : l.open.Perm (call :: l'.open) :=
    ((perm_take fates.calls_tokens found).append_left _).trans List.perm_middle
  have conn : l.conn = true := by
    by_contra closed
    rw [fates.closed (by simpa using closed) running] at found
    cases found
  have slots : l'.slots.length = l.slots.length := (slots_taken l' result hand rfl taken).length_eq
  refine ⟨slots ▸ h.one, fun sync => ?_, fun _ => ?_, fun closed => ?_, fun _ => conn, fun halted => ?_,
    fun boot => .inr ?_⟩
  · exact absurd sync (ofResult_ne_sync call.continuation result)
  · rw [slots]
    exact h.count (.inl conn)
  · exact absurd (conn.symm.trans closed) (by simp)
  · exact absurd (running.symm.trans halted) (by simp)
  · exact (h.busy boot).resolve_left (by rw [hand]; intro going; cases going)

/-- A CALL of the sync fails with the link. -/
theorem takeRest (h : Counted l) {rest : List PendingCall} (error : CallError) (hand : l.hand = .none)
    (head : l.rest = call :: rest) :
    Counted { l.note (.completed call (.error error)) with
      rest, hand := .ofResult call.continuation (.error error) } := by
  set l' : Ledger := { l.note (.completed call (.error error)) with
    rest, hand := .ofResult call.continuation (.error error) }
  have taken : l.open.Perm (call :: l'.open) := by
    rw [Ledger.open, head]
    exact .refl _
  have slots : l'.slots.length = l.slots.length := (slots_taken l' (.error error) hand rfl taken).length_eq
  refine ⟨slots ▸ h.one, fun sync => ?_, fun up => ?_, h.down, fun boots => ?_, fun halted => ?_, fun boot => .inr ?_⟩
  · exact absurd sync (ofResult_ne_sync call.continuation (.error error))
  · rw [slots]
    exact h.count up
  · rw [boots_ofResult_error call.continuation error] at boots
    cases boots
  · have none := (h.halted halted).2.1
    rw [head] at none
    cases none
  · exact (h.busy boot).resolve_left (by rw [hand]; intro going; cases going)

/-- A sample is abandoned, which is no CALL of the sync. -/
theorem abandon (h : Counted l) (fates : Fates l)
    (found : (l.calls.find? fun c => c.token == call.token) = some call) (sample : call.token ∈ l.sampleCalls) :
    Counted { l.note (.abandoned call) with calls := l.calls.filter fun c => !(c.token == call.token) } := by
  have mem := fates.mem_called (List.mem_append_right _ (List.mem_of_find?_eq_some found))
  obtain ⟨id, cont⟩ := fates.samples call mem sample
  have taken : l.open.Perm (call :: (l.rest ++ l.calls.filter fun c => !(c.token == call.token))) :=
    ((perm_take fates.calls_tokens found).append_left _).trans List.perm_middle
  have keys := taken.filterMap (·.continuation.syncKey?)
  rw [List.filterMap_cons, cont] at keys
  exact h.same rfl keys.symm rfl

/-- The refusal of a session of the sync leaves its slot to the sync. -/
theorem refused (h : Counted l) {session : Nat} {sync : Bool} (hand : l.hand = .refused session sync)
    (after : l'.hand = if sync then .slot session else .none) (pending : l'.pendingKeys = l.pendingKeys)
    (books : l'.syncBooks = l.syncBooks) : Counted l' := by
  cases sync with
  | false => exact h.idle (by rw [hand]; rfl) (by rw [after]; rfl) pending books
  | true => exact h.pass hand (by rw [after]; exact ⟨rfl, rfl, rfl, rfl, .inl rfl⟩) (.of_eq pending) books

/-- A sync begins when none runs. -/
theorem beginSync (h : Counted l) {boot : Bool} (hand : l.hand = if boot then .boot else .none)
    (conn : boot = false → l.conn = true) (free : l.syncOutstanding = 0) :
    Counted { l.note (.syncStarted boot keys (l.queue.map (·.key))) with
      syncOutstanding := keys.length, syncKeys := keys, syncBoot := boot, hand := .sync } := by
  have conn : l.conn = true := by
    cases boot with
    | false => exact conn rfl
    | true => exact h.boots (by rw [hand]; rfl)
  have count := h.count (.inl conn)
  have slots : l.slots = [] := List.eq_nil_of_length_eq_zero (by omega)
  have pending : l.pendingKeys = [] := (List.append_eq_nil_iff.mp slots).2
  refine ⟨?_, fun _ => pending, fun _ => ?_, fun closed => ?_, nofun, fun halted => ?_, fun _ => .inl rfl⟩
  · change l.pendingKeys.length ≤ 1
    rw [pending]
    exact Nat.zero_le _
  · change keys.length = keys.length + l.pendingKeys.length
    rw [pending]
    rfl
  · exact absurd (conn.symm.trans closed) (by simp)
  · exact absurd ((h.running conn).symm.trans halted) (by simp)

/-- The next entry is sent. -/
theorem sendNext (h : Counted l) (hand : l.hand = .sync) (next : l.syncKeys = key :: keys) (conn : l.conn = true)
    (own : call.continuation.syncKey? = some key) :
    Counted { l.accept call with syncKeys := keys, hand := .none } := by
  have count := h.count (.inl conn)
  have free : l.slots = [] := h.free hand
  have pending : l.pendingKeys = [] := (List.append_eq_nil_iff.mp free).2
  have slots : (l.accept call).pendingKeys = [key] := by
    rw [pendingKeys_accept, pending, own]
    rfl
  rw [free, next] at count
  have left : l.syncOutstanding = keys.length + 1 := count
  refine ⟨?_, nofun, fun _ => ?_, fun closed => ?_, nofun, fun halted => ?_, fun _ => .inr ?_⟩
  · change (l.accept call).pendingKeys.length ≤ 1
    rw [slots]
    exact le_rfl
  · change l.syncOutstanding = keys.length + (l.accept call).pendingKeys.length
    rw [slots, left]
    rfl
  · exact absurd (conn.symm.trans closed) (by simp)
  · exact absurd ((h.running conn).symm.trans halted) (by simp)
  · change 0 < l.syncOutstanding
    omega

/-- The next entry has nothing to send. -/
theorem skipNext (h : Counted l) (hand : l.hand = .sync) (next : l.syncKeys = key :: keys) :
    Counted { l with syncKeys := keys, syncOutstanding := l.syncOutstanding - 1 } := by
  have free : l.slots = [] := h.free hand
  refine ⟨h.one, h.free, fun up => ?_, fun closed running => ?_, h.boots, h.halted, fun _ => .inl hand⟩
  · have count := h.count up
    rw [free, next] at count
    change l.syncOutstanding - 1 = keys.length + l.slots.length
    rw [free, count]
    rfl
  · have none := (h.down closed running).2.1
    rw [next] at none
    cases none

/-- An entry is done. -/
theorem release (h : Counted l) (hand : l.hand = .slot key ∨ l.hand = .slotReady key) :
    Counted { l with hand := .sync, syncOutstanding := l.syncOutstanding - 1 } := by
  have slots : l.slots = key :: l.pendingKeys := by
    unfold Ledger.slots
    rcases hand with hand | hand <;> rw [hand] <;> rfl
  have syncs : l.hand.syncs = true := by rcases hand with hand | hand <;> rw [hand] <;> rfl
  have one := h.one
  rw [slots, List.length_cons] at one
  have pending : l.pendingKeys = [] := List.eq_nil_of_length_eq_zero (by omega)
  refine ⟨?_, fun _ => pending, fun up => ?_, fun closed running => ?_, nofun, fun halted => ?_, fun _ => .inl rfl⟩
  · change l.pendingKeys.length ≤ 1
    omega
  · have count := h.count up
    rw [slots, pending] at count
    change l.syncOutstanding - 1 = l.syncKeys.length + l.pendingKeys.length
    rw [pending, count]
    rfl
  · obtain ⟨none, keys, boot⟩ := h.down closed running
    refine ⟨?_, keys, boot⟩
    change l.syncOutstanding - 1 = 0
    omega
  · rw [(h.halted halted).2.2] at syncs
    cases syncs

/-- A sync without keys is over. -/
theorem finishSync (h : Counted l) (hand : l.hand = .sync) (empty : l.syncKeys = []) :
    Counted { l with
      syncOutstanding := 0, syncBoot := false
      hand := if l.syncBoot ∧ l.registration = some .accepted then .boot else .none } := by
  have pending : l.pendingKeys = [] := (List.append_eq_nil_iff.mp (h.free hand)).2
  have running : l.stopped = false := by
    by_contra stopped
    have idle := (h.halted (by simpa using stopped)).2.2
    rw [hand] at idle
    cases idle
  have conn (boot : l.syncBoot = true) : l.conn = true := by
    by_contra closed
    rw [(h.down (by simpa using closed) running).2.2] at boot
    cases boot
  have slots : (if l.syncBoot ∧ l.registration = some .accepted then Hand.boot else .none).syncKey?.toList ++
      l.pendingKeys = [] := by
    rw [pending]
    split <;> rfl
  refine ⟨?_, fun _ => slots, fun _ => ?_, fun _ _ => ⟨rfl, empty, rfl⟩, fun boots => ?_, fun halted => ?_, nofun⟩
  · exact (congrArg List.length slots).trans_le (Nat.zero_le _)
  · change 0 = l.syncKeys.length + _
    rw [empty]
    exact ((Nat.zero_add _).trans (congrArg List.length slots)).symm
  · dsimp only at boots
    split at boots
    · rename_i both
      exact conn both.1
    · cases boots
  · exact absurd (running.symm.trans halted) (by simp)

/-- The link goes, and the CALLs are about to fail. -/
theorem dropLink (h : Counted l) (hand : l.hand = .none) (rest : l.rest = []) (running : l.stopped = false) :
    Counted l.dropLink := by
  have slots : l.dropLink.slots = l.slots := by
    unfold Ledger.slots Ledger.pendingKeys Ledger.open Ledger.dropLink
    dsimp only
    rw [rest, List.append_nil, List.nil_append]
  refine ⟨slots ▸ h.one, fun going => ?_, fun up => ?_, fun _ _ => ⟨rfl, rfl, rfl⟩, fun boots => ?_, fun halted => ?_,
    nofun⟩
  · rw [slots]
    exact h.free going
  · rcases up with up | up
    · cases up
    · exact absurd (running.symm.trans up) (by simp)
  · have none : l.hand.boots = true := boots
    rw [hand] at none
    cases none
  · exact absurd (running.symm.trans halted) (by simp)

/-- The CALLs are about to fail while the link is there. -/
theorem drain (h : Counted l) (rest : l.rest = []) (running : l.stopped = false) :
    Counted { l with calls := [], rest := l.calls } := by
  have slots : ({ l with calls := [], rest := l.calls } : Ledger).slots = l.slots := by
    unfold Ledger.slots Ledger.pendingKeys Ledger.open
    dsimp only
    rw [rest, List.append_nil, List.nil_append]
  refine ⟨slots ▸ h.one, fun going => ?_, fun up => ?_, h.down, h.boots, fun halted => ?_, h.busy⟩
  · rw [slots]
    exact h.free going
  · rw [slots]
    exact h.count up
  · exact absurd (running.symm.trans halted) (by simp)

/-- The counter of an idle station, whether its link is open or not. -/
theorem counts (h : Counted l) (fates : Fates l) (hand : l.hand = .none) (rest : l.rest = []) :
    l.syncOutstanding = l.syncKeys.length + l.slots.length := by
  by_cases up : l.conn = true ∨ l.stopped = true
  · exact h.count up
  · obtain ⟨conn, stopped⟩ : l.conn = false ∧ l.stopped = false := by simpa using up
    obtain ⟨none, keys, -⟩ := h.down conn stopped
    have slots : l.slots = [] := by
      unfold Ledger.slots Ledger.pendingKeys Ledger.open
      rw [hand, rest, fates.closed conn stopped]
      rfl
    rw [none, keys, slots]
    rfl

/-- A new link finds no sync. -/
theorem openLink (h : Counted l) (fates : Fates l) (hand : l.hand = .none) (rest : l.rest = [])
    (running : l.stopped = false) : Counted { l with conn := true } :=
  ⟨h.one, h.free, fun _ => h.counts fates hand rest, nofun, fun _ => rfl,
    fun halted => absurd (running.symm.trans halted) (by simp), h.busy⟩

/-- A stopped actor has no sync. -/
theorem halt (h : Counted l) (fates : Fates l) (hand : l.hand = .none) (rest : l.rest = []) :
    Counted { l with generation := l.generation + 1, conn := false, registration := none, stopped := true } := by
  refine ⟨h.one, h.free, fun _ => h.counts fates hand rest, nofun, fun boots => ?_,
    fun _ => ⟨rfl, rest, by rw [hand]; rfl⟩, h.busy⟩
  have none : l.hand.boots = true := boots
  rw [hand] at none
  cases none

/-- A quiet step keeps the count. -/
theorem quiet (h : Counted l) (step : QuietStep l l') : Counted l' := by
  cases step with
  | send call sends neutral => exact h.same rfl (.of_eq (pendingKeys_foreign l (syncKey?_of_neutral neutral))) rfl
  | sendEvent call sends event events queue cont =>
    exact h.same rfl (.of_eq (pendingKeys_foreign l (by rw [cont]; rfl))) rfl
  | _ => exact h.same rfl (.refl _) rfl

end Counted

/-- The counter stays right; that a CALL is taken by its token needs that every CALL has one fate. -/
theorem counted_preserved (allow : Allow) ⦃l l' : Ledger⦄ (step : Trans allow l l') (fates : Fates l)
    (h : Counted l) : Counted l' := by
  cases step with
  | quiet step => exact h.quiet step
  | takeCall call result hand rest running found => exact h.takeCall fates result hand running found
  | takeRest call rest error hand head => exact h.takeRest error hand head
  | abandon call found sample => exact h.abandon fates found sample
  | sendStart id pending call done hand sends cont =>
    exact h.idle (by rw [hand]; rfl) rfl (pendingKeys_foreign l (by rw [cont]; rfl)) rfl
  | sendStop id tx tag startedAt meterStartWh info done call wire hand sends cont request sent =>
    exact h.idle (by rw [hand]; rfl) rfl (pendingKeys_foreign l (by rw [cont]; rfl)) rfl
  | sendClose session sync call hand sends cont =>
    exact h.refused hand rfl (pendingKeys_foreign l (by rw [cont]; rfl)) rfl
  | skipClose session sync hand => exact h.refused hand rfl rfl rfl
  | requeue event hand => exact h.idle (by rw [hand]; rfl) rfl rfl rfl
  | openStart id c pending hand => exact h.idle (by rw [hand]; rfl) rfl rfl rfl
  | charge id pending c hand => exact h.idle (by rw [hand]; rfl) rfl rfl rfl
  | queueStart id pending entry hand => exact h.idle (by rw [hand]; rfl) rfl rfl rfl
  | abandonStart id localId c hand => exact h.idle (by rw [hand]; rfl) rfl rfl rfl
  | loseStart id localId hand => exact h.idle (by rw [hand]; rfl) rfl rfl rfl
  | activate id localId transactionId c active hand => exact h.idle (by rw [hand]; rfl) rfl rfl rfl
  | refuseOpened id localId transactionId c hand => exact h.idle (by rw [hand]; rfl) rfl rfl rfl
  | refuseLost id localId transactionId hand => exact h.idle (by rw [hand]; rfl) rfl rfl rfl
  | beginStop id c tx info f hand => exact h.idle (by rw [hand]; rfl) rfl rfl rfl
  | markStopping id tx info stopping c hand => exact h.idle (by rw [hand]; rfl) rfl rfl rfl
  | queueStop id tx info e hand =>
    exact h.idle (by rcases hand with hand | hand <;> rw [hand] <;> rfl) rfl rfl rfl
  | queueNewStop id tx info entry hand =>
    exact h.idle (by rcases hand with hand | hand <;> rw [hand] <;> rfl) rfl rfl rfl
  | confirmStop id tx info hand => exact h.idle (by rw [hand]; rfl) rfl rfl rfl
  | beginSync boot keys hand conn free => exact h.beginSync hand conn free
  | sendNext key keys e request cont call hand next sends found message sent continuation =>
    exact h.sendNext hand next sends.conn (continuation ▸ syncKey?_of_message found message)
  | skipNext key keys hand next => exact h.skipNext hand next
  | release key hand => exact h.release hand
  | finishSync hand empty => exact h.finishSync hand empty
  | missing key transactionId hand => exact h.pass hand ⟨rfl, rfl, rfl, rfl, .inl rfl⟩ (.refl _) rfl
  | assign key transactionId e hand => exact h.pass hand ⟨rfl, rfl, rfl, rfl, .inl rfl⟩ (.refl _) rfl
  | refuseQueued key transactionId e hand => exact h.pass hand ⟨rfl, rfl, rfl, rfl, .inl rfl⟩ (.refl _) rfl
  | sendReady key e request cont call hand sends found message sent continuation =>
    -- the slot goes over to the CALL
    refine h.work (by rw [hand]; rfl) ?_ rfl (by rw [hand]; rfl) rfl (.inl rfl)
    have same : e.key = key := by simpa using List.find?_some found
    have own : cont.syncKey? = some key := same ▸ syncKey?_of_stopOf message
    change (l.accept call).pendingKeys.Perm _
    unfold Ledger.slots
    rw [pendingKeys_accept, hand, continuation, own]
    exact List.perm_append_comm
  | confirmQueued key info hand => exact h.pass hand ⟨rfl, rfl, rfl, rfl, .inl rfl⟩ (.refl _) rfl
  | dropLink hand rest running => exact h.dropLink hand rest running
  | drain hand rest running => exact h.drain rest running
  | openLink hand rest running => exact h.openLink fates hand rest running
  | acceptBoot hand => exact h.pass hand ⟨rfl, rfl, rfl, rfl, .inr rfl⟩ (.refl _) rfl
  | joinSync hand => exact h.pass hand ⟨rfl, rfl, rfl, rfl, .inl rfl⟩ (.refl _) rfl
  | finishBoot hand => exact h.pass hand ⟨rfl, rfl, rfl, rfl, .inl rfl⟩ (.refl _) rfl
  | halt hand rest => exact h.halt fates hand rest
  | _ => exact h.same rfl (.refl _) rfl

/-- The counter is right, and every CALL has one fate. -/
theorem fates_counted (allow : Allow) : Preserves (Trans allow) fun l => Fates l ∧ Counted l :=
  (fates_preserved allow).and fun _ _ step fates h => counted_preserved allow step fates h

/-! ## Every reachable state -/

namespace Actor

/-- The counter of a process is right between two iterations. -/
def CountsSync (a : Actor) : Prop :=
  Ids (a.ledger [] .none) ∧ Fates (a.ledger [] .none) ∧ Counted (a.ledger [] .none)

/-- A process begins without a sync. -/
theorem loaded_counted (config : StationConfig) (registry : ConfigRegistry) (now : Instant) (mono : Int)
    (saved : Option PersistedStation) : Counted ((loaded config registry now mono saved).ledger [] .none) := by
  have slots : ((loaded config registry now mono saved).ledger [] .none).slots = [] := by cases saved <;> rfl
  refine ⟨?_, nofun, fun _ => ?_, fun _ _ => ?_, nofun, fun stopped => ?_, fun boot => ?_⟩
  · rw [slots]
    exact Nat.zero_le _
  · rw [slots]
    cases saved <;> rfl
  · cases saved <;> exact ⟨rfl, rfl, rfl⟩
  · cases saved <;> cases stopped
  · cases saved <;> cases boot

private theorem start_countsSync (config : StationConfig) (registry : ConfigRegistry) (now : Instant) (mono : Int)
    (saved : Option PersistedStation) : (start config registry now mono saved).CountsSync :=
  ⟨start_ids config registry now mono saved,
    (fates_counted {}).path (start_path config registry now mono saved (.inl rfl))
      ⟨loaded_fates config registry now mono saved, loaded_counted config registry now mono saved⟩⟩

private theorem step_countsSync {a : Actor} (h : a.CountsSync) (wake : Wake) : (a.step wake).CountsSync := by
  have permits : Permits (allowing true true true) (a.woken wake) wake.input :=
    permits_allowing _ (.inl rfl) (.inl rfl) (.inl rfl)
  have path := a.step_path wake h.1 permits
  exact ⟨(ids_preserved _).path path h.1, (fates_counted _).path path h.2⟩

/-- Every reachable actor counts its sync. -/
theorem reachable_countsSync {allowed : Actor → Wake → Prop} {restorable : PersistedStation → Prop} {a : Actor}
    (h : ReachableVia allowed restorable a) : a.CountsSync :=
  h.inductive (P := CountsSync) (fun config registry now mono => start_countsSync config registry now mono none)
    (fun config registry now mono _ saved _ _ _ => start_countsSync config registry now mono (some saved))
    fun _ wake counts _ => step_countsSync counts wake

end Actor

end KirbyOcpp
