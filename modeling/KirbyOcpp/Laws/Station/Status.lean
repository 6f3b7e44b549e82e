import KirbyOcpp.Laws.Station.Calls
import KirbyOcpp.Laws.Station.Notifier

/-!
# The discipline of the status notifications

A notifier keeps its state on the way to the Central System: what was sent last is the state of the connector, or
the debounce of exactly that state is pending (`Kept`). With the condition of `Heeds` it also knows which of its
notifications failed, and since when the state is what it is (`Dated`).

**The law** `status_disciplined`.
-/

namespace KirbyOcpp

open Actor

namespace Notifier

/-! ## One connector -/

/-- A connector in the state `key` has sent it, or a debounce of it is pending. -/
structure Kept (n : Notifier) (key : StatusKey) : Prop where
  shown : ∀ last, n.tracker.lastSent = some last →
    ∃ notice, n.notices.head? = some notice ∧ notice.key = last ∧ notice.failed = false
  held : ∀ pending since, n.tracker.pending = some (pending, since) → pending = key ∧ n.armed = true
  sent : n.tracker.pending = none → ∃ notice, n.notices.head? = some notice ∧ notice.key = key

/-- The tracker knows of every failure, and since when the state is what it is: `entered`. -/
structure Dated (n : Notifier) (entered : Instant) : Prop where
  forgotten : n.tracker.lastSent = none → ∃ notice, n.notices.head? = some notice ∧ notice.failed = true
  since : ∀ pending since, n.tracker.pending = some (pending, since) → since = entered

/-- After a debounce, with what was pending in `n`. -/
def Settled (n n' : Notifier) (id : ConnectorId) (key : StatusKey) : Prop :=
  n' = n ∨ n'.tracker.pending = none ∧
    (n'.notices = n.notices ∨
      n.tracker.lastSent ≠ some key ∧ ∃ call pending since, n.tracker.pending = some (pending, since) ∧
        n'.notices = { call, key, failed := false } :: n.notices ∧
        call.request = .statusNotification (key.request id since))

variable {n : Notifier} {key : StatusKey} {now : Instant} {minimum : Nat} {entered : Instant}
  {call : StatusKey → Instant → PendingCall}

theorem Kept.of_send (n : Notifier) (call : PendingCall) (quiet : n.tracker.pending = none) :
    (n.send call key).Kept key where
  shown := fun last same => by
    obtain rfl := Option.some.inj same
    exact ⟨_, rfl, rfl, rfl⟩
  held := fun pending since held => by cases quiet.symm.trans held
  sent := fun _ => ⟨_, rfl, rfl⟩

theorem Dated.of_send (n : Notifier) (call : PendingCall) (quiet : n.tracker.pending = none) :
    (n.send call key).Dated entered where
  forgotten := fun forgotten => by cases forgotten
  since := fun pending since held => by cases quiet.symm.trans held

/-- `plan_change`, case by case. -/
theorem planChange_cases (tracker : StatusTracker) (key : StatusKey) (now : Instant) (minimum : Nat) :
    (tracker.lastSent = some key ∧ planChange tracker key now minimum = ({ tracker with pending := none }, .cancel)) ∨
    (tracker.lastSent ≠ some key ∧ minimum = 0 ∧
      planChange tracker key now minimum = ({ tracker with pending := none }, .send now)) ∨
    (tracker.lastSent ≠ some key ∧ minimum ≠ 0 ∧ (∃ since, tracker.pending = some (key, since)) ∧
      planChange tracker key now minimum = (tracker, .nothing)) ∨
    (tracker.lastSent ≠ some key ∧ minimum ≠ 0 ∧ (∀ since, tracker.pending ≠ some (key, since)) ∧
      planChange tracker key now minimum = ({ tracker with pending := some (key, now) }, .defer)) := by
  unfold planChange
  split
  · rename_i same
    exact .inl ⟨same, rfl⟩
  · rename_i differs
    split
    · rename_i zero
      exact .inr (.inl ⟨differs, zero, rfl⟩)
    · rename_i positive
      split
      · rename_i held
        obtain ⟨pending, found, same⟩ := Option.any_eq_true _ _ |>.mp held
        refine .inr (.inr (.inl ⟨differs, positive, ⟨pending.2, ?_⟩, rfl⟩))
        rw [found, ← of_decide_eq_true same]
      · rename_i other
        refine .inr (.inr (.inr ⟨differs, positive, fun since held => other ?_, rfl⟩))
        rw [held]
        exact decide_eq_true rfl

/-- A change to the state `key`, whatever the state was. -/
theorem Kept.changed {before : StatusKey} (kept : n.Kept before) :
    (({ n with key := some key } : Notifier).changed key now minimum call).Kept key := by
  unfold Notifier.changed
  dsimp only
  rcases planChange_cases n.tracker key now minimum with
    ⟨last, plan⟩ | ⟨-, -, plan⟩ | ⟨-, -, ⟨since, held⟩, plan⟩ | ⟨-, -, -, plan⟩
  all_goals rw [plan]
  · obtain ⟨notice, head, same, -⟩ := kept.shown key last
    exact { shown := kept.shown, held := fun _ _ held => (by cases held), sent := fun _ => ⟨notice, head, same⟩ }
  · exact .of_send _ _ rfl
  · refine { shown := kept.shown, held := fun pending at_ found => ?_, sent := fun quiet => ?_ }
    · have same := Option.some.inj (held.symm.trans found)
      exact ⟨(Prod.mk.inj same).1.symm, (kept.held _ _ held).2⟩
    · cases held.symm.trans quiet
  · refine { shown := kept.shown, held := fun pending at_ found => ?_, sent := fun quiet => by cases quiet }
    have same := Option.some.inj found
    exact ⟨(Prod.mk.inj same).1.symm, rfl⟩

theorem changed_key : (n.changed key now minimum call).key = n.key := by
  unfold Notifier.changed
  rcases planChange_cases n.tracker key now minimum with
    ⟨-, plan⟩ | ⟨-, -, plan⟩ | ⟨-, -, -, plan⟩ | ⟨-, -, -, plan⟩
  · rw [plan]
  · rw [plan]
    rfl
  · rw [plan]
  · rw [plan]

/-- Without a minimum duration nothing stays pending. -/
theorem changed_zero : (n.changed key now 0 call).tracker.pending = none := by
  unfold Notifier.changed
  rcases planChange_cases n.tracker key now 0 with
    ⟨-, plan⟩ | ⟨-, -, plan⟩ | ⟨-, positive, -⟩ | ⟨-, positive, -⟩
  · rw [plan]
  · rw [plan]
    rfl
  · cases positive rfl
  · cases positive rfl

/-- Without a minimum duration a change is sent at once. -/
theorem Kept.changed_sends {before : StatusKey} (kept : n.Kept before) (quiet : n.tracker.pending = none)
    (differs : key ≠ before) :
    (({ n with key := some key } : Notifier).changed key now 0 call).notices =
      { call := call key now, key, failed := false } :: n.notices := by
  unfold Notifier.changed
  dsimp only
  rcases planChange_cases n.tracker key now 0 with
    ⟨last, plan⟩ | ⟨-, -, plan⟩ | ⟨-, positive, -⟩ | ⟨-, positive, -⟩
  · obtain ⟨notice, head, same, -⟩ := kept.shown key last
    obtain ⟨other, latest, state⟩ := kept.sent quiet
    obtain rfl := Option.some.inj (head.symm.trans latest)
    exact absurd (same.symm.trans state) differs
  · rw [plan]
    rfl
  · cases positive rfl
  · cases positive rfl

/-- A change keeps the dates if it is one, or if the tracker still knows what it sent. -/
theorem Dated.changed {before : StatusKey} (kept : n.Kept before) (dated : n.Dated entered)
    (heeds : key = before → minimum ≠ 0 → n.tracker.lastSent = none → n.tracker.pending ≠ none) :
    (({ n with key := some key } : Notifier).changed key now minimum call).Dated
      (if key = before then entered else now) := by
  unfold Notifier.changed
  dsimp only
  rcases planChange_cases n.tracker key now minimum with
    ⟨-, plan⟩ | ⟨-, -, plan⟩ | ⟨-, -, ⟨since, held⟩, plan⟩ | ⟨differs, positive, other, plan⟩
  all_goals rw [plan]
  · exact { forgotten := dated.forgotten, since := fun _ _ held => (by cases held) }
  · exact .of_send _ _ rfl
  · refine { forgotten := dated.forgotten, since := fun pending at_ found => ?_ }
    rw [if_pos (kept.held _ _ held).1]
    exact dated.since pending at_ found
  · refine { forgotten := dated.forgotten, since := fun pending at_ found => ?_ }
    obtain ⟨-, rfl⟩ := Prod.mk.inj (Option.some.inj found)
    rw [if_neg]
    intro same
    cases pending : n.tracker.pending with
    | some held =>
      have state := (kept.held held.1 held.2 pending).1
      exact other held.2 (pending.trans (congrArg some (Prod.ext (state.trans same.symm) rfl)))
    | none =>
      cases last : n.tracker.lastSent with
      | none => exact heeds same positive last pending
      | some last' =>
        obtain ⟨notice, head, sent, -⟩ := kept.shown _ last
        obtain ⟨notice', latest, state⟩ := kept.sent pending
        obtain rfl := Option.some.inj (head.symm.trans latest)
        refine differs ?_
        rw [last, ← sent, state, same]

theorem Kept.forced : (n.forced key now call).Kept key := .of_send _ _ rfl

theorem Dated.forced : (n.forced key now call).Dated entered := .of_send _ _ rfl

/-- `take_due`, case by case. -/
theorem takeDue_cases (tracker : StatusTracker) (key : StatusKey) :
    (tracker.pending = none ∧ takeDue tracker key = (tracker, none)) ∨
    (tracker.lastSent = some key ∧ takeDue tracker key = ({ tracker with pending := none }, none)) ∨
    (tracker.lastSent ≠ some key ∧ ∃ pending since, tracker.pending = some (pending, since) ∧
      takeDue tracker key = ({ tracker with pending := none }, some since)) := by
  unfold takeDue
  split
  · rename_i quiet
    exact .inl ⟨quiet, rfl⟩
  · rename_i pending held
    split
    · rename_i differs
      exact .inr (.inr ⟨differs, pending.1, pending.2, held, rfl⟩)
    · rename_i last
      exact .inr (.inl ⟨not_not.mp last, rfl⟩)

theorem fired_pending : (n.fired key call).tracker.pending = none := by
  unfold Notifier.fired
  rcases takeDue_cases n.tracker key with ⟨quiet, taken⟩ | ⟨-, taken⟩ | ⟨-, _, _, -, taken⟩
  all_goals rw [taken]
  · exact quiet
  · rfl

theorem fired_key : (n.fired key call).key = n.key := by
  unfold Notifier.fired
  rcases takeDue_cases n.tracker key with ⟨-, taken⟩ | ⟨-, taken⟩ | ⟨-, _, _, -, taken⟩
  · rw [taken]
  · rw [taken]
  · rw [taken]
    rfl

theorem Kept.fired (kept : n.Kept key) : (n.fired key call).Kept key := by
  unfold Notifier.fired
  rcases takeDue_cases n.tracker key with ⟨quiet, taken⟩ | ⟨last, taken⟩ | ⟨-, _, _, -, taken⟩
  all_goals rw [taken]
  · refine { shown := kept.shown, held := fun pending since held => ?_, sent := kept.sent }
    cases quiet.symm.trans held
  · obtain ⟨notice, head, same, -⟩ := kept.shown key last
    exact { shown := kept.shown, held := fun _ _ held => (by cases held), sent := fun _ => ⟨notice, head, same⟩ }
  · exact .of_send _ _ rfl

theorem Dated.fired (dated : n.Dated entered) : (n.fired key call).Dated entered := by
  unfold Notifier.fired
  rcases takeDue_cases n.tracker key with ⟨-, taken⟩ | ⟨-, taken⟩ | ⟨-, _, _, -, taken⟩
  all_goals rw [taken]
  · exact { forgotten := dated.forgotten, since := dated.since }
  · exact { forgotten := dated.forgotten, since := fun _ _ held => (by cases held) }
  · exact .of_send _ _ rfl

/-- A second debounce finds nothing to do. -/
theorem Settled.fired {first : Notifier} {id : ConnectorId} (settled : first.Settled n id key)
    (request : ∀ key timestamp, (call key timestamp).request = .statusNotification (key.request id timestamp)) :
    first.Settled (n.fired key call) id key := by
  refine .inr ⟨fired_pending, ?_⟩
  unfold Notifier.fired
  rcases takeDue_cases n.tracker key with ⟨-, taken⟩ | ⟨-, taken⟩ | ⟨differs, pending, since, held, taken⟩
  all_goals rw [taken]
  · rcases settled with rfl | ⟨-, sent⟩
    · exact .inl rfl
    · exact sent
  · rcases settled with rfl | ⟨-, sent⟩
    · exact .inl rfl
    · exact sent
  · rcases settled with rfl | ⟨quiet, -⟩
    · exact .inr ⟨differs, _, pending, since, held, rfl, request key since⟩
    · cases quiet.symm.trans held

/-- The failure of a notification that carried `sent`. -/
theorem Kept.fail {sent : StatusKey} {failing : PendingCall} (kept : n.Kept key)
    (carried : ∀ notice ∈ n.notices, notice.call = failing → notice.key = sent) : (n.fail failing sent).Kept key := by
  unfold Notifier.fail markFailed
  refine { shown := fun last known => ?_, held := fun pending since held => ?_, sent := fun quiet => ?_ }
  · dsimp only at known
    split at known
    · cases known
    · rename_i other
      obtain ⟨notice, head, same, alive⟩ := kept.shown last known
      have survives : failing ≠ notice.call := by
        rintro rfl
        refine other ?_
        rw [known, ← same, carried notice (List.mem_of_head? head) rfl]
      refine ⟨{ notice with failed := notice.failed || decide (failing = notice.call) }, ?_, same, ?_⟩
      · rw [List.head?_map, head]
        rfl
      · simp [alive, survives]
  · refine kept.held pending since ?_
    dsimp only at held
    split at held <;> exact held
  · have quiet : n.tracker.pending = none := by
      dsimp only at quiet
      split at quiet <;> exact quiet
    obtain ⟨notice, head, same⟩ := kept.sent quiet
    refine ⟨{ notice with failed := notice.failed || decide (failing = notice.call) }, ?_, same⟩
    rw [List.head?_map, head]
    rfl

/-- The failure of the last notification, or of one whose state has been replaced. -/
theorem Dated.fail {sent : StatusKey} {failing : PendingCall} (dated : n.Dated entered)
    (heeds : n.tracker.lastSent = some sent → (n.notices.head?.map (·.call)) = some failing) :
    (n.fail failing sent).Dated entered := by
  unfold Notifier.fail markFailed
  refine { forgotten := fun forgotten => ?_, since := fun pending since held => ?_ }
  · dsimp only at forgotten ⊢
    rw [List.head?_map]
    split at forgotten
    · rename_i last
      obtain ⟨notice, head, same⟩ := Option.map_eq_some_iff.mp (heeds last)
      rw [head]
      refine ⟨_, rfl, ?_⟩
      rw [Bool.or_eq_true, decide_eq_true_eq]
      exact .inr same.symm
    · obtain ⟨notice, head, failed⟩ := dated.forgotten forgotten
      rw [head]
      refine ⟨_, rfl, ?_⟩
      rw [Bool.or_eq_true]
      exact .inl failed
  · refine dated.since pending since ?_
    dsimp only at held
    split at held <;> exact held

/-! ## What the discipline promises -/

/-- The state is shown, a debounce of exactly this state is pending with its timer armed, or the last send of it
failed. -/
def Covered (n : Notifier) (key : StatusKey) : Prop :=
  n.lastShown.map (·.key) = some key ∨
  ((∃ since, n.tracker.pending = some (key, since)) ∧ n.armed = true) ∨
  ∃ notice, n.notices.head? = some notice ∧ notice.key = key ∧ notice.failed = true

theorem Kept.covered (kept : n.Kept key) : n.Covered key := by
  cases pending : n.tracker.pending with
  | some held =>
    obtain ⟨same, armed⟩ := kept.held held.1 held.2 pending
    refine .inr (.inl ⟨⟨held.2, ?_⟩, armed⟩)
    rw [pending, ← same]
  | none =>
    obtain ⟨notice, head, same⟩ := kept.sent pending
    cases failed : notice.failed with
    | true => exact .inr (.inr ⟨notice, head, same, failed⟩)
    | false =>
      refine .inl ?_
      obtain ⟨older, notices⟩ := List.head?_eq_some_iff.mp head
      unfold Notifier.lastShown
      rw [notices, List.find?_cons_of_pos (by simp [failed]), Option.map_some, same]

/-- What is back at what was sent last is not sent again. -/
theorem Settled.silent {n' : Notifier} {id : ConnectorId} (settled : n.Settled n' id key) (found : n.key = some key)
    (kept : n.Kept key) (dated : n.Dated entered) (back : n.isBack = true) : n'.notices = n.notices := by
  rcases settled with rfl | ⟨-, same | ⟨differs, -⟩⟩
  · rfl
  · exact same
  · exfalso
    unfold Notifier.isBack at back
    obtain ⟨notice, head, back⟩ := (Option.any_eq_true _ _).mp back
    rw [Bool.and_eq_true, decide_eq_true_eq, Bool.not_eq_true'] at back
    cases last : n.tracker.lastSent with
    | none =>
      obtain ⟨other, latest, failed⟩ := dated.forgotten last
      obtain rfl := Option.some.inj (head.symm.trans latest)
      cases back.2.symm.trans failed
    | some sent =>
      obtain ⟨other, latest, same, -⟩ := kept.shown sent last
      obtain rfl := Option.some.inj (head.symm.trans latest)
      refine differs ?_
      rw [last, ← same, ← back.1, found]

end Notifier

namespace Actor

/-! ## All connectors -/

variable {a b : Actor} {minimum : Nat}

/-- Every connector is kept. -/
structure Keeps (minimum : Nat) (a : Actor) : Prop extends Ready minimum a where
  kept : ∀ id key, (a.notifier id).key = some key → (a.notifier id).Kept key

/-- Every connector is dated. -/
def Dates (a : Actor) (entered : ConnectorId → Instant) : Prop :=
  ∀ id key, (a.notifier id).key = some key → (a.notifier id).Dated (entered id)

/-- Some debounces lead from `a` to `b`. -/
structure Debounced (minimum : Nat) (a b : Actor) : Prop extends Keeps minimum b where
  key : ∀ id, (b.notifier id).key = (a.notifier id).key
  settled : ∀ id key, (a.notifier id).key = some key → (a.notifier id).Settled (b.notifier id) id key
  dates : ∀ entered, Dates a entered → Dates b entered

theorem Keeps.debounced (keeps : Keeps minimum a) : Debounced minimum a a :=
  { keeps with
    key := fun _ => rfl
    settled := fun _ _ _ => .inl rfl
    dates := fun _ dates => dates }

theorem statusTimerFired_missing {id : ConnectorId} (missing : (a.notifier id).key = none) :
    (a.cancelTimer (.statusDebounce id)).statusTimerFired id = a.cancelTimer (.statusDebounce id) := by
  have missing : ((a.cancelTimer (.statusDebounce id)).findConnector id).map statusKeyOf = none := missing
  unfold statusTimerFired
  rw [missing]

theorem Debounced.fire (debounced : Debounced minimum a b) (id : ConnectorId) :
    Debounced minimum a ((b.cancelTimer (.statusDebounce id)).statusTimerFired id) := by
  cases found : (b.notifier id).key with
  | none =>
    rw [statusTimerFired_missing found]
    have foreign {other : ConnectorId} {key : StatusKey} (known : (b.notifier other).key = some key) :
        (b.cancelTimer (.statusDebounce id)).notifier other = b.notifier other := by
      rw [notifier_cancelTimer, if_neg]
      rintro rfl
      cases found.symm.trans known
    refine { ready_cancelTimer debounced.toReady _ with
             kept := fun other key known => ?_, key := fun other => ?_, settled := fun other key known => ?_,
             dates := fun entered dates other key known => ?_ }
    · rw [foreign known]
      exact debounced.kept other key known
    · exact debounced.key other
    · rw [foreign ((debounced.key other).trans known)]
      exact debounced.settled other key known
    · rw [foreign known]
      exact debounced.dates entered dates other key known
  | some current =>
    have fired := notifier_statusTimerFired debounced.toReady found
    have key (other : ConnectorId) : (((b.cancelTimer (.statusDebounce id)).statusTimerFired id).notifier other).key =
        (b.notifier other).key := by
      rw [fired]
      split
      · rename_i same
        subst same
        exact Notifier.fired_key
      · rfl
    refine { ready_statusTimerFired debounced.toReady id with
             kept := fun other state known => ?_, key := fun other => (key other).trans (debounced.key other),
             settled := fun other state known => ?_, dates := fun entered dates other state known => ?_ }
    · rw [key] at known
      rw [fired]
      split
      · rename_i same
        subst same
        obtain rfl := Option.some.inj (found.symm.trans known)
        exact (debounced.kept _ _ known).fired
      · exact debounced.kept other state known
    · rw [fired]
      split
      · rename_i same
        subst same
        obtain rfl := Option.some.inj (found.symm.trans ((debounced.key other).trans known))
        exact (debounced.settled _ _ known).fired fun _ _ => rfl
      · exact debounced.settled other state known
    · rw [key] at known
      rw [fired]
      split
      · rename_i same
        subst same
        exact (debounced.dates entered dates _ _ known).fired
      · exact debounced.dates entered dates other state known

theorem Debounced.fires (debounced : Debounced minimum a b) (ids : List ConnectorId) :
    Debounced minimum a (ids.foldl (fun a id => (a.cancelTimer (.statusDebounce id)).statusTimerFired id) b) := by
  induction ids generalizing b with
  | nil => exact debounced
  | cons id ids ih => exact ih (debounced.fire id)

/-- What fired is not pending, and what is not pending stays so. -/
theorem pending_fires (keeps : Keeps minimum b) {id : ConnectorId} {key : StatusKey}
    (found : (b.notifier id).key = some key) (ids : List ConnectorId)
    (due : id ∈ ids ∨ (b.notifier id).tracker.pending = none) :
    ((ids.foldl (fun a id => (a.cancelTimer (.statusDebounce id)).statusTimerFired id) b).notifier id).tracker.pending =
      none := by
  induction ids generalizing b with
  | nil => exact due.resolve_left List.not_mem_nil
  | cons first ids ih =>
    have fires := keeps.debounced.fire first
    refine ih fires.toKeeps ((fires.key id).trans found) ?_
    by_cases same : id = first
    · subst same
      rw [notifier_statusTimerFired keeps.toReady found, if_pos rfl]
      exact .inr Notifier.fired_pending
    · refine due.imp (fun mem => (List.mem_cons.mp mem).resolve_left same) fun quiet => ?_
      rcases fires.settled id key found with unchanged | settled
      · rw [unchanged]
        exact quiet
      · exact settled.1

/-- A flush leaves nothing pending. -/
theorem pending_flushPendingStatuses (keeps : Keeps minimum a) {id : ConnectorId} {key : StatusKey}
    (found : (a.notifier id).key = some key) : ((a.flushPendingStatuses).notifier id).tracker.pending = none := by
  refine pending_fires keeps found _ ?_
  cases pending : (a.notifier id).tracker.pending with
  | none => exact .inr rfl
  | some held =>
    refine .inl ?_
    have pending : ((a.trackers.lookup id).getD {}).pending = some held := pending
    cases entry : a.trackers.lookup id with
    | none =>
      rw [entry] at pending
      cases pending
    | some tracker =>
      rw [entry] at pending
      obtain ⟨before, after, split, -⟩ := List.lookup_eq_some_iff.mp entry
      have listed : (id, tracker) ∈ a.trackers := by simp [split]
      refine (List.mem_insertionSort _).mpr (List.mem_map.mpr ⟨(id, tracker), List.mem_filter.mpr ⟨listed, ?_⟩, rfl⟩)
      exact Option.isSome_iff_exists.mpr ⟨held, pending⟩

/-! ## The other operations -/

open StatusBoard

theorem notifier_withConnector (id : ConnectorId) (edit : ConnectorSnapshot → ConnectorSnapshot) (other : ConnectorId) :
    (a.withConnector id (keepId edit)).notifier other =
      if other = id then
        { a.notifier id with key := ((a.findConnector id).map (keepId edit)).map statusKeyOf }
      else a.notifier other := by
  have rest : (a.withConnector id (keepId edit)).trackers = a.trackers ∧
      (a.withConnector id (keepId edit)).timers = a.timers ∧
      (a.withConnector id (keepId edit)).history = a.history := by
    unfold withConnector
    split <;> exact ⟨rfl, rfl, rfl⟩
  obtain ⟨trackers, timers, history⟩ := rest
  unfold notifier Actor.tracker
  rw [trackers, timers, history]
  split
  · rename_i same
    rw [same, findConnector_withConnector a id (f := keepId edit) fun _ => rfl]
  · rename_i distinct
    rw [findConnector_withConnector_other a (f := keepId edit) (fun _ => rfl) distinct]

theorem ready_withConnector (ready : Ready minimum a) (id : ConnectorId) (f : ConnectorSnapshot → ConnectorSnapshot) :
    Ready minimum (a.withConnector id f) := by
  unfold withConnector
  split <;> exact ⟨ready.talks, ready.minimum, ready.completed, ready.calls⟩

/-- A change of a connector that exists. -/
theorem notifier_change (ready : Ready minimum a) {id : ConnectorId} {before : StatusKey}
    (found : (a.notifier id).key = some before) (edit : ConnectorSnapshot → ConnectorSnapshot) :
    ∃ key call, (∀ key timestamp, (call key timestamp).request = .statusNotification (key.request id timestamp)) ∧
      ((a.withConnector id (keepId edit)).notifier id).key = some key ∧
      ∀ other, (act a (.change id edit)).notifier other =
        if other = id then ({ a.notifier id with key := some key } : Notifier).changed key a.now minimum call
        else a.notifier other := by
  obtain ⟨c, there, rfl⟩ := Option.map_eq_some_iff.mp found
  have changes := notifier_withConnector (a := a) id edit
  rw [there] at changes
  have known : ((a.withConnector id (keepId edit)).notifier id).key = some (statusKeyOf (keepId edit c)) := by
    rw [changes, if_pos rfl]
    rfl
  have now : (a.withConnector id (keepId edit)).now = a.now := by
    unfold withConnector
    split <;> rfl
  refine ⟨statusKeyOf (keepId edit c), (a.withConnector id (keepId edit)).statusCall id .station none,
    fun _ _ => rfl, known, fun other => ?_⟩
  have changed := notifier_statusChanged (ready_withConnector ready id (keepId edit)) known other
  refine Eq.trans changed ?_
  rw [changes id, if_pos rfl, changes other, now]
  split
  · rfl
  · rfl

theorem act_change_missing {id : ConnectorId} (missing : (a.notifier id).key = none)
    (edit : ConnectorSnapshot → ConnectorSnapshot) :
    act a (.change id edit) = a.withConnector id (keepId edit) ∧
      (a.withConnector id (keepId edit)).notifier = a.notifier := by
  have gone : a.findConnector id = none := Option.map_eq_none_iff.mp missing
  have same : (a.withConnector id (keepId edit)).notifier = a.notifier := by
    funext other
    rw [notifier_withConnector, gone]
    split
    · rename_i same
      rw [same]
      exact congrArg (fun key => ({ a.notifier id with key } : Notifier)) missing.symm
    · rfl
  refine ⟨statusChanged_missing ?_, same⟩
  rw [same]
  exact missing

theorem sendStatusForced_missing {id : ConnectorId} (missing : (a.notifier id).key = none) (origin : Origin)
    (reply : Option Reply) :
    a.sendStatusForced id origin reply = a.replyIf reply (.error (.unknownConnector id)) := by
  have gone : a.findConnector id = none := Option.map_eq_none_iff.mp missing
  unfold sendStatusForced
  rw [gone]
  rfl

/-- `MinimumStatusDuration` is set. -/
theorem act_setMinimum (ready : Ready minimum a) (seconds : Nat) : ∃ b, Ready seconds b ∧ b.notifier = a.notifier ∧
    act a (.setMinimum seconds) = if seconds = 0 then b.flushPendingStatuses else b := by
  have set : Ready seconds { a with registry := { a.registry with minimumStatusDuration := seconds } } :=
    ⟨ready.talks, rfl, ready.completed, ready.calls⟩
  have akin := flushNow_akin { a with registry := { a.registry with minimumStatusDuration := seconds } }
  refine ⟨_, akin.ready set, akin.notifier, ?_⟩
  unfold act applyConfigurationChange
  simp only [reduceCtorEq, if_false]
  rw [(akin.ready set).minimum]

theorem mem_notices {id : ConnectorId} {notice : Notice} (mem : notice ∈ (a.notifier id).notices) :
    ∃ reply, notice.call.continuation = .status id notice.key reply := by
  obtain ⟨event, -, sent⟩ := List.mem_filterMap.mp mem
  cases event with
  | called call =>
    dsimp only [Event.notice] at sent
    split at sent
    · rename_i target key reply continuation
      split at sent
      · rename_i same
        obtain rfl := Option.some.inj sent
        exact ⟨reply, by rw [continuation, same]⟩
      · cases sent
    · cases sent
  | _ => cases sent

/-- The answer to a notification. -/
theorem act_answer (ready : Ready minimum a) (token generation : Nat) (result : CallResult) :
    act a (.answer token generation result) = a ∨
    ∃ call id key reply, answering a token generation = some call ∧ call.continuation = .status id key reply ∧
      Ready minimum (act a (.answer token generation result)) ∧
      ∀ other, (act a (.answer token generation result)).notifier other =
        if other = id ∧ (decodeAny result).toBool = false then (a.notifier id).fail call key
        else a.notifier other := by
  dsimp only [act]
  split
  · rename_i answers
    obtain ⟨call, found, status⟩ := (Option.any_eq_true _ _).mp answers
    have status' := status
    unfold PendingCall.isStatus at status
    split at status
    · rename_i id key reply continuation
      refine .inr ⟨call, id, key, reply, found, continuation, ?_⟩
      unfold answering at found
      split at found
      · rename_i current
        have taken : Ready minimum { a with calls := a.calls.filter fun call => !(call.token == token) } :=
          ⟨ready.talks, ready.minimum, ready.completed, fun call mem => ready.calls call (List.mem_filter.mp mem).1⟩
        have done : a.onCallDone token generation result =
            complete call result { a with calls := a.calls.filter fun call => !(call.token == token) } := by
          unfold onCallDone
          rw [if_neg (not_not.mpr current), found]
        rw [done]
        exact ⟨ready_complete taken (ready.calls call (List.mem_of_find?_eq_some found)) status' result,
          notifier_complete continuation result⟩
      · cases found
    · cases status
  · exact .inl rfl

end Actor

namespace StatusBoard

/-! ## What happens in a move -/

/-- The debounce decides whether a notification goes out. -/
def debounces : StatusMove → Bool
  | .fire _ | .setMinimum _ => true
  | _ => false

/-- A notification of the state that connector `id` is in goes out from `s` to `s'`, with `timestamp`. -/
def Sends (s s' : StatusBoard) (id : ConnectorId) (timestamp : Instant) : Prop :=
  ∃ key call, (s'.notifier id).key = some key ∧
    (s'.notifier id).notices = { call, key, failed := false } :: (s.notifier id).notices ∧
    call.request = .statusNotification (key.request id timestamp)

/-- The move does not make the tracker forget a send that has not failed: a notification that fails while its state
is the last one sent is the last send itself, and once the last send of a state failed, `status_changed` is not
called for the same state again. -/
def Heeds (s : StatusBoard) : StatusMove → Prop
  | .answer token generation result =>
    ∀ call id key reply, answering s.actor token generation = some call → call.continuation = .status id key reply →
      (decodeAny result).toBool = false → (s.notifier id).tracker.lastSent = some key →
      (s.notifier id).notices.head?.map (·.call) = some call
  | .change id edit =>
    ((s.actor.withConnector id (keepId edit)).notifier id).key = (s.notifier id).key →
      s.actor.registry.minimumStatusDuration ≠ 0 → (s.notifier id).tracker.lastSent = none →
      (s.notifier id).tracker.pending ≠ none
  | _ => True

/-- Every move of the run heeds. -/
def HeedsAll (s : StatusBoard) : List (Instant × StatusMove) → Prop
  | [] => True
  | m :: moves => s.Heeds m.2 ∧ HeedsAll (s.move m.1 m.2) moves

/-- What holds of every board of a run. -/
structure Sound (s : StatusBoard) : Prop extends Keeps s.actor.registry.minimumStatusDuration s.actor where
  prompt : s.actor.registry.minimumStatusDuration = 0 →
    ∀ id key, (s.notifier id).key = some key → (s.notifier id).tracker.pending = none

variable {s : StatusBoard} {time : Instant}

theorem ready_now {a : Actor} {minimum : Nat} (ready : Ready minimum a) (now : Instant) :
    Ready minimum { a with now } := ⟨ready.talks, ready.minimum, ready.completed, ready.calls⟩

/-- The timers and a flush debounce. -/
theorem Sound.debounced (sound : s.Sound) (time : Instant) {m : StatusMove} (debounces : debounces m = true) :
    ∃ a minimum, a.notifier = s.actor.notifier ∧ Debounced minimum a (s.move time m).actor ∧
      (minimum = 0 → s.actor.registry.minimumStatusDuration = 0 ∨
        ∀ id key, (s.notifier id).key = some key → ((s.move time m).notifier id).tracker.pending = none) := by
  have ready := ready_now sound.toReady time
  cases m with
  | fire id =>
    have keeps : Keeps s.actor.registry.minimumStatusDuration { s.actor with now := time } :=
      { ready with kept := sound.kept }
    refine ⟨{ s.actor with now := time }, _, rfl, ?_, fun zero => .inl zero⟩
    show Debounced _ _ (act { s.actor with now := time } (.fire id))
    dsimp only [act]
    split
    · exact keeps.debounced.fire id
    · exact keeps.debounced
  | setMinimum seconds =>
    obtain ⟨b, ready', notifier, acts⟩ := act_setMinimum ready seconds
    have keeps : Keeps seconds b :=
      { ready' with
        kept := fun id key known => by
          rw [notifier] at known ⊢
          exact sound.kept id key known }
    have moved : (s.move time (.setMinimum seconds)).actor = if seconds = 0 then b.flushPendingStatuses else b := acts
    refine ⟨b, seconds, notifier, ?_, fun zero => .inr fun id key known => ?_⟩
    · rw [moved]
      split
      · exact keeps.debounced.fires _
      · exact keeps.debounced
    · unfold StatusBoard.notifier
      rw [moved, if_pos zero]
      have known : (b.notifier id).key = some key := by
        rw [notifier]
        exact known
      exact pending_flushPendingStatuses keeps known
  | _ => cases debounces

/-- The board of an actor that keeps its connectors. -/
theorem sound_of {minimum : Nat} (keeps : Keeps minimum s.actor)
    (prompt : minimum = 0 → ∀ id key, (s.notifier id).key = some key → (s.notifier id).tracker.pending = none) :
    s.Sound := by
  obtain rfl := keeps.minimum
  exact { keeps with prompt := prompt }

theorem fail_pending (n : Notifier) (call : PendingCall) (key : StatusKey) :
    (n.fail call key).tracker.pending = n.tracker.pending := by
  unfold Notifier.fail markFailed
  dsimp only
  split <;> rfl

/-- What a move does to the notifier of connector `id`, if the debounce does not decide. -/
inductive Moved (s : StatusBoard) (time : Instant) (id : ConnectorId) : StatusMove → Notifier → Prop
  | keep (m : StatusMove) : Moved s time id m (s.notifier id)
  | changed (edit : ConnectorSnapshot → ConnectorSnapshot) {before key : StatusKey}
      {call : StatusKey → Instant → PendingCall} (found : (s.notifier id).key = some before)
      (after : ((s.actor.withConnector id (keepId edit)).notifier id).key = some key)
      (request : ∀ key timestamp, (call key timestamp).request = .statusNotification (key.request id timestamp)) :
      Moved s time id (.change id edit)
        (({ s.notifier id with key := some key } : Notifier).changed key time
          s.actor.registry.minimumStatusDuration call)
  | forced (origin : Origin) (reply : Option Reply) {key : StatusKey} (found : (s.notifier id).key = some key)
      (call : StatusKey → Instant → PendingCall) :
      Moved s time id (.force id origin reply) ((s.notifier id).forced key time call)
  | failed {token generation : Nat} {result : CallResult} {call : PendingCall} {key : StatusKey} {reply : Option Reply}
      (found : answering s.actor token generation = some call) (status : call.continuation = .status id key reply)
      (fails : (decodeAny result).toBool = false) :
      Moved s time id (.answer token generation result) ((s.notifier id).fail call key)

theorem Sound.move_cases (sound : s.Sound) (time : Instant) {m : StatusMove} (plain : debounces m = false) :
    ∃ id n, Moved s time id m n ∧ Ready s.actor.registry.minimumStatusDuration (s.move time m).actor ∧
      ∀ other, (s.move time m).notifier other = if other = id then n else s.notifier other := by
  have ready := ready_now sound.toReady time
  have unchanged (same : (s.move time m).notifier = s.notifier)
      (steady : Ready s.actor.registry.minimumStatusDuration (s.move time m).actor) : ∃ id n, Moved s time id m n ∧
        Ready s.actor.registry.minimumStatusDuration (s.move time m).actor ∧
        ∀ other, (s.move time m).notifier other = if other = id then n else s.notifier other := by
    refine ⟨station, s.notifier station, .keep m, steady, fun other => ?_⟩
    rw [same]
    split
    · rename_i same
      rw [same]
    · rfl
  cases m with
  | fire id => cases plain
  | setMinimum seconds => cases plain
  | change id edit =>
    cases found : (s.notifier id).key with
    | none =>
      have kept := act_change_missing (a := { s.actor with now := time }) found edit
      refine unchanged ((congrArg Actor.notifier kept.1).trans kept.2) ?_
      show Ready _ (act { s.actor with now := time } (.change id edit))
      rw [kept.1]
      exact ready_withConnector ready _ _
    | some before =>
      obtain ⟨key, call, request, after, changed⟩ := notifier_change ready found edit
      have after : ((s.actor.withConnector id (keepId edit)).notifier id).key = some key := by
        rw [notifier_withConnector] at after ⊢
        exact after
      exact ⟨id, _, .changed edit found after request,
        ready_statusChanged (ready_withConnector ready _ _) id, changed⟩
  | force id origin reply =>
    cases found : (s.notifier id).key with
    | none =>
      have replied : act { s.actor with now := time } (.force id origin reply) =
          ({ s.actor with now := time }).replyIf reply (.error (.unknownConnector id)) :=
        sendStatusForced_missing (a := { s.actor with now := time }) found origin reply
      refine unchanged ((congrArg Actor.notifier replied).trans (notifier_reply reply _)) ?_
      show Ready _ (act { s.actor with now := time } (.force id origin reply))
      rw [replied]
      exact ready_reply ready _ _
    | some key =>
      exact ⟨id, _, .forced origin reply found _, ready_sendStatusForced ready found origin reply,
        notifier_sendStatusForced ready found origin reply⟩
  | answer token generation result =>
    rcases act_answer ready token generation result with same | ⟨call, id, key, reply, found, status, steady, done⟩
    · have moved : (s.move time (.answer token generation result)).actor = { s.actor with now := time } := same
      refine unchanged ?_ ?_
      · unfold notifier
        rw [moved]
        rfl
      · rw [moved]
        exact ready
    · cases fails : (decodeAny result).toBool with
      | false =>
        refine ⟨id, _, .failed found status fails, steady, fun other => (done other).trans ?_⟩
        simp only [fails, and_true]
        rfl
      | true =>
        refine unchanged (funext fun other => (done other).trans ?_) steady
        rw [if_neg (by simp [fails])]
        rfl

variable {id : ConnectorId} {m : StatusMove} {n : Notifier}

theorem Moved.kept (moved : Moved s time id m n) (sound : s.Sound) {key : StatusKey} (known : n.key = some key) :
    n.Kept key := by
  cases moved with
  | keep => exact sound.kept id key known
  | changed edit found after request =>
    rw [Notifier.changed_key] at known
    obtain rfl := Option.some.inj known
    exact (sound.kept _ _ found).changed
  | forced origin reply found call =>
    obtain rfl := Option.some.inj (found.symm.trans known)
    exact .forced
  | failed found status fails =>
    refine (sound.kept _ _ known).fail fun notice mem same => ?_
    obtain ⟨reply, continuation⟩ := mem_notices mem
    rw [same, status] at continuation
    cases continuation
    rfl

theorem Moved.prompt (moved : Moved s time id m n) (sound : s.Sound)
    (zero : s.actor.registry.minimumStatusDuration = 0) {key : StatusKey} (known : n.key = some key) :
    n.tracker.pending = none := by
  cases moved with
  | keep => exact sound.prompt zero id key known
  | changed edit found after request =>
    rw [zero]
    exact Notifier.changed_zero
  | forced origin reply found call => rfl
  | failed found status fails =>
    rw [fail_pending]
    exact sound.prompt zero id key known

/-- A move that heeds keeps the dates. -/
theorem Moved.dated (moved : Moved s time id m n) (sound : s.Sound) (dates : Dates s.actor s.entered)
    (heeds : s.Heeds m) {key : StatusKey} (known : n.key = some key) :
    n.Dated (if n.key = (s.notifier id).key then s.entered id else time) := by
  cases moved with
  | keep =>
    rw [if_pos rfl]
    exact dates id key known
  | changed edit found after request =>
    rename_i before current call
    rw [Notifier.changed_key, found]
    simp only [Option.some.injEq]
    refine (dates _ _ found).changed (sound.kept _ _ found) fun same => heeds ?_
    rw [after, found, same]
  | forced origin reply found call => exact .forced
  | failed found status fails =>
    rw [if_pos (show ((s.notifier id).fail _ _).key = (s.notifier id).key from rfl)]
    exact (dates _ _ known).fail (heeds _ _ _ _ found status fails)

/-- Without a minimum duration a change is sent at once. -/
theorem Moved.sends {edit : ConnectorSnapshot → ConnectorSnapshot} (moved : Moved s time id (.change id edit) n)
    (sound : s.Sound) (zero : s.actor.registry.minimumStatusDuration = 0) {key : StatusKey}
    (known : n.key = some key) (differs : n.key ≠ (s.notifier id).key) :
    ∃ call, n.notices = { call, key, failed := false } :: (s.notifier id).notices ∧
      call.request = .statusNotification (key.request id time) := by
  cases moved with
  | keep => exact absurd rfl differs
  | changed _ found after request =>
    rename_i before current call
    rw [Notifier.changed_key] at known differs
    obtain rfl := Option.some.inj known
    rw [found, ne_eq, Option.some.injEq] at differs
    refine ⟨call current time, ?_, request _ _⟩
    rw [zero]
    exact (sound.kept _ _ found).changed_sends (sound.prompt zero _ _ found) differs

theorem Sound.move (sound : s.Sound) (time : Instant) (m : StatusMove) : (s.move time m).Sound := by
  cases plain : debounces m with
  | true =>
    obtain ⟨a, minimum, same, debounced, quiet⟩ := sound.debounced time plain
    refine sound_of debounced.toKeeps fun zero id key known => ?_
    have known' : (a.notifier id).key = some key := (debounced.key id).symm.trans known
    rcases quiet zero with zero | quiet
    · have before : (a.notifier id).tracker.pending = none := by
        rw [same] at known' ⊢
        exact sound.prompt zero id key known'
      rcases debounced.settled id key known' with unchanged | settled
      · exact (congrArg (fun n : Notifier => n.tracker.pending) unchanged).trans before
      · exact settled.1
    · rw [same] at known'
      exact quiet id key known'
  | false =>
    obtain ⟨id, n, moved, steady, reads⟩ := sound.move_cases time plain
    refine sound_of { steady with kept := fun other key known => ?_ } fun zero other key known => ?_
    · have read : (s.move time m).actor.notifier other = _ := reads other
      rw [read] at known ⊢
      split at known
      · rename_i same
        rw [if_pos same]
        exact moved.kept sound known
      · rename_i distinct
        rw [if_neg distinct]
        exact sound.kept other key known
    · rw [reads] at known ⊢
      split at known
      · rename_i same
        rw [if_pos same]
        exact moved.prompt sound zero known
      · rename_i distinct
        rw [if_neg distinct]
        exact sound.prompt zero other key known

theorem Sound.dates (sound : s.Sound) (dates : Dates s.actor s.entered) (time : Instant) {m : StatusMove}
    (heeds : s.Heeds m) : Dates (s.move time m).actor (s.move time m).entered := by
  have entered (id : ConnectorId) : (s.move time m).entered id =
      if ((s.move time m).notifier id).key = (s.notifier id).key then s.entered id else time := rfl
  cases plain : debounces m with
  | true =>
    obtain ⟨a, minimum, same, debounced, -⟩ := sound.debounced time plain
    intro id key known
    rw [entered, if_pos]
    · refine debounced.dates s.entered (fun other state there => ?_) id key known
      rw [same] at there ⊢
      exact dates other state there
    · refine (debounced.key id).trans ?_
      rw [same]
      rfl
  | false =>
    obtain ⟨id, n, moved, -, reads⟩ := sound.move_cases time plain
    intro other key known
    have read : (s.move time m).actor.notifier other = _ := reads other
    rw [entered, reads]
    rw [read] at known ⊢
    split at known
    · rename_i same
      subst same
      rw [if_pos rfl]
      exact moved.dated sound dates heeds known
    · rename_i distinct
      rw [if_neg distinct, if_pos rfl]
      exact dates other key known

/-! ## Runs -/

/-- The boot was accepted, and the statuses have just been sent again. -/
def Opens (s : StatusBoard) : Prop := ∃ minimum a, Ready minimum a ∧ s.actor = a.resendAllStatuses

/-- A station that can send is ready, whatever led to it: `fates_preserved`. -/
theorem ready_of_fates {a : Actor} {rest : List PendingCall} {hand : Hand} (fates : Fates (a.ledger rest hand))
    (talks : a.canTalk = true) : Ready a.registry.minimumStatusDuration a where
  talks := talks
  minimum := rfl
  completed := fun call result mem => by
    have completed : call ∈ completedOf (a.ledger rest hand).history :=
      List.mem_filterMap.mpr ⟨_, mem, rfl⟩
    exact fates.drawn call (fates.fates.mem_iff.mpr (List.mem_append_left _ (List.mem_append_right _ completed)))
  calls := fun call mem => fates.drawn call (fates.mem_called (List.mem_append_right _ mem))

/-- What a connector is like whose status has just been sent. -/
def Fresh (n : Notifier) (key : StatusKey) : Prop :=
  n.Kept key ∧ n.tracker.pending = none ∧ ∀ entered, n.Dated entered

theorem fresh_resends {minimum : Nat} (ids : List ConnectorId) {a : Actor} (ready : Ready minimum a)
    (fresh : ∀ id key, (a.notifier id).key = some key → id ∈ ids ∨ Fresh (a.notifier id) key) :
    Ready minimum (ids.foldl (fun a id => a.sendStatusForced id .station none) a) ∧
      ∀ id key, ((ids.foldl (fun a id => a.sendStatusForced id .station none) a).notifier id).key = some key →
        Fresh ((ids.foldl (fun a id => a.sendStatusForced id .station none) a).notifier id) key := by
  induction ids generalizing a with
  | nil => exact ⟨ready, fun id key known => (fresh id key known).resolve_left List.not_mem_nil⟩
  | cons first ids ih =>
    cases found : (a.notifier first).key with
    | none =>
      rw [List.foldl_cons, sendStatusForced_missing found]
      refine ih ready fun id key known => ?_
      rcases fresh id key known with mem | done
      · refine .inl ((List.mem_cons.mp mem).resolve_left ?_)
        rintro rfl
        cases found.symm.trans known
      · exact .inr done
    | some current =>
      have forced := notifier_sendStatusForced ready found .station none
      refine ih (ready_sendStatusForced ready found .station none) fun id key known => ?_
      rw [forced] at known ⊢
      split at known
      · rename_i same
        rw [if_pos same]
        obtain rfl := Option.some.inj (found.symm.trans known)
        exact .inr ⟨.forced, rfl, fun _ => .forced⟩
      · rename_i distinct
        rw [if_neg distinct]
        exact (fresh id key known).imp (fun mem => (List.mem_cons.mp mem).resolve_left distinct) fun done => done

/-- Every connector is among those whose status is sent again. -/
theorem mem_resent {a : Actor} {id : ConnectorId} {key : StatusKey} (known : (a.notifier id).key = some key) :
    id ∈ station :: a.connectors.map (·.id) := by
  obtain ⟨c, found, -⟩ := Option.map_eq_some_iff.mp known
  unfold findConnector at found
  split at found
  · rename_i charge
    rw [beq_iff_eq.mp charge]
    exact List.mem_cons_self
  · have same : c.id = id := by simpa using List.find?_some found
    exact List.mem_cons_of_mem _ (same ▸ List.mem_map_of_mem (List.mem_of_find?_eq_some found))

theorem Opens.sound (opens : s.Opens) : s.Sound ∧ Dates s.actor s.entered := by
  obtain ⟨minimum, a, ready, same⟩ := opens
  obtain ⟨steady, fresh⟩ := fresh_resends _ ready fun id key known => .inl (mem_resent known)
  have fresh (id : ConnectorId) (key : StatusKey) (known : (s.actor.notifier id).key = some key) :
      Fresh (s.actor.notifier id) key := by
    rw [same] at known ⊢
    exact fresh id key known
  have steady : Ready minimum s.actor := same ▸ steady
  exact ⟨sound_of { steady with kept := fun id key known => (fresh id key known).1 }
    fun _ id key known => (fresh id key known).2.1, fun id key known => (fresh id key known).2.2 _⟩

theorem Sound.run (sound : s.Sound) (moves : List (Instant × StatusMove)) : (s.run moves).Sound := by
  induction moves generalizing s with
  | nil => exact sound
  | cons m moves ih => exact ih (sound.move m.1 m.2)

theorem dates_run (sound : s.Sound) (dates : Dates s.actor s.entered) (moves : List (Instant × StatusMove))
    (heeds : s.HeedsAll moves) : Dates (s.run moves).actor (s.run moves).entered := by
  induction moves generalizing s with
  | nil => exact dates
  | cons m moves ih => exact ih (sound.move m.1 m.2) (sound.dates dates m.1 heeds.1) heeds.2

/-! ## The law -/

/-- A board from which every notification comes at the right time. -/
structure Covers (s : StatusBoard) : Prop where
  covered : ∀ id key, (s.notifier id).key = some key → (s.notifier id).Covered key
  /-- Without a minimum duration nothing is pending, and every change is sent at once. -/
  prompt : s.actor.registry.minimumStatusDuration = 0 →
    ∀ id key, (s.notifier id).key = some key → (s.notifier id).tracker.pending = none
  immediate : s.actor.registry.minimumStatusDuration = 0 → ∀ time id edit key,
    ((s.move time (.change id edit)).notifier id).key = some key → (s.notifier id).key ≠ some key →
    Sends s (s.move time (.change id edit)) id time
  /-- The debounce sends the state that the connector is in, if it sends. -/
  current : ∀ time m, debounces m = true → ∀ id key, (s.notifier id).key = some key →
    ((s.move time m).notifier id).notices = (s.notifier id).notices ∨ ∃ timestamp, Sends s (s.move time m) id timestamp

/-- The same, and the debounce sends nothing twice and with the right timestamp. -/
structure Disciplined (s : StatusBoard) : Prop extends Covers s where
  silent : ∀ time m, debounces m = true → ∀ id key, (s.notifier id).key = some key → (s.notifier id).isBack = true →
    ((s.move time m).notifier id).notices = (s.notifier id).notices
  dated : ∀ time m, debounces m = true → ∀ id key, (s.notifier id).key = some key →
    ((s.move time m).notifier id).notices = (s.notifier id).notices ∨ Sends s (s.move time m) id (s.entered id)

/-- What a debounce does to a connector. -/
theorem Sound.settled (sound : s.Sound) (time : Instant) {m : StatusMove} (decides : debounces m = true) {id : ConnectorId}
    {key : StatusKey} (known : (s.notifier id).key = some key) :
    ((s.move time m).notifier id).key = some key ∧ (s.notifier id).Settled ((s.move time m).notifier id) id key := by
  obtain ⟨a, minimum, same, debounced, -⟩ := sound.debounced time decides
  have same : a.notifier id = s.notifier id := congrFun same id
  refine ⟨(debounced.key id).trans ?_, ?_⟩
  · rw [same]
    exact known
  · rw [← same]
    exact debounced.settled id key (by rw [same]; exact known)

theorem Sound.covers (sound : s.Sound) : s.Covers where
  covered := fun id key known => (sound.kept id key known).covered
  prompt := sound.prompt
  immediate := fun zero time id edit key known differs => by
    obtain ⟨changed, n, moved, -, reads⟩ := sound.move_cases time (m := .change id edit) rfl
    rw [reads] at known
    split at known
    · rename_i same
      subst same
      obtain ⟨call, notices, request⟩ := moved.sends sound zero known (by rw [known]; exact Ne.symm differs)
      refine ⟨key, call, ?_, ?_, request⟩
      · rw [reads, if_pos rfl]
        exact known
      · rw [reads, if_pos rfl]
        exact notices
    · exact absurd known differs
  current := fun time m decides id key known => by
    obtain ⟨after, settled⟩ := sound.settled time decides known
    rcases settled with same | ⟨-, same | ⟨-, call, _, since, -, notices, request⟩⟩
    · exact .inl (congrArg Notifier.notices same)
    · exact .inl same
    · exact .inr ⟨since, key, call, after, notices, request⟩

theorem Sound.disciplined (sound : s.Sound) (dates : Dates s.actor s.entered) : s.Disciplined where
  toCovers := sound.covers
  silent := fun time m decides id key known back =>
    (sound.settled time decides known).2.silent known (sound.kept id key known) (dates id key known) back
  dated := fun time m decides id key known => by
    obtain ⟨after, settled⟩ := sound.settled time decides known
    rcases settled with same | ⟨-, same | ⟨-, call, _, since, held, notices, request⟩⟩
    · exact .inl (congrArg Notifier.notices same)
    · exact .inl same
    · obtain rfl := (dates id key known).since _ _ held
      exact .inr ⟨key, call, after, notices, request⟩

/-- Every board of a run covers the states of its connectors. As long as the moves heed, the notifications are
disciplined. -/
theorem status_disciplined (opens : s.Opens) (moves : List (Instant × StatusMove)) :
    (s.run moves).Covers ∧ (s.HeedsAll moves → (s.run moves).Disciplined) := by
  obtain ⟨sound, dates⟩ := opens.sound
  exact ⟨(sound.run moves).covers, fun heeds => (sound.run moves).disciplined (dates_run sound dates moves heeds)⟩

/-- A station with one connector whose boot was accepted at time `0`; a state must last five seconds. -/
def opened : StatusBoard :=
  { actor := ({ config := {}, now := 0, mono := 0, connectors := [newConnector 1], chargePoint := newConnector 0
                registration := some .accepted, registry := { minimumStatusDuration := 5 }, nextLocal := 0
                link := { conn := true, generation := 1 } } : Actor).resendAllStatuses
    entered := fun _ => 0 }

theorem opened_opens : opened.Opens :=
  ⟨5, _, ⟨rfl, rfl, fun _ _ mem => absurd mem List.not_mem_nil, fun _ mem => absurd mem List.not_mem_nil⟩, rfl⟩

/-- Connector 1 gets the status `status`. -/
def becomes (status : ConnectorStatus) : StatusMove := .change 1 fun c => { c with status }

/-- The connector goes to `Preparing`, which lasts long enough. -/
def lasting : List (Instant × StatusMove) := [(3, becomes .preparing), (8, .fire 1)]

theorem status_disciplined_lasting : opened.HeedsAll lasting ∧ (opened.run lasting).Disciplined ∧
    ((opened.run lasting).notifier 1).notices.length = 2 := by
  have heeds : opened.HeedsAll lasting := ⟨fun same => absurd same (by decide), trivial, trivial⟩
  exact ⟨heeds, (status_disciplined opened_opens lasting).2 heeds, by decide⟩

/-- The status is sent twice, the first of the two fails, and the connector goes to `Preparing` and back. -/
def lateFailure : List (Instant × StatusMove) :=
  [(1, .force 1 .triggered none), (2, .answer 1 1 (.error .timeout)), (3, becomes .preparing), (4, becomes .available)]

/-- The status fails, and it is set again. -/
def setAgain : List (Instant × StatusMove) := [(1, .answer 1 1 (.error .timeout)), (9, becomes .available)]

/-- The state of connector 1 at the start. -/
def available : StatusKey := statusKeyOf (newConnector 1)

/-- A late failure makes the tracker forget a later send of the same state, and a debounce repeats it. A repeated
`status_changed` after a failure dates the state anew. -/
theorem lateFailure_not_disciplined :
    opened.Opens ∧ ¬(opened.run lateFailure).Disciplined ∧ ¬(opened.run setAgain).Disciplined := by
  refine ⟨opened_opens, fun disciplined => ?_, fun disciplined => ?_⟩
  · have silent := disciplined.silent 9 (.fire 1) rfl 1 available (by decide) (by decide)
    exact absurd (congrArg List.length silent) (by decide)
  · rcases disciplined.dated 14 (.fire 1) rfl 1 available (by decide) with silent | ⟨key, call, -, notices, request⟩
    · exact absurd (congrArg List.length silent) (by decide)
    · have timestamps := congrArg (fun notices => notices.head?.map (·.call.request)) notices
      rw [List.head?_cons, Option.map_some, request] at timestamps
      have sent : (((opened.run setAgain).move 14 (.fire 1)).notifier 1).notices.head?.map (·.call.request) =
          some (.statusNotification (available.request 1 9)) := by decide
      rw [sent] at timestamps
      have dates := congrArg (·.timestamp) (Request.statusNotification.inj (Option.some.inj timestamps))
      exact absurd (Option.some.inj dates) (by decide)

end StatusBoard

end KirbyOcpp
