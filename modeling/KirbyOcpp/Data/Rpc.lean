import Mathlib

/-!
# Remote calls, one at a time

The abstract protocol of an endpoint that calls a peer and is called by it. Callers wait in line; at
most one call is outstanding; a response settles the outstanding call only if it carries its id; a
caller may give up at any time. A call of the peer is handled until its reply is sent, and another one
with the same id is ignored until then.

The protocol is what may happen in a state (`Enabled`) and what it makes of the state (`next`). A
`Trace` is a log of events, latest first, each of which was enabled.

**The law** `Trace.serialized`: a trace has at most one call outstanding, keeps the order of the
callers, resolves no caller twice and none by a response that is not the first one to its own call, and
replies to no call of the peer twice.
-/

namespace KirbyOcpp.Rpc

variable {C I R : Type*} [DecidableEq C] [DecidableEq I]

/-! ## The protocol -/

structure State (C I : Type*) where
  /-- Callers in line. -/
  waiting : List C := []
  /-- The call that is sent and not settled. -/
  outstanding : Option (C × I) := none
  /-- Ids of the calls sent so far. -/
  used : List I := []
  /-- Callers that gave up. -/
  gone : List C := []
  /-- Callers that are resolved or withdrawn. -/
  settled : List C := []
  /-- Calls of the peer that have no reply yet. -/
  handling : List I := []
  /-- The connection is about to end: nothing is sent any more. -/
  closing : Bool := false

/-- What becomes of a call of the peer. -/
inductive Outcome where
  | delivered
  /-- Answered on the spot. -/
  | rejected
  /-- A copy of a call that is being handled. -/
  | ignored
  /-- The connection ended first. -/
  | lost
deriving DecidableEq

inductive Event (C I R : Type*) where
  | submitted (caller : C)
  | gaveUp (caller : C)
  /-- Taken out of the line. -/
  | withdrawn (caller : C)
  | sent (caller : C) (id : I)
  /-- A response arrived; the caller it resolved. -/
  | answered (id : I) (resolved : Option (C × R))
  | expired (id : I) (resolved : Option (C × R))
  /-- The end of the connection settled a caller. -/
  | failed (caller : C) (resolved : Option (C × R))
  | inbound (id : I) (valid : Bool) (outcome : Outcome)
  | replied (id : I)
  | ended

/-- What a caller gets: nothing once it gave up. -/
def State.reached (s : State C I) (caller : C) (result : R) : Option (C × R) :=
  if caller ∈ s.gone then none else some (caller, result)

/-- What may happen. -/
def Enabled (s : State C I) : Event C I R → Prop
  | .submitted c => s.closing = false ∧ c ∉ s.waiting ∧ c ∉ s.settled ∧ ∀ i, s.outstanding ≠ some (c, i)
  | .gaveUp _ => True
  | .withdrawn c => c ∈ s.waiting ∧ c ∈ s.gone
  | .sent c i => s.waiting.head? = some c ∧ s.outstanding = none ∧ i ∉ s.used ∧ s.closing = false
  | .answered i resolved =>
    (∃ c r, s.outstanding = some (c, i) ∧ resolved = s.reached c r) ∨
      ((∀ c, s.outstanding ≠ some (c, i)) ∧ resolved = none)
  | .expired i resolved => ∃ c r, s.outstanding = some (c, i) ∧ resolved = s.reached c r
  | .failed c resolved =>
    (c ∈ s.waiting ∨ ∃ i, s.outstanding = some (c, i)) ∧ ∃ r, resolved = s.reached c r
  | .inbound i valid outcome =>
    match outcome with
    | .delivered => valid = true ∧ i ∉ s.handling
    | .rejected => valid = false ∧ i ∉ s.handling
    | .ignored => i ∈ s.handling
    | .lost => True
  | .replied i => i ∈ s.handling
  | .ended => s.waiting = [] ∧ s.outstanding = none

/-- The call with the id `i` is settled. -/
def State.settle (s : State C I) (i : I) : State C I :=
  match s.outstanding with
  | some (c, j) => if j = i then { s with outstanding := none, settled := c :: s.settled } else s
  | none => s

/-- What the event makes of the state. -/
def next (s : State C I) : Event C I R → State C I
  | .submitted c => { s with waiting := s.waiting ++ [c] }
  | .gaveUp c => { s with gone := c :: s.gone }
  | .withdrawn c => { s with waiting := s.waiting.erase c, settled := c :: s.settled }
  | .sent c i => { s with waiting := s.waiting.tail, outstanding := some (c, i), used := i :: s.used }
  | .answered i _ | .expired i _ => s.settle i
  | .failed c _ =>
    { s with
      waiting := s.waiting.erase c
      outstanding := s.outstanding.filter fun call => decide (call.1 ≠ c)
      settled := c :: s.settled, closing := true }
  | .inbound i _ outcome =>
    match outcome with
    | .delivered => { s with handling := i :: s.handling }
    | .lost => { s with closing := true }
    | _ => s
  | .replied i => { s with handling := s.handling.filter fun j => decide (j ≠ i) }
  | .ended => { s with handling := [], closing := true }

/-- A log of events, latest first, and the state it leads to. -/
inductive Trace : List (Event C I R) → State C I → Prop
  | nil : Trace [] {}
  | cons {log : List (Event C I R)} {s : State C I} (past : Trace log s) (event : Event C I R)
      (enabled : Enabled s event) : Trace (event :: log) (next s event)

/-! ## Reading a log -/

/-- The callers that submitted, latest first. -/
def submissions (log : List (Event C I R)) : List C :=
  log.filterMap fun event => match event with
    | .submitted c => some c
    | _ => none

/-- The callers whose calls were sent, latest first. -/
def senders (log : List (Event C I R)) : List C :=
  log.filterMap fun event => match event with
    | .sent c _ => some c
    | _ => none

/-- The callers that got a result, latest first. -/
def resolutions (log : List (Event C I R)) : List C :=
  log.filterMap fun event => match event with
    | .answered _ resolved | .expired _ resolved | .failed _ resolved => resolved.map (·.1)
    | _ => none

/-- The event settles the call of `c` with the id `i`. -/
def Event.settles (c : C) (i : I) : Event C I R → Prop
  | .answered j _ | .expired j _ => j = i
  | .failed d _ => d = c
  | _ => False

/-- The call of `c` was sent with the id `i` and nothing has settled it since. -/
def Awaits (log : List (Event C I R)) (c : C) (i : I) : Prop :=
  ∃ later earlier, log = later ++ .sent c i :: earlier ∧ ∀ event ∈ later, ¬ event.settles c i

/-- The call `i` of the peer was delivered, and not replied to since. -/
def Handled (log : List (Event C I R)) (i : I) : Prop :=
  ∃ later earlier, log = later ++ .inbound i true .delivered :: earlier ∧ .replied i ∉ later ∧
    .ended ∉ later

/-- What holds of the log of a connection. -/
structure Serialized (log : List (Event C I R)) : Prop where
  /-- A call is only sent when none is outstanding. -/
  one : ∀ c i past, .sent c i :: past <:+ log → ∀ d j, ¬ Awaits past d j
  /-- Calls are sent in the order of their submission. -/
  order : (senders log).Sublist (submissions log)
  /-- A caller that is overtaken has given up. -/
  skipped : ∀ c d i later before, .sent d i :: (later ++ .submitted d :: before) <:+ log →
    c ∈ submissions before →
      c ∈ senders (later ++ .submitted d :: before) ∨ .gaveUp c ∈ later ++ .submitted d :: before
  /-- No caller is resolved twice. -/
  once : (resolutions log).Nodup
  /-- At the end every caller is resolved or has given up. -/
  complete : .ended ∈ log → ∀ c ∈ submissions log, c ∈ resolutions log ∨ .gaveUp c ∈ log
  /-- A response resolves only the caller whose call awaits it. -/
  attributed : ∀ i c r past, .answered i (some (c, r)) :: past <:+ log → Awaits past c i
  /-- The first response to a call resolves its caller, unless it gave up. -/
  heeded : ∀ i c resolved past, .answered i resolved :: past <:+ log → Awaits past c i →
    .gaveUp c ∈ past ∨ ∃ r, resolved = some (c, r)
  expiry : ∀ i c r past, .expired i (some (c, r)) :: past <:+ log → Awaits past c i
  /-- A call of the peer is neither delivered nor answered while one with its id is handled. -/
  fresh : ∀ i valid outcome past, .inbound i valid outcome :: past <:+ log → Handled past i →
    outcome = .ignored ∨ outcome = .lost
  /-- Every other one is delivered if it is valid. -/
  delivered : ∀ i outcome past, .inbound i true outcome :: past <:+ log → ¬ Handled past i →
    outcome = .delivered ∨ outcome = .lost
  /-- A reply answers a call that is being handled. -/
  replies : ∀ i past, .replied i :: past <:+ log → Handled past i

/-! ## Reading one more event -/

section Cons

omit [DecidableEq C] [DecidableEq I]

variable {log : List (Event C I R)} {event : Event C I R} {c : C} {i : I}

theorem awaits_cons :
    Awaits (event :: log) c i ↔ event = .sent c i ∨ Awaits log c i ∧ ¬ event.settles c i := by
  constructor
  · rintro ⟨later, earlier, eq, none⟩
    cases later with
    | nil => exact .inl (List.cons.inj eq).1
    | cons first later =>
      obtain ⟨rfl, rfl⟩ := List.cons.inj eq
      exact .inr ⟨⟨later, earlier, rfl, fun e mem => none e (List.mem_cons_of_mem _ mem)⟩,
        none _ List.mem_cons_self⟩
  · rintro (rfl | ⟨⟨later, earlier, rfl, none⟩, open'⟩)
    · exact ⟨[], log, rfl, fun e mem => nomatch mem⟩
    · exact ⟨event :: later, earlier, rfl, List.forall_mem_cons.mpr ⟨open', none⟩⟩

theorem handled_cons :
    Handled (event :: log) i ↔
      event = .inbound i true .delivered ∨ Handled log i ∧ event ≠ .replied i ∧ event ≠ .ended := by
  constructor
  · rintro ⟨later, earlier, eq, open', going⟩
    cases later with
    | nil => exact .inl (List.cons.inj eq).1
    | cons first later =>
      obtain ⟨rfl, rfl⟩ := List.cons.inj eq
      simp only [List.mem_cons, not_or] at open' going
      exact .inr ⟨⟨later, earlier, rfl, open'.2, going.2⟩, Ne.symm open'.1, Ne.symm going.1⟩
  · rintro (rfl | ⟨⟨later, earlier, rfl, open', going⟩, unanswered, running⟩)
    · exact ⟨[], log, rfl, by simp, by simp⟩
    · exact ⟨event :: later, earlier, rfl, by simp [open', Ne.symm unanswered],
        by simp [going, Ne.symm running]⟩

end Cons

/-! ## The state a log leads to -/

/-- The callers of the state. -/
def State.callers (s : State C I) : List C :=
  s.waiting ++ s.outstanding.toList.map (·.1) ++ s.settled

/-- How the state of a trace reads its log. -/
structure Reads (log : List (Event C I R)) (s : State C I) : Prop where
  callers : (submissions log).Perm s.callers
  nodup : (submissions log).Nodup
  gone : ∀ c, c ∈ s.gone ↔ .gaveUp c ∈ log
  order : (s.waiting.reverse ++ senders log).Sublist (submissions log)
  unsent : s.closing = false → ∀ c ∈ s.settled, c ∈ senders log ∨ .gaveUp c ∈ log
  resolved : ∀ c ∈ resolutions log, c ∈ s.settled
  once : (resolutions log).Nodup
  settled : ∀ c ∈ s.settled, c ∈ resolutions log ∨ .gaveUp c ∈ log
  awaits : ∀ c i, s.outstanding = some (c, i) ↔ Awaits log c i
  handled : ∀ i, i ∈ s.handling ↔ Handled log i
  complete : .ended ∈ log → s.waiting = [] ∧ s.outstanding = none ∧ s.closing = true

/-! ## Every event keeps the reading -/

section Step

variable {log : List (Event C I R)} {s : State C I}

omit [DecidableEq C] [DecidableEq I] in
/-- An event that is no send, no settlement and no call of the peer leaves what a log says as it is. -/
theorem awaits_aside (h : Reads log s) {event : Event C I R} (sends : ∀ c i, event ≠ .sent c i)
    (settles : ∀ c i, ¬ event.settles c i) (c : C) (i : I) :
    s.outstanding = some (c, i) ↔ Awaits (event :: log) c i := by
  rw [awaits_cons, h.awaits]
  exact ⟨fun open' => .inr ⟨open', settles c i⟩, fun both => (both.resolve_left (sends c i)).1⟩

omit [DecidableEq C] [DecidableEq I] in
theorem gone_aside (h : Reads log s) {event : Event C I R} (keen : ∀ c, event ≠ .gaveUp c) (c : C) :
    c ∈ s.gone ↔ .gaveUp c ∈ event :: log := by
  rw [h.gone, List.mem_cons]
  exact ⟨.inr, fun either => either.resolve_left (Ne.symm (keen c))⟩

omit [DecidableEq C] [DecidableEq I] in
theorem handled_aside (h : Reads log s) {event : Event C I R}
    (outside : ∀ i, event ≠ .inbound i true .delivered ∧ event ≠ .replied i ∧ event ≠ .ended) (i : I) :
    i ∈ s.handling ↔ Handled (event :: log) i := by
  rw [handled_cons, h.handled]
  exact ⟨fun open' => .inr ⟨open', (outside i).2⟩, fun both => (both.resolve_left (outside i).1).1⟩

omit [DecidableEq C] [DecidableEq I] in
/-- What was known of a caller stays known. -/
theorem later_of {P : C → Prop} {event : Event C I R} {c : C} (known : P c ∨ .gaveUp c ∈ log) :
    P c ∨ .gaveUp c ∈ event :: log := known.imp_right (List.mem_cons_of_mem _)

theorem Reads.gaveUp (h : Reads log s) (c : C) : Reads (.gaveUp c :: log) (next s (.gaveUp c : Event C I R)) where
  callers := h.callers
  nodup := h.nodup
  gone d := by
    change d ∈ c :: s.gone ↔ _
    rw [List.mem_cons, List.mem_cons, h.gone]
    simp
  order := h.order
  unsent going d mem := later_of (h.unsent going d mem)
  resolved := h.resolved
  once := h.once
  settled d mem := later_of (h.settled d mem)
  awaits := awaits_aside h (by simp) (by simp [Event.settles])
  handled := handled_aside h (by simp)
  complete mem := h.complete (by simpa using mem)

theorem Reads.submitted (h : Reads log s) {c : C} (enabled : Enabled s (.submitted c : Event C I R)) :
    Reads (.submitted c :: log) (next s (.submitted c : Event C I R)) where
  callers := by
    have moved : (c :: s.callers).Perm (next s (.submitted c : Event C I R)).callers := by
      unfold State.callers next
      simp only [List.append_assoc, List.singleton_append]
      exact List.perm_middle.symm
    exact (h.callers.cons c).trans moved
  nodup := by
    obtain ⟨-, waiting, settled, outstanding⟩ := enabled
    refine List.nodup_cons.mpr ⟨fun mem => ?_, h.nodup⟩
    have known : c ∈ s.callers := h.callers.mem_iff.mp mem
    simp only [State.callers, List.mem_append, List.mem_map, Option.mem_toList] at known
    rcases known with (inLine | ⟨⟨d, i⟩, open', rfl⟩) | atop
    · exact waiting inLine
    · exact outstanding i open'
    · exact settled atop
  gone := gone_aside h (by simp)
  order := by
    change ((s.waiting ++ [c]).reverse ++ senders log).Sublist (c :: submissions log)
    rw [List.reverse_append]
    exact h.order.cons_cons c
  unsent going d mem := later_of (h.unsent going d mem)
  resolved := h.resolved
  once := h.once
  settled d mem := later_of (h.settled d mem)
  awaits := awaits_aside h (by simp) (by simp [Event.settles])
  handled := handled_aside h (by simp)
  complete mem := by
    have atop := h.complete (by simpa using mem)
    rw [enabled.1] at atop
    cases atop.2.2

theorem Reads.sent (h : Reads log s) {c : C} {i : I} (enabled : Enabled s (.sent c i : Event C I R)) :
    Reads (.sent c i :: log) (next s (.sent c i : Event C I R)) := by
  obtain ⟨head, free, fresh, going⟩ := enabled
  obtain ⟨rest, line⟩ : ∃ rest, s.waiting = c :: rest := by
    cases eq : s.waiting with
    | nil => simp [eq] at head
    | cons first rest => simp [eq] at head; exact ⟨rest, by rw [head]⟩
  refine { h with callers := ?_, gone := ?_, order := ?_, unsent := ?_, settled := ?_, awaits := ?_
                  handled := ?_, complete := ?_ }
  · have same : (next s (.sent c i : Event C I R)).callers = rest ++ [c] ++ s.settled := by
      simp [State.callers, next, line]
    rw [same]
    refine h.callers.trans ?_
    have before : s.callers = c :: (rest ++ s.settled) := by simp [State.callers, line, free]
    rw [before, List.append_assoc, List.singleton_append]
    exact List.perm_middle.symm
  · exact gone_aside h (by simp)
  · have order := h.order
    rw [line] at order
    change (s.waiting.tail.reverse ++ c :: senders log).Sublist (submissions log)
    simpa [line] using order
  · intro _ d mem
    rcases h.unsent going d mem with sent | gone
    · exact .inl (List.mem_cons_of_mem _ sent)
    · exact .inr (List.mem_cons_of_mem _ gone)
  · exact fun d mem => later_of (h.settled d mem)
  · intro d j
    rw [awaits_cons, ← h.awaits, free]
    change some (c, i) = some (d, j) ↔ _
    simp
  · exact handled_aside h (by simp)
  · intro mem
    have atop := h.complete (by simpa using mem)
    rw [going] at atop
    cases atop.2.2

omit [DecidableEq C] [DecidableEq I] in
theorem Awaits.sender {c : C} {i : I} (h : Awaits log c i) : c ∈ senders log := by
  obtain ⟨later, earlier, rfl, -⟩ := h
  refine List.mem_filterMap.mpr ⟨.sent c i, by simp, rfl⟩

omit [DecidableEq I] in
theorem State.reached_cases {c : C} {r : R} {resolved : Option (C × R)} (h : resolved = s.reached c r) :
    c ∈ s.gone ∧ resolved = none ∨ ∃ r, resolved = some (c, r) := by
  unfold State.reached at h
  split at h
  case isTrue gone => exact .inl ⟨gone, h⟩
  case isFalse => exact .inr ⟨r, h⟩

omit [DecidableEq C] [DecidableEq I] in
/-- A caller in line has no call on the wire. -/
theorem Reads.apart (h : Reads log s) {c : C} (inLine : c ∈ s.waiting) (i : I) :
    s.outstanding ≠ some (c, i) := by
  intro open'
  have nodup : s.callers.Nodup := h.callers.nodup_iff.mp h.nodup
  unfold State.callers at nodup
  rw [open', List.nodup_append, List.nodup_append] at nodup
  exact nodup.1.2.2 c inLine c (by simp) rfl

omit [DecidableEq C] [DecidableEq I] in
/-- A caller leaves the line or the wire, with a result unless it gave up. -/
theorem Reads.leave (h : Reads log s) (resolved : Option (C × R)) {event : Event C I R} {c : C}
    {waiting : List C} {outstanding : Option (C × I)} {closing : Bool}
    (submitted : submissions (event :: log) = submissions log)
    (sent : senders (event :: log) = senders log)
    (results : resolutions (event :: log) = (resolved.map (·.1)).toList ++ resolutions log)
    (reached : c ∈ s.gone ∧ resolved = none ∨ ∃ r, resolved = some (c, r))
    (moved : s.callers.Perm (waiting ++ outstanding.toList.map (·.1) ++ c :: s.settled))
    (line : waiting.Sublist s.waiting) (wire : outstanding = none ∨ outstanding = s.outstanding)
    (unsent : closing = false → s.closing = false ∧ (c ∈ senders log ∨ .gaveUp c ∈ log))
    (awaits : ∀ d j, outstanding = some (d, j) ↔ Awaits (event :: log) d j)
    (keen : ∀ d, event ≠ .gaveUp d)
    (outside : ∀ i, event ≠ .inbound i true .delivered ∧ event ≠ .replied i ∧ event ≠ .ended) 
    (running : event ≠ .ended) :
    Reads (event :: log) { s with waiting, outstanding, settled := c :: s.settled, closing } := by
  have callers : (submissions log).Perm (waiting ++ outstanding.toList.map (·.1) ++ c :: s.settled) :=
    h.callers.trans moved
  have new : c ∉ s.settled := by
    have nodup := callers.nodup_iff.mp h.nodup
    exact (List.nodup_cons.mp (List.nodup_append.mp nodup).2.1).1
  refine { callers := submitted ▸ callers, nodup := submitted ▸ h.nodup, gone := gone_aside h keen
           order := ?_, unsent := ?_, resolved := ?_, once := ?_, settled := ?_, awaits
           handled := handled_aside h outside, complete := ?_ }
  · rw [submitted, sent]
    exact ((line.reverse).append (List.Sublist.refl _)).trans h.order
  · intro going d mem
    rw [sent]
    rcases List.mem_cons.mp mem with rfl | old
    · exact later_of (unsent going).2
    · exact later_of (h.unsent (unsent going).1 d old)
  · intro d mem
    rw [results] at mem
    rcases List.mem_append.mp mem with first | old
    · rcases reached with ⟨-, rfl⟩ | ⟨r, rfl⟩
      · cases first
      · simp only [Option.map_some, Option.toList_some, List.mem_singleton] at first
        exact first ▸ List.mem_cons_self
    · exact List.mem_cons_of_mem _ (h.resolved d old)
  · rw [results]
    rcases reached with ⟨-, rfl⟩ | ⟨r, rfl⟩
    · exact h.once
    · exact List.nodup_cons.mpr ⟨fun mem => new (h.resolved c mem), h.once⟩
  · intro d mem
    rw [results]
    rcases List.mem_cons.mp mem with rfl | old
    · rcases reached with ⟨gone, -⟩ | ⟨r, rfl⟩
      · exact .inr (List.mem_cons_of_mem _ ((h.gone d).mp gone))
      · exact .inl List.mem_cons_self
    · exact (h.settled d old).imp (fun mem => List.mem_append_right _ mem) (List.mem_cons_of_mem _)
  · intro mem
    have atop := h.complete ((List.mem_cons.mp mem).resolve_left (Ne.symm running))
    refine ⟨List.sublist_nil.mp (atop.1 ▸ line), wire.elim id (fun same => same.trans atop.2.1), ?_⟩
    by_contra going
    have open' := (unsent (Bool.not_eq_true _ ▸ going)).1
    rw [atop.2.2] at open'
    cases open'

omit [DecidableEq I] in
/-- A caller in line moves to the settled ones. -/
theorem State.callers_erase {c : C} (inLine : c ∈ s.waiting) :
    s.callers.Perm (s.waiting.erase c ++ s.outstanding.toList.map (·.1) ++ c :: s.settled) := by
  refine (((List.perm_cons_erase inLine).append_right _).append_right s.settled).trans ?_
  exact List.perm_middle.symm

theorem Reads.withdrawn (h : Reads log s) {c : C} (enabled : Enabled s (.withdrawn c : Event C I R)) :
    Reads (.withdrawn c :: log) (next s (.withdrawn c : Event C I R)) := by
  obtain ⟨inLine, gone⟩ := enabled
  exact h.leave none rfl rfl rfl (.inl ⟨gone, rfl⟩) (State.callers_erase inLine) List.erase_sublist
    (.inr rfl) (fun going => ⟨going, .inr ((h.gone c).mp gone)⟩)
    (awaits_aside h (by simp) (by simp [Event.settles])) (by simp) (by simp) (by simp)

omit [DecidableEq C] in
theorem State.settle_open {c : C} {i : I} (open' : s.outstanding = some (c, i)) :
    s.settle i = { s with outstanding := none, settled := c :: s.settled } := by
  simp [State.settle, open']

/-- The outstanding call is settled by its response or by its timeout. -/
theorem Reads.settle (h : Reads log s) {event : Event C I R} {c : C} {i : I} {r : R}
    {resolved : Option (C × R)} (isEvent : event = .answered i resolved ∨ event = .expired i resolved)
    (open' : s.outstanding = some (c, i)) (reached : resolved = s.reached c r) :
    Reads (event :: log) (s.settle i) := by
  have awaits := (h.awaits c i).mp open'
  have settles : ∀ d j, s.outstanding = some (d, j) → event.settles d j := by
    intro d j other
    rw [open'] at other
    obtain ⟨rfl, rfl⟩ := Prod.mk.inj (Option.some.inj other)
    rcases isEvent with rfl | rfl <;> rfl
  rw [State.settle_open open']
  have results : resolutions (event :: log) = (resolved.map (·.1)).toList ++ resolutions log := by
    rcases isEvent with rfl | rfl <;> cases resolved <;> rfl
  refine h.leave resolved ?_ ?_ results (State.reached_cases reached) ?_ (List.Sublist.refl _) (.inl rfl)
    (fun going => ⟨going, .inl awaits.sender⟩) ?_ ?_ ?_ ?_
  · rcases isEvent with rfl | rfl <;> rfl
  · rcases isEvent with rfl | rfl <;> rfl
  · unfold State.callers
    rw [open']
    simp only [Option.toList_some, List.map_cons, List.map_nil, Option.toList_none, List.append_nil,
      List.append_assoc, List.singleton_append]
    exact List.Perm.refl _
  · intro d j
    rw [awaits_cons, ← h.awaits]
    refine iff_of_false (by simp) ?_
    rintro (sent | ⟨other, unsettled⟩)
    · rcases isEvent with rfl | rfl <;> cases sent
    · exact unsettled (settles d j other)
  all_goals rcases isEvent with rfl | rfl <;> simp

omit [DecidableEq C] in
/-- A response that nothing waits for changes nothing. -/
theorem State.settle_strange {i : I} (strange : ∀ c, s.outstanding ≠ some (c, i)) : s.settle i = s := by
  unfold State.settle
  split
  · rename_i c j open'
    rw [if_neg]
    rintro rfl
    exact strange c open'
  · rfl

omit [DecidableEq C] in
theorem Reads.unheeded (h : Reads log s) {i : I} (strange : ∀ c, s.outstanding ≠ some (c, i)) :
    Reads (.answered i none :: log) (s.settle i : State C I) := by
  rw [State.settle_strange strange]
  refine { h with gone := gone_aside h (by simp), unsent := ?_, settled := ?_, awaits := ?_
                  handled := handled_aside h (by simp), complete := ?_ }
  · exact fun going d mem => later_of (h.unsent going d mem)
  · exact fun d mem => later_of (h.settled d mem)
  · intro d j
    rw [awaits_cons, ← h.awaits]
    constructor
    · intro open'
      refine .inr ⟨open', fun settles => ?_⟩
      obtain rfl : i = j := settles
      exact strange d open'
    · rintro (sent | ⟨open', -⟩)
      · cases sent
      · exact open'
  · exact fun mem => h.complete (by simpa using mem)

theorem Reads.failed (h : Reads log s) {c : C} {resolved : Option (C × R)}
    (enabled : Enabled s (.failed c resolved : Event C I R)) :
    Reads (.failed c resolved :: log) (next s (.failed c resolved : Event C I R)) := by
  obtain ⟨known, r, reached⟩ := enabled
  have results : resolutions (.failed c resolved :: log) =
      (resolved.map (·.1)).toList ++ resolutions log := by
    cases resolved <;> rfl
  have awaits : ∀ d j, (s.outstanding.filter fun call => decide (call.1 ≠ c)) = some (d, j) ↔
      Awaits (.failed c resolved :: log) d j := by
    intro d j
    rw [awaits_cons, ← h.awaits, Option.filter_eq_some_iff, decide_eq_true_eq]
    constructor
    · rintro ⟨open', other⟩
      exact .inr ⟨open', fun settles : c = d => other settles.symm⟩
    · rintro (sent | ⟨open', unsettled⟩)
      · cases sent
      · exact ⟨open', fun same : d = c => unsettled same.symm⟩
  rcases known with inLine | ⟨i, open'⟩
  · have elsewhere : (s.outstanding.filter fun call => decide (call.1 ≠ c)) = s.outstanding := by
      cases wire : s.outstanding with
      | none => rfl
      | some call =>
        have other : call.1 ≠ c := fun same => h.apart inLine call.2 (by rw [wire, ← same])
        simp [other]
    rw [elsewhere] at awaits
    change Reads _ { s with
      waiting := s.waiting.erase c, settled := c :: s.settled, closing := true
      outstanding := s.outstanding.filter fun call => decide (call.1 ≠ c) }
    rw [elsewhere]
    exact h.leave resolved rfl rfl results (State.reached_cases reached) (State.callers_erase inLine)
      List.erase_sublist (.inr rfl) (fun going => nomatch going) awaits (by simp) (by simp) (by simp)
  · have gone : (s.outstanding.filter fun call => decide (call.1 ≠ c)) = none := by simp [open']
    have absent : s.waiting.erase c = s.waiting :=
      List.erase_of_not_mem fun inLine => h.apart inLine i open'
    rw [gone] at awaits
    change Reads _ { s with
      waiting := s.waiting.erase c, settled := c :: s.settled, closing := true
      outstanding := s.outstanding.filter fun call => decide (call.1 ≠ c) }
    rw [gone, absent]
    refine h.leave resolved rfl rfl results (State.reached_cases reached) ?_ (List.Sublist.refl _)
      (.inl rfl) (fun going => nomatch going) awaits (by simp) (by simp) (by simp)
    simp [State.callers, open']

/-! ## Calls of the peer, and the end -/

theorem Reads.inbound (h : Reads log s) {i : I} {valid : Bool} {outcome : Outcome}
    (enabled : Enabled s (.inbound i valid outcome : Event C I R)) :
    Reads (.inbound i valid outcome :: log) (next s (.inbound i valid outcome : Event C I R)) := by
  have base : Reads (.inbound i valid outcome :: log)
      { s with handling := (next s (.inbound i valid outcome : Event C I R)).handling } := by
    refine { h with gone := gone_aside h (by simp), unsent := ?_, settled := ?_
                    awaits := awaits_aside h (by simp) (by simp [Event.settles])
                    handled := ?_, complete := ?_ }
    · exact fun going d mem => later_of (h.unsent going d mem)
    · exact fun d mem => later_of (h.settled d mem)
    · intro j
      rw [handled_cons, ← h.handled]
      cases outcome with
      | delivered =>
        obtain ⟨rfl, -⟩ := enabled
        change j ∈ i :: s.handling ↔ _
        simp [eq_comm]
      | rejected | ignored | lost => simp [next]
    · exact fun mem => h.complete (by simpa using mem)
  cases outcome with
  | delivered | rejected | ignored => exact base
  | lost =>
    exact { base with unsent := fun going => (nomatch going)
                      complete := fun mem => ⟨(base.complete mem).1, (base.complete mem).2.1, rfl⟩ }

theorem Reads.replied (h : Reads log s) (i : I) :
    Reads (.replied i :: log) (next s (.replied i : Event C I R)) := by
  refine { h with gone := gone_aside h (by simp), unsent := ?_, settled := ?_
                  awaits := awaits_aside h (by simp) (by simp [Event.settles])
                  handled := ?_, complete := ?_ }
  · exact fun going d mem => later_of (h.unsent going d mem)
  · exact fun d mem => later_of (h.settled d mem)
  · intro j
    rw [handled_cons, ← h.handled]
    change j ∈ s.handling.filter _ ↔ _
    simp only [List.mem_filter, decide_eq_true_eq, reduceCtorEq, false_or, ne_eq, Event.replied.injEq,
      not_false_eq_true, and_true]
    exact and_congr_right fun _ => not_congr eq_comm
  · exact fun mem => h.complete (by simpa using mem)

theorem Reads.ended (h : Reads log s) (enabled : Enabled s (.ended : Event C I R)) :
    Reads (.ended :: log) (next s (.ended : Event C I R)) := by
  refine { h with gone := gone_aside h (by simp), unsent := ?_, settled := ?_
                  awaits := awaits_aside h (by simp) (by simp [Event.settles])
                  handled := ?_, complete := ?_ }
  · exact fun going => (nomatch going)
  · exact fun d mem => later_of (h.settled d mem)
  · intro j
    rw [handled_cons]
    refine iff_of_false (fun mem => nomatch mem) ?_
    rintro (other | ⟨-, -, running⟩)
    · cases other
    · exact running rfl
  · exact fun _ => ⟨enabled.1, enabled.2, rfl⟩

theorem Reads.next (h : Reads log s) {event : Event C I R} (enabled : Enabled s event) :
    Reads (event :: log) (next s event) := by
  cases event with
  | submitted c => exact h.submitted enabled
  | gaveUp c => exact h.gaveUp c
  | withdrawn c => exact h.withdrawn enabled
  | sent c i => exact h.sent enabled
  | answered i resolved =>
    rcases enabled with ⟨c, r, open', reached⟩ | ⟨strange, rfl⟩
    · exact h.settle (.inl rfl) open' reached
    · exact h.unheeded strange
  | expired i resolved =>
    obtain ⟨c, r, open', reached⟩ := enabled
    exact h.settle (.inr rfl) open' reached
  | failed c resolved => exact h.failed enabled
  | inbound i valid outcome => exact h.inbound enabled
  | replied i => exact h.replied i
  | ended => exact h.ended enabled

end Step

/-! ## The law -/

theorem Trace.reads {log : List (Event C I R)} {s : State C I} (trace : Trace log s) : Reads log s := by
  induction trace with
  | nil =>
    exact { callers := List.Perm.refl _, nodup := List.nodup_nil, gone := by simp
            order := List.Sublist.refl _, unsent := by simp, resolved := fun c mem => (nomatch mem)
            once := List.nodup_nil, settled := by simp
            awaits := fun c i => iff_of_false (by simp) fun ⟨later, earlier, eq, _⟩ => by simp at eq
            handled := fun i => iff_of_false (by simp) fun ⟨later, earlier, eq, _⟩ => by simp at eq
            complete := by simp }
  | cons past event enabled ih => exact ih.next enabled

/-- The past of a trace is a trace. -/
theorem Trace.suffix {log past : List (Event C I R)} {s : State C I} (trace : Trace log s)
    (suffix : past <:+ log) : ∃ s, Trace past s := by
  induction trace with
  | nil =>
    obtain rfl := List.suffix_nil.mp suffix
    exact ⟨_, .nil⟩
  | cons before event enabled ih =>
    rcases List.suffix_cons_iff.mp suffix with rfl | earlier
    · exact ⟨_, .cons before event enabled⟩
    · exact ih earlier

/-- An event of a trace was enabled when it happened. -/
theorem Trace.event {log past : List (Event C I R)} {s : State C I} {event : Event C I R}
    (trace : Trace log s) (suffix : event :: past <:+ log) :
    ∃ s, Reads past s ∧ Enabled s event := by
  obtain ⟨after, at'⟩ := trace.suffix suffix
  cases at' with
  | cons before event enabled => exact ⟨_, before.reads, enabled⟩

omit [DecidableEq C] [DecidableEq I] in
/-- Who submitted before a caller in line is not behind it. -/
theorem Reads.ahead {log : List (Event C I R)} {s : State C I} (h : Reads log s) {c d : C} {rest : List C}
    {later before : List C} (line : s.waiting = d :: rest) (known : submissions log = later ++ d :: before)
    (first : c ∈ before) : c ∉ rest := by
  intro behind
  have nodup := h.nodup
  have order := h.order
  rw [known] at nodup order
  rw [line, List.reverse_cons, List.append_assoc] at order
  have pair : [c, d].Sublist (later ++ d :: before) := by
    refine List.Sublist.trans ?_ order
    exact (List.singleton_sublist.mpr (List.mem_reverse.mpr behind)).append
      (List.singleton_sublist.mpr (by simp))
  obtain ⟨-, tail, apart⟩ := List.nodup_append.mp nodup
  obtain ⟨lone, -⟩ := List.nodup_cons.mp tail
  rcases List.sublist_append_iff.mp pair with ⟨front, back, eq, inLater, inRest⟩
  cases front with
  | nil =>
    rw [List.nil_append] at eq
    rw [← eq] at inRest
    rcases List.sublist_cons_iff.mp inRest with skip | ⟨_, same, -⟩
    · exact lone (skip.subset (by simp))
    · obtain ⟨rfl, -⟩ := List.cons.inj same
      exact lone first
  | cons head front =>
    obtain ⟨rfl, -⟩ := List.cons.inj eq
    exact apart c (inLater.subset (by simp)) c (List.mem_cons_of_mem _ first) rfl

omit [DecidableEq I] in
theorem State.reached_some {s : State C I} {c d : C} {r q : R} (h : some (c, r) = s.reached d q) : c = d := by
  unfold State.reached at h
  split at h
  · cases h
  · exact congrArg Prod.fst (Option.some.inj h)

/-- **The law of a trace.** -/
theorem Trace.serialized {log : List (Event C I R)} {s : State C I} (trace : Trace log s) :
    Serialized log where
  one c i past suffix d j open' := by
    obtain ⟨s, reads, -, free, -, -⟩ := trace.event suffix
    have wire := (reads.awaits d j).mpr open'
    rw [free] at wire
    cases wire
  order := (List.sublist_append_right _ _).trans trace.reads.order
  skipped c d i later before suffix first := by
    obtain ⟨s, reads, head, free, -, going⟩ := trace.event suffix
    obtain ⟨rest, line⟩ : ∃ rest, s.waiting = d :: rest := List.head?_eq_some_iff.mp head
    have split : submissions (later ++ .submitted d :: before) =
        submissions later ++ d :: submissions before := by
      simp [submissions, List.filterMap_append]
    have known : c ∈ s.callers := by
      rw [← reads.callers.mem_iff, split]
      exact List.mem_append_right _ (List.mem_cons_of_mem _ first)
    have behind := reads.ahead line split first
    have other : c ≠ d := by
      rintro rfl
      have nodup := reads.nodup
      rw [split] at nodup
      exact (List.nodup_cons.mp (List.nodup_append.mp nodup).2.1).1 first
    rw [State.callers, line, free] at known
    simp only [Option.toList_none, List.map_nil, List.append_nil, List.mem_append, List.mem_cons,
      other, behind, or_self, false_or] at known
    exact reads.unsent going c known
  once := trace.reads.once
  complete atop c known := by
    obtain ⟨line, wire, -⟩ := trace.reads.complete atop
    rw [trace.reads.callers.mem_iff, State.callers, line, wire] at known
    exact trace.reads.settled c known
  attributed i c r past suffix := by
    obtain ⟨s, reads, ⟨d, q, open', reached⟩ | ⟨-, none'⟩⟩ := trace.event suffix
    · obtain rfl := State.reached_some reached
      exact (reads.awaits c i).mp open'
    · cases none'
  heeded i c resolved past suffix open' := by
    obtain ⟨s, reads, enabled⟩ := trace.event suffix
    have wire := (reads.awaits c i).mpr open'
    rcases enabled with ⟨d, q, owner, reached⟩ | ⟨strange, -⟩
    · rw [wire] at owner
      obtain ⟨rfl, -⟩ := Prod.mk.inj (Option.some.inj owner)
      rcases State.reached_cases reached with ⟨gone, -⟩ | resolved
      · exact .inl ((reads.gone c).mp gone)
      · exact .inr resolved
    · exact absurd wire (strange c)
  expiry i c r past suffix := by
    obtain ⟨s, reads, d, q, open', reached⟩ := trace.event suffix
    obtain rfl := State.reached_some reached
    exact (reads.awaits c i).mp open'
  fresh i valid outcome past suffix handled := by
    obtain ⟨s, reads, enabled⟩ := trace.event suffix
    have busy := (reads.handled i).mpr handled
    cases outcome with
    | delivered | rejected => exact absurd busy enabled.2
    | ignored => exact .inl rfl
    | lost => exact .inr rfl
  delivered i outcome past suffix free := by
    obtain ⟨s, reads, enabled⟩ := trace.event suffix
    have idle : i ∉ s.handling := fun mem => free ((reads.handled i).mp mem)
    cases outcome with
    | delivered => exact .inl rfl
    | rejected => cases enabled.1
    | ignored => exact absurd enabled idle
    | lost => exact .inr rfl
  replies i past suffix := by
    obtain ⟨s, reads, enabled⟩ := trace.event suffix
    exact (reads.handled i).mp enabled

end KirbyOcpp.Rpc
