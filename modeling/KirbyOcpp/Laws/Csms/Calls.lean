import KirbyOcpp.Laws.Csms.Registry

/-!
# The CALLs of the central system, over every session

Each session keeps the law of remote calls (`Rpc.Trace.serialized`), whatever the other sessions, the callers
and the registry do meanwhile: the state of its queue is the state that its log leads to (`Tracks`). Message ids
are numbered across the sessions, so no answer reaches the CALL of another one.

**The law** `calls_serialized`.
-/

namespace KirbyOcpp.Csms

open Ws (Json Frame ErrorCode MessageId)
open Rpc (Trace submissions)
open Server (messageId)

variable {Reported : Type} {env : Env Reported}

/-! ## Message ids -/

theorem messageId_injective : Function.Injective messageId := by
  intro n m same
  have lists := congrArg String.toList same
  simp only [messageId, String.toList_append, Nat.toList_repr] at lists
  have digits := congrArg (Nat.ofDigitChars 10 · 0) (List.append_cancel_left lists)
  simpa using digits

/-! ## Reading the log of a session -/

/-- The caller that the event settles, with its result. -/
def resolved : CallEvent → Option (Caller × CallResult)
  | .answered _ r | .expired _ r | .failed _ r => r
  | _ => none

/-- The ids of the CALLs that were written, latest first. -/
def sentIds (log : List CallEvent) : List MessageId :=
  log.filterMap fun event => match event with
    | .sent _ id => some id
    | _ => none

/-- The result is the one that the event stands for. -/
def Faithful (station : StationId) : CallEvent → Prop
  | .answered id (some (_, result)) => ∃ frame, result = .answer frame ∧ frame.id = id ∧ frame.isCall = false
  | .expired _ (some (_, result)) => ∃ action timeout, result = .timeout station action timeout
  | .failed _ (some (_, result)) => ∃ action, result = .connectionClosed station action
  | _ => True

/-- The id of the CALL that is being written. -/
def Phase.drawn : Phase → Option MessageId
  | .sending frame (some _) | .writing frame (some _) => some frame.id
  | _ => none

/-- The ids that a session has drawn. -/
def Session.drawn (s : Session) : List MessageId := s.phase.drawn.toList ++ sentIds s.log

/-- What the log of a session says of its callers, in the state that it leads to. -/
structure Logged (c : Server Reported) (id : SessionId) (station : StationId) (log : List CallEvent)
    (a : Rpc.State Caller MessageId) : Prop where
  trace : Trace log a
  used : a.used = sentIds log
  gone : ∀ caller, caller ∈ a.gone ↔ caller ∈ c.gone ∧ caller ∈ submissions log
  asked : ∀ caller ∈ submissions log, caller < c.callers ∧
    ∃ request, c.requests caller = some request ∧ request.session = id
  unresolved : ∀ caller, (caller ∈ a.waiting ∨ ∃ m, a.outstanding = some (caller, m)) → c.results caller = none
  settled : ∀ caller ∈ a.settled, caller ∈ a.gone ∨
    ∃ result, c.results caller = some result ∧ ∃ event ∈ log, resolved event = some (caller, result)
  faithful : ∀ event ∈ log, Faithful station event

/-- The state of a session is the one that its log leads to. -/
structure Tracks (c : Server Reported) (id : SessionId) (s : Session) (a : Rpc.State Caller MessageId) : Prop where
  logged : Logged c id s.station s.log a
  line : a.waiting = s.line
  flight : a.outstanding = s.inFlight.map fun flight => (flight.reply, flight.id)
  /-- At most one CALL is on the wire or on its way. -/
  one : s.inFlight = none ∨ s.phase.call? = none
  closing : a.closing = !s.phase.live
  finished : s.phase.live = false → s.line = [] ∧ s.inFlight = none
  fresh : s.drawn.Nodup
  numbered : ∀ m ∈ s.drawn, ∃ n ≤ c.nextMessage, m = messageId n

/-! ## One event -/

section Event

variable {c c' : Server Reported} {id : SessionId} {station : StationId} {log : List CallEvent}
  {a : Rpc.State Caller MessageId}

theorem Logged.submitted_iff (h : Logged c id station log a) (caller : Caller) :
    caller ∈ submissions log ↔
      caller ∈ a.waiting ∨ (∃ m, a.outstanding = some (caller, m)) ∨ caller ∈ a.settled := by
  rw [h.trace.reads.callers.mem_iff]
  simp [Rpc.State.callers]

/-- What the rest of the server does leaves the log of a session as it is. -/
theorem Logged.frame (h : Logged c id station log a) (callers : c.callers ≤ c'.callers)
    (same : ∀ caller ∈ submissions log, (caller ∈ c'.gone ↔ caller ∈ c.gone) ∧
      c'.requests caller = c.requests caller ∧ c'.results caller = c.results caller) :
    Logged c' id station log a where
  trace := h.trace
  used := h.used
  gone := fun caller => (h.gone caller).trans (and_congr_left fun mem => (same caller mem).1.symm)
  asked := fun caller mem => by
    rw [(same caller mem).2.1]
    exact ⟨(h.asked caller mem).1.trans_le callers, (h.asked caller mem).2⟩
  unresolved := fun caller open' => by
    rw [(same caller ((h.submitted_iff caller).mpr (open'.imp_right .inl))).2.2]
    exact h.unresolved caller open'
  settled := fun caller mem => by
    rw [(same caller ((h.submitted_iff caller).mpr (.inr (.inr mem)))).2.2]
    exact h.settled caller mem
  faithful := h.faithful

/-- A caller that is in line or on the wire is settled with a result. -/
theorem Logged.settle (h : Logged c id station log a) {event : CallEvent} {caller : Caller} {result : CallResult}
    (enabled : Rpc.Enabled a event) (open' : caller ∈ a.waiting ∨ ∃ m, a.outstanding = some (caller, m))
    (resolves : resolved event = c.sent caller result) (faithful : Faithful station event)
    (settled : (Rpc.next a event).settled = caller :: a.settled) (gone : (Rpc.next a event).gone = a.gone)
    (used : (Rpc.next a event).used = a.used)
    (rest : ∀ d, (d ∈ (Rpc.next a event).waiting ∨ ∃ m, (Rpc.next a event).outstanding = some (d, m)) →
      d ∈ a.waiting ∨ ∃ m, a.outstanding = some (d, m))
    (submitted : submissions (event :: log) = submissions log) (sent : sentIds (event :: log) = sentIds log) :
    Logged (c.resolve caller result) id station (event :: log) (Rpc.next a event) := by
  have trace : Trace (event :: log) (Rpc.next a event) := h.trace.cons event enabled
  have known : caller ∈ submissions log := (h.submitted_iff caller).mpr (open'.imp_right .inl)
  have apart : ∀ d, (d ∈ (Rpc.next a event).waiting ∨ ∃ m, (Rpc.next a event).outstanding = some (d, m)) →
      d ≠ caller := by
    intro d still eq
    subst eq
    have nodup : (Rpc.next a event).callers.Nodup :=
      trace.reads.callers.nodup_iff.mp (submitted ▸ h.trace.reads.nodup)
    unfold Rpc.State.callers at nodup
    rw [settled, List.nodup_append] at nodup
    refine nodup.2.2 d ?_ d List.mem_cons_self rfl
    rcases still with inLine | ⟨m, wire⟩
    · exact List.mem_append_left _ inLine
    · rw [wire]
      simp
  have other (d : Caller) (differs : d ≠ caller) : (c.resolve caller result).results d = c.results d :=
    Function.update_of_ne differs _ _
  refine ⟨trace, used.trans (h.used.trans sent.symm), ?_, ?_, ?_, ?_, ?_⟩
  · rw [submitted, gone]
    exact h.gone
  · rw [submitted]
    exact h.asked
  · intro d still
    rw [other d (apart d still)]
    exact h.unresolved d (rest d still)
  · rw [settled, gone]
    intro d mem
    rcases List.mem_cons.mp mem with rfl | earlier
    · by_cases left : d ∈ c.gone
      · exact .inl ((h.gone d).mpr ⟨left, known⟩)
      · refine .inr ⟨result, Function.update_self .., event, List.mem_cons_self, ?_⟩
        rw [resolves, Server.sent, if_neg left]
    · refine (h.settled d earlier).imp_right fun ⟨got, has, e, mem, eq⟩ => ?_
      have differs : d ≠ caller := by
        intro same
        subst same
        rw [h.unresolved d open'] at has
        cases has
      exact ⟨got, (other d differs).trans has, e, List.mem_cons_of_mem _ mem, eq⟩
  · exact List.forall_mem_cons.mpr ⟨faithful, h.faithful⟩

/-- A CALL of the peer's answer that settles nobody, or the end. -/
theorem Logged.aside (h : Logged c id station log a) {event : CallEvent} (enabled : Rpc.Enabled a event)
    (none : resolved event = none) (settled : (Rpc.next a event).settled = a.settled)
    (gone : (Rpc.next a event).gone = a.gone) (used : (Rpc.next a event).used = a.used)
    (rest : ∀ d, (d ∈ (Rpc.next a event).waiting ∨ ∃ m, (Rpc.next a event).outstanding = some (d, m)) →
      d ∈ a.waiting ∨ ∃ m, a.outstanding = some (d, m))
    (submitted : submissions (event :: log) = submissions log) (sent : sentIds (event :: log) = sentIds log) :
    Logged c id station (event :: log) (Rpc.next a event) := by
  refine ⟨h.trace.cons event enabled, used.trans (h.used.trans sent.symm), ?_, ?_, ?_, ?_, ?_⟩
  · rw [submitted, gone]
    exact h.gone
  · rw [submitted]
    exact h.asked
  · exact fun d still => h.unresolved d (rest d still)
  · rw [settled, gone]
    exact fun d mem => (h.settled d mem).imp_right fun ⟨got, has, e, inside, eq⟩ =>
      ⟨got, has, e, List.mem_cons_of_mem _ inside, eq⟩
  · refine List.forall_mem_cons.mpr ⟨?_, h.faithful⟩
    cases event with
    | answered i r | expired i r | failed i r =>
      obtain rfl : r = Option.none := none
      trivial
    | _ => trivial

theorem Logged.submitted (h : Logged c id station log a) {request : Request} (going : a.closing = false)
    (fresh : c.results c.callers = none) (stays : c.callers ∉ c.gone) (session : request.session = id) :
    Logged { c with callers := c.callers + 1, requests := Function.update c.requests c.callers (some request) } id
      station (.submitted c.callers :: log) (Rpc.next a (.submitted c.callers : CallEvent)) := by
  have new : c.callers ∉ submissions log := fun mem => lt_irrefl _ (h.asked _ mem).1
  have apart := new
  rw [h.submitted_iff, not_or, not_or, not_exists] at apart
  have enabled : Rpc.Enabled a (.submitted c.callers : CallEvent) := ⟨going, apart.1, apart.2.2, apart.2.1⟩
  have submitted : submissions (.submitted c.callers :: log) = c.callers :: submissions log := rfl
  refine ⟨h.trace.cons _ enabled, h.used, fun caller => ?_, ?_, fun caller still => ?_, fun caller mem => ?_, ?_⟩
  · rw [submitted, List.mem_cons]
    constructor
    · intro left
      exact ⟨((h.gone caller).mp left).1, .inr ((h.gone caller).mp left).2⟩
    · rintro ⟨left, rfl | earlier⟩
      · exact absurd left stays
      · exact (h.gone caller).mpr ⟨left, earlier⟩
  · rw [submitted]
    intro caller mem
    rcases List.mem_cons.mp mem with rfl | earlier
    · exact ⟨Nat.lt_succ_self _, request, Function.update_self .., session⟩
    · obtain ⟨less, known⟩ := h.asked caller earlier
      obtain ⟨request', asked, same⟩ := known
      exact ⟨Nat.lt_succ_of_lt less, request', (Function.update_of_ne less.ne _ _).trans asked, same⟩
  · rcases still with inLine | wire
    · rcases List.mem_append.mp inLine with earlier | last
      · exact h.unresolved caller (.inl earlier)
      · obtain rfl := List.mem_singleton.mp last
        exact fresh
    · exact h.unresolved caller (.inr wire)
  · exact (h.settled caller mem).imp_right fun ⟨got, has, e, inside, eq⟩ =>
      ⟨got, has, e, List.mem_cons_of_mem _ inside, eq⟩
  · exact List.forall_mem_cons.mpr ⟨trivial, h.faithful⟩

/-- A caller of the session drops its future. -/
theorem Logged.gaveUp (h : Logged c id station log a) {caller : Caller} (known : caller ∈ submissions log) :
    Logged { c with gone := caller :: c.gone } id station (.gaveUp caller :: log)
      (Rpc.next a (.gaveUp caller : CallEvent)) := by
  refine ⟨h.trace.cons _ trivial, h.used, fun d => ?_, h.asked, h.unresolved, fun d mem => ?_, ?_⟩
  · show d ∈ caller :: a.gone ↔ d ∈ caller :: c.gone ∧ d ∈ submissions log
    rw [List.mem_cons, List.mem_cons, h.gone]
    constructor
    · rintro (rfl | ⟨left, mem⟩)
      · exact ⟨.inl rfl, known⟩
      · exact ⟨.inr left, mem⟩
    · rintro ⟨rfl | left, mem⟩
      · exact .inl rfl
      · exact .inr ⟨left, mem⟩
  · rcases h.settled d mem with left | ⟨got, has, e, inside, eq⟩
    · exact .inl (List.mem_cons_of_mem _ left)
    · exact .inr ⟨got, has, e, List.mem_cons_of_mem _ inside, eq⟩
  · exact List.forall_mem_cons.mpr ⟨trivial, h.faithful⟩

/-- The head of the line is taken out: its caller gave up. -/
theorem Logged.withdrawn (h : Logged c id station log a) {caller : Caller} {rest : List Caller}
    (line : a.waiting = caller :: rest) (left : caller ∈ c.gone) :
    Logged c id station (.withdrawn caller :: log) (Rpc.next a (.withdrawn caller : CallEvent)) := by
  have inLine : caller ∈ a.waiting := line ▸ List.mem_cons_self
  have gone : caller ∈ a.gone := (h.gone caller).mpr ⟨left, (h.submitted_iff caller).mpr (.inl inLine)⟩
  refine ⟨h.trace.cons _ ⟨inLine, gone⟩, h.used, h.gone, h.asked, fun d still => ?_, fun d mem => ?_, ?_⟩
  · exact h.unresolved d (still.imp_left List.mem_of_mem_erase)
  · rcases List.mem_cons.mp mem with rfl | earlier
    · exact .inl gone
    · exact (h.settled d earlier).imp_right fun ⟨got, has, e, inside, eq⟩ =>
        ⟨got, has, e, List.mem_cons_of_mem _ inside, eq⟩
  · exact List.forall_mem_cons.mpr ⟨trivial, h.faithful⟩

/-- The head of the line is written. -/
theorem Logged.sent (h : Logged c id station log a) {caller : Caller} {rest : List Caller} {m : MessageId}
    (line : a.waiting = caller :: rest) (free : a.outstanding = none) (going : a.closing = false)
    (fresh : m ∉ sentIds log) :
    Logged c id station (.sent caller m :: log) (Rpc.next a (.sent caller m : CallEvent)) := by
  have enabled : Rpc.Enabled a (.sent caller m : CallEvent) :=
    ⟨by rw [line]; rfl, free, by rwa [h.used], going⟩
  refine ⟨h.trace.cons _ enabled, congrArg (m :: ·) h.used, h.gone, h.asked, fun d still => ?_, fun d mem => ?_, ?_⟩
  · refine h.unresolved d (.inl ?_)
    rw [line]
    rcases still with inLine | ⟨m', wire⟩
    · rw [show (Rpc.next a (.sent caller m : CallEvent)).waiting = a.waiting.tail from rfl, line] at inLine
      exact List.mem_cons_of_mem _ inLine
    · obtain ⟨rfl, -⟩ := Prod.mk.inj (Option.some.inj wire)
      exact List.mem_cons_self
  · exact (h.settled d mem).imp_right fun ⟨got, has, e, inside, eq⟩ =>
      ⟨got, has, e, List.mem_cons_of_mem _ inside, eq⟩
  · exact List.forall_mem_cons.mpr ⟨trivial, h.faithful⟩

end Event

/-! ## The server as a whole -/

structure Sound (c : Server Reported) : Prop where
  tracks : ∀ id s, c.sessions id = some s → ∃ a, Tracks c id s a
  /-- No two sessions draw one id. -/
  apart : ∀ id s id' s' m, c.sessions id = some s → c.sessions id' = some s' → m ∈ s.drawn → m ∈ s'.drawn → id = id'
  below : ∀ id s, c.sessions id = some s → id ≤ c.registry.nextSession
  requests : ∀ caller request, c.requests caller = some request →
    ∃ s, c.sessions request.session = some s ∧ caller ∈ submissions s.log
  results : ∀ caller, c.results caller ≠ none → c.requests caller ≠ none
  gone : ∀ caller ∈ c.gone, c.requests caller ≠ none
  returned : ∀ caller result, (caller, result) ∈ c.returned → caller < c.callers ∧
    (c.requests caller ≠ none → c.results caller = some result ∧ caller ∉ c.gone)
  once : (c.returned.map (·.1)).Nodup

variable {c c' : Server Reported} {id : SessionId} {s s' : Session}

theorem Sound.asked (h : Sound c) {caller : Caller} {request : Request} (asked : c.requests caller = some request) :
    caller < c.callers := by
  obtain ⟨s, found, mem⟩ := h.requests caller request asked
  obtain ⟨a, tracks⟩ := h.tracks _ s found
  exact (tracks.logged.asked caller mem).1

/-- What a step of one session leaves of the server. -/
structure Update (c c' : Server Reported) (id : SessionId) (s s' : Session) : Prop where
  sessions : c'.sessions = Function.update c.sessions id (some s')
  later : c.registry.nextSession ≤ c'.registry.nextSession
  messages : c.nextMessage ≤ c'.nextMessage
  callers : c'.callers = c.callers
  requests : c'.requests = c.requests
  gone : c'.gone = c.gone
  returned : c'.returned = c.returned
  submitted : submissions s'.log = submissions s.log
  results : ∀ caller, c'.results caller ≠ c.results caller → caller ∈ submissions s.log ∧ c.results caller = none
  drawn : ∀ m ∈ s'.drawn, m ∈ s.drawn ∨ ∀ n ≤ c.nextMessage, m ≠ messageId n

theorem Sound.update (h : Sound c) (found : c.sessions id = some s) (update : Update c c' id s s')
    (tracks : ∃ a, Tracks c' id s' a) : Sound c' := by
  have same : c'.sessions id = some s' := by
    rw [update.sessions]
    exact Function.update_self ..
  have other {id' : SessionId} (differs : id' ≠ id) : c'.sessions id' = c.sessions id' := by
    rw [update.sessions]
    exact Function.update_of_ne differs _ _
  have elsewhere {id' : SessionId} {t : Session} {caller : Caller} (differs : id' ≠ id)
      (there : c.sessions id' = some t) (mem : caller ∈ submissions t.log) : caller ∉ submissions s.log := by
    intro mine
    obtain ⟨a, mineTracks⟩ := h.tracks id s found
    obtain ⟨b, otherTracks⟩ := h.tracks id' t there
    obtain ⟨-, request, asked, session⟩ := mineTracks.logged.asked caller mine
    obtain ⟨-, request', asked', session'⟩ := otherTracks.logged.asked caller mem
    obtain rfl := Option.some.inj (asked.symm.trans asked')
    exact differs (session'.symm.trans session)
  have steady {caller : Caller} (outside : caller ∉ submissions s.log) : c'.results caller = c.results caller := by
    by_contra changed
    exact outside (update.results caller changed).1
  have kept {caller : Caller} {result : CallResult} (has : c.results caller = some result) :
      c'.results caller = some result := by
    by_contra changed
    rw [← has] at changed
    rw [(update.results caller changed).2] at has
    cases has
  have drawnApart {id' : SessionId} {t : Session} {m : MessageId} (differs : id' ≠ id)
      (there : c.sessions id' = some t) (mine : m ∈ s'.drawn) (theirs : m ∈ t.drawn) : False := by
    rcases update.drawn m mine with earlier | new
    · exact differs (h.apart id' t id s m there found theirs earlier)
    · obtain ⟨b, otherTracks⟩ := h.tracks id' t there
      obtain ⟨n, le, eq⟩ := otherTracks.numbered m theirs
      exact new n le eq
  refine ⟨fun id' t there => ?_, fun id₁ t₁ id₂ t₂ m there₁ there₂ mem₁ mem₂ => ?_, fun id' t there => ?_,
    fun caller request asked => ?_, fun caller has => ?_, ?_, fun caller result mem => ?_, ?_⟩
  · by_cases eq : id' = id
    · subst eq
      obtain rfl := Option.some.inj (same.symm.trans there)
      exact tracks
    · rw [other eq] at there
      obtain ⟨a, old⟩ := h.tracks id' t there
      refine ⟨a, { old with logged := old.logged.frame update.callers.ge fun caller mem => ?_, numbered := ?_ }⟩
      · rw [update.gone, update.requests]
        exact ⟨Iff.rfl, rfl, steady (elsewhere eq there mem)⟩
      · exact fun m mem => (old.numbered m mem).imp fun n bound => ⟨bound.1.trans update.messages, bound.2⟩
  · by_cases eq₁ : id₁ = id <;> by_cases eq₂ : id₂ = id
    · rw [eq₁, eq₂]
    · subst eq₁
      obtain rfl := Option.some.inj (same.symm.trans there₁)
      rw [other eq₂] at there₂
      exact (drawnApart eq₂ there₂ mem₁ mem₂).elim
    · subst eq₂
      obtain rfl := Option.some.inj (same.symm.trans there₂)
      rw [other eq₁] at there₁
      exact (drawnApart eq₁ there₁ mem₂ mem₁).elim
    · rw [other eq₁] at there₁
      rw [other eq₂] at there₂
      exact h.apart id₁ t₁ id₂ t₂ m there₁ there₂ mem₁ mem₂
  · by_cases eq : id' = id
    · subst eq
      exact (h.below id' s found).trans update.later
    · rw [other eq] at there
      exact (h.below id' t there).trans update.later
  · rw [update.requests] at asked
    obtain ⟨t, there, mem⟩ := h.requests caller request asked
    by_cases eq : request.session = id
    · rw [eq] at there ⊢
      obtain rfl := Option.some.inj (found.symm.trans there)
      exact ⟨s', same, update.submitted.symm ▸ mem⟩
    · exact ⟨t, (other eq).trans there, mem⟩
  · rw [update.requests]
    by_cases changed : c'.results caller = c.results caller
    · rw [changed] at has
      exact h.results caller has
    · obtain ⟨a, mine⟩ := h.tracks id s found
      obtain ⟨-, request, asked, -⟩ := mine.logged.asked caller (update.results caller changed).1
      rw [asked]
      exact Option.some_ne_none request
  · rw [update.gone, update.requests]
    exact h.gone
  · rw [update.returned] at mem
    rw [update.callers, update.requests, update.gone]
    obtain ⟨less, has⟩ := h.returned caller result mem
    exact ⟨less, fun asked => ⟨kept (has asked).1, (has asked).2⟩⟩
  · rw [update.returned]
    exact h.once

/-! ## The turns of a session -/

variable {a : Rpc.State Caller MessageId}

/-- The session moves on with its line and its CALL in flight. -/
theorem Tracks.moves (h : Tracks c id s a) (log : s'.log = s.log) (station : s'.station = s.station)
    (line : s'.line = s.line) (flight : s'.inFlight = s.inFlight)
    (one : s'.inFlight = none ∨ s'.phase.call? = none) (live : s'.phase.live = s.phase.live)
    (drawn : s'.phase.drawn = s.phase.drawn) : Tracks c id s' a := by
  have ids : s'.drawn = s.drawn := by
    unfold Session.drawn
    rw [log, drawn]
  refine ⟨by rw [log, station]; exact h.logged, by rw [line]; exact h.line, by rw [flight]; exact h.flight, one,
    by rw [live]; exact h.closing, by rw [live, line, flight]; exact h.finished, by rw [ids]; exact h.fresh,
    by rw [ids]; exact h.numbered⟩

/-- What the tracking reads of the server. -/
theorem Tracks.frame (h : Tracks c id s a) (callers : c'.callers = c.callers) (requests : c'.requests = c.requests)
    (results : c'.results = c.results) (gone : c'.gone = c.gone) (messages : c.nextMessage ≤ c'.nextMessage) :
    Tracks c' id s a := by
  refine { h with logged := h.logged.frame callers.ge fun caller _ => ?_, numbered := fun m mem => ?_ }
  · rw [gone, requests, results]
    exact ⟨Iff.rfl, rfl, rfl⟩
  · exact (h.numbered m mem).imp fun n bound => ⟨bound.1.trans messages, bound.2⟩

/-- A turn that settles nobody and draws no id. -/
theorem Sound.moves (h : Sound c) (found : c.sessions id = some s) (t : Session) (registry : Registry Reported)
    (later : c.registry.nextSession ≤ registry.nextSession) (log : t.log = s.log) (station : t.station = s.station)
    (line : t.line = s.line) (flight : t.inFlight = s.inFlight)
    (one : t.inFlight = none ∨ t.phase.call? = none) (live : t.phase.live = s.phase.live)
    (drawn : t.phase.drawn = s.phase.drawn) : Sound (({ c with registry } : Server Reported).setSession id t) := by
  obtain ⟨a, tracks⟩ := h.tracks id s found
  refine h.update found ⟨rfl, later, le_rfl, rfl, rfl, rfl, rfl, by rw [log], fun caller changed => ?_, fun m mem => ?_⟩
    ⟨a, (tracks.moves log station line flight one live drawn).frame rfl rfl rfl rfl le_rfl⟩
  · exact absurd rfl changed
  · refine .inl ?_
    unfold Session.drawn at mem ⊢
    rwa [log, drawn] at mem

theorem Sound.pump (h : Sound c) (found : c.sessions id = some s) (at' : s.phase = .top) :
    Sound (Server.pump id s c) := by
  obtain ⟨a, tracks⟩ := h.tracks id s found
  have going : a.closing = false := by rw [tracks.closing, at']; rfl
  have park : Sound (c.setSession id { s with phase := .select }) :=
    h.moves found { s with phase := .select } c.registry le_rfl rfl rfl
      (by simp [Session.line, at', Phase.call?]) rfl (.inr rfl) (by rw [at']; rfl) (by rw [at']; rfl)
  unfold Server.pump
  split
  · rename_i call rest free queue
    have line : a.waiting = call.reply :: (rest.map (·.reply) ++ commandCallers s.commands) := by
      rw [tracks.line]
      simp [Session.line, at', queue, Phase.call?]
    split
    · rename_i left
      refine h.update found ⟨rfl, le_rfl, le_rfl, rfl, rfl, rfl, rfl, rfl, fun _ changed => absurd rfl changed,
        fun m mem => .inl mem⟩ ⟨_, (tracks.logged.withdrawn line left).frame le_rfl fun _ _ => ⟨Iff.rfl, rfl, rfl⟩,
        ?_, tracks.flight, tracks.one, tracks.closing, ?_, tracks.fresh, tracks.numbered⟩
      · show a.waiting.erase call.reply = _
        rw [line, List.erase_cons_head]
        simp [Session.line, Session.note, at', Phase.call?]
      · intro finished
        have live : s.phase.live = false := finished
        rw [at'] at live
        cases live
    · dsimp only
      have new : ∀ n ≤ c.nextMessage, messageId (c.nextMessage + 1) ≠ messageId n := by
        intro n le same
        have := messageId_injective same
        omega
      have unused : messageId (c.nextMessage + 1) ∉ sentIds s.log := by
        intro mem
        obtain ⟨n, le, eq⟩ := tracks.numbered _ (List.mem_append_right _ mem)
        exact new n le eq
      refine h.update found ⟨rfl, le_rfl, Nat.le_succ _, rfl, rfl, rfl, rfl, rfl,
        fun _ changed => absurd rfl changed, fun m mem => ?_⟩ ⟨a, tracks.logged.frame le_rfl fun _ _ => ⟨Iff.rfl, rfl, rfl⟩,
        ?_, tracks.flight, .inl free, ?_, (fun finished => nomatch finished), ?_, fun m mem => ?_⟩
      · rcases List.mem_cons.mp mem with rfl | earlier
        · exact .inr new
        · exact .inl (List.mem_append_right _ earlier)
      · rw [line]
        simp [Session.line, Phase.call?]
      · rw [going]
        rfl
      · exact List.nodup_cons.mpr ⟨unused, (List.nodup_append.mp tracks.fresh).2.1⟩
      · rcases List.mem_cons.mp mem with rfl | earlier
        · exact ⟨c.nextMessage + 1, le_rfl, rfl⟩
        · obtain ⟨n, le, eq⟩ := tracks.numbered m (List.mem_append_right _ earlier)
          exact ⟨n, Nat.le_succ_of_le le, eq⟩
  · exact park

theorem Sound.command (h : Sound c) (found : c.sessions id = some s) (at' : s.phase = .select) :
    Sound (Server.command id s c) := by
  unfold Server.command
  split
  · exact h
  · rename_i call rest commands
    refine h.moves found { s with commands := rest, queue := s.queue ++ [call], phase := .top } c.registry
      le_rfl rfl rfl ?_ rfl (.inr rfl) (by rw [at']; rfl) (by rw [at']; rfl)
    simp [Session.line, commandCallers, commands, at', Phase.call?]
  · rename_i code reason rest commands
    refine h.moves found { s with commands := rest, phase := .closing .closed } c.registry le_rfl rfl rfl ?_ rfl
      (.inr rfl) (by rw [at']; rfl) (by rw [at']; rfl)
    simp [Session.line, commandCallers, commands, at', Phase.call?]

/-- A turn that only moves the phase. -/
theorem Sound.phase (h : Sound c) (found : c.sessions id = some s) (registry : Registry Reported) (phase : Phase)
    (later : c.registry.nextSession ≤ registry.nextSession) (idle : phase.call? = s.phase.call?)
    (drawn : phase.drawn = s.phase.drawn) (live : phase.live = s.phase.live) :
    Sound (({ c with registry } : Server Reported).setSession id { s with phase }) := by
  obtain ⟨a, tracks⟩ := h.tracks id s found
  refine h.moves found { s with phase } registry later rfl rfl ?_ rfl (idle ▸ tracks.one) live drawn
  unfold Session.line
  rw [idle]

theorem Sound.onText (h : Sound c) (found : c.sessions id = some s) (at' : s.phase = .select) (text : String)
    (now : Nat) : Sound (Server.onText env id s text now c) := by
  unfold Server.onText
  split
  · dsimp only
    split
    · exact h.phase found _ _ le_rfl (by rw [at']; rfl) (by rw [at']; rfl) (by rw [at']; rfl)
    · exact h.phase found _ _ le_rfl (by rw [at']; rfl) (by rw [at']; rfl) (by rw [at']; rfl)
  · exact h.phase found _ _ (Registry.quiet_recordFrame _ _ _ _).nextSession.ge (by rw [at']; rfl) (by rw [at']; rfl)
      (by rw [at']; rfl)

/-- The CALL in flight is settled. -/
theorem Sound.settle (h : Sound c) (found : c.sessions id = some s) {flight : InFlight}
    (wire : s.inFlight = some flight) (calm : s.phase.call? = none) (undrawn : s.phase.drawn = none)
    (live : s.phase.live = true) {event : CallEvent} (result : CallResult)
    (event_eq : event = .answered flight.id (c.sent flight.reply result) ∨
      event = .expired flight.id (c.sent flight.reply result))
    (faithful : Faithful s.station event) :
    Sound ((c.resolve flight.reply result).setSession id
      ({ s with inFlight := none, phase := .top }.note event)) := by
  obtain ⟨a, tracks⟩ := h.tracks id s found
  have open' : a.outstanding = some (flight.reply, flight.id) := by rw [tracks.flight, wire]; rfl
  have next : Rpc.next a event = { a with outstanding := none, settled := flight.reply :: a.settled } := by
    rcases event_eq with rfl | rfl <;> exact Rpc.State.settle_open open'
  have known : flight.reply ∈ submissions s.log := (tracks.logged.submitted_iff _).mpr (.inr (.inl ⟨_, open'⟩))
  have reached : c.sent flight.reply result = a.reached flight.reply result := by
    unfold Server.sent Rpc.State.reached
    by_cases left : flight.reply ∈ c.gone
    · rw [if_pos left, if_pos ((tracks.logged.gone _).mpr ⟨left, known⟩)]
    · rw [if_neg left, if_neg fun gone => left ((tracks.logged.gone _).mp gone).1]
  have enabled : Rpc.Enabled a event := by
    rcases event_eq with rfl | rfl
    · exact .inl ⟨flight.reply, result, open', reached⟩
    · exact ⟨flight.reply, result, open', reached⟩
  have submitted : submissions (event :: s.log) = submissions s.log := by
    rcases event_eq with rfl | rfl <;> rfl
  have sent : sentIds (event :: s.log) = sentIds s.log := by
    rcases event_eq with rfl | rfl <;> rfl
  have logged : Logged (c.resolve flight.reply result) id s.station (event :: s.log) (Rpc.next a event) := by
    refine tracks.logged.settle enabled (.inr ⟨_, open'⟩) ?_ faithful (by rw [next]) (by rw [next]) (by rw [next])
      (fun d still => ?_) submitted sent
    · rcases event_eq with rfl | rfl <;> rfl
    · rw [next] at still
      exact still.imp_right fun ⟨m, wire⟩ => nomatch wire
  have drawn : ({ s with inFlight := none, phase := .top }.note event : Session).drawn = s.drawn := by
    unfold Session.drawn
    rw [undrawn]
    exact congrArg ([] ++ ·) sent
  refine h.update found ⟨rfl, le_rfl, le_rfl, rfl, rfl, rfl, rfl, submitted, fun caller changed => ?_, fun m mem => ?_⟩
    ⟨_, logged.frame le_rfl fun _ _ => ⟨Iff.rfl, rfl, rfl⟩, ?_, ?_, .inl rfl, ?_, (fun finished => nomatch finished), ?_, ?_⟩
  · by_cases same : caller = flight.reply
    · subst same
      exact ⟨known, tracks.logged.unresolved _ (.inr ⟨_, open'⟩)⟩
    · exact absurd (Function.update_of_ne same _ _) changed
  · exact .inl (drawn ▸ mem)
  · rw [next]
    have top : Phase.top.call? = none := rfl
    show a.waiting = _
    rw [tracks.line]
    simp [Session.line, Session.note, calm, top]
  · rw [next]
    rfl
  · rw [next]
    show a.closing = _
    rw [tracks.closing, live]
    rfl
  · rw [drawn]
    exact tracks.fresh
  · rw [drawn]
    exact tracks.numbered

theorem Sound.onFrame (h : Sound c) (found : c.sessions id = some s) {frame : Frame}
    (at' : s.phase = .received frame) (reply : Reply) (now : Nat) :
    Sound (Server.onFrame env id s frame reply now c) := by
  have calm : s.phase.call? = none := by rw [at']; rfl
  have undrawn : s.phase.drawn = none := by rw [at']; rfl
  have live : s.phase.live = true := by rw [at']; rfl
  have unheeded (answer : Frame) (strange : ∀ flight, s.inFlight = some flight → flight.id ≠ answer.id) :
      Sound (c.setSession id ({ s with phase := .top }.note (.answered answer.id none))) := by
    obtain ⟨a, tracks⟩ := h.tracks id s found
    have other : ∀ caller, a.outstanding ≠ some (caller, answer.id) := by
      intro caller wire
      rw [tracks.flight] at wire
      obtain ⟨flight, some, eq⟩ := Option.map_eq_some_iff.mp wire
      exact strange flight some (congrArg Prod.snd eq)
    have next : Rpc.next a (.answered answer.id none : CallEvent) = a := Rpc.State.settle_strange other
    have enabled : Rpc.Enabled a (.answered answer.id none : CallEvent) := .inr ⟨other, rfl⟩
    have logged := tracks.logged.aside enabled rfl (by rw [next]) (by rw [next]) (by rw [next])
      (fun d still => by rwa [next] at still) rfl rfl
    have moved := h.phase found c.registry .top le_rfl (by rw [calm]; rfl) (by rw [undrawn]; rfl) (by rw [live]; rfl)
    obtain ⟨b, parked⟩ := moved.tracks id { s with phase := .top } (Function.update_self ..)
    have drawn : ({ s with phase := .top }.note (.answered answer.id none) : Session).drawn = s.drawn := by
      unfold Session.drawn
      rw [undrawn]
      rfl
    rw [next] at logged
    refine h.update found ⟨rfl, le_rfl, le_rfl, rfl, rfl, rfl, rfl, rfl, fun _ changed => absurd rfl changed,
      fun m mem => .inl (drawn ▸ mem)⟩ ⟨a, logged.frame le_rfl fun _ _ => ⟨Iff.rfl, rfl, rfl⟩, ?_, tracks.flight, .inr rfl,
      ?_, (by rintro ⟨⟩), by rw [drawn]; exact tracks.fresh, by rw [drawn]; exact tracks.numbered⟩
    · have top : Phase.top.call? = none := rfl
      rw [tracks.line]
      simp [Session.line, Session.note, calm, top]
    · rw [tracks.closing, live]
      rfl
  have answered (answer : Frame) (isAnswer : answer.isCall = false) :
      Sound (Server.onFrame env id s answer reply now c) := by
    unfold Server.onFrame
    split
    · cases isAnswer
    split
    · rename_i flight wire
      split
      · rename_i mine
        refine h.settle found wire calm undrawn live _ (.inl (by rw [mine])) ?_
        unfold Server.sent
        split
        · trivial
        · exact ⟨answer, rfl, rfl, isAnswer⟩
      · rename_i other
        refine unheeded answer fun flight' some => ?_
        obtain rfl := Option.some.inj (wire.symm.trans some)
        exact other
    · rename_i wire
      refine unheeded answer fun flight some => ?_
      cases wire.symm.trans some
  have goes (registry : Registry Reported) (phase : Phase) (later : c.registry.nextSession ≤ registry.nextSession)
      (idle : phase.call? = none) (unnumbered : phase.drawn = none) (lives : phase.live = true) :
      Sound (({ c with registry } : Server Reported).setSession id { s with phase }) :=
    h.phase found registry phase later (idle.trans calm.symm) (unnumbered.trans undrawn.symm) (lives.trans live.symm)
  cases frame with
  | call message action payload =>
    have quiet : Registry.Quiet c.registry (c.registry.track env s.station id action payload reply now) :=
      Registry.quiet_track id action payload reply now
    have later := quiet.nextSession.ge
    unfold Server.onFrame
    dsimp only
    cases reply with
    | result response => exact goes _ _ later rfl rfl rfl
    | error code description => exact goes _ _ later rfl rfl rfl
    | silence => exact goes _ _ later rfl rfl rfl
    | close => exact goes _ _ later rfl rfl rfl
  | callResult message payload => exact answered _ rfl
  | callError message code description details => exact answered _ rfl

theorem Sound.written (h : Sound c) (found : c.sessions id = some s) {frame : Frame} {call : Option QueuedCall}
    (at' : s.phase = .writing frame call) (now : Nat) : Sound (Server.written id s frame call now c) := by
  cases call with
  | none =>
    exact h.phase found c.registry .top le_rfl (by rw [at']; rfl) (by rw [at']; rfl) (by rw [at']; rfl)
  | some call =>
    obtain ⟨a, tracks⟩ := h.tracks id s found
    have writing : s.phase.call? = some call := by rw [at']; rfl
    have free : s.inFlight = none := tracks.one.resolve_right (by rw [writing]; exact Option.some_ne_none call)
    have line : a.waiting = call.reply :: (s.queue.map (·.reply) ++ commandCallers s.commands) := by
      rw [tracks.line]
      simp [Session.line, writing]
    have drawn : s.drawn = frame.id :: sentIds s.log := by
      unfold Session.drawn
      rw [at']
      rfl
    have fresh := tracks.fresh
    rw [drawn, List.nodup_cons] at fresh
    have wire : a.outstanding = none := by rw [tracks.flight, free]; rfl
    have going : a.closing = false := by rw [tracks.closing, at']; rfl
    refine h.update found ⟨rfl, le_rfl, le_rfl, rfl, rfl, rfl, rfl, rfl, fun _ changed => absurd rfl changed,
      fun m mem => .inl (drawn ▸ mem)⟩ ⟨_, (tracks.logged.sent line wire going fresh.1).frame le_rfl
        fun _ _ => ⟨Iff.rfl, rfl, rfl⟩, ?_, rfl, .inr rfl, ?_, (fun finished => nomatch finished), ?_, ?_⟩
    · show a.waiting.tail = _
      rw [line]
      rfl
    · show a.closing = _
      rw [going]
      rfl
    · exact List.nodup_cons.mpr fresh
    · have numbered := tracks.numbered
      rwa [drawn] at numbered

theorem Sound.expireInFlight (h : Sound c) (found : c.sessions id = some s) (at' : s.phase = .select) (now : Nat) :
    Sound (Server.expireInFlight id s now c) := by
  unfold Server.expireInFlight
  split
  · exact h
  · rename_i flight wire
    split
    · refine h.settle found wire (by rw [at']; rfl) (by rw [at']; rfl) (by rw [at']; rfl) _ (.inr rfl) ?_
      unfold Server.sent
      split
      · trivial
      · exact ⟨flight.action, flight.timeout, rfl⟩
    · exact h

/-! ## The end of a session -/

theorem Update.trans {c'' : Server Reported} {s'' : Session} (h : Update c c' id s s') (h' : Update c' c'' id s' s'') :
    Update c c'' id s s'' where
  sessions := by rw [h'.sessions, h.sessions, Function.update_idem]
  later := h.later.trans h'.later
  messages := h.messages.trans h'.messages
  callers := h'.callers.trans h.callers
  requests := h'.requests.trans h.requests
  gone := h'.gone.trans h.gone
  returned := h'.returned.trans h.returned
  submitted := h'.submitted.trans h.submitted
  results := fun caller changed => by
    by_cases first : c'.results caller = c.results caller
    · obtain ⟨mem, none⟩ := h'.results caller (first ▸ changed)
      exact ⟨h.submitted ▸ mem, first ▸ none⟩
    · exact h.results caller first
  drawn := fun m mem => by
    rcases h'.drawn m mem with earlier | new
    · exact h.drawn m earlier
    · exact .inr fun n le => new n (le.trans h.messages)

/-- The reply channels are dropped one after the other. -/
theorem drop_all (calls : List (Caller × String)) (found : c.sessions id = some s)
    (logged : Logged c id s.station s.log a)
    (left : a.outstanding.toList.map (·.1) ++ a.waiting = calls.map (·.1)) :
    let c' := calls.foldl (fun c call => Server.dropReply id c call.1 call.2) c
    ∃ log b, c'.sessions id = some { s with log } ∧ Logged c' id s.station log b ∧ b.outstanding = none ∧
      b.waiting = [] ∧ Update c c' id s { s with log } ∧ sentIds log = sentIds s.log := by
  induction calls generalizing c s a with
  | nil =>
    obtain ⟨wire, line⟩ := List.append_eq_nil_iff.mp left
    have free : a.outstanding = none := by
      cases out : a.outstanding with
      | none => rfl
      | some call => simp [out] at wire
    refine ⟨s.log, a, found, logged, free, line, ⟨?_, le_rfl, le_rfl, rfl, rfl, rfl, rfl, rfl,
      fun _ changed => absurd rfl changed, fun m mem => .inl mem⟩, rfl⟩
    exact (Function.update_eq_self_iff.mpr found.symm).symm
  | cons call rest ih =>
    obtain ⟨caller, action⟩ := call
    let result := CallResult.connectionClosed s.station action
    let event : CallEvent := .failed caller (c.sent caller result)
    have first : caller ∈ a.waiting ∨ ∃ m, a.outstanding = some (caller, m) := by
      cases out : a.outstanding with
      | none =>
        rw [out] at left
        exact .inl (by rw [show a.waiting = _ from left]; exact List.mem_cons_self)
      | some call =>
        rw [out] at left
        exact .inr ⟨call.2, congrArg some (Prod.ext (List.cons.inj left).1 rfl)⟩
    have known : caller ∈ submissions s.log := (logged.submitted_iff caller).mpr (first.imp_right .inl)
    have reached : c.sent caller result = a.reached caller result := by
      unfold Server.sent Rpc.State.reached
      by_cases gone : caller ∈ c.gone
      · rw [if_pos gone, if_pos ((logged.gone _).mpr ⟨gone, known⟩)]
      · rw [if_neg gone, if_neg fun left => gone ((logged.gone _).mp left).1]
    have faithful : Faithful s.station event := by
      show Faithful s.station (.failed caller (c.sent caller result))
      unfold Server.sent
      split
      · trivial
      · exact ⟨action, rfl⟩
    have enabled : Rpc.Enabled a event := ⟨first, result, reached⟩
    have settled := logged.settle enabled first rfl faithful rfl rfl rfl
      (fun d still => still.imp List.mem_of_mem_erase fun ⟨m, wire⟩ => ⟨m, (Option.filter_eq_some_iff.mp wire).1⟩)
      rfl rfl
    have later : (Rpc.next a event).outstanding.toList.map (·.1) ++ (Rpc.next a event).waiting = rest.map (·.1) := by
      show (a.outstanding.filter _).toList.map (·.1) ++ a.waiting.erase caller = _
      cases out : a.outstanding with
      | none =>
        rw [out] at left
        rw [show a.waiting = _ from left]
        simp
      | some call =>
        rw [out] at left
        obtain ⟨same, line⟩ := List.cons.inj left
        have apart : caller ∉ a.waiting := fun inLine => logged.trace.reads.apart inLine call.2
          (out.trans (congrArg some (Prod.ext same rfl)))
        have settled : Option.filter (fun d : Caller × MessageId => decide (d.1 ≠ caller)) (some call) = none := by
          rw [Option.filter_some, if_neg (by simpa using same)]
        rw [List.erase_of_not_mem apart, settled]
        exact line
    let c₁ := (c.resolve caller result).setSession id (s.note event)
    have step : Server.dropReply id c caller action = c₁ := by
      unfold Server.dropReply
      rw [found]
    have found₁ : c₁.sessions id = some (s.note event) := Function.update_self ..
    have logged₁ : Logged c₁ id s.station (event :: s.log) (Rpc.next a event) :=
      settled.frame le_rfl fun _ _ => ⟨Iff.rfl, rfl, rfl⟩
    have update₁ : Update c c₁ id s (s.note event) := by
      refine ⟨rfl, le_rfl, le_rfl, rfl, rfl, rfl, rfl, rfl, fun d changed => ?_, fun m mem => .inl mem⟩
      by_cases same : d = caller
      · subst same
        exact ⟨known, logged.unresolved _ first⟩
      · exact absurd (Function.update_of_ne same _ _) changed
    obtain ⟨log, b, found₂, logged₂, free, line, update₂, sent⟩ := ih (s := s.note event) found₁ logged₁ later
    rw [List.foldl_cons, step]
    exact ⟨log, b, found₂, logged₂, free, line, update₁.trans update₂, sent⟩

/-- The callers whose CALLs a session holds: the one in flight, and those in the line. -/
theorem calls_callers (s : Session) :
    (Server.Session.calls s).map (·.1) = s.inFlight.toList.map (·.reply) ++ s.line := by
  unfold Server.Session.calls Session.line commandCallers
  simp only [List.map_append, List.map_map, Function.comp_def, List.map_filterMap]
  congr
  funext command
  cases command <;> rfl

theorem Sound.endSession (h : Sound c) (found : c.sessions id = some s)
    (reason : DisconnectReason) : Sound (Server.endSession id s reason c) := by
  obtain ⟨a, tracks⟩ := h.tracks id s found
  let idle : Session := { s with inFlight := none, queue := [], commands := [], phase := .ended reason }
  have left : a.outstanding.toList.map (·.1) ++ a.waiting = (Server.Session.calls s).map (·.1) := by
    rw [tracks.flight, tracks.line, calls_callers]
    cases s.inFlight <;> rfl
  have begun : Update c (c.setSession id idle) id s idle := by
    refine ⟨rfl, le_rfl, le_rfl, rfl, rfl, rfl, rfl, rfl, fun _ changed => absurd rfl changed, fun m mem => .inl ?_⟩
    exact List.mem_append_right _ mem
  obtain ⟨log, b, found', logged, free, line, update, sent⟩ := drop_all (Server.Session.calls s) (s := idle)
    (c := c.setSession id idle) (Function.update_self ..) (tracks.logged.frame le_rfl fun _ _ => ⟨Iff.rfl, rfl, rfl⟩) left
  unfold Server.endSession
  dsimp only
  rw [found']
  have enabled : Rpc.Enabled b (.ended : CallEvent) := ⟨line, free⟩
  have ended := logged.aside enabled rfl rfl rfl rfl (fun d still => still) rfl rfl
  have closed : Update (Server.Session.calls s |>.foldl (fun c call => Server.dropReply id c call.1 call.2)
      (c.setSession id idle)) (Server.setSession id ({ idle with log }.note .ended)
        (Server.Session.calls s |>.foldl (fun c call => Server.dropReply id c call.1 call.2)
          (c.setSession id idle))) id { idle with log } ({ idle with log }.note .ended) :=
    ⟨rfl, le_rfl, le_rfl, rfl, rfl, rfl, rfl, rfl, fun _ changed => absurd rfl changed, fun m mem => .inl mem⟩
  have drawn : sentIds (Rpc.Event.ended :: log) = sentIds s.log := sent
  refine h.update found ((begun.trans update).trans closed) ⟨_, ended.frame le_rfl fun _ _ => ⟨Iff.rfl, rfl, rfl⟩,
    line, free, .inl rfl, rfl, fun _ => ⟨rfl, rfl⟩, ?_, fun m mem => ?_⟩
  · show (sentIds (Rpc.Event.ended :: log)).Nodup
    rw [drawn]
    exact (List.nodup_append.mp tracks.fresh).2.1
  · have mem : m ∈ sentIds s.log := drawn ▸ mem
    obtain ⟨n, le, eq⟩ := tracks.numbered m (List.mem_append_right _ mem)
    exact ⟨n, le.trans (begun.trans update).messages, eq⟩

/-! ## The server goes on -/

theorem Sound.turn (h : Sound c) (found : c.sessions id = some s) (turn : Turn) : Sound (c.turn env id s turn) := by
  unfold Server.turn
  split
  · rename_i at'
    exact h.pump found at'
  · rename_i at'
    exact h.command found at'
  · rename_i at'
    exact h.onText found at' _ _
  · rename_i at'
    exact h.onFrame found at' _ _
  · rename_i frame call at'
    have drawn : (Phase.writing frame call).drawn = (Phase.sending frame call).drawn := by cases call <;> rfl
    exact h.phase found _ _ (Registry.quiet_recordFrame _ _ _ _).nextSession.ge (by rw [at']; rfl)
      (by rw [at', drawn]) (by rw [at']; rfl)
  · rename_i at'
    exact h.written found at' _
  · rename_i at'
    exact h.expireInFlight found at' _
  · rename_i at'
    split
    · exact h.phase found c.registry _ le_rfl (by rw [at']; rfl) (by rw [at']; rfl) (by rw [at']; rfl)
    · exact h
  · split
    · exact h.endSession found _
    · exact h
  · rename_i at'
    exact h.phase found _ _ (Registry.sheds_sessionEnded _ _ _).later (by rw [at']; rfl) (by rw [at']; rfl)
      (by rw [at']; rfl)
  · exact h

/-- The registry moves on by itself. -/
theorem Sound.visited (h : Sound c) (registry : Registry Reported)
    (later : c.registry.nextSession ≤ registry.nextSession) : Sound { c with registry } where
  tracks := fun id s found => (h.tracks id s found).imp fun _ tracks => tracks.frame rfl rfl rfl rfl le_rfl
  apart := h.apart
  below := fun id s found => (h.below id s found).trans later
  requests := h.requests
  results := h.results
  gone := h.gone
  returned := h.returned
  once := h.once

theorem Sound.tell (h : Sound c) (id : SessionId) (code : Nat) (reason : String) :
    Sound (c.tell id (.close code reason)) := by
  unfold Server.tell
  split
  · rename_i s found
    split
    · obtain ⟨a, tracks⟩ := h.tracks id s found
      refine h.moves found { s with commands := s.commands ++ [SessionCmd.close code reason] } c.registry le_rfl rfl rfl
        ?_ rfl tracks.one rfl rfl
      simp [Session.line, commandCallers]
    · exact h
  · exact h

theorem Sound.tellOld (h : Sound c) (old : Option SessionId) (reason : String) : Sound (c.tellOld old reason) := by
  cases old with
  | none => exact h
  | some id => exact h.tell id 1000 reason

/-- A new session starts with an empty log. -/
theorem Sound.opened (h : Sound c) (station : StationId) (new : c.sessions id = none)
    (below : id ≤ c.registry.nextSession) : Sound (c.setSession id { station }) := by
  have other {id' : SessionId} (differs : id' ≠ id) :
      (c.setSession id { station }).sessions id' = c.sessions id' := Function.update_of_ne differs _ _
  have same : (c.setSession id { station }).sessions id = some { station } := Function.update_self ..
  refine ⟨fun id' s found => ?_, fun id₁ t₁ id₂ t₂ m there₁ there₂ mem₁ mem₂ => ?_, fun id' s found => ?_,
    fun caller request asked => ?_, h.results, h.gone, h.returned, h.once⟩
  · by_cases eq : id' = id
    · subst eq
      obtain rfl := Option.some.inj (same.symm.trans found)
      refine ⟨{}, ⟨.nil, rfl, fun caller => ?_, fun _ mem => (nomatch mem), fun caller still => ?_,
        fun _ mem => (nomatch mem), fun _ mem => (nomatch mem)⟩, rfl, rfl, .inl rfl, rfl, fun finished => (nomatch finished), .nil,
        fun _ mem => (nomatch mem)⟩
      · exact ⟨fun mem => (nomatch mem), fun both => (nomatch both.2)⟩
      · rcases still with inLine | ⟨m, wire⟩
        · nomatch inLine
        · nomatch wire
    · rw [other eq] at found
      exact (h.tracks id' s found).imp fun a tracks => tracks.frame rfl rfl rfl rfl le_rfl
  · by_cases eq₁ : id₁ = id
    · subst eq₁
      obtain rfl := Option.some.inj (same.symm.trans there₁)
      nomatch mem₁
    · by_cases eq₂ : id₂ = id
      · subst eq₂
        obtain rfl := Option.some.inj (same.symm.trans there₂)
        nomatch mem₂
      · rw [other eq₁] at there₁
        rw [other eq₂] at there₂
        exact h.apart id₁ t₁ id₂ t₂ m there₁ there₂ mem₁ mem₂
  · by_cases eq : id' = id
    · exact eq ▸ below
    · rw [other eq] at found
      exact h.below id' s found
  · obtain ⟨t, there, mem⟩ := h.requests caller request asked
    refine ⟨t, ?_, mem⟩
    have differs : request.session ≠ id := by
      intro eq
      rw [eq, new] at there
      cases there
    exact (other differs).trans there

/-- A future that returned at once. -/
theorem Sound.refused (h : Sound c) (result : CallResult) :
    Sound { c with callers := c.callers + 1, returned := (c.callers, result) :: c.returned } := by
  have unasked : c.requests c.callers = none := by
    cases asked : c.requests c.callers with
    | none => rfl
    | some request => exact absurd (h.asked asked) (lt_irrefl _)
  refine ⟨fun id s found => ?_, h.apart, h.below, h.requests, h.results, h.gone, fun caller result mem => ?_, ?_⟩
  · obtain ⟨_, tracks⟩ := h.tracks id s found
    exact ⟨_, { tracks with logged := tracks.logged.frame (Nat.le_succ _) fun _ _ => ⟨Iff.rfl, rfl, rfl⟩ }⟩
  · rcases List.mem_cons.mp mem with eq | earlier
    · obtain ⟨rfl, rfl⟩ := Prod.mk.inj eq
      exact ⟨Nat.lt_succ_self _, fun asked => absurd unasked asked⟩
    · obtain ⟨less, has⟩ := h.returned caller result earlier
      exact ⟨Nat.lt_succ_of_lt less, has⟩
  · refine List.nodup_cons.mpr ⟨fun mem => ?_, h.once⟩
    obtain ⟨⟨caller, r⟩, known, rfl⟩ := List.mem_map.mp mem
    exact absurd (h.returned _ r known).1 (lt_irrefl _)

/-- The callers of two sessions are different ones. -/
theorem Sound.disjoint (h : Sound c) {id' : SessionId} {t : Session} {caller : Caller}
    (found : c.sessions id = some s) (there : c.sessions id' = some t) (mine : caller ∈ submissions s.log)
    (theirs : caller ∈ submissions t.log) : id' = id := by
  obtain ⟨a, tracks⟩ := h.tracks id s found
  obtain ⟨b, others⟩ := h.tracks id' t there
  obtain ⟨-, request, asked, session⟩ := tracks.logged.asked caller mine
  obtain ⟨-, request', asked', session'⟩ := others.logged.asked caller theirs
  obtain rfl := Option.some.inj (asked.symm.trans asked')
  exact session'.symm.trans session

theorem Sound.queued (h : Sound c) (found : c.sessions id = some s) (live : s.phase.live = true)
    {request : Request} (session : request.session = id) {queued : QueuedCall} (caller : queued.reply = c.callers) :
    Sound (Server.setSession id
      ({ s with commands := s.commands ++ [SessionCmd.call queued] }.note (.submitted c.callers))
      { c with callers := c.callers + 1, requests := Function.update c.requests c.callers (some request) }) := by
  have unasked : c.requests c.callers = none := by
    cases asked : c.requests c.callers with
    | none => rfl
    | some request => exact absurd (h.asked asked) (lt_irrefl _)
  have unresolved : c.results c.callers = none := by
    by_contra has
    exact h.results _ has unasked
  have stays : c.callers ∉ c.gone := fun left => h.gone _ left unasked
  have older {d : Caller} (differs : d ≠ c.callers) :
      Function.update c.requests c.callers (some request) d = c.requests d := Function.update_of_ne differs _ _
  have newest : Function.update c.requests c.callers (some request) c.callers = some request := Function.update_self ..
  let s' : Session := { s with commands := s.commands ++ [SessionCmd.call queued] }.note (.submitted c.callers)
  have other {id' : SessionId} (differs : id' ≠ id) : Function.update c.sessions id (some s') id' = c.sessions id' :=
    Function.update_of_ne differs _ _
  have same : Function.update c.sessions id (some s') id = some s' := Function.update_self ..
  refine ⟨fun id' t there => ?_, fun id₁ t₁ id₂ t₂ m there₁ there₂ mem₁ mem₂ => ?_, fun id' t there => ?_,
    fun d request' asked => ?_, fun d has => ?_, fun d left => ?_, fun d result mem => ?_, h.once⟩
  · by_cases eq : id' = id
    · subst eq
      obtain rfl := Option.some.inj (same.symm.trans there)
      obtain ⟨a, tracks⟩ := h.tracks id' s found
      have going : a.closing = false := by rw [tracks.closing, live]; rfl
      refine ⟨_, (tracks.logged.submitted going unresolved stays session).frame le_rfl
        fun _ _ => ⟨Iff.rfl, rfl, rfl⟩, ?_, tracks.flight, tracks.one, tracks.closing, fun finished => ?_, tracks.fresh,
        tracks.numbered⟩
      · show a.waiting ++ [c.callers] = _
        rw [tracks.line]
        simp [Session.line, Session.note, s', commandCallers, caller]
      · have finished : s.phase.live = false := finished
        rw [live] at finished
        cases finished
    · have there : c.sessions id' = some t := (other eq).symm.trans there
      obtain ⟨a, tracks⟩ := h.tracks id' t there
      refine ⟨a, { tracks with logged := tracks.logged.frame (Nat.le_succ _) fun d mem => ⟨Iff.rfl, ?_, rfl⟩ }⟩
      exact older (tracks.logged.asked d mem).1.ne
  · have back {id' : SessionId} {t : Session} (there : Function.update c.sessions id (some s') id' = some t) :
        ∃ t', c.sessions id' = some t' ∧ t.drawn = t'.drawn := by
      by_cases eq : id' = id
      · subst eq
        obtain rfl := Option.some.inj (same.symm.trans there)
        exact ⟨s, found, rfl⟩
      · exact ⟨t, (other eq).symm.trans there, rfl⟩
    obtain ⟨t₁', old₁, eq₁⟩ := back there₁
    obtain ⟨t₂', old₂, eq₂⟩ := back there₂
    exact h.apart id₁ t₁' id₂ t₂' m old₁ old₂ (eq₁ ▸ mem₁) (eq₂ ▸ mem₂)
  · by_cases eq : id' = id
    · exact eq ▸ h.below id s found
    · exact h.below id' t ((other eq).symm.trans there)
  · by_cases eq : d = c.callers
    · subst eq
      obtain rfl := Option.some.inj (newest.symm.trans asked)
      rw [session]
      exact ⟨s', same, List.mem_cons_self⟩
    · obtain ⟨t, there, mem⟩ := h.requests d request' ((older eq).symm.trans asked)
      by_cases mine : request'.session = id
      · rw [mine] at there ⊢
        obtain rfl := Option.some.inj (found.symm.trans there)
        exact ⟨s', same, List.mem_cons_of_mem _ mem⟩
      · exact ⟨t, (other mine).trans there, mem⟩
  · by_cases eq : d = c.callers
    · subst eq
      exact absurd unresolved has
    · show Function.update c.requests c.callers (some request) d ≠ none
      rw [older eq]
      exact h.results d has
  · by_cases eq : d = c.callers
    · subst eq
      exact absurd left stays
    · show Function.update c.requests c.callers (some request) d ≠ none
      rw [older eq]
      exact h.gone d left
  · obtain ⟨less, has⟩ := h.returned d result mem
    refine ⟨Nat.lt_succ_of_lt less, fun asked => has ?_⟩
    have asked : Function.update c.requests c.callers (some request) d ≠ none := asked
    rwa [older less.ne] at asked

/-- What `call_timeout` does up to the await: the future returns at once, or its CALL waits in the queue of a
session that runs. -/
theorem Server.call_cases (c : Server Reported) (station : StationId) (action : String) (payload : Json)
    (timeout : Nat) :
    (∃ result, c.call station action payload timeout =
        { c with callers := c.callers + 1, returned := (c.callers, result) :: c.returned }) ∨
      ∃ id s request queued, c.sessions id = some s ∧ s.phase.live = true ∧ request.session = id ∧
        queued.reply = c.callers ∧
        c.call station action payload timeout = Server.setSession id
          ({ s with commands := s.commands ++ [SessionCmd.call queued] }.note (.submitted c.callers))
          { c with callers := c.callers + 1, requests := Function.update c.requests c.callers (some request) } := by
  unfold Server.call
  dsimp only
  split
  · exact .inl ⟨_, rfl⟩
  · split
    · rename_i record _ id s found
      obtain ⟨id', -, there⟩ := Option.bind_eq_some_iff.mp found
      obtain ⟨t, open', eq⟩ := Option.map_eq_some_iff.mp there
      obtain ⟨rfl, rfl⟩ := Prod.mk.inj eq
      split
      · rename_i live
        exact .inr ⟨_, _, _, _, open', live, rfl, rfl, rfl⟩
      · exact .inl ⟨_, rfl⟩
    · exact .inl ⟨_, rfl⟩

theorem Sound.call (h : Sound c) (station : StationId) (action : String) (payload : Json) (timeout : Nat) :
    Sound (c.call station action payload timeout) := by
  rcases c.call_cases station action payload timeout with
    ⟨result, eq⟩ | ⟨id, s, request, queued, open', live, session, caller, eq⟩
  · rw [eq]
    exact h.refused result
  · rw [eq]
    exact h.queued open' live session caller

theorem Sound.giveUp (h : Sound c) (caller : Caller) : Sound (c.giveUp caller) := by
  unfold Server.giveUp
  split
  · exact h
  · rename_i request asked
    split
    · exact h
    · rename_i awaits
      rw [not_or] at awaits
      obtain ⟨s, found, known⟩ := h.requests caller request asked
      dsimp only
      rw [found]
      let s' : Session := s.note (.gaveUp caller)
      have other {id' : SessionId} (differs : id' ≠ request.session) :
          Function.update c.sessions request.session (some s') id' = c.sessions id' := Function.update_of_ne differs _ _
      have same : Function.update c.sessions request.session (some s') request.session = some s' :=
        Function.update_self ..
      have back {id' : SessionId} {t : Session}
          (there : Function.update c.sessions request.session (some s') id' = some t) :
          ∃ t', c.sessions id' = some t' ∧ t.drawn = t'.drawn := by
        by_cases eq : id' = request.session
        · subst eq
          obtain rfl := Option.some.inj (same.symm.trans there)
          exact ⟨s, found, rfl⟩
        · exact ⟨t, (other eq).symm.trans there, rfl⟩
      refine ⟨fun id' t there => ?_, fun id₁ t₁ id₂ t₂ m there₁ there₂ mem₁ mem₂ => ?_, fun id' t there => ?_,
        fun d request' asked' => ?_, h.results, fun d left => ?_, fun d result mem => ?_, h.once⟩
      · by_cases eq : id' = request.session
        · subst eq
          obtain rfl := Option.some.inj (same.symm.trans there)
          obtain ⟨a, tracks⟩ := h.tracks _ s found
          exact ⟨_, (tracks.logged.gaveUp known).frame le_rfl fun _ _ => ⟨Iff.rfl, rfl, rfl⟩, tracks.line, tracks.flight,
            tracks.one, tracks.closing, tracks.finished, tracks.fresh, tracks.numbered⟩
        · have elder : c.sessions id' = some t := (other eq).symm.trans there
          obtain ⟨a, tracks⟩ := h.tracks id' t elder
          refine ⟨a, { tracks with logged := tracks.logged.frame le_rfl fun d mem => ⟨?_, rfl, rfl⟩ }⟩
          refine ⟨fun left => (List.mem_cons.mp left).resolve_left fun is => eq ?_, List.mem_cons_of_mem _⟩
          exact h.disjoint found elder known (is ▸ mem)
      · obtain ⟨t₁', old₁, eq₁⟩ := back there₁
        obtain ⟨t₂', old₂, eq₂⟩ := back there₂
        exact h.apart id₁ t₁' id₂ t₂' m old₁ old₂ (eq₁ ▸ mem₁) (eq₂ ▸ mem₂)
      · obtain ⟨t', old, -⟩ := back there
        exact h.below id' t' old
      · obtain ⟨t, there, mem⟩ := h.requests d request' asked'
        by_cases mine : request'.session = request.session
        · rw [mine] at there ⊢
          obtain rfl := Option.some.inj (found.symm.trans there)
          exact ⟨s', same, mem⟩
        · exact ⟨t, (other mine).trans there, mem⟩
      · rcases List.mem_cons.mp left with rfl | earlier
        · have known : c.requests d ≠ none := by
            rw [asked]
            exact Option.some_ne_none request
          exact known
        · exact h.gone d earlier
      · obtain ⟨less, has⟩ := h.returned d result mem
        refine ⟨less, fun asked' => ⟨(has asked').1, fun left => ?_⟩⟩
        rcases List.mem_cons.mp left with rfl | earlier
        · exact awaits.2 (List.mem_map.mpr ⟨_, mem, rfl⟩)
        · exact (has asked').2 earlier

theorem Sound.resume (h : Sound c) (caller : Caller) (now : Nat) : Sound (c.resume env caller now) := by
  unfold Server.resume
  split
  · rename_i request result asked got
    split
    · exact h
    · rename_i awaits
      rw [not_or] at awaits
      have returned : Sound { c with returned := (caller, result) :: c.returned } := by
        refine ⟨fun id s found => ?_, h.apart, h.below, h.requests, h.results, h.gone, fun d r mem => ?_, ?_⟩
        · obtain ⟨a, tracks⟩ := h.tracks id s found
          exact ⟨a, tracks.frame rfl rfl rfl rfl le_rfl⟩
        · rcases List.mem_cons.mp mem with eq | earlier
          · obtain ⟨rfl, rfl⟩ := Prod.mk.inj eq
            exact ⟨h.asked asked, fun _ => ⟨got, awaits.1⟩⟩
          · exact h.returned d r earlier
        · exact List.nodup_cons.mpr ⟨awaits.2, h.once⟩
      dsimp only
      split
      · split
        · exact returned.visited _ (Registry.quiet_trackResult _ _ _ _).nextSession.ge
        · exact returned
      · exact returned.visited _ Registry.quiet_noteFailedCall.nextSession.ge
      · exact returned.visited _ Registry.quiet_noteFailedCall.nextSession.ge
      · exact returned
  · exact h

theorem Sound.step (h : Sound c) (input : Input) : Sound (c.step env input) := by
  cases input with
  | register station peer subprotocol now =>
    unfold Server.step
    dsimp only
    split
    · exact h
    · rename_i registry id old registered
      have number : id = c.registry.nextSession + 1 ∧ registry.nextSession = c.registry.nextSession + 1 := by
        obtain ⟨record, events, -, rfl, rfl⟩ := Registry.register_ok registered
        exact ⟨rfl, rfl⟩
      have visited := (h.visited registry (number.2 ▸ Nat.le_succ _)).tellOld old "replaced by a new connection"
      have same := Server.tellOld_registry old "replaced by a new connection" { c with registry }
      refine visited.opened station ?_ (by rw [same]; exact (number.1.trans number.2.symm).le)
      cases found : ((({ c with registry } : Server Reported).tellOld old "replaced by a new connection").sessions id) with
      | none => rfl
      | some s =>
        -- the new number is that of no session yet
        have old' : ∃ t, c.sessions id = some t := by
          revert found
          unfold Server.tellOld
          split
          · rename_i told
            unfold Server.tell
            split
            · rename_i t there
              split
              · intro found
                by_cases eq : id = told
                · exact ⟨t, eq ▸ there⟩
                · exact ⟨s, (Function.update_of_ne eq _ _).symm.trans found⟩
              · exact fun found => ⟨s, found⟩
            · exact fun found => ⟨s, found⟩
          · exact fun found => ⟨s, found⟩
        obtain ⟨t, there⟩ := old'
        exact absurd (number.1 ▸ h.below id t there) (Nat.not_succ_le_self _)
  | forget station =>
    exact (h.visited _ (Registry.sheds_forget station c.registry).later).tellOld _ "station forgotten"
  | stop => exact h.visited _ le_rfl
  | sweep now =>
    show Sound (if c.registry.shutdown then { c with registry := c.registry.sweep now } else c)
    split
    · exact h.visited _ (Registry.sheds_sweep now c.registry).later
    · exact h
  | call station action payload timeout => exact h.call station action payload timeout
  | giveUp caller => exact h.giveUp caller
  | resume caller now => exact h.resume caller now
  | session id turn =>
    unfold Server.step
    dsimp only
    split
    · exact h
    · rename_i s found
      exact h.turn found turn

theorem sound_start (config : CsmsConfig) : Sound (Server.start config : Server Reported) where
  tracks := fun _ _ found => nomatch found
  apart := fun _ _ _ _ _ found => nomatch found
  below := fun _ _ found => nomatch found
  requests := fun _ _ asked => nomatch asked
  results := fun _ has => absurd rfl has
  gone := fun _ left => nomatch left
  returned := fun _ _ mem => nomatch mem
  once := .nil

theorem Sound.run (h : Sound c) (inputs : List Input) : Sound (c.run env inputs) := by
  unfold Server.run
  induction inputs generalizing c with
  | nil => exact h
  | cons input rest ih => exact ih (h.step input)

/-! ## Deadlines -/

/-- The deadline of the CALL in flight counts from the end of its write, and no queued CALL waits for nothing. -/
structure Paced (inputs : List Input) (id : SessionId) (s : Session) : Prop where
  deadline : ∀ flight, s.inFlight = some flight →
    .session id (.written flight.written) ∈ inputs ∧ flight.deadline = flight.written + flight.timeout
  queue : s.phase = .select → s.inFlight ≠ none ∨ s.queue = []

def AllPaced (inputs : List Input) (c : Server Reported) : Prop :=
  ∀ id s, c.sessions id = some s → Paced inputs id s

variable {inputs : List Input}

theorem Server.setSession_self (c : Server Reported) (id : SessionId) (s : Session) :
    (c.setSession id s).sessions id = some s :=
  Function.update_self ..

theorem Server.setSession_only (found : (c.setSession id s).sessions id = some s') : s' = s :=
  (Option.some.inj ((c.setSession_self id s).symm.trans found)).symm

theorem AllPaced.set (h : AllPaced inputs c) (paced : Paced inputs id s) : AllPaced inputs (c.setSession id s) := by
  intro id' t there
  by_cases eq : id' = id
  · subst eq
    rw [Server.setSession_only there]
    exact paced
  · exact h id' t ((Function.update_of_ne eq _ _).symm.trans there)

/-- A session that is not parked keeps the CALL that it has in flight. -/
theorem Paced.keeps (h : Paced inputs id s) (flight : s'.inFlight = s.inFlight) (parked : s'.phase ≠ .select) :
    Paced inputs id s' :=
  ⟨fun f some => h.deadline f (flight ▸ some), fun is => absurd is parked⟩

theorem Paced.free (free : s.inFlight = none) (parked : s.phase ≠ .select) : Paced inputs id s :=
  ⟨fun _ some => absurd (free.symm.trans some) (by simp), fun is => absurd is parked⟩

theorem AllPaced.turn (h : AllPaced inputs c) (found : c.sessions id = some s) {turn : Turn}
    (known : .session id turn ∈ inputs) : AllPaced inputs (c.turn env id s turn) := by
  have mine := h id s found
  have goes (registry : Registry Reported) (phase : Phase) (parked : phase ≠ .select) :
      AllPaced inputs (({ c with registry } : Server Reported).setSession id { s with phase }) :=
    AllPaced.set (c := { c with registry }) h (mine.keeps rfl parked)
  unfold Server.turn
  split
  · rename_i at'
    unfold Server.pump
    split
    · rename_i call rest free queue
      split
      · exact h.set (mine.keeps rfl (by simp [Session.note, at']))
      · exact AllPaced.set (c := { c with nextMessage := c.nextMessage + 1 }) h (mine.keeps rfl (by simp))
    · rename_i none
      refine h.set ⟨mine.deadline, fun _ => ?_⟩
      cases wire : s.inFlight with
      | some flight => exact .inl (by simp)
      | none =>
        cases line : s.queue with
        | nil => exact .inr rfl
        | cons call rest => exact absurd line (none call rest wire)
  · unfold Server.command
    split
    · exact h
    · exact h.set (mine.keeps rfl (by simp))
    · exact h.set (mine.keeps rfl (by simp))
  · unfold Server.onText
    split
    · dsimp only
      split
      · exact goes _ _ (by simp)
      · exact goes _ _ (by simp)
    · exact goes _ _ (by simp)
  · rename_i reply now frame _
    have answered (answer : Frame) (log : List CallEvent) (c' : Server Reported) (same : c'.sessions = c.sessions) :
        AllPaced inputs (c'.setSession id { s with inFlight := none, phase := .top, log }) ∧
          AllPaced inputs (c'.setSession id { s with phase := .top, log }) := by
      have all : AllPaced inputs c' := fun id t there => h id t (same ▸ there)
      exact ⟨all.set (.free rfl (by simp)), all.set (mine.keeps rfl (by simp))⟩
    unfold Server.onFrame
    split
    · dsimp only
      split
      · exact goes _ _ (by simp)
      · exact goes _ _ (by simp)
      · exact goes _ _ (by simp)
      · exact goes _ _ (by simp)
    · dsimp only
      split
      · split
        · exact (answered frame _ _ rfl).1
        · exact (answered frame _ _ rfl).2
      · exact (answered frame _ _ rfl).2
  · exact goes _ _ (by simp)
  · unfold Server.written
    split
    · exact h.set (mine.keeps rfl (by simp))
    · refine h.set ⟨fun flight some => ?_, fun is => nomatch is⟩
      obtain rfl := Option.some.inj some
      exact ⟨known, rfl⟩
  · unfold Server.expireInFlight
    split
    · exact h
    · split
      · exact AllPaced.set (c := c.resolve _ _) h (.free rfl (by simp [Session.note]))
      · exact h
  · split
    · exact h.set (mine.keeps rfl (by simp))
    · exact h
  · rename_i reason
    split
    · have dropped (calls : List (Caller × String)) (c : Server Reported) (h : AllPaced inputs c)
          (finished : ∀ s, c.sessions id = some s → s.inFlight = none ∧ s.phase = .ended reason) :
          let c' := calls.foldl (fun c call => Server.dropReply id c call.1 call.2) c
          AllPaced inputs c' ∧ ∀ s, c'.sessions id = some s → s.inFlight = none ∧ s.phase = .ended reason := by
        induction calls generalizing c with
        | nil => exact ⟨h, finished⟩
        | cons call rest ih =>
          rw [List.foldl_cons]
          unfold Server.dropReply
          split
          · exact ih c h finished
          · rename_i t there
            obtain ⟨free, ended⟩ := finished t there
            refine ih _ (AllPaced.set (c := c.resolve _ _) h (.free free (by simp [Session.note, ended])))
              fun s' found' => ?_
            rw [Server.setSession_only found']
            exact ⟨free, ended⟩
      unfold Server.endSession
      obtain ⟨all, finished⟩ := dropped (Server.Session.calls s) _ (h.set (.free (s := { s with
          inFlight := none, queue := [], commands := [], phase := .ended reason }) rfl (by simp))) fun s' found' => by
        rw [Server.setSession_only found']
        exact ⟨rfl, rfl⟩
      dsimp only
      split
      · rename_i t there
        obtain ⟨free, ended⟩ := finished t there
        exact all.set (.free free (by simp [Session.note, ended]))
      · exact all
    · exact h
  · exact goes _ _ (by simp)
  · exact h

theorem AllPaced.step (h : AllPaced inputs c) {input : Input} (known : input ∈ inputs) : AllPaced inputs (c.step env input) := by
  have tell (c : Server Reported) (h : AllPaced inputs c) (id : SessionId) (command : SessionCmd) :
      AllPaced inputs (c.tell id command) := by
    unfold Server.tell
    split
    · rename_i s found
      split
      · exact h.set ⟨(h id s found).deadline, (h id s found).queue⟩
      · exact h
    · exact h
  have tellOld (c : Server Reported) (h : AllPaced inputs c) (old : Option SessionId) (reason : String) :
      AllPaced inputs (c.tellOld old reason) := by
    cases old with
    | none => exact h
    | some id => exact tell c h id _
  cases input with
  | register station peer subprotocol now =>
    unfold Server.step
    dsimp only
    split
    · exact h
    · rename_i registry id old _
      exact (tellOld { c with registry } h _ _).set (.free (s := { station }) rfl (by simp))
  | forget station => exact tellOld { c with registry := (c.registry.forget station).1 } h _ _
  | stop => exact h
  | sweep now =>
    show AllPaced inputs (if c.registry.shutdown then { c with registry := c.registry.sweep now } else c)
    split <;> exact h
  | call station action payload timeout =>
    show AllPaced inputs (c.call station action payload timeout)
    rcases c.call_cases station action payload timeout with
      ⟨result, eq⟩ | ⟨id, s, request, queued, open', -, -, -, eq⟩
    · rw [eq]
      exact h
    · rw [eq]
      exact AllPaced.set (c := { c with callers := _, requests := _ }) h
        ⟨(h _ _ open').deadline, (h _ _ open').queue⟩
  | giveUp caller =>
    show AllPaced inputs (c.giveUp caller)
    unfold Server.giveUp
    split
    · exact h
    · split
      · exact h
      · dsimp only
        split
        · rename_i s found
          exact AllPaced.set (c := { c with gone := _ }) h ⟨(h _ s found).deadline, (h _ s found).queue⟩
        · exact h
  | resume caller now =>
    show AllPaced inputs (c.resume env caller now)
    unfold Server.resume
    split
    · split
      · exact h
      · dsimp only
        split
        · split <;> exact h
        · exact h
        · exact h
        · exact h
    · exact h
  | session id turn =>
    unfold Server.step
    dsimp only
    split
    · exact h
    · rename_i s found
      exact h.turn found known

theorem AllPaced.run (h : AllPaced inputs c) {past : List Input} (known : past ⊆ inputs) :
    AllPaced inputs (c.run env past) := by
  unfold Server.run
  induction past generalizing c with
  | nil => exact h
  | cons input rest ih => exact ih (h.step (known List.mem_cons_self)) (List.subset_of_cons_subset known)

/-- The deadline that a CALL has reached on the wire. -/
def Due (c : Server Reported) (input : Input) (caller : Caller) (timeout : Nat) : Prop :=
  ∃ id s flight now, input = .session id (.deadline now) ∧ c.sessions id = some s ∧ s.inFlight = some flight ∧
    flight.reply = caller ∧ flight.timeout = timeout ∧ flight.deadline ≤ now

/-- No turn but that of the deadline ends a CALL with a timeout. -/
theorem Server.turn_due (found : c.sessions id = some s) (turn : Turn) {caller : Caller} {station : StationId}
    {action : String} {timeout : Nat} (fresh : c.results caller = none)
    (timedOut : (c.turn env id s turn).results caller = some (.timeout station action timeout)) :
    Due c (.session id turn) caller timeout := by
  have absurd' (same : (c.turn env id s turn).results caller = c.results caller) :
      Due c (.session id turn) caller timeout := by
    rw [same, fresh] at timedOut
    cases timedOut
  have otherwise (d : Caller) (result : CallResult) (c' : Server Reported) (same : c'.results = c.results)
      (differs : ∀ station action timeout, result ≠ .timeout station action timeout) :
      (c'.resolve d result).results caller ≠ some (.timeout station action timeout) := by
    intro has
    unfold Server.resolve at has
    dsimp only at has
    by_cases eq : caller = d
    · subst eq
      rw [Function.update_self] at has
      exact differs _ _ _ (Option.some.inj has)
    · rw [Function.update_of_ne eq, same, fresh] at has
      cases has
  revert timedOut absurd'
  unfold Server.turn
  split
  · unfold Server.pump
    split
    · split <;> exact fun _ again => again rfl
    · exact fun _ again => again rfl
  · unfold Server.command
    split <;> exact fun _ again => again rfl
  · unfold Server.onText
    split
    · dsimp only
      split <;> exact fun _ again => again rfl
    · exact fun _ again => again rfl
  · unfold Server.onFrame
    split
    · dsimp only
      split <;> exact fun _ again => again rfl
    · dsimp only
      split
      · split
        · exact fun has _ => absurd has (otherwise _ _ _ rfl fun _ _ _ => nofun)
        · exact fun _ again => again rfl
      · exact fun _ again => again rfl
  · exact fun _ again => again rfl
  · unfold Server.written
    split <;> exact fun _ again => again rfl
  · rename_i now _
    unfold Server.expireInFlight
    split
    · exact fun _ again => again rfl
    · rename_i flight wire
      split
      · rename_i due
        intro has _
        change Function.update c.results flight.reply _ caller = _ at has
        by_cases eq : caller = flight.reply
        · subst eq
          rw [Function.update_self] at has
          injection Option.some.inj has with _ _ same
          exact ⟨id, s, flight, now, rfl, found, wire, rfl, same, due⟩
        · rw [Function.update_of_ne eq, fresh] at has
          cases has
      · exact fun _ again => again rfl
  · split <;> exact fun _ again => again rfl
  · split
    · have dropped (calls : List (Caller × String)) (c' : Server Reported)
          (none : c'.results caller ≠ some (.timeout station action timeout)) :
          (calls.foldl (fun c call => Server.dropReply id c call.1 call.2) c').results caller ≠
            some (.timeout station action timeout) := by
        induction calls generalizing c' with
        | nil => exact none
        | cons call rest ih =>
          rw [List.foldl_cons]
          refine ih _ ?_
          unfold Server.dropReply
          split
          · exact none
          · intro has
            by_cases eq : caller = call.1
            · subst eq
              cases (Function.update_self ..).symm.trans has
            · exact none ((Function.update_of_ne eq _ _).symm.trans has)
      rename_i reason _
      have none := dropped (Server.Session.calls s) (c.setSession id { s with
          inFlight := none, queue := [], commands := [], phase := .ended reason }) fun has => by
        cases fresh.symm.trans has
      intro has _
      refine absurd ?_ none
      revert has
      unfold Server.endSession
      dsimp only
      split <;> exact fun has => has
    · exact fun _ again => again rfl
  · exact fun _ again => again rfl
  · exact fun _ again => again rfl

theorem Server.step_due (c : Server Reported) (input : Input) {caller : Caller} {station : StationId}
    {action : String} {timeout : Nat} (fresh : c.results caller = none)
    (timedOut : (c.step env input).results caller = some (.timeout station action timeout)) :
    Due c input caller timeout := by
  have absurd' (same : (c.step env input).results = c.results) : Due c input caller timeout := by
    rw [same, fresh] at timedOut
    cases timedOut
  have tellOld (c : Server Reported) (old : Option SessionId) (reason : String) :
      (c.tellOld old reason).results = c.results := by
    unfold Server.tellOld Server.tell
    split
    · split
      · split <;> rfl
      · rfl
    · rfl
  cases input with
  | register station peer subprotocol now =>
    refine absurd' ?_
    unfold Server.step
    dsimp only
    split
    · rfl
    · exact tellOld { c with registry := _ } _ _
  | forget station => exact absurd' (tellOld { c with registry := (c.registry.forget station).1 } _ _)
  | stop => exact absurd' rfl
  | sweep now =>
    refine absurd' ?_
    unfold Server.step
    dsimp only
    split <;> rfl
  | call station action payload timeout =>
    refine absurd' ?_
    show (c.call station action payload timeout).results = c.results
    rcases c.call_cases station action payload timeout with ⟨result, eq⟩ | ⟨id, s, request, queued, -, -, -, -, eq⟩
    · rw [eq]
    · rw [eq]
      rfl
  | giveUp caller =>
    refine absurd' ?_
    show (c.giveUp caller).results = c.results
    unfold Server.giveUp
    split
    · rfl
    · split
      · rfl
      · dsimp only
        split <;> rfl
  | resume caller now =>
    refine absurd' ?_
    show (c.resume env caller now).results = c.results
    unfold Server.resume
    split
    · split
      · rfl
      · dsimp only
        split
        · split <;> rfl
        · rfl
        · rfl
        · rfl
    · rfl
  | session id turn =>
    cases found : c.sessions id with
    | none =>
      refine absurd' ?_
      unfold Server.step
      dsimp only
      rw [found]
    | some s =>
      unfold Server.step at timedOut
      dsimp only at timedOut
      rw [found] at timedOut
      exact Server.turn_due found turn fresh timedOut

/-! ## The law -/

theorem mem_sentIds {log : List CallEvent} {caller : Caller} {m : MessageId} (sent : .sent caller m ∈ log) :
    m ∈ sentIds log :=
  List.mem_filterMap.mpr ⟨_, sent, rfl⟩

/-- An id that is drawn once stands for one CALL. -/
theorem sent_once {log : List CallEvent} (nodup : (sentIds log).Nodup) {caller caller' : Caller} {m : MessageId}
    (sent : .sent caller m ∈ log) (sent' : .sent caller' m ∈ log) : caller = caller' := by
  induction log with
  | nil => cases sent
  | cons event log ih =>
    cases List.mem_cons.mp sent with
    | inl first =>
      subst first
      cases List.mem_cons.mp sent' with
      | inl same =>
        injection same with same _
        exact same.symm
      | inr later' => exact absurd (mem_sentIds later') (List.nodup_cons.mp nodup).1
    | inr later =>
      cases List.mem_cons.mp sent' with
      | inl first =>
        subst first
        exact absurd (mem_sentIds later) (List.nodup_cons.mp nodup).1
      | inr later' =>
        refine ih ?_ later later'
        exact nodup.sublist (List.Sublist.filterMap _ (List.sublist_cons_self _ _))

/-- What holds of the CALLs of every session and of the futures, after the inputs. -/
structure Orderly (env : Env Reported) (inputs : List Input) (c : Server Reported) : Prop where
  /-- The law of remote calls, session by session. -/
  serialized : ∀ id s, c.sessions id = some s → Rpc.Serialized s.log
  /-- A CALL is only written while none is outstanding. -/
  one : ∀ id s, c.sessions id = some s → s.inFlight = none ∨ s.phase.call? = none
  /-- A result is the answer with the id of the CALL, its timeout or the end of the connection. -/
  faithful : ∀ id s, c.sessions id = some s → ∀ event ∈ s.log, Faithful s.station event
  /-- An id belongs to one CALL of one session. -/
  unique : ∀ id s id' s' caller caller' m, c.sessions id = some s → c.sessions id' = some s' →
    .sent caller m ∈ s.log → .sent caller' m ∈ s'.log → id = id' ∧ caller = caller'
  /-- A future returns at most once. -/
  once : (c.returned.map (·.1)).Nodup
  /-- It returns what its session resolved it with. -/
  returned : ∀ caller result request, (caller, result) ∈ c.returned → c.requests caller = some request →
    ∃ s, c.sessions request.session = some s ∧ ∃ event ∈ s.log, resolved event = some (caller, result)
  /-- One that is awaited has its result, or its CALL is with a live session. -/
  held : ∀ caller request, c.requests caller = some request → caller ∉ c.gone →
    (∃ result, c.results caller = some result) ∨
      ∃ s, c.sessions request.session = some s ∧ s.phase.live = true ∧
        (caller ∈ s.line ∨ ∃ flight, s.inFlight = some flight ∧ flight.reply = caller)
  /-- With its result it returns. -/
  resumes : ∀ caller request result now, c.requests caller = some request → c.results caller = some result →
    caller ∉ c.gone → (caller, result) ∈ (c.step env (.resume caller now)).returned
  /-- The timeout counts from the end of the write. -/
  deadline : ∀ id s flight, c.sessions id = some s → s.inFlight = some flight →
    .session id (.written flight.written) ∈ inputs ∧ flight.deadline = flight.written + flight.timeout
  /-- Before it no CALL times out. -/
  due : ∀ input caller station action timeout, c.results caller = none →
    (c.step env input).results caller = some (.timeout station action timeout) → Due c input caller timeout
  /-- From it on the parked session times it out. -/
  expires : ∀ id s flight now, c.sessions id = some s → s.phase = .select → s.inFlight = some flight →
    flight.deadline ≤ now →
    (c.step env (.session id (.deadline now))).results flight.reply =
      some (.timeout s.station flight.action flight.timeout)
  /-- A session with CALLs in its queue parks only while one is outstanding. -/
  parked : ∀ id s, c.sessions id = some s → s.phase = .select → s.inFlight ≠ none ∨ s.queue = []

end KirbyOcpp.Csms
