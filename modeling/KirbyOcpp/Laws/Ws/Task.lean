import KirbyOcpp.Ws.Task

/-!
# The connection task refines the protocol of remote calls

Every run of the connection task writes a log that is a trace of `Rpc`, as long as no broken CALL
arrives under the id of a CALL that is being handled: such a frame is answered at once
(`FrameError.reply`), and the CALL gets its own reply later.

`Stands` is what the log says of a point inside a step: the line of callers, the outstanding call, the
CALLs being handled. Every place that writes to the log moves it as the protocol does; a method that
does so in the order of the source is `Sound`.
-/

namespace KirbyOcpp.Ws

open Rpc

/-! ## What the log says -/

/-- What a frame on the wire says: that a CALL was sent, or that one was answered. -/
def onWire : Rpc.Event Caller MessageId CallResult → Option (Bool × MessageId)
  | .sent _ id => some (true, id)
  | .replied id | .inbound id _ .rejected => some (false, id)
  | _ => none

def deliveries : Rpc.Event Caller MessageId CallResult → Option MessageId
  | .inbound id _ .delivered => some id
  | _ => none

def ConnectionEvent.delivers : ConnectionEvent → Option MessageId
  | .call id _ _ => some id
  | _ => none

/-- The log of the run leads to `a` and tells what happened. -/
structure Shows (env : Env) (r : Run) (a : State Caller MessageId) : Prop where
  trace : Trace r.log a
  gone : a.gone = r.gone
  used : ∀ id ∈ a.used, ∃ n < r.drawn, id = env.newV4 n
  known : ∀ c ∈ submissions r.log, c < r.callers
  wire : r.log.filterMap onWire = r.wire.map fun frame => (frame.isCall, frame.id)
  events : r.log.filterMap deliveries = r.events.filterMap ConnectionEvent.delivers

/-- The log stands at the line `waiting`, the outstanding call `sent` and the CALLs `handling`. -/
def Stands (env : Env) (r : Run) (waiting : List Caller) (sent : Option (Caller × MessageId))
    (handling : List MessageId) : Prop :=
  ∃ a, Shows env r a ∧ a.waiting = waiting ++ Run.commandCallers r.commands ∧ a.outstanding = sent ∧
    (∀ id, id ∈ a.handling ↔ id ∈ handling) ∧ a.closing = false

/-- The log stands there, and the connection is about to end. -/
def Halts (env : Env) (r : Run) (waiting : List Caller) (sent : Option (Caller × MessageId)) : Prop :=
  ∃ a, Shows env r a ∧ a.waiting = waiting ++ Run.commandCallers r.commands ∧ a.outstanding = sent

section Events

variable {env : Env} {r : Run} {waiting : List Caller} {sent : Option (Caller × MessageId)}
  {handling : List MessageId}

/-- A task may stop wherever it stands. -/
theorem Stands.halts (h : Stands env r waiting sent handling) : Halts env r waiting sent := by
  obtain ⟨a, shows, line, wire, -, -⟩ := h
  exact ⟨a, shows, line, wire⟩

/-- An event that is no submission, no frame and no delivery. -/
theorem Shows.note {a : State Caller MessageId} (h : Shows env r a)
    (event : Rpc.Event Caller MessageId CallResult) (enabled : Enabled a event)
    (submits : submissions (event :: r.log) = submissions r.log) (silent : onWire event = none)
    (inside : deliveries event = none) (gone : (next a event).gone = a.gone) (used : (next a event).used = a.used) :
    Shows env (r.note event) (next a event) where
  trace := .cons h.trace event enabled
  gone := gone.trans h.gone
  used := used ▸ h.used
  known := by
    change ∀ c ∈ submissions (event :: r.log), c < r.callers
    exact submits ▸ h.known
  wire := by
    change (event :: r.log).filterMap onWire = _
    rw [List.filterMap_cons_none silent]
    exact h.wire
  events := by
    change (event :: r.log).filterMap deliveries = _
    rw [List.filterMap_cons_none inside]
    exact h.events

/-- A caller gives up. -/
theorem Shows.giveUp {a : State Caller MessageId} (h : Shows env r a) (c : Caller) :
    Shows env (r.giveUp c) { a with gone := c :: a.gone } where
  trace := .cons h.trace (.gaveUp c) trivial
  gone := congrArg (c :: ·) h.gone
  used := h.used
  known := h.known
  wire := h.wire
  events := h.events

/-- Between two states of a run only the callers that gave up and what it wrote may differ. -/
structure Aside (r r' : Run) : Prop where
  task : r'.toTask = r.toTask
  commands : r'.commands = r.commands
  replies : r'.replies = r.replies
  drawn : r'.drawn = r.drawn
  callers : r'.callers = r.callers
  ended : r'.ended = r.ended

/-- Nothing happens. -/
theorem Aside.refl (r : Run) : Aside r r := ⟨rfl, rfl, rfl, rfl, rfl, rfl⟩

/-- What stays aside goes on. -/
theorem Aside.trans {r r' r'' : Run} (h : Aside r r') (h' : Aside r' r'') : Aside r r'' :=
  ⟨h'.task.trans h.task, h'.commands.trans h.commands, h'.replies.trans h.replies,
    h'.drawn.trans h.drawn, h'.callers.trans h.callers, h'.ended.trans h.ended⟩

private theorem aside_giveUps (callers : List Caller) (r : Run) : Aside r (callers.foldl Run.giveUp r) := by
  induction callers generalizing r with
  | nil => exact .refl r
  | cons c rest ih =>
    have first : Aside r (r.giveUp c) := ⟨rfl, rfl, rfl, rfl, rfl, rfl⟩
    exact first.trans (ih (r.giveUp c))

/-- Callers give up while the task stands. -/
theorem Stands.giveUps (callers : List Caller) (h : Stands env r waiting sent handling) :
    Stands env (callers.foldl Run.giveUp r) waiting sent handling := by
  induction callers generalizing r with
  | nil => exact h
  | cons c rest ih =>
    obtain ⟨a, shows, line, wire, handles, going⟩ := h
    exact ih ⟨_, shows.giveUp c, line, wire, handles, going⟩

/-- Callers give up while the task stops. -/
theorem Halts.giveUps (callers : List Caller) (h : Halts env r waiting sent) :
    Halts env (callers.foldl Run.giveUp r) waiting sent := by
  induction callers generalizing r with
  | nil => exact h
  | cons c rest ih =>
    obtain ⟨a, shows, line, wire⟩ := h
    exact ih ⟨_, shows.giveUp c, line, wire⟩

private theorem send_reached {a : State Caller MessageId} (h : Shows env r a) (c : Caller) (result : CallResult) :
    r.send c result = a.reached c result := by
  unfold Run.send State.reached
  rw [h.gone]

/-! ### One lemma for each event -/

/-- A CALL whose caller has given up leaves the queue. -/
theorem Stands.withdrawn (kept : List Caller) {rest : List Caller} {c : Caller} (gone : c ∈ r.gone)
    (h : Stands env r (kept ++ c :: rest) sent handling) :
    Stands env (r.note (.withdrawn c)) (kept ++ rest) sent handling := by
  obtain ⟨a, shows, line, wire, handles, going⟩ := h
  have inLine : c ∈ a.waiting := by simp [line]
  refine ⟨next a (.withdrawn c : Rpc.Event Caller MessageId CallResult),
    shows.note (.withdrawn c) ⟨inLine, shows.gone ▸ gone⟩ rfl rfl rfl rfl rfl, ?_, wire, handles, going⟩
  have nodup : a.waiting.Nodup := by
    have all := shows.trace.reads.callers.nodup_iff.mp shows.trace.reads.nodup
    exact (List.nodup_append.mp (List.nodup_append.mp all).1).1
  change a.waiting.erase c = _
  rw [line, List.append_assoc] at nodup ⊢
  have new : c ∉ kept := fun mem =>
    (List.nodup_append.mp nodup).2.2 c mem c (by simp) rfl
  rw [List.erase_append_right _ new, List.cons_append, List.erase_cons_head, List.append_assoc]
  rfl

/-- The CALL that is out is answered. -/
theorem Stands.answered {c : Caller} {id : MessageId} (result : CallResult)
    (h : Stands env r waiting (some (c, id)) handling) :
    Stands env (r.note (.answered id (r.send c result))) waiting none handling := by
  obtain ⟨a, shows, line, wire, handles, going⟩ := h
  have settled : next a (.answered id (r.send c result)) =
      { a with outstanding := none, settled := c :: a.settled } := State.settle_open wire
  refine ⟨_, shows.note _ (.inl ⟨c, result, wire, send_reached shows c result⟩) rfl rfl rfl ?_ ?_, ?_⟩
  · rw [settled]
  · rw [settled]
  · rw [settled]
    exact ⟨line, rfl, handles, going⟩

/-- The CALL that is out runs into its deadline. -/
theorem Stands.expired {c : Caller} {id : MessageId} (result : CallResult)
    (h : Stands env r waiting (some (c, id)) handling) :
    Stands env (r.note (.expired id (r.send c result))) waiting none handling := by
  obtain ⟨a, shows, line, wire, handles, going⟩ := h
  have settled : next a (.expired id (r.send c result)) =
      { a with outstanding := none, settled := c :: a.settled } := State.settle_open wire
  refine ⟨_, shows.note _ ⟨c, result, wire, send_reached shows c result⟩ rfl rfl rfl ?_ ?_, ?_⟩
  · rw [settled]
  · rw [settled]
  · rw [settled]
    exact ⟨line, rfl, handles, going⟩

/-- An answer to no CALL is not heeded. -/
theorem Stands.unheeded {id : MessageId} (strange : ∀ c, sent ≠ some (c, id))
    (h : Stands env r waiting sent handling) :
    Stands env (r.note (.answered id none)) waiting sent handling := by
  obtain ⟨a, shows, line, wire, handles, going⟩ := h
  have other : ∀ c, a.outstanding ≠ some (c, id) := by
    rw [wire]
    exact strange
  have same : next a (.answered id none : Rpc.Event Caller MessageId CallResult) = a :=
    State.settle_strange other
  have noted := shows.note (.answered id none) (.inr ⟨other, rfl⟩) rfl rfl rfl
  rw [same] at noted
  exact ⟨a, noted rfl rfl, line, wire, handles, going⟩

/-- A CALL that was queued or out fails with the connection. -/
theorem Halts.failed {c : Caller} {sent' : Option (Caller × MessageId)} {waiting' : List Caller}
    (result : CallResult) (h : Halts env r waiting sent)
    (first : (waiting = c :: waiting' ∧ sent' = sent ∧ ∀ id, sent ≠ some (c, id)) ∨
      (waiting' = waiting ∧ sent' = none ∧ ∃ id, sent = some (c, id))) :
    Halts env (r.note (.failed c (r.send c result))) waiting' sent' := by
  obtain ⟨a, shows, line, wire⟩ := h
  rcases first with ⟨rfl, rfl, other⟩ | ⟨rfl, rfl, id, rfl⟩
  · refine ⟨_, shows.note _ ⟨.inl (by simp [line]), result, send_reached shows c result⟩ rfl rfl rfl rfl rfl,
      ?_, ?_⟩
    · change a.waiting.erase c = _
      rw [line, List.cons_append, List.erase_cons_head]
      rfl
    · change a.outstanding.filter _ = sent'
      rw [wire]
      cases sent' with
      | none => rfl
      | some call =>
        have apart : call.1 ≠ c := fun same => other call.2 (by rw [← same])
        simp [apart]
  · refine ⟨_, shows.note _ ⟨.inr ⟨id, wire⟩, result, send_reached shows c result⟩ rfl rfl rfl rfl rfl,
      ?_, ?_⟩
    · change a.waiting.erase c = _
      rw [List.erase_of_not_mem (fun inLine => shows.trace.reads.apart inLine id wire), line]
      rfl
    · change a.outstanding.filter _ = none
      simp [wire]

/-- A CALL whose id is being handled is ignored. -/
theorem Stands.ignored {id : MessageId} (valid : Bool) (busy : id ∈ handling)
    (h : Stands env r waiting sent handling) :
    Stands env (r.note (.inbound id valid .ignored)) waiting sent handling := by
  obtain ⟨a, shows, line, wire, handles, going⟩ := h
  exact ⟨a, shows.note (.inbound id valid .ignored) ((handles id).mpr busy) rfl rfl rfl rfl rfl, line, wire,
    handles, going⟩

/-- A CALL is handed over. -/
theorem Stands.delivered {id : MessageId} (action : String) (payload : Json) (fresh : id ∉ handling)
    (h : Stands env r waiting sent handling) :
    Stands env (Run.note (.inbound id true .delivered)
      { r with events := .call id action payload :: r.events }) waiting sent (id :: handling) := by
  obtain ⟨a, shows, line, wire, handles, going⟩ := h
  have enabled : Enabled a (.inbound id true .delivered : Rpc.Event Caller MessageId CallResult) :=
    ⟨rfl, fun mem => fresh ((handles id).mp mem)⟩
  refine ⟨_, ⟨.cons shows.trace _ enabled, shows.gone, shows.used, shows.known, shows.wire, ?_⟩, line, wire,
    fun j => ?_, going⟩
  · exact congrArg (id :: ·) shows.events
  · change j ∈ id :: a.handling ↔ j ∈ id :: handling
    rw [List.mem_cons, List.mem_cons, handles]

/-- A CALL that comes while the task stops is lost. -/
theorem Halts.lost (id : MessageId) (valid : Bool) (h : Halts env r waiting sent) :
    Halts env (r.note (.inbound id valid .lost)) waiting sent := by
  obtain ⟨a, shows, line, wire⟩ := h
  exact ⟨_, shows.note (.inbound id valid .lost) trivial rfl rfl rfl rfl rfl, line, wire⟩

/-- A frame on the wire, with the event that it is. -/
theorem Shows.write {a : State Caller MessageId} (h : Shows env r a) (frame : Frame)
    (event : Rpc.Event Caller MessageId CallResult) (enabled : Enabled a event)
    (submits : submissions (event :: r.log) = submissions r.log)
    (tells : onWire event = some (frame.isCall, frame.id)) (inside : deliveries event = none)
    (gone : (next a event).gone = a.gone)
    (used : ∀ id ∈ (next a event).used, ∃ n < r.drawn, id = env.newV4 n) :
    Shows env { r with wire := frame :: r.wire, log := event :: r.log } (next a event) where
  trace := .cons h.trace event enabled
  gone := gone.trans h.gone
  used := used
  known := by
    change ∀ c ∈ submissions (event :: r.log), c < r.callers
    exact submits ▸ h.known
  wire := by
    change (event :: r.log).filterMap onWire = _
    rw [List.filterMap_cons_some tells, h.wire]
    rfl
  events := by
    change (event :: r.log).filterMap deliveries = _
    rw [List.filterMap_cons_none inside]
    exact h.events

end Events

/-! ## Runs without a broken repetition -/

/-- The text that the source hands over. -/
def Source.heard : Run.Source → Option String
  | .socket (some (.ok (.text text))) => some text
  | .socket (some (.ok (.binary utf8))) => utf8
  | _ => none

/-- The id of the broken CALL that the input brings. -/
def Input.broken (env : Env) : Run.Input → Option MessageId
  | .turn source _ _ _ =>
    (Source.heard source).bind fun text =>
      match Frame.parse env.fromStr text with
      | .error error => error.brokenCall
      | .ok _ => none
  | _ => none

/-- A broken CALL does not carry the id of a CALL that is being handled. -/
def Calm (env : Env) (r : Run) (input : Run.Input) : Prop :=
  ∀ id, Input.broken env input = some id → id ∉ r.incoming.map (·.1)

/-- Every input of the run is calm. -/
def CalmRun (env : Env) : List Run.Input → Run → Prop
  | [], _ => True
  | input :: rest, r => Calm env r input ∧ CalmRun env rest (r.input env input)

/-! ## Methods -/

/-- What holds after a method that goes on, and after one that stops the connection. -/
def Flow.Meets (flow : Flow) (goes stops : Run → Prop) : Prop :=
  match flow with
  | (r, none) => goes r
  | (r, some _) => stops r

/-- The rule of sequence. -/
theorem Flow.Meets.andThen {flow : Flow} {rest : Run → Flow} {goes goes' stops : Run → Prop}
    (first : flow.Meets goes stops) (second : ∀ r, goes r → (rest r).Meets goes' stops) :
    (flow.andThen rest).Meets goes' stops := by
  obtain ⟨r, stop⟩ := flow
  cases stop with
  | none => exact second r first
  | some stop => exact first

/-- The rule of consequence. -/
theorem Flow.Meets.mono {flow : Flow} {goes goes' stops stops' : Run → Prop} (h : flow.Meets goes stops)
    (g : ∀ r, goes r → goes' r) (s : ∀ r, stops r → stops' r) : flow.Meets goes' stops' := by
  obtain ⟨r, stop⟩ := flow
  cases stop with
  | none => exact g r h
  | some stop => exact s r h

section Methods

variable {env : Env} {r : Run} {waiting waiting' : List Caller} {sent sent' : Option (Caller × MessageId)}
  {handling handling' : List MessageId}

/-- `r` went on to a run that stands there. -/
def At (env : Env) (r : Run) (waiting : List Caller) (sent : Option (Caller × MessageId))
    (handling : List MessageId) (r' : Run) : Prop :=
  Aside r r' ∧ Stands env r' waiting sent handling

/-- What a run stands at depends on its log and its channels only. -/
theorem Stands.congr {r' : Run} (h : Stands env r waiting sent handling) (log : r'.log = r.log)
    (gone : r'.gone = r.gone) (drawn : r.drawn ≤ r'.drawn) (callers : r'.callers = r.callers)
    (wire : r'.wire = r.wire) (events : r'.events.filterMap ConnectionEvent.delivers =
      r.events.filterMap ConnectionEvent.delivers) (commands : r'.commands = r.commands) :
    Stands env r' waiting sent handling := by
  obtain ⟨a, shows, line, out, handles, going⟩ := h
  refine ⟨a, ⟨log ▸ shows.trace, gone ▸ shows.gone, fun id used => ?_, ?_, ?_, ?_⟩, ?_, out, handles, going⟩
  · obtain ⟨n, bound, eq⟩ := shows.used id used
    exact ⟨n, Nat.lt_of_lt_of_le bound drawn, eq⟩
  · rw [log, callers]
    exact shows.known
  · rw [log, wire]
    exact shows.wire
  · rw [log, events]
    exact shows.events
  · rw [commands]
    exact line

private theorem attempt_meets (done : Run → Run) (h : Stands env r waiting sent handling)
    (keeps : ∀ io, Aside r (done { r with io }))
    (after : ∀ io, Stands env (done { r with io }) waiting' sent' handling') :
    match r.attempt done with
    | (r', none) => At env r waiting' sent' handling' r'
    | (r', some _) => At env r waiting sent handling r' := by
  unfold Run.attempt
  cases list : r.io with
  | nil =>
    have same : r = { r with io := [] } := by rw [← list]
    have keep := keeps []
    have stands := after []
    rw [← same] at keep stands
    exact ⟨keep, stands⟩
  | cons io rest =>
    cases failure : io.failure with
    | none =>
      simp only [failure]
      exact ⟨(keeps rest).trans (aside_giveUps _ _), (after rest).giveUps _⟩
    | some failed =>
      simp only [failure]
      have begun : Aside r { r with io := rest } := ⟨rfl, rfl, rfl, rfl, rfl, rfl⟩
      have stands : Stands env { r with io := rest } waiting sent handling :=
        h.congr rfl rfl (Nat.le_refl _) rfl rfl rfl rfl
      exact ⟨begun.trans (aside_giveUps _ _), stands.giveUps _⟩

private theorem sendMessage_meets (done : Run → Run) (h : Stands env r waiting sent handling)
    (keeps : ∀ io, Aside r (done { r with io }))
    (after : ∀ io, Stands env (done { r with io }) waiting' sent' handling') :
    (r.sendMessage done).Meets (At env r waiting' sent' handling') (At env r waiting sent handling) := by
  have spec := attempt_meets done h keeps after
  unfold Run.sendMessage
  cases result : r.attempt done with
  | mk r' failure =>
    rw [result] at spec
    cases failure with
    | none => exact spec
    | some failure => exact spec

private theorem hand_meets (event : ConnectionEvent) (done : Run → Run) (h : Stands env r waiting sent handling)
    (keeps : ∀ io, Aside r (done { r with io, events := event :: r.events }))
    (after : ∀ io, Stands env (done { r with io, events := event :: r.events }) waiting' sent' handling') :
    (r.hand event done).Meets (At env r waiting' sent' handling') (At env r waiting sent handling) := by
  have spec := attempt_meets (fun r => done { r with events := event :: r.events }) h keeps after
  unfold Run.hand
  cases result : r.attempt fun r => done { r with events := event :: r.events } with
  | mk r' failure =>
    rw [result] at spec
    cases failure with
    | none => exact spec
    | some failure => exact spec

/-- An event that is no call of the peer changes nothing. -/
theorem emit_meets (event : ConnectionEvent) (h : Stands env r waiting sent handling)
    (other : event.delivers = none) :
    (r.emit event).Meets (At env r waiting sent handling) (At env r waiting sent handling) := by
  refine hand_meets event id h (fun io => ⟨rfl, rfl, rfl, rfl, rfl, rfl⟩) fun io => ?_
  exact h.congr rfl rfl (Nat.le_refl _) rfl rfl (List.filterMap_cons_none other) rfl

private theorem warn_meets (message : String) (h : Stands env r waiting sent handling) :
    (r.warn message).Meets (At env r waiting sent handling) (At env r waiting sent handling) :=
  emit_meets _ h rfl

/-- Positions follow each other. -/
theorem At.trans {r' r'' : Run} (h : At env r waiting sent handling r')
    (h' : At env r' waiting' sent' handling' r'') : At env r waiting' sent' handling' r'' :=
  ⟨h.1.trans h'.1, h'.2⟩

private theorem write_meets (frame : Frame) (action : Option String) (event : Rpc.Event Caller MessageId CallResult)
    (h : Stands env r waiting sent handling)
    (after : ∀ io, Stands env { r with io, wire := frame :: r.wire, log := event :: r.log }
      waiting' sent' handling') :
    (r.write frame action event).Meets (At env r waiting' sent' handling')
      fun r' => At env r waiting sent handling r' ∨ At env r waiting' sent' handling' r' := by
  have first := sendMessage_meets
    (fun r => { r with wire := frame :: r.wire, log := event :: r.log }) h
    (fun io => ⟨rfl, rfl, rfl, rfl, rfl, rfl⟩) after
  refine (first.mono (fun _ => id) fun _ => Or.inl).andThen fun r' at' => ?_
  have second := emit_meets (.frame { direction := .out, msgId := some frame.id, action
                                      frame := r'.recorded frame }) at'.2 rfl
  exact second.mono (fun _ => at'.trans) fun _ stopped => .inr (at'.trans stopped)

/-! ### The queue -/

/-- The run stands where its queue, its pending table and its incoming table say. -/
def Sim (env : Env) (r : Run) : Prop :=
  r.serialize = true ∧ (∀ frame ∈ r.replies, frame.isCall = false) ∧
    ∃ sent, (r.pending.map fun entry => (entry.2.reply, entry.1)) = sent.toList ∧
      Stands env r (r.queue.map (·.reply)) sent (r.incoming.map (·.1))

/-- What `finish` needs. -/
def Ends (env : Env) (r : Run) : Prop :=
  ∃ sent, (r.pending.map fun entry => (entry.2.reply, entry.1)) = sent.toList ∧
    Halts env r (r.queue.map (·.reply)) sent

/-- A method keeps the run in step with its log. -/
def Sound (env : Env) (flow : Flow) : Prop := flow.Meets (Sim env) (Ends env)

/-- A task between two turns may end. -/
theorem Sim.ends (h : Sim env r) : Ends env r := by
  obtain ⟨-, -, sent, pending, stands⟩ := h
  exact ⟨sent, pending, stands.halts⟩

/-- A run that went on stands in step if it does so with the tables of the run before. -/
theorem At.sim {r' : Run} (h : At env r (r.queue.map (·.reply)) sent (r.incoming.map (·.1)) r')
    (serialize : r.serialize = true) (replies : ∀ frame ∈ r.replies, frame.isCall = false)
    (pending : (r.pending.map fun entry => (entry.2.reply, entry.1)) = sent.toList) : Sim env r' := by
  obtain ⟨⟨task, -, same, -, -, -⟩, stands⟩ := h
  refine ⟨?_, ?_, sent, ?_, ?_⟩
  · rw [task]
    exact serialize
  · rw [same]
    exact replies
  · rw [task]
    exact pending
  · rw [task]
    exact stands

/-- A task that stands where its queue says may end. -/
theorem At.ends {r' : Run} (h : At env r (r.queue.map (·.reply)) sent handling r')
    (pending : (r.pending.map fun entry => (entry.2.reply, entry.1)) = sent.toList) : Ends env r' := by
  obtain ⟨⟨task, -, -, -, -, -⟩, stands⟩ := h
  refine ⟨sent, ?_, ?_⟩
  · rw [task]
    exact pending
  · rw [task]
    exact stands.halts

private theorem Stands.goesOut (unique : Function.Injective env.newV4) {c : Caller} (action : String)
    (payload : Json) (h : Stands env r (c :: waiting) none handling) :
    Stands env
      { r with
        drawn := r.drawn + 1, wire := .call (env.newV4 r.drawn) action payload :: r.wire
        log := .sent c (env.newV4 r.drawn) :: r.log }
      waiting (some (c, env.newV4 r.drawn)) handling := by
  obtain ⟨a, shows, line, wire, handles, going⟩ := h
  have fresh : env.newV4 r.drawn ∉ a.used := by
    intro mem
    obtain ⟨n, bound, eq⟩ := shows.used _ mem
    exact absurd (unique eq) (Nat.ne_of_gt bound)
  have drawn : Shows env { r with drawn := r.drawn + 1 } a :=
    ⟨shows.trace, shows.gone, fun id mem => by
      obtain ⟨n, bound, eq⟩ := shows.used id mem
      exact ⟨n, Nat.lt_succ_of_lt bound, eq⟩, shows.known, shows.wire, shows.events⟩
  have enabled : Enabled a (.sent c (env.newV4 r.drawn) : Rpc.Event Caller MessageId CallResult) :=
    ⟨by simp [line], wire, fresh, going⟩
  refine ⟨_, drawn.write _ (.sent c (env.newV4 r.drawn)) enabled rfl rfl rfl rfl ?_, ?_, rfl, handles, going⟩
  · intro id mem
    rcases List.mem_cons.mp mem with rfl | old
    · exact ⟨r.drawn, Nat.lt_succ_self _, rfl⟩
    · exact drawn.used id old
  · change a.waiting.tail = _
    rw [line]
    rfl

private theorem pumpQueue_sound (unique : Function.Injective env.newV4) (queue : List OutboundCall) (r : Run)
    (isQueue : r.queue = queue) (sim : Sim env r) : Sound env (Run.pumpQueue env queue r) := by
  induction queue generalizing r with
  | nil => exact sim
  | cons call rest ih =>
    unfold Run.pumpQueue
    split
    · exact sim
    rename_i free
    obtain ⟨serialize, replies, sent, pending, stands⟩ := sim
    have empty : r.pending = [] := by
      rw [serialize, Bool.true_and, Bool.not_eq_true', Bool.not_eq_false, List.isEmpty_iff] at free
      exact free
    obtain rfl : sent = none := by
      rw [empty] at pending
      cases sent with
      | none => rfl
      | some call => cases pending
    rw [isQueue, List.map_cons] at stands
    split
    · rename_i gone
      refine ih _ rfl ⟨serialize, replies, none, pending, ?_⟩
      have moved := Stands.withdrawn [] gone stands
      exact moved.congr rfl rfl (Nat.le_refl _) rfl rfl rfl rfl
    · have begun : Stands env { r with queue := rest, drawn := r.drawn + 1 }
          (call.reply :: rest.map (·.reply)) none (r.incoming.map (·.1)) :=
        stands.congr rfl rfl (Nat.le_succ _) rfl rfl rfl rfl
      have spec := write_meets (.call (env.newV4 r.drawn) call.action call.payload) (some call.action)
        (.sent call.reply (env.newV4 r.drawn)) begun fun io =>
          (stands.goesOut unique call.action call.payload).congr rfl rfl (Nat.le_refl _) rfl rfl rfl rfl
      simp only
      split
      · rename_i r' stop result
        rw [result] at spec
        have aside : Aside { r with queue := rest, drawn := r.drawn + 1 } r' := by
          rcases spec with at' | at'
          · exact at'.1
          · exact at'.1
        have empty' : r'.pending = [] := by rw [aside.task]; exact empty
        have line : r'.queue = rest := by rw [aside.task]
        refine ⟨none, ?_, ?_⟩
        · change (r'.pending.map fun entry => (entry.2.reply, entry.1)) = []
          rw [empty']
          rfl
        · change Halts env _ (r'.queue.map (·.reply)) none
          rw [line]
          rcases spec with at' | at'
          · exact at'.2.halts.failed _ (.inl ⟨rfl, rfl, by simp⟩)
          · exact at'.2.halts.failed _ (.inr ⟨rfl, rfl, _, rfl⟩)
      · rename_i r' result
        rw [result] at spec
        obtain ⟨aside, stands'⟩ := spec
        have empty' : r'.pending = [] := by rw [aside.task]; exact empty
        refine ih _ ?_ ⟨?_, ?_, some (call.reply, env.newV4 r.drawn), ?_, ?_⟩
        · change r'.queue = rest
          rw [aside.task]
        · change r'.serialize = true
          rw [aside.task]
          exact serialize
        · change ∀ frame ∈ r'.replies, frame.isCall = false
          rw [aside.replies]
          exact replies
        · simp [empty']
        · have line : r'.queue.map (·.reply) = rest.map (·.reply) := by rw [aside.task]
          have table : r'.incoming.map (·.1) = r.incoming.map (·.1) := by rw [aside.task]
          change Stands env _ (r'.queue.map (·.reply)) _ (r'.incoming.map (·.1))
          rw [line, table]
          exact stands'.congr rfl rfl (Nat.le_refl _) rfl rfl rfl rfl

private theorem pump_sound (unique : Function.Injective env.newV4) (sim : Sim env r) : Sound env (r.pump env) :=
  pumpQueue_sound unique r.queue r rfl sim

private theorem withdraw_stands (kept rest : List OutboundCall) (tail : List Caller) (r : Run)
    (h : Stands env r (kept.map (·.reply) ++ (rest.map (·.reply) ++ tail)) sent handling) :
    ∃ queue, (Run.withdraw kept rest r).toTask = { r.toTask with queue } ∧
      (Run.withdraw kept rest r).replies = r.replies ∧
      Stands env (Run.withdraw kept rest r) (queue.map (·.reply) ++ tail) sent handling := by
  induction rest generalizing kept r with
  | nil => exact ⟨kept, rfl, rfl, h.congr rfl rfl (Nat.le_refl _) rfl rfl rfl rfl⟩
  | cons call rest ih =>
    unfold Run.withdraw
    split
    · rename_i gone
      have moved := h.withdrawn _ gone
      exact ih kept { r with queue := kept ++ rest, log := .withdrawn call.reply :: r.log }
        (moved.congr rfl rfl (Nat.le_refl _) rfl rfl rfl rfl)
    · refine ih (kept ++ [call]) r ?_
      rw [List.map_append, List.append_assoc]
      exact h

/-- A CALL comes out of the channel. -/
theorem enqueue_sound (unique : Function.Injective env.newV4) {call : OutboundCall}
    {rest : List Command} (commands : r.commands = .call call :: rest) (sim : Sim env r) :
    Sound env (Run.pump env (Run.enqueue call { r with commands := rest })) := by
  obtain ⟨serialize, replies, sent, pending, stands⟩ := sim
  have taken : Stands env { r with commands := rest } (r.queue.map (·.reply) ++ [call.reply]) sent
      (r.incoming.map (·.1)) := by
    obtain ⟨a, shows, line, wire, handles, going⟩ := stands
    refine ⟨a, ⟨shows.trace, shows.gone, shows.used, shows.known, shows.wire, shows.events⟩, ?_, wire, handles,
      going⟩
    rw [line, commands, List.append_assoc]
    rfl
  obtain ⟨queue, task, same, after⟩ := withdraw_stands [] r.queue [call.reply] { r with commands := rest } taken
  refine pump_sound unique ⟨?_, ?_, sent, ?_, ?_⟩
  · change (Run.withdraw [] r.queue { r with commands := rest }).serialize = true
    rw [task]
    exact serialize
  · change ∀ frame ∈ (Run.withdraw [] r.queue { r with commands := rest }).replies, frame.isCall = false
    rw [same]
    exact replies
  · change ((Run.withdraw [] r.queue { r with commands := rest }).pending.map _) = _
    rw [task]
    exact pending
  · change Stands env _ (((Run.withdraw [] r.queue { r with commands := rest }).queue ++ [call]).map _) sent
      ((Run.withdraw [] r.queue { r with commands := rest }).incoming.map _)
    rw [task, List.map_append]
    exact after.congr rfl rfl (Nat.le_refl _) rfl rfl rfl rfl

/-! ### Replies and CALLs of the peer -/

/-- A CALL that is being handled is answered. -/
theorem Stands.replied {frame : Frame} (answer : frame.isCall = false) (busy : frame.id ∈ handling)
    (h : Stands env r waiting sent handling) :
    Stands env { r with wire := frame :: r.wire, log := .replied frame.id :: r.log } waiting sent
      (handling.filter fun id => decide (id ≠ frame.id)) := by
  obtain ⟨a, shows, line, wire, handles, going⟩ := h
  refine ⟨_, shows.write frame (.replied frame.id) ((handles _).mpr busy) rfl (by rw [answer]; rfl) rfl rfl
    shows.used, line, wire, fun id => ?_, going⟩
  change id ∈ a.handling.filter _ ↔ _
  rw [List.mem_filter, List.mem_filter, handles]

/-- A CALL that is not valid is rejected. -/
theorem Stands.rejected {frame : Frame} (answer : frame.isCall = false) (valid : Bool)
    (invalid : valid = false) (idle : frame.id ∉ handling) (h : Stands env r waiting sent handling) :
    Stands env { r with wire := frame :: r.wire, log := .inbound frame.id valid .rejected :: r.log } waiting
      sent handling := by
  obtain ⟨a, shows, line, wire, handles, going⟩ := h
  exact ⟨_, shows.write frame (.inbound frame.id valid .rejected)
    ⟨invalid, fun mem => idle ((handles _).mp mem)⟩ rfl (by rw [answer]; rfl) rfl rfl shows.used, line, wire,
    handles, going⟩

/-- A reply leaves the incoming table and is written. -/
theorem reply_write_sound (frame : Frame) {action : Option String} (answer : frame.isCall = false)
    (serialize : r.serialize = true) (replies : ∀ frame ∈ r.replies, frame.isCall = false)
    (pending : (r.pending.map fun entry => (entry.2.reply, entry.1)) = sent.toList)
    (busy : frame.id ∈ handling)
    (left : r.incoming.map (·.1) = handling.filter fun id => decide (id ≠ frame.id))
    (stands : Stands env r (r.queue.map (·.reply)) sent handling) :
    Sound env (r.write frame action (.replied frame.id)) := by
  have spec := write_meets frame action (.replied frame.id) stands fun io =>
    (stands.replied answer busy).congr rfl rfl (Nat.le_refl _) rfl rfl rfl rfl
  rw [← left] at spec
  refine spec.mono (fun r' at' => at'.sim serialize replies pending) ?_
  rintro r' (at' | at')
  · exact at'.ends pending
  · exact at'.ends pending

private theorem mem_keys_of_lookup {α : Type*} {entries : List (MessageId × α)} {id : MessageId} {value : α}
    (h : entries.lookup id = some value) : id ∈ entries.map (·.1) := by
  induction entries with
  | nil => cases h
  | cons entry rest ih =>
    rw [List.lookup_cons] at h
    split at h
    · rename_i same
      exact List.mem_cons.mpr (.inl (eq_of_beq same))
    · exact List.mem_cons_of_mem _ (ih h)

private theorem reply_sound {frame : Frame} (answer : frame.isCall = false) (sim : Sim env r) :
    Sound env (r.reply env frame) := by
  unfold Run.reply
  split
  · exact sim
  rename_i action found
  obtain ⟨serialize, replies, sent, pending, stands⟩ := sim
  have busy : frame.id ∈ r.incoming.map (·.1) := mem_keys_of_lookup found
  have left : ((r.incoming.filter fun entry => decide (entry.1 ≠ frame.id)).map (·.1)) =
      (r.incoming.map (·.1)).filter fun id => decide (id ≠ frame.id) := by
    rw [List.filter_map]
    rfl
  have taken : Stands env
      { r with incoming := r.incoming.filter fun entry => decide (entry.1 ≠ frame.id) }
      (r.queue.map (·.reply)) sent (r.incoming.map (·.1)) :=
    stands.congr rfl rfl (Nat.le_refl _) rfl rfl rfl rfl
  cases frame with
  | call id action payload => cases answer
  | callError id code description details =>
    exact reply_write_sound _ rfl serialize replies pending busy left taken
  | callResult id payload =>
    simp only
    split
    · exact reply_write_sound (.callResult id payload) rfl serialize replies pending busy left taken
    · refine Flow.Meets.andThen ((warn_meets _ taken).mono (fun _ at' => at') fun r' at' => ?_) fun r' at' => ?_
      · exact At.ends (r := { r with
          incoming := r.incoming.filter fun entry => decide (entry.1 ≠ id) }) at' pending
      · obtain ⟨⟨task, -, same, -, -, -⟩, stands'⟩ := at'
        have table : (r'.pending.map fun entry => (entry.2.reply, entry.1)) = sent.toList := by
          rw [task]
          exact pending
        refine reply_write_sound (.error id .internalError _) rfl ?_ ?_ table busy ?_ ?_
        · rw [task]
          exact serialize
        · rw [same]
          exact replies
        · rw [task]
          exact left
        · rw [task]
          exact stands'

/-- A frame that is answered on the spot. -/
theorem reject_sound (frame : Frame) {action : Option String} (answer : frame.isCall = false)
    (sim : Sim env r) (idle : frame.id ∉ r.incoming.map (·.1)) :
    Sound env (r.write frame action (.inbound frame.id false .rejected)) := by
  obtain ⟨serialize, replies, sent, pending, stands⟩ := sim
  have spec := write_meets frame action (.inbound frame.id false .rejected) stands fun io =>
      (stands.rejected answer false rfl idle).congr rfl rfl (Nat.le_refl _) rfl rfl rfl rfl
  refine spec.mono (fun r' at' => at'.sim serialize replies pending) ?_
  rintro r' (at' | at')
  · exact at'.ends pending
  · exact at'.ends pending

private theorem emit_sound (event : ConnectionEvent) (sim : Sim env r) (other : event.delivers = none) :
    (r.emit event).Meets (fun r' => Sim env r' ∧ r'.toTask = r.toTask) (Ends env) := by
  obtain ⟨serialize, replies, sent, pending, stands⟩ := sim
  exact (emit_meets event stands other).mono (fun r' at' => ⟨at'.sim serialize replies pending, at'.1.task⟩)
    fun r' at' => at'.ends pending

private theorem warn_sound (message : String) (sim : Sim env r) :
    (r.warn message).Meets (fun r' => Sim env r' ∧ r'.toTask = r.toTask) (Ends env) := emit_sound _ sim rfl

private theorem incomingCall_sound {id : MessageId} {action : String} {payload : Json} (sim : Sim env r) :
    Sound env (r.incomingCall env id action payload) := by
  unfold Run.incomingCall
  simp only
  split
  · rename_i busy
    have known : id ∈ r.incoming.map (·.1) := by
      obtain ⟨entry, mem, same⟩ := List.any_eq_true.mp busy
      exact List.mem_map.mpr ⟨entry, mem, eq_of_beq same⟩
    obtain ⟨serialize, replies, sent, pending, stands⟩ := sim
    have noted : Sim env (r.note (.inbound id (Run.rejection env action payload).isNone .ignored)) :=
      ⟨serialize, replies, sent, pending, stands.ignored _ known⟩
    exact (warn_sound _ noted).mono (fun _ both => both.1) fun _ ends => ends
  rename_i free
  have idle : id ∉ r.incoming.map (·.1) := by
    intro known
    obtain ⟨entry, mem, rfl⟩ := List.mem_map.mp known
    exact free (List.any_eq_true.mpr ⟨entry, mem, beq_self_eq_true _⟩)
  split
  · refine Flow.Meets.andThen (warn_sound _ sim) fun r' both => ?_
    refine reject_sound (.error id _ _) rfl both.1 ?_
    rw [both.2]
    exact idle
  · obtain ⟨serialize, replies, sent, pending, stands⟩ := sim
    have begun : Stands env { r with incoming := (id, action) :: r.incoming } (r.queue.map (·.reply)) sent
        (r.incoming.map (·.1)) := stands.congr rfl rfl (Nat.le_refl _) rfl rfl rfl rfl
    have spec := hand_meets (.call id action payload) (Run.note (.inbound id true .delivered)) begun
      (fun io => ⟨rfl, rfl, rfl, rfl, rfl, rfl⟩) fun io =>
        (begun.delivered action payload idle).congr rfl rfl (Nat.le_refl _) rfl rfl rfl rfl
    split
    · rename_i r' result
      rw [result] at spec
      exact At.sim (r := { r with incoming := (id, action) :: r.incoming }) spec serialize replies pending
    · rename_i r' stop result
      rw [result] at spec
      obtain ⟨sent, pending, halts⟩ :=
        At.ends (r := { r with incoming := (id, action) :: r.incoming }) spec pending
      exact ⟨sent, pending, halts.lost id true⟩

/-! ### Responses -/

private theorem pending_of_lookup {id : MessageId} {pending : Pending}
    (h : (r.pending.map fun entry => (entry.2.reply, entry.1)) = sent.toList)
    (found : r.pending.lookup id = some pending) :
    sent = some (pending.reply, id) ∧ r.pending.filter (fun entry => decide (entry.1 ≠ id)) = [] := by
  cases table : r.pending with
  | nil => simp [table] at found
  | cons entry rest =>
    rw [table, List.map_cons] at h
    cases sent with
    | none => cases h
    | some call =>
      obtain ⟨same, none⟩ := List.cons.inj h
      rw [List.map_eq_nil_iff] at none
      subst none
      rw [table, List.lookup_cons] at found
      split at found
      · rename_i key
        obtain rfl : id = entry.1 := eq_of_beq key
        cases found
        exact ⟨congrArg some same.symm, by simp⟩
      · cases found

/-- A response that settles the outstanding CALL. -/
theorem settle_sound (unique : Function.Injective env.newV4) {id : MessageId} {pending : Pending}
    {result : CallResult} (serialize : r.serialize = true)
    (replies : ∀ frame ∈ r.replies, frame.isCall = false) (empty : r.pending = [])
    (stands : Stands env r (r.queue.map (·.reply)) (some (pending.reply, id)) (r.incoming.map (·.1))) :
    Sound env (Run.pump env (r.note (.answered id (r.send pending.reply result)))) := by
  refine pump_sound unique ⟨serialize, replies, none, ?_, stands.answered result⟩
  change (r.pending.map _) = _
  rw [empty]
  rfl

private theorem stranger_sound {id : MessageId} (sim : Sim env r) (unknown : r.pending.lookup id = none) :
    Sim env (r.note (.answered id none)) := by
  obtain ⟨serialize, replies, sent, pending, stands⟩ := sim
  refine ⟨serialize, replies, sent, pending, stands.unheeded ?_⟩
  rintro c rfl
  obtain ⟨entry, rest, table⟩ : ∃ entry rest, r.pending = entry :: rest := by
    cases table : r.pending with
    | nil => simp [table] at pending
    | cons entry rest => exact ⟨entry, rest, rfl⟩
  rw [table, List.map_cons] at pending
  obtain ⟨same, -⟩ := List.cons.inj pending
  obtain ⟨-, key⟩ := Prod.mk.inj same
  rw [table, List.lookup_cons, key] at unknown
  simp at unknown

private theorem callResult_sound (unique : Function.Injective env.newV4) {id : MessageId} {payload : Json}
    (sim : Sim env r) : Sound env (r.callResult env id payload) := by
  unfold Run.callResult
  split
  · rename_i unknown
    exact stranger_sound sim unknown
  rename_i pending found
  obtain ⟨serialize, replies, sent, table, stands⟩ := sim
  obtain ⟨rfl, empty⟩ := pending_of_lookup table found
  have taken : Stands env { r with pending := r.pending.filter fun entry => decide (entry.1 ≠ id) }
      (r.queue.map (·.reply)) (some (pending.reply, id)) (r.incoming.map (·.1)) :=
    stands.congr rfl rfl (Nat.le_refl _) rfl rfl rfl rfl
  simp only
  split
  · exact settle_sound unique serialize replies empty taken
  · rename_i violation _
    have spec := warn_meets ("CALLRESULT for " ++ pending.action ++
      " violates the OCPP 1.6J schema: " ++ violation.display) taken
    split
    · rename_i r' stop result
      rw [result] at spec
      obtain ⟨⟨task, -, -, -, -, -⟩, stands'⟩ := spec
      have empty' : r'.pending = [] := by
        rw [task]
        exact empty
      refine ⟨none, ?_, ?_⟩
      · change (r'.pending.map _) = _
        rw [empty']
        rfl
      · refine Halts.failed _ ?_ (.inr ⟨rfl, rfl, id, rfl⟩)
        have line : r'.queue = r.queue := by rw [task]
        change Halts env r' (r'.queue.map (·.reply)) _
        rw [line]
        exact stands'.halts
    · rename_i r' result
      rw [result] at spec
      obtain ⟨⟨task, -, same, -, -, -⟩, stands'⟩ := spec
      refine settle_sound unique ?_ ?_ ?_ ?_
      · rw [task]
        exact serialize
      · rw [same]
        exact replies
      · rw [task]
        exact empty
      · rw [task]
        exact stands'

private theorem callError_sound (unique : Function.Injective env.newV4) {id : MessageId} {code : ErrorCode}
    {description : String} {details : Json} (sim : Sim env r) :
    Sound env (r.callError env id code description details) := by
  unfold Run.callError
  split
  · rename_i unknown
    exact stranger_sound sim unknown
  rename_i pending found
  obtain ⟨serialize, replies, sent, table, stands⟩ := sim
  obtain ⟨rfl, empty⟩ := pending_of_lookup table found
  have taken : Stands env { r with pending := r.pending.filter fun entry => decide (entry.1 ≠ id) }
      (r.queue.map (·.reply)) (some (pending.reply, id)) (r.incoming.map (·.1)) :=
    stands.congr rfl rfl (Nat.le_refl _) rfl rfl rfl rfl
  exact settle_sound unique serialize replies empty taken

/-! ### Inputs -/

private theorem brokenText_sound {text : String} {error : FrameError} (sim : Sim env r)
    (calm : ∀ id, error.brokenCall = some id → id ∉ r.incoming.map (·.1)) :
    Sound env (r.brokenText env text error) := by
  refine Flow.Meets.andThen (emit_sound _ sim rfl) fun r' first => ?_
  refine Flow.Meets.andThen (warn_sound _ first.1) fun r'' second => ?_
  unfold FrameError.reply
  cases broken : error.brokenCall with
  | none => exact second.1
  | some id =>
    refine reject_sound (.error id _ _) rfl second.1 ?_
    rw [second.2, first.2]
    exact calm id broken

private theorem incomingText_sound (unique : Function.Injective env.newV4) {text : String} (sim : Sim env r)
    (calm : ∀ error id, Frame.parse env.fromStr text = .error error → error.brokenCall = some id →
      id ∉ r.incoming.map (·.1)) : Sound env (r.incomingText env text) := by
  unfold Run.incomingText
  split
  · rename_i error parsed
    exact brokenText_sound sim fun id => calm error id parsed
  rename_i frame parsed
  have spec := emit_sound (.frame { direction := .in, msgId := some frame.id
                                    action := r.frameAction frame, frame := r.recorded frame }) sim rfl
  split
  · rename_i r' stop result
    rw [result] at spec
    cases frame with
    | call id action payload =>
      obtain ⟨sent, pending, halts⟩ := spec
      exact ⟨sent, pending, halts.lost id _⟩
    | callResult id payload => exact spec
    | callError id code description details => exact spec
  · rename_i r' result
    rw [result] at spec
    cases frame with
    | call id action payload => exact incomingCall_sound spec.1
    | callResult id payload => exact callResult_sound unique spec.1
    | callError id code description details => exact callError_sound unique spec.1

/-- Nothing but the switch for pongs changes. -/
theorem Sim.awaiting (sim : Sim env r) (awaitingPong : Bool) : Sim env { r with awaitingPong } := by
  obtain ⟨serialize, replies, sent, pending, stands⟩ := sim
  exact ⟨serialize, replies, sent, pending, stands.congr rfl rfl (Nat.le_refl _) rfl rfl rfl rfl⟩

private theorem sendMessage_sound (sim : Sim env r) : Sound env (r.sendMessage id) := by
  obtain ⟨serialize, replies, sent, pending, stands⟩ := sim
  have spec := sendMessage_meets id stands (fun io => ⟨rfl, rfl, rfl, rfl, rfl, rfl⟩) fun io =>
    stands.congr rfl rfl (Nat.le_refl _) rfl rfl rfl rfl
  exact spec.mono (fun r' at' => at'.sim serialize replies pending) fun r' at' => at'.ends pending

private theorem incomingMessage_sound (unique : Function.Injective env.newV4) {message : Message} (sim : Sim env r)
    (calm : ∀ text error id, Source.heard (.socket (some (.ok message))) = some text →
      Frame.parse env.fromStr text = .error error → error.brokenCall = some id →
        id ∉ r.incoming.map (·.1)) : Sound env (r.incomingMessage env message) := by
  cases message with
  | text text => exact incomingText_sound unique sim fun error id => calm text error id rfl
  | binary utf8 =>
    cases utf8 with
    | some text => exact incomingText_sound unique sim fun error id => calm text error id rfl
    | none => exact (warn_sound _ sim).mono (fun _ both => both.1) fun _ ends => ends
  | ping => exact sendMessage_sound sim
  | pong => exact sim.awaiting false
  | close frame => exact sim.ends
  | frame => exact sim

private theorem expire_sound (unique : Function.Injective env.newV4) (sim : Sim env r) :
    Sound env (r.expire env) := by
  obtain ⟨serialize, replies, sent, pending, stands⟩ := sim
  refine pump_sound unique ?_
  cases table : r.pending with
  | nil =>
    rw [table] at pending
    exact ⟨serialize, replies, sent, pending, stands.congr rfl rfl (Nat.le_refl _) rfl rfl rfl rfl⟩
  | cons entry rest =>
    rw [table, List.map_cons] at pending
    cases sent with
    | none => cases pending
    | some call =>
      obtain ⟨same, none⟩ := List.cons.inj pending
      rw [List.map_eq_nil_iff] at none
      subst none
      have taken (left : List (MessageId × Pending)) : Stands env { r with pending := left }
          (r.queue.map (·.reply)) (some (entry.2.reply, entry.1)) (r.incoming.map (·.1)) := by
        rw [same]
        exact stands.congr rfl rfl (Nat.le_refl _) rfl rfl rfl rfl
      by_cases due : entry.2.deadline ≤ r.now
      · have late : [entry].filter (fun entry => decide (entry.2.deadline ≤ r.now)) = [entry] := by
          simpa using due
        have left : [entry].filter (fun entry => decide (¬ entry.2.deadline ≤ r.now)) = [] := by
          simp [due]
        rw [late, left]
        exact ⟨serialize, replies, .none, rfl, (taken []).expired _⟩
      · have late : [entry].filter (fun entry => decide (entry.2.deadline ≤ r.now)) = [] := by
          simp [due]
        have left : [entry].filter (fun entry => decide (¬ entry.2.deadline ≤ r.now)) = [entry] := by
          simpa using due
        rw [late, left]
        exact ⟨serialize, replies, some (entry.2.reply, entry.1), rfl, taken [entry]⟩

private theorem ping_sound (sim : Sim env r) : Sound env r.ping := by
  unfold Run.ping
  split
  · exact sim.ends
  · exact sendMessage_sound (sim.awaiting true)

/-! ### The end -/

private theorem Halts.failAll (code : Option Nat) (callers rest : List Caller) (r : Run)
    (h : Halts env r (callers ++ rest) none) :
    Halts env (callers.foldl (Run.failWith code) r) rest none := by
  induction callers generalizing r with
  | nil => exact h
  | cons c callers ih => exact ih _ (h.failed _ (.inl ⟨rfl, rfl, by simp⟩))

/-- What a stopping task shows depends on what it has shown. -/
theorem Halts.congr {r' : Run} (h : Halts env r waiting sent) (log : r'.log = r.log)
    (gone : r'.gone = r.gone) (drawn : r'.drawn = r.drawn) (callers : r'.callers = r.callers)
    (wire : r'.wire = r.wire) (events : r'.events.filterMap ConnectionEvent.delivers =
      r.events.filterMap ConnectionEvent.delivers)
    (line : waiting' ++ Run.commandCallers r'.commands = waiting ++ Run.commandCallers r.commands) :
    Halts env r' waiting' sent := by
  obtain ⟨a, shows, queue, out⟩ := h
  refine ⟨a, ⟨log ▸ shows.trace, gone ▸ shows.gone, drawn ▸ shows.used, ?_, ?_, ?_⟩, queue.trans line.symm, out⟩
  · rw [log, callers]
    exact shows.known
  · rw [log, wire]
    exact shows.wire
  · rw [log, events]
    exact shows.events

private theorem aside_failAll (code : Option Nat) (callers : List Caller) (r : Run) :
    Aside r (callers.foldl (Run.failWith code) r) := by
  induction callers generalizing r with
  | nil => exact .refl r
  | cons c rest ih =>
    have first : Aside r (r.failWith code c) := ⟨rfl, rfl, rfl, rfl, rfl, rfl⟩
    exact first.trans (ih (r.failWith code c))

private theorem finish_shows (stop : Stop) (handshake : Option Nat × String) (h : Ends env r) :
    (∃ a, Shows env (r.finish stop handshake) a) ∧ (r.finish stop handshake).ended = true ∧
      (r.finish stop handshake).pending = [] := by
  obtain ⟨sent, pending, halts⟩ := h
  unfold Run.finish
  simp only
  set code := stop.knownCode
  -- First the outstanding CALL, then the queue, then the channel.
  set r₁ := (r.pending.map (·.2.reply)).foldl (Run.failWith code) { r with pending := [] }
  have aside₁ : Aside { r with pending := [] } r₁ := aside_failAll _ _ _
  have halts₁ : Halts env r₁ (r.queue.map (·.reply)) none := by
    have begun : Halts env { r with pending := [] } (r.queue.map (·.reply)) sent :=
      halts.congr rfl rfl rfl rfl rfl rfl rfl
    have callers : r.pending.map (·.2.reply) = sent.toList.map (·.1) := by
      rw [← pending, List.map_map]
      rfl
    change Halts env ((r.pending.map (·.2.reply)).foldl _ _) _ _
    rw [callers]
    cases sent with
    | none => exact begun
    | some call => exact begun.failed _ (.inr ⟨rfl, rfl, call.2, rfl⟩)
  set r₂ := (r₁.queue.map (·.reply)).foldl (Run.failWith code) { r₁ with queue := [] }
  have aside₂ : Aside { r₁ with queue := [] } r₂ := aside_failAll _ _ _
  have halts₂ : Halts env r₂ [] none := by
    refine Halts.failAll code _ [] _ ?_
    have line : r₁.queue = r.queue := by rw [aside₁.task]
    rw [List.append_nil, line]
    exact halts₁.congr rfl rfl rfl rfl rfl rfl rfl
  set r₃ := (Run.commandCallers r₂.commands).foldl (Run.failWith code) { r₂ with commands := [] }
  have aside₃ : Aside { r₂ with commands := [] } r₃ := aside_failAll _ _ _
  have halts₃ : Halts env r₃ [] none := by
    refine Halts.failAll code _ [] _ ?_
    refine halts₂.congr rfl rfl rfl rfl rfl rfl ?_
    rw [List.append_nil, List.nil_append]
    exact List.append_nil _
  obtain ⟨a, shows, line, wire⟩ := halts₃
  have empty : a.waiting = [] := by
    rw [line, aside₃.commands]
    rfl
  refine ⟨⟨_, ⟨.cons shows.trace .ended ⟨empty, wire⟩, shows.gone, shows.used, shows.known, shows.wire, ?_⟩⟩,
    rfl, ?_⟩
  · change r₃.log.filterMap deliveries = _
    rw [shows.events]
    cases stop <;> rfl
  · change r₃.pending = []
    rw [aside₃.task]
    change r₂.pending = []
    rw [aside₂.task]
    change r₁.pending = []
    rw [aside₁.task]

/-! ### One input, and the run -/

private theorem turn_sound (unique : Function.Injective env.newV4) {source : Run.Source} {step : Step} {r' : Run}
    (taken : Run.take source r = some (step, r')) (sim : Sim env r)
    (calm : ∀ text error id, Source.heard source = some text →
      Frame.parse env.fromStr text = .error error → error.brokenCall = some id →
        id ∉ r.incoming.map (·.1)) : Sound env (r'.handle env step) := by
  cases source with
  | commands =>
    cases commands : r.commands with
    | nil => simp [Run.take, commands] at taken
    | cons command rest =>
      simp only [Run.take, commands, Option.some.injEq, Prod.mk.injEq] at taken
      obtain ⟨rfl, rfl⟩ := taken
      cases command with
      | call call => exact enqueue_sound unique commands sim
      | close =>
        obtain ⟨-, -, sent, pending, stands⟩ := sim
        refine ⟨sent, pending, stands.halts.congr rfl rfl rfl rfl rfl rfl ?_⟩
        rw [commands]
        rfl
  | handlesDropped =>
    simp only [Run.take] at taken
    split at taken
    · cases taken
      exact sim.ends
    · cases taken
  | replies =>
    cases replies : r.replies with
    | nil => simp [Run.take, replies] at taken
    | cons frame rest =>
      simp only [Run.take, replies, Option.some.injEq, Prod.mk.injEq] at taken
      obtain ⟨rfl, rfl⟩ := taken
      obtain ⟨serialize, answers, sent, pending, stands⟩ := sim
      rw [replies] at answers
      refine reply_sound (answers frame List.mem_cons_self)
        ⟨serialize, fun other mem => answers other (List.mem_cons_of_mem _ mem), sent, pending, ?_⟩
      exact stands.congr rfl rfl (Nat.le_refl _) rfl rfl rfl rfl
  | socket message =>
    cases taken
    cases message with
    | none => exact sim.ends
    | some result =>
      cases result with
      | error error => exact sim.ends
      | ok message => exact incomingMessage_sound unique sim calm
  | timeouts =>
    cases taken
    exact expire_sound unique sim
  | ping =>
    cases taken
    exact ping_sound sim

/-- What holds between two inputs. -/
structure Good (env : Env) (r : Run) : Prop where
  shows : ∃ a, Shows env r a
  one : r.pending.length ≤ 1
  sim : r.ended = false → Sim env r

/-- A task between two turns is good. -/
theorem Sim.good (sim : Sim env r) : Good env r := by
  obtain ⟨-, -, sent, pending, a, shows, -⟩ := id sim
  refine ⟨⟨a, shows⟩, ?_, fun _ => sim⟩
  have length := congrArg List.length pending
  rw [List.length_map] at length
  cases sent with
  | none => exact length ▸ Nat.zero_le 1
  | some call => exact length ▸ Nat.le_refl 1

/-- A caller submits a CALL. -/
theorem Shows.submitted {a : State Caller MessageId} (h : Shows env r a) (going : a.closing = false)
    (command : Command) :
    Shows env
      { r with
        commands := r.commands ++ [command], callers := r.callers + 1
        log := .submitted r.callers :: r.log } { a with waiting := a.waiting ++ [r.callers] } := by
  have fresh : r.callers ∉ a.callers := by
    rw [← h.trace.reads.callers.mem_iff]
    exact fun mem => Nat.lt_irrefl _ (h.known _ mem)
  simp only [State.callers, List.mem_append, List.mem_map, Option.mem_toList, not_or, not_exists,
    not_and] at fresh
  obtain ⟨⟨line, wire⟩, settled⟩ := fresh
  have enabled : Enabled a (.submitted r.callers : Rpc.Event Caller MessageId CallResult) :=
    ⟨going, line, settled, fun id out => wire (r.callers, id) out rfl⟩
  refine ⟨.cons h.trace _ enabled, h.gone, h.used, fun c mem => ?_, h.wire, h.events⟩
  rcases List.mem_cons.mp mem with rfl | old
  · exact Nat.lt_succ_self _
  · exact Nat.lt_succ_of_lt (h.known c old)

private theorem commandCallers_append (front back : List Command) :
    Run.commandCallers (front ++ back) = Run.commandCallers front ++ Run.commandCallers back :=
  List.filterMap_append

/-- A CALL is submitted between two turns. -/
theorem Sim.submit (sim : Sim env r) (action : String) (payload : Json) (timeout : Nat) :
    Sim env
      { r with
        commands := r.commands ++ [.call { action, payload, timeout, reply := r.callers }]
        callers := r.callers + 1, log := .submitted r.callers :: r.log } := by
  obtain ⟨serialize, replies, sent, pending, a, shows, line, wire, handles, going⟩ := sim
  refine ⟨serialize, replies, sent, pending, _, shows.submitted going _, ?_, wire, handles, going⟩
  simp only
  rw [line, commandCallers_append, List.append_assoc]
  rfl

/-- A close is requested between two turns. -/
theorem Sim.close (sim : Sim env r) : Sim env { r with commands := r.commands ++ [.close] } := by
  obtain ⟨serialize, replies, sent, pending, a, shows, line, wire, handles, going⟩ := sim
  refine ⟨serialize, replies, sent, pending, a,
    ⟨shows.trace, shows.gone, shows.used, shows.known, shows.wire, shows.events⟩, ?_, wire, handles, going⟩
  simp only
  rw [line, commandCallers_append]
  exact congrArg _ (List.append_nil _).symm

/-- An answer is no CALL. -/
theorem Answer.isCall (id : MessageId) (answer : Run.Answer) : (answer.frame id).isCall = false := by
  cases answer <;> rfl

/-- A turn of the loop. -/
theorem turn_good (unique : Function.Injective env.newV4) {source : Run.Source} {step : Step} {r' : Run}
    (handshake : Option Nat × String) (taken : Run.take source r = some (step, r')) (sim : Sim env r)
    (calm : ∀ text error id, Source.heard source = some text →
      Frame.parse env.fromStr text = .error error → error.brokenCall = some id →
        id ∉ r.incoming.map (·.1)) : Good env (r'.turn env step handshake) := by
  have sound := turn_sound unique taken sim calm
  unfold Run.turn
  split
  · rename_i r'' result
    rw [result] at sound
    exact Sim.good sound
  · rename_i r'' stop result
    rw [result] at sound
    obtain ⟨shows, ended, empty⟩ := finish_shows stop handshake sound
    refine ⟨shows, ?_, fun going => ?_⟩
    · rw [empty]
      exact Nat.zero_le 1
    · rw [ended] at going
      cases going

private theorem input_good (unique : Function.Injective env.newV4) (input : Run.Input) (good : Good env r)
    (calm : Calm env r input) : Good env (r.input env input) := by
  cases input with
  | giveUp caller =>
    obtain ⟨⟨a, shows⟩, one, sim⟩ := good
    refine ⟨⟨_, shows.giveUp caller⟩, one, fun going => ?_⟩
    obtain ⟨serialize, replies, sent, pending, stands⟩ := sim going
    exact ⟨serialize, replies, sent, pending, stands.giveUps [caller]⟩
  | answer id answer =>
    obtain ⟨⟨a, shows⟩, one, sim⟩ := good
    refine ⟨⟨a, ⟨shows.trace, shows.gone, shows.used, shows.known, shows.wire, shows.events⟩⟩, one,
      fun going => ?_⟩
    obtain ⟨serialize, replies, sent, pending, stands⟩ := sim going
    refine ⟨serialize, fun frame mem => ?_, sent, pending, stands.congr rfl rfl (Nat.le_refl _) rfl rfl rfl rfl⟩
    rcases List.mem_append.mp mem with old | new
    · exact replies frame old
    · rw [List.mem_singleton.mp new]
      exact Answer.isCall id answer
  | submit action payload timeout =>
    unfold Run.input
    simp only
    split
    · exact good
    · rename_i going
      exact ((good.sim (Bool.not_eq_true _ ▸ going)).submit action payload timeout).good
  | close =>
    unfold Run.input
    simp only
    split
    · exact good
    · rename_i going
      exact (good.sim (Bool.not_eq_true _ ▸ going)).close.good
  | turn source now io handshake =>
    unfold Run.input
    simp only
    split
    · exact good
    rename_i going
    have sim := good.sim (Bool.not_eq_true _ ▸ going)
    have begun : Sim env { r with now, io } := by
      obtain ⟨serialize, replies, sent, pending, stands⟩ := sim
      exact ⟨serialize, replies, sent, pending, stands.congr rfl rfl (Nat.le_refl _) rfl rfl rfl rfl⟩
    split
    · exact good
    · rename_i step r' taken
      refine turn_good unique handshake taken begun fun text error id heard parsed broken => ?_
      refine calm id ?_
      simp [Input.broken, heard, parsed, broken]

private theorem run_good (unique : Function.Injective env.newV4) (inputs : List Run.Input) (r : Run)
    (good : Good env r) (calm : CalmRun env inputs r) : Good env (r.run env inputs) := by
  induction inputs generalizing r with
  | nil => exact good
  | cons input rest ih => exact ih _ (input_good unique input good calm.1) calm.2

end Methods

/-- A new connection. -/
def start (showSecrets : Bool) : Run := { showSecrets }

private theorem start_good (env : Env) (showSecrets : Bool) : Good env (start showSecrets) := by
  refine Sim.good ⟨rfl, fun _ mem => (nomatch mem), none, rfl, {}, ?_, rfl, rfl, fun _ => Iff.rfl, rfl⟩
  exact ⟨.nil, rfl, fun _ mem => (nomatch mem), fun _ mem => (nomatch mem), rfl, rfl⟩

/-- Reads one CALL, once whole and once cut short. -/
def bench : Env where
  fromStr text :=
    if text == "[2,\"19\",\"ClearCache\",\x7b\x7d]" then
      .ok (.array [.integer 2, .string "19", .string "ClearCache", .object []])
    else if text == "[2,\"19\",\"ClearCache\"]" then
      .ok (.array [.integer 2, .string "19", .string "ClearCache"])
    else .error "expected value at line 1 column 1"
  render _ := ""
  knowsAction action := action == "ClearCache"
  validateRequest _ _ := .ok ()
  validateResponse _ _ := .ok ()
  newV4 n := String.ofList (List.replicate n 'a')
  latest := 2 ^ 63

private theorem bench_unique : Function.Injective bench.newV4 := by
  intro n m same
  have lists := String.ofList_inj.mp same
  simpa using congrArg List.length lists

def hears (text : String) : Run.Input :=
  .turn (.socket (some (.ok (.text text)))) 0 [] (none, "")

/-- The CALL arrives and is answered by its owner, while one of ours goes out. -/
def exchange : List Run.Input :=
  [hears "[2,\"19\",\"ClearCache\",\x7b\x7d]", .submit "Heartbeat" (.object []) 30,
    .answer "19" (.accept (.object [("status", .string "Accepted")])), .turn .replies 1 [] (none, ""),
    .turn .commands 2 [] (none, "")]

/-- The same CALL arrives again, cut short, before its owner answers. -/
def repetition : List Run.Input :=
  [hears "[2,\"19\",\"ClearCache\",\x7b\x7d]", hears "[2,\"19\",\"ClearCache\"]",
    .answer "19" (.accept (.object [("status", .string "Accepted")])), .turn .replies 1 [] (none, "")]

end KirbyOcpp.Ws
