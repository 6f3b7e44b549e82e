import KirbyOcpp.Conversation
import KirbyOcpp.Laws.Ocpp.Frame
import KirbyOcpp.Laws.Ws.Task

/-!
# The station's end of a conversation

Whatever texts the station hears, its CALLs carry ids of their own, a caller is only given an answer that was heard
under the id of its own CALL, and every other frame on the wire answers a CALL that was heard: by what the owner said,
or because the CALL was refused or broken (`Spoken`).
-/

namespace KirbyOcpp.Ws

open Conversation (answersIn)

/-- What an answer is to the caller of a CALL of `action`. -/
inductive Means (env : Env) (action : String) : Frame → CallResult → Prop
  | ok {id : MessageId} {payload : Json} (valid : env.validateResponse action payload = .ok ()) :
      Means env action (.callResult id payload) (.ok payload)
  | schema {id : MessageId} {payload : Json} {violation : SchemaViolation}
      (invalid : env.validateResponse action payload = .error violation) :
      Means env action (.callResult id payload) (.error (.schema violation))
  | rpc {id : MessageId} {code : ErrorCode} {description : String} {details : Json} :
      Means env action (.callError id code description details) (.error (.rpc action code description details))

/-- What is written for the owner's reply to a CALL of `action`. -/
def Env.checked (env : Env) (action : String) : Frame → Frame
  | .callResult id payload =>
    match env.validateResponse action payload with
    | .ok () => .callResult id payload
    | .error violation => .error id .internalError ("; ".intercalate violation.errors)
  | frame => frame

/-- How the station comes to answer what it heard. -/
inductive Replies (env : Env) (answers : List (MessageId × Run.Answer)) (text : String) : Frame → Prop
  | answered {id : MessageId} {action : String} {payload : Json} {answer : Run.Answer}
      (parsed : Frame.parse env.fromStr text = .ok (.call id action payload)) (given : (id, answer) ∈ answers) :
      Replies env answers text (env.checked action (answer.frame id))
  | rejected {id : MessageId} {action : String} {payload : Json} {code : ErrorCode} {description : String}
      (parsed : Frame.parse env.fromStr text = .ok (.call id action payload))
      (refused : Run.rejection env action payload = some (code, description)) :
      Replies env answers text (.error id code description)
  | broken {error : FrameError} {frame : Frame} (parsed : Frame.parse env.fromStr text = .error error)
      (replied : error.reply env.render = some frame) : Replies env answers text frame

/-- What the station said and what it made of `heard`. -/
structure Spoken (env : Env) (asked : List (String × Json)) (answers : List (MessageId × Run.Answer))
    (heard : String → Prop) (past : List Frame) (r : Run) : Prop where
  /-- Nothing leaves the wire. -/
  kept : past ⊆ r.wire
  callers : asked.length = r.callers
  queue : ∀ call ∈ r.queue, asked[call.reply]? = some (call.action, call.payload)
  commands : ∀ call, .call call ∈ r.commands → asked[call.reply]? = some (call.action, call.payload)
  drawn : ∀ frame ∈ r.wire, frame.isCall = true → ∃ n < r.drawn, frame.id = env.newV4 n
  once : ∀ frame ∈ r.wire, ∀ frame' ∈ r.wire, frame.isCall = true → frame'.isCall = true → frame.id = frame'.id →
    frame = frame'
  pending : ∀ entry ∈ r.pending, ∃ payload, asked[entry.2.reply]? = some (entry.2.action, payload) ∧
    .call entry.1 entry.2.action payload ∈ r.wire
  replies : ∀ frame ∈ r.replies, ∃ answer, (frame.id, answer) ∈ answers ∧ frame = answer.frame frame.id
  incoming : ∀ entry ∈ r.incoming, ∃ text payload, heard text ∧
    Frame.parse env.fromStr text = .ok (.call entry.1 entry.2 payload)
  answered : ∀ entry ∈ answersIn r.log, ∃ action payload, asked[entry.2.1]? = some (action, payload) ∧
    .call entry.1 action payload ∈ r.wire ∧ ∃ text frame, heard text ∧ Frame.parse env.fromStr text = .ok frame ∧
      frame.id = entry.1 ∧ Means env action frame entry.2.2
  wrote : ∀ frame ∈ r.wire, frame.isCall = false → ∃ text, heard text ∧ Replies env answers text frame

section Station

variable {env : Env} {asked : List (String × Json)} {answers : List (MessageId × Run.Answer)}
  {heard : String → Prop} {past : List Frame} {r r' : Run}

/-- Less in the queues says no more. -/
theorem Spoken.shrink (h : Spoken env asked answers heard past r) (callers : r'.callers = r.callers)
    (queue : r'.queue ⊆ r.queue) (commands : r'.commands ⊆ r.commands) (drawn : r.drawn ≤ r'.drawn)
    (wire : r'.wire = r.wire) (pending : r'.pending ⊆ r.pending) (replies : r'.replies ⊆ r.replies)
    (incoming : r'.incoming ⊆ r.incoming) (log : answersIn r'.log ⊆ answersIn r.log) :
    Spoken env asked answers heard past r' where
  kept := wire ▸ h.kept
  callers := h.callers.trans callers.symm
  queue call mem := h.queue call (queue mem)
  commands call mem := h.commands call (commands mem)
  drawn frame mem isCall := by
    obtain ⟨n, bound, id⟩ := h.drawn frame (wire ▸ mem) isCall
    exact ⟨n, Nat.lt_of_lt_of_le bound drawn, id⟩
  once := by
    rw [wire]
    exact h.once
  pending entry mem := by
    rw [wire]
    exact h.pending entry (pending mem)
  replies frame mem := h.replies frame (replies mem)
  incoming entry mem := h.incoming entry (incoming mem)
  answered entry mem := by
    rw [wire]
    exact h.answered entry (log mem)
  wrote := by
    rw [wire]
    exact h.wrote

/-- What was spoken does not depend on the rest of the run. -/
theorem Spoken.unsaid (h : Spoken env asked answers heard past r) (task : r'.toTask = r.toTask)
    (ids : (r'.callers, r'.drawn, r'.wire, r'.replies) = (r.callers, r.drawn, r.wire, r.replies))
    (commands : r'.commands ⊆ r.commands) (log : answersIn r'.log ⊆ answersIn r.log) :
    Spoken env asked answers heard past r' := by
  obtain ⟨callers, drawn, wire, replies⟩ := by simpa only [Prod.mk.injEq] using ids
  exact h.shrink callers (task ▸ fun _ => id) commands (Nat.le_of_eq drawn.symm) wire (task ▸ fun _ => id)
    (replies ▸ fun _ => id) (task ▸ fun _ => id) log

/-- A frame that is no CALL goes out. -/
theorem Spoken.speaks (h : Spoken env asked answers heard past r) {frame : Frame} (answer : frame.isCall = false)
    {text : String} (known : heard text) (replies : Replies env answers text frame) :
    Spoken env asked answers heard past { r with wire := frame :: r.wire } where
  kept := List.subset_cons_of_subset frame h.kept
  callers := h.callers
  queue := h.queue
  commands := h.commands
  drawn other mem isCall := by
    rcases List.mem_cons.mp mem with rfl | old
    · simp [answer] at isCall
    · exact h.drawn other old isCall
  once other mem other' mem' isCall isCall' same := by
    rcases List.mem_cons.mp mem with rfl | old
    · simp [answer] at isCall
    rcases List.mem_cons.mp mem' with rfl | old'
    · simp [answer] at isCall'
    exact h.once other old other' old' isCall isCall' same
  pending entry mem := by
    obtain ⟨payload, asks, out⟩ := h.pending entry mem
    exact ⟨payload, asks, List.mem_cons_of_mem frame out⟩
  replies := h.replies
  incoming := h.incoming
  answered entry mem := by
    obtain ⟨action, payload, asks, out, rest⟩ := h.answered entry mem
    exact ⟨action, payload, asks, List.mem_cons_of_mem frame out, rest⟩
  wrote other mem isAnswer := by
    rcases List.mem_cons.mp mem with rfl | old
    · exact ⟨text, known, replies⟩
    · exact h.wrote other old isAnswer

/-- A CALL goes out, under the next id. -/
theorem Spoken.calls (h : Spoken env asked answers heard past r) (fresh : Function.Injective env.newV4) (action : String)
    (payload : Json) :
    Spoken env asked answers heard past
      { r with drawn := r.drawn + 1, wire := .call (env.newV4 r.drawn) action payload :: r.wire } where
  kept := List.subset_cons_of_subset _ h.kept
  callers := h.callers
  queue := h.queue
  commands := h.commands
  drawn other mem isCall := by
    rcases List.mem_cons.mp mem with rfl | old
    · exact ⟨r.drawn, Nat.lt_succ_self _, rfl⟩
    · obtain ⟨n, bound, id⟩ := h.drawn other old isCall
      exact ⟨n, Nat.lt_succ_of_lt bound, id⟩
  once := by
    have new : ∀ other ∈ r.wire, other.isCall = true → other.id ≠ env.newV4 r.drawn := by
      intro other old isCall same
      obtain ⟨n, bound, id⟩ := h.drawn other old isCall
      rw [id] at same
      exact absurd (fresh same) (Nat.ne_of_lt bound)
    intro other mem other' mem' isCall isCall' same
    rcases List.mem_cons.mp mem with rfl | old <;> rcases List.mem_cons.mp mem' with rfl | old'
    · rfl
    · exact absurd same.symm (new other' old' isCall')
    · exact absurd same (new other old isCall)
    · exact h.once other old other' old' isCall isCall' same
  pending entry mem := by
    obtain ⟨payload, asks, out⟩ := h.pending entry mem
    exact ⟨payload, asks, List.mem_cons_of_mem _ out⟩
  replies := h.replies
  incoming := h.incoming
  answered entry mem := by
    obtain ⟨action, payload, asks, out, rest⟩ := h.answered entry mem
    exact ⟨action, payload, asks, List.mem_cons_of_mem _ out, rest⟩
  wrote other mem isAnswer := by
    rcases List.mem_cons.mp mem with rfl | old
    · cases isAnswer
    · exact h.wrote other old isAnswer

/-- The caller of a pending CALL gets an answer that was heard. -/
theorem Spoken.gives (h : Spoken env asked answers heard past r) {id : MessageId} {caller : Caller} {action : String}
    {payload : Json} {frame : Frame} {text : String} {result : CallResult}
    (asks : asked[caller]? = some (action, payload)) (out : .call id action payload ∈ r.wire) (known : heard text)
    (parsed : Frame.parse env.fromStr text = .ok frame) (same : frame.id = id) (means : Means env action frame result) :
    Spoken env asked answers heard past (r.note (.answered id (r.send caller result))) := by
  refine { h with answered := ?_ }
  intro entry mem
  by_cases gone : caller ∈ r.gone
  · have unheard : r.send caller result = none := by simp [Run.send, gone]
    rw [unheard] at mem
    exact h.answered entry mem
  · have reached : r.send caller result = some (caller, result) := by simp [Run.send, gone]
    rw [reached] at mem
    rcases List.mem_cons.mp mem with rfl | old
    · exact ⟨action, payload, asks, out, text, frame, known, parsed, same, means⟩
    · exact h.answered entry old

/-! ## Methods -/

/-- `P` does not depend on what becomes of writes, on events and on callers that give up. -/
structure Quiet (P : Run → Prop) : Prop where
  io : ∀ r io, P r → P { r with io }
  giveUp : ∀ r caller, P r → P (r.giveUp caller)
  event : ∀ r event, P r → P { r with events := event :: r.events }

/-- Neither does what it says of the tables and the wire. -/
theorem quiet_of (holds : Task → List Frame → Prop) : Quiet fun r => holds r.toTask r.wire where
  io _ _ := id
  giveUp _ _ := id
  event _ _ := id

/-- Two quiet properties are one. -/
theorem Quiet.and {P Q : Run → Prop} (quiet : Quiet P) (quiet' : Quiet Q) : Quiet fun r => P r ∧ Q r where
  io r io h := ⟨quiet.io r io h.1, quiet'.io r io h.2⟩
  giveUp r caller h := ⟨quiet.giveUp r caller h.1, quiet'.giveUp r caller h.2⟩
  event r event h := ⟨quiet.event r event h.1, quiet'.event r event h.2⟩

private theorem spoken_quiet : Quiet (Spoken env asked answers heard past) where
  io _ _ h := h.unsaid rfl rfl (fun _ => id) (fun _ => id)
  giveUp _ _ h := h.unsaid rfl rfl (fun _ => id) (fun _ => id)
  event _ _ h := h.unsaid rfl rfl (fun _ => id) (fun _ => id)

section Writing

variable {P Q : Run → Prop}

/-- Callers give up. -/
theorem Quiet.giveUps (quiet : Quiet P) (callers : List Caller) (h : P r) : P (callers.foldl Run.giveUp r) := by
  induction callers generalizing r with
  | nil => exact h
  | cons caller rest ih => exact ih (quiet.giveUp r caller h)

private theorem attempt_keeps (quiet : Quiet P) (quiet' : Quiet Q) (done : Run → Run) (h : P r)
    (after : ∀ io, Q (done { r with io })) :
    match r.attempt done with
    | (r', none) => Q r'
    | (r', some _) => P r' := by
  unfold Run.attempt
  cases list : r.io with
  | nil =>
    have same : r = { r with io := [] } := by rw [← list]
    rw [same]
    exact after []
  | cons io rest =>
    cases failure : io.failure with
    | none =>
      simp only [failure]
      exact quiet'.giveUps _ (after rest)
    | some failed =>
      simp only [failure]
      exact quiet.giveUps _ (quiet.io r rest h)

private theorem sendMessage_keeps (quiet : Quiet P) (quiet' : Quiet Q) (done : Run → Run) (h : P r)
    (after : ∀ io, Q (done { r with io })) : (r.sendMessage done).Meets Q P := by
  have spec := attempt_keeps quiet quiet' done h after
  unfold Run.sendMessage
  rcases result : r.attempt done with ⟨r', _ | failure⟩ <;> simpa [result, Flow.Meets] using spec

private theorem hand_keeps (quiet : Quiet P) (quiet' : Quiet Q) (event : ConnectionEvent) (done : Run → Run) (h : P r)
    (after : ∀ io, Q (done { r with io, events := event :: r.events })) : (r.hand event done).Meets Q P := by
  have spec := attempt_keeps quiet quiet' (fun r => done { r with events := event :: r.events }) h after
  unfold Run.hand
  rcases result : r.attempt fun r => done { r with events := event :: r.events } with ⟨r', _ | failure⟩ <;>
    simpa [result, Flow.Meets] using spec

private theorem emit_keeps (quiet : Quiet P) (event : ConnectionEvent) (h : P r) : (r.emit event).Meets P P :=
  hand_keeps quiet quiet event id h fun io => quiet.event _ event (quiet.io r io h)

private theorem warn_keeps (quiet : Quiet P) (message : String) (h : P r) : (r.warn message).Meets P P :=
  emit_keeps quiet _ h

private theorem write_keeps (quiet : Quiet P) (quiet' : Quiet Q) (weaker : ∀ r, Q r → P r) (frame : Frame)
    (action : Option String) (entry : Rpc.Event Caller MessageId CallResult) (h : P r)
    (after : ∀ io, Q { r with io, wire := frame :: r.wire, log := entry :: r.log }) :
    (r.write frame action entry).Meets Q P := by
  refine (sendMessage_keeps quiet quiet' _ h after).andThen ?_
  intro r' sent
  exact (emit_keeps quiet' _ sent).mono (fun _ => id) weaker

end Writing

/-- The log says more, but nothing of an answer. -/
theorem Spoken.note (h : Spoken env asked answers heard past r) (event : Rpc.Event Caller MessageId CallResult)
    (other : answersIn [event] = []) : Spoken env asked answers heard past (r.note event) := by
  refine h.unsaid rfl rfl (fun _ => id) ?_
  have cons : answersIn (r.note event).log = answersIn [event] ++ answersIn r.log :=
    List.filterMap_append (l := [event])
  rw [cons, other]
  exact fun _ => id

/-- CALLs leave the queue. -/
theorem Spoken.queued (h : Spoken env asked answers heard past r) {queue : List OutboundCall} (less : queue ⊆ r.queue) :
    Spoken env asked answers heard past { r with queue } :=
  h.shrink rfl less (fun _ => id) (Nat.le_refl _) rfl (fun _ => id) (fun _ => id) (fun _ => id) (fun _ => id)

/-- CALLs are settled. -/
theorem Spoken.settled (h : Spoken env asked answers heard past r) {pending : List (MessageId × Pending)}
    (less : pending ⊆ r.pending) : Spoken env asked answers heard past { r with pending } :=
  h.shrink rfl (fun _ => id) (fun _ => id) (Nat.le_refl _) rfl less (fun _ => id) (fun _ => id) (fun _ => id)

/-- A CALL that is on the wire waits for its answer. -/
theorem Spoken.awaits (h : Spoken env asked answers heard past r) {call : OutboundCall} {id : MessageId} {pending : Pending}
    (asks : asked[call.reply]? = some (call.action, call.payload)) (out : .call id call.action call.payload ∈ r.wire)
    (action : pending.action = call.action) (reply : pending.reply = call.reply) :
    Spoken env asked answers heard past
      { r with pending := (id, pending) :: r.pending.filter fun entry => decide (entry.1 ≠ id) } := by
  refine { h with pending := ?_ }
  intro entry mem
  rcases List.mem_cons.mp mem with rfl | old
  · refine ⟨call.payload, ?_, ?_⟩
    · rw [reply, action]
      exact asks
    · rw [action]
      exact out
  · exact h.pending entry (List.mem_of_mem_filter old)

/-- A CALL is written under the next id. -/
theorem writeCall_keeps (fresh : Function.Injective env.newV4) (h : Spoken env asked answers heard past r)
    (call : OutboundCall) :
    (Run.write (.call (env.newV4 r.drawn) call.action call.payload) (some call.action)
      (.sent call.reply (env.newV4 r.drawn)) { r with drawn := r.drawn + 1 }).Meets
      (fun r' => Spoken env asked answers heard past r' ∧
        r'.queue = r.queue ∧ .call (env.newV4 r.drawn) call.action call.payload ∈ r'.wire)
      (Spoken env asked answers heard past) := by
  have out := quiet_of fun task wire =>
    task.queue = r.queue ∧ .call (env.newV4 r.drawn) call.action call.payload ∈ wire
  refine write_keeps spoken_quiet (spoken_quiet.and out) (fun _ => And.left) _ _ _ ?_ ?_
  · exact h.shrink rfl (fun _ => id) (fun _ => id) (Nat.le_succ _) rfl (fun _ => id) (fun _ => id) (fun _ => id)
      (fun _ => id)
  · intro io
    refine ⟨?_, rfl, List.mem_cons_self⟩
    have called := spoken_quiet.io _ io (h.calls fresh call.action call.payload)
    exact called.note (.sent call.reply (env.newV4 r.drawn)) rfl

private theorem pumpQueue_keeps (fresh : Function.Injective env.newV4) (queue : List OutboundCall) (r : Run)
    (isQueue : r.queue = queue) (h : Spoken env asked answers heard past r) :
    (Run.pumpQueue env queue r).Meets (Spoken env asked answers heard past) (Spoken env asked answers heard past) := by
  induction queue generalizing r with
  | nil => exact h
  | cons call rest ih =>
    have asks := h.queue call (by simp [isQueue])
    have left : Spoken env asked answers heard past { r with queue := rest } := h.queued (by simp [isQueue])
    unfold Run.pumpQueue
    by_cases busy : (r.serialize && !r.pending.isEmpty) = true
    · rw [if_pos busy]
      exact h
    rw [if_neg busy]
    by_cases gone : call.reply ∈ r.gone
    · rw [if_pos gone]
      exact ih _ rfl (left.note (.withdrawn call.reply) rfl)
    rw [if_neg gone]
    have spec := writeCall_keeps fresh left call
    dsimp only
    rcases result : Run.write (.call (env.newV4 r.drawn) call.action call.payload) (some call.action)
      (.sent call.reply (env.newV4 r.drawn)) { r with queue := rest, drawn := r.drawn + 1 } with ⟨r', _ | stop⟩
    · rw [result] at spec
      obtain ⟨spoken, line, out⟩ := spec
      exact ih _ line (spoken.awaits asks out rfl rfl)
    · rw [result] at spec
      exact spec.note (.failed call.reply (r'.send call.reply _)) rfl

private theorem pump_keeps (fresh : Function.Injective env.newV4) (h : Spoken env asked answers heard past r) :
    (r.pump env).Meets (Spoken env asked answers heard past) (Spoken env asked answers heard past) :=
  pumpQueue_keeps fresh r.queue r rfl h

private theorem withdraw_keeps (kept rest : List OutboundCall) (r : Run) (h : Spoken env asked answers heard past r)
    (asks : ∀ call ∈ kept ++ rest, asked[call.reply]? = some (call.action, call.payload)) :
    Spoken env asked answers heard past (Run.withdraw kept rest r) := by
  induction rest generalizing kept r with
  | nil =>
    rw [List.append_nil] at asks
    exact { h with queue := asks }
  | cons call rest ih =>
    unfold Run.withdraw
    by_cases gone : call.reply ∈ r.gone
    · rw [if_pos gone]
      have fewer : ∀ call ∈ kept ++ rest, asked[call.reply]? = some (call.action, call.payload) := by
        intro other mem
        exact asks other (by grind)
      have less : Spoken env asked answers heard past { r with queue := kept ++ rest } := { h with queue := fewer }
      exact ih kept _ (less.note (.withdrawn call.reply) rfl) fewer
    · rw [if_neg gone]
      exact ih (kept ++ [call]) r h (by simpa using asks)

private theorem enqueue_keeps {call : OutboundCall} (h : Spoken env asked answers heard past r)
    (asks : asked[call.reply]? = some (call.action, call.payload)) :
    Spoken env asked answers heard past (r.enqueue call) := by
  have spoken := withdraw_keeps [] r.queue r h (by simpa using h.queue)
  refine { spoken with queue := ?_ }
  intro other mem
  rcases List.mem_append.mp mem with old | new
  · exact spoken.queue other old
  · obtain rfl := List.mem_singleton.mp new
    exact asks

private theorem speaks_keeps {frame : Frame} {action : Option String} {entry : Rpc.Event Caller MessageId CallResult}
    {text : String} (h : Spoken env asked answers heard past r) (answer : frame.isCall = false)
    (other : answersIn [entry] = []) (known : heard text) (replies : Replies env answers text frame) :
    (r.write frame action entry).Meets (Spoken env asked answers heard past) (Spoken env asked answers heard past) := by
  refine write_keeps spoken_quiet spoken_quiet (fun _ => id) _ _ _ h ?_
  intro io
  exact (spoken_quiet.io _ io (h.speaks answer known replies)).note entry other

/-- What is looked up is there. -/
theorem mem_of_lookup {α : Type*} {entries : List (MessageId × α)} {id : MessageId} {value : α}
    (found : entries.lookup id = some value) : (id, value) ∈ entries := by
  obtain ⟨before, after, rfl, -⟩ := List.lookup_eq_some_iff.mp found
  simp

private theorem reply_keeps {frame : Frame} (h : Spoken env asked answers heard past r)
    (given : ∃ answer, (frame.id, answer) ∈ answers ∧ frame = answer.frame frame.id) :
    (r.reply env frame).Meets (Spoken env asked answers heard past) (Spoken env asked answers heard past) := by
  unfold Run.reply
  cases found : r.incoming.lookup frame.id with
  | none => exact h
  | some action =>
    obtain ⟨text, payload, known, parsed⟩ := h.incoming _ (mem_of_lookup found)
    obtain ⟨answer, given, is⟩ := given
    have left : Spoken env asked answers heard past
        { r with incoming := r.incoming.filter fun entry => decide (entry.1 ≠ frame.id) } :=
      h.shrink rfl (fun _ => id) (fun _ => id) (Nat.le_refl _) rfl (fun _ => id) (fun _ => id)
        (List.filter_subset_self ..) (fun _ => id)
    cases answer with
    | accept payload' =>
      have replies : Replies env answers text (env.checked action (.callResult frame.id payload')) :=
        .answered parsed given
      rw [is]
      cases valid : env.validateResponse action payload' with
      | ok _ =>
        simp only [Env.checked, valid] at replies
        simp only [Run.Answer.frame, valid]
        rw [is] at left
        exact speaks_keeps left rfl rfl known replies
      | error violation =>
        simp only [Env.checked, valid] at replies
        simp only [Run.Answer.frame, valid]
        rw [is] at left
        refine (warn_keeps spoken_quiet _ left).andThen ?_
        intro r' warned
        exact speaks_keeps warned rfl rfl known replies
    | reject code description details =>
      have replies : Replies env answers text (.callError frame.id code description details) :=
        .answered parsed given
      rw [is]
      rw [is] at left
      exact speaks_keeps left rfl rfl known replies

private theorem incomingCall_keeps {id : MessageId} {action : String} {payload : Json} {text : String}
    (h : Spoken env asked answers heard past r) (known : heard text)
    (parsed : Frame.parse env.fromStr text = .ok (.call id action payload)) :
    (r.incomingCall env id action payload).Meets (Spoken env asked answers heard past)
      (Spoken env asked answers heard past) := by
  unfold Run.incomingCall
  dsimp only
  by_cases busy : (r.incoming.any fun entry => entry.1 == id) = true
  · rw [if_pos busy]
    exact warn_keeps spoken_quiet _ (h.note (.inbound id _ .ignored) rfl)
  rw [if_neg busy]
  cases refused : Run.rejection env action payload with
  | some reason =>
    obtain ⟨code, description⟩ := reason
    refine (warn_keeps spoken_quiet _ h).andThen ?_
    intro r' warned
    exact speaks_keeps warned rfl rfl known (.rejected parsed refused)
  | none =>
    have begun : Spoken env asked answers heard past { r with incoming := (id, action) :: r.incoming } := by
      refine { h with incoming := ?_ }
      intro entry mem
      rcases List.mem_cons.mp mem with rfl | old
      · exact ⟨text, payload, known, parsed⟩
      · exact h.incoming entry old
    have spec := hand_keeps spoken_quiet spoken_quiet (.call id action payload)
      (Run.note (.inbound id true .delivered)) begun fun io =>
        (spoken_quiet.event _ _ (spoken_quiet.io _ io begun)).note (.inbound id true .delivered) rfl
    dsimp only
    rcases result : Run.hand (.call id action payload) (Run.note (.inbound id true .delivered))
      { r with incoming := (id, action) :: r.incoming } with ⟨r', _ | stop⟩
    · rw [result] at spec
      exact spec
    · rw [result] at spec
      exact spec.note (.inbound id true .lost) rfl

private theorem callResult_keeps (fresh : Function.Injective env.newV4) {id : MessageId} {payload : Json}
    {text : String} (h : Spoken env asked answers heard past r) (known : heard text)
    (parsed : Frame.parse env.fromStr text = .ok (.callResult id payload)) :
    (r.callResult env id payload).Meets (Spoken env asked answers heard past) (Spoken env asked answers heard past) := by
  unfold Run.callResult
  cases found : r.pending.lookup id with
  | none => exact h.note (.answered id none) rfl
  | some pending =>
    obtain ⟨asking, asks, out⟩ := h.pending _ (mem_of_lookup found)
    have left : Spoken env asked answers heard past
        { r with pending := r.pending.filter fun entry => decide (entry.1 ≠ id) } :=
      h.settled (List.filter_subset_self ..)
    dsimp only
    cases valid : env.validateResponse pending.action payload with
    | ok _ => exact pump_keeps fresh (left.gives asks out known parsed rfl (.ok valid))
    | error violation =>
      have wired := quiet_of fun _ wire => .call id pending.action asking ∈ wire
      have spec := warn_keeps (spoken_quiet.and wired) ("CALLRESULT for " ++ pending.action ++
        " violates the OCPP 1.6J schema: " ++ violation.display) ⟨left, out⟩
      dsimp only
      rcases result : Run.warn ("CALLRESULT for " ++ pending.action ++ " violates the OCPP 1.6J schema: " ++
        violation.display) { r with pending := r.pending.filter fun entry => decide (entry.1 ≠ id) } with
        ⟨r', _ | stop⟩
      · rw [result] at spec
        exact pump_keeps fresh (spec.1.gives asks spec.2 known parsed rfl (.schema valid))
      · rw [result] at spec
        exact spec.1.note (.failed pending.reply (r'.send pending.reply _)) rfl

private theorem callError_keeps (fresh : Function.Injective env.newV4) {id : MessageId} {code : ErrorCode}
    {description : String} {details : Json} {text : String} (h : Spoken env asked answers heard past r)
    (known : heard text) (parsed : Frame.parse env.fromStr text = .ok (.callError id code description details)) :
    (r.callError env id code description details).Meets (Spoken env asked answers heard past)
      (Spoken env asked answers heard past) := by
  unfold Run.callError
  cases found : r.pending.lookup id with
  | none => exact h.note (.answered id none) rfl
  | some pending =>
    obtain ⟨asking, asks, out⟩ := h.pending _ (mem_of_lookup found)
    have left : Spoken env asked answers heard past
        { r with pending := r.pending.filter fun entry => decide (entry.1 ≠ id) } :=
      h.settled (List.filter_subset_self ..)
    exact pump_keeps fresh (left.gives asks out known parsed rfl .rpc)

private theorem brokenText_keeps {text : String} {error : FrameError} (h : Spoken env asked answers heard past r)
    (known : heard text) (parsed : Frame.parse env.fromStr text = .error error) :
    (r.brokenText env text error).Meets (Spoken env asked answers heard past) (Spoken env asked answers heard past) := by
  unfold Run.brokenText
  refine (emit_keeps spoken_quiet _ h).andThen ?_
  intro r' emitted
  refine (warn_keeps spoken_quiet _ emitted).andThen ?_
  intro r'' warned
  cases replied : error.reply env.render with
  | none => exact warned
  | some frame =>
    have answer : frame.isCall = false := by
      obtain ⟨id, -, rfl⟩ := Option.map_eq_some_iff.mp replied
      rfl
    exact speaks_keeps warned answer rfl known (.broken parsed replied)

private theorem incomingText_keeps (fresh : Function.Injective env.newV4) {text : String}
    (h : Spoken env asked answers heard past r) (known : heard text) :
    (r.incomingText env text).Meets (Spoken env asked answers heard past) (Spoken env asked answers heard past) := by
  unfold Run.incomingText
  cases parsed : Frame.parse env.fromStr text with
  | error error => exact brokenText_keeps h known parsed
  | ok frame =>
    have spec := emit_keeps spoken_quiet (.frame { direction := .in, msgId := some frame.id
                                                   action := r.frameAction frame, frame := r.recorded frame }) h
    dsimp only
    rcases result : r.emit (.frame { direction := .in, msgId := some frame.id
                                     action := r.frameAction frame, frame := r.recorded frame }) with ⟨r', _ | stop⟩
    · rw [result] at spec
      cases frame with
      | call id action payload => exact incomingCall_keeps spec known parsed
      | callResult id payload => exact callResult_keeps fresh spec known parsed
      | callError id code description details => exact callError_keeps fresh spec known parsed
    · rw [result] at spec
      cases frame with
      | call id action payload => exact Spoken.note spec (.inbound id _ .lost) rfl
      | callResult id payload => exact spec
      | callError id code description details => exact spec

private theorem expire_keeps (fresh : Function.Injective env.newV4) (h : Spoken env asked answers heard past r) :
    (r.expire env).Meets (Spoken env asked answers heard past) (Spoken env asked answers heard past) := by
  unfold Run.expire
  dsimp only
  have left : Spoken env asked answers heard past
      { r with pending := r.pending.filter fun entry => decide (¬entry.2.deadline ≤ r.now) } :=
    h.settled (List.filter_subset_self ..)
  refine pump_keeps fresh ?_
  generalize (r.pending.filter fun entry => decide (entry.2.deadline ≤ r.now)) = due
  revert left
  generalize ({ r with pending := r.pending.filter fun entry => decide (¬entry.2.deadline ≤ r.now) } : Run) = r'
  intro left
  induction due generalizing r' with
  | nil => exact left
  | cons entry due ih => exact ih _ (left.note (.expired entry.1 (r'.send entry.2.reply _)) rfl)

private theorem handle_keeps (fresh : Function.Injective env.newV4) (h : Spoken env asked answers heard past r)
    (step : Step) (command : ∀ call, step = .command (some (.call call)) →
      asked[call.reply]? = some (call.action, call.payload))
    (reply : ∀ frame, step = .reply frame → ∃ answer, (frame.id, answer) ∈ answers ∧ frame = answer.frame frame.id)
    (hears : ∀ text, step = .socket (some (.ok (.text text))) ∨ step = .socket (some (.ok (.binary (some text)))) →
      heard text) :
    (r.handle env step).Meets (Spoken env asked answers heard past) (Spoken env asked answers heard past) := by
  cases step with
  | command command' =>
    rcases command' with _ | call | _
    · exact h
    · exact pump_keeps fresh (enqueue_keeps h (command call rfl))
    · exact h
  | reply frame => exact reply_keeps h (reply frame rfl)
  | socket message =>
    rcases message with _ | error | message
    · exact h
    · exact h
    · cases message with
      | text text => exact incomingText_keeps fresh h (hears text (.inl rfl))
      | binary utf8 =>
        cases utf8 with
        | none => exact warn_keeps spoken_quiet _ h
        | some text => exact incomingText_keeps fresh h (hears text (.inr rfl))
      | ping => exact sendMessage_keeps spoken_quiet spoken_quiet id h fun io => spoken_quiet.io r io h
      | pong =>
        exact h.shrink rfl (fun _ => id) (fun _ => id) (Nat.le_refl _) rfl (fun _ => id) (fun _ => id) (fun _ => id)
          (fun _ => id)
      | close frame => exact h
      | frame => exact h
  | timeouts => exact expire_keeps fresh h
  | ping =>
    show (r.ping).Meets _ _
    unfold Run.ping
    by_cases waiting : r.awaitingPong = true
    · rw [if_pos waiting]
      exact h
    · rw [if_neg waiting]
      have pinged : Spoken env asked answers heard past { r with awaitingPong := true } :=
        h.shrink rfl (fun _ => id) (fun _ => id) (Nat.le_refl _) rfl (fun _ => id) (fun _ => id) (fun _ => id)
          (fun _ => id)
      exact sendMessage_keeps spoken_quiet spoken_quiet id pinged fun io => spoken_quiet.io _ io pinged

/-- Callers fail with the connection. -/
theorem Spoken.failWith (h : Spoken env asked answers heard past r) (code : Option Nat) (callers : List Caller) :
    Spoken env asked answers heard past (callers.foldl (Run.failWith code) r) := by
  induction callers generalizing r with
  | nil => exact h
  | cons caller rest ih => exact ih (h.note (.failed caller (r.send caller _)) rfl)

/-- The task ends. -/
theorem Spoken.finish (h : Spoken env asked answers heard past r) (stop : Stop) (handshake : Option Nat × String) :
    Spoken env asked answers heard past (r.finish stop handshake) := by
  have pending := (h.settled (List.nil_subset _)).failWith stop.knownCode (r.pending.map (·.2.reply))
  unfold Run.finish
  dsimp only
  revert pending
  generalize ((r.pending.map (·.2.reply)).foldl (Run.failWith stop.knownCode) { r with pending := [] }) = r₁
  intro pending
  have queue := (pending.queued (List.nil_subset _)).failWith stop.knownCode (r₁.queue.map (·.reply))
  revert queue
  generalize ((r₁.queue.map (·.reply)).foldl (Run.failWith stop.knownCode) { r₁ with queue := [] }) = r₂
  intro queue
  have emptied : Spoken env asked answers heard past { r₂ with commands := [] } :=
    queue.unsaid rfl rfl (List.nil_subset _) (fun _ => id)
  have commands := emptied.failWith stop.knownCode (Run.commandCallers r₂.commands)
  revert commands
  generalize ((Run.commandCallers r₂.commands).foldl (Run.failWith stop.knownCode) { r₂ with commands := [] }) = r₃
  intro commands
  have ended : Spoken env asked answers heard past
      { r₃ with incoming := [], ended := true, events := stop.closed handshake :: r₃.events } :=
    commands.shrink rfl (fun _ => id) (fun _ => id) (Nat.le_refl _) rfl (fun _ => id) (fun _ => id)
      (List.nil_subset _) (fun _ => id)
  exact ended.note (.ended) rfl

end Station

/-! ## Inputs -/

section Inputs

variable {env : Env} {asked : List (String × Json)} {answers : List (MessageId × Run.Answer)}
  {heard : String → Prop} {past : List Frame} {r : Run}

/-- More was answered and heard since. -/
theorem Spoken.more {answers' : List (MessageId × Run.Answer)} {heard' : String → Prop}
    (h : Spoken env asked answers heard past r) (given : answers ⊆ answers') (hears : ∀ text, heard text → heard' text) :
    Spoken env asked answers' heard' past r := by
  have replies {text : String} {frame : Frame} (replies : Replies env answers text frame) :
      Replies env answers' text frame := by
    cases replies with
    | answered parsed known => exact .answered parsed (given known)
    | rejected parsed refused => exact .rejected parsed refused
    | broken parsed replied => exact .broken parsed replied
  refine { h with replies := ?_, incoming := ?_, answered := ?_, wrote := ?_ }
  · intro frame mem
    obtain ⟨answer, known, is⟩ := h.replies frame mem
    exact ⟨answer, given known, is⟩
  · intro entry mem
    obtain ⟨text, payload, known, parsed⟩ := h.incoming entry mem
    exact ⟨text, payload, hears text known, parsed⟩
  · intro entry mem
    obtain ⟨action, payload, asks, out, text, frame, known, rest⟩ := h.answered entry mem
    exact ⟨action, payload, asks, out, text, frame, hears text known, rest⟩
  · intro frame mem answer
    obtain ⟨text, known, replied⟩ := h.wrote frame mem answer
    exact ⟨text, hears text known, replies replied⟩

/-- A caller submits its CALL. -/
theorem Spoken.submits (h : Spoken env asked answers heard past r) (action : String) (payload : Json) (timeout : Nat) :
    Spoken env (asked ++ [(action, payload)]) answers heard past
      { r with
        commands := r.commands ++ [.call { action, payload, timeout, reply := r.callers }]
        callers := r.callers + 1, log := .submitted r.callers :: r.log } := by
  have known {caller : Caller} {call : String × Json} (asks : asked[caller]? = some call) :
      (asked ++ [(action, payload)])[caller]? = some call := by
    obtain ⟨inside, -⟩ := List.getElem?_eq_some_iff.mp asks
    rwa [List.getElem?_append_left inside]
  refine { h with callers := ?_, queue := ?_, commands := ?_, pending := ?_, answered := ?_ }
  · simp [h.callers]
  · intro call mem
    exact known (h.queue call mem)
  · intro call mem
    rcases List.mem_append.mp mem with old | new
    · exact known (h.commands call old)
    · obtain rfl := Command.call.inj (List.mem_singleton.mp new)
      simp [← h.callers]
  · intro entry mem
    obtain ⟨payload, asks, out⟩ := h.pending entry mem
    exact ⟨payload, known asks, out⟩
  · intro entry mem
    obtain ⟨action, payload, asks, rest⟩ := h.answered entry mem
    exact ⟨action, payload, known asks, rest⟩

/-- A turn says and hears no more than it should. -/
theorem Spoken.turn (fresh : Function.Injective env.newV4) (h : Spoken env asked answers heard past r) (source : Run.Source)
    (handshake : Option Nat × String) (hears : ∀ text, source = .socket (some (.ok (.text text))) ∨
      source = .socket (some (.ok (.binary (some text)))) → heard text) {step : Step} {r' : Run}
    (taken : Run.take source r = some (step, r')) : Spoken env asked answers heard past (r'.turn env step handshake) := by
  have spec : (r'.handle env step).Meets (Spoken env asked answers heard past) (Spoken env asked answers heard past) := by
    cases source with
    | commands =>
      cases waiting : r.commands with
      | nil => simp [Run.take, waiting] at taken
      | cons command rest =>
        obtain ⟨rfl, rfl⟩ : .command (some command) = step ∧ { r with commands := rest } = r' := by
          simpa [Run.take, waiting] using taken
        have left : Spoken env asked answers heard past { r with commands := rest } :=
          h.unsaid rfl rfl (by simp [waiting]) (fun _ => id)
        refine handle_keeps fresh left _ ?_ (by simp) (by simp)
        rintro call ⟨⟩
        exact h.commands call (by simp [waiting])
    | handlesDropped =>
      by_cases empty : r.commands.isEmpty = true
      · obtain ⟨rfl, rfl⟩ : .command none = step ∧ r = r' := by simpa [Run.take, empty] using taken
        exact handle_keeps fresh h _ (by simp) (by simp) (by simp)
      · simp [Run.take, empty] at taken
    | replies =>
      cases waiting : r.replies with
      | nil => simp [Run.take, waiting] at taken
      | cons frame rest =>
        obtain ⟨rfl, rfl⟩ : .reply frame = step ∧ { r with replies := rest } = r' := by
          simpa [Run.take, waiting] using taken
        have left : Spoken env asked answers heard past { r with replies := rest } :=
          h.shrink rfl (fun _ => id) (fun _ => id) (Nat.le_refl _) rfl (fun _ => id) (by simp [waiting]) (fun _ => id)
            (fun _ => id)
        refine handle_keeps fresh left _ (by simp) ?_ (by simp)
        rintro frame ⟨⟩
        exact h.replies _ (by simp [waiting])
    | socket message =>
      obtain ⟨rfl, rfl⟩ : .socket message = step ∧ r = r' := by simpa [Run.take] using taken
      refine handle_keeps fresh h _ (by simp) (by simp) ?_
      intro text brings
      exact hears text (by simpa using brings)
    | timeouts =>
      obtain ⟨rfl, rfl⟩ : .timeouts = step ∧ r = r' := by simpa [Run.take] using taken
      exact handle_keeps fresh h _ (by simp) (by simp) (by simp)
    | ping =>
      obtain ⟨rfl, rfl⟩ : .ping = step ∧ r = r' := by simpa [Run.take] using taken
      exact handle_keeps fresh h _ (by simp) (by simp) (by simp)
  unfold Run.turn
  rcases result : r'.handle env step with ⟨r'', _ | stop⟩
  · rw [result] at spec
    exact spec
  · rw [result] at spec
    exact Spoken.finish spec stop handshake

end Inputs

end KirbyOcpp.Ws

namespace KirbyOcpp.Conversation

open Ws

variable {Reported : Type} {env : Ws.Env} {heard : String → Prop} {past : List Ws.Frame}

/-- An input keeps what the station's end said in step with the records. -/
theorem station_input (fresh : Function.Injective env.newV4) (p : Conversation Reported) (input : Ws.Run.Input)
    (hears : ∀ text ∈ stationHears input, heard text) (h : Spoken env p.asked p.answers heard past p.station) :
    Spoken env (p.noteStation input).asked (p.noteStation input).answers heard past (p.station.input env input) := by
  cases input with
  | submit action payload timeout =>
    by_cases over' : p.station.ended = true
    · simpa [noteStation, Run.input, over'] using h
    · simpa [noteStation, Run.input, over'] using h.submits action payload timeout
  | giveUp caller => exact spoken_quiet.giveUp _ caller h
  | answer id answer =>
    have more := h.more (List.subset_cons_self (id, answer) p.answers) (fun _ known => known)
    refine { more with replies := ?_ }
    intro frame mem
    rcases List.mem_append.mp mem with old | new
    · exact more.replies frame old
    · obtain rfl := List.mem_singleton.mp new
      refine ⟨answer, ?_, ?_⟩ <;> cases answer <;> simp [noteStation, Run.Answer.frame, Ws.Frame.id]
  | close =>
    by_cases over' : p.station.ended = true
    · simpa [noteStation, Run.input, over'] using h
    · simp only [noteStation, Run.input, over', Bool.false_eq_true, if_false]
      refine { h with commands := ?_ }
      intro call mem
      exact h.commands call (by simpa using mem)
  | turn source now io handshake =>
    by_cases over' : p.station.ended = true
    · simpa [noteStation, Run.input, over'] using h
    · have begun : Spoken env p.asked p.answers heard past { p.station with now, io } :=
        h.unsaid rfl rfl (fun _ => id) (fun _ => id)
      show Spoken env p.asked p.answers heard past (p.station.input env (.turn source now io handshake))
      cases taken : Run.take source { p.station with now, io } with
      | none =>
        simp only [Run.input]
        rw [if_neg over', taken]
        exact h
      | some next =>
        obtain ⟨step, r'⟩ := next
        simp only [Run.input]
        rw [if_neg over', taken]
        refine begun.turn fresh source handshake ?_ taken
        rintro text (rfl | rfl) <;> exact hears text rfl

end KirbyOcpp.Conversation
