import KirbyOcpp.Conversation
import KirbyOcpp.Laws.Csms.Calls

/-!
# The central system's end of a conversation

Whatever texts the session hears, and whatever the other sessions and the callers do, the same holds as at the
station's end: the CALLs that it writes carry ids of their own, a caller is only given an answer that was heard under
the id of its own CALL, and every other frame answers a CALL that was heard, by what was decided for it or because it
was broken (`Voiced`).
-/

namespace KirbyOcpp.Csms

open Ws (Json ErrorCode FrameError MessageId)
open Server (messageId)
open Conversation (answersIn)

variable {Reported : Type}

/-- What passed at the end of a session: the frames it began to write, what was decided, the texts it heard. -/
structure Exchange where
  written : List Ws.Frame
  decided : List (Ws.Frame × Reply)
  heard : String → Prop

/-- How the session comes to answer what it heard. -/
inductive Replies (env : Env Reported) (decided : List (Ws.Frame × Reply)) (text : String) : Ws.Frame → Prop
  | result {id : MessageId} {action : String} {payload response : Json}
      (parsed : Ws.Frame.parse env.fromStr text = .ok (.call id action payload))
      (chosen : (.call id action payload, .result response) ∈ decided) :
      Replies env decided text (.callResult id response)
  | error {id : MessageId} {action : String} {payload : Json} {code : ErrorCode} {description : String}
      (parsed : Ws.Frame.parse env.fromStr text = .ok (.call id action payload))
      (chosen : (.call id action payload, .error code description) ∈ decided) :
      Replies env decided text (.error id code description)
  | broken {error : FrameError} {frame : Ws.Frame} (parsed : Ws.Frame.parse env.fromStr text = .error error)
      (replied : error.reply env.render = some frame) : Replies env decided text frame

/-- The caller asked this of the station of the session. -/
def Asks (requests : Caller → Option Request) (sid : SessionId) (caller : Caller) (action : String) (payload : Json) :
    Prop :=
  ∃ station, requests caller = some { session := sid, station, action, payload }

/-- What stands in the phases of a session. -/
def Phase.Voiced (env : Env Reported) (sid : SessionId) (requests : Caller → Option Request) (next : Nat)
    (e : Exchange) : Phase → Prop
  | .received frame => ∃ text, e.heard text ∧ Ws.Frame.parse env.fromStr text = .ok frame
  | .sending frame (some call) => Asks requests sid call.reply call.action call.payload ∧
    ∃ n ≤ next, frame = .call (messageId n) call.action call.payload ∧
      ∀ other ∈ e.written, other.isCall = true → other.id ≠ messageId n
  | .sending frame none => frame.isCall = false ∧ ∃ text, e.heard text ∧ Replies env e.decided text frame
  | .writing frame (some call) => Asks requests sid call.reply call.action call.payload ∧
    .call frame.id call.action call.payload ∈ e.written
  | _ => True

structure Session.Voiced (env : Env Reported) (sid : SessionId) (requests : Caller → Option Request) (next : Nat)
    (e : Exchange) (s : Session) : Prop where
  queue : ∀ call ∈ s.queue, Asks requests sid call.reply call.action call.payload
  commands : ∀ call, .call call ∈ s.commands → Asks requests sid call.reply call.action call.payload
  phase : s.phase.Voiced env sid requests next e
  inFlight : ∀ flight, s.inFlight = some flight → ∃ action payload, Asks requests sid flight.reply action payload ∧
    .call flight.id action payload ∈ e.written
  answered : ∀ entry ∈ answersIn s.log, ∃ action payload, Asks requests sid entry.2.1 action payload ∧
    .call entry.1 action payload ∈ e.written ∧ ∃ text frame, e.heard text ∧
      Ws.Frame.parse env.fromStr text = .ok frame ∧ frame.isCall = false ∧ frame.id = entry.1 ∧ entry.2.2 = .answer frame

/-- What the session said and what it made of what it heard. -/
structure Voiced (env : Env Reported) (sid : SessionId) (e : Exchange) (c : Server Reported) : Prop where
  numbered : ∀ frame ∈ e.written, frame.isCall = true → ∃ n ≤ c.nextMessage, frame.id = messageId n
  once : ∀ frame ∈ e.written, ∀ frame' ∈ e.written, frame.isCall = true → frame'.isCall = true →
    frame.id = frame'.id → frame = frame'
  wrote : ∀ frame ∈ e.written, frame.isCall = false → ∃ text, e.heard text ∧ Replies env e.decided text frame
  new : ∀ caller, c.callers ≤ caller → c.requests caller = none
  session : ∀ s, c.sessions sid = some s → s.Voiced env sid c.requests c.nextMessage e

variable {env : Env Reported} {sid : SessionId} {requests requests' : Caller → Option Request} {next next' : Nat}
  {e e' : Exchange} {c c' : Server Reported} {s s' : Session}

theorem Replies.more {decided decided' : List (Ws.Frame × Reply)} {text : String} {frame : Ws.Frame}
    (h : Replies env decided text frame) (more : decided ⊆ decided') : Replies env decided' text frame := by
  cases h with
  | result parsed chosen => exact .result parsed (more chosen)
  | error parsed chosen => exact .error parsed (more chosen)
  | broken parsed replied => exact .broken parsed replied

/-- More was asked, decided and heard since, and more ids were drawn. -/
theorem Phase.Voiced.more {phase : Phase} (h : phase.Voiced env sid requests next e)
    (asks : ∀ caller request, requests caller = some request → requests' caller = some request) (later : next ≤ next')
    (written : e'.written = e.written) (decided : e.decided ⊆ e'.decided)
    (heard : ∀ text, e.heard text → e'.heard text) : phase.Voiced env sid requests' next' e' := by
  cases phase with
  | received frame =>
    obtain ⟨text, known, parsed⟩ := h
    exact ⟨text, heard text known, parsed⟩
  | sending frame call =>
    cases call with
    | none =>
      obtain ⟨answer, text, known, replies⟩ := h
      exact ⟨answer, text, heard text known, replies.more decided⟩
    | some call =>
      obtain ⟨⟨station, asked⟩, n, bound, is, fresh⟩ := h
      exact ⟨⟨station, asks _ _ asked⟩, n, bound.trans later, is, written ▸ fresh⟩
  | writing frame call =>
    cases call with
    | none => trivial
    | some call =>
      obtain ⟨⟨station, asked⟩, out⟩ := h
      exact ⟨⟨station, asks _ _ asked⟩, written ▸ out⟩
  | top | select | closing | ended | reported => trivial

theorem Session.Voiced.more (h : s.Voiced env sid requests next e)
    (asks : ∀ caller request, requests caller = some request → requests' caller = some request) (later : next ≤ next')
    (written : e'.written = e.written) (decided : e.decided ⊆ e'.decided)
    (heard : ∀ text, e.heard text → e'.heard text) : s.Voiced env sid requests' next' e' where
  queue call mem := (h.queue call mem).imp fun _ => asks _ _
  commands call mem := (h.commands call mem).imp fun _ => asks _ _
  phase := h.phase.more asks later written decided heard
  inFlight flight open' := by
    obtain ⟨action, payload, asked, out⟩ := h.inFlight flight open'
    exact ⟨action, payload, asked.imp fun _ => asks _ _, written ▸ out⟩
  answered entry mem := by
    obtain ⟨action, payload, asked, out, text, frame, known, rest⟩ := h.answered entry mem
    exact ⟨action, payload, asked.imp fun _ => asks _ _, written ▸ out, text, frame, heard text known, rest⟩

/-- The server goes on, with a session that is in step with it. -/
theorem Voiced.goes (h : Voiced env sid e c) (later : c.nextMessage ≤ c'.nextMessage) (callers : c'.callers = c.callers)
    (requests : c'.requests = c.requests)
    (session : ∀ s, c'.sessions sid = some s → s.Voiced env sid c.requests c'.nextMessage e) :
    Voiced env sid e c' where
  numbered frame mem isCall := by
    obtain ⟨n, bound, id⟩ := h.numbered frame mem isCall
    exact ⟨n, bound.trans later, id⟩
  once := h.once
  wrote := h.wrote
  new caller above := by
    rw [requests]
    exact h.new caller (callers ▸ above)
  session s found := by
    rw [requests]
    exact session s found

/-- Nothing of the session changes. -/
theorem Voiced.aside (h : Voiced env sid e c) (later : c.nextMessage ≤ c'.nextMessage)
    (callers : c'.callers = c.callers) (requests : c'.requests = c.requests)
    (sessions : c'.sessions sid = c.sessions sid) : Voiced env sid e c' := by
  refine h.goes later callers requests ?_
  intro s found
  exact (h.session s (sessions ▸ found)).more (fun _ _ => id) later rfl (fun _ => id) fun _ => id

/-- The session goes on to `s`. -/
theorem Voiced.set (h : Voiced env sid e c) (later : c.nextMessage ≤ c'.nextMessage) (callers : c'.callers = c.callers)
    (requests : c'.requests = c.requests) (voiced : s.Voiced env sid c.requests c'.nextMessage e) :
    Voiced env sid e (c'.setSession sid s) := by
  refine h.goes later callers requests ?_
  intro t found
  obtain rfl : t = s := Server.setSession_only found
  exact voiced

theorem Voiced.more (h : Voiced env sid e c) (written : e'.written = e.written) (decided : e.decided ⊆ e'.decided)
    (heard : ∀ text, e.heard text → e'.heard text) : Voiced env sid e' c where
  numbered := written ▸ h.numbered
  once := written ▸ h.once
  wrote frame mem answer := by
    obtain ⟨text, known, replies⟩ := h.wrote frame (written ▸ mem) answer
    exact ⟨text, heard text known, replies.more decided⟩
  new := h.new
  session s found := (h.session s found).more (fun _ _ => id) le_rfl written decided heard

/-! ## One turn of the session -/

/-- The log says more, but nothing of an answer. -/
theorem Session.Voiced.note (h : s.Voiced env sid requests next e) {event : CallEvent}
    (other : answersIn [event] = []) : (s.note event).Voiced env sid requests next e := by
  refine { h with answered := ?_ }
  have cons : answersIn (s.note event).log = answersIn [event] ++ answersIn s.log :=
    List.filterMap_append (l := [event])
  rw [cons, other]
  exact h.answered

theorem Session.Voiced.to (h : s.Voiced env sid requests next e) (phase : Phase)
    (voiced : phase.Voiced env sid requests next e) : { s with phase }.Voiced env sid requests next e :=
  { h with phase := voiced }

theorem Voiced.pump (h : Voiced env sid e c) (found : c.sessions sid = some s) : Voiced env sid e (c.pump sid s) := by
  have voiced := h.session s found
  rcases s with ⟨station, commands, queue, _ | flight, phase, log⟩
  · cases queue with
    | nil => exact h.set le_rfl rfl rfl (voiced.to .select trivial)
    | cons call rest =>
      have asks := voiced.queue call List.mem_cons_self
      have left : Session.Voiced env sid c.requests c.nextMessage e
          { station, commands, queue := rest, inFlight := none, phase, log } :=
        { voiced with queue := fun other mem => voiced.queue other (List.mem_cons_of_mem call mem) }
      unfold Server.pump
      dsimp only
      by_cases gone : call.reply ∈ c.gone
      · rw [if_pos gone]
        exact h.set le_rfl rfl rfl (left.note rfl)
      · rw [if_neg gone]
        refine h.set (Nat.le_succ _) rfl rfl ?_
        have later : Session.Voiced env sid c.requests (c.nextMessage + 1) e _ :=
          left.more (fun _ _ => id) (Nat.le_succ c.nextMessage) rfl (fun _ => id) fun _ => id
        refine later.to (.sending _ (some call)) ⟨asks, c.nextMessage + 1, le_rfl, rfl, ?_⟩
        intro other mem isCall same
        obtain ⟨n, bound, id⟩ := h.numbered other mem isCall
        have equal := messageId_injective (id.symm.trans same)
        omega
  · exact h.set le_rfl rfl rfl (voiced.to .select trivial)

theorem Voiced.command (h : Voiced env sid e c) (found : c.sessions sid = some s) :
    Voiced env sid e (c.command sid s) := by
  have voiced := h.session s found
  unfold Server.command
  rcases waiting : s.commands with _ | ⟨call | ⟨code, reason⟩, rest⟩
  · exact h
  · refine h.set le_rfl rfl rfl { voiced with queue := ?_, commands := ?_, phase := trivial }
    · intro other mem
      rcases List.mem_append.mp mem with old | new
      · exact voiced.queue other old
      · obtain rfl := List.mem_singleton.mp new
        exact voiced.commands _ (by simp [waiting])
    · intro other mem
      exact voiced.commands other (by simp [waiting, mem])
  · refine h.set le_rfl rfl rfl { voiced with commands := ?_, phase := trivial }
    intro other mem
    exact voiced.commands other (by simp [waiting, mem])

theorem Voiced.onText (h : Voiced env sid e c) (found : c.sessions sid = some s) {text : String} (known : e.heard text)
    (now : Nat) : Voiced env sid e (c.onText env sid s text now) := by
  have voiced := h.session s found
  unfold Server.onText
  cases parsed : Ws.Frame.parse env.fromStr text with
  | error error =>
    dsimp only
    cases replied : error.reply env.render with
    | none => exact h.set le_rfl rfl rfl (voiced.to .top trivial)
    | some frame =>
      have answer : frame.isCall = false := by
        obtain ⟨id, -, rfl⟩ := Option.map_eq_some_iff.mp replied
        rfl
      exact h.set le_rfl rfl rfl (voiced.to (.sending frame none) ⟨answer, text, known, .broken parsed replied⟩)
  | ok frame => exact h.set le_rfl rfl rfl (voiced.to (.received frame) ⟨text, known, parsed⟩)

/-- The caller of the CALL in flight gets what was heard. -/
theorem Session.Voiced.gives (h : s.Voiced env sid requests next e) {flight : InFlight} {frame : Ws.Frame} {text : String}
    (flying : s.inFlight = some flight) (same : flight.id = frame.id) (known : e.heard text)
    (parsed : Ws.Frame.parse env.fromStr text = .ok frame) (answer : frame.isCall = false) :
    ({ s with inFlight := none, phase := .top }.note
      (.answered frame.id (c.sent flight.reply (.answer frame)))).Voiced env sid requests next e := by
  have left : { s with inFlight := none, phase := .top }.Voiced env sid requests next e :=
    { h with phase := trivial, inFlight := nofun }
  by_cases gone : flight.reply ∈ c.gone
  · have unheard : c.sent flight.reply (.answer frame) = none := by simp [Server.sent, gone]
    rw [unheard]
    exact left.note rfl
  · have reached : c.sent flight.reply (.answer frame) = some (flight.reply, .answer frame) := by
      simp [Server.sent, gone]
    rw [reached]
    refine { left with answered := ?_ }
    intro entry mem
    rcases List.mem_cons.mp mem with rfl | old
    · obtain ⟨action, payload, asks, out⟩ := h.inFlight flight flying
      rw [same] at out
      exact ⟨action, payload, asks, out, text, frame, known, parsed, answer, rfl, rfl⟩
    · exact left.answered entry old

theorem Voiced.onFrame (h : Voiced env sid e c) (found : c.sessions sid = some s) {frame : Ws.Frame}
    (at' : s.phase = .received frame) (reply : Reply) (now : Nat) :
    Voiced env sid { e with decided := (frame, reply) :: e.decided } (c.onFrame env sid s frame reply now) := by
  have more : Voiced env sid { e with decided := (frame, reply) :: e.decided } c :=
    h.more rfl (List.subset_cons_self ..) fun _ => id
  have voiced := more.session s found
  obtain ⟨text, known, parsed⟩ : ∃ text, e.heard text ∧ Ws.Frame.parse env.fromStr text = .ok frame := by
    have phase := (h.session s found).phase
    rw [at'] at phase
    exact phase
  have stray (id : Ws.MessageId) : Voiced env sid { e with decided := (frame, reply) :: e.decided }
      (c.setSession sid ({ s with phase := .top }.note (.answered id none))) :=
    more.set le_rfl rfl rfl ((voiced.to .top trivial).note rfl)
  have answered (answer : frame.isCall = false) : Voiced env sid { e with decided := (frame, reply) :: e.decided }
      (c.onFrame env sid s frame reply now) := by
    rcases s with ⟨station, commands, queue, _ | flight, phase, log⟩
    · cases frame with
      | call message action payload => cases answer
      | callResult message payload => exact stray message
      | callError message code description details => exact stray message
    · by_cases same : flight.id = frame.id
      · cases frame with
        | call message action payload => cases answer
        | callResult message payload =>
          dsimp only [Server.onFrame]
          rw [if_pos same]
          exact more.set le_rfl rfl rfl (voiced.gives rfl same known parsed answer)
        | callError message code description details =>
          dsimp only [Server.onFrame]
          rw [if_pos same]
          exact more.set le_rfl rfl rfl (voiced.gives rfl same known parsed answer)
      · cases frame with
        | call message action payload => cases answer
        | callResult message payload =>
          dsimp only [Server.onFrame]
          rw [if_neg same]
          exact stray message
        | callError message code description details =>
          dsimp only [Server.onFrame]
          rw [if_neg same]
          exact stray message
  cases frame with
  | call message action payload =>
    cases reply with
    | result response =>
      exact more.set le_rfl rfl rfl (voiced.to (.sending _ none) ⟨rfl, text, known, .result parsed List.mem_cons_self⟩)
    | error code description =>
      exact more.set le_rfl rfl rfl (voiced.to (.sending _ none) ⟨rfl, text, known, .error parsed List.mem_cons_self⟩)
    | silence => exact more.set le_rfl rfl rfl (voiced.to .top trivial)
    | close => exact more.set le_rfl rfl rfl (voiced.to (.closing .injected) trivial)
  | callResult message payload => exact answered rfl
  | callError message code description details => exact answered rfl

/-- The session starts to write a frame. -/
theorem Voiced.record (h : Voiced env sid e c) (found : c.sessions sid = some s) {frame : Ws.Frame}
    {call : Option QueuedCall} (at' : s.phase = .sending frame call) (registry : Registry Reported) :
    Voiced env sid { e with written := frame :: e.written }
      (Server.setSession sid { s with phase := .writing frame call } { c with registry }) := by
  have voiced := h.session s found
  have phase := voiced.phase
  rw [at'] at phase
  have session (writing : Phase.Voiced env sid c.requests c.nextMessage { e with written := frame :: e.written }
      (.writing frame call)) : ∀ t, (Server.setSession sid { s with phase := .writing frame call }
        { c with registry }).sessions sid = some t → t.Voiced env sid c.requests c.nextMessage
          { e with written := frame :: e.written } := by
    intro t there
    obtain rfl := Server.setSession_only there
    refine ⟨voiced.queue, voiced.commands, writing, ?_, ?_⟩
    · intro flight flying
      obtain ⟨action, payload, asks, out⟩ := voiced.inFlight flight flying
      exact ⟨action, payload, asks, List.mem_cons_of_mem frame out⟩
    · intro entry mem
      obtain ⟨action, payload, asks, out, rest⟩ := voiced.answered entry mem
      exact ⟨action, payload, asks, List.mem_cons_of_mem frame out, rest⟩
  cases call with
  | none =>
    obtain ⟨answer, text, known, replies⟩ := phase
    refine ⟨?_, ?_, ?_, h.new, session trivial⟩
    · intro other mem isCall
      rcases List.mem_cons.mp mem with rfl | old
      · simp [answer] at isCall
      · exact h.numbered other old isCall
    · intro other mem other' mem' isCall isCall' same
      rcases List.mem_cons.mp mem with rfl | old
      · simp [answer] at isCall
      rcases List.mem_cons.mp mem' with rfl | old'
      · simp [answer] at isCall'
      exact h.once other old other' old' isCall isCall' same
    · intro other mem isAnswer
      rcases List.mem_cons.mp mem with rfl | old
      · exact ⟨text, known, replies⟩
      · exact h.wrote other old isAnswer
  | some call =>
    obtain ⟨asks, n, bound, rfl, fresh⟩ := phase
    refine ⟨?_, ?_, ?_, h.new, session ⟨asks, List.mem_cons_self⟩⟩
    · intro other mem isCall
      rcases List.mem_cons.mp mem with rfl | old
      · exact ⟨n, bound, rfl⟩
      · exact h.numbered other old isCall
    · intro other mem other' mem' isCall isCall' same
      rcases List.mem_cons.mp mem with rfl | old <;> rcases List.mem_cons.mp mem' with rfl | old'
      · rfl
      · exact absurd same.symm (fresh other' old' isCall')
      · exact absurd same (fresh other old isCall)
      · exact h.once other old other' old' isCall isCall' same
    · intro other mem isAnswer
      rcases List.mem_cons.mp mem with rfl | old
      · cases isAnswer
      · exact h.wrote other old isAnswer

theorem Voiced.written (h : Voiced env sid e c) (found : c.sessions sid = some s) {frame : Ws.Frame}
    {call : Option QueuedCall} (at' : s.phase = .writing frame call) (now : Nat) :
    Voiced env sid e (c.written sid s frame call now) := by
  have voiced := h.session s found
  have phase := voiced.phase
  rw [at'] at phase
  unfold Server.written
  cases call with
  | none => exact h.set le_rfl rfl rfl (voiced.to .top trivial)
  | some call =>
    obtain ⟨asks, out⟩ := phase
    have flies : Session.Voiced env sid c.requests c.nextMessage e { s with
        inFlight := some { id := frame.id, action := call.action, timeout := call.timeout, written := now
                           deadline := now + call.timeout, reply := call.reply }
        phase := .top } := by
      refine { voiced with phase := trivial, inFlight := ?_ }
      rintro flight ⟨⟩
      exact ⟨call.action, call.payload, asks, out⟩
    exact h.set le_rfl rfl rfl (flies.note rfl)

theorem Voiced.expireInFlight (h : Voiced env sid e c) (found : c.sessions sid = some s) (now : Nat) :
    Voiced env sid e (c.expireInFlight sid s now) := by
  have voiced := h.session s found
  unfold Server.expireInFlight
  cases flying : s.inFlight with
  | none => exact h
  | some flight =>
    dsimp only
    by_cases due : flight.deadline ≤ now
    · rw [if_pos due]
      have left : { s with inFlight := none, phase := .top }.Voiced env sid c.requests c.nextMessage e :=
        { voiced with phase := trivial, inFlight := nofun }
      exact h.set le_rfl rfl rfl (left.note rfl)
    · rw [if_neg due]
      exact h

theorem Voiced.dropReply (h : Voiced env sid e c) (id : SessionId) (caller : Caller) (action : String) :
    Voiced env sid e (Server.dropReply id c caller action) := by
  unfold Server.dropReply
  cases found : c.sessions id with
  | none => exact h
  | some s =>
    dsimp only
    by_cases same : id = sid
    · subst same
      exact h.set le_rfl rfl rfl ((h.session s found).note rfl)
    · exact h.aside le_rfl rfl rfl (Function.update_of_ne (Ne.symm same) ..)

theorem Voiced.endSession (h : Voiced env sid e c) {id : SessionId} (found : c.sessions id = some s)
    (reason : DisconnectReason) : Voiced env sid e (Server.endSession id s reason c) := by
  have begun : Voiced env sid e
      (c.setSession id { s with inFlight := none, queue := [], commands := [], phase := .ended reason }) := by
    by_cases same : id = sid
    · subst same
      refine h.set le_rfl rfl rfl ⟨nofun, nofun, trivial, nofun, (h.session s found).answered⟩
    · exact h.aside le_rfl rfl rfl (Function.update_of_ne (Ne.symm same) ..)
  have dropped (calls : List (Caller × String)) (c : Server Reported) (h : Voiced env sid e c) :
      Voiced env sid e (calls.foldl (fun c call => Server.dropReply id c call.1 call.2) c) := by
    induction calls generalizing c with
    | nil => exact h
    | cons call rest ih => exact ih _ (h.dropReply id call.1 call.2)
  have idle := dropped (Server.Session.calls s) _ begun
  unfold Server.endSession
  dsimp only
  revert idle
  generalize (Server.Session.calls s).foldl (fun c call => Server.dropReply id c call.1 call.2)
    (c.setSession id { s with inFlight := none, queue := [], commands := [], phase := .ended reason }) = c'
  intro idle
  cases there : c'.sessions id with
  | none => exact idle
  | some t =>
    by_cases same : id = sid
    · subst same
      exact idle.set le_rfl rfl rfl ((idle.session t there).note rfl)
    · exact idle.aside le_rfl rfl rfl (Function.update_of_ne (Ne.symm same) ..)

/-! ## The server -/

/-- A turn of another session. -/
theorem Voiced.turn_elsewhere (h : Voiced env sid e c) {id : SessionId} (found : c.sessions id = some s)
    (other : id ≠ sid) (turn : Turn) : Voiced env sid e (c.turn env id s turn) := by
  have away {c' : Server Reported} (later : c.nextMessage ≤ c'.nextMessage) (callers : c'.callers = c.callers)
      (requests : c'.requests = c.requests) (moved : ∃ t, c'.sessions = Function.update c.sessions id (some t)) :
      Voiced env sid e c' := by
    obtain ⟨t, sessions⟩ := moved
    refine h.aside later callers requests ?_
    rw [sessions, Function.update_of_ne (Ne.symm other)]
  unfold Server.turn
  split
  · unfold Server.pump
    split
    · split
      · exact away le_rfl rfl rfl ⟨_, rfl⟩
      · exact away (Nat.le_succ _) rfl rfl ⟨_, rfl⟩
    · exact away le_rfl rfl rfl ⟨_, rfl⟩
  · unfold Server.command
    split
    · exact h
    · exact away le_rfl rfl rfl ⟨_, rfl⟩
    · exact away le_rfl rfl rfl ⟨_, rfl⟩
  · unfold Server.onText
    split
    · dsimp only
      split <;> exact away le_rfl rfl rfl ⟨_, rfl⟩
    · exact away le_rfl rfl rfl ⟨_, rfl⟩
  · unfold Server.onFrame
    split
    · dsimp only
      split <;> exact away le_rfl rfl rfl ⟨_, rfl⟩
    · split
      · split <;> exact away le_rfl rfl rfl ⟨_, rfl⟩
      · exact away le_rfl rfl rfl ⟨_, rfl⟩
  · exact away le_rfl rfl rfl ⟨_, rfl⟩
  · unfold Server.written
    split <;> exact away le_rfl rfl rfl ⟨_, rfl⟩
  · unfold Server.expireInFlight
    split
    · exact h
    · split
      · exact away le_rfl rfl rfl ⟨_, rfl⟩
      · exact h
  · split
    · exact away le_rfl rfl rfl ⟨_, rfl⟩
    · exact h
  · split
    · exact h.endSession found _
    · exact h
  · exact away le_rfl rfl rfl ⟨_, rfl⟩
  · exact h

theorem Voiced.tellOld (h : Voiced env sid e c) (old : Option SessionId) (reason : String) :
    Voiced env sid e (c.tellOld old reason) := by
  cases old with
  | none => exact h
  | some id =>
    show Voiced env sid e (c.tell id (.close 1000 reason))
    unfold Server.tell
    cases found : c.sessions id with
    | none => exact h
    | some s =>
      dsimp only
      by_cases live : s.phase.live = true
      · rw [if_pos live]
        by_cases same : id = sid
        · subst same
          have voiced := h.session s found
          refine h.set le_rfl rfl rfl { voiced with commands := ?_ }
          intro call mem
          exact voiced.commands call (by simpa using mem)
        · exact h.aside le_rfl rfl rfl (Function.update_of_ne (Ne.symm same) ..)
      · rw [if_neg live]
        exact h

/-- A CALL is queued, with the record of it, or its future returns at once. -/
theorem Voiced.call (h : Voiced env sid e c) (station : StationId) (action : String) (payload : Json) (timeout : Nat) :
    Voiced env sid e (c.call station action payload timeout) := by
  have refused (result : CallResult) : Voiced env sid e
      { c with callers := c.callers + 1, returned := (c.callers, result) :: c.returned } := by
    refine { h with new := ?_ }
    intro caller above
    exact h.new caller (Nat.le_of_succ_le above)
  unfold Server.call
  dsimp only
  split
  · exact refused _
  · split
    · rename_i id s found
      obtain ⟨id', -, there⟩ := Option.bind_eq_some_iff.mp found
      obtain ⟨t, open', eq⟩ := Option.map_eq_some_iff.mp there
      obtain ⟨rfl, rfl⟩ := Prod.mk.inj eq
      by_cases live : t.phase.live = true
      · rw [if_pos live]
        have older (caller : Caller) (request : Request) (asked : c.requests caller = some request) :
            Function.update c.requests c.callers (some { session := id', station, action, payload }) caller =
              some request := by
          have differs : caller ≠ c.callers := by
            rintro rfl
            rw [h.new c.callers le_rfl] at asked
            cases asked
          rw [Function.update_of_ne differs, asked]
        refine ⟨h.numbered, h.once, h.wrote, ?_, ?_⟩
        · intro caller above
          have differs : caller ≠ c.callers := by
            rintro rfl
            exact absurd above (Nat.not_succ_le_self _)
          exact (Function.update_of_ne differs ..).trans (h.new caller (Nat.le_of_succ_le above))
        · intro u there
          by_cases same : id' = sid
          · subst same
            obtain rfl := Server.setSession_only there
            have voiced : t.Voiced env id' (Function.update c.requests c.callers
                (some { session := id', station, action, payload })) c.nextMessage e :=
              (h.session t open').more older le_rfl rfl (fun _ => id) fun _ => id
            have queued : Session.Voiced env id' (Function.update c.requests c.callers
                (some { session := id', station, action, payload })) c.nextMessage e { t with
                commands := t.commands ++ [SessionCmd.call
                  { action, payload, timeout := min timeout maxCallTimeout, reply := c.callers }] } := by
              refine { voiced with commands := ?_ }
              intro call mem
              rcases List.mem_append.mp mem with old | new
              · exact voiced.commands call old
              · obtain rfl := SessionCmd.call.inj (List.mem_singleton.mp new)
                exact ⟨station, Function.update_self ..⟩
            exact queued.note rfl
          · have there : c.sessions sid = some u :=
              (Function.update_of_ne (Ne.symm same) ..).symm.trans there
            exact (h.session u there).more older le_rfl rfl (fun _ => id) fun _ => id
      · rw [if_neg live]
        exact refused _
    · exact refused _

theorem Voiced.giveUp (h : Voiced env sid e c) (caller : Caller) : Voiced env sid e (c.giveUp caller) := by
  unfold Server.giveUp
  split
  · exact h
  · rename_i request asked
    split
    · exact h
    · dsimp only
      cases found : c.sessions request.session with
      | none => exact h.aside le_rfl rfl rfl rfl
      | some s =>
        dsimp only
        by_cases same : request.session = sid
        · rw [same] at found ⊢
          exact h.set le_rfl rfl rfl ((h.session s found).note rfl)
        · exact h.aside le_rfl rfl rfl (Function.update_of_ne (Ne.symm same) ..)

theorem Voiced.resume (h : Voiced env sid e c) (caller : Caller) (now : Nat) :
    Voiced env sid e (c.resume env caller now) := by
  unfold Server.resume
  split
  · split
    · exact h
    · dsimp only
      split
      · split <;> exact h.aside le_rfl rfl rfl rfl
      · exact h.aside le_rfl rfl rfl rfl
      · exact h.aside le_rfl rfl rfl rfl
      · exact h.aside le_rfl rfl rfl rfl
  · exact h

end KirbyOcpp.Csms

namespace KirbyOcpp.Conversation

open Csms

variable {Reported : Type} {env : Csms.Env Reported} {sid : SessionId} {heard : String → Prop}

/-- What passed at the session's end of the conversation. -/
def exchange (heard : String → Prop) (p : Conversation Reported) : Exchange where
  written := p.written
  decided := p.decided
  heard := heard

/-- Turns that are not kept in the records. -/
theorem noteCsms_quiet (p : Conversation Reported) {turn : Turn}
    (quiet : (∀ reply now, turn ≠ .handle reply now) ∧ ∀ now, turn ≠ .record now) :
    p.noteCsms sid (.session sid turn) = p := by
  cases turn <;> simp_all [noteCsms]

theorem csms_turn (p : Conversation Reported) (turn : Turn)
    (hears : ∀ text ∈ csmsHears sid (.session sid turn), heard text)
    (h : Voiced env sid (exchange heard p) p.csms) {s : Session} (found : p.csms.sessions sid = some s) :
    Voiced env sid (exchange heard (p.noteCsms sid (.session sid turn))) (p.csms.turn env sid s turn) := by
  have voiced := h.session s found
  cases turn with
  | handle reply now =>
    cases at' : s.phase with
    | received frame =>
      simp only [noteCsms, found, at', Server.turn, if_true, Option.map_some]
      exact h.onFrame found at' reply now
    | _ => simpa [noteCsms, found, at', Server.turn] using h
  | record now =>
    cases at' : s.phase with
    | sending frame call =>
      simp only [noteCsms, found, at', Server.turn, if_true, Option.map_some]
      exact h.record found at' _
    | _ => simpa [noteCsms, found, at', Server.turn] using h
  | pump =>
    rw [noteCsms_quiet p (by simp)]
    cases at' : s.phase with
    | top => simpa [Server.turn, at'] using h.pump found
    | _ => simpa [Server.turn, at'] using h
  | command =>
    rw [noteCsms_quiet p (by simp)]
    cases at' : s.phase with
    | select => simpa [Server.turn, at'] using h.command found
    | _ => simpa [Server.turn, at'] using h
  | inbound text now =>
    rw [noteCsms_quiet p (by simp)]
    cases at' : s.phase with
    | select => simpa [Server.turn, at'] using h.onText found (hears text (by simp [csmsHears])) now
    | _ => simpa [Server.turn, at'] using h
  | written now =>
    rw [noteCsms_quiet p (by simp)]
    cases at' : s.phase with
    | writing frame call => simpa [Server.turn, at'] using h.written found at' now
    | _ => simpa [Server.turn, at'] using h
  | deadline now =>
    rw [noteCsms_quiet p (by simp)]
    cases at' : s.phase with
    | select => simpa [Server.turn, at'] using h.expireInFlight found now
    | _ => simpa [Server.turn, at'] using h
  | stop =>
    rw [noteCsms_quiet p (by simp)]
    cases at' : s.phase with
    | select =>
      simp only [Server.turn, at']
      split
      · exact h.set le_rfl rfl rfl (voiced.to (.closing .shutdown) trivial)
      · exact h
    | _ => simpa [Server.turn, at'] using h
  | finish reason =>
    rw [noteCsms_quiet p (by simp)]
    simp only [Server.turn]
    split
    · exact h.endSession found reason
    · exact h
  | report now =>
    rw [noteCsms_quiet p (by simp)]
    cases at' : s.phase with
    | ended reason =>
      simp only [Server.turn, at']
      exact h.set le_rfl rfl rfl (voiced.to .reported trivial)
    | _ => simpa [Server.turn, at'] using h

/-- An input keeps what the session said in step with the records. -/
theorem csms_input (p : Conversation Reported) (input : Csms.Input) (hears : ∀ text ∈ csmsHears sid input, heard text)
    (h : Voiced env sid (exchange heard p) p.csms) :
    Voiced env sid (exchange heard (p.noteCsms sid input)) (p.csms.step env input) := by
  cases input with
  | register station peer subprotocol now =>
    show Voiced env sid (exchange heard p) _
    unfold Server.step
    dsimp only
    split
    · exact h
    · rename_i registry id old registered
      have visited : Voiced env sid (exchange heard p) { p.csms with registry } := h.aside le_rfl rfl rfl rfl
      have told := visited.tellOld old "replaced by a new connection"
      by_cases same : id = sid
      · subst same
        exact told.set le_rfl rfl rfl ⟨by simp, by simp, trivial, by simp, by simp [answersIn]⟩
      · exact told.aside le_rfl rfl rfl (Function.update_of_ne (Ne.symm same) ..)
  | forget station =>
    have visited : Voiced env sid (exchange heard p)
        { p.csms with registry := (p.csms.registry.forget station).1 } := h.aside le_rfl rfl rfl rfl
    exact visited.tellOld _ "station forgotten"
  | stop => exact h.aside le_rfl rfl rfl rfl
  | sweep now =>
    show Voiced env sid (exchange heard p) (if p.csms.registry.shutdown then _ else _)
    split
    · exact h.aside le_rfl rfl rfl rfl
    · exact h
  | call station action payload timeout => exact h.call station action payload timeout
  | giveUp caller => exact h.giveUp caller
  | resume caller now => exact h.resume caller now
  | session id turn =>
    by_cases same : id = sid
    · subst same
      cases found : p.csms.sessions id with
      | none =>
        have noted : p.noteCsms id (.session id turn) = p := by
          cases turn <;> simp [noteCsms, found]
        simpa only [noted, Server.step, found] using h
      | some s => simpa only [Server.step, found] using csms_turn p turn hears h found
    · have noted : p.noteCsms sid (.session id turn) = p := if_neg same
      rw [noted]
      cases found : p.csms.sessions id with
      | none => simpa only [Server.step, found] using h
      | some s => simpa only [Server.step, found] using h.turn_elsewhere found same turn

end KirbyOcpp.Conversation
