import KirbyOcpp.Laws.Conversation.Csms
import KirbyOcpp.Laws.Conversation.Station

/-!
# Answers reach their callers, from end to end

A caller at one end is given what the other end decided for the very CALL that it asked: its id, its action and its
payload. It does not matter which CALLs cross on the way, what times out, who gives up and whether texts are delayed,
swapped, repeated or lost.

**The law** `answers_matched`.
-/

namespace KirbyOcpp.Ws.Frame

/-- A frame that is written like a CALL is that CALL. -/
theorem toValue_call {frame : Frame} {id : MessageId} {action : String} {payload : Json}
    (same : (call id action payload).toValue = frame.toValue) : frame = call id action payload := by
  cases frame <;> simp_all [toValue]

/-- Frames that are written alike are CALLs or answers alike, with one id. -/
theorem toValue_like {frame other : Frame} (same : frame.toValue = other.toValue) :
    frame.isCall = other.isCall ∧ frame.id = other.id := by
  cases frame <;> cases other <;> simp_all [toValue, isCall, id]

/-- Why a written frame is refused and answered: it is a CALL without an object. -/
theorem tryFrom_refused {frame : Frame} {error : FrameError} {render : Json → String} {reply : Frame}
    (refused : tryFrom frame.toValue = .error error) (replied : error.reply render = some reply) :
    ∃ id action payload, frame = call id action payload ∧ (∀ fields, payload ≠ .object fields) ∧
      reply = Frame.error id .formationViolation "payload must be a JSON object" := by
  obtain ⟨id, broken, rfl⟩ := Option.map_eq_some_iff.mp replied
  obtain ⟨rest, starts⟩ := (tryFrom_error refused id).mp broken
  cases frame with
  | call id' action payload =>
    obtain rfl : id' = id := by
      simp only [toValue, Json.array.injEq, List.cons.injEq, Json.string.injEq] at starts
      exact starts.2.1
    have plain : ∀ fields, payload ≠ .object fields := by
      rintro fields rfl
      have encodable : (call id' action (.object fields)).Encodable := ⟨fields, rfl⟩
      rw [tryFrom_toValue encodable] at refused
      cases refused
    refine ⟨id', action, payload, rfl, plain, ?_⟩
    have kind : error.kind = .invalidField "payload" "a JSON object" := by
      cases payload with
      | object fields => exact absurd rfl (plain fields)
      | _ =>
        obtain rfl := Except.error.inj refused
        rfl
    rw [kind]
    rfl
  | callResult id' payload => simp [toValue] at starts
  | callError id' code description details => simp [toValue] at starts

end KirbyOcpp.Ws.Frame

namespace KirbyOcpp

open Ws (Json MessageId)
open Csms (Server SessionId Asks Voiced)

/-- The frame that the central system's decision for a CALL comes to. -/
def Csms.Reply.frame (id : MessageId) : Csms.Reply → Option Ws.Frame
  | .result payload => some (.callResult id payload)
  | .error code description => some (.error id code description)
  | .silence | .close => none

namespace Conversation

variable {Reported : Type} {station : Ws.Env} {csms : Csms.Env Reported} {sid : SessionId}
  {p : Conversation Reported}

/-- The answer to a CALL without an object. -/
def Broken (id : MessageId) (payload : Json) (frame : Ws.Frame) : Prop :=
  (∀ fields, payload ≠ .object fields) ∧ frame = .error id .formationViolation "payload must be a JSON object"

/-- The central system gave the frame for that CALL. -/
def CsmsGave (p : Conversation Reported) (id : MessageId) (action : String) (payload : Json) (frame : Ws.Frame) : Prop :=
  (∃ reply, (.call id action payload, reply) ∈ p.decided ∧ reply.frame id = some frame) ∨ Broken id payload frame

/-- The station gave the frame for that CALL: it stands for what the owner answered, or refuses the CALL. -/
def StationGave (station : Ws.Env) (p : Conversation Reported) (id : MessageId) (action : String) (payload : Json)
    (frame : Ws.Frame) : Prop :=
  (∃ answer, (id, answer) ∈ p.answers ∧ frame = station.checked action (answer.frame id)) ∨
    (∃ code description, Ws.Run.rejection station action payload = some (code, description) ∧
      frame = .error id code description) ∨
    Broken id payload frame

/-- What either end wrote is read at the other as it was written. -/
structure ReadsBack (station : Ws.Env) (csms : Csms.Env Reported) (p : Conversation Reported) : Prop where
  atCsms : ∀ frame ∈ p.station.wire, csms.fromStr (station.render frame.toValue) = .ok frame.toValue
  atStation : ∀ frame ∈ p.written, station.fromStr (csms.render frame.toValue) = .ok frame.toValue

/-- Both ends are in step with the records. -/
structure InStep (station : Ws.Env) (csms : Csms.Env Reported) (sid : SessionId) (p : Conversation Reported) :
    Prop where
  spoken : Ws.Spoken station p.asked p.answers (· ∈ p.toStation csms) [] p.station
  voiced : Voiced csms sid (exchange (· ∈ p.toCsms station) p) p.csms

theorem noteStation_written (p : Conversation Reported) (input : Ws.Run.Input) :
    (p.noteStation input).written = p.written ∧ (p.noteStation input).decided = p.decided ∧
      (p.noteStation input).csms = p.csms := by
  cases input with
  | submit action payload timeout =>
    unfold noteStation
    dsimp only
    split <;> exact ⟨rfl, rfl, rfl⟩
  | giveUp | answer | close | turn => exact ⟨rfl, rfl, rfl⟩

theorem noteCsms_station (sid : Nat) (p : Conversation Reported) (input : Csms.Input) :
    p.written ⊆ (p.noteCsms sid input).written ∧ (p.noteCsms sid input).asked = p.asked ∧
      (p.noteCsms sid input).answers = p.answers ∧ (p.noteCsms sid input).station = p.station := by
  unfold noteCsms
  split
  · split
    · split
      · exact ⟨fun _ => id, rfl, rfl, rfl⟩
      · exact ⟨List.subset_cons_self .., rfl, rfl, rfl⟩
      · exact ⟨fun _ => id, rfl, rfl, rfl⟩
    · exact ⟨fun _ => id, rfl, rfl, rfl⟩
  · exact ⟨fun _ => id, rfl, rfl, rfl⟩

theorem InStep.step (h : InStep station csms sid p) (fresh : Function.Injective station.newV4) (input : Input) :
    InStep station csms sid (p.step station csms sid input) := by
  cases input with
  | station input =>
    unfold Conversation.step
    dsimp only
    by_cases hears : (stationHears input).all (· ∈ p.toStation csms) = true
    · rw [if_pos hears]
      have heard : ∀ text ∈ stationHears input, text ∈ p.toStation csms := by
        intro text brought
        simpa [Option.mem_def.mp brought] using hears
      obtain ⟨written, decided, same⟩ := noteStation_written p input
      have spoken := station_input fresh p input heard
        { h.spoken with kept := List.Subset.refl p.station.wire }
      constructor
      · have texts : ∀ text, text ∈ p.toStation csms → text ∈
            toStation csms { p.noteStation input with station := p.station.input station input } := by
          intro text mem
          simpa [toStation, written] using mem
        exact { spoken.more (fun _ => id) texts with kept := List.nil_subset _ }
      · have heard : ∀ text, text ∈ p.toCsms station → text ∈
            toCsms station { p.noteStation input with station := p.station.input station input } := by
          intro text mem
          obtain ⟨frame, out, rfl⟩ := List.mem_map.mp mem
          exact List.mem_map.mpr ⟨frame, spoken.kept out, rfl⟩
        have voiced : Voiced csms sid (exchange (· ∈ toCsms station
            { p.noteStation input with station := p.station.input station input }) (p.noteStation input)) p.csms :=
          h.voiced.more written (by simp [exchange, decided]) heard
        rw [← same] at voiced
        exact voiced
    · rw [if_neg hears]
      exact h
  | csms input =>
    unfold Conversation.step
    dsimp only
    by_cases hears : (csmsHears sid input).all (· ∈ p.toCsms station) = true
    · rw [if_pos hears]
      have heard : ∀ text ∈ csmsHears sid input, text ∈ p.toCsms station := by
        intro text brought
        simpa [Option.mem_def.mp brought] using hears
      obtain ⟨written, asked, answers, same⟩ := noteCsms_station sid p input
      have voiced := csms_input p input heard h.voiced
      constructor
      · have texts : ∀ text, text ∈ p.toStation csms → text ∈
            toStation csms { p.noteCsms sid input with csms := p.csms.step csms input } := by
          intro text mem
          obtain ⟨frame, out, rfl⟩ := List.mem_map.mp mem
          exact List.mem_map.mpr ⟨frame, written out, rfl⟩
        have spoken := h.spoken.more (fun _ => id) texts
        rw [← asked, ← answers, ← same] at spoken
        exact spoken
      · have texts : ∀ text, text ∈ p.toCsms station → text ∈
            toCsms station { p.noteCsms sid input with csms := p.csms.step csms input } := by
          intro text mem
          simpa [toCsms, same] using mem
        exact voiced.more rfl (fun _ => id) texts
    · rw [if_neg hears]
      exact h

theorem InStep.run (h : InStep station csms sid p) (fresh : Function.Injective station.newV4) (inputs : List Input) :
    InStep station csms sid (p.run station csms sid inputs) := by
  induction inputs generalizing p with
  | nil => exact h
  | cons input rest ih => exact ih (h.step fresh input)

theorem inStep_start (station : Ws.Env) (csms : Csms.Env Reported) (sid : SessionId) (showSecrets : Bool)
    (config : Csms.CsmsConfig) : InStep station csms sid (start showSecrets config) where
  spoken := by constructor <;> simp [start, answersIn]
  voiced := by constructor <;> simp [start, exchange]

/-! ## The law -/

/-- What a text is at the end that hears it. -/
theorem parse_read {fromStr : String → Except String Json} {text : String} {frame got : Ws.Frame}
    (reads : fromStr text = .ok frame.toValue) (parsed : Ws.Frame.parse fromStr text = .ok got) :
    got.toValue = frame.toValue := by
  rw [Ws.Frame.parse, reads] at parsed
  exact (Ws.Frame.tryFrom_ok parsed).2

theorem means_answer {action : String} {got : Ws.Frame} {result : Ws.CallResult} (means : Ws.Means station action got result) :
    got.isCall = false := by
  cases means <;> rfl

/-- The answer that the station hears was given for the CALL that it wrote under that id. -/
theorem csms_gave (h : InStep station csms sid p) (reads : ReadsBack station csms p) {frame : Ws.Frame}
    (written : frame ∈ p.written) (answer : frame.isCall = false) {action : String} {payload : Json}
    (out : .call frame.id action payload ∈ p.station.wire) : CsmsGave p frame.id action payload frame := by
  obtain ⟨text, known, replies⟩ := h.voiced.wrote frame written answer
  obtain ⟨call, crossed, rfl⟩ := List.mem_map.mp known
  have read := reads.atCsms call crossed
  cases replies with
  | @result id action' payload' response parsed chosen =>
    obtain rfl := Ws.Frame.toValue_call (parse_read read parsed)
    obtain ⟨-, rfl, rfl⟩ := Ws.Frame.call.inj (h.spoken.once _ crossed _ out rfl rfl rfl)
    exact .inl ⟨.result response, chosen, rfl⟩
  | @error id action' payload' code description parsed chosen =>
    obtain rfl := Ws.Frame.toValue_call (parse_read read parsed)
    obtain ⟨-, rfl, rfl⟩ := Ws.Frame.call.inj (h.spoken.once _ crossed _ out rfl rfl rfl)
    exact .inl ⟨.error code description, chosen, rfl⟩
  | broken parsed replied =>
    rw [Ws.Frame.parse, read] at parsed
    obtain ⟨id, action', payload', rfl, plain, rfl⟩ := Ws.Frame.tryFrom_refused parsed replied
    obtain ⟨-, rfl, rfl⟩ := Ws.Frame.call.inj (h.spoken.once _ crossed _ out rfl rfl rfl)
    exact .inr ⟨plain, rfl⟩

theorem checked_id {action : String} {frame : Ws.Frame} (answer : frame.isCall = false) :
    (station.checked action frame).id = frame.id := by
  cases frame with
  | call id action payload => cases answer
  | callResult id payload =>
    unfold Ws.Env.checked
    dsimp only
    split <;> rfl
  | callError id code description details => rfl

/-- The answer that the session hears was given for the CALL that it wrote under that id. -/
theorem station_gave (h : InStep station csms sid p) (reads : ReadsBack station csms p) {frame : Ws.Frame}
    (wire : frame ∈ p.station.wire) (answer : frame.isCall = false) {action : String} {payload : Json}
    (out : .call frame.id action payload ∈ p.written) : StationGave station p frame.id action payload frame := by
  obtain ⟨text, known, replies⟩ := h.spoken.wrote frame wire answer
  obtain ⟨call, crossed, rfl⟩ := List.mem_map.mp known
  have read := reads.atStation call crossed
  cases replies with
  | @answered id action' payload' answer' parsed given =>
    obtain rfl := Ws.Frame.toValue_call (parse_read read parsed)
    have same : (station.checked action' (answer'.frame id)).id = id := by
      rw [checked_id (by cases answer' <;> rfl)]
      cases answer' <;> rfl
    rw [same] at out ⊢
    obtain ⟨-, rfl, rfl⟩ := Ws.Frame.call.inj (h.voiced.once _ crossed _ out rfl rfl rfl)
    exact .inl ⟨answer', given, rfl⟩
  | @rejected id action' payload' code description parsed refused =>
    obtain rfl := Ws.Frame.toValue_call (parse_read read parsed)
    obtain ⟨-, rfl, rfl⟩ := Ws.Frame.call.inj (h.voiced.once _ crossed _ out rfl rfl rfl)
    exact .inr (.inl ⟨code, description, refused, rfl⟩)
  | broken parsed replied =>
    rw [Ws.Frame.parse, read] at parsed
    obtain ⟨id, action', payload', rfl, plain, rfl⟩ := Ws.Frame.tryFrom_refused parsed replied
    obtain ⟨-, rfl, rfl⟩ := Ws.Frame.call.inj (h.voiced.once _ crossed _ out rfl rfl rfl)
    exact .inr (.inr ⟨plain, rfl⟩)

/-- **Answers reach their callers.** Whatever happens at both ends and between them, each answer that a caller of the
station got was given by the central system for the CALL of that caller, and each answer that a caller of the central
system got was given by the station for the CALL of that one. -/
theorem answers_matched (station : Ws.Env) (csms : Csms.Env Reported) (sid : SessionId) (showSecrets : Bool)
    (config : Csms.CsmsConfig) (inputs : List Input) (fresh : Function.Injective station.newV4)
    (reads : ReadsBack station csms ((start showSecrets config).run station csms sid inputs)) :
    let p := (start showSecrets config).run station csms sid inputs
    (∀ id caller result, (id, caller, result) ∈ answersIn p.station.log →
      ∃ action payload frame got, p.asked[caller]? = some (action, payload) ∧
        .call id action payload ∈ p.station.wire ∧ frame ∈ p.written ∧ CsmsGave p id action payload frame ∧
        got.toValue = frame.toValue ∧ Ws.Means station action got result) ∧
    ∀ s, p.csms.sessions sid = some s → ∀ id caller result, (id, caller, result) ∈ answersIn s.log →
      ∃ action payload frame got, Asks p.csms.requests sid caller action payload ∧
        .call id action payload ∈ p.written ∧ frame ∈ p.station.wire ∧ StationGave station p id action payload frame ∧
        got.toValue = frame.toValue ∧ result = .answer got := by
  intro p
  have step : InStep station csms sid p := (inStep_start station csms sid showSecrets config).run fresh inputs
  constructor
  · intro id caller result given
    obtain ⟨action, payload, asks, out, text, got, known, parsed, same, means⟩ :=
      step.spoken.answered (id, caller, result) given
    obtain ⟨frame, written, rfl⟩ := List.mem_map.mp known
    have like := parse_read (reads.atStation frame written) parsed
    obtain ⟨isCall, ids⟩ := Ws.Frame.toValue_like like
    have answer : frame.isCall = false := isCall.symm.trans (means_answer means)
    obtain rfl : frame.id = id := ids.symm.trans same
    exact ⟨action, payload, frame, got, asks, out, written, csms_gave step reads written answer out, like, means⟩
  · intro s found id caller result given
    obtain ⟨action, payload, asks, out, text, got, known, parsed, noCall, same, is⟩ :=
      (step.voiced.session s found).answered (id, caller, result) given
    obtain ⟨frame, wire, rfl⟩ := List.mem_map.mp known
    have like := parse_read (reads.atCsms frame wire) parsed
    obtain ⟨isCall, ids⟩ := Ws.Frame.toValue_like like
    have answer : frame.isCall = false := isCall.symm.trans noCall
    obtain rfl : frame.id = id := ids.symm.trans same
    exact ⟨action, payload, frame, got, asks, out, wire, station_gave step reads wire answer out, like, is⟩

/-- The frames of the conversation below. -/
def bootCall : Ws.Frame := .call "a" "Heartbeat" (.object [])
def bootResult : Ws.Frame := .callResult "a" (.object [("currentTime", .string "2025-01-01T00:00:00Z")])
def clearCall : Ws.Frame := .call "csms-1" "ClearCache" (.object [])
def clearResult : Ws.Frame := .callResult "csms-1" (.object [("status", .string "Accepted")])

/-- The texts of these frames. -/
def texts : List (String × Ws.Frame) :=
  [("[2,\"a\",\"Heartbeat\",\x7b\x7d]", bootCall),
    ("[3,\"a\",\x7b\"currentTime\":\"2025-01-01T00:00:00Z\"\x7d]", bootResult),
    ("[2,\"csms-1\",\"ClearCache\",\x7b\x7d]", clearCall),
    ("[3,\"csms-1\",\x7b\"status\":\"Accepted\"\x7d]", clearResult)]

def readText (text : String) : Except String Json :=
  match texts.lookup text with
  | some frame => .ok frame.toValue
  | none => .error "expected value at line 1 column 1"

def renderText : Json → String
  | .array [.integer 2, .string "a", _, _] => "[2,\"a\",\"Heartbeat\",\x7b\x7d]"
  | .array [.integer 3, .string "a", _] => "[3,\"a\",\x7b\"currentTime\":\"2025-01-01T00:00:00Z\"\x7d]"
  | .array [.integer 2, .string "csms-1", _, _] => "[2,\"csms-1\",\"ClearCache\",\x7b\x7d]"
  | .array [.integer 3, .string "csms-1", _] => "[3,\"csms-1\",\x7b\"status\":\"Accepted\"\x7d]"
  | _ => "null"

def aStation : Ws.Env where
  fromStr := readText
  render := renderText
  knowsAction action := action == "ClearCache"
  validateRequest _ _ := .ok ()
  validateResponse _ _ := .ok ()
  newV4 n := String.ofList (List.replicate (n + 1) 'a')
  latest := 2 ^ 63

theorem aStation_fresh : Function.Injective aStation.newV4 := by
  intro n m same
  have lists := String.ofList_inj.mp same
  simpa using congrArg List.length lists

def aCsms : Csms.Env Unit where
  fromStr := readText
  render := renderText
  unreported := ()
  apply _ _ _ _ state := (state, false)
  certificateType _ := none
  installed _ := none

def turnOf (turn : Csms.Turn) : Input := .csms (.session 1 turn)

def hearsFrame (frame : Ws.Frame) : Input :=
  .station (.turn (.socket (some (.ok (.text (renderText frame.toValue))))) 0 [] (none, ""))

/-- The CALLs cross: each end writes its own before it hears the other. -/
def crossing : List Input :=
  [.csms (.register "CP1" "192.0.2.1" none 0), .station (.submit "Heartbeat" (.object []) 30),
    .csms (.call "CP1" "ClearCache" (.object []) 30),
    .station (.turn .commands 0 [] (none, "")),
    turnOf .pump, turnOf .command, turnOf .pump, turnOf (.record 0), turnOf (.written 0), turnOf .pump,
    turnOf (.inbound (renderText bootCall.toValue) 0),
    turnOf (.handle (.result (.object [("currentTime", .string "2025-01-01T00:00:00Z")])) 0),
    turnOf (.record 0), turnOf (.written 0), turnOf .pump,
    hearsFrame clearCall, hearsFrame bootResult,
    .station (.answer "csms-1" (.accept (.object [("status", .string "Accepted")]))),
    .station (.turn .replies 0 [] (none, "")),
    turnOf (.inbound (renderText clearResult.toValue) 0), turnOf (.handle .silence 0)]

def crossed : Conversation Unit := (start true {}).run aStation aCsms 1 crossing

theorem crossed_wire : crossed.station.wire = [clearResult, bootCall] := rfl

theorem crossed_written : crossed.written = [bootResult, clearCall] := rfl

theorem answers_matched_crossed :
    (∃ frame ∈ crossed.written, CsmsGave crossed "a" "Heartbeat" (.object []) frame) ∧
      ∃ frame ∈ crossed.station.wire, StationGave aStation crossed "csms-1" "ClearCache" (.object []) frame := by
  have reads : ReadsBack aStation aCsms crossed := by
    constructor
    · rw [crossed_wire]
      intro frame mem
      rcases List.mem_pair.mp mem with rfl | rfl <;> rfl
    · rw [crossed_written]
      intro frame mem
      rcases List.mem_pair.mp mem with rfl | rfl <;> rfl
  have matched := answers_matched aStation aCsms 1 true {} crossing aStation_fresh reads
  constructor
  · have given : ("a", 0, .ok (.object [("currentTime", .string "2025-01-01T00:00:00Z")])) ∈
        answersIn crossed.station.log := List.mem_singleton.mpr rfl
    obtain ⟨action, payload, frame, got, asks, -, written, gave, -, -⟩ := matched.1 _ _ _ given
    obtain ⟨rfl, rfl⟩ : action = "Heartbeat" ∧ payload = .object [] := Prod.mk.inj (Option.some.inj asks.symm)
    exact ⟨frame, written, gave⟩
  · obtain ⟨s, found, log⟩ : ∃ s, crossed.csms.sessions 1 = some s ∧
        answersIn s.log = [("csms-1", 0, .answer clearResult)] := ⟨_, rfl, rfl⟩
    obtain ⟨action, payload, frame, got, -, out, wire, gave, -⟩ :=
      matched.2 s found "csms-1" 0 (.answer clearResult) (by rw [log]; exact List.mem_singleton.mpr rfl)
    have call : .call "csms-1" action payload = clearCall := by
      have out : .call "csms-1" action payload ∈ crossed.written := out
      rw [crossed_written] at out
      rcases List.mem_pair.mp out with other | is
      · cases other
      · exact is
    obtain ⟨-, rfl, rfl⟩ := Ws.Frame.call.inj call
    exact ⟨frame, wire, gave⟩

end Conversation

end KirbyOcpp
