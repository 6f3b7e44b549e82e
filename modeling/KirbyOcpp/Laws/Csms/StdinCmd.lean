import KirbyOcpp.Csms.StdinCmd

/-!
# Every line of the input gets its answer

How the system cuts the input into reads plays no part: what `readLines` sends is what splitting the whole input at
its newlines gives, with a line beyond the limit named and not kept.

**The laws** `input_read` and `answers_tagged`.
-/

namespace KirbyOcpp.Csms.StdinCmd

open Ws (Json Frame)

variable {limit : Nat}

/-! ## The input as a whole -/

/-- The bytes that the reads give up to the end of the input or a failure, and whether it was the end. -/
def readBytes : List Read → List UInt8 × Bool
  | [] => ([], true)
  | .data [] :: _ => ([], true)
  | .data (byte :: bytes) :: source => (byte :: bytes ++ (readBytes source).1, (readBytes source).2)
  | .interrupted :: source => readBytes source
  | .failed :: _ => ([], false)

/-- What is left to read of the input. -/
def Reader.bytes (r : Reader) : List UInt8 := r.buffer ++ (readBytes r.source).1

/-- A line as it is sent. -/
def itemOf (limit : Nat) (line : List UInt8) : Item := if line.length ≤ limit then .line line else .tooLong

/-- The items of an input: its lines, and what is after the last newline if the input ends there. -/
def plainItems (limit : Nat) (bytes : List UInt8) (complete : Bool) : List Item :=
  let lines := bytes.splitOn newline
  let last := lines.getLast?.getD []
  lines.dropLast.map (itemOf limit) ++ if complete && !last.isEmpty then [itemOf limit last] else []

/-- The items that are sent: all of them, or those up to the first that was not taken. -/
def deliver (send : List Item → Bool) : List Item → List Item → List Item
  | [], sent => sent
  | item :: items, sent =>
    if send (sent ++ [item]) then deliver send items (sent ++ [item]) else sent ++ [item]

theorem plainItems_line {line : List UInt8} (plain : newline ∉ line) (rest : List UInt8) (complete : Bool) :
    plainItems limit (line ++ newline :: rest) complete = itemOf limit line :: plainItems limit rest complete := by
  have some : rest.splitOn newline ≠ [] := List.splitOn_ne_nil _ _
  simp only [plainItems, List.splitOn_append_cons_self_of_not_mem plain]
  rw [List.dropLast_cons_of_ne_nil some, List.getLast?_cons_of_ne_nil some]
  rfl

theorem plainItems_rest {line : List UInt8} (plain : newline ∉ line) (complete : Bool) :
    plainItems limit line complete = if complete && !line.isEmpty then [itemOf limit line] else [] := by
  simp [plainItems, List.splitOn_eq_singleton plain]

/-! ## One turn -/

/-- What is kept of the line that is being read. -/
structure Partial.Holds (p : Partial limit) (seen : List UInt8) : Prop where
  plain : newline ∉ seen
  tooLong : p.tooLong = decide (limit < seen.length)
  line : p.tooLong = false → p.line = seen

theorem Partial.empty_holds : (Partial.empty : Partial limit).Holds [] where
  plain := by simp
  tooLong := by simp [Partial.empty]
  line _ := rfl

theorem Partial.Holds.extend {p : Partial limit} {seen part : List UInt8} (holds : p.Holds seen)
    (plain : newline ∉ part) : (p.extend part).Holds (seen ++ part) where
  plain := by simp [holds.plain, plain]
  tooLong := by
    by_cases long : p.tooLong = true
    · have past := holds.tooLong
      rw [long, eq_comm, decide_eq_true_iff] at past
      have further : limit < seen.length + part.length := by omega
      simp [Partial.extend, long, further]
    · have same := holds.line (by simpa using long)
      by_cases fits : p.line.length + part.length ≤ limit
      · simp [Partial.extend, long, fits, ← same]
      · simp only [Partial.extend, long, fits]
        simp [← same]
        omega
  line kept := by
    by_cases long : p.tooLong = true
    · simp [Partial.extend, long] at kept
    · have same := holds.line (by simpa using long)
      by_cases fits : p.line.length + part.length ≤ limit
      · simp only [Partial.extend, long, fits, dif_pos]
        simp [same]
      · simp [Partial.extend, long, fits] at kept

theorem Partial.Holds.item {p : Partial limit} {seen : List UInt8} (holds : p.Holds seen) :
    p.item = itemOf limit seen := by
  by_cases long : limit < seen.length
  · have past : p.tooLong = true := by simpa [long] using holds.tooLong
    simp [Partial.item, itemOf, past, long]
  · have short : p.tooLong = false := by simpa [long] using holds.tooLong
    simp [Partial.item, itemOf, short, holds.line short, Nat.not_lt.mp long]

theorem fillBuf_bytes (r : Reader) :
    match r.fillBuf with
    | (.chunk [], _) => r.bytes = [] ∧ (readBytes r.source).2 = true
    | (.chunk (byte :: rest), r') => r'.buffer = byte :: rest ∧ r'.bytes = r.bytes ∧
        (readBytes r'.source).2 = (readBytes r.source).2
    | (.interrupted, r') => r'.bytes = r.bytes ∧ (readBytes r'.source).2 = (readBytes r.source).2
    | (.failed, _) => r.bytes = [] ∧ (readBytes r.source).2 = false := by
  rcases r with ⟨_ | ⟨byte, buffer⟩, _ | ⟨_ | _ | _, source⟩⟩
  all_goals try simp [Reader.fillBuf, Reader.bytes, readBytes]
  rename_i bytes
  cases bytes <;> simp [readBytes]

/-- Up to its first newline, or all of it. -/
theorem firstPart_cases (chunk : List UInt8) :
    (∃ part rest, chunk = part ++ newline :: rest ∧ newline ∉ part ∧ firstPart chunk = (part, true)) ∨
      (newline ∉ chunk ∧ firstPart chunk = (chunk, false)) := by
  cases found : chunk.idxOf? newline with
  | none => exact .inr ⟨List.idxOf?_eq_none_iff.mp found, by simp [firstPart, found]⟩
  | some i =>
    obtain ⟨bound, at', before⟩ := List.idxOf?_eq_some_iff.mp found
    refine .inl ⟨chunk.take i, chunk.drop (i + 1), ?_, ?_, by simp [firstPart, found]⟩
    · rw [← at', ← List.drop_eq_getElem_cons bound, List.take_append_drop]
    · intro mem
      obtain ⟨j, short, eq⟩ := List.mem_iff_getElem.mp mem
      have earlier : j < i := by
        rw [List.length_take] at short
        omega
      exact before j earlier (by simpa using eq)

/-- A complete line of the buffer is the first item. -/
theorem line_items (limit : Nat) {r r' : Reader} {byte : UInt8} {rest seen : List UInt8}
    (filled : r.fillBuf = (.chunk (byte :: rest), r')) (ended : (firstPart (byte :: rest)).2 = true)
    (plain : newline ∉ seen) :
    newline ∉ (firstPart (byte :: rest)).1 ∧
      plainItems limit (seen ++ r.bytes) (readBytes r.source).2 =
        itemOf limit (seen ++ (firstPart (byte :: rest)).1) ::
          plainItems limit (r'.consume ((firstPart (byte :: rest)).1.length + 1)).bytes (readBytes r'.source).2 := by
  have same := fillBuf_bytes r
  rw [filled] at same
  obtain ⟨buffer, bytes, complete⟩ := same
  rcases firstPart_cases (byte :: rest) with ⟨part, after, split, clean, first⟩ | ⟨-, first⟩
  · rw [first]
    refine ⟨clean, ?_⟩
    have line : newline ∉ seen ++ part := by simp [plain, clean]
    have left : (r'.consume (part.length + 1)).bytes = after ++ (readBytes r'.source).1 := by
      simp [Reader.consume, Reader.bytes, buffer, split]
    rw [left, ← complete, ← plainItems_line line, ← bytes, Reader.bytes, buffer, split]
    simp
  · simp [first] at ended

/-- Whatever the system gives at a time, what is sent is what the lines of the whole input are. -/
theorem readLines_eq (send : List Item → Bool) (r : Reader) (p : Partial limit) (sent : List Item)
    {seen : List UInt8} (holds : p.Holds seen) :
    readLines limit send r p sent =
      deliver send (plainItems limit (seen ++ r.bytes) (readBytes r.source).2) sent := by
  -- `seen` is what the source has dropped from its reader since the last newline.
  fun_induction readLines limit send r p sent generalizing seen with
  | case1 r p sent r' filled ih =>
    have same := fillBuf_bytes r
    rw [filled] at same
    rw [ih holds, same.1, same.2]
  | case2 r p sent r' filled =>
    have same := fillBuf_bytes r
    rw [filled] at same
    rw [same.1, same.2, List.append_nil, plainItems_rest holds.plain]
    rfl
  | case3 r p sent r' filled long =>
    have last := fillBuf_bytes r
    rw [filled] at last
    have past := holds.tooLong
    rw [long, eq_comm, decide_eq_true_iff] at past
    have some : seen ≠ [] := by
      rintro rfl
      simp at past
    rw [last.1, last.2, List.append_nil, plainItems_rest holds.plain, ← holds.item]
    simp [some, deliver, Partial.item, long]
  | case4 r p sent r' filled short none =>
    have last := fillBuf_bytes r
    rw [filled] at last
    have empty : seen = [] := by simpa [holds.line (by simpa using short)] using none
    rw [last.1, last.2, List.append_nil, plainItems_rest holds.plain]
    simp [empty, deliver]
  | case5 r p sent r' filled short some =>
    have last := fillBuf_bytes r
    rw [filled] at last
    have left : seen ≠ [] := by simpa [holds.line (by simpa using short)] using some
    rw [last.1, last.2, List.append_nil, plainItems_rest holds.plain, ← holds.item]
    simp [left, deliver, Partial.item, short]
  | case6 r p sent byte rest r' filled part p' ended sent' taken =>
    rename_i ih
    obtain ⟨clean, items⟩ := line_items limit filled ended holds.plain
    rw [ih Partial.empty_holds, items, deliver, ← (holds.extend clean).item, if_pos taken]
    rfl
  | case7 r p sent byte rest r' filled part p' ended sent' =>
    rename_i refused
    obtain ⟨clean, items⟩ := line_items limit filled ended holds.plain
    rw [items, deliver, ← (holds.extend clean).item, if_neg refused]
  | case8 r p sent byte rest r' filled part p' going =>
    rename_i ih
    have same := fillBuf_bytes r
    rw [filled] at same
    obtain ⟨buffer, bytes, complete⟩ := same
    rcases firstPart_cases (byte :: rest) with ⟨part', after, -, -, first⟩ | ⟨clean, first⟩
    · simp [first] at going
    · have whole : part = byte :: rest := by simp [part, first]
      have left : (r'.consume part.length).bytes = (readBytes r'.source).1 := by
        simp [Reader.consume, Reader.bytes, buffer, whole]
      have seen' : newline ∉ part := by rwa [whole]
      rw [ih (holds.extend seen'), left, ← bytes, ← complete, Reader.bytes, buffer, whole, List.append_assoc]
      rfl

/-! ## The input -/

theorem deliver_all (items sent : List Item) : deliver (fun _ => true) items sent = sent ++ items := by
  induction items generalizing sent with
  | nil => simp [deliver]
  | cons item items ih => simp [deliver, ih]

theorem deliver_starts (send : List Item → Bool) (items sent : List Item) :
    deliver send items sent <+: sent ++ items := by
  induction items generalizing sent with
  | nil => simp [deliver]
  | cons item items ih =>
    by_cases taken : send (sent ++ [item]) = true
    · simpa [deliver, taken] using ih (sent ++ [item])
    · simp [deliver, taken]

theorem plainItems_lines {lines : List (List UInt8)} (plain : ∀ line ∈ lines, newline ∉ line) (complete : Bool) :
    plainItems limit (lines.flatMap fun line => line ++ [newline]) complete = lines.map (itemOf limit) := by
  induction lines with
  | nil => simp [plainItems]
  | cons line lines ih =>
    have rest := ih fun other mem => plain other (List.mem_cons_of_mem _ mem)
    rw [List.flatMap_cons, List.append_assoc, List.singleton_append, plainItems_line (plain line (by simp)), rest,
      List.map_cons]

theorem itemOf_line {line seen : List UInt8} (plain : newline ∉ seen) (sent : .line line = itemOf limit seen) :
    line.length ≤ limit ∧ newline ∉ line := by
  by_cases short : seen.length ≤ limit
  · obtain rfl : line = seen := by simpa [itemOf, short] using sent
    exact ⟨short, plain⟩
  · simp [itemOf, short] at sent

/-- A line that is sent is short and complete. -/
theorem plainItems_sound {bytes line : List UInt8} {complete : Bool}
    (mem : .line line ∈ plainItems limit bytes complete) : line.length ≤ limit ∧ newline ∉ line := by
  rcases firstPart_cases bytes with ⟨part, rest, split, plain, -⟩ | ⟨plain, -⟩
  · rw [split, plainItems_line plain, List.mem_cons] at mem
    rcases mem with first | later
    · exact itemOf_line plain first
    · exact plainItems_sound later
  · rw [plainItems_rest plain] at mem
    by_cases some : (complete && !bytes.isEmpty) = true
    · exact itemOf_line plain (by simpa [some] using mem)
    · simp [some] at mem
termination_by bytes.length
decreasing_by
  rw [split, List.length_append, List.length_cons]
  omega

/-- How the reader thread reads its input. -/
structure InputRead (limit : Nat) (source : List Read) : Prop where
  /-- What is sent depends on the bytes of the input only, not on how they come. If the receiver goes away, it is
  the beginning of that. -/
  plain : ∀ send, readLines limit send { source } .empty [] =
    deliver send (plainItems limit (readBytes source).1 (readBytes source).2) []
  begins : ∀ send, readLines limit send { source } .empty [] <+:
    readLines limit (fun _ => true) { source } .empty []
  /-- Lines that were written come out again, each that fits unchanged and each other one named. -/
  written : ∀ lines : List (List UInt8), (∀ line ∈ lines, newline ∉ line) →
    (readBytes source).1 = (lines.flatMap fun line => line ++ [newline]) →
      readLines limit (fun _ => true) { source } .empty [] = lines.map (itemOf limit)
  short : ∀ send line, .line line ∈ readLines limit send { source } .empty [] →
    line.length ≤ limit ∧ newline ∉ line

/-- The input is read line by line, however it comes. -/
theorem input_read (limit : Nat) (source : List Read) : InputRead limit source := by
  have plain (send : List Item → Bool) : readLines limit send { source } .empty [] =
      deliver send (plainItems limit (readBytes source).1 (readBytes source).2) [] := by
    simpa [Reader.bytes] using readLines_eq send { source } .empty [] Partial.empty_holds
  refine ⟨plain, ?_, ?_, ?_⟩
  · intro send
    rw [plain, plain, deliver_all]
    exact deliver_starts send _ []
  · intro lines clean written
    rw [plain, deliver_all, written, plainItems_lines clean]
    rfl
  · intro send line mem
    rw [plain] at mem
    exact plainItems_sound ((deliver_starts send _ []).subset mem)

/-! ## The answers -/

/-- The fields of a JSON object. -/
def fieldsOf : Json → List (String × Json)
  | .object fields => fields
  | _ => []

/-- The `id` of a command. -/
def tagOf (env : CommandEnv) (line : String) : Option Json :=
  match env.parse line with
  | .ok (.object object) => object.lookup "id"
  | _ => none

/-- A command that asks for a CALL: where to, what, with what, and how long to wait. -/
def asksFor (env : CommandEnv) (line : String) : Option (String × String × Json × Option Nat) :=
  match env.parse line with
  | .ok (.object object) =>
    match object.lookup "cmd", textField object "station", textField object "action", timeoutField object with
    | none, some station, some action, some timeout =>
      some (station, action, (object.lookup "payload").getD (.object []), timeout)
    | _, _, _, _ => none
  | _ => none

/-- A command that asks for the list of the stations. -/
def AsksStations (env : CommandEnv) (line : String) : Prop :=
  ∃ object cmd, env.parse line = .ok (.object object) ∧ object.lookup "cmd" = some cmd ∧
    cmd.asStr = some "stations"

/-- The CALL that a command asked for was answered with a CALLRESULT. -/
def Succeeds (env : CommandEnv) (line : String) (result : Json) : Prop :=
  ∃ station action payload timeout id, asksFor env line = some (station, action, payload, timeout) ∧
    env.call station action payload timeout = .frame (.callResult id result)

/-- What can be wrong with a command, and what it is told then. -/
inductive Fault (env : CommandEnv) (line : String) : String → Prop
  | json {error} (bad : env.parse line = .error error) : Fault env line ("invalid JSON: " ++ error)
  | shape {value} (parsed : env.parse line = .ok value) (other : ∀ object, value ≠ .object object) :
      Fault env line "a command must be a JSON object"
  | command {object cmd} (parsed : env.parse line = .ok (.object object)) (named : object.lookup "cmd" = some cmd)
      (other : cmd.asStr ≠ some "stations") :
      Fault env line ("unknown cmd " ++ env.show' cmd ++ "; supported: \"stations\"")
  | fields {object} (parsed : env.parse line = .ok (.object object)) (plain : object.lookup "cmd" = none)
      (missing : textField object "station" = none ∨ textField object "action" = none) :
      Fault env line "needs string fields `station` and `action` (or `cmd`)"
  | timeout {object} (parsed : env.parse line = .ok (.object object)) (plain : object.lookup "cmd" = none)
      (bad : timeoutField object = none) : Fault env line "`timeout_ms` must be 1..=86400000"
  | refused {station action payload timeout text} (asks : asksFor env line = some (station, action, payload, timeout))
      (failed : env.call station action payload timeout = .error text) : Fault env line text
  | callError {station action payload timeout id code description details}
      (asks : asksFor env line = some (station, action, payload, timeout))
      (failed : env.call station action payload timeout = .frame (.callError id code description details)) :
      Fault env line ("CALLERROR " ++ code.asStr ++ ": " ++ description)
  | call {station action payload timeout id name arguments}
      (asks : asksFor env line = some (station, action, payload, timeout))
      (failed : env.call station action payload timeout = .frame (.call id name arguments)) :
      Fault env line "unexpected CALL as an answer"

/-- What an answer line says of its command. -/
structure Answered (env : CommandEnv) (line : String) (answer : Json) : Prop where
  /-- The `id` of the command, and none if it has none. -/
  tag : (fieldsOf answer).lookup "id" = tagOf env line
  /-- The stations are listed exactly if the command asks for them. -/
  stations : (fieldsOf answer).lookup "type" = some (.string "stations") ↔ AsksStations env line
  listed : AsksStations env line → (fieldsOf answer).lookup "stations" = some (.array env.stations) ∧
    (fieldsOf answer).lookup "ok" = none ∧ (fieldsOf answer).lookup "error" = none
  /-- It is `ok` exactly if a CALL was asked for and answered with a CALLRESULT, whose payload it gives. -/
  ok : (fieldsOf answer).lookup "ok" = some (.bool true) ↔ ∃ result, Succeeds env line result
  result : ∀ result, Succeeds env line result → (fieldsOf answer).lookup "type" = some (.string "result") ∧
    (fieldsOf answer).lookup "result" = some result ∧ (fieldsOf answer).lookup "error" = none
  /-- Any other command failed, and is told what is wrong with it. -/
  wrong : ¬ AsksStations env line → (∀ result, ¬ Succeeds env line result) →
    (fieldsOf answer).lookup "type" = some (.string "result") ∧ (fieldsOf answer).lookup "ok" = some (.bool false) ∧
      ∃ error, Fault env line error ∧ (fieldsOf answer).lookup "error" = some (.string error)
  /-- The answer to a CALL names its station and its action. -/
  about : ∀ station action payload timeout, asksFor env line = some (station, action, payload, timeout) →
    (fieldsOf answer).lookup "station" = some (.string station) ∧
      (fieldsOf answer).lookup "action" = some (.string action)

@[simp] theorem lookup_addTag_id {answer : List (String × Json)} (free : answer.lookup "id" = none)
    (tag : Option Json) : (fieldsOf (addTag answer tag)).lookup "id" = tag := by
  cases tag <;> simp [addTag, fieldsOf, List.lookup_append, free]

theorem lookup_addTag {answer : List (String × Json)} {key : String} (other : key ≠ "id") (tag : Option Json) :
    (fieldsOf (addTag answer tag)).lookup key = answer.lookup key := by
  have free : (key == "id") = false := by simpa using other
  cases tag <;> simp [addTag, fieldsOf, List.lookup_append, List.lookup_cons, free]

/-- A failed line is one that neither asks for the stations nor has a CALLRESULT. -/
theorem failed_answered {env : CommandEnv} {line error : String} {answer : Json}
    (tag : (fieldsOf answer).lookup "id" = tagOf env line)
    (type : (fieldsOf answer).lookup "type" = some (.string "result"))
    (ok : (fieldsOf answer).lookup "ok" = some (.bool false))
    (text : (fieldsOf answer).lookup "error" = some (.string error)) (fault : Fault env line error)
    (stations : ¬ AsksStations env line) (unanswered : ∀ result, ¬ Succeeds env line result)
    (about : ∀ station action payload timeout, asksFor env line = some (station, action, payload, timeout) →
      (fieldsOf answer).lookup "station" = some (.string station) ∧
        (fieldsOf answer).lookup "action" = some (.string action)) : Answered env line answer where
  tag := tag
  stations := by simp [type, stations]
  listed asks := absurd asks stations
  ok := by simp [ok, unanswered]
  result result succeeds := absurd succeeds (unanswered result)
  wrong _ _ := ⟨type, ok, error, fault, text⟩
  about := about

/-- A command that asks for no CALL fails. -/
theorem failure_answered {env : CommandEnv} {line error : String} {tag : Option Json} (tagged : tagOf env line = tag)
    {station action : Option String} (fault : Fault env line error) (stations : ¬ AsksStations env line)
    (none : asksFor env line = none) : Answered env line (failure tag station action error) := by
  refine failed_answered ?_ ?_ ?_ ?_ fault stations ?_ ?_
  · rw [tagged, failure, lookup_addTag_id (by simp [List.lookup])]
  · simp [failure, lookup_addTag, List.lookup]
  · simp [failure, lookup_addTag, List.lookup]
  · simp [failure, lookup_addTag, List.lookup]
  · rintro result ⟨_, _, _, _, _, asks, -⟩
    rw [none] at asks
    cases asks
  · intro _ _ _ _ asks
    rw [none] at asks
    cases asks

/-- A CALL that was asked for is answered with what became of it. -/
theorem callAnswer_answered {env : CommandEnv} {line station action : String} {payload : Json}
    {timeout : Option Nat} {tag : Option Json} (tagged : tagOf env line = tag) (stations : ¬ AsksStations env line)
    (asks : asksFor env line = some (station, action, payload, timeout)) :
    Answered env line (callAnswer tag station action (env.call station action payload timeout)) := by
  have only {station' action' : String} {payload' : Json} {timeout' : Option Nat}
      (asks' : asksFor env line = some (station', action', payload', timeout')) :
      station = station' ∧ action = action' ∧ payload = payload' ∧ timeout = timeout' := by
    simpa using asks.symm.trans asks'
  have unanswered {given : CallResult} (call : env.call station action payload timeout = given)
      (other : ∀ id result, given ≠ .frame (.callResult id result)) : ∀ result, ¬ Succeeds env line result := by
    rintro result ⟨_, _, _, _, id, asks', answered⟩
    obtain ⟨rfl, rfl, rfl, rfl⟩ := only asks'
    exact other id result (call.symm.trans answered)
  cases call : env.call station action payload timeout with
  | error text =>
    refine failed_answered ?_ ?_ ?_ ?_ (.refused asks call) stations
      (unanswered call (by simp)) ?_
    · rw [tagged, callAnswer, failure, lookup_addTag_id (by simp [List.lookup])]
    · simp [callAnswer, failure, lookup_addTag, List.lookup]
    · simp [callAnswer, failure, lookup_addTag, List.lookup]
    · simp [callAnswer, failure, lookup_addTag, List.lookup]
    · intro _ _ _ _ asks'
      obtain ⟨rfl, rfl, rfl, rfl⟩ := only asks'
      simp [callAnswer, failure, lookup_addTag, List.lookup, textOrNull]
  | frame frame =>
    cases frame with
    | call _ _ _ =>
      refine failed_answered ?_ ?_ ?_ ?_ (.call asks call) stations
        (unanswered call (by simp)) ?_
      · rw [tagged, callAnswer, failure, lookup_addTag_id (by simp [List.lookup])]
      · simp [callAnswer, failure, lookup_addTag, List.lookup]
      · simp [callAnswer, failure, lookup_addTag, List.lookup]
      · simp [callAnswer, failure, lookup_addTag, List.lookup]
      · intro _ _ _ _ asks'
        obtain ⟨rfl, rfl, rfl, rfl⟩ := only asks'
        simp [callAnswer, failure, lookup_addTag, List.lookup, textOrNull]
    | callError id code description details =>
      refine failed_answered ?_ ?_ ?_ ?_
        (.callError asks call) stations (unanswered call (by simp)) ?_
      · rw [tagged, callAnswer, lookup_addTag_id (by simp [List.lookup])]
      · simp [callAnswer, lookup_addTag, List.lookup]
      · simp [callAnswer, lookup_addTag, List.lookup]
      · simp [callAnswer, lookup_addTag, List.lookup]
      · intro _ _ _ _ asks'
        obtain ⟨rfl, rfl, rfl, rfl⟩ := only asks'
        simp [callAnswer, lookup_addTag, List.lookup]
    | callResult id result =>
      have succeeds : Succeeds env line result := ⟨station, action, payload, timeout, id, asks, call⟩
      constructor
      · rw [tagged, callAnswer, lookup_addTag_id (by simp [List.lookup])]
      · simp [callAnswer, lookup_addTag, List.lookup, stations]
      · exact fun asks => absurd asks stations
      · have some : ∃ result, Succeeds env line result := ⟨result, succeeds⟩
        simp [callAnswer, lookup_addTag, List.lookup, some]
      · rintro result' ⟨_, _, _, _, id', asks', answered⟩
        obtain ⟨rfl, rfl, rfl, rfl⟩ := only asks'
        obtain ⟨-, rfl⟩ : id = id' ∧ result = result' := by simpa using call.symm.trans answered
        simp [callAnswer, lookup_addTag, List.lookup]
      · exact fun _ none => absurd succeeds (none result)
      · intro _ _ _ _ asks'
        obtain ⟨rfl, rfl, rfl, rfl⟩ := only asks'
        simp [callAnswer, lookup_addTag, List.lookup]

/-- Every command is answered under its own `id`, and a bad one is told what is wrong with it. -/
theorem answers_tagged (env : CommandEnv) (line : String) : Answered env line (handleLine env line) := by
  cases parsed : env.parse line with
  | error error =>
    have tagged : tagOf env line = none := by simp [tagOf, parsed]
    rw [handleLine, parsed]
    exact failure_answered tagged (.json parsed) (by simp [AsksStations, parsed]) (by simp [asksFor, parsed])
  | ok value =>
    cases value with
    | object object =>
      have tagged : tagOf env line = object.lookup "id" := by simp [tagOf, parsed]
      cases command : object.lookup "cmd" with
      | some cmd =>
        have none : asksFor env line = none := by simp [asksFor, parsed, command]
        by_cases stations : cmd.asStr = some "stations"
        · have asks : AsksStations env line := ⟨object, cmd, parsed, command, stations⟩
          have unanswered : ∀ result, ¬ Succeeds env line result := by
            rintro result ⟨_, _, _, _, _, asks', -⟩
            rw [none] at asks'
            cases asks'
          simp only [handleLine, parsed, command, stations, if_true]
          constructor
          · rw [tagged, lookup_addTag_id (by simp [List.lookup])]
          · simp [lookup_addTag, List.lookup, asks]
          · simp [lookup_addTag, List.lookup]
          · simp [lookup_addTag, List.lookup, unanswered]
          · exact fun result succeeds => absurd succeeds (unanswered result)
          · exact fun other => absurd asks other
          · simp [none]
        · simp only [handleLine, parsed, command, stations, if_false]
          exact failure_answered tagged (.command parsed command stations)
            (by simp [AsksStations, parsed, command, stations]) none
      | none =>
        have stations : ¬ AsksStations env line := by simp [AsksStations, parsed, command]
        cases station : textField object "station" with
        | none =>
          simp only [handleLine, parsed, command, station]
          exact failure_answered tagged (.fields parsed command (.inl station)) stations
            (by simp [asksFor, parsed, command, station])
        | some name =>
          cases action : textField object "action" with
          | none =>
            simp only [handleLine, parsed, command, station, action]
            exact failure_answered tagged (.fields parsed command (.inr action)) stations
              (by simp [asksFor, parsed, command, station, action])
          | some verb =>
            cases wait : timeoutField object with
            | none =>
              simp only [handleLine, parsed, command, station, action, wait]
              exact failure_answered tagged (.timeout parsed command wait) stations
                (by simp [asksFor, parsed, command, station, action, wait])
            | some timeout =>
              simp only [handleLine, parsed, command, station, action, wait]
              exact callAnswer_answered tagged stations
                (by simp [asksFor, parsed, command, station, action, wait])
    | _ =>
      have tagged : tagOf env line = none := by simp [tagOf, parsed]
      rw [handleLine, parsed]
      exact failure_answered tagged (.shape parsed (by simp)) (by simp [AsksStations, parsed])
        (by simp [asksFor, parsed])

end KirbyOcpp.Csms.StdinCmd
