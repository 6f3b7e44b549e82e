import KirbyOcpp.Laws.Handshake.Admission

/-!
# The response to an upgrade: `read_head`, `parse_head` and `upgrade`

**The laws** `upgrade_reads_one_head`, how far `upgrade` reads whatever a server sends, and `handshake_agreed`: what a
station makes of the answer to a request says what the central system decided.
-/

namespace KirbyOcpp

namespace Text

private theorem splitCrlf_append {line : Text} (single : '\r' ∉ line) (rest : Text) :
    splitCrlf (line ++ '\r' :: '\n' :: rest) = line :: splitCrlf rest := by
  induction line with
  | nil => rfl
  | cons c line ih =>
    rw [List.mem_cons, not_or] at single
    have later := ih single.2
    rw [List.cons_append, splitCrlf]
    · rw [later]
    · intro _ return_
      exact absurd return_.symm single.1

private theorem trim_space (text : Text) : trim (' ' :: text) = trim text := by
  have space : isWhitespace ' ' = true := by decide
  rw [trim, List.dropWhile_cons_of_pos space, trim]

end Text

namespace Handshake

variable {c : Crates} {last : StreamEnd} {seen stream head rest : Bytes}

/-! ## Where the head ends -/

/-- The bytes up to the first empty line. -/
structure IsHead (head : Bytes) : Prop where
  ended : headEnd.isSuffixOf head = true
  short : head.length ≤ maxHead
  first : ∀ n < head.length, headEnd.isSuffixOf (head.take n) = false

private theorem readHead_ended (ended : headEnd.isSuffixOf seen = true) :
    readHead last seen stream = .ok (seen, stream) := by
  unfold readHead
  rw [if_pos ended]

private theorem readHead_cons {byte : UInt8} (going : headEnd.isSuffixOf seen = false) (room : seen.length < maxHead) :
    readHead last seen (byte :: stream) = readHead last (seen ++ [byte]) stream := by
  rw [readHead, if_neg (by simp [going]), if_neg (by omega)]

private theorem readHead_append (short : (seen ++ stream).length ≤ maxHead)
    (ended : headEnd.isSuffixOf (seen ++ stream) = true)
    (first : ∀ n, seen.length ≤ n → n < (seen ++ stream).length → headEnd.isSuffixOf ((seen ++ stream).take n) = false)
    (rest : Bytes) : readHead last seen (stream ++ rest) = .ok (seen ++ stream, rest) := by
  induction stream generalizing seen with
  | nil =>
    rw [List.append_nil] at ended
    rw [List.append_nil, List.nil_append, readHead_ended ended]
  | cons byte stream ih =>
    have more : seen ++ byte :: stream = (seen ++ [byte]) ++ stream := by simp
    have going := first seen.length le_rfl (by simp)
    rw [List.take_left] at going
    have room : seen.length < maxHead := by
      rw [List.length_append, List.length_cons] at short
      omega
    rw [more] at short ended first ⊢
    rw [List.cons_append, readHead_cons going room]
    apply ih short ended
    intro n past
    rw [List.length_append, List.length_singleton] at past
    exact first n (by omega)

private theorem readHead_head (isHead : IsHead head) (rest : Bytes) :
    readHead last [] (head ++ rest) = .ok (head, rest) := by
  have whole := @readHead_append last [] head
  simp only [List.nil_append] at whole
  exact whole isHead.short isHead.ended (fun n _ => isHead.first n) rest

/-- The message of a stream that ends too early. -/
def StreamEnd.message : StreamEnd → Text
  | .closed => "the connection closed before the upgrade response".toList
  | .failed error => "cannot read the upgrade response: ".toList ++ error.toList

/-- The message of a stream without a head. -/
def noHead (last : StreamEnd) (stream : Bytes) : Text :=
  if maxHead ≤ stream.length then "the upgrade response head is too large".toList else last.message

private theorem readHead_none (short : seen.length ≤ maxHead)
    (going : ∀ n, seen.length ≤ n → n ≤ (seen ++ stream).length → n ≤ maxHead →
      headEnd.isSuffixOf ((seen ++ stream).take n) = false) :
    readHead last seen stream = .error (.handshake (noHead last (seen ++ stream))) := by
  induction stream generalizing seen with
  | nil =>
    have here := going seen.length le_rfl (by simp) short
    rw [List.take_left] at here
    rw [List.append_nil, noHead]
    unfold readHead
    rw [if_neg (by simp [here])]
    by_cases full : maxHead ≤ seen.length
    · rw [if_pos full, if_pos full]
    · rw [if_neg full, if_neg full]
      cases last with
      | closed => rfl
      | failed error => rfl
  | cons byte stream ih =>
    have more : seen ++ byte :: stream = (seen ++ [byte]) ++ stream := by simp
    have here := going seen.length le_rfl (by simp) short
    rw [List.take_left] at here
    by_cases full : maxHead ≤ seen.length
    · have long : maxHead ≤ (seen ++ byte :: stream).length := by
        rw [List.length_append]
        omega
      rw [readHead, if_neg (by simp [here]), if_pos full, noHead, if_pos long]
    · rw [readHead_cons here (by omega), more]
      rw [more] at going
      apply ih
      · rw [List.length_append, List.length_singleton]
        omega
      · intro n past
        rw [List.length_append, List.length_singleton] at past
        exact going n (by omega)

/-- The first place where a head ends. -/
theorem isHead_of_ended {n : Nat} (inside : n ≤ stream.length) (short : n ≤ maxHead)
    (ended : headEnd.isSuffixOf (stream.take n) = true) : ∃ head, IsHead head ∧ head <+: stream := by
  have some : ∃ n, headEnd.isSuffixOf (stream.take n) = true := ⟨n, ended⟩
  have least := Nat.find_min' some ended
  have length : (stream.take (Nat.find some)).length = Nat.find some := by
    rw [List.length_take]
    omega
  refine ⟨stream.take (Nat.find some), ⟨Nat.find_spec some, by omega, ?_⟩, List.take_prefix _ _⟩
  intro m before
  rw [length] at before
  rw [List.take_take, Nat.min_eq_left before.le]
  exact Bool.eq_false_iff.mpr (Nat.find_min some before)

private theorem readHead_error (none : ∀ head, IsHead head → ¬head <+: stream) :
    readHead last [] stream = .error (.handshake (noHead last stream)) := by
  have failed := @readHead_none last [] stream
  rw [List.nil_append] at failed
  apply failed (Nat.zero_le _)
  intro n _ inside short
  by_contra ended
  rw [Bool.not_eq_false] at ended
  obtain ⟨head, isHead, start⟩ := isHead_of_ended inside short ended
  exact none head isHead start

/-! ## What it says -/

/-- The text of a head. -/
def headText (statusLine : Text) (headers : List (Text × Text)) : Text :=
  statusLine ++ crlf ++ headerLines headers ++ crlf

/-- A header that takes one line. -/
structure OneLine (header : Text × Text) : Prop where
  named : ':' ∉ header.1
  trimmed : header.1.trim = header.1
  name : '\r' ∉ header.1
  value : '\r' ∉ header.2

/-- Headers as `parse_head` gives them. -/
def received (headers : List (Text × Text)) : List (Text × Text) :=
  headers.map fun header => (header.1.toAsciiLowercase, header.2.trim)

private theorem splitCrlf_headers {headers : List (Text × Text)} (lines : ∀ header ∈ headers, OneLine header) :
    Text.splitCrlf (headerLines headers ++ crlf) =
      headers.map (fun header => header.1 ++ ':' :: ' ' :: header.2) ++ [[], []] := by
  induction headers with
  | nil => rfl
  | cons header headers ih =>
    have one := lines header (by simp)
    have single : '\r' ∉ header.1 ++ ':' :: ' ' :: header.2 := by simp [one.name, one.value]
    have text : headerLines (header :: headers) ++ crlf =
        (header.1 ++ ':' :: ' ' :: header.2) ++ '\r' :: '\n' :: (headerLines headers ++ crlf) := by
      simp [headerLines, crlf]
    rw [text, Text.splitCrlf_append single, ih fun other mem => lines other (by simp [mem])]
    rfl

/-- What a head says line by line. -/
theorem splitCrlf_headText {first : Text} {headers : List (Text × Text)} (single : '\r' ∉ first)
    (lines : ∀ header ∈ headers, OneLine header) :
    Text.splitCrlf (headText first headers) =
      first :: (headers.map (fun header => header.1 ++ ':' :: ' ' :: header.2) ++ [[], []]) := by
  have start : headText first headers = first ++ '\r' :: '\n' :: (headerLines headers ++ crlf) := by
    simp [headText, crlf]
  rw [start, Text.splitCrlf_append single, splitCrlf_headers lines]

private theorem parseHead_written {bytes : Bytes} {statusLine : Text} {headers : List (Text × Text)} {status : Nat}
    (text : c.utf8Lossy bytes = headText statusLine headers) (single : '\r' ∉ statusLine)
    (code : (statusLine.splitWhitespace[1]?).bind Text.parseU16 = some status)
    (lines : ∀ header ∈ headers, OneLine header) :
    parseHead c bytes = .ok { statusLine, status, headers := received headers } := by
  have split := splitCrlf_headText single lines
  rw [← text] at split
  have kept : (headers.map (fun header : Text × Text => header.1 ++ ':' :: ' ' :: header.2) ++ [[], []]).takeWhile
      (fun line : Text => !line.isEmpty) = headers.map fun header => header.1 ++ ':' :: ' ' :: header.2 := by
    rw [List.takeWhile_append_of_pos]
    · simp
    · intro line mem
      obtain ⟨header, -, rfl⟩ := List.mem_map.mp mem
      simp
  have parts : ((headers.map fun header => header.1 ++ ':' :: ' ' :: header.2).filterMap (Text.splitOnce ':')).map
      (fun part => (part.1.trim.toAsciiLowercase, part.2.trim)) = received headers := by
    rw [List.filterMap_map, received]
    clear split kept text
    induction headers with
    | nil => rfl
    | cons header headers ih =>
      have one := lines header (by simp)
      have later := ih fun other mem => lines other (by simp [mem])
      have cut : (Text.splitOnce ':' ∘ fun header : Text × Text => header.1 ++ ':' :: ' ' :: header.2) header =
          some (header.1, ' ' :: header.2) := Text.splitOnce_append one.named _
      rw [List.filterMap_cons_some cut, List.map_cons, later, Text.trim_space, one.trimmed,
        List.map_cons]
  unfold parseHead
  simp only [split, List.head?_cons, Option.getD_some, List.tail_cons, code, kept]
  rw [← parts]

/-! ## What the two ends make of it -/

variable {subprotocol websocketKey id : Text} {admission : Admission}

/-- The status of an answer. -/
def Admission.status : Admission → Nat
  | .admitted _ _ => 101
  | .refused answer => answer.status
  | .denied _ reason => reason.response.status

/-- The headers of an upgrade. -/
structure Upgraded (c : Crates) (websocketKey : Text) (headers : List (Text × Text)) (chosen : Option Text) : Prop where
  upgrade : headers.lookup "upgrade".toList = some "websocket".toList
  connection : headers.lookup "connection".toList = some "Upgrade".toList
  accept : headers.lookup "sec-websocket-accept".toList = some (c.deriveAcceptKey websocketKey.utf8)
  subprotocol : headers.lookup "sec-websocket-protocol".toList = chosen.map Text.trim

/-- The head with which the WebSocket library of a central system answers. -/
structure Answered (c : Crates) (websocketKey : Text) (admission : Admission) (head : Bytes) : Prop where
  isHead : IsHead head
  written : ∃ statusLine headers, c.utf8Lossy head = headText statusLine headers ∧ '\r' ∉ statusLine ∧
    (statusLine.splitWhitespace[1]?).bind Text.parseU16 = some admission.status ∧
    (∀ header ∈ headers, OneLine header) ∧
    ∀ id chosen, admission = .admitted id chosen → Upgraded c websocketKey (received headers) chosen

theorem Answered.parsed (answered : Answered c websocketKey admission head) :
    ∃ parsed, parseHead c head = .ok parsed ∧ parsed.status = admission.status ∧
      ∀ id chosen, admission = .admitted id chosen → Upgraded c websocketKey parsed.headers chosen := by
  obtain ⟨statusLine, headers, text, single, code, lines, named⟩ := answered.written
  exact ⟨_, parseHead_written text single code lines, rfl, named⟩

private theorem upgrade_admitted {chosen : Option Text} (answered : Answered c websocketKey (.admitted id chosen) head)
    (frames : Bytes) : upgrade c last subprotocol websocketKey (head ++ frames) =
      if chosen.map Text.trim = some subprotocol then .ok frames else .error (.subprotocolMismatch subprotocol) := by
  obtain ⟨parsed, read, status, named⟩ := answered.parsed
  have headers := named id chosen rfl
  have token : (Text.split ',' "Upgrade".toList).any (fun token => token.trim.eqIgnoreAsciiCase "upgrade".toList) =
    true := by decide
  have websocket : Text.eqIgnoreAsciiCase "websocket".toList "websocket".toList = true := by decide
  have switching : parsed.status = 101 := status
  unfold upgrade
  simp only [readHead_head answered.isHead, read, switching, Head.header, headers.upgrade, headers.connection,
    headers.accept, headers.subprotocol, bind, Except.bind, Option.any_some, token, websocket]
  by_cases same : chosen.map Text.trim = some subprotocol
  · simp [same]
  · simp [same]

private theorem upgrade_refused (answered : Answered c websocketKey admission head) (refused : admission.status ≠ 101)
    (last : StreamEnd) (subprotocol : Text) (frames : Bytes) :
    ∃ line, upgrade c last subprotocol websocketKey (head ++ frames) =
      .error (.httpStatus admission.status line) := by
  obtain ⟨parsed, read, status, -⟩ := answered.parsed
  refine ⟨parsed.statusLine, ?_⟩
  unfold upgrade
  rw [← status] at refused ⊢
  simp only [readHead_head answered.isHead, read, bind, Except.bind]
  rw [if_pos refused]

/-- **One head, and no byte of a frame.** Whatever a server sends, `upgrade` depends on nothing behind the first head and
leaves all of that in the stream; and a stream that has no head within the limit is told apart by why. -/
theorem upgrade_reads_one_head (c : Crates) (subprotocol websocketKey : Text) :
    (∀ head, IsHead head → ∀ last last' frames frames',
      upgrade c last' subprotocol websocketKey (head ++ frames') =
        (upgrade c last subprotocol websocketKey (head ++ frames)).map fun _ => frames') ∧
    ∀ last stream, (∀ head, IsHead head → ¬head <+: stream) →
      upgrade c last subprotocol websocketKey stream = .error (.handshake (noHead last stream)) := by
  constructor
  · intro head isHead last last' frames frames'
    unfold upgrade
    simp only [readHead_head isHead, bind, Except.bind]
    cases parseHead c head with
    | error error => rfl
    | ok parsed =>
      dsimp only
      split_ifs <;> rfl
  · intro last stream none
    unfold upgrade
    rw [readHead_error none]
    rfl

/-- **The two ends agree.** A station that reads the answer of a central system goes on to WebSocket exactly when it has
been let in with the subprotocol that it asked for, and then with every byte behind the head. A mismatch and the
statuses 401 and 403 mean what they say. -/
theorem handshake_agreed (c : Crates) (gate : Gate) (identity : PeerIdentity) (request : Request)
    (subprotocol websocketKey : Text) (head : Bytes)
    (answered : Answered c websocketKey (gate.callback c identity request) head) (last : StreamEnd) (frames : Bytes) :
    (∀ rest, upgrade c last subprotocol websocketKey (head ++ frames) = .ok rest ↔
      rest = frames ∧ ∃ id chosen, LetIn c gate identity request id chosen ∧ chosen.map Text.trim = some subprotocol) ∧
    (upgrade c last subprotocol websocketKey (head ++ frames) = .error (.subprotocolMismatch subprotocol) ↔
      ∃ id chosen, LetIn c gate identity request id chosen ∧ chosen.map Text.trim ≠ some subprotocol) ∧
    ((∃ status line, (status = 401 ∨ status = 403) ∧
        upgrade c last subprotocol websocketKey (head ++ frames) = .error (.httpStatus status line)) ↔
      ∃ id, Names c request.path id ∧ ¬Trusted c gate.security identity request id) := by
  simp only [← admitted_iff, ← denied_iff]
  cases decided : gate.callback c identity request with
  | admitted id chosen =>
    rw [decided] at answered
    rw [upgrade_admitted answered frames]
    by_cases same : chosen.map Text.trim = some subprotocol
    · simp only [if_pos same]
      refine ⟨fun rest => ?_, ?_, ?_⟩
      · constructor
        · rintro ⟨⟩
          exact ⟨rfl, id, chosen, rfl, same⟩
        · rintro ⟨rfl, -⟩
          rfl
      · simp only [reduceCtorEq, false_iff]
        rintro ⟨_, _, ⟨⟩, other⟩
        exact other same
      · simp
    · simp only [if_neg same]
      refine ⟨fun rest => ?_, ?_, ?_⟩
      · simp only [reduceCtorEq, false_iff]
        rintro ⟨-, _, _, ⟨⟩, other⟩
        exact same other
      · simp only [true_iff]
        exact ⟨id, chosen, rfl, same⟩
      · simp
  | refused refusal =>
    rw [decided] at answered
    have status := refused_status decided
    have other : (Admission.refused refusal).status ≠ 101 := by
      rw [Admission.status]
      omega
    obtain ⟨line, outcome⟩ := upgrade_refused answered other last subprotocol frames
    rw [outcome]
    refine ⟨by simp, by simp, ?_⟩
    simp only [reduceCtorEq, exists_false, iff_false]
    rintro ⟨code, line', unauthorized, same⟩
    obtain ⟨rfl, -⟩ := ConnectError.httpStatus.inj (Except.error.inj same)
    simp only [Admission.status] at unauthorized
    omega
  | denied id denied =>
    rw [decided] at answered
    have status := (response_denied denied).2
    have code : denied.response.status = 401 ∨ denied.response.status = 403 := by
      rw [status]
      split <;> simp
    have other : (Admission.denied id denied).status ≠ 101 := by
      rw [Admission.status]
      omega
    obtain ⟨line, outcome⟩ := upgrade_refused answered other last subprotocol frames
    rw [outcome]
    refine ⟨by simp, by simp, ?_⟩
    constructor
    · rintro -
      exact ⟨id, denied, rfl⟩
    · rintro -
      exact ⟨_, line, code, rfl⟩

def aKey : Text := "dGhlIHNhbXBsZSBub25jZQ==".toList

def aHeaders : List (Text × Text) :=
  [("Upgrade".toList, "websocket".toList), ("Connection".toList, "Upgrade".toList),
    ("Sec-WebSocket-Accept".toList, aCrates.deriveAcceptKey aKey.utf8),
    ("Sec-WebSocket-Protocol".toList, "ocpp1.6".toList)]

/-- The answer to `aRequest`. -/
def aHead : Bytes := Text.utf8 (headText "HTTP/1.1 101 OK".toList aHeaders)

private theorem aRequest_letIn : LetIn aCrates aGate .plain aRequest ['C', 'P'] (some "ocpp1.6".toList) := by
  have usable : Usable ['C', 'P'] := ⟨by decide, by decide, by decide⟩
  have delivered : Delivered aCrates
      (chargePointUrl aCrates (applyAuthorizationKey aCrates 1 (some ['k']) ['C', 'P'] aUrl) ['C', 'P'])
      "ocpp1.6".toList aKey aRequest := ⟨rfl, rfl⟩
  have names := names_chargePointUrl aCrates_encodes usable
    (applyAuthorizationKey aCrates 1 (some ['k']) ['C', 'P'] aUrl) ⟨"ocpp".toList, rfl⟩
  rw [← delivered.path] at names
  refine ⟨names, ?_, rfl, rfl, rfl⟩
  rw [trusted_own aCrates_encodes ⟨rfl, rfl⟩ aGate.security .plain delivered]
  exact ⟨.inl rfl, rfl, rfl, by decide⟩

private theorem aHead_isHead : IsHead aHead where
  ended := by decide +kernel
  short := by decide +kernel
  first := by decide +kernel

private theorem aHead_answered : Answered aCrates aKey (.admitted ['C', 'P'] (some "ocpp1.6".toList)) aHead where
  isHead := aHead_isHead
  written := by
    have lines : ∀ header ∈ aHeaders,
        ':' ∉ header.1 ∧ header.1.trim = header.1 ∧ '\r' ∉ header.1 ∧ '\r' ∉ header.2 := by
      decide +kernel
    have text : aCrates.utf8Lossy aHead = headText "HTTP/1.1 101 OK".toList aHeaders := by
      simp only [aCrates, aHead, Text.fromUtf8_utf8, Option.getD_some]
    refine ⟨_, _, text, by decide, by decide +kernel, ?_, ?_⟩
    · intro header mem
      obtain ⟨named, trimmed, name, value⟩ := lines header mem
      exact ⟨named, trimmed, name, value⟩
    · rintro id chosen ⟨⟩
      exact ⟨by decide +kernel, by decide +kernel, by decide +kernel, by decide +kernel⟩

/-- The same central system with another key for the station. -/
def otherGate : Gate := { aGate with security := { profile := .basicAuth, keys := [(['C', 'P'], ['q'])] } }

/-- Its answer to `aRequest`. -/
def otherHead : Bytes := Text.utf8 (headText "HTTP/1.1 401 Unauthorized".toList [])

private theorem otherHead_answered : Answered aCrates aKey (otherGate.callback aCrates .plain aRequest) otherHead where
  isHead := ⟨by decide +kernel, by decide +kernel, by decide +kernel⟩
  written := by
    have text : aCrates.utf8Lossy otherHead = headText "HTTP/1.1 401 Unauthorized".toList [] := by
      simp only [aCrates, otherHead, Text.fromUtf8_utf8, Option.getD_some]
    have status : (otherGate.callback aCrates .plain aRequest).status = 401 := by decide +kernel
    have refused : ∃ id denied, otherGate.callback aCrates .plain aRequest = .denied id denied := ⟨_, _, rfl⟩
    refine ⟨_, _, text, by decide, by rw [status]; decide +kernel, by simp, fun id chosen admitted => ?_⟩
    obtain ⟨_, _, denied⟩ := refused
    cases admitted.symm.trans denied

/-- The station is let in and goes on with what follows the head; had it asked for another subprotocol, it would report
the mismatch; and with another key it is told so. -/
theorem handshake_agreed_basic :
    upgrade aCrates .closed "ocpp1.6".toList aKey (aHead ++ [0x89, 0x00]) = .ok [0x89, 0x00] ∧
      upgrade aCrates .closed "ocpp2.0.1".toList aKey aHead = .error (.subprotocolMismatch "ocpp2.0.1".toList) ∧
      ∃ id, Names aCrates aRequest.path id ∧ ¬Trusted aCrates otherGate.security .plain aRequest id := by
  have answered : Answered aCrates aKey (aGate.callback aCrates .plain aRequest) aHead := by
    rw [admitted_iff.mpr aRequest_letIn]
    exact aHead_answered
  have agreed (subprotocol : Text) (frames : Bytes) :=
    handshake_agreed aCrates aGate .plain aRequest subprotocol aKey aHead answered .closed frames
  have refused := handshake_agreed aCrates otherGate .plain aRequest "ocpp1.6".toList aKey otherHead otherHead_answered
    .closed []
  refine ⟨((agreed _ _).1 _).mpr ⟨rfl, _, _, aRequest_letIn, by decide +kernel⟩, ?_, ?_⟩
  · have mismatch := (agreed "ocpp2.0.1".toList []).2.1.mpr ⟨_, _, aRequest_letIn, by decide +kernel⟩
    rwa [List.append_nil] at mismatch
  · exact refused.2.2.mp ⟨401, "HTTP/1.1 401 Unauthorized".toList, .inl rfl, by decide +kernel⟩

end Handshake

end KirbyOcpp
