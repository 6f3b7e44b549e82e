import KirbyOcpp.Handshake
import KirbyOcpp.Laws.Ocpp.Text

/-!
# Who is let in: `auth.rs`, `run_session` and `request_head`

**The laws** `admission_exact`, who an arbitrary request is let in as, and `own_station_admitted`, when the request
that a station makes of its URL and its key lets it in.
-/

namespace KirbyOcpp

namespace Text

/-! ## Bytes -/

private theorem toByteArray_utf8 (text : Text) : ByteArray.mk (utf8 text).toArray = text.utf8Encode := by
  rw [List.utf8Encode, utf8]
  apply ByteArray.ext
  simp

/-- A text is read from its own bytes. -/
theorem fromUtf8_utf8 (text : Text) : fromUtf8 (utf8 text) = some text := by
  simp [fromUtf8, toByteArray_utf8]

private theorem utf8_injective : Function.Injective utf8 := by
  intro a b same
  have read := fromUtf8_utf8 a
  rw [same, fromUtf8_utf8] at read
  exact (Option.some.inj read).symm

/-- Bytes that are a text are the bytes of that text. -/
theorem fromUtf8_eq_some {bytes : Bytes} {text : Text} : fromUtf8 bytes = some text ↔ bytes = utf8 text := by
  constructor
  · intro read
    obtain ⟨chars, decoded, rfl⟩ := Option.map_eq_some_iff.mp read
    have valid : (ByteArray.mk bytes.toArray).utf8Decode?.isSome = true := by simp [decoded]
    obtain ⟨chars', encoded⟩ := ByteArray.isSome_utf8Decode?_iff.mp valid
    have same : chars.toList = chars' := by
      rw [encoded, List.utf8Decode?_utf8Encode] at decoded
      simp [← Option.some.inj decoded]
    have arrays := congrArg ByteArray.data (encoded.trans (toByteArray_utf8 chars').symm)
    rw [same]
    simpa using congrArg Array.toList arrays
  · rintro rfl
    exact fromUtf8_utf8 text

private theorem splitOnce_eq_some {at' : Char} {text front back : Text} :
    splitOnce at' text = some (front, back) ↔ text = front ++ at' :: back ∧ at' ∉ front := by
  constructor
  · intro parts
    induction text generalizing front with
    | nil => cases parts
    | cons c rest ih =>
      by_cases here : c = at'
      · rw [splitOnce, if_pos here] at parts
        obtain ⟨rfl, rfl⟩ := Prod.mk.inj (Option.some.inj parts)
        exact ⟨by rw [here]; rfl, List.not_mem_nil⟩
      · rw [splitOnce, if_neg here] at parts
        obtain ⟨⟨front', back'⟩, later, same⟩ := Option.map_eq_some_iff.mp parts
        obtain ⟨rfl, rfl⟩ := Prod.mk.inj same
        obtain ⟨rfl, apart⟩ := ih later
        refine ⟨rfl, ?_⟩
        simp [Ne.symm here, apart]
  · rintro ⟨rfl, apart⟩
    exact splitOnce_append apart back

/-! ## Segments of a path -/

private theorem split_append {at' : Char} (front back : Text) :
    split at' (front ++ at' :: back) = split at' front ++ split at' back := by
  induction front with
  | nil => simp [split]
  | cons c front ih =>
    by_cases here : c = at'
    · simp [split, here, ih]
    · rw [List.cons_append, split, if_neg here, ih, split, if_neg here]
      cases parts : split at' front with
      | nil => exact absurd parts (split_ne_nil at' front)
      | cons item items => rfl

private theorem split_of_not_mem {at' : Char} {text : Text} (apart : at' ∉ text) : split at' text = [text] := by
  have single : split at' ([at'].intercalate [text]) = [text] := split_intercalate (by simpa using apart) (by simp)
  simpa using single

/-- The end of a text, from its last separator on. -/
def EndsIn (at' : Char) (text item : Text) : Prop :=
  at' ∉ item ∧ ∃ front, text = front ++ item ∧ (front = [] ∨ ∃ front', front = front' ++ [at'])

/-- The last item is what stands behind the last separator. -/
theorem EndsIn.split {at' : Char} {text item : Text} (h : EndsIn at' text item) :
    ∃ items, Text.split at' text = items ++ [item] := by
  obtain ⟨apart, front, rfl, rfl | ⟨front', rfl⟩⟩ := h
  · exact ⟨[], split_of_not_mem apart⟩
  · exact ⟨Text.split at' front', by simp [split_append, split_of_not_mem apart]⟩

private theorem endsIn_of_split {at' : Char} {text item : Text} (last : (split at' text).getLast? = some item) :
    EndsIn at' text item := by
  by_cases mem : at' ∈ text
  · obtain ⟨head, tail, rfl, apart⟩ := eq_append_of_mem mem
    rw [split_append, split_of_not_mem apart, List.getLast?_concat] at last
    obtain rfl := Option.some.inj last
    exact ⟨apart, head ++ [at'], by simp, .inr ⟨head, rfl⟩⟩
  · rw [split_of_not_mem mem] at last
    obtain rfl := Option.some.inj last
    exact ⟨mem, [], rfl, .inl rfl⟩

/-- The last item that is not empty, and what follows it. -/
theorem last_item (at' : Char) (text : Text) :
    (∀ x ∈ text, x = at') ∨
      ∃ front item n, text = front ++ List.replicate n at' ∧ item ≠ [] ∧ EndsIn at' front item := by
  induction text using List.reverseRecOn with
  | nil => simp
  | append_singleton text x ih =>
    by_cases here : x = at'
    · subst here
      rcases ih with all | ⟨front, item, n, rfl, some, ends⟩
      · left
        intro y mem
        rcases List.mem_append.mp mem with old | new
        · exact all y old
        · exact List.mem_singleton.mp new
      · exact .inr ⟨front, item, n + 1, by simp [List.replicate_succ'], some, ends⟩
    · right
      have apart : at' ∉ [x] := by simpa using Ne.symm here
      rcases ih with all | ⟨front, item, n, rfl, some, solid, before, rfl, start⟩
      · refine ⟨text ++ [x], [x], 0, by simp, by simp, apart, text, rfl, ?_⟩
        rcases List.eq_nil_or_concat text with rfl | ⟨text', last, rfl⟩
        · exact .inl rfl
        · right
          rw [all last (by simp)]
          exact ⟨text', by simp⟩
      · cases n with
        | zero =>
          refine ⟨before ++ (item ++ [x]), item ++ [x], 0, by simp, by simp, ?_, before, rfl, start⟩
          simpa using ⟨solid, Ne.symm here⟩
        | succ n =>
          refine ⟨_, [x], 0, (List.append_nil _).symm, by simp, apart, _, rfl, .inr ?_⟩
          exact ⟨before ++ item ++ List.replicate n at', by simp [List.replicate_succ']⟩

private theorem split_replicate (at' : Char) (text : Text) (n : Nat) :
    split at' (text ++ List.replicate n at') = split at' text ++ List.replicate n [] := by
  induction n with
  | zero => simp
  | succ n ih =>
    have last : text ++ List.replicate (n + 1) at' = (text ++ List.replicate n at') ++ at' :: [] := by
      simp [List.replicate_succ']
    rw [last, split_append, ih, split]
    simp [List.replicate_succ']

private theorem find_last_item {at' : Char} {front item : Text} (some : item ≠ []) (ends : EndsIn at' front item)
    (n : Nat) :
    (split at' (front ++ List.replicate n at')).reverse.find? (fun item => !item.isEmpty) = .some item := by
  obtain ⟨items, parts⟩ := ends.split
  rw [split_replicate, parts, List.reverse_append, List.reverse_append]
  simp [List.find?_append, some]

/-- The last item of a text that is not empty. -/
theorem find_eq_some {at' : Char} {text item : Text} :
    (split at' text).reverse.find? (fun item => !item.isEmpty) = some item ↔
      item ≠ [] ∧ ∃ front n, text = front ++ List.replicate n at' ∧ EndsIn at' front item := by
  constructor
  · intro found
    have nonempty : item ≠ [] := by simpa using List.find?_some found
    rcases last_item at' text with all | ⟨front, other, n, rfl, some, ends⟩
    · have slashes : text = [] ++ List.replicate text.length at' := by
        rw [List.nil_append]
        exact List.eq_replicate_of_mem all
      rw [slashes, split_replicate] at found
      have mem := List.mem_of_find?_eq_some found
      have empty : item = [] := by
        rcases List.mem_append.mp (List.mem_reverse.mp mem) with here | later
        · simpa [split] using here
        · exact List.eq_of_mem_replicate later
      exact absurd empty nonempty
    · rw [find_last_item some ends] at found
      obtain rfl := Option.some.inj found
      exact ⟨nonempty, front, n, rfl, ends⟩
  · rintro ⟨some, front, n, rfl, ends⟩
    exact find_last_item some ends n

end Text

namespace Handshake

variable {c : Crates} {policy : SecurityPolicy} {request : Request} {id : Text} {peer : PeerIdentity}

/-! ## Comparing in constant time -/

private theorem foldl_or_eq_zero {ι : Type} (f : ι → Nat) (l : List ι) (n : Nat) :
    l.foldl (fun diff i => diff ||| f i) n = 0 ↔ n = 0 ∧ ∀ i ∈ l, f i = 0 := by
  induction l generalizing n with
  | nil => simp
  | cons i l ih =>
    rw [List.foldl_cons, ih, Nat.or_eq_zero_iff]
    simp [and_assoc]

private theorem constantTimeEq_iff {a b : Bytes} : constantTimeEq a b = true ↔ a = b := by
  simp only [constantTimeEq, beq_iff_eq, foldl_or_eq_zero, Nat.xor_eq_zero_iff, List.mem_range]
  constructor
  · rintro ⟨lengths, same⟩
    apply List.ext_getElem lengths
    intro i left right
    have equal := same i (by omega)
    have zero : a.getD i 0 ^^^ b.getD i 0 = 0 := UInt8.toNat_inj.mp (by simpa using equal)
    have bytes := UInt8.xor_eq_zero_iff.mp zero
    simpa [List.getD, left, right] using bytes
  · rintro rfl
    simp

/-! ## Credentials -/

/-- The request has an `Authorization: Basic` header with that user and password. -/
def Presents (c : Crates) (request : Request) (user password : Text) : Prop :=
  ∃ scheme encoded : Text, request.header "authorization".toList = some (scheme ++ ' ' :: encoded) ∧ ' ' ∉ scheme ∧
    scheme.eqIgnoreAsciiCase "basic".toList = true ∧
    c.base64Decode encoded.trim = some (Text.utf8 (user ++ ':' :: password)) ∧ ':' ∉ user

private theorem credentials_eq_some {user password : Text} :
    credentials c request = some (user, password) ↔ Presents c request user password := by
  unfold credentials Presents
  simp only [Option.bind_eq_bind, Option.bind_eq_some_iff, Prod.exists]
  constructor
  · rintro ⟨value, header, scheme, encoded, parts, rest⟩
    obtain ⟨rfl, apart⟩ := Text.splitOnce_eq_some.mp parts
    by_cases basic : scheme.eqIgnoreAsciiCase "basic".toList = true
    · simp only [basic, Bool.not_true, Bool.false_eq_true, if_false, Option.bind_eq_some_iff] at rest
      obtain ⟨decoded, known, text, read, named⟩ := rest
      obtain ⟨rfl, colon⟩ := Text.splitOnce_eq_some.mp named
      rw [Text.fromUtf8_eq_some] at read
      exact ⟨scheme, encoded, header, apart, basic, read ▸ known, colon⟩
    · rw [Bool.not_eq_true] at basic
      simp only [basic, Bool.not_false, if_true] at rest
      cases rest
  · rintro ⟨scheme, encoded, header, apart, basic, known, colon⟩
    refine ⟨_, header, scheme, encoded, Text.splitOnce_append apart encoded, ?_⟩
    simp only [basic, known, Text.fromUtf8_utf8, Text.splitOnce_append colon, Bool.not_true, Bool.false_eq_true,
      if_false, Option.bind_some]

private theorem checkBasic_ok :
    checkBasic c policy request id = .ok () ↔ ∃ key, policy.keyFor id = some key ∧ Presents c request id key := by
  unfold checkBasic
  constructor
  · intro passed
    cases presented : credentials c request with
    | none => simp [presented] at passed
    | some pair =>
      obtain ⟨user, password⟩ := pair
      simp only [presented] at passed
      cases known : policy.keyFor id with
      | none => simp [known] at passed
      | some key =>
        simp only [known, Option.isNone_some, Bool.false_eq_true, if_false, Option.getD_some] at passed
        by_cases same : (constantTimeEq user.utf8 id.utf8 && constantTimeEq password.utf8 key.utf8) = true
        · rw [Bool.and_eq_true, constantTimeEq_iff, constantTimeEq_iff] at same
          obtain rfl := Text.utf8_injective same.1
          obtain rfl := Text.utf8_injective same.2
          exact ⟨password, rfl, credentials_eq_some.mp presented⟩
        · rw [if_neg same] at passed
          cases passed
  · rintro ⟨key, known, presents⟩
    rw [credentials_eq_some.mpr presents]
    simp [known, constantTimeEq_iff]

/-- What a central system asks of a request for that station. -/
def Trusted (c : Crates) (policy : SecurityPolicy) (identity : PeerIdentity) (request : Request) (id : Text) : Prop :=
  match policy.profile with
  | .none => True
  | .basicAuth => ∃ key, policy.keyFor id = some key ∧ Presents c request id key
  | .basicAuthTls => identity ≠ .plain ∧ ∃ key, policy.keyFor id = some key ∧ Presents c request id key
  | .mutualTls => identity = .certificate (some id)

private theorem check_ok : check c policy request id peer = .ok () ↔ Trusted c policy peer request id := by
  unfold check Trusted
  cases policy.profile with
  | none => simp
  | basicAuth => exact checkBasic_ok
  | basicAuthTls =>
    by_cases plain : peer = .plain
    · simp [plain]
    · rw [if_neg plain, checkBasic_ok]
      simp [plain]
  | mutualTls =>
    cases peer with
    | plain => simp
    | noCertificate => simp
    | certificate commonName => by_cases same : commonName = some id <;> simp [same]

/-! ## Any request -/

/-- The path names that station in its last segment that is not empty. -/
def Names (c : Crates) (path id : Text) : Prop :=
  ∃ front segment n, path = front ++ List.replicate n '/' ∧ Text.EndsIn '/' front segment ∧ segment ≠ [] ∧
    c.percentDecode segment = Text.utf8 id ∧ id ≠ [] ∧ id.len ≤ maxStationIdLen ∧ id.any Text.isControl = false

private theorem stationIdFromPath_eq_some {path : Text} : stationIdFromPath c path = some id ↔ Names c path id := by
  unfold stationIdFromPath Names
  simp only [Option.bind_eq_bind, Option.bind_eq_some_iff, Text.find_eq_some, Text.fromUtf8_eq_some]
  constructor
  · rintro ⟨segment, ⟨some, front, n, same, ends⟩, decoded, read, rest⟩
    by_cases good : (!decoded.isEmpty && decide (decoded.len ≤ maxStationIdLen) && !decoded.any Text.isControl) = true
    · rw [if_pos good] at rest
      obtain rfl := Option.some.inj rest
      simp only [Bool.and_eq_true, Bool.not_eq_true', decide_eq_true_eq, List.isEmpty_eq_false_iff] at good
      exact ⟨front, segment, n, same, ends, some, read, good.1.1, good.1.2, good.2⟩
    · rw [if_neg good] at rest
      cases rest
  · rintro ⟨front, segment, n, same, ends, some, read, named, short, plain⟩
    refine ⟨segment, ⟨some, front, n, same, ends⟩, id, read, ?_⟩
    simp only [plain, short, List.isEmpty_eq_false_iff.mpr named, Bool.not_false, decide_true, Bool.and_self, if_true]

/-- A denied station gets the status of its scheme, and no hint. -/
theorem response_denied (denied : Denied) :
    denied.response.body = "unauthorized" ∧ denied.response.status = (if denied.basic then 401 else 403) := by
  by_cases basic : denied.basic = true <;> simp [Denied.response, basic]

/-- A refusal that is no denial has a status of its own. -/
theorem refused_status {gate : Gate} {answer : Refusal} (refused : gate.callback c peer request = .refused answer) :
    answer.status = 400 ∨ answer.status = 503 := by
  unfold Gate.callback at refused
  cases path : stationIdFromPath c request.path with
  | none =>
    rw [path] at refused
    obtain rfl := Admission.refused.inj refused
    exact .inl rfl
  | some found =>
    simp only [path] at refused
    cases checked : check c gate.security request found peer with
    | error denied => simp [checked] at refused
    | ok _ =>
      simp only [checked] at refused
      cases picked : gate.subprotocol.choose (offeredProtocols request) with
      | error reason =>
        rw [picked] at refused
        obtain rfl := Admission.refused.inj refused
        exact .inl rfl
      | ok name =>
        simp only [picked] at refused
        split at refused
        · obtain rfl := Admission.refused.inj refused
          exact .inr rfl
        · split at refused
          · cases refused
          · obtain rfl := Admission.refused.inj refused
            exact .inl rfl

private theorem callback_admitted {gate : Gate} {chosen : Option Text} :
    gate.callback c peer request = .admitted id chosen ↔
      stationIdFromPath c request.path = some id ∧ check c gate.security request id peer = .ok () ∧
        gate.subprotocol.choose (offeredProtocols request) = .ok chosen ∧ gate.limitReached id = false ∧
        chosen.all c.isHeaderValue = true := by
  unfold Gate.callback
  cases path : stationIdFromPath c request.path with
  | none => simp
  | some found =>
    dsimp only
    cases checked : check c gate.security request found peer with
    | error denied =>
      constructor
      · intro admitted
        cases admitted
      · rintro ⟨⟨⟩, passed, -⟩
        rw [checked] at passed
        cases passed
    | ok _ =>
      cases picked : gate.subprotocol.choose (offeredProtocols request) with
      | error reason => simp
      | ok name =>
        by_cases full : gate.limitReached found = true
        · constructor
          · simp [full]
          · rintro ⟨⟨⟩, -, -, room, -⟩
            simp [full] at room
        · by_cases valid : name.all c.isHeaderValue = true
          · simp only [full, valid, Bool.false_eq_true, if_false, if_true]
            constructor
            · rintro ⟨⟩
              exact ⟨rfl, checked, rfl, by simpa using full, valid⟩
            · rintro ⟨⟨⟩, -, ⟨⟩, -⟩
              rfl
          · constructor
            · simp [full, valid]
            · rintro ⟨⟨⟩, -, ⟨⟩, -, rest⟩
              exact absurd rest valid

private theorem callback_denied {gate : Gate} {denied : Denied} :
    gate.callback c peer request = .denied id denied ↔
      stationIdFromPath c request.path = some id ∧ check c gate.security request id peer = .error denied := by
  unfold Gate.callback
  cases path : stationIdFromPath c request.path with
  | none => simp
  | some found =>
    dsimp only
    cases checked : check c gate.security request found peer with
    | error denied' =>
      constructor
      · rintro ⟨⟩
        exact ⟨rfl, checked⟩
      · rintro ⟨⟨⟩, same⟩
        rw [checked] at same
        obtain rfl := Except.error.inj same
        rfl
    | ok _ =>
      constructor
      · intro refused
        cases picked : gate.subprotocol.choose (offeredProtocols request) with
        | error reason => simp [picked] at refused
        | ok name =>
          simp only [picked] at refused
          split at refused
          · cases refused
          · split at refused <;> cases refused
      · rintro ⟨⟨⟩, same⟩
        rw [checked] at same
        cases same

/-- What it takes to be upgraded. -/
def LetIn (c : Crates) (gate : Gate) (identity : PeerIdentity) (request : Request) (id : Text) (chosen : Option Text) :
    Prop :=
  Names c request.path id ∧ Trusted c gate.security identity request id ∧
    gate.subprotocol.choose (offeredProtocols request) = .ok chosen ∧ gate.limitReached id = false ∧
    chosen.all c.isHeaderValue = true

/-- A station is admitted exactly when it is let in. -/
theorem admitted_iff {gate : Gate} {chosen : Option Text} :
    gate.callback c peer request = .admitted id chosen ↔ LetIn c gate peer request id chosen := by
  rw [callback_admitted, stationIdFromPath_eq_some, check_ok, LetIn]

/-- A station is denied exactly when it is named and not trusted. -/
theorem denied_iff {gate : Gate} :
    (∃ denied, gate.callback c peer request = .denied id denied) ↔
      Names c request.path id ∧ ¬Trusted c gate.security peer request id := by
  simp only [callback_denied, exists_and_left, stationIdFromPath_eq_some, ← check_ok]
  apply and_congr_right
  intro _
  cases check c gate.security request id peer with
  | error denied => simp
  | ok _ => simp

/-- **Who is let in.** A request is upgraded for a station exactly when its path names it, it is trusted for it, a
subprotocol is found and there is room. A station that is not trusted is told no more than whether it is a matter of
its password or of its certificate. -/
theorem admission_exact (c : Crates) (gate : Gate) (identity : PeerIdentity) (request : Request) (id : Text) :
    (∀ chosen, gate.callback c identity request = .admitted id chosen ↔ LetIn c gate identity request id chosen) ∧
    ((∃ denied, gate.callback c identity request = .denied id denied) ↔
      Names c request.path id ∧ ¬Trusted c gate.security identity request id) ∧
    ∀ denied, gate.callback c identity request = .denied id denied →
      denied.response.body = "unauthorized" ∧ denied.response.status = (if denied.basic then 401 else 403) :=
  ⟨fun _ => admitted_iff, denied_iff, fun denied _ => response_denied denied⟩

/-! ## The request of a station -/

/-- The request that the central system reads is the one that the station wrote. -/
structure Delivered (c : Crates) (url : Url) (subprotocol key : Text) (request : Request) : Prop where
  path : request.path = url.path
  headers : request.headers = (requestHeaders c url subprotocol key).map fun header =>
    (header.1.toAsciiLowercase, some header.2)

/-- What the crates document of their encodings, for an id and a key. -/
structure Crates.Encodes (c : Crates) (id : Text) (key : Option Text) : Prop where
  utf8Lossy : ∀ text ∈ [id, key.getD [], []], c.utf8Lossy (Text.utf8 text) = text
  userinfo : ∀ text ∈ [id, key.getD []], c.percentDecode (c.userinfo text) = Text.utf8 text
  userinfo_some : c.userinfo id ≠ []
  percentDecode_nil : c.percentDecode [] = []
  base64 : ∀ bytes ∈ key.map fun key => Text.utf8 (id ++ ':' :: key),
    c.base64Decode (c.base64 bytes) = some bytes ∧ ∀ x ∈ c.base64 bytes, Text.isWhitespace x = false
  /-- The id becomes one segment. -/
  push : ∃ segment, segment ≠ [] ∧ '/' ∉ segment ∧ c.percentDecode segment = Text.utf8 id ∧
    c.push ['/'] id = '/' :: segment ∧ ∀ path, ∃ front, c.push path id = front ++ '/' :: segment

/-- An id that the central system takes. -/
structure Usable (id : Text) : Prop where
  some : id ≠ []
  short : id.len ≤ maxStationIdLen
  plain : id.any Text.isControl = false

/-- The request of a station names it, and no other. -/
theorem names_chargePointUrl {key : Option Text} (encodes : c.Encodes id key) (usable : Usable id) (base : Url)
    (rooted : ∃ rest, base.path = '/' :: rest) : Names c (chargePointUrl c base id).path id := by
  obtain ⟨segment, some, apart, read, root, pushed⟩ := encodes.push
  obtain ⟨rest, rooted⟩ := rooted
  have encoded : (c.push ['/'] id).dropWhile (· = '/') = segment := by
    rw [root, List.dropWhile_cons_of_pos (by simp)]
    cases segment with
    | nil => rfl
    | cons x segment =>
      apply List.dropWhile_cons_of_neg
      intro slash
      exact apart (by simp [of_decide_eq_true slash])
  have ends (front : Text) : Text.EndsIn '/' (front ++ '/' :: segment) segment :=
    ⟨apart, front ++ ['/'], by simp, .inr ⟨front, rfl⟩⟩
  by_cases there : (Text.split '/' (base.path.drop 1)).getLast? = .some segment
  · rw [chargePointUrl, encoded, if_pos there]
    rw [rooted] at there ⊢
    obtain ⟨-, front, same, start⟩ := Text.endsIn_of_split there
    have split : '/' :: rest = ('/' :: front) ++ segment := by simpa using same
    refine ⟨'/' :: rest, segment, 0, by simp, ⟨apart, '/' :: front, split, .inr ?_⟩, some, read, usable.some,
      usable.short, usable.plain⟩
    rcases start with rfl | ⟨front', rfl⟩
    · exact ⟨[], rfl⟩
    · exact ⟨'/' :: front', rfl⟩
  · rw [chargePointUrl, encoded, if_neg there]
    obtain ⟨front, same⟩ := pushed (c.popIfEmpty base.path)
    refine ⟨front ++ '/' :: segment, segment, 0, ?_, ends front, some, read, usable.some, usable.short, usable.plain⟩
    rw [same, List.replicate_zero, List.append_nil]

private theorem authorization_chargePointUrl (base : Url) (id : Text) :
    authorization c (chargePointUrl c base id) = authorization c base := by
  unfold chargePointUrl
  dsimp only
  split <;> rfl

/-- The credentials that a station sends of its own. -/
theorem authorization_own {profile : Nat} {key : Option Text} (encodes : c.Encodes id key) {base : Url}
    (anonymous : base.username = [] ∧ base.password = none) :
    authorization c (applyAuthorizationKey c profile key id base) =
      if profile = 1 ∨ profile = 2 then
        key.map fun key => "Basic ".toList ++ c.base64 (Text.utf8 (id ++ ':' :: key))
      else none := by
  obtain ⟨user, password⟩ := anonymous
  have nobody : authorization c base = none := by simp [authorization, user, password]
  cases key with
  | none => by_cases basic : profile = 1 ∨ profile = 2 <;> simp [applyAuthorizationKey, basic, nobody]
  | some key =>
    by_cases basic : profile = 1 ∨ profile = 2
    · have sent : c.utf8Lossy (c.percentDecode ((if key.isEmpty then none else some (c.userinfo key)).getD [])) =
          key := by
        cases key with
        | nil =>
          exact (congrArg c.utf8Lossy encodes.percentDecode_nil).trans (encodes.utf8Lossy [] (by simp))
        | cons x key =>
          exact (congrArg c.utf8Lossy (encodes.userinfo _ (by simp))).trans (encodes.utf8Lossy _ (by simp))
      have named : c.utf8Lossy (c.percentDecode (c.userinfo id)) = id := by
        rw [encodes.userinfo id (by simp), encodes.utf8Lossy id (by simp)]
      simp only [applyAuthorizationKey, basic, password, and_self, if_true, authorization, sent, named, Option.map_some]
      rw [if_neg]
      simp [encodes.userinfo_some]
    · simp [applyAuthorizationKey, basic, nobody]

variable {url : Url} {subprotocol websocketKey : Text}

private theorem header_authorization (delivered : Delivered c url subprotocol websocketKey request) :
    request.header "authorization".toList = authorization c url := by
  rw [Request.header, delivered.headers, requestHeaders]
  cases authorization c url with
  | none => rfl
  | some value => rfl

private theorem offeredProtocols_own (delivered : Delivered c url subprotocol websocketKey request)
    (one : ',' ∉ subprotocol) (trimmed : subprotocol.trim = subprotocol) (some : subprotocol ≠ []) :
    offeredProtocols request = [subprotocol] := by
  have lines : (request.headers.filter (·.1 = "sec-websocket-protocol".toList)).filterMap (·.2) = [subprotocol] := by
    rw [delivered.headers, requestHeaders]
    cases authorization c url with
    | none => rfl
    | some value => rfl
  rw [offeredProtocols, lines]
  simp [Text.split_of_not_mem one, trimmed, some]

/-- The credentials of a station are good exactly for the key that it was configured with. -/
theorem presents_own {known : Text} (encodes : c.Encodes id (some known))
    (delivered : Delivered c url subprotocol websocketKey request)
    (sent : authorization c url = some ("Basic ".toList ++ c.base64 (Text.utf8 (id ++ ':' :: known)))) (key : Text) :
    Presents c request id key ↔ key = known ∧ ':' ∉ id := by
  have header := (header_authorization delivered).trans sent
  have parts : "Basic ".toList ++ c.base64 (Text.utf8 (id ++ ':' :: known)) =
      "Basic".toList ++ ' ' :: c.base64 (Text.utf8 (id ++ ':' :: known)) := rfl
  rw [parts] at header
  obtain ⟨decodes, plain⟩ := encodes.base64 (Text.utf8 (id ++ ':' :: known)) rfl
  have solid := Text.trim_of_none plain
  constructor
  · rintro ⟨scheme, encoded, given, apart, -, decoded, colon⟩
    rw [header] at given
    have split := Text.splitOnce_append apart encoded
    rw [← Option.some.inj given, Text.splitOnce_append (by decide)] at split
    obtain ⟨-, rfl⟩ := Prod.mk.inj (Option.some.inj split)
    rw [solid, decodes] at decoded
    have same := Text.utf8_injective (Option.some.inj decoded)
    exact ⟨(List.cons.inj (List.append_cancel_left same)).2.symm, colon⟩
  · rintro ⟨rfl, colon⟩
    refine ⟨_, _, header, by decide, by decide, ?_, colon⟩
    rw [solid, decodes]

/-- What the two ends have to agree on. -/
def Agreed (security : SecurityPolicy) (identity : PeerIdentity) (profile : Nat) (key : Option Text) (id : Text) :
    Prop :=
  let password := (profile = 1 ∨ profile = 2) ∧ key.isSome ∧ key = security.keyFor id ∧ ':' ∉ id
  match security.profile with
  | .none => True
  | .basicAuth => password
  | .basicAuthTls => identity ≠ .plain ∧ password
  | .mutualTls => identity = .certificate (some id)

/-- A station is trusted exactly when both ends agree. -/
theorem trusted_own {profile : Nat} {key : Option Text} (encodes : c.Encodes id key) {base : Url}
    (anonymous : base.username = [] ∧ base.password = none) (security : SecurityPolicy) (identity : PeerIdentity)
    (delivered : Delivered c (chargePointUrl c (applyAuthorizationKey c profile key id base) id) subprotocol
      websocketKey request) : Trusted c security identity request id ↔ Agreed security identity profile key id := by
  have sent : authorization c (chargePointUrl c (applyAuthorizationKey c profile key id base) id) = _ :=
    (authorization_chargePointUrl _ id).trans (authorization_own encodes anonymous)
  have password : (∃ known, security.keyFor id = some known ∧ Presents c request id known) ↔
      (profile = 1 ∨ profile = 2) ∧ key.isSome ∧ key = security.keyFor id ∧ ':' ∉ id := by
    have silent (none : authorization c (chargePointUrl c (applyAuthorizationKey c profile key id base) id) = none)
        (known : Text) : ¬Presents c request id known := by
      rintro ⟨scheme, encoded, given, -⟩
      rw [header_authorization delivered, none] at given
      cases given
    by_cases basic : profile = 1 ∨ profile = 2
    · cases key with
      | none =>
        have none := silent (sent.trans (by simp [basic]))
        simp [none]
      | some key =>
        have good := presents_own encodes delivered (sent.trans (by simp only [basic, if_true, Option.map_some]))
        simp only [good, basic, true_and, Option.isSome_some]
        constructor
        · rintro ⟨known, configured, rfl, colon⟩
          exact ⟨configured.symm, colon⟩
        · rintro ⟨configured, colon⟩
          exact ⟨key, configured.symm, rfl, colon⟩
    · have none := silent (sent.trans (by simp [basic]))
      simp [none, basic]
  unfold Trusted Agreed
  cases security.profile with
  | none => rfl
  | basicAuth => exact password
  | basicAuthTls => exact and_congr_right fun _ => password
  | mutualTls => rfl

/-- The crates, on the station `CP` with the key `k`. -/
def aCrates : Crates where
  percentDecode := Text.utf8
  utf8Lossy bytes := (Text.fromUtf8 bytes).getD []
  base64 _ := ['Q', '1', 'A', '6', 'a', 'w', '=', '=']
  base64Decode text :=
    if text = ['Q', '1', 'A', '6', 'a', 'w', '=', '='] then some (Text.utf8 ['C', 'P', ':', 'k']) else none
  userinfo text := text
  popIfEmpty path := path
  push path id := if path = ['/'] then '/' :: id else path ++ '/' :: id
  deriveAcceptKey _ := "s3pPLMBiTxaQ9kYGzzhZRbK+xOo=".toList
  isHeaderValue _ := true

/-- `ws://h/ocpp` -/
def aUrl : Url where
  host := ['h']
  path := "/ocpp".toList

def aRequest : Request where
  path := "/ocpp/CP".toList
  headers := (requestHeaders aCrates
    (chargePointUrl aCrates (applyAuthorizationKey aCrates 1 (some ['k']) ['C', 'P'] aUrl) ['C', 'P'])
    "ocpp1.6".toList "dGhlIHNhbXBsZSBub25jZQ==".toList).map fun header => (header.1.toAsciiLowercase, some header.2)

def aGate : Gate where
  security := { profile := .basicAuth, keys := [(['C', 'P'], ['k'])] }
  subprotocol := .require "ocpp1.6".toList
  limitReached _ := false

/-- The encodings of the example decode what they encode. -/
theorem aCrates_encodes : aCrates.Encodes ['C', 'P'] (some ['k']) where
  utf8Lossy text _ := by simp only [aCrates, Text.fromUtf8_utf8, Option.getD_some]
  userinfo _ _ := rfl
  userinfo_some := by decide
  percentDecode_nil := rfl
  base64 bytes mem := by
    have same : bytes = Text.utf8 ['C', 'P', ':', 'k'] := (Option.some.inj mem).symm
    have decodes : aCrates.base64Decode ['Q', '1', 'A', '6', 'a', 'w', '=', '='] =
        some (Text.utf8 ['C', 'P', ':', 'k']) := by
      simp only [aCrates, if_true]
    have plain : ∀ x ∈ ['Q', '1', 'A', '6', 'a', 'w', '=', '='], Text.isWhitespace x = false := by
      simp [Text.isWhitespace]
    exact ⟨same ▸ decodes, plain⟩
  push := by
    refine ⟨['C', 'P'], by decide, by decide, rfl, rfl, fun path => ?_⟩
    by_cases root : path = ['/']
    · exact ⟨[], if_pos root⟩
    · exact ⟨path, if_neg root⟩

end Handshake

end KirbyOcpp
