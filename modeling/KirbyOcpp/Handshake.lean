import KirbyOcpp.Csms.Registry
import KirbyOcpp.Ocpp.Text
import KirbyOcpp.Station.Certificates

/-!
# The upgrade to WebSocket: `ws/handshake.rs`, and `auth.rs` and `run_session` of the central system

The station writes the head of its request by hand and reads the head of the response byte by byte. The central system
gets the request from its WebSocket library and decides who it is and whether to let it in.

What other crates do with URLs, encodings and HTTP is a parameter (`Crates`). A URL is taken as parsed.
-/

namespace KirbyOcpp

namespace Text

/-- `str::as_bytes`. -/
def utf8 (text : Text) : Bytes := text.flatMap String.utf8EncodeChar

/-- `String::from_utf8`. -/
def fromUtf8 (bytes : Bytes) : Option Text := (ByteArray.mk bytes.toArray).utf8Decode?.map Array.toList

/-- `char::is_control`: the category `Cc` of Unicode. -/
def isControl (c : Char) : Bool := c.toNat < 0x20 || (0x7F ≤ c.toNat && c.toNat ≤ 0x9F)

/-- `str::split("\r\n")`. -/
def splitCrlf : Text → List Text
  | [] => [[]]
  | '\r' :: '\n' :: rest => [] :: splitCrlf rest
  | c :: rest =>
    match splitCrlf rest with
    | [] => [[c]]
    | line :: lines => (c :: line) :: lines

/-- `str::split_whitespace`. -/
def splitWhitespace : Text → List Text
  | [] => []
  | c :: rest =>
    if isWhitespace c then splitWhitespace rest
    else match rest with
      | [] => [[c]]
      | next :: _ =>
        if isWhitespace next then [c] :: splitWhitespace rest
        else match splitWhitespace rest with
          | [] => [[c]]
          | word :: words => (c :: word) :: words

/-- `str::parse` of a `u16`. -/
def parseU16 : Text → Option Nat := parseUnsigned 65535

end Text

namespace Handshake

/-- A request that the WebSocket library has read. -/
structure Request where
  path : Text
  /-- Names in lower case, in the order of the lines; `none`: `HeaderValue::to_str` fails. -/
  headers : List (Text × Option Text)

/-- `percent_encoding`, `base64`, `url`, `http` and `tungstenite`. -/
structure Crates where
  /-- `percent_decode_str`. -/
  percentDecode : Text → Bytes
  /-- `decode_utf8_lossy` and `String::from_utf8_lossy`. -/
  utf8Lossy : Bytes → Text
  /-- `STANDARD.encode` and `STANDARD.decode`. -/
  base64 : Bytes → Text
  base64Decode : Text → Option Bytes
  /-- The user or the password as `Url::set_username` and `Url::set_password` write it. -/
  userinfo : Text → Text
  /-- `PathSegmentsMut::pop_if_empty` and `push`, on the path of a URL. -/
  popIfEmpty : Text → Text
  push : Text → Text → Text
  /-- `derive_accept_key`. -/
  deriveAcceptKey : Bytes → Text
  /-- `HeaderValue::from_str` takes the text. -/
  isHeaderValue : Text → Bool

/-! ## The station: its request -/

structure Url where
  /-- As written, percent-encoded. -/
  username : Text := []
  password : Option Text := none
  host : Text
  port : Option Nat := none
  path : Text
  query : Option Text := none

variable (c : Crates)

/-- `charge_point_url`, of a base with the scheme `ws` or `wss`. -/
def chargePointUrl (base : Url) (chargePointId : Text) : Url :=
  let encodedId := (c.push ['/'] chargePointId).dropWhile (· = '/')
  if (Text.split '/' (base.path.drop 1)).getLast? = some encodedId then base
  else { base with path := c.push (c.popIfEmpty base.path) chargePointId }

/-- `apply_security_transport`, as far as it concerns the URL. -/
def applyAuthorizationKey (profile : Nat) (key : Option Text) (chargePointId : Text) (url : Url) : Url :=
  match key with
  | some key =>
    if (profile = 1 ∨ profile = 2) ∧ url.password = none then
      { url with username := c.userinfo chargePointId
                 password := if key.isEmpty then none else some (c.userinfo key) }
    else url
  | none => url

/-- `Basic base64(user:password)` from the URL userinfo. -/
def authorization (url : Url) : Option Text :=
  if url.username.isEmpty && url.password.isNone then none
  else
    let user := c.utf8Lossy (c.percentDecode url.username)
    let password := c.utf8Lossy (c.percentDecode (url.password.getD []))
    some ("Basic ".toList ++ c.base64 (Text.utf8 (user ++ ':' :: password)))

def crlf : Text := ['\r', '\n']

/-- The lines of some headers. -/
def headerLines (headers : List (Text × Text)) : Text :=
  headers.flatMap fun header => header.1 ++ ": ".toList ++ header.2 ++ crlf

def host (url : Url) : Text :=
  match url.port with
  | some port => url.host ++ ':' :: Text.ofNat port
  | none => url.host

/-- The headers of the upgrade request; `Host` never carries the userinfo. -/
def requestHeaders (url : Url) (subprotocol key : Text) : List (Text × Text) :=
  [("Host".toList, host url), ("Upgrade".toList, "websocket".toList), ("Connection".toList, "Upgrade".toList),
    ("Sec-WebSocket-Key".toList, key), ("Sec-WebSocket-Version".toList, "13".toList),
    ("Sec-WebSocket-Protocol".toList, subprotocol)] ++
  (authorization c url).toList.map fun value => ("Authorization".toList, value)

/-! ## The central system: who it lets in -/

/-- What the TLS layer learned about the client. -/
inductive PeerIdentity where
  | plain
  | noCertificate
  | certificate (commonName : Option Text)
deriving DecidableEq

inductive SecurityProfile where
  | none | basicAuth | basicAuthTls | mutualTls
deriving DecidableEq

structure SecurityPolicy where
  profile : SecurityProfile := .none
  /-- Station id to its key. -/
  keys : List (Text × Text) := []
  defaultKey : Option Text := none

/-- The key a station must present, if one is configured. -/
def SecurityPolicy.keyFor (policy : SecurityPolicy) (station : Text) : Option Text :=
  ((policy.keys.lookup station).or policy.defaultKey).filter fun key => !key.isEmpty

/-- How a refusal is answered. -/
structure Denied where
  reason : String
  /-- Basic Auth problem rather than a certificate problem. -/
  basic : Bool
deriving DecidableEq

/-- A refusal of the upgrade. -/
structure Refusal where
  status : Nat
  body : String
  challenge : Option String := none
deriving DecidableEq

def Denied.response (denied : Denied) : Refusal :=
  if denied.basic then
    { status := 401, body := "unauthorized", challenge := some "Basic realm=\"kirby-csms\", charset=\"UTF-8\"" }
  else { status := 403, body := "unauthorized" }

/-- The first header of that name. -/
def Request.header (request : Request) (name : Text) : Option Text := (request.headers.lookup name).join

/-- The user and password of an `Authorization: Basic` header. -/
def credentials (request : Request) : Option (Text × Text) := do
  let value ← request.header "authorization".toList
  let (scheme, encoded) ← value.splitOnce ' '
  if !scheme.eqIgnoreAsciiCase "basic".toList then none
  let decoded ← c.base64Decode encoded.trim
  let text ← Text.fromUtf8 decoded
  text.splitOnce ':'

/-- Compares without stopping at the first difference (the length is compared too). -/
def constantTimeEq (a b : Bytes) : Bool :=
  let diff := (List.range (max a.length b.length)).foldl
    (fun diff i => diff ||| (a.getD i 0 ^^^ b.getD i 0).toNat) (a.length ^^^ b.length)
  diff == 0

def checkBasic (policy : SecurityPolicy) (request : Request) (id : Text) : Except Denied Unit :=
  match credentials c request with
  | none => .error ⟨"missing or malformed credentials", true⟩
  | some (user, password) =>
    let key := policy.keyFor id
    let userOk := constantTimeEq user.utf8 id.utf8
    let keyOk := constantTimeEq password.utf8 (key.getD []).utf8
    if key.isNone then .error ⟨"no key configured for the station", true⟩
    else if userOk && keyOk then .ok ()
    else .error ⟨"invalid credentials", true⟩

/-- Checks a handshake request for station `id` against `policy`. -/
def check (policy : SecurityPolicy) (request : Request) (id : Text) (peer : PeerIdentity) : Except Denied Unit :=
  match policy.profile with
  | .none => .ok ()
  | .basicAuth => checkBasic c policy request id
  | .basicAuthTls => if peer = .plain then .error ⟨"TLS required", false⟩ else checkBasic c policy request id
  | .mutualTls =>
    match peer with
    | .plain => .error ⟨"TLS required", false⟩
    | .noCertificate => .error ⟨"client certificate required", false⟩
    | .certificate commonName =>
      if commonName = some id then .ok ()
      else .error ⟨"client certificate does not match the station id", false⟩

/-- Longest accepted station id, in bytes after percent-decoding. -/
def maxStationIdLen : Nat := 128

/-- The station id of a URL path: the last non-empty segment, percent-decoded. -/
def stationIdFromPath (path : Text) : Option Text := do
  let segment ← (Text.split '/' path).reverse.find? fun segment => !segment.isEmpty
  let decoded ← Text.fromUtf8 (c.percentDecode segment)
  if !decoded.isEmpty && decoded.len ≤ maxStationIdLen && !decoded.any Text.isControl then some decoded else none

/-- How the central system answers the WebSocket subprotocol negotiation. -/
inductive SubprotocolPolicy where
  | require (name : Text)
  | select (name : Text)
  | omit
  | reject

/-- `SubprotocolPolicy::select`. -/
def SubprotocolPolicy.choose (policy : SubprotocolPolicy) (offered : List Text) : Except String (Option Text) :=
  match policy with
  | .require name => if name ∈ offered then .ok (some name) else .error "required subprotocol was not offered"
  | .select name => .ok (some name)
  | .omit => .ok none
  | .reject => .error "handshake rejected by configuration"

/-- The subprotocols the client offered, from every `Sec-WebSocket-Protocol` header line. -/
def offeredProtocols (request : Request) : List Text :=
  ((((request.headers.filter (·.1 = "sec-websocket-protocol".toList)).filterMap (·.2)).flatMap
    (Text.split ',')).map Text.trim).filter fun name => !name.isEmpty

/-- What a central system that reads the head of a request makes of it. -/
structure Gate where
  security : SecurityPolicy
  subprotocol : SubprotocolPolicy
  /-- `station_limit_reached`. -/
  limitReached : Text → Bool

/-- What a connection attempt comes to. -/
inductive Admission where
  /-- Upgraded, for that station and with that subprotocol. -/
  | admitted (id : Text) (subprotocol : Option Text)
  | refused (refusal : Refusal)
  /-- Refused and reported as `AuthFailed`. -/
  | denied (id : Text) (denied : Denied)
deriving DecidableEq

/-- An HTTP 400 refusal. -/
def refusal (reason : String) : Refusal := { status := 400, body := reason }

/-- An HTTP 503 refusal. -/
def unavailable (reason : String) : Refusal := { status := 503, body := reason }

/-- The callback of `run_session`. -/
def Gate.callback (gate : Gate) (identity : PeerIdentity) (request : Request) : Admission :=
  match stationIdFromPath c request.path with
  | none => .refused (refusal "no valid charge point id in the URL path")
  | some id =>
    match check c gate.security request id identity with
    | .error denied => .denied id denied
    | .ok () =>
      match gate.subprotocol.choose (offeredProtocols request) with
      | .error reason => .refused (refusal reason)
      | .ok chosen =>
        if gate.limitReached id then .refused (unavailable "too many stations")
        else if chosen.all c.isHeaderValue then .admitted id chosen
        else .refused (refusal "invalid subprotocol name in configuration")

/-! ## The station: the response -/

/-- Largest HTTP response head accepted from the server. -/
def maxHead : Nat := 16 * 1024

def headEnd : Bytes := [13, 10, 13, 10]

/-- How a stream ends. -/
inductive StreamEnd where
  | closed
  | failed (error : String)

inductive ConnectError where
  | handshake (message : Text)
  | httpStatus (status : Nat) (line : Text)
  | subprotocolMismatch (expected : Text)
deriving DecidableEq

/-- Reads the response head byte by byte; what follows it stays in the stream. -/
def readHead (last : StreamEnd) (head stream : Bytes) : Except ConnectError (Bytes × Bytes) :=
  if headEnd.isSuffixOf head then .ok (head, stream)
  else if maxHead ≤ head.length then .error (.handshake "the upgrade response head is too large".toList)
  else match stream with
    | byte :: rest => readHead last (head ++ [byte]) rest
    | [] =>
      match last with
      | .closed => .error (.handshake "the connection closed before the upgrade response".toList)
      | .failed error => .error (.handshake ("cannot read the upgrade response: ".toList ++ error.toList))

structure Head where
  statusLine : Text
  status : Nat
  /-- Header names lower-cased, values trimmed. -/
  headers : List (Text × Text)
deriving DecidableEq

def Head.header (head : Head) (lowercaseName : Text) : Option Text := head.headers.lookup lowercaseName

def parseHead (bytes : Bytes) : Except ConnectError Head :=
  let lines := (c.utf8Lossy bytes).splitCrlf
  let statusLine := lines.head?.getD []
  match (statusLine.splitWhitespace[1]?).bind Text.parseU16 with
  | none => .error (.handshake ("malformed HTTP status line ".toList ++ '\u0060' :: statusLine ++ ['\u0060']))
  | some status =>
    .ok { statusLine, status
          headers := ((lines.tail.takeWhile fun line => !line.isEmpty).filterMap (Text.splitOnce ':')).map
            fun (name, value) => (name.trim.toAsciiLowercase, value.trim) }

/-- What `upgrade` makes of the response to a request with that key; it leaves the stream behind the head. -/
def upgrade (last : StreamEnd) (subprotocol key : Text) (stream : Bytes) : Except ConnectError Bytes := do
  let (bytes, rest) ← readHead last [] stream
  let head ← parseHead c bytes
  if head.status ≠ 101 then .error (.httpStatus head.status head.statusLine)
  else
    let upgrades := (head.header "upgrade".toList).any fun value => value.eqIgnoreAsciiCase "websocket".toList
    let connectionUpgrades := (head.header "connection".toList).any fun value =>
      (Text.split ',' value).any fun token => token.trim.eqIgnoreAsciiCase "upgrade".toList
    let accepted := head.header "sec-websocket-accept".toList = some (c.deriveAcceptKey key.utf8)
    if !(upgrades && connectionUpgrades && accepted) then
      .error (.handshake "the upgrade response is not a valid WebSocket handshake".toList)
    else if head.header "sec-websocket-protocol".toList ≠ some subprotocol then
      .error (.subprotocolMismatch subprotocol)
    else .ok rest

end Handshake

end KirbyOcpp
