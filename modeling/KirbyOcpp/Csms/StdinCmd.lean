import KirbyOcpp.Ocpp.Frame
import KirbyOcpp.Ocpp.Text

/-!
# Commands on the standard input: `stdin_cmd.rs`

A thread splits the input into lines, a dispatcher answers each line. What the input gives at a time is up to the
system (`Read`): a part of a line, several lines, or an interruption.
-/

namespace KirbyOcpp.Csms.StdinCmd

open Ws (Json Frame)

/-- Longest `timeout_ms` accepted: one day. -/
def maxTimeoutMs : Nat := 86400000

/-- Longest input line accepted, bytes. -/
def maxLineBytes : Nat := 1024 * 1024

abbrev newline : UInt8 := 10

/-! ## Reading -/

/-- What one read of the system gives. No bytes are the end of the input. -/
inductive Read where
  | data (bytes : List UInt8)
  | interrupted
  | failed

/-- A buffered reader: what it has read and not handed out, and what it will read. -/
structure Reader where
  buffer : List UInt8 := []
  source : List Read

/-- What `fill_buf` gives. -/
inductive Filled where
  | chunk (bytes : List UInt8)
  | interrupted
  | failed

/-- `BufRead::fill_buf`: reads only if the buffer is empty. -/
def Reader.fillBuf (r : Reader) : Filled × Reader :=
  if r.buffer.isEmpty then
    match r.source with
    | [] => (.chunk [], r)
    | .data bytes :: source => (.chunk bytes, { buffer := bytes, source })
    | .interrupted :: source => (.interrupted, { r with source })
    | .failed :: source => (.failed, { r with source })
  else (.chunk r.buffer, r)

/-- `BufRead::consume`. -/
def Reader.consume (r : Reader) (n : Nat) : Reader := { r with buffer := r.buffer.drop n }

/-- One unit of input from the reader thread. -/
inductive Item where
  | line (bytes : List UInt8)
  /-- A line longer than the limit; its bytes were discarded. -/
  | tooLong
deriving DecidableEq

/-- The line that is being read. Never more than `limit` bytes of it are kept. -/
structure Partial (limit : Nat) where
  line : List UInt8 := []
  tooLong : Bool := false
  bounded : line.length ≤ limit

namespace Partial

variable {limit : Nat}

/-- Nothing of a line yet. -/
def empty : Partial limit where
  bounded := Nat.zero_le _

/-- More bytes of the line. -/
def extend (p : Partial limit) (part : List UInt8) : Partial limit :=
  if p.tooLong then p
  else if fits : p.line.length + part.length ≤ limit then
    { line := p.line ++ part, tooLong := false, bounded := by simpa using fits }
  else { line := [], tooLong := true, bounded := Nat.zero_le _ }

/-- The line is complete. -/
def item (p : Partial limit) : Item := if p.tooLong then .tooLong else .line p.line

end Partial

/-- The bytes before the first newline, and whether there is one. -/
def firstPart (chunk : List UInt8) : List UInt8 × Bool :=
  match chunk.idxOf? newline with
  | some at' => (chunk.take at', true)
  | none => (chunk, false)

/-- What is left to read, counted so that each turn of `readLines` has less. -/
def Reader.left (r : Reader) : Nat :=
  r.buffer.length + (r.source.map fun
    | .data bytes => bytes.length + 1
    | _ => 1).sum

theorem Reader.fillBuf_left (r : Reader) :
    match r.fillBuf with
    | (.chunk chunk, r') => r'.buffer = chunk ∧ r'.left ≤ r.left
    | (_, r') => r'.left < r.left := by
  rcases r with ⟨_ | ⟨byte, buffer⟩, _ | ⟨_ | _ | _, source⟩⟩ <;> simp [fillBuf, left]

theorem Reader.consume_left {r : Reader} {n : Nat} (some : r.buffer ≠ []) (pos : 0 < n) :
    (r.consume n).left < r.left := by
  have length := List.length_pos_iff.mpr some
  simp only [consume, left, List.length_drop]
  omega

/-- Splits the input into lines of at most `limit` bytes. `sent` is what was sent already; `send` says whether the
receiver took the last item. -/
def readLines (limit : Nat) (send : List Item → Bool) (r : Reader) (p : Partial limit) (sent : List Item) :
    List Item :=
  match filled : r.fillBuf with
  | (.interrupted, r') => readLines limit send r' p sent
  | (.failed, _) => sent
  | (.chunk [], _) =>
    if p.tooLong then sent ++ [.tooLong]
    else if p.line.isEmpty then sent
    else sent ++ [.line p.line]
  | (.chunk (byte :: rest), r') =>
    let part := (firstPart (byte :: rest)).1
    let p := p.extend part
    if ended : (firstPart (byte :: rest)).2 then
      let sent := sent ++ [p.item]
      if send sent then readLines limit send (r'.consume (part.length + 1)) .empty sent else sent
    else readLines limit send (r'.consume part.length) p sent
termination_by r.left
decreasing_by
  · have less := r.fillBuf_left
    rw [filled] at less
    exact less
  · have less := r.fillBuf_left
    rw [filled] at less
    exact lt_of_lt_of_le (Reader.consume_left (by simp [less.1]) (Nat.succ_pos _)) less.2
  · have less := r.fillBuf_left
    rw [filled] at less
    have whole : (firstPart (byte :: rest)).1 = byte :: rest := by
      unfold firstPart at ended ⊢
      split at ended
      · simp at ended
      · rfl
    exact lt_of_lt_of_le (Reader.consume_left (by simp [less.1]) (by simp [whole])) less.2

/-! ## Answering -/

/-- What became of a CALL that a command asked for. -/
inductive CallResult where
  | frame (frame : Frame)
  | error (text : String)

/-- What a command reads, and what it has others do. -/
structure CommandEnv where
  /-- `serde_json::from_str`. -/
  parse : String → Except String Json
  /-- `Display` of a value. -/
  show' : Json → String
  /-- `CsmsHandle::call` or `call_timeout`. -/
  call : String → String → Json → Option Nat → CallResult
  stations : List Json

/-- `str::trim` leaves nothing. -/
def blank (line : String) : Bool := line.toList.all Text.isWhitespace

def addTag (answer : List (String × Json)) (tag : Option Json) : Json :=
  .object (answer ++ (tag.map fun tag => ("id", tag)).toList)

def textOrNull (text : Option String) : Json := (text.map Json.string).getD .null

def failure (tag : Option Json) (station action : Option String) (error : String) : Json :=
  addTag [("type", .string "result"), ("station", textOrNull station), ("action", textOrNull action),
    ("ok", .bool false), ("error", .string error)] tag

/-- A field that is a text with something in it. -/
def textField (object : List (String × Json)) (key : String) : Option String :=
  ((object.lookup key).bind Json.asStr).filter fun text => !text.isEmpty

/-- The `timeout_ms` of a command, if it has one; nothing at all if it is not allowed. -/
def timeoutField (object : List (String × Json)) : Option (Option Nat) :=
  match object.lookup "timeout_ms" with
  | none => some none
  | some value => (value.asU64.filter fun ms => 1 ≤ ms ∧ ms ≤ maxTimeoutMs).map some

/-- The answer to a CALL. -/
def callAnswer (tag : Option Json) (station action : String) : CallResult → Json
  | .frame (.callResult _ payload) =>
    addTag [("type", .string "result"), ("station", .string station), ("action", .string action),
      ("ok", .bool true), ("result", payload)] tag
  | .frame (.callError _ code description details) =>
    addTag [("type", .string "result"), ("station", .string station), ("action", .string action),
      ("ok", .bool false), ("error", .string ("CALLERROR " ++ code.asStr ++ ": " ++ description)),
      ("code", .string code.asStr), ("details", details)] tag
  | .frame (.call _ _ _) => failure tag station action "unexpected CALL as an answer"
  | .error text => failure tag station action text

/-- Executes one input line and gives the line to print. -/
def handleLine (env : CommandEnv) (line : String) : Json :=
  match env.parse line with
  | .error error => failure none none none ("invalid JSON: " ++ error)
  | .ok (.object object) =>
    let tag := object.lookup "id"
    match object.lookup "cmd" with
    | some cmd =>
      if cmd.asStr = some "stations" then
        addTag [("type", .string "stations"), ("stations", .array env.stations)] tag
      else failure tag none none ("unknown cmd " ++ env.show' cmd ++ "; supported: \"stations\"")
    | none =>
      match textField object "station", textField object "action" with
      | some station, some action =>
        match timeoutField object with
        | none => failure tag station action "`timeout_ms` must be 1..=86400000"
        | some timeout =>
          callAnswer tag station action
            (env.call station action ((object.lookup "payload").getD (.object [])) timeout)
      | station, action =>
        failure tag station action "needs string fields `station` and `action` (or `cmd`)"
  | .ok _ => failure none none none "a command must be a JSON object"

/-- The answer line of an item; none for a blank line. -/
def answer (env : CommandEnv) : Item → Option Json
  | .tooLong => some (failure none none none ("line longer than " ++ toString maxLineBytes ++ " bytes, discarded"))
  | .line bytes =>
    match String.fromUTF8? ⟨bytes.toArray⟩ with
    | none => some (failure none none none "line is not valid UTF-8")
    | some line => if blank line then none else some (handleLine env line)

end KirbyOcpp.Csms.StdinCmd
