import Mathlib.Data.List.Basic

/-!
# Output that never blocks its caller: `stdout_pump.rs`

Callers of `send` put lines into a bounded channel, a writer thread takes them out and gives them to a sink that may
be as slow as it likes. Both sides share the counter of the queued bytes and the counter of the dropped lines. A move
is one action on what they share, and the moves of the two sides interleave freely; the lock around the channel keeps
two calls of `send` and `finish` apart.
-/

namespace KirbyOcpp

namespace LinePump

/-- Lines that may wait for a slow reader before new ones are dropped. -/
def queue : Nat := 8192

/-- Bytes that may wait for a slow reader before new lines are dropped. -/
def queueBytes : Nat := 16 * 1024 * 1024

/-- The bounds of the pump. -/
structure Settings where
  lines : Nat := queue
  maxBytes : Nat := queueBytes

/-- What the writer gives to the sink. -/
inductive Written where
  | line (content : String)
  /-- How many lines were dropped. -/
  | note (missed : Nat)
deriving DecidableEq

/-- Where the call of `send` that has the lock stands. -/
inductive Sending where
  | idle
  /-- Its bytes are added to `queued`, which was `before`. -/
  | added (line : String) (before : Nat)
  /-- The channel had no room. -/
  | full (line : String)
  /-- Its bytes are taken off again, and it is about to be counted. -/
  | dropping (line : String)
  /-- The channel has no receiver. -/
  | disconnected (line : String)
deriving DecidableEq

/-- Where the writer thread stands. -/
inductive Writing where
  | receiving
  | took (line : String)
  /-- The bytes of the line are taken off. -/
  | freed (line : String)
  | swapped (line : String) (missed : Nat)
  | noted (line : String)
  /-- The channel is closed and empty. -/
  | ending
  | last (missed : Nat)
  | done
deriving DecidableEq

end LinePump

open LinePump in
/-- The pump, with what it was given and what became of it. -/
structure LinePump where
  /-- `tx` is there. -/
  isOpen : Bool := true
  channel : List String := []
  dropped : Nat := 0
  queued : Nat := 0
  sending : Sending := .idle
  writing : Writing := .receiving
  /-- What the sink was given, oldest first. -/
  sink : List Written := []
  /-- The lines that `send` was called with, oldest first. -/
  sent : List String := []
  /-- The lines that a call of `send` is done with, and whether it queued them. -/
  log : List (String × Bool) := []
deriving DecidableEq

namespace LinePump

inductive Move where
  /-- A caller of `send` gets the lock. -/
  | send (line : String)
  /-- The next action of the caller that has the lock. -/
  | sender
  /-- The next action of the writer. -/
  | writer
  /-- A caller of `finish` gets the lock. -/
  | finish

/-- The rest of `send`, after `fetch_add`. -/
def sender (s : Settings) (p : LinePump) : LinePump :=
  match p.sending with
  | .idle => p
  | .added line before =>
    -- A single line is always accepted by an empty queue, however big it is.
    if 0 < before && s.maxBytes < before + line.utf8ByteSize then
      { p with queued := p.queued - line.utf8ByteSize, sending := .dropping line }
    else if p.writing = .done then { p with sending := .disconnected line }
    else if s.lines ≤ p.channel.length then { p with sending := .full line }
    else { p with channel := p.channel ++ [line], sending := .idle, log := p.log ++ [(line, true)] }
  | .full line => { p with queued := p.queued - line.utf8ByteSize, sending := .dropping line }
  | .dropping line => { p with dropped := p.dropped + 1, sending := .idle, log := p.log ++ [(line, false)] }
  | .disconnected line =>
    { p with queued := p.queued - line.utf8ByteSize, sending := .idle, log := p.log ++ [(line, false)] }

/-- A note, if something was missed. -/
def noteOf (missed : Nat) : List Written := if 0 < missed then [.note missed] else []

/-- The body of the writer thread. -/
def writer (p : LinePump) : LinePump :=
  match p.writing with
  | .receiving =>
    match p.channel with
    | line :: rest => { p with channel := rest, writing := .took line }
    | [] => if p.isOpen then p else { p with writing := .ending }
  | .took line => { p with queued := p.queued - line.utf8ByteSize, writing := .freed line }
  | .freed line => { p with dropped := 0, writing := .swapped line p.dropped }
  | .swapped line missed => { p with sink := p.sink ++ noteOf missed, writing := .noted line }
  | .noted line => { p with sink := p.sink ++ [.line line], writing := .receiving }
  | .ending => { p with dropped := 0, writing := .last p.dropped }
  | .last missed => { p with sink := p.sink ++ noteOf missed, writing := .done }
  | .done => p

/-- One action; who has not got the lock waits for it. -/
def move (s : Settings) (p : LinePump) : Move → LinePump
  | .send line =>
    if p.sending = .idle ∧ p.isOpen then
      { p with queued := p.queued + line.utf8ByteSize, sending := .added line p.queued, sent := p.sent ++ [line] }
    else p
  | .sender => p.sender s
  | .writer => p.writer
  | .finish => if p.sending = .idle then { p with isOpen := false } else p

def run (s : Settings) (moves : List Move) (p : LinePump) : LinePump := moves.foldl (move s) p

end LinePump

end KirbyOcpp
