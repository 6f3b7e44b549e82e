import Mathlib.Algebra.Order.BigOperators.Group.List
import Mathlib.Algebra.Order.Ring.Nat
import KirbyOcpp.LinePump

/-!
# The output pump loses no line silently: `stdout_pump.rs`

**The law** `pump_accounts`: in any interleaving, the lines that were queued come out once each and in their order, the
notes tell of every line that was not queued, each before the first line that was queued after it, and what waits is
bounded in lines and in bytes; after `finish` the writer gets to its end.
-/

namespace KirbyOcpp.LinePump

variable {s : Settings} {p : LinePump}

/-! ## What was written, and what became of the lines -/

/-- The lines that were written. -/
def lines (sink : List Written) : List String :=
  sink.filterMap fun written => match written with
    | .line line => some line
    | .note _ => none

/-- How many lines the notes tell of. -/
def missed (sink : List Written) : Nat :=
  (sink.map fun written => match written with
    | .line _ => 0
    | .note missed => missed).sum

/-- The lines that were queued. -/
def accepted (log : List (String × Bool)) : List String := (log.filter (·.2)).map (·.1)

/-- How many lines were not. -/
def refused (log : List (String × Bool)) : Nat := log.countP (!·.2)

/-- The bytes of some lines. -/
def bytes (lines : List String) : Nat := (lines.map String.utf8ByteSize).sum

@[simp] theorem lines_append (sink more : List Written) : lines (sink ++ more) = lines sink ++ lines more :=
  List.filterMap_append

@[simp] theorem missed_append (sink more : List Written) : missed (sink ++ more) = missed sink + missed more := by
  simp [missed]

@[simp] theorem lines_line (line : String) (after : List Written) :
    lines (.line line :: after) = line :: lines after := rfl

@[simp] theorem lines_nil : lines [] = [] := rfl

@[simp] theorem missed_line (line : String) : missed [.line line] = 0 := rfl

@[simp] theorem lines_noteOf (n : Nat) : lines (noteOf n) = [] := by
  by_cases some : 0 < n <;> simp [noteOf, lines, some]

@[simp] theorem missed_noteOf (n : Nat) : missed (noteOf n) = n := by
  by_cases some : 0 < n
  · simp [noteOf, missed, some]
  · have none : n = 0 := by omega
    simp [noteOf, missed, none]

@[simp] theorem accepted_append (log more : List (String × Bool)) :
    accepted (log ++ more) = accepted log ++ accepted more := by
  simp [accepted]

@[simp] theorem refused_append (log more : List (String × Bool)) : refused (log ++ more) = refused log + refused more :=
  List.countP_append

@[simp] theorem accepted_queued (line : String) : accepted [(line, true)] = [line] := rfl

@[simp] theorem accepted_refused (line : String) : accepted [(line, false)] = [] := rfl

@[simp] theorem refused_queued (line : String) : refused [(line, true)] = 0 := rfl

@[simp] theorem refused_refused (line : String) : refused [(line, false)] = 1 := rfl

@[simp] theorem bytes_nil : bytes [] = 0 := rfl

@[simp] theorem bytes_cons (line : String) (rest : List String) :
    bytes (line :: rest) = line.utf8ByteSize + bytes rest := by
  simp [bytes]

@[simp] theorem bytes_append (front back : List String) : bytes (front ++ back) = bytes front + bytes back := by
  simp [bytes]

/-! ## Where the two sides stand -/

/-- The line that the writer has taken and not written. -/
def Writing.inHand : Writing → List String
  | took line | freed line | swapped line _ | noted line => [line]
  | _ => []

/-- The line that the writer has taken, as long as it counts as queued. -/
def Writing.unfreed : Writing → List String
  | took line => [line]
  | _ => []

/-- The dropped lines that the writer is about to tell of. -/
def Writing.untold : Writing → Nat
  | swapped _ missed | last missed => missed
  | _ => 0

/-- The line of the call of `send` under way. -/
def Sending.line : Sending → List String
  | added line _ | full line | dropping line | disconnected line => [line]
  | idle => []

/-- The bytes that the call has added and that are not in the channel. -/
def Sending.held : Sending → Nat
  | added line _ | full line | disconnected line => line.utf8ByteSize
  | _ => 0

/-- The lines that count as queued. -/
def waiting (p : LinePump) : List String := p.writing.unfreed ++ p.channel

/-- What waits is within the budget, or one line is all that takes room. -/
def Within (maxBytes : Nat) (waiting : List String) : Prop :=
  bytes waiting ≤ maxBytes ∨ ∃ line ∈ waiting, bytes waiting = line.utf8ByteSize

/-- Less than what fits also fits. -/
theorem Within.tail {maxBytes : Nat} {line : String} {rest : List String} (h : Within maxBytes (line :: rest)) :
    Within maxBytes rest := by
  rcases h with few | ⟨big, mem, all⟩
  · left
    simp only [bytes_cons] at few
    omega
  · rcases List.mem_cons.mp mem with rfl | later
    · left
      simp only [bytes_cons] at all
      omega
    · by_cases fits : bytes rest ≤ maxBytes
      · exact .inl fits
      · -- The rest holds the big line, so the first one takes no room.
        right
        have least : big.utf8ByteSize ≤ bytes rest := List.le_sum_of_mem (List.mem_map_of_mem later)
        simp only [bytes_cons] at all
        exact ⟨big, later, by omega⟩

/-- A line is queued only where it fits. -/
theorem Within.push {maxBytes before : Nat} {waiting : List String} {line : String} (seen : bytes waiting ≤ before)
    (fits : ¬(0 < before ∧ maxBytes < before + line.utf8ByteSize)) : Within maxBytes (waiting ++ [line]) := by
  by_cases none : before = 0
  · right
    have empty : bytes waiting = 0 := by omega
    exact ⟨line, by simp, by simp [empty]⟩
  · left
    have room : before + line.utf8ByteSize ≤ maxBytes := by omega
    simp only [bytes_append, bytes_cons, bytes_nil]
    omega

/-- Before the `k`-th queued line no more than `n` lines were refused. -/
def Covers (log : List (String × Bool)) (k n : Nat) : Prop :=
  ∀ older line newer, log = older ++ (line, true) :: newer → (accepted older).length = k → refused older ≤ n

private theorem Covers.of_all {log : List (String × Bool)} {n : Nat} (all : refused log ≤ n) (k : Nat) :
    Covers log k n := by
  rintro older line newer rfl -
  simp only [refused_append] at all
  omega

/-- A later entry uncovers nothing. -/
theorem Covers.push {log : List (String × Bool)} {k n : Nat} (h : Covers log k n) (past : k < (accepted log).length)
    (entry : String × Bool) : Covers (log ++ [entry]) k n := by
  intro older line newer split count
  rcases List.eq_nil_or_concat newer with rfl | ⟨newer, latest, rfl⟩
  · obtain ⟨rfl, -⟩ := List.append_inj' split rfl
    omega
  · have split' : log ++ [entry] = (older ++ (line, true) :: newer) ++ [latest] := by simpa using split
    obtain ⟨rfl, -⟩ := List.append_inj' split' rfl
    exact h older line newer rfl count

/-- Each written line comes after the notes of what was refused before it. -/
def Told (log : List (String × Bool)) (sink : List Written) : Prop :=
  ∀ before line after, sink = before ++ .line line :: after → Covers log (lines before).length (missed before)

/-- A line that is written tells of no loss. -/
theorem Told.line {log : List (String × Bool)} {sink : List Written} (h : Told log sink)
    (covers : Covers log (lines sink).length (missed sink)) (line : String) : Told log (sink ++ [.line line]) := by
  intro before other after split
  rcases List.eq_nil_or_concat after with rfl | ⟨after, latest, rfl⟩
  · obtain ⟨rfl, -⟩ := List.append_inj' split rfl
    exact covers
  · have split' : sink ++ [.line line] = (before ++ .line other :: after) ++ [latest] := by simpa using split
    obtain ⟨rfl, -⟩ := List.append_inj' split' rfl
    exact h before other after rfl

/-- A note tells of the losses before it. -/
theorem Told.note {log : List (String × Bool)} {sink : List Written} (h : Told log sink) (n : Nat) :
    Told log (sink ++ noteOf n) := by
  by_cases some : 0 < n
  · rw [noteOf, if_pos some]
    intro before other after split
    rcases List.eq_nil_or_concat after with rfl | ⟨after, latest, rfl⟩
    · obtain ⟨-, same⟩ := List.append_inj' split rfl
      cases same
    · have split' : sink ++ [.note n] = (before ++ .line other :: after) ++ [latest] := by simpa using split
      obtain ⟨rfl, -⟩ := List.append_inj' split' rfl
      exact h before other after rfl
  · rwa [noteOf, if_neg some, List.append_nil]

/-- What the notes of the sink and of the writer cover. -/
structure Notes (log : List (String × Bool)) (sink : List Written) (writing : Writing) : Prop where
  told : Told log sink
  next : ∀ line, writing = .noted line → Covers log (lines sink).length (missed sink)
  soon : ∀ line n, writing = .swapped line n → Covers log (lines sink).length (missed sink + n)

/-- A send leaves what the notes tell. -/
theorem Notes.push {log : List (String × Bool)} {sink : List Written} {writing : Writing} {channel : List String}
    (h : Notes log sink writing) (order : lines sink ++ writing.inHand ++ channel = accepted log)
    (entry : String × Bool) : Notes (log ++ [entry]) sink writing := by
  have lengths := congrArg List.length order
  simp only [List.length_append] at lengths
  refine ⟨?_, ?_, ?_⟩
  · rintro before line after rfl
    refine (h.told before line after rfl).push ?_ entry
    simp only [lines_append, lines_line, List.length_append, List.length_cons] at lengths
    omega
  · rintro line rfl
    refine (h.next line rfl).push ?_ entry
    simp only [Writing.inHand, List.length_singleton] at lengths
    omega
  · rintro line n rfl
    refine (h.soon line n rfl).push ?_ entry
    simp only [Writing.inHand, List.length_singleton] at lengths
    omega

/-! ## The invariant -/

structure Sound (s : Settings) (p : LinePump) : Prop where
  /-- The lines keep their order, and none is lost or doubled. -/
  order : lines p.sink ++ p.writing.inHand ++ p.channel = accepted p.log
  counted : missed p.sink + p.writing.untold + p.dropped = refused p.log
  sent : p.log.map (·.1) ++ p.sending.line = p.sent
  queued : p.queued = bytes p.waiting + p.sending.held
  room : p.channel.length ≤ s.lines
  within : Within s.maxBytes p.waiting
  /-- While a call looks at what was queued, no more waits than that. -/
  seen : ∀ line before, p.sending = .added line before → bytes p.waiting ≤ before
  notes : Notes p.log p.sink p.writing
  /-- Nobody hangs up on an open pump. -/
  connected : ∀ line, p.sending ≠ .disconnected line
  closed : p.isOpen = false → p.sending = .idle
  ended : p.writing = .ending → p.isOpen = false ∧ p.channel = []
  final : (∃ n, p.writing = .last n) ∨ p.writing = .done → p.isOpen = false ∧ p.channel = [] ∧ p.dropped = 0

/-- Nothing is sent, nothing is written. -/
theorem start_sound (s : Settings) : Sound s {} where
  order := rfl
  counted := rfl
  sent := rfl
  queued := rfl
  room := Nat.zero_le _
  within := .inl (Nat.zero_le _)
  seen := by simp
  notes := ⟨fun before line after split => by simp at split, by simp, by simp⟩
  connected := by simp
  closed := by simp
  ended := by simp
  final := by simp

/-- A send queues the line or counts the loss. -/
theorem Sound.send (h : Sound s p) (line : String) : Sound s (p.move s (.send line)) := by
  by_cases free : p.sending = .idle ∧ p.isOpen
  · rw [move, if_pos free]
    obtain ⟨idle, isOpen⟩ := free
    have queued := h.queued
    simp only [idle, Sending.held] at queued
    refine { h with sent := ?_, queued := ?_, seen := ?_, connected := by simp, closed := ?_ }
    · simp [← h.sent, idle, Sending.line]
    · simp only [queued, Sending.held, waiting, Nat.add_zero]
    · rintro other before same
      cases same
      exact queued.ge
    · simp [isOpen]
  · rwa [move, if_neg free]

/-- While a call is under way the pump is open, and the writer has not come to its end. -/
theorem Sound.busy (h : Sound s p) (busy : p.sending ≠ .idle) :
    p.isOpen = true ∧ p.writing ≠ .ending ∧ ¬((∃ n, p.writing = .last n) ∨ p.writing = .done) := by
  have isOpen : p.isOpen = true := by
    by_contra shut
    exact busy (h.closed (by simpa using shut))
  refine ⟨isOpen, fun ending => ?_, fun final => ?_⟩
  · simpa [isOpen] using (h.ended ending).1
  · simpa [isOpen] using (h.final final).1

/-- The sender passes what the channel has room for. -/
theorem Sound.sender (h : Sound s p) : Sound s (p.sender s) := by
  cases stands : p.sending with
  | idle => simpa [LinePump.sender, stands] using h
  | added line before =>
    obtain ⟨isOpen, going, running⟩ := h.busy (by simp [stands])
    have queued := h.queued
    simp only [stands, Sending.held] at queued
    have sent := h.sent
    simp only [stands, Sending.line] at sent
    by_cases tooBig : 0 < before ∧ s.maxBytes < before + line.utf8ByteSize
    · have after : p.sender s =
          { p with queued := p.queued - line.utf8ByteSize, sending := .dropping line } := by
        simp [LinePump.sender, stands, tooBig]
      rw [after]
      refine { h with sent := sent, queued := ?_, seen := by simp, connected := by simp, closed := by simp [isOpen] }
      simp only [waiting, Sending.held] at queued ⊢
      omega
    · have live : p.writing ≠ .done := fun done => running (.inr done)
      by_cases full : s.lines ≤ p.channel.length
      · have after : p.sender s = { p with sending := .full line } := by
          simp [LinePump.sender, stands, tooBig, live, full]
        rw [after]
        exact { h with sent := sent, queued := queued, seen := by simp, connected := by simp, closed := by simp [isOpen] }
      · have after : p.sender s =
            { p with channel := p.channel ++ [line], sending := .idle, log := p.log ++ [(line, true)] } := by
          simp [LinePump.sender, stands, tooBig, live, full]
        rw [after]
        constructor
        · simp [← h.order]
        · simpa using h.counted
        · simpa [Sending.line] using sent
        · simp only [waiting, Sending.held, bytes_append, bytes_cons, bytes_nil] at queued ⊢
          omega
        · simp only [List.length_append, List.length_singleton]
          omega
        · have pushed := Within.push (h.seen line before stands) tooBig
          simpa [waiting] using pushed
        · simp
        · exact h.notes.push h.order _
        · simp
        · simp
        · exact fun ending => absurd ending going
        · exact fun final => absurd final running
  | full line =>
    obtain ⟨isOpen, going, running⟩ := h.busy (by simp [stands])
    have queued := h.queued
    have sent := h.sent
    simp only [stands, Sending.held, Sending.line] at queued sent
    have after : p.sender s = { p with queued := p.queued - line.utf8ByteSize, sending := .dropping line } := by
      simp [LinePump.sender, stands]
    rw [after]
    refine { h with sent := sent, queued := ?_, seen := by simp, connected := by simp, closed := by simp [isOpen] }
    simp only [waiting, Sending.held] at queued ⊢
    omega
  | dropping line =>
    obtain ⟨isOpen, going, running⟩ := h.busy (by simp [stands])
    have queued := h.queued
    have sent := h.sent
    simp only [stands, Sending.held, Sending.line] at queued sent
    have after : p.sender s =
        { p with dropped := p.dropped + 1, sending := .idle, log := p.log ++ [(line, false)] } := by
      simp [LinePump.sender, stands]
    rw [after]
    refine { h with
      order := by simpa using h.order
      counted := ?_
      sent := by simpa [Sending.line] using sent
      queued := queued
      seen := by simp
      notes := h.notes.push h.order _
      connected := by simp
      closed := by simp
      final := fun final => absurd final running }
    have counted := h.counted
    simp only [refused_append, refused_refused]
    omega
  | disconnected line => exact absurd stands (h.connected line)

/-- The pump is told to finish. -/
theorem Sound.finish (h : Sound s p) : Sound s (p.move s .finish) := by
  by_cases idle : p.sending = .idle
  · rw [move, if_pos idle]
    exact { h with
      closed := fun _ => idle
      ended := fun ending => ⟨rfl, (h.ended ending).2⟩
      final := fun final => ⟨rfl, (h.final final).2⟩ }
  · rwa [move, if_neg idle]

/-- The writer goes on, and what counts as queued stays. -/
private theorem Sound.goesOn (h : Sound s p) {writing : Writing} {sink : List Written} {dropped : Nat}
    (unfreed : writing.unfreed = p.writing.unfreed)
    (order : lines sink ++ writing.inHand ++ p.channel = accepted p.log)
    (counted : missed sink + writing.untold + dropped = refused p.log) (notes : Notes p.log sink writing)
    (ended : writing = .ending → p.isOpen = false ∧ p.channel = [])
    (final : (∃ n, writing = .last n) ∨ writing = .done → p.isOpen = false ∧ p.channel = [] ∧ dropped = 0) :
    Sound s { p with writing, sink, dropped } := by
  have waits : waiting { p with writing, sink, dropped } = p.waiting := congrArg (· ++ p.channel) unfreed
  exact { h with
    order, counted, notes, ended, final
    queued := by
      rw [waits]
      exact h.queued
    within := by
      rw [waits]
      exact h.within
    seen := by
      rw [waits]
      exact h.seen }

/-- The writer takes the next line. -/
private theorem Sound.takes (h : Sound s p) (stands : p.writing = .receiving) {line : String} {rest : List String}
    (channel : p.channel = line :: rest) : Sound s { p with channel := rest, writing := .took line } := by
  have order := h.order
  have counted := h.counted
  have queued := h.queued
  have room := h.room
  have within := h.within
  have seen := h.seen
  simp only [waiting, stands, channel, Writing.inHand, Writing.untold, Writing.unfreed, List.append_nil,
    List.nil_append] at order counted queued room within seen
  exact { h with
    order := by simpa [Writing.inHand] using order
    counted := by simpa [Writing.untold] using counted
    queued := by simpa [waiting, Writing.unfreed] using queued
    room := Nat.le_of_succ_le room
    within := by simpa [waiting, Writing.unfreed] using within
    seen := by simpa [waiting, Writing.unfreed] using seen
    notes := ⟨h.notes.told, by simp, by simp⟩
    ended := by simp
    final := by simp }

/-- The line that the writer has taken does not count as queued any more. -/
private theorem Sound.frees (h : Sound s p) {line : String} (stands : p.writing = .took line) :
    Sound s { p with queued := p.queued - line.utf8ByteSize, writing := .freed line } := by
  have queued := h.queued
  have within := h.within
  simp only [waiting, stands, Writing.unfreed, List.singleton_append, bytes_cons] at queued within
  refine { h with
    order := by simpa [stands, Writing.inHand] using h.order
    counted := by simpa [stands, Writing.untold] using h.counted
    queued := ?_
    within := within.tail
    seen := ?_
    notes := ⟨h.notes.told, by simp, by simp⟩
    ended := by simp
    final := by simp }
  · simp only [waiting, Writing.unfreed, List.nil_append]
    omega
  · intro other before added
    have seen := h.seen other before added
    simp only [waiting, stands, Writing.unfreed, List.singleton_append, bytes_cons, List.nil_append] at seen ⊢
    omega

/-- The writer writes what it has in hand. -/
theorem Sound.writer (h : Sound s p) : Sound s p.writer := by
  have order := h.order
  have counted := h.counted
  have notes := h.notes
  cases stands : p.writing with
  | receiving =>
    cases channel : p.channel with
    | nil =>
      by_cases isOpen : p.isOpen = true
      · simpa [LinePump.writer, stands, channel, isOpen] using h
      · have after : p.writer = { p with writing := .ending } := by simp [LinePump.writer, stands, channel, isOpen]
        rw [after]
        refine h.goesOn ?_ ?_ ?_ ⟨notes.told, by simp, by simp⟩ (fun _ => ⟨by simpa using isOpen, channel⟩) (by simp)
        · simp [stands, Writing.unfreed]
        · simpa [stands, Writing.inHand] using order
        · simpa [stands, Writing.untold] using counted
    | cons line rest =>
      have after : p.writer = { p with channel := rest, writing := .took line } := by
        simp [LinePump.writer, stands, channel]
      rw [after]
      exact h.takes stands channel
  | took line =>
    have after : p.writer = { p with queued := p.queued - line.utf8ByteSize, writing := .freed line } := by
      simp [LinePump.writer, stands]
    rw [after]
    exact h.frees stands
  | freed line =>
    have after : p.writer = { p with dropped := 0, writing := .swapped line p.dropped } := by
      simp [LinePump.writer, stands]
    simp only [stands, Writing.untold] at counted
    rw [after]
    refine h.goesOn ?_ ?_ ?_ ⟨notes.told, by simp, ?_⟩ (by simp) (by simp)
    · simp [stands, Writing.unfreed]
    · simpa [stands, Writing.inHand] using order
    · simpa [Writing.untold] using counted
    · rintro other n same
      obtain ⟨-, rfl⟩ := Writing.swapped.inj same
      exact Covers.of_all (by simp only [← counted]; omega) _
  | swapped line n =>
    have after : p.writer = { p with sink := p.sink ++ noteOf n, writing := .noted line } := by
      simp [LinePump.writer, stands]
    rw [after]
    refine h.goesOn ?_ ?_ ?_ ⟨notes.told.note n, ?_, by simp⟩ (by simp) (by simp)
    · simp [stands, Writing.unfreed]
    · simpa [stands, Writing.inHand] using order
    · simpa [stands, Writing.untold] using counted
    · intro other _
      simpa using notes.soon line n stands
  | noted line =>
    have after : p.writer = { p with sink := p.sink ++ [.line line], writing := .receiving } := by
      simp [LinePump.writer, stands]
    rw [after]
    refine h.goesOn ?_ ?_ ?_ ⟨notes.told.line (notes.next line stands) line, by simp, by simp⟩ (by simp) (by simp)
    · simp [stands, Writing.unfreed]
    · simpa [stands, Writing.inHand] using order
    · simpa [stands, Writing.untold, missed] using counted
  | ending =>
    have after : p.writer = { p with dropped := 0, writing := .last p.dropped } := by
      simp [LinePump.writer, stands]
    obtain ⟨shut, empty⟩ := h.ended stands
    rw [after]
    refine h.goesOn ?_ ?_ ?_ ⟨notes.told, by simp, by simp⟩ (by simp) fun _ => ⟨shut, empty, rfl⟩
    · simp [stands, Writing.unfreed]
    · simpa [stands, Writing.inHand] using order
    · simpa [stands, Writing.untold] using counted
  | last n =>
    have after : p.writer = { p with sink := p.sink ++ noteOf n, writing := .done } := by
      simp [LinePump.writer, stands]
    have final := h.final (.inl ⟨n, stands⟩)
    rw [after]
    refine h.goesOn ?_ ?_ ?_ ⟨notes.told.note n, by simp, by simp⟩ (by simp) fun _ => final
    · simp [stands, Writing.unfreed]
    · simpa [stands, Writing.inHand] using order
    · simpa [stands, Writing.untold] using counted
  | done => simpa [LinePump.writer, stands] using h

/-- Every move keeps the accounts. -/
theorem Sound.move (h : Sound s p) (m : Move) : Sound s (p.move s m) := by
  cases m with
  | send line => exact h.send line
  | sender => exact h.sender
  | writer => exact h.writer
  | finish => exact h.finish

/-- Every run keeps the accounts. -/
theorem Sound.run (h : Sound s p) (moves : List Move) : Sound s (p.run s moves) := by
  induction moves generalizing p with
  | nil => exact h
  | cons m moves ih => exact ih (h.move m)

/-! ## The writer comes to its end -/

/-- How many moves of the writer are left, once no line comes in. -/
def Writing.left : Writing → Nat
  | receiving => 3
  | took _ => 7
  | freed _ => 6
  | swapped _ _ => 5
  | noted _ => 4
  | ending => 2
  | last _ => 1
  | done => 0

def work (p : LinePump) : Nat := p.writing.left + 5 * p.channel.length

private theorem writer_work (h : Sound s p) (shut : p.isOpen = false) :
    p.writer.isOpen = false ∧ p.writer.work = p.work - 1 := by
  cases stands : p.writing with
  | receiving =>
    cases channel : p.channel with
    | nil => simp [writer, work, stands, channel, shut, Writing.left]
    | cons line rest =>
      simp only [writer, work, stands, channel, shut, Writing.left, List.length_cons, true_and]
      omega
  | done =>
    have empty := (h.final (.inr stands)).2.1
    simp [writer, work, stands, empty, shut, Writing.left]
  | _ =>
    simp only [writer, work, stands, shut, Writing.left, true_and]
    omega

/-- After `finish` the writer comes to its end in a bounded number of moves. -/
theorem writer_ends (h : Sound s p) (shut : p.isOpen = false) {n : Nat} (enough : p.work ≤ n) :
    (p.run s (List.replicate n .writer)).writing = .done := by
  induction n generalizing p with
  | zero =>
    have none : p.work = 0 := by omega
    cases stands : p.writing <;> simp [work, stands, Writing.left] at none
    exact stands
  | succ n ih =>
    obtain ⟨still, less⟩ := writer_work h shut
    exact ih h.writer still (less.le.trans (by omega))

/-! ## The law -/

/-- A run goes on where another one ends. -/
theorem run_append (front back : List Move) (p : LinePump) : p.run s (front ++ back) = (p.run s front).run s back :=
  List.foldl_append

/-- The writer does not touch what the calls of `send` have done, and puts nothing into the channel. -/
theorem writers_aside (s : Settings) (p : LinePump) (n : Nat) :
    (p.run s (List.replicate n .writer)).sending = p.sending ∧ (p.run s (List.replicate n .writer)).log = p.log ∧
      (p.channel = [] → (p.run s (List.replicate n .writer)).channel = []) := by
  induction n generalizing p with
  | zero => exact ⟨rfl, rfl, id⟩
  | succ n ih =>
    have one : p.writer.sending = p.sending ∧ p.writer.log = p.log ∧ (p.channel = [] → p.writer.channel = []) := by
      cases stands : p.writing with
      | receiving =>
        cases channel : p.channel with
        | nil => by_cases isOpen : p.isOpen = true <;> simp [writer, stands, channel, isOpen]
        | cons line rest => simp [writer, stands, channel]
      | _ => simp [writer, stands]
    obtain ⟨sending, log, still⟩ := ih p.writer
    exact ⟨sending.trans one.1, log.trans one.2.1, fun empty => still (one.2.2 empty)⟩

/-- An empty queue takes a line, however big the line is and whatever the writer does meanwhile. -/
theorem empty_takes (h : Sound s p) (idle : p.sending = .idle) (isOpen : p.isOpen = true) (empty : p.waiting = [])
    (line : String) (some : 0 < s.lines) (n : Nat) :
    (p.run s (.send line :: (List.replicate n .writer ++ [.sender]))).log = p.log ++ [(line, true)] := by
  have none : p.queued = 0 := by simpa [idle, empty, Sending.held] using h.queued
  have channel : p.channel = [] := (List.append_eq_nil_iff.mp empty).2
  have begun : p.move s (.send line) =
      { p with queued := line.utf8ByteSize, sending := .added line 0, sent := p.sent ++ [line] } := by
    simp [move, idle, isOpen, none]
  have sound : Sound s ((p.move s (.send line)).run s (List.replicate n .writer)) := (h.send line).run _
  obtain ⟨sending, log, still⟩ := writers_aside s (p.move s (.send line)) n
  have split : p.run s (.send line :: (List.replicate n .writer ++ [.sender])) =
      ((p.move s (.send line)).run s (List.replicate n .writer)).sender s :=
    run_append (List.replicate n .writer) [.sender] (p.move s (.send line))
  rw [split]
  rw [begun] at sound sending log still
  rw [begun]
  have empty' := still channel
  have running := (sound.busy (by simp [sending])).2.2
  generalize LinePump.run s (List.replicate n .writer) _ = q at *
  have live : q.writing ≠ .done := fun done => running (.inr done)
  have room : ¬s.lines = 0 := by omega
  simp [LinePump.sender, sending, log, live, empty', room]

/-- What becomes of the lines of a run. -/
structure Accounted (s : Settings) (p : LinePump) : Prop where
  /-- Every line that `send` was called with is queued or not, in turn. -/
  sent : p.log.map (·.1) ++ p.sending.line = p.sent
  /-- The queued lines come out in their order, each once. -/
  order : lines p.sink ++ p.writing.inHand ++ p.channel = accepted p.log
  /-- The notes tell of every line that was not queued. -/
  counted : missed p.sink + p.writing.untold + p.dropped = refused p.log
  /-- A line comes after the notes of all that was refused before it. -/
  told : ∀ older line newer before written after, p.log = older ++ (line, true) :: newer →
    p.sink = before ++ .line written :: after → (accepted older).length = (lines before).length →
    refused older ≤ missed before
  room : p.channel.length ≤ s.lines
  within : Within s.maxBytes p.waiting
  /-- An empty queue takes a line of any size. -/
  takes : p.sending = .idle → p.isOpen = true → p.waiting = [] → 0 < s.lines → ∀ line n,
    (p.run s (.send line :: (List.replicate n .writer ++ [.sender]))).log = p.log ++ [(line, true)]
  /-- Once the pump is closed and if the sink lets it, the writer gets to its end, and then all is told. -/
  ends : p.isOpen = false → ∀ n, p.work ≤ n →
    let done := p.run s (List.replicate n .writer)
    done.writing = .done ∧ lines done.sink = accepted p.log ∧ missed done.sink = refused p.log ∧
      p.log.map (·.1) = p.sent

/-- **No line is lost silently**, whoever calls `send` and however slow the sink is. -/
theorem pump_accounts (s : Settings) (moves : List Move) : Accounted s (run s moves {}) := by
  have sound : Sound s (run s moves {}) := (start_sound s).run moves
  generalize run s moves {} = p at sound
  refine ⟨sound.sent, sound.order, sound.counted, ?_, sound.room, sound.within, ?_, ?_⟩
  · intro older line newer before written after log sink same
    exact sound.notes.told before written after sink older line newer log same
  · intro idle isOpen empty some line n
    exact empty_takes sound idle isOpen empty line some n
  · intro shut n enough
    have done := writer_ends sound shut enough
    have last : Sound s (p.run s (List.replicate n .writer)) := sound.run _
    obtain ⟨-, log, -⟩ := writers_aside s p n
    obtain ⟨-, empty, none⟩ := last.final (.inr done)
    refine ⟨done, ?_, ?_, ?_⟩
    · simpa [done, empty, log, Writing.inHand] using last.order
    · simpa [done, none, log, Writing.untold] using last.counted
    · simpa [sound.closed shut, Sending.line] using sound.sent

end KirbyOcpp.LinePump
