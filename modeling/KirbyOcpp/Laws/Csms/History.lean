import KirbyOcpp.Data.Lists
import KirbyOcpp.Csms.Registry

/-!
# The frame history and the counters of a station

What any sequence of recorded frames leaves in the record of a station: the history is the end of what
was recorded, its bytes are counted exactly and stay below their cap, and the counters of the actions
add up and stay few and short.
-/

namespace KirbyOcpp.Csms

open Ws (Frame redactSecrets)

variable {Reported : Type}

/-- A frame for the record of a station. -/
structure FrameCall where
  direction : Direction
  frame : Frame
  now : Nat

namespace StationRec

/-- `record_frame` on the record of the station. -/
def recorded (env : Env Reported) (config : CsmsConfig) (record : StationRec Reported) (call : FrameCall) :
    StationRec Reported :=
  let record := match call.direction, call.frame with
    | .in, .call _ action _ => { record with info := record.info.countCall action }
    | _, _ => record
  let frame := if config.showSecrets then call.frame else redactSecrets call.frame
  record.remember env config call.direction frame call.now

end StationRec

/-! ## Room in the history -/

/-- The sizes of the items, added up. -/
def bytesOf (history : List HistoryItem) : Nat := (history.map (·.bytes)).sum

/-- The loop of `record_frame` with a checked subtraction: none if it would go below zero. -/
def makeRoomChecked (cap bytesCap bytes : Nat) : List HistoryItem → Nat → Option (List HistoryItem × Nat)
  | [], total => some ([], total)
  | item :: rest, total =>
    if cap ≤ rest.length + 1 ∨ bytesCap < total + bytes then
      if item.bytes ≤ total then makeRoomChecked cap bytesCap bytes rest (total - item.bytes) else none
    else some (item :: rest, total)

/-- The subtraction of the loop never saturates while the count is exact. -/
theorem makeRoomChecked_eq (cap bytesCap bytes : Nat) (history : List HistoryItem) :
    makeRoomChecked cap bytesCap bytes history (bytesOf history) =
      some (makeRoom cap bytesCap bytes history (bytesOf history)) := by
  induction history with
  | nil => rfl
  | cons item rest ih =>
    have total : bytesOf (item :: rest) = item.bytes + bytesOf rest := List.sum_cons
    unfold makeRoomChecked makeRoom
    rw [total, if_pos (Nat.le_add_right _ _), Nat.add_sub_cancel_left, ih]
    split <;> rfl

/-- What the loop leaves: the end of the history, its exact size, and room unless nothing is left. -/
theorem makeRoom_spec (cap bytesCap bytes : Nat) (history : List HistoryItem) :
    ∃ kept, makeRoom cap bytesCap bytes history (bytesOf history) = (kept, bytesOf kept) ∧ kept <:+ history ∧
      (kept = [] ∨ kept.length < cap ∧ bytesOf kept + bytes ≤ bytesCap) := by
  induction history with
  | nil => exact ⟨[], rfl, List.suffix_rfl, .inl rfl⟩
  | cons item rest ih =>
    have total : bytesOf (item :: rest) = item.bytes + bytesOf rest := List.sum_cons
    unfold makeRoom
    by_cases full : cap ≤ rest.length + 1 ∨ bytesCap < bytesOf (item :: rest) + bytes
    · obtain ⟨kept, eq, suffix, room⟩ := ih
      rw [if_pos full, total, Nat.add_sub_cancel_left]
      exact ⟨kept, eq, suffix.trans (List.suffix_cons item rest), room⟩
    · rw [if_neg full]
      rw [not_or, Nat.not_le, Nat.not_lt] at full
      exact ⟨item :: rest, rfl, List.suffix_rfl, .inr full⟩

/-! ## One frame -/

namespace FrameCall

/-- The frame as it would be kept: without secrets, and without its payload if it is too big. -/
def storedFrame (env : Env Reported) (config : CsmsConfig) (call : FrameCall) : Frame :=
  let frame := if config.showSecrets then call.frame else redactSecrets call.frame
  if config.historyBytesCap < env.size frame then truncatedFrame frame (env.size frame) else frame

/-- The item of a frame; none if even that form exceeds the cap by itself. -/
def item (env : Env Reported) (config : CsmsConfig) (call : FrameCall) : Option HistoryItem :=
  if env.size (call.storedFrame env config) ≤ config.historyBytesCap then
    some { entry := { ts := call.now, direction := call.direction, frame := call.storedFrame env config }
           bytes := env.size (call.storedFrame env config) }
  else none

end FrameCall

/-- The history of a record is exact: it is the end of the items of the recorded frames, its bytes are
counted, and it is within both caps. -/
structure ExactHistory (env : Env Reported) (config : CsmsConfig) (calls : List FrameCall)
    (record : StationRec Reported) : Prop where
  counted : record.historyBytes = bytesOf record.history
  sizes : ∀ item ∈ record.history, item.bytes = env.size item.entry.frame
  bytes : record.historyBytes ≤ config.historyBytesCap
  entries : record.history.length ≤ config.historyCap
  latest : record.history <:+ calls.filterMap (FrameCall.item env config)

/-- Without a frame in it, `recorded` only looks at the history and its bytes. -/
theorem recorded_history (env : Env Reported) (config : CsmsConfig) (record : StationRec Reported)
    (call : FrameCall) (exact' : record.historyBytes = bytesOf record.history) :
    config.historyCap = 0 ∧ (record.recorded env config call).history = record.history ∧
        (record.recorded env config call).historyBytes = record.historyBytes ∨
      config.historyCap ≠ 0 ∧ ∃ kept, kept <:+ record.history ∧
        (kept = [] ∨ kept.length < config.historyCap ∧
          bytesOf kept + env.size (call.storedFrame env config) ≤ config.historyBytesCap) ∧
        (record.recorded env config call).history = kept ++ (call.item env config).toList ∧
        (record.recorded env config call).historyBytes = bytesOf (kept ++ (call.item env config).toList) := by
  -- counting the action leaves the history alone
  have shape : ∃ info, (match call.direction, call.frame with
      | .in, .call _ action _ => { record with info := record.info.countCall action }
      | _, _ => record) = { record with info } := by
    split <;> exact ⟨_, rfl⟩
  obtain ⟨info, eq⟩ := shape
  unfold StationRec.recorded
  rw [eq]
  unfold StationRec.remember
  by_cases off : config.historyCap = 0
  · rw [if_pos off]
    exact .inl ⟨off, rfl, rfl⟩
  · rw [if_neg off]
    obtain ⟨kept, room, suffix, free⟩ := makeRoom_spec config.historyCap config.historyBytesCap
      (env.size (call.storedFrame env config)) record.history
    refine .inr ⟨off, kept, suffix, free, ?_⟩
    rw [← exact'] at room
    unfold FrameCall.storedFrame at free room
    unfold FrameCall.item FrameCall.storedFrame
    dsimp only at free room ⊢
    rw [room]
    by_cases fits : env.size (call.storedFrame env config) ≤ config.historyBytesCap
    · have both : bytesOf kept + env.size (call.storedFrame env config) ≤ config.historyBytesCap := by
        rcases free with rfl | ⟨-, free⟩
        · simpa [bytesOf] using fits
        · exact free
      unfold FrameCall.storedFrame at fits both
      dsimp only at fits both
      rw [if_pos both, if_pos fits]
      exact ⟨rfl, by simp [bytesOf]⟩
    · have above : ¬bytesOf kept + env.size (call.storedFrame env config) ≤ config.historyBytesCap := by omega
      unfold FrameCall.storedFrame at fits above
      dsimp only at fits above
      rw [if_neg above, if_neg fits]
      exact ⟨(List.append_nil kept).symm, by simp⟩

/-- One more frame keeps the history exact. -/
theorem ExactHistory.recorded {env : Env Reported} {config : CsmsConfig} {calls : List FrameCall}
    {record : StationRec Reported} (h : ExactHistory env config calls record) (call : FrameCall) :
    ExactHistory env config (calls ++ [call]) (record.recorded env config call) := by
  have next : (calls ++ [call]).filterMap (FrameCall.item env config) =
      calls.filterMap (FrameCall.item env config) ++ (call.item env config).toList := by
    rw [List.filterMap_append]
    cases eq : call.item env config <;> simp [eq]
  rcases recorded_history env config record call h.counted with
    ⟨off, history, bytes⟩ | ⟨on, kept, suffix, free, history, bytes⟩
  · have empty : record.history = [] := List.eq_nil_of_length_eq_zero (by have := h.entries; omega)
    exact
      { counted := by rw [bytes, history, h.counted]
        sizes := by rw [history]; exact h.sizes
        bytes := by rw [bytes]; exact h.bytes
        entries := by rw [history]; exact h.entries
        latest := by rw [history, empty]; exact List.nil_suffix }
  · have sizes : ∀ item ∈ kept, item.bytes = env.size item.entry.frame := fun item mem =>
      h.sizes item (suffix.subset mem)
    have total := (show bytesOf record.history ≤ config.historyBytesCap from h.counted ▸ h.bytes)
    have part : bytesOf kept ≤ config.historyBytesCap := by
      obtain ⟨dropped, eq⟩ := suffix
      rw [← eq, bytesOf, List.map_append, List.sum_append] at total
      exact le_trans (Nat.le_add_left _ _) total
    have few : kept.length ≤ config.historyCap := suffix.length_le.trans h.entries
    refine ⟨by rw [bytes, history], ?_, ?_, ?_, ?_⟩
    · intro item mem
      rw [history, List.mem_append] at mem
      rcases mem with old | new
      · exact sizes item old
      · unfold FrameCall.item at new
        split at new
        · obtain rfl := List.mem_singleton.mp new
          rfl
        · cases new
    · rw [bytes]
      cases eq : call.item env config with
      | none => simpa using part
      | some item =>
        unfold FrameCall.item at eq
        split at eq
        · next fits =>
          obtain rfl := Option.some.inj eq
          rw [bytesOf, List.map_append, List.sum_append]
          rcases free with rfl | ⟨-, free⟩
          · simpa using fits
          · simpa [bytesOf] using free
        · cases eq
    · rw [history]
      cases eq : call.item env config with
      | none => simpa using few
      | some item =>
        rw [Option.toList_some, List.length_append, List.length_singleton]
        rcases free with rfl | ⟨free, -⟩
        · rw [List.length_nil]
          omega
        · omega
    · rw [history, next]
      obtain ⟨dropped, eq⟩ := suffix.trans h.latest
      exact ⟨dropped, by rw [← List.append_assoc, eq]⟩

/-- A frame that fits is the last one of the history. -/
theorem recorded_getLast {env : Env Reported} {config : CsmsConfig} {record : StationRec Reported}
    (counted : record.historyBytes = bytesOf record.history) (on : config.historyCap ≠ 0) {call : FrameCall}
    {item : HistoryItem} (fits : call.item env config = some item) :
    (record.recorded env config call).history.getLast? = some item := by
  rcases recorded_history env config record call counted with ⟨off, -⟩ | ⟨-, kept, -, -, history, -⟩
  · exact absurd off on
  · rw [history, fits, Option.toList_some, List.getLast?_append, List.getLast?_singleton, Option.some_or]

/-! ## Counters -/

theorem countAction_sum (key : String) (counts : List (String × Nat)) :
    ((countAction key counts).map (·.2)).sum = (counts.map (·.2)).sum + 1 := by
  induction counts with
  | nil => rfl
  | cons entry rest ih =>
    unfold countAction
    by_cases here : entry.1 = key
    · rw [if_pos here, List.map_cons, List.map_cons, List.sum_cons, List.sum_cons]
      omega
    · rw [if_neg here, List.map_cons, List.map_cons, List.sum_cons, List.sum_cons, ih]
      omega

theorem countAction_keys (key : String) (counts : List (String × Nat)) :
    (countAction key counts).map (·.1) =
      if key ∈ counts.map (·.1) then counts.map (·.1) else counts.map (·.1) ++ [key] := by
  induction counts with
  | nil => rfl
  | cons entry rest ih =>
    unfold countAction
    by_cases here : entry.1 = key
    · simp [here]
    · rw [if_neg here, List.map_cons, ih]
      by_cases mem : key ∈ rest.map (·.1)
      · have listed : key ∈ (entry :: rest).map (·.1) := List.mem_cons_of_mem _ mem
        rw [if_pos mem, if_pos listed, List.map_cons]
      · have absent : key ∉ (entry :: rest).map (·.1) := by
          rw [List.map_cons, List.mem_cons, not_or]
          exact ⟨Ne.symm here, mem⟩
        rw [if_neg mem, if_neg absent]
        rfl

/-- The counters of a station are exact: they add up to the number of CALLs, no key is there twice, and
all but the overflow key are short and at most `maxActionKeys`. -/
structure ExactCounters (info : StationInfo) : Prop where
  total : info.receivedCalls = (info.receivedByAction.map (·.2)).sum
  keyed : (info.receivedByAction.map (·.1)).Nodup
  short : ∀ key ∈ info.receivedByAction.map (·.1), key ≠ otherAction → key.length ≤ maxActionKeyChars
  few : ((info.receivedByAction.map (·.1)).filter fun key => decide (key ≠ otherAction)).length ≤ maxActionKeys

/-- One key more than the counted ones, for the overflow. -/
theorem ExactCounters.keys_le {info : StationInfo} (h : ExactCounters info) :
    info.receivedByAction.length ≤ maxActionKeys + 1 := by
  have split := List.length_eq_length_filter_add
    (l := info.receivedByAction.map (·.1)) fun key => decide (key ≠ otherAction)
  have other : ((info.receivedByAction.map (·.1)).filter fun key => !decide (key ≠ otherAction)).length ≤ 1 := by
    rw [← List.countP_eq_length_filter]
    have once := List.nodup_iff_count_le_one.mp h.keyed otherAction
    refine le_trans (le_of_eq ?_) once
    refine List.countP_congr fun key _ => ?_
    simp
  rw [List.length_map] at split
  have := h.few
  omega

theorem ExactCounters.countCall {info : StationInfo} (h : ExactCounters info) (action : String) :
    ExactCounters (info.countCall action) := by
  -- what `countCall` does to the keys, for the key it picks
  have counted (key : String)
      (fits : key = otherAction ∨ key.length ≤ maxActionKeyChars ∧
        (key ∈ info.receivedByAction.map (·.1) ∨ info.receivedByAction.length < maxActionKeys)) :
      ExactCounters { info with
        receivedCalls := info.receivedCalls + 1
        receivedByAction := countAction key info.receivedByAction } := by
    have keys := countAction_keys key info.receivedByAction
    refine ⟨?_, ?_, ?_, ?_⟩
    · dsimp only
      rw [countAction_sum, h.total]
    · dsimp only
      rw [keys]
      split
      · exact h.keyed
      · next fresh =>
        rw [List.nodup_append]
        refine ⟨h.keyed, List.pairwise_singleton _ _, fun a mem b last eq => fresh ?_⟩
        rw [← List.mem_singleton.mp last, ← eq]
        exact mem
    · dsimp only
      rw [keys]
      split
      · exact h.short
      · intro name mem named
        rcases List.mem_append.mp mem with old | new
        · exact h.short name old named
        · rw [List.mem_singleton.mp new] at named ⊢
          exact (fits.resolve_left named).1
    · dsimp only
      rw [keys]
      split
      · exact h.few
      · next fresh =>
        rw [List.filter_append, List.length_append]
        by_cases named : key = otherAction
        · have := h.few
          simpa [named] using this
        · have below := ((fits.resolve_left named).2.resolve_left fresh)
          have part := List.length_filter_le (fun key => decide (key ≠ otherAction))
            (info.receivedByAction.map (·.1))
          rw [List.length_map] at part
          have last : (List.filter (fun key => decide (key ≠ otherAction)) [key]).length ≤ 1 :=
            List.length_filter_le _ _
          omega
  unfold StationInfo.countCall
  dsimp only
  split
  · next picked =>
    refine counted action (.inr ?_)
    simp only [Bool.and_eq_true, Bool.or_eq_true, decide_eq_true_eq, List.any_eq_true, beq_iff_eq] at picked
    obtain ⟨short, known | room⟩ := picked
    · obtain ⟨entry, mem, rfl⟩ := known
      exact ⟨short, .inl (List.mem_map_of_mem mem)⟩
    · exact ⟨short, .inr room⟩
  · exact counted otherAction (.inl rfl)

/-- Only an incoming CALL counts. -/
theorem ExactCounters.recorded {env : Env Reported} {config : CsmsConfig} {record : StationRec Reported}
    (h : ExactCounters record.info) (call : FrameCall) : ExactCounters (record.recorded env config call).info := by
  have kept (r : StationRec Reported) (direction : Direction) (frame : Frame) (now : Nat) :
      (r.remember env config direction frame now).info = r.info := by
    unfold StationRec.remember
    dsimp only
    repeat' split
    all_goals rfl
  unfold StationRec.recorded
  dsimp only
  rw [kept]
  split
  · exact h.countCall _
  · exact h

/-! ## Any sequence of frames -/

/-- Every sequence of recorded frames leaves an exact history and exact counters, and the next frame is
kept if it fits at all, with no subtraction that would go below zero. -/
theorem recordFrames_exact (env : Env Reported) (config : CsmsConfig) (id : StationId)
    (state : StationState Reported) (calls : List FrameCall) :
    ExactHistory env config calls (calls.foldl (StationRec.recorded env config) { info := { id }, state }) ∧
      (∀ bytes, makeRoomChecked config.historyCap config.historyBytesCap bytes
          (calls.foldl (StationRec.recorded env config) { info := { id }, state }).history
          (calls.foldl (StationRec.recorded env config) { info := { id }, state }).historyBytes =
        some (makeRoom config.historyCap config.historyBytesCap bytes
          (calls.foldl (StationRec.recorded env config) { info := { id }, state }).history
          (calls.foldl (StationRec.recorded env config) { info := { id }, state }).historyBytes)) ∧
      (∀ call item, config.historyCap ≠ 0 → call.item env config = some item →
        ((calls ++ [call]).foldl (StationRec.recorded env config)
          { info := { id }, state }).history.getLast? = some item) ∧
      ExactCounters (calls.foldl (StationRec.recorded env config) { info := { id }, state }).info ∧
      (calls.foldl (StationRec.recorded env config) { info := { id }, state }).info.receivedByAction.length ≤
        maxActionKeys + 1 := by
  have run : ∀ calls : List FrameCall,
      ExactHistory env config calls (calls.foldl (StationRec.recorded env config) { info := { id }, state }) ∧
        ExactCounters (calls.foldl (StationRec.recorded env config) { info := { id }, state }).info := by
    intro calls
    induction calls using List.reverseRecOn with
    | nil => exact ⟨⟨rfl, fun _ mem => absurd mem List.not_mem_nil, Nat.zero_le _, Nat.zero_le _, List.suffix_rfl⟩,
        ⟨rfl, List.nodup_nil, fun _ mem => absurd mem List.not_mem_nil, Nat.zero_le _⟩⟩
    | append_singleton calls call ih =>
      rw [List.foldl_append]
      exact ⟨ih.1.recorded call, ih.2.recorded call⟩
  obtain ⟨history, counters⟩ := run calls
  refine ⟨history, fun bytes => ?_, fun call item on fits => ?_, counters, counters.keys_le⟩
  · rw [history.counted]
    exact makeRoomChecked_eq _ _ _ _
  · rw [List.foldl_append]
    exact recorded_getLast history.counted on fits

end KirbyOcpp.Csms
