import KirbyOcpp.Ledger.Runs

/-!
# Every CALL has one fate

A CALL that was accepted is in flight, completed or abandoned: one of the three, once. Only a sample
that a timer asked for is abandoned, and without a connection nothing is in flight.
-/

namespace KirbyOcpp

open Paths Relation

/-! ## What the history tells about CALLs -/

/-- The CALL an event accepts, completes or abandons. -/
def Event.called? : Event → Option PendingCall
  | .called call => some call
  | _ => none

def Event.completed? : Event → Option PendingCall
  | .completed call _ => some call
  | _ => none

def Event.abandoned? : Event → Option PendingCall
  | .abandoned call => some call
  | _ => none

/-- The CALLs that were accepted. -/
def calledOf (history : List Event) : List PendingCall := history.filterMap Event.called?

/-- The CALLs whose continuation ran. -/
def completedOf (history : List Event) : List PendingCall := history.filterMap Event.completed?

/-- The CALLs that were dropped with their continuation. -/
def abandonedOf (history : List Event) : List PendingCall := history.filterMap Event.abandoned?

/-- A sample that a timer asked for. -/
def PendingCall.isSample (call : PendingCall) : Prop := ∃ id, call.continuation = .meterValues id none

/-- The CALLs that are not completed: in flight, or to be failed. -/
def Ledger.open (l : Ledger) : List PendingCall := l.rest ++ l.calls

/-- Every CALL has one fate. -/
structure Fates (l : Ledger) : Prop where
  fates : (calledOf l.history).Perm (l.open ++ completedOf l.history ++ abandonedOf l.history)
  tokens : ((calledOf l.history).map (·.token)).Nodup
  drawn : ∀ call ∈ calledOf l.history, call.token < l.nextCallToken
  drawnSamples : ∀ token ∈ l.sampleCalls, token < l.nextCallToken
  samples : ∀ call ∈ calledOf l.history, call.token ∈ l.sampleCalls → call.isSample
  abandoned : ∀ call ∈ abandonedOf l.history, call.isSample
  closed : l.conn = false → l.stopped = false → l.calls = []

namespace Fates

variable {l : Ledger}

theorem mem_called (h : Fates l) {call : PendingCall} (mem : call ∈ l.open) :
    call ∈ calledOf l.history :=
  h.fates.mem_iff.mpr (List.mem_append_left _ (List.mem_append_left _ mem))

theorem open_tokens (h : Fates l) : (l.open.map (·.token)).Nodup := by
  have nodup := ((h.fates.map (·.token)).nodup_iff).mp h.tokens
  rw [List.map_append, List.map_append] at nodup
  exact (List.nodup_append.mp (List.nodup_append.mp nodup).1).1

theorem calls_tokens (h : Fates l) : (l.calls.map (·.token)).Nodup := by
  have nodup := h.open_tokens
  rw [Ledger.open, List.map_append] at nodup
  exact (List.nodup_append.mp nodup).2.1

end Fates

/-- The books that matter to the fates are the same. -/
theorem Fates.of {l l' : Ledger} (h : Fates l) (called : calledOf l'.history = calledOf l.history)
    (completed : completedOf l'.history = completedOf l.history)
    (abandoned : abandonedOf l'.history = abandonedOf l.history) (pending : l'.open = l.open)
    (token : l'.nextCallToken = l.nextCallToken) (samples : l'.sampleCalls = l.sampleCalls)
    (closed : l'.conn = false → l'.stopped = false → l'.calls = []) : Fates l' where
  fates := by
    rw [called, completed, abandoned, pending]
    exact h.fates
  tokens := called ▸ h.tokens
  drawn := called ▸ token ▸ h.drawn
  drawnSamples := samples ▸ token ▸ h.drawnSamples
  samples := called ▸ samples ▸ h.samples
  abandoned := abandoned ▸ h.abandoned
  closed := closed

/-- A transition that concerns no CALL. -/
theorem Fates.same {l l' : Ledger} (h : Fates l)
    (called : calledOf l'.history = calledOf l.history := by rfl)
    (completed : completedOf l'.history = completedOf l.history := by rfl)
    (abandoned : abandonedOf l'.history = abandonedOf l.history := by rfl)
    (rest : l'.rest = l.rest := by rfl) (calls : l'.calls = l.calls := by rfl)
    (token : l'.nextCallToken = l.nextCallToken := by rfl)
    (samples : l'.sampleCalls = l.sampleCalls := by rfl) (conn : l'.conn = l.conn := by rfl)
    (stopped : l'.stopped = l.stopped := by rfl) : Fates l' :=
  h.of called completed abandoned (by unfold Ledger.open; rw [rest, calls]) token samples fun hc hs =>
    calls ▸ h.closed (conn ▸ hc) (stopped ▸ hs)

/-- Taking a CALL by its token takes it alone. -/
theorem perm_take {calls : List PendingCall} (nodup : (calls.map (·.token)).Nodup) {call : PendingCall}
    (found : (calls.find? fun c => c.token == call.token) = some call) :
    calls.Perm (call :: calls.filter fun c => !(c.token == call.token)) := by
  induction calls with
  | nil => cases found
  | cons first calls ih =>
    rw [List.map_cons, List.nodup_cons] at nodup
    rw [List.find?_cons] at found
    split at found
    · obtain rfl : first = call := by simpa using found
      have others : (calls.filter fun c => !(c.token == first.token)) = calls := by
        refine List.filter_eq_self.mpr fun c mem => ?_
        have other : c.token ≠ first.token := fun same =>
          nodup.1 (same ▸ List.mem_map_of_mem mem)
        simpa using other
      simp [others]
    · rename_i other
      have other : (first.token == call.token) = false := by simpa using other
      rw [List.filter_cons_of_pos (by simp [other])]
      exact ((ih nodup.2 found).cons first).trans (.swap _ _ _)

theorem calledOf_push (l : Ledger) (entry : OfflineTx) :
    calledOf (l.push entry).history = calledOf l.history ∧
      completedOf (l.push entry).history = completedOf l.history ∧
      abandonedOf (l.push entry).history = abandonedOf l.history := by
  unfold Ledger.push
  cases (OfflineQueue.push l.queue entry).2 <;> exact ⟨rfl, rfl, rfl⟩

theorem Fates.accept {l : Ledger} {call : PendingCall} (h : Fates l) (sends : l.Sends call) :
    Fates (l.accept call) where
  fates := by
    have fates : (calledOf (l.accept call).history).Perm
        (call :: (l.open ++ completedOf l.history ++ abandonedOf l.history)) := h.fates.cons call
    refine fates.trans ?_
    change (call :: (l.open ++ completedOf l.history ++ abandonedOf l.history)).Perm
      (l.rest ++ (l.calls ++ [call]) ++ completedOf l.history ++ abandonedOf l.history)
    rw [← List.cons_append, ← List.cons_append, ← List.append_assoc l.rest]
    exact ((@List.perm_append_comm _ [call] _).append_right _).append_right _
  tokens := by
    refine List.nodup_cons.mpr ⟨fun mem => ?_, h.tokens⟩
    obtain ⟨other, mem, same⟩ := List.mem_map.mp mem
    have same : other.token = l.nextCallToken := same.trans sends.token
    exact Nat.lt_irrefl _ (same ▸ h.drawn other mem)
  drawn := by
    intro other mem
    rcases List.mem_cons.mp mem with rfl | mem
    · rw [sends.token]
      exact Nat.lt_succ_self _
    · exact Nat.lt_succ_of_lt (h.drawn other mem)
  drawnSamples := fun token mem => Nat.lt_succ_of_lt (h.drawnSamples token mem)
  samples := by
    intro other mem sample
    rcases List.mem_cons.mp mem with rfl | mem
    · have := h.drawnSamples _ sample
      rw [sends.token] at this
      exact absurd this (Nat.lt_irrefl _)
    · exact h.samples other mem sample
  abandoned := h.abandoned
  closed := fun conn => by
    have conn : l.conn = false := conn
    simp [sends.conn] at conn

theorem fates_preserved (allow : Allow) : Preserves (Trans allow) Fates := by
  intro l l' step h
  cases step with
  | quiet step =>
    cases step with
    | send call sends neutral => exact h.accept sends
    | sendEvent call sends event events queue cont => exact (h.accept sends).same
    | note event neutral =>
      cases event with
      | replied => exact h.same
      | responded => exact h.same
      | _ => cases neutral
    | _ => exact h.same
  | sendStart id pending call done hand sends cont =>
    exact (h.accept sends).same
  | sendClose session sync call hand sends cont =>
    exact (h.accept sends).same
  | sendStop id tx tag startedAt meterStartWh info done call wire hand sends cont request sent =>
    exact (h.accept sends).same
  | sendNext key keys e request cont call hand next sends found message sent continuation =>
    exact (h.accept sends).same
  | sendReady key e request cont call hand sends found message sent continuation =>
    exact (h.accept sends).same
  | takeCall call result hand rest running found =>
    refine ⟨h.fates.trans ?_, h.tokens, h.drawn, h.drawnSamples, h.samples, h.abandoned,
      fun conn running => ?_⟩
    · change (l.rest ++ l.calls ++ completedOf l.history ++ abandonedOf l.history).Perm
        (l.rest ++ (l.calls.filter fun c => !(c.token == call.token)) ++
          (call :: completedOf l.history) ++ abandonedOf l.history)
      refine List.Perm.append_right _ ?_
      rw [List.append_assoc, List.append_assoc]
      refine List.Perm.append_left _ ?_
      exact ((perm_take h.calls_tokens found).append_right _).trans List.perm_middle.symm
    · change (l.calls.filter _) = []
      rw [h.closed conn running]
      rfl
  | takeRest call rest error hand head =>
    refine ⟨h.fates.trans ?_, h.tokens, h.drawn, h.drawnSamples, h.samples, h.abandoned, h.closed⟩
    change (l.rest ++ l.calls ++ completedOf l.history ++ abandonedOf l.history).Perm
      (rest ++ l.calls ++ (call :: completedOf l.history) ++ abandonedOf l.history)
    rw [head]
    refine List.Perm.append_right _ ?_
    exact List.perm_middle.symm
  | abandon call found sample =>
    have mem : call ∈ calledOf l.history :=
      h.mem_called (List.mem_append_right _ (List.mem_of_find?_eq_some found))
    refine ⟨h.fates.trans ?_, h.tokens, h.drawn, h.drawnSamples, h.samples, fun other mem' => ?_,
      fun conn running => ?_⟩
    · change (l.rest ++ l.calls ++ completedOf l.history ++ abandonedOf l.history).Perm
        (l.rest ++ (l.calls.filter fun c => !(c.token == call.token)) ++
          completedOf l.history ++ (call :: abandonedOf l.history))
      refine .trans ?_ List.perm_middle.symm
      rw [List.append_assoc, List.append_assoc, List.append_assoc, List.append_assoc]
      refine .trans (List.Perm.append_left _ ?_) List.perm_middle
      exact (perm_take h.calls_tokens found).append_right _
    · rcases List.mem_cons.mp mem' with rfl | mem'
      · exact h.samples _ mem sample
      · exact h.abandoned other mem'
    · change (l.calls.filter _) = []
      rw [h.closed conn running]
      rfl
  | trim kept subset =>
    exact ⟨h.fates, h.tokens, h.drawn, fun token mem => h.drawnSamples token (subset token mem),
      fun call mem sample => h.samples call mem (subset _ sample), h.abandoned, h.closed⟩
  | sample call id pending cont =>
    have mem : call ∈ calledOf l.history := h.mem_called (List.mem_append_right _ pending)
    refine ⟨h.fates, h.tokens, h.drawn, fun token mem' => ?_, fun other mem' sample => ?_, h.abandoned,
      h.closed⟩
    · rcases List.mem_append.mp mem' with mem' | mem'
      · exact h.drawnSamples token mem'
      · obtain rfl : token = call.token := by simpa using mem'
        exact h.drawn call mem
    · rcases List.mem_append.mp sample with sample | sample
      · exact h.samples other mem' sample
      · have same : other.token = call.token := by simpa using sample
        obtain rfl : other = call := List.inj_on_of_nodup_map h.tokens mem' mem same
        exact ⟨id, cont⟩
  | queueStart id pending entry hand key tx connector starts stop room =>
    obtain ⟨called, completed, abandoned⟩ := calledOf_push l entry
    exact h.same called completed abandoned
  | queueNewStop id tx info entry hand missing key entryTx connector starts stop =>
    obtain ⟨called, completed, abandoned⟩ := calledOf_push (l.update id (Actor.forgetTransaction tx)) entry
    exact h.same called completed abandoned
  | dropLink hand rest running closes =>
    have pending : l.dropLink.open = l.open := by
      simp [Ledger.open, Ledger.dropLink, rest]
    exact h.of rfl rfl rfl pending rfl rfl fun _ _ => rfl
  | drain hand rest running =>
    have pending : ({ l with calls := [], rest := l.calls } : Ledger).open = l.open := by
      simp [Ledger.open, rest]
    exact h.of rfl rfl rfl pending rfl rfl fun _ _ => rfl
  | openLink hand rest running opens =>
    exact h.of rfl rfl rfl rfl rfl rfl fun conn => by cases conn
  | halt hand rest closes done =>
    exact h.of rfl rfl rfl rfl rfl rfl fun _ running => by cases running
  | _ => exact h.same

/-- A new process has called nobody. -/
theorem Actor.loaded_fates (config : StationConfig) (registry : ConfigRegistry) (now : Instant) (mono : Int)
    (saved : Option PersistedStation) : Fates ((loaded config registry now mono saved).ledger [] .none) := by
  have calls : (loaded config registry now mono saved).calls = [] := by cases saved <;> rfl
  have history : (loaded config registry now mono saved).history = [] := by cases saved <;> rfl
  have samples : (loaded config registry now mono saved).sampleCalls = [] := by cases saved <;> rfl
  generalize loaded config registry now mono saved = a at calls history samples
  constructor <;> simp [ledger, calls, history, samples, Ledger.open, calledOf, completedOf, abandonedOf]

end KirbyOcpp
