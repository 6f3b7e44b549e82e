import KirbyOcpp.Laws.Station.Drain
import KirbyOcpp.Laws.Station.Gate
import KirbyOcpp.Laws.Station.Reservations

/-!
# CALLs at the end of a process: `shutdown`

`shutdown` fails the CALLs in flight while the connection is still there, and closes it afterwards. A
continuation that fails may place a CALL of its own on that connection: it stays in `calls` for good. Where
the CALLs in flight fail quietly, nothing is in flight without a connection, at the end of the process neither,
and every CALL has run or was given up.
-/

namespace KirbyOcpp

open Paths Relation

variable {allow : Allow} {l l' : Ledger}

/-! ## What is in flight -/

/-- The entries that a sync has still to look at have a number that was drawn. -/
structure Numbered (l : Ledger) : Prop where
  drawn : Drawn l
  keys : ∀ key ∈ l.syncKeys, key ≤ l.nextLocal

theorem numbered_preserved (allow : Allow) : Preserves (Trans allow) Numbered := by
  intro l l' step h
  have more := step.nextLocal
  refine ⟨drawn_preserved allow step h.drawn, ?_⟩
  cases step with
  | quiet step =>
    rw [step.frame.syncKeys, step.frame.nextLocal]
    exact h.keys
  | beginSync boot keys hand conn free some ordered =>
    intro key mem
    obtain ⟨e, there, rfl⟩ := List.mem_map.mp (ordered.subset mem)
    exact h.drawn.queue e there
  | sendNext key keys e request cont call hand next =>
    exact fun key mem => h.keys key (next ▸ List.mem_cons_of_mem _ mem)
  | skipNext key keys hand next => exact fun key mem => h.keys key (next ▸ List.mem_cons_of_mem _ mem)
  | dropLink => exact fun key mem => by cases mem
  | _ => exact fun key mem => (h.keys key mem).trans more

/-- Without a connection nothing is in flight, and a stopped station has none. -/
structure Closed (l : Ledger) : Prop where
  empty : l.conn = false → l.calls = []
  stopped : l.stopped = true → l.conn = false

/-- A CALL goes out on a connection. -/
theorem Closed.accept {call : PendingCall} (h : Closed l) (sends : l.Sends call) : Closed (l.accept call) where
  empty down := by
    have down : l.conn = false := down
    simp [sends.conn] at down
  stopped := h.stopped

theorem closed_preserved (finishes : allow.abandon = false) : Preserves (Trans allow) Closed := by
  intro l l' step h
  cases step with
  | quiet step =>
    cases step with
    | send call sends => exact h.accept sends
    | sendEvent call sends =>
      have sent := h.accept sends
      exact ⟨sent.empty, sent.stopped⟩
    | _ => exact ⟨h.empty, h.stopped⟩
  | sendStart _ _ call _ _ sends => exact ⟨(h.accept sends).empty, (h.accept sends).stopped⟩
  | sendClose _ _ call _ sends => exact ⟨(h.accept sends).empty, (h.accept sends).stopped⟩
  | sendStop _ _ _ _ _ _ _ call _ _ sends => exact ⟨(h.accept sends).empty, (h.accept sends).stopped⟩
  | sendNext _ _ _ _ _ call _ _ sends => exact ⟨(h.accept sends).empty, (h.accept sends).stopped⟩
  | sendReady _ _ _ _ call _ sends => exact ⟨(h.accept sends).empty, (h.accept sends).stopped⟩
  | takeCall call =>
    refine ⟨fun down => ?_, h.stopped⟩
    change l.calls.filter _ = []
    rw [h.empty down]
    rfl
  | abandon call =>
    refine ⟨fun down => ?_, h.stopped⟩
    change l.calls.filter _ = []
    rw [h.empty down]
    rfl
  | dropLink => exact ⟨fun _ => rfl, fun _ => rfl⟩
  | drain => exact ⟨fun _ => rfl, h.stopped⟩
  | openLink hand rest running =>
    refine ⟨nofun, fun stopped => ?_⟩
    rw [running] at stopped
    cases stopped
  | halt hand rest closes done =>
    exact ⟨fun _ => done.resolve_left (by simp [finishes]), fun _ => rfl⟩
  | _ => exact ⟨h.empty, h.stopped⟩

/-! ## Shutdown -/

namespace Actor

/-- At a shutdown of a running station the CALLs in flight have nothing to say when they fail. -/
def QuietShutdown (a : Actor) (wake : Wake) : Prop :=
  ∀ reply, wake.input = .shutdown reply → a.stopped = false → (a.woken wake).flushMeters.FailsQuietly

/-! ## Every reachable state -/

/-- A shutdown leaves no CALL behind. -/
def finishing : Allow := { abandon := false }

theorem closed_finishing : Preserves (Trans finishing) fun l => Fates l ∧ Closed l :=
  (fates_preserved finishing).and fun _ _ step _ h => closed_preserved rfl step h

/-- The CALLs of a process between two iterations. -/
def KeepsCalls (a : Actor) : Prop :=
  Ids (a.ledger [] .none) ∧ Numbered (a.ledger [] .none) ∧ Fates (a.ledger [] .none) ∧ Closed (a.ledger [] .none)

/-- A new process has called nobody. -/
theorem loaded_closed (config : StationConfig) (registry : ConfigRegistry) (now : Instant) (mono : Int)
    (saved : Option PersistedStation) : Closed ((loaded config registry now mono saved).ledger [] .none) where
  empty _ := by cases saved <;> rfl
  stopped stop := by cases saved <;> cases stop

theorem start_keepsCalls (config : StationConfig) (registry : ConfigRegistry) (now : Instant) (mono : Int)
    (saved : Option PersistedStation) : (start config registry now mono saved).KeepsCalls :=
  ⟨start_ids config registry now mono saved,
    (numbered_preserved {}).path (start_path config registry now mono saved (.inl rfl))
      ⟨loaded_drawn config registry now mono saved, fun key mem => by cases saved <;> cases mem⟩,
    closed_finishing.path (start_path config registry now mono saved (.inl rfl))
      ⟨loaded_fates config registry now mono saved, loaded_closed config registry now mono saved⟩⟩

theorem permits_finishing (a : Actor) {input : Input}
    (drained : ∀ reply, input = .shutdown reply → a.drain.calls = []) : Permits finishing a input :=
  a.permits_allowing (.inl rfl) (.inr drained) (.inl rfl)

theorem step_keepsCalls {a : Actor} (h : a.KeepsCalls) (wake : Wake) (quiet : a.QuietShutdown wake) :
    (a.step wake).KeepsCalls := by
  obtain ⟨ids, numbered, fates, closed⟩ := h
  by_cases running : a.stopped = false
  · have woken : Path {} (a.ledger [] .none) ((a.woken wake).ledger [] .none) := (a.woken_quiet wake).path [] .none
    have distinct := ((ids_preserved {}).path woken ids).nodup
    have keys := ((numbered_preserved {}).path woken numbered).keys
    have permits : Permits finishing (a.woken wake) wake.input :=
      permits_finishing _ fun reply same => drain_quiet _ distinct keys (quiet reply same running)
    have path := a.step_path wake ids permits
    exact ⟨(ids_preserved finishing).path path ids, (numbered_preserved finishing).path path numbered,
      closed_finishing.path path ⟨fates, closed⟩⟩
  · unfold step
    rw [if_pos (by simpa using running)]
    exact ⟨ids, numbered, fates, closed⟩

theorem reachable_keepsCalls {a : Actor} (h : Reachable QuietShutdown a) : a.KeepsCalls :=
  h.inductive (P := KeepsCalls) (fun config registry now mono => start_keepsCalls config registry now mono none)
    (fun config registry now mono _ saved _ _ _ => start_keepsCalls config registry now mono (some saved))
    fun _ wake kept quiet => step_keepsCalls kept wake quiet

/-- **CALLs complete exactly once.** When the CALLs in flight at a shutdown fail quietly: no
continuation runs twice; one that was accepted is in flight, has run, or was that of a sample that a timer asked
for; without a connection, and so at the end of the process, none is in flight; and a result of another link
has no effect. -/
theorem calls_complete_once {a : Actor} (h : Reachable QuietShutdown a) :
    ((a.calls ++ completedOf a.history ++ abandonedOf a.history).map (·.token)).Nodup ∧
    (∀ call, call ∈ calledOf a.history ↔
      call ∈ a.calls ∨ call ∈ completedOf a.history ∨ call ∈ abandonedOf a.history) ∧
    (∀ call ∈ abandonedOf a.history, call.isSample) ∧
    (a.link.conn = false → a.calls = []) ∧
    (a.stopped = true → ∀ call ∈ calledOf a.history,
      call ∈ completedOf a.history ∨ (call ∈ abandonedOf a.history ∧ call.isSample)) ∧
    ∀ (wake : Wake) (token generation : Nat) (result : CallResult), wake.input = .callDone token generation result →
      generation ≠ a.link.generation → (a.woken wake).handle wake.input = a.woken wake := by
  obtain ⟨-, -, fates, closed⟩ := reachable_keepsCalls h
  have all : (calledOf a.history).Perm (a.calls ++ completedOf a.history ++ abandonedOf a.history) := fates.fates
  have one (call : PendingCall) : call ∈ calledOf a.history ↔
      call ∈ a.calls ∨ call ∈ completedOf a.history ∨ call ∈ abandonedOf a.history := by
    rw [all.mem_iff, List.mem_append, List.mem_append, or_assoc]
  refine ⟨((all.map _).nodup_iff).mp fates.tokens, one, fates.abandoned, closed.empty, fun stopped call mem => ?_, ?_⟩
  · have empty : a.calls = [] := closed.empty (closed.stopped stopped)
    rcases (one call).mp mem with flies | done | dropped
    · rw [empty] at flies
      cases flies
    · exact .inl done
    · exact .inr ⟨dropped, fates.abandoned call dropped⟩
  · intro wake token generation result same stale
    rw [same]
    unfold handle onCallDone
    dsimp only
    rw [if_pos]
    exact stale

/-- A station is stopped while a start, a heartbeat and a sample are in flight. The connector of the start has
reported that it is preparing, and goes on to. -/
theorem calls_complete_once_preparing :
    let inputs : List Input :=
      [.command .connect 0, .connected 1 true none, .callDone 0 1 (.ok (.boot .accepted 0 0)),
        .callDone 1 1 (.ok .accepted), .callDone 2 1 (.ok .accepted), .callDone 3 1 (.ok .accepted),
        .callDone 4 1 (.ok .accepted), .command (.plugIn 1) 1, .callDone 5 1 (.ok .accepted),
        .command (.startTransaction 1 (.single 'A')) 2, .command .heartbeat 3, .command (.meterValues 2 0 none) 4]
    let wake : Wake := { input := .shutdown none, now := 1000000000000, mono := 0 }
    let before := (start { connectorCount := 2 } {} 1000000000000 0 none).replay 1000000000000 0 inputs
    let a := before.step wake
    before.calls.length = 3 ∧ a.stopped = true ∧ (calledOf a.history).length = 9 ∧
      ∀ call ∈ calledOf a.history,
        call ∈ completedOf a.history ∨ (call ∈ abandonedOf a.history ∧ call.isSample) := by
  intro inputs wake before a
  let b := (before.woken wake).flushMeters
  let pending : PendingStart :=
    { txId := .loc 1000001, idTag := .single 'A', startedAt := 1000000000000, meterStartWh := 0, reservationId := none
      parentIdTag := none }
  have flying : b.calls.map (·.continuation) =
      [.startResult 1 (.loc 1000001) pending (.reply 2), .heartbeat (some 3), .meterValues 2 (some 4)] := by decide +kernel
  have shown : (b.findConnector 1).map (fun c =>
      some (statusKeyOf ((abandonedConnector c).applied c.pendingAvailability))) =
        some (b.tracker 1).lastSent := by decide +kernel
  have unlimited : b.invalidLimits = [] := by decide +kernel
  have quiet : b.FailsQuietly := by
    refine .inr fun front call back split => ?_
    rw [split, List.map_append, List.map_cons] at flying
    rcases front with _ | ⟨first, _ | ⟨second, _ | ⟨third, front⟩⟩⟩
    · have start : call.continuation = .startResult 1 (.loc 1000001) pending (.reply 2) := (List.cons.inj flying).1
      rw [start]
      refine .inr (.inr ⟨List.forall_mem_nil _, fun c found => ⟨?_, List.forall_mem_nil _⟩⟩)
      rw [found, Option.map_some] at shown
      exact (Option.some.inj shown).symm
    · have heartbeat : call.continuation = .heartbeat (some 3) := (List.cons.inj (List.cons.inj flying).2).1
      rw [heartbeat]
      trivial
    · have sample : call.continuation = .meterValues 2 (some 4) :=
        (List.cons.inj (List.cons.inj (List.cons.inj flying).2).2).1
      rw [sample]
      intro limit c known
      rw [unlimited] at known
      cases known
    · have more := congrArg List.length flying
      simp at more
  have reached : Reachable QuietShutdown a := by
    refine .fresh _ _ _ _ ((Runs.replay _ _ _ inputs ?_).tail ⟨wake, fun reply _ _ => quiet, rfl⟩)
    rintro _ mem c reply rfl
    simp [inputs] at mem
  have stopped : a.stopped = true := by decide +kernel
  exact ⟨by decide +kernel, stopped, by decide +kernel, (calls_complete_once reached).2.2.2.2.1 stopped⟩

/-- A start is in flight when the station is stopped. Its connector gives it up and reports its status on the
connection that is about to be closed. The continuation of that CALL never runs. -/
theorem shutdown_strands_call :
    let inputs : List Input :=
      [.command .connect 0, .connected 1 true none, .callDone 0 1 (.ok (.boot .accepted 0 0)),
        .command (.startTransaction 1 { chars := ['A'] }) 2, .shutdown none]
    let a := (start { connectorCount := 1 } {} 1000000000000 0 none).replay 1000000000000 0 inputs
    Reachable (fun _ _ => True) a ∧ a.stopped = true ∧ ∃ call ∈ calledOf a.history,
      call.token ∉ (completedOf a.history).map (·.token) ∧ call.token ∉ (abandonedOf a.history).map (·.token) := by
  intro inputs a
  exact ⟨.replay _ _ _ _ _ inputs, by decide +kernel, by decide +kernel⟩

end Actor

end KirbyOcpp
