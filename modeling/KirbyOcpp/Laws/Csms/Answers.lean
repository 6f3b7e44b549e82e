import KirbyOcpp.Csms.Answers
import KirbyOcpp.Data.Queues

/-!
# Scripted faults are used in order, and transaction ids are handed out once

The faults of a server are one queue of replies an action (`scripts`): an injected fault goes behind those of its
action, and a CALL takes the reply at the front. Which sessions the CALLs come from, and what is scripted for
other actions, plays no part.

**The laws** `faults_in_order` and `transaction_ids_in_turn`.
-/

namespace KirbyOcpp.Csms

open Ws (Json)

variable {Responder : Type} {env : AnswerEnv}

/-! ## The queues -/

/-- The scripted replies that wait for the CALLs of each action. -/
def scripts (faults : List Fault) : Queues.State String Reply := fun action =>
  (faults.filter fun fault => decide (fault.action = action)).flatMap fun fault =>
    List.replicate fault.remaining fault.reply

@[simp] theorem scripts_nil (action : String) : scripts [] action = [] := rfl

theorem scripts_cons (fault : Fault) (faults : List Fault) (action : String) :
    scripts (fault :: faults) action =
      (if fault.action = action then List.replicate fault.remaining fault.reply else []) ++
        scripts faults action := by
  by_cases same : fault.action = action <;> simp [scripts, same]

theorem scripts_append (front back : List Fault) (action : String) :
    scripts (front ++ back) action = scripts front action ++ scripts back action := by
  simp [scripts]

/-- A fault that is used up says nothing. -/
theorem scripts_retained (faults : List Fault) :
    scripts (faults.filter fun fault => decide (0 < fault.remaining)) = scripts faults := by
  funext action
  induction faults with
  | nil => rfl
  | cons fault faults ih =>
    by_cases left : 0 < fault.remaining
    · simp [left, scripts_cons, ih]
    · have none : fault.remaining = 0 := by omega
      simp [none, scripts_cons, ih]

theorem fireFault_none {action : String} {faults : List Fault} (none : fireFault action faults = none) :
    scripts faults action = [] := by
  induction faults with
  | nil => rfl
  | cons fault faults ih =>
    by_cases ready : fault.action = action ∧ 0 < fault.remaining
    · simp [fireFault, ready] at none
    · rw [fireFault, if_neg ready, Option.map_eq_none_iff] at none
      rw [scripts_cons, ih none]
      by_cases same : fault.action = action
      · have empty : fault.remaining = 0 := by
          by_contra left
          exact ready ⟨same, by omega⟩
        simp [empty]
      · simp [same]

/-- A fired fault gives the reply at the front of its queue, and leaves the other queues alone. -/
theorem fireFault_some {action : String} {faults rest : List Fault} {reply : Reply}
    (fired : fireFault action faults = some (reply, rest)) :
    scripts faults action = reply :: scripts rest action ∧
      ∀ other, other ≠ action → scripts rest other = scripts faults other := by
  induction faults generalizing rest with
  | nil => simp [fireFault] at fired
  | cons fault faults ih =>
    by_cases ready : fault.action = action ∧ 0 < fault.remaining
    · rw [fireFault, if_pos ready, Option.some.injEq, Prod.mk.injEq] at fired
      obtain ⟨rfl, rfl⟩ := fired
      obtain ⟨left, eq⟩ : ∃ left, fault.remaining = left + 1 := ⟨fault.remaining - 1, by omega⟩
      constructor
      · simp [scripts_cons, ready.1, eq, List.replicate_succ]
      · intro other away
        have apart : fault.action ≠ other := fun same => away (same.symm.trans ready.1)
        simp [scripts_cons, apart]
    · rw [fireFault, if_neg ready] at fired
      obtain ⟨⟨found, rest'⟩, eq, pair⟩ := Option.map_eq_some_iff.mp fired
      obtain ⟨rfl, rfl⟩ := Prod.mk.inj pair
      obtain ⟨front, others⟩ := ih eq
      constructor
      · have idle : (if fault.action = action then List.replicate fault.remaining fault.reply else []) = [] := by
          by_cases same : fault.action = action
          · have empty : fault.remaining = 0 := by
              by_contra left
              exact ready ⟨same, by omega⟩
            simp [empty]
          · simp [same]
        simp [scripts_cons, front, idle]
      · intro other away
        rw [scripts_cons, scripts_cons, others other away]

theorem fireFault_remaining {action : String} {faults rest : List Fault} {reply : Reply}
    (fired : fireFault action faults = some (reply, rest)) :
    (faults.map (·.remaining)).sum = (rest.map (·.remaining)).sum + 1 := by
  induction faults generalizing rest with
  | nil => simp [fireFault] at fired
  | cons fault faults ih =>
    by_cases ready : fault.action = action ∧ 0 < fault.remaining
    · rw [fireFault, if_pos ready, Option.some.injEq, Prod.mk.injEq] at fired
      obtain ⟨rfl, rfl⟩ := fired
      simp only [List.map_cons, List.sum_cons]
      omega
    · rw [fireFault, if_neg ready] at fired
      obtain ⟨⟨found, rest'⟩, eq, pair⟩ := Option.map_eq_some_iff.mp fired
      obtain ⟨rfl, rfl⟩ := Prod.mk.inj pair
      simp only [List.map_cons, List.sum_cons, ih eq]
      omega

theorem remaining_retained (faults : List Fault) :
    ((faults.filter fun fault => decide (0 < fault.remaining)).map (·.remaining)).sum =
      (faults.map (·.remaining)).sum := by
  induction faults with
  | nil => rfl
  | cons fault faults ih =>
    by_cases left : 0 < fault.remaining
    · simp [left, ih]
    · have empty : fault.remaining = 0 := by omega
      simp [empty, ih]

/-- The reply that a fault gave. -/
def Decision.fired : Decision Responder → Option Reply
  | fault reply => some reply
  | _ => none

namespace Answering

open Queues (Op)

/-! ## One decision -/

/-- A CALL for whose action a reply is scripted takes it; any other one finds the faults as they are. -/
theorem decide_cases (env : AnswerEnv) (action : String) (payload : Json) (now : Int) (s : Answering Responder) :
    (∃ reply faults, fireFault action s.faults = some (reply, faults) ∧
        s.decide env action payload now =
          (.fault reply, { s with faults := faults.filter fun fault => 0 < fault.remaining })) ∨
      (fireFault action s.faults = none ∧ (s.decide env action payload now).1.fired = none ∧
        (s.decide env action payload now).2.faults = s.faults) := by
  cases found : fireFault action s.faults with
  | some pair =>
    obtain ⟨reply, faults⟩ := pair
    exact .inl ⟨reply, faults, rfl, by simp [decide, found]⟩
  | none =>
    refine .inr ⟨rfl, ?_⟩
    unfold decide
    simp only [found]
    repeat' split
    all_goals exact ⟨rfl, rfl⟩

/-- What an input does to the queues. -/
def Input.op : Input Responder → Option (Op String Reply)
  | .inject fault => some (.push fault.action (List.replicate fault.remaining fault.reply))
  | .call action _ _ => some (.pop action)
  | _ => none

/-- The queues after a step are those of the family of queues. -/
theorem step_scripts (env : AnswerEnv) (s : Answering Responder) {input : Input Responder}
    (kept : input ≠ .clearFaults) :
    scripts (step env s input).faults = Queues.run input.op.toList (scripts s.faults) := by
  funext action
  cases input with
  | inject fault =>
    by_cases left : 0 < fault.remaining
    · by_cases same : fault.action = action
      · simp [step, inject, Input.op, left, same, scripts_append, scripts_cons]
      · simp [step, inject, Input.op, left, same, scripts_append, scripts_cons]
    · have empty : fault.remaining = 0 := by omega
      simp [step, inject, Input.op, empty]
  | clearFaults => exact absurd rfl kept
  | respond name responder => rfl
  | clearResponder name => rfl
  | call name payload now =>
    rcases decide_cases env name payload now s with ⟨reply, faults, found, eq⟩ | ⟨none, -, same⟩
    · obtain ⟨front, others⟩ := fireFault_some found
      by_cases here : name = action
      · subst here
        simp [step, Input.op, eq, scripts_retained, front]
      · have away := others action (Ne.symm here)
        simp [step, Input.op, eq, scripts_retained, here, away]
    · by_cases here : name = action
      · subst here
        simp [step, Input.op, same, fireFault_none none]
      · simp [step, Input.op, same, here]

/-! ## Any sequence of inputs -/

/-- The replies that faults gave to the CALLs of an action, in order. -/
def fired (action : String) (log : List (String × Decision Responder)) : List Reply :=
  log.filterMap fun entry => if entry.1 = action then entry.2.fired else none

/-- The replies that were scripted for an action, in order. -/
def injected (action : String) (inputs : List (Input Responder)) : List Reply :=
  Queues.pushed action (inputs.filterMap Input.op)

/-- How many occurrences the input scripts. -/
def Input.occurrences : Input Responder → Nat
  | .inject fault => fault.remaining
  | _ => 0

@[simp] theorem run_nil (s : Answering Responder) : run env [] s = s := rfl

@[simp] theorem run_cons (input : Input Responder) (inputs : List (Input Responder)) (s : Answering Responder) :
    run env (input :: inputs) s = run env inputs (step env s input) := rfl

/-- A CALL is answered by a fault if one is scripted for its action, by the one at the front. -/
theorem fired_decide (action : String) (payload : Json) (now : Int) (s : Answering Responder) :
    (s.decide env action payload now).1.fired = (scripts s.faults action).head? := by
  rcases decide_cases env action payload now s with ⟨reply, faults, found, eq⟩ | ⟨none, other, -⟩
  · rw [eq, (fireFault_some found).1]
    rfl
  · rw [other, fireFault_none none]
    rfl

theorem decisions_cons (input : Input Responder) (inputs : List (Input Responder)) (s : Answering Responder) :
    decisions env (input :: inputs) s = decisions env [input] s ++ decisions env inputs (step env s input) := by
  cases input <;> rfl

/-- One input gives what it takes from the queues. -/
theorem fired_step (env : AnswerEnv) (action : String) (input : Input Responder) (s : Answering Responder) :
    fired action (decisions env [input] s) = Queues.taken action input.op.toList (scripts s.faults) := by
  cases input with
  | call name payload now =>
    by_cases same : name = action
    · subst same
      cases line : scripts s.faults name <;>
        simp [decisions, fired, Input.op, Queues.taken, Queues.Op.taken, fired_decide, line]
    · simp [decisions, fired, Input.op, Queues.taken, Queues.Op.taken, same]
  | inject fault => simp [decisions, fired, Input.op, Queues.taken, Queues.Op.taken]
  | clearFaults => rfl
  | respond name responder => rfl
  | clearResponder name => rfl

/-- A run of the server is a run of the queues. -/
theorem run_scripts (env : AnswerEnv) (inputs : List (Input Responder)) (s : Answering Responder)
    (kept : Input.clearFaults ∉ inputs) :
    scripts (run env inputs s).faults = Queues.run (inputs.filterMap Input.op) (scripts s.faults) ∧
      ∀ action, fired action (decisions env inputs s) =
        Queues.taken action (inputs.filterMap Input.op) (scripts s.faults) := by
  induction inputs generalizing s with
  | nil => exact ⟨rfl, fun action => rfl⟩
  | cons input inputs ih =>
    simp only [List.mem_cons, not_or] at kept
    have first := step_scripts env s (Ne.symm kept.1)
    obtain ⟨state, replies⟩ := ih (step env s input) kept.2
    have ops : (input :: inputs).filterMap Input.op = input.op.toList ++ inputs.filterMap Input.op := by
      cases op : input.op <;> simp [op]
    constructor
    · rw [run_cons, state, first, ops, Queues.run_append]
    · intro action
      rw [decisions_cons, ops, Queues.taken_append, ← first, ← replies action, ← fired_step env]
      simp [fired]

/-! ## How many are left -/

theorem step_remaining (env : AnswerEnv) (s : Answering Responder) {input : Input Responder} (kept : input ≠ .clearFaults) :
    s.faultsRemaining + input.occurrences =
      ((decisions env [input] s).filterMap fun entry => entry.2.fired).length +
        (step env s input).faultsRemaining := by
  cases input with
  | inject fault =>
    by_cases left : 0 < fault.remaining
    · simp [step, inject, left, faultsRemaining, Input.occurrences, decisions]
    · have empty : fault.remaining = 0 := by omega
      simp [step, inject, empty, faultsRemaining, Input.occurrences, decisions]
  | clearFaults => exact absurd rfl kept
  | respond name responder => simp [step, faultsRemaining, Input.occurrences, decisions]
  | clearResponder name => simp [step, faultsRemaining, Input.occurrences, decisions]
  | call name payload now =>
    rcases decide_cases env name payload now s with ⟨reply, faults, found, eq⟩ | ⟨-, none, same⟩
    · have count := fireFault_remaining found
      have left := remaining_retained faults
      have one : ((decisions env [.call name payload now] s).filterMap fun entry => entry.2.fired) = [reply] := by
        simp [decisions, eq, Decision.fired]
      simp only [one, step, eq, faultsRemaining, Input.occurrences, count, left, List.length_singleton]
      omega
    · simp [step, decisions, none, same, faultsRemaining, Input.occurrences]

/-- What `decide` does with the faults over a run. -/
structure FaultsInOrder (env : AnswerEnv) (inputs : List (Input Responder)) (s : Answering Responder) : Prop where
  /-- What was scripted for an action is what its CALLs were answered, in order, and what is left. -/
  order : ∀ action, scripts s.faults action ++ injected action inputs =
    fired action (decisions env inputs s) ++ scripts (run env inputs s).faults action
  /-- A CALL is answered by a fault exactly if one is left for its action. -/
  heeded : ∀ before action payload now after, inputs = before ++ .call action payload now :: after →
    ((run env before s).decide env action payload now).1.fired =
      (scripts (run env before s).faults action).head?
  /-- `faults_remaining` is what was scripted less what was used. -/
  counted : s.faultsRemaining + (inputs.map Input.occurrences).sum =
    ((decisions env inputs s).filterMap fun entry => entry.2.fired).length + (run env inputs s).faultsRemaining

/-- Scripted faults are used in the order in which they were injected, each as often as it says. -/
theorem faults_in_order (env : AnswerEnv) (inputs : List (Input Responder)) (s : Answering Responder)
    (kept : Input.clearFaults ∉ inputs) : FaultsInOrder env inputs s where
  order action := by
    obtain ⟨state, replies⟩ := run_scripts env inputs s kept
    rw [replies, state]
    apply Queues.run_conserves
    intro mem
    obtain ⟨input, -, op⟩ := List.mem_filterMap.mp mem
    cases input <;> simp [Input.op] at op
  heeded before action payload now after _ := fired_decide action payload now _
  counted := by
    induction inputs generalizing s with
    | nil => simp [decisions]
    | cons input inputs ih =>
      simp only [List.mem_cons, not_or] at kept
      have first := step_remaining env s (Ne.symm kept.1)
      have rest := ih (step env s input) kept.2
      rw [decisions_cons, run_cons, List.map_cons, List.sum_cons, List.filterMap_append, List.length_append]
      omega

/-- Two boots without an answer, between them a CALL that nothing is scripted for; the third boot is answered normally. -/
theorem faults_in_order_boots :
    let boot : Fault := { action := "BootNotification", reply := .silence, remaining := 2 }
    let env : AnswerEnv := { schemas := none, iso := fun _ => "2024-01-01T00:00:00Z" }
    let call (name : String) : Input Unit := .call name (.object []) 0
    FaultsInOrder env
      [.inject boot, call "BootNotification", call "Heartbeat", call "BootNotification", call "BootNotification"]
      { txIds := (TransactionIds.fixed 123).allocator } :=
  faults_in_order _ _ _ (by simp)

/-! ## Transaction ids -/

end Answering

/-- The id that a default answer drew from the allocator. -/
def Decision.drawn : Decision Responder → Option Int32
  | default id _ => id
  | _ => none

namespace TransactionIdAllocator

/-- The id that the allocator gives after `n` others. -/
def nth (a : TransactionIdAllocator) (n : Nat) : Int32 :=
  match a.policy with
  | .fixed id => id
  | .incrementing _ => a.next + Int32.ofNat n

theorem allocate_nth (a : TransactionIdAllocator) :
    a.allocate.1 = a.nth 0 ∧ ∀ n, a.allocate.2.nth n = a.nth (n + 1) := by
  cases policy : a.policy with
  | fixed id => simp [allocate, nth, policy]
  | incrementing id =>
    simp only [allocate, nth, policy, Int32.ofNat_add]
    constructor
    · simp
    · intro n
      rw [Int32.add_assoc, Int32.add_comm (Int32.ofNat n)]
      rfl

end TransactionIdAllocator

namespace Answering

/-- The ids that the default answers drew, in order. -/
def drawn (log : List (String × Decision Responder)) : List Int32 := log.filterMap fun entry => entry.2.drawn

/-- An id is drawn for a `StartTransaction`, and its answer carries it. -/
theorem decide_drawn (env : AnswerEnv) (action : String) (payload : Json) (now : Int) (s : Answering Responder) :
    ((s.decide env action payload now).1.drawn = none ∧
        (s.decide env action payload now).2.txIds = s.txIds ∧
        ∀ reply, (s.decide env action payload now).1 = .default none reply → action ≠ "StartTransaction") ∨
      (action = "StartTransaction" ∧
        (s.decide env action payload now).1 = .default (some s.txIds.allocate.1)
          (.object [("transactionId", .integer s.txIds.allocate.1.toInt),
            ("idTagInfo", startInfo env (idTagOf payload) now)]) ∧
        (s.decide env action payload now).2.txIds = s.txIds.allocate.2) := by
  cases found : fireFault action s.faults with
  | some pair => exact .inl ⟨by simp [decide, found, Decision.drawn], by simp [decide, found],
      fun reply => by simp [decide, found]⟩
  | none =>
    cases wrong : violation env action payload with
    | some violation => exact .inl ⟨by simp [decide, found, wrong, Decision.drawn], by simp [decide, found, wrong],
        fun reply => by simp [decide, found, wrong]⟩
    | none =>
      cases scripted : s.responders.lookup action with
      | some responder => exact .inl ⟨by simp [decide, found, wrong, scripted, Decision.drawn],
          by simp [decide, found, wrong, scripted], fun reply => by simp [decide, found, wrong, scripted]⟩
      | none =>
        by_cases start : action = "StartTransaction"
        · subst start
          have sent : isChargePointAction "StartTransaction" = true := by decide
          exact .inr ⟨rfl, by simp [decide, found, wrong, scripted, sent, defaultReply],
            by simp [decide, found, wrong, scripted, sent]⟩
        · left
          by_cases sent : isChargePointAction action = true
          · simp [decide, found, wrong, scripted, sent, start, Decision.drawn]
          · by_cases known : action ∈ actions <;>
              simp [decide, found, wrong, scripted, sent, known, start, Decision.drawn]

/-- One input draws the next id, or leaves the allocator alone. -/
theorem drawn_step (env : AnswerEnv) (input : Input Responder) (s : Answering Responder) :
    (drawn (decisions env [input] s) = [] ∧ (step env s input).txIds = s.txIds) ∨
      (drawn (decisions env [input] s) = [s.txIds.nth 0] ∧
        ∀ n, (step env s input).txIds.nth n = s.txIds.nth (n + 1)) := by
  cases input with
  | inject fault => by_cases left : 0 < fault.remaining <;> simp [decisions, drawn, step, inject, left]
  | clearFaults => exact .inl ⟨rfl, rfl⟩
  | respond name responder => exact .inl ⟨rfl, rfl⟩
  | clearResponder name => exact .inl ⟨rfl, rfl⟩
  | call name payload now =>
    rcases decide_drawn env name payload now s with ⟨none, same, -⟩ | ⟨-, answer, next⟩
    · left
      simp [decisions, drawn, step, none, same]
    · right
      have first := s.txIds.allocate_nth
      rw [← first.1]
      simp [decisions, drawn, step, answer, next, first.2, Decision.drawn]

theorem drawn_run (env : AnswerEnv) (inputs : List (Input Responder)) (s : Answering Responder) :
    drawn (decisions env inputs s) =
      (List.range (drawn (decisions env inputs s)).length).map s.txIds.nth := by
  induction inputs generalizing s with
  | nil => rfl
  | cons input inputs ih =>
    have split : drawn (decisions env (input :: inputs) s) =
        drawn (decisions env [input] s) ++ drawn (decisions env inputs (step env s input)) := by
      rw [decisions_cons, drawn, List.filterMap_append]
      rfl
    rcases drawn_step env input s with ⟨none, same⟩ | ⟨one, next⟩
    · rw [split, none, List.nil_append, ← same]
      exact ih (step env s input)
    · rw [split, one, List.singleton_append, List.length_cons, List.range_succ_eq_map, List.map_cons,
        List.map_map]
      have shift : s.txIds.nth ∘ Nat.succ = (step env s input).txIds.nth := by
        funext n
        exact (next n).symm
      rw [shift, ← ih (step env s input)]

/-- Two numbers less than 2^32 apart make different ids. -/
theorem nth_injective {a : TransactionIdAllocator} {first : Int32} (policy : a.policy = .incrementing first)
    {i j : Nat} (before : i < j) (near : j < i + 2 ^ 32) : a.nth i ≠ a.nth j := by
  intro same
  simp only [TransactionIdAllocator.nth, policy] at same
  have bits := congrArg Int32.toBitVec same
  simp only [Int32.toBitVec_add, Int32.toBitVec_ofNat'] at bits
  have numbers := congrArg BitVec.toNat (add_left_cancel bits)
  simp only [BitVec.toNat_ofNat] at numbers
  omega

/-- How the default answer numbers transactions over a run. -/
structure IdsInTurn (env : AnswerEnv) (inputs : List (Input Responder)) (s : Answering Responder) : Prop where
  /-- The ids drawn are the next ones of the policy: none is skipped, whatever faults and responders do. -/
  turn : drawn (decisions env inputs s) =
    (List.range (drawn (decisions env inputs s)).length).map s.txIds.nth
  /-- A default answer to a `StartTransaction` carries an id of its own, and no other answer draws one. -/
  carried : ∀ entry ∈ decisions env inputs s, ∀ id reply, entry.2 = .default id reply →
    (entry.1 = "StartTransaction" ∧ ∃ drawn info, id = some drawn ∧
      reply = .object [("transactionId", .integer drawn.toInt), ("idTagInfo", info)]) ∨
    (entry.1 ≠ "StartTransaction" ∧ id = none)
  /-- With an incrementing policy an id comes back after 2^32 others at the earliest. -/
  fresh : ∀ first, s.txIds.policy = .incrementing first → ∀ i j, i < j → j < i + 2 ^ 32 →
    j < (drawn (decisions env inputs s)).length →
      (drawn (decisions env inputs s))[i]? ≠ (drawn (decisions env inputs s))[j]?

/-- Whatever is scripted and whichever station calls, the default answers number transactions in turn. -/
theorem transaction_ids_in_turn (env : AnswerEnv) (inputs : List (Input Responder)) (s : Answering Responder) :
    IdsInTurn env inputs s where
  turn := drawn_run env inputs s
  carried := by
    induction inputs generalizing s with
    | nil => simp [decisions]
    | cons input inputs ih =>
      intro entry mem
      rw [decisions_cons, List.mem_append] at mem
      rcases mem with mem | mem
      · cases input with
        | call name payload now =>
          obtain rfl : entry = (name, (s.decide env name payload now).1) := by simpa [decisions] using mem
          intro id reply (answered : (s.decide env name payload now).1 = .default id reply)
          rcases decide_drawn env name payload now s with ⟨none, -, other⟩ | ⟨start, answer, -⟩
          · right
            rw [answered] at none
            obtain rfl : id = .none := none
            exact ⟨other reply answered, rfl⟩
          · left
            rw [answer] at answered
            obtain ⟨rfl, rfl⟩ := Decision.default.inj answered
            exact ⟨start, _, _, rfl, rfl⟩
        | _ => simp [decisions] at mem
      · exact ih (step env s input) entry mem
  fresh first policy i j before near bound := by
    rw [drawn_run env inputs s, List.getElem?_map, List.getElem?_map,
      List.getElem?_range (before.trans bound), List.getElem?_range bound]
    intro same
    exact nth_injective policy before near (Option.some.inj same)

end Answering

end KirbyOcpp.Csms
