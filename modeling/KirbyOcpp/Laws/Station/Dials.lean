import KirbyOcpp.Ledger.TieSteps
import KirbyOcpp.Laws.Station.Permissions
import KirbyOcpp.Laws.Station.Calls
import KirbyOcpp.Station.Dials

/-!
# The link and the connection attempts over whole runs

The tie is a small machine: from a good one every step leads to a good one (`TieStep.fits`), and the actor takes
such a step in each iteration (`step_tieStep`). What the attempts and the reconnect timer add is read off it.

**The law** `attempts_disciplined`.
-/

namespace KirbyOcpp

open Paths Relation

/-! ## The tie -/

/-- What holds of every tie between two iterations. -/
structure Tie.Good (t : Tie) : Prop where
  single : t.conn = true → t.connecting = false
  /-- A disconnected station makes no attempt by itself. -/
  unwanted : t.wanted = false → t.armed = false ∧ t.conn = false ∧ t.connecting = false
  stopped : t.stopped = true → t.wanted = false
  idle : t.armed = true → t.conn = false ∧ t.connecting = false

/-- What a step does to the generation, the counter and the timer. An attempt of the generation of `t` is
running if `runs`. -/
structure Tie.Fits (runs : Bool) (t t' : Tie) : Prop extends Tie.Good t' where
  later : t.generation ≤ t'.generation
  same : t'.generation = t.generation → t'.connecting = runs
  config : t'.config = t.config
  arms : t'.armed = true → t.armed = false → t'.attempts = t.attempts + 1 ∧ t.allows t'.attempts = true
  counts : t'.armed = false ∨ t.armed = true →
    t'.attempts = t.attempts ∨ (t'.attempts = 0 ∧ t'.armed = false)

/-- The steps of the tie. -/
inductive TieStep (t : Tie) : Input → Tie → Prop
  | keep (input : Input) (other : ∀ generation ok event, input ≠ .connected generation ok event) : TieStep t input t
  | reset (token generation : Nat) (result : CallResult) (conn : t.conn = true) :
    TieStep t (.callDone token generation result) { t with attempts := 0 }
  | command (command : Command) (reply : Reply) : TieStep t (.command command reply) (Actor.tieOf t command)
  | lose (code : Option Nat) : TieStep t (.closed code) t.lose
  | adopt (generation : Nat) (ok : Bool) (event : Option String) :
    TieStep t (.connected generation ok event) (t.adopt generation ok)
  | retry (armed : t.armed = true) : TieStep t (.timer .reconnect) t.retry
  | hardReset (conn : t.conn = true) : TieStep t (.timer .hardReset) t.hardReset
  | halt (reply : Option Reply) : TieStep t (.shutdown reply) t.halt

namespace Tie

variable {t : Tie}

theorem Good.refl (good : t.Good) : t.Fits t.connecting t :=
  { good with
    later := le_rfl
    same := fun _ => rfl
    config := rfl
    arms := fun armed disarmed => by rw [armed] at disarmed; cases disarmed
    counts := fun _ => .inl rfl }

theorem Good.connect (good : t.Good) (running : t.stopped = false) : t.Fits t.connecting t.connect := by
  unfold Tie.connect
  dsimp only
  split
  · refine { single := good.single, unwanted := nofun, stopped := fun stopped => ?_, idle := nofun, later := le_rfl,
             same := fun _ => rfl, config := rfl, arms := nofun, counts := fun _ => .inr ⟨rfl, rfl⟩ }
    cases running.symm.trans stopped
  · rename_i free
    rw [Bool.or_eq_true, not_or, Bool.not_eq_true, Bool.not_eq_true] at free
    refine { single := fun conn => ?_, unwanted := nofun, stopped := fun stopped => ?_, idle := nofun,
             later := Nat.le_succ _, same := fun same => ?_, config := rfl, arms := nofun,
             counts := fun _ => .inr ⟨rfl, rfl⟩ }
    · cases free.1.symm.trans conn
    · cases running.symm.trans stopped
    · exact absurd same (Nat.succ_ne_self _)

theorem Good.disconnect (_ : t.Good) : t.Fits t.connecting t.disconnect where
  single := nofun
  unwanted := fun _ => ⟨rfl, rfl, rfl⟩
  stopped := fun _ => rfl
  idle := nofun
  later := Nat.le_succ _
  same := fun same => absurd same (Nat.succ_ne_self _)
  config := rfl
  arms := nofun
  counts := fun _ => .inr ⟨rfl, rfl⟩

theorem Good.reconnect (good : t.Good) (running : t.stopped = false) :
    t.Fits t.connecting t.disconnect.connect := by
  have down := good.disconnect
  have up := Good.connect (t := t.disconnect) down.toGood running
  refine { up with
    later := down.later.trans up.later, same := fun same => ?_, arms := fun armed => ?_,
    counts := fun _ => .inr ⟨?_, ?_⟩ }
  · exact absurd ((Nat.lt_succ_self _).trans_le up.later) (by rw [same]; exact lt_irrefl _)
  · cases armed
  · rfl
  · rfl

theorem Good.hardReset (_ : t.Good) (running : t.stopped = false) : t.Fits t.connecting t.hardReset := by
  refine { single := nofun, unwanted := nofun, stopped := fun stopped => ?_, idle := nofun,
           later := ?_, same := fun same => ?_, config := rfl, arms := nofun, counts := fun _ => .inr ⟨rfl, rfl⟩ }
  · cases running.symm.trans stopped
  · exact (Nat.le_succ _).trans (Nat.le_succ _)
  · exact absurd same (show t.generation + 1 + 1 ≠ t.generation by omega)

theorem Good.reset (good : t.Good) (conn : t.conn = true) : t.Fits t.connecting { t with attempts := 0 } := by
  have disarmed : t.armed = false := by
    cases armed : t.armed with
    | false => rfl
    | true => cases conn.symm.trans (good.idle armed).1
  refine { single := good.single, unwanted := good.unwanted, stopped := good.stopped, idle := good.idle,
           later := le_rfl, same := fun _ => rfl, config := rfl, arms := fun armed => ?_,
           counts := fun _ => .inr ⟨rfl, disarmed⟩ }
  cases disarmed.symm.trans armed

/-- `schedule_reconnect` of a link that is down, where no attempt runs. -/
theorem schedule_fits (down : t.conn = false) (free : t.connecting = false) (disarmed : t.armed = false)
    (stopped : t.stopped = true → t.wanted = false) : t.Fits false t.schedule := by
  unfold schedule
  split
  · refine { single := fun conn => ?_, unwanted := fun _ => ⟨disarmed, down, free⟩, stopped, idle := fun armed => ?_,
             later := le_rfl, same := fun _ => free, config := rfl, arms := fun armed => ?_,
             counts := fun _ => .inl rfl }
    · cases down.symm.trans conn
    · cases disarmed.symm.trans armed
    · cases disarmed.symm.trans armed
  · rename_i allowed
    simp only [Bool.or_eq_true, Bool.not_eq_true', not_or, Bool.not_eq_false] at allowed
    refine { single := fun conn => ?_, unwanted := fun unwanted => ?_, stopped, idle := fun _ => ⟨down, free⟩,
             later := le_rfl, same := fun _ => free, config := rfl, arms := fun _ _ => ⟨rfl, allowed.2⟩,
             counts := fun either => ?_ }
    · cases down.symm.trans conn
    · cases allowed.1.symm.trans unwanted
    · rcases either with never | armed
      · cases never
      · cases disarmed.symm.trans armed

theorem Good.lose (good : t.Good) : t.Fits t.connecting t.lose := by
  unfold Tie.lose
  split
  · exact good.refl
  · rename_i conn
    rw [Bool.not_eq_true', Bool.not_eq_false] at conn
    have disarmed : t.armed = false := by
      cases armed : t.armed with
      | false => rfl
      | true => cases conn.symm.trans (good.idle armed).1
    have fits := schedule_fits (t := { t with generation := t.generation + 1, conn := false }) rfl
      (good.single conn) disarmed good.stopped
    refine { fits with
      later := (Nat.le_succ _).trans fits.later, same := fun same => ?_, arms := fits.arms, counts := fits.counts }
    exact absurd ((Nat.lt_succ_self _).trans_le fits.later) (by rw [same]; exact lt_irrefl _)

/-- The result of the attempt that runs. -/
theorem Good.adopt (good : t.Good) (connecting : t.connecting = true) (ok : Bool) :
    t.Fits false (t.adopt t.generation ok) := by
  have down : t.conn = false := by
    cases conn : t.conn with
    | false => rfl
    | true => cases connecting.symm.trans (good.single conn)
  have disarmed : t.armed = false := by
    cases armed : t.armed with
    | false => rfl
    | true => cases connecting.symm.trans (good.idle armed).2
  have wanted : t.wanted = true := by
    cases wanted : t.wanted with
    | false => cases connecting.symm.trans (good.unwanted wanted).2.2
    | true => rfl
  unfold Tie.adopt
  rw [if_neg (by simp)]
  cases ok with
  | true =>
    refine { single := fun _ => rfl, unwanted := fun unwanted => ?_, stopped := good.stopped, idle := fun armed => ?_,
             later := le_rfl, same := fun _ => rfl, config := rfl, arms := fun armed => ?_,
             counts := fun _ => .inl rfl }
    · cases wanted.symm.trans unwanted
    · cases disarmed.symm.trans armed
    · cases disarmed.symm.trans armed
  | false =>
    have fits := schedule_fits (t := { t with connecting := false }) down rfl disarmed good.stopped
    exact { fits with later := fits.later, same := fits.same, config := fits.config, arms := fits.arms,
                      counts := fits.counts }

theorem Good.retry (good : t.Good) (armed : t.armed = true) (running : t.stopped = false) :
    t.Fits t.connecting t.retry := by
  obtain ⟨down, free⟩ := good.idle armed
  unfold Tie.retry
  dsimp only
  split
  · rename_i unwanted
    rw [down, free, Bool.or_false, Bool.or_false, Bool.not_eq_true'] at unwanted
    cases armed.symm.trans (good.unwanted unwanted).1
  · rename_i wanted
    rw [down, free, Bool.or_false, Bool.or_false, Bool.not_eq_true', Bool.not_eq_false] at wanted
    refine { single := fun conn => ?_, unwanted := fun unwanted => ?_, stopped := fun stopped => ?_, idle := nofun,
             later := Nat.le_succ _, same := fun same => ?_, config := rfl, arms := nofun, counts := fun _ => .inl rfl }
    · cases down.symm.trans conn
    · cases wanted.symm.trans unwanted
    · cases running.symm.trans stopped
    · exact absurd same (Nat.succ_ne_self _)

theorem halt_fits : t.Fits t.connecting t.halt where
  single := nofun
  unwanted := fun _ => ⟨rfl, rfl, rfl⟩
  stopped := fun _ => rfl
  idle := nofun
  later := Nat.le_succ _
  same := fun same => absurd same (Nat.succ_ne_self _)
  config := rfl
  arms := nofun
  counts := fun _ => .inl rfl

end Tie

/-- A step that adopts no result leads from a good tie to a good tie. -/
theorem TieStep.fits {t t' : Tie} {input : Input} (step : TieStep t input t') (good : t.Good)
    (running : t.stopped = false) (other : ∀ generation ok event, input ≠ .connected generation ok event) :
    t.Fits t.connecting t' := by
  cases step with
  | keep => exact good.refl
  | reset _ _ _ conn => exact good.reset conn
  | command command reply =>
    cases command with
    | connect => exact good.connect running
    | disconnect => exact good.disconnect
    | reconnect => exact good.reconnect running
    | _ => exact good.refl
  | lose => exact good.lose
  | adopt generation ok event => exact absurd rfl (other _ _ _)
  | retry armed => exact good.retry armed running
  | hardReset => exact good.hardReset running
  | halt => exact Tie.halt_fits

namespace Actor

/-- An iteration is a step of the tie. -/
theorem step_tieStep (a : Actor) (wake : Wake) (running : a.stopped = false)
    (closed : a.link.conn = false → a.calls = []) : TieStep a.tie wake.input (a.step wake).tie := by
  have woken : SameTie a (a.woken wake) := .refl
  have calls : (a.woken wake).calls = a.calls := rfl
  have settled : (a.step wake).tie = ((a.woken wake).handle wake.input).tie := by
    unfold step
    rw [running]
    dsimp only
    split
    · contradiction
    · split <;> rfl
  rw [settled, ← (show (a.woken wake).tie = a.tie from woken)]
  have closed' : (a.woken wake).link.conn = false → (a.woken wake).calls = [] := closed
  generalize a.woken wake = b at closed' ⊢
  cases wake.input with
  | command command reply =>
    show TieStep b.tie _ (b.execute command reply).tie
    rw [execute_tie]
    exact .command command reply
  | shutdown reply =>
    show TieStep b.tie _ (b.shutdown reply).tie
    rw [shutdown_tie]
    exact .halt reply
  | incoming call =>
    show TieStep b.tie _ (if b.link.conn then b.dispatchIncoming call else b).tie
    split
    · rw [show (b.dispatchIncoming call).tie = b.tie from (dispatchIncoming_walk b call).tied]
      exact .keep _ nofun
    · exact .keep _ nofun
  | closed code =>
    show TieStep b.tie _ (b.onClosed code).tie
    rw [onClosed_tie]
    exact .lose code
  | connected generation ok event =>
    show TieStep b.tie _ (b.onConnectResult generation ok event).tie
    rw [onConnectResult_tie]
    exact .adopt generation ok event
  | callDone token generation result =>
    show TieStep b.tie _ (b.onCallDone token generation result).tie
    rcases b.onCallDone_tie token generation result with tied | ⟨pending, reset⟩
    · rw [show (b.onCallDone token generation result).tie = b.tie from tied]
      exact .keep _ nofun
    · rw [reset]
      refine .reset token generation result ?_
      cases conn : b.link.conn with
      | true => exact conn
      | false => exact absurd (closed' conn) pending
  | saved ok =>
    show TieStep b.tie _ (b.onSaved ok).tie
    rw [show (b.onSaved ok).tie = b.tie from (onSaved_walk b ok).tied]
    exact .keep _ nofun
  | maintenance notification event =>
    show TieStep b.tie _ (b.onMaintenance notification event).tie
    rw [show (b.onMaintenance notification event).tie = b.tie from
      (onMaintenance_walk b notification event).tied]
    exact .keep _ nofun
  | timer key =>
    show TieStep b.tie _ (if key ∈ b.timers then (b.cancelTimer key).onTimer key else b).tie
    split
    · rename_i armed
      by_cases reconnect : key = .reconnect
      · subst reconnect
        rw [show ((b.cancelTimer .reconnect).onTimer .reconnect).tie = b.tie.retry from onReconnectTimer_tie b]
        exact .retry (by unfold tie; simpa using armed)
      · have fired : SameTie b (b.cancelTimer key) := (cancelTimer_walk b reconnect).tied
        by_cases hard : key = .hardReset
        · subst hard
          rcases onHardResetTimer_tie (b.cancelTimer .hardReset) with tied | ⟨conn, reset⟩
          · rw [show ((b.cancelTimer .hardReset).onTimer .hardReset).tie = b.tie from fired.trans tied]
            exact .keep _ nofun
          · rw [show ((b.cancelTimer .hardReset).onTimer .hardReset).tie = b.tie.hardReset from
              reset.trans (congrArg Tie.hardReset fired)]
            exact .hardReset conn
        · rw [show ((b.cancelTimer key).onTimer key).tie = b.tie from
            fired.trans (onTimer_tied (b.cancelTimer key) reconnect hard)]
          exact .keep _ nofun
    · exact .keep _ nofun

end Actor

namespace StationDials

/-! ## The log of the attempts -/

/-- The counter of attempts as the log tells it. -/
def counter : List DialEvent → Nat
  | .armed attempt _ _ :: _ | .attempted attempt _ :: _ => attempt
  | _ => 0

/-- An attempt that the station makes by itself is the next one, is allowed, and waits for its delay. -/
inductive Lawful (policy : ReconnectConfig) : List DialEvent → Prop
  | nil : Lawful policy []
  | reset {log : List DialEvent} (past : Lawful policy log) : Lawful policy (.reset :: log)
  | armed {log : List DialEvent} (past : Lawful policy log) (time : Int)
      (allowed : policy.allowsAttempt (counter log + 1) = true) :
      Lawful policy (.armed (counter log + 1) time (policy.delayForAttempt (counter log + 1)) :: log)
  | attempted {log : List DialEvent} {attempt delay : Nat} {time : Int}
      (past : Lawful policy (.armed attempt time delay :: log)) (later : Int) (due : time + ofMillis delay ≤ later) :
      Lawful policy (.attempted attempt later :: .armed attempt time delay :: log)

variable {policy : ReconnectConfig} {log : List DialEvent}

theorem Lawful.suffix (h : Lawful policy log) {past : List DialEvent} (suffix : past <:+ log) : Lawful policy past := by
  induction h with
  | nil =>
    obtain rfl := List.suffix_nil.mp suffix
    exact .nil
  | reset earlier ih =>
    rcases List.suffix_cons_iff.mp suffix with rfl | older
    · exact .reset earlier
    · exact ih older
  | armed earlier time allowed ih =>
    rcases List.suffix_cons_iff.mp suffix with rfl | older
    · exact .armed earlier time allowed
    · exact ih older
  | attempted earlier later due ih =>
    rcases List.suffix_cons_iff.mp suffix with rfl | older
    · exact .attempted earlier later due
    · exact ih older

/-- Without a reset the counter only grows. -/
theorem Lawful.counter_le (h : Lawful policy log) {recent past : List DialEvent} (eq : log = recent ++ past)
    (kept : .reset ∉ recent) : counter past ≤ counter log := by
  induction h generalizing recent with
  | nil =>
    obtain ⟨-, rfl⟩ := List.append_eq_nil_iff.mp eq.symm
    exact le_rfl
  | reset earlier ih =>
    cases recent with
    | nil =>
      obtain rfl := eq
      exact le_rfl
    | cons event recent =>
      obtain ⟨rfl, -⟩ := List.cons.inj eq
      exact absurd List.mem_cons_self kept
  | armed earlier time allowed ih =>
    cases recent with
    | nil =>
      obtain rfl := eq
      exact le_rfl
    | cons event recent =>
      exact (ih (List.cons.inj eq).2 fun mem => kept (List.mem_cons_of_mem _ mem)).trans (Nat.le_succ _)
  | attempted earlier later due ih =>
    cases recent with
    | nil =>
      obtain rfl := eq
      exact le_rfl
    | cons event recent => exact ih (List.cons.inj eq).2 fun mem => kept (List.mem_cons_of_mem _ mem)

/-- An attempt follows the arming of its timer. -/
theorem Lawful.attempted_inv {attempt : Nat} {later : Int} {past : List DialEvent}
    (h : Lawful policy (.attempted attempt later :: past)) :
    ∃ time earlier, past = .armed attempt time (policy.delayForAttempt attempt) :: earlier ∧
      attempt = counter earlier + 1 ∧ policy.allowsAttempt attempt = true ∧
      time + ofMillis (policy.delayForAttempt attempt) ≤ later := by
  cases h with
  | attempted armed later due =>
    cases armed with
    | armed past _ allowed => exact ⟨_, _, rfl, rfl, allowed, due⟩

/-- Between two attempts of one number the counter is set back. -/
theorem Lawful.once {attempt : Nat} {later earlier : Int} {between past : List DialEvent}
    (h : Lawful policy (.attempted attempt later :: (between ++ .attempted attempt earlier :: past))) :
    .reset ∈ between := by
  obtain ⟨time, rest, eq, number, -, -⟩ := h.attempted_inv
  have lawful : Lawful policy rest := by
    rw [eq] at h
    exact h.suffix ((List.suffix_cons _ rest).trans (List.suffix_cons _ _))
  by_contra kept
  cases between with
  | nil => cases eq
  | cons event between =>
    obtain ⟨rfl, rest'⟩ := List.cons.inj eq
    have silent : .reset ∉ between := fun mem => kept (List.mem_cons_of_mem _ mem)
    have grown := lawful.counter_le rest'.symm silent
    have same : counter (.attempted attempt earlier :: past) = attempt := rfl
    omega

/-! ## The system -/

/-- What holds between two moves. `runs` says whether an attempt of the current generation is running. -/
structure Sound (runs : Bool) (s : StationDials) : Prop where
  ids : Ids (s.actor.ledger [] .none)
  fates : Fates (s.actor.ledger [] .none)
  good : s.actor.tie.Good
  enabled : s.actor.config.reconnectEnabled = s.policy.enabled
  limit : s.actor.config.reconnectMaxAttempts = s.policy.maxAttempts
  fresh : s.dials.Nodup
  known : ∀ generation ∈ s.dials, generation ≤ s.actor.link.generation
  running : s.actor.link.generation ∈ s.dials ↔ runs = true
  timer : .reconnect ∈ s.actor.timers → ∃ time earlier,
    s.log = .armed s.actor.link.attempts time (s.policy.delayForAttempt s.actor.link.attempts) :: earlier ∧
      s.due = time + ofMillis (s.policy.delayForAttempt s.actor.link.attempts)
  count : s.actor.link.attempts = counter s.log
  lawful : Lawful s.policy s.log

variable {s : StationDials} {runs : Bool}

theorem Sound.closed (h : Sound runs s) (running : s.actor.stopped = false) (down : s.actor.link.conn = false) :
    s.actor.calls = [] :=
  h.fates.closed down running

theorem rearmed_eq (before after : Actor) : rearmed before after = (after.tie.armed && !before.tie.armed) := by
  unfold rearmed Actor.tie
  simp

/-- The books of the actor after an iteration. -/
theorem Sound.books (h : Sound runs s) (wake : Wake) :
    Ids ((s.actor.step wake).ledger [] .none) ∧ Fates ((s.actor.step wake).ledger [] .none) := by
  have permits : Actor.Permits (Actor.allowing true true true) (s.actor.woken wake) wake.input :=
    Actor.permits_allowing _ (.inl rfl) (.inl rfl) (.inl rfl)
  have path := s.actor.step_path wake h.ids permits
  exact ⟨(ids_preserved _).path path h.ids, (fates_preserved _).path path h.fates⟩

theorem iterate_log (s : StationDials) (wake : Wake) {event : Option DialEvent}
    (is : eventOf s.policy s.actor (s.actor.step wake) wake = event) :
    (s.iterate wake).log = event.toList ++ s.log := by
  rw [← is]
  rfl

theorem iterate_due (s : StationDials) (wake : Wake) :
    (s.iterate wake).due = if rearmed s.actor (s.actor.step wake) then
      wake.mono + ofMillis (s.policy.delayForAttempt (s.actor.step wake).link.attempts) else s.due := rfl

/-- A dial that begins has a generation of its own. -/
theorem Sound.dials (h : Sound runs s) (wake : Wake) (fits : s.actor.tie.Fits runs (s.actor.step wake).tie) :
    (s.iterate wake).dials.Nodup ∧
      (∀ generation ∈ (s.iterate wake).dials, generation ≤ (s.actor.step wake).link.generation) ∧
      ((s.actor.step wake).link.generation ∈ (s.iterate wake).dials ↔
        (s.actor.step wake).link.connecting = true) := by
  have dialsOf : (s.iterate wake).dials =
      if dialed s.actor (s.actor.step wake) then (s.actor.step wake).link.generation :: s.dials else s.dials := rfl
  have later : s.actor.link.generation ≤ (s.actor.step wake).link.generation := fits.later
  rw [dialsOf]
  have old (generation : Nat) (mem : generation ∈ s.dials) : generation ≤ (s.actor.step wake).link.generation :=
    (h.known generation mem).trans later
  by_cases moved : (s.actor.step wake).link.generation = s.actor.link.generation
  · have silent : dialed s.actor (s.actor.step wake) = false := by
      unfold dialed
      simp [moved]
    rw [silent]
    refine ⟨h.fresh, old, ?_⟩
    have same : (s.actor.step wake).link.connecting = runs := fits.same moved
    rw [same, moved]
    exact h.running
  · have new : (s.actor.step wake).link.generation ∉ s.dials := fun mem =>
      moved (le_antisymm (h.known _ mem) later)
    cases connecting : (s.actor.step wake).link.connecting with
    | false =>
      have silent : dialed s.actor (s.actor.step wake) = false := by
        unfold dialed
        rw [connecting]
        rfl
      rw [silent]
      exact ⟨h.fresh, old, by simpa using new⟩
    | true =>
      have dials : dialed s.actor (s.actor.step wake) = true := by
        unfold dialed
        simp [connecting, moved]
      rw [dials]
      refine ⟨List.nodup_cons.mpr ⟨new, h.fresh⟩, ?_, by simp⟩
      intro generation mem
      rcases List.mem_cons.mp mem with rfl | mem
      · exact le_rfl
      · exact old generation mem

/-- The timer of the state is the one that the log was last armed with. -/
def Timed (s : StationDials) (log : List DialEvent) : Prop :=
  s.actor.tie.armed = true → ∃ time earlier,
    log = .armed s.actor.link.attempts time (s.policy.delayForAttempt s.actor.link.attempts) :: earlier ∧
      s.due = time + ofMillis (s.policy.delayForAttempt s.actor.link.attempts)

/-- An iteration keeps the books, if what it adds to the log does. -/
theorem Sound.extend (h : Sound runs s) (wake : Wake) (fits : s.actor.tie.Fits runs (s.actor.step wake).tie)
    {log : List DialEvent} (logOf : (s.iterate wake).log = log) (timer : Timed (s.iterate wake) log)
    (count : (s.actor.step wake).link.attempts = counter log) (lawful : Lawful s.policy log) :
    Sound (s.actor.step wake).link.connecting (s.iterate wake) := by
  subst logOf
  obtain ⟨ids, fates⟩ := h.books wake
  obtain ⟨fresh, known, running⟩ := h.dials wake fits
  have config : (s.actor.step wake).config = s.actor.config := fits.config
  refine ⟨ids, fates, fits.toGood, ?_, ?_, fresh, known, running, fun armed => ?_, count, lawful⟩
  · exact (congrArg StationConfig.reconnectEnabled config).trans h.enabled
  · exact (congrArg StationConfig.reconnectMaxAttempts config).trans h.limit
  · exact timer (decide_eq_true armed)

/-- The iteration arms the timer: for the next attempt, which the policy allows. -/
theorem Sound.arms (h : Sound runs s) (wake : Wake) (fits : s.actor.tie.Fits runs (s.actor.step wake).tie)
    (arms : rearmed s.actor (s.actor.step wake) = true) :
    Sound (s.actor.step wake).link.connecting (s.iterate wake) := by
  have both := arms
  rw [rearmed_eq, Bool.and_eq_true, Bool.not_eq_true'] at both
  obtain ⟨next, allowed⟩ := fits.arms both.1 both.2
  have number : (s.actor.step wake).link.attempts = counter s.log + 1 := by
    rw [← h.count]
    exact next
  have event : eventOf s.policy s.actor (s.actor.step wake) wake = some (.armed (counter s.log + 1) wake.mono
      (s.policy.delayForAttempt (counter s.log + 1))) := by
    unfold eventOf
    rw [if_pos arms, number]
  have policy : s.policy.allowsAttempt (counter s.log + 1) = true := by
    unfold ReconnectConfig.allowsAttempt
    rw [← h.enabled, ← h.limit, ← number]
    exact allowed
  refine h.extend wake fits (iterate_log s wake event) (fun _ => ⟨wake.mono, s.log, ?_, ?_⟩) number
    (.armed h.lawful wake.mono policy)
  · change _ = DialEvent.armed (s.actor.step wake).link.attempts wake.mono
      (s.policy.delayForAttempt (s.actor.step wake).link.attempts) :: s.log
    rw [number]
    rfl
  · rw [iterate_due, if_pos arms]
    rfl

/-- The iteration sets the counter back. -/
theorem Sound.resets (h : Sound runs s) (wake : Wake) (fits : s.actor.tie.Fits runs (s.actor.step wake).tie)
    (arms : rearmed s.actor (s.actor.step wake) = false) (kept : (s.actor.step wake).tie.armed = false ∨
      s.actor.tie.armed = true)
    (reset : (s.actor.step wake).link.attempts = 0 ∧ s.actor.link.attempts ≠ 0) :
    Sound (s.actor.step wake).link.connecting (s.iterate wake) := by
  have event : eventOf s.policy s.actor (s.actor.step wake) wake = some .reset := by
    unfold eventOf
    rw [if_neg (by simp [arms]), if_pos reset]
  refine h.extend wake fits (iterate_log s wake event) (fun armed => ?_) reset.1 (.reset h.lawful)
  rcases fits.counts kept with same | ⟨-, disarmed⟩
  · exact absurd (same.symm.trans reset.1) reset.2
  · cases disarmed.symm.trans armed

/-- A timer that fires and dials makes the attempt that it was armed for, not before its time. -/
theorem Sound.attempts (h : Sound runs s) (wake : Wake) (fits : s.actor.tie.Fits runs (s.actor.step wake).tie)
    (event : eventOf s.policy s.actor (s.actor.step wake) wake = some (.attempted s.actor.link.attempts wake.mono))
    (before : s.actor.tie.armed = true) (after : (s.actor.step wake).tie.armed = false)
    (same : (s.actor.step wake).link.attempts = s.actor.link.attempts) (waited : s.due ≤ wake.mono) :
    Sound (s.actor.step wake).link.connecting (s.iterate wake) := by
  obtain ⟨time, earlier, log, dueAt⟩ := h.timer (of_decide_eq_true before)
  have lawful := h.lawful
  rw [log] at lawful
  refine h.extend wake fits (iterate_log s wake event) (fun armed => ?_) same ?_
  · cases after.symm.trans armed
  · rw [log]
    exact .attempted lawful wake.mono (dueAt ▸ waited)

/-- An iteration whose step of the tie fits keeps the books of the attempts. -/
theorem Sound.iterate (h : Sound runs s) (wake : Wake) (fits : s.actor.tie.Fits runs (s.actor.step wake).tie)
    (retried : wake.input = .timer .reconnect → dialed s.actor (s.actor.step wake) = true →
      s.actor.tie.armed = true ∧ (s.actor.step wake).tie.armed = false ∧
        (s.actor.step wake).link.attempts = s.actor.link.attempts ∧ s.due ≤ wake.mono) :
    Sound (s.actor.step wake).link.connecting (s.iterate wake) := by
  cases arms : rearmed s.actor (s.actor.step wake) with
  | true => exact h.arms wake fits arms
  | false =>
    have kept : (s.actor.step wake).tie.armed = false ∨ s.actor.tie.armed = true := by
      rw [rearmed_eq, Bool.and_eq_false_iff, Bool.not_eq_false'] at arms
      exact arms
    by_cases reset : (s.actor.step wake).link.attempts = 0 ∧ s.actor.link.attempts ≠ 0
    · exact h.resets wake fits arms kept reset
    · have same : (s.actor.step wake).link.attempts = s.actor.link.attempts := by
        rcases fits.counts kept with same | ⟨zero, -⟩
        · exact same
        · by_contra differs
          exact reset ⟨zero, fun none => differs (zero.trans none.symm)⟩
      have timer : Timed (s.iterate wake) s.log := by
        intro armed
        have before : s.actor.tie.armed = true := by
          rcases kept with disarmed | before
          · cases disarmed.symm.trans armed
          · exact before
        rw [iterate_due, if_neg (by simp [arms])]
        change ∃ time earlier, s.log = .armed (s.actor.step wake).link.attempts time
          (s.policy.delayForAttempt (s.actor.step wake).link.attempts) :: earlier ∧
          s.due = time + ofMillis (s.policy.delayForAttempt (s.actor.step wake).link.attempts)
        rw [same]
        exact h.timer (of_decide_eq_true before)
      have quiet (event : eventOf s.policy s.actor (s.actor.step wake) wake = none) :
          Sound (s.actor.step wake).link.connecting (s.iterate wake) :=
        h.extend wake fits (iterate_log s wake event) timer (same.trans h.count) h.lawful
      cases input : wake.input with
      | timer key =>
        by_cases reconnect : key = .reconnect
        · subst reconnect
          cases dials : dialed s.actor (s.actor.step wake) with
          | false =>
            refine quiet ?_
            unfold eventOf
            rw [if_neg (by simp [arms]), if_neg reset, input]
            dsimp only
            rw [dials]
            rfl
          | true =>
            obtain ⟨before, after, -, waited⟩ := retried input dials
            refine h.attempts wake fits ?_ before after same waited
            unfold eventOf
            rw [if_neg (by simp [arms]), if_neg reset, input]
            dsimp only
            rw [dials, same]
            rfl
        · refine quiet ?_
          unfold eventOf
          rw [if_neg (by simp [arms]), if_neg reset, input]
          split
          · rename_i same
            injection same with same
            exact absurd same reconnect
          · rfl
      | _ =>
        refine quiet ?_
        unfold eventOf
        rw [if_neg (by simp [arms]), if_neg reset, input]

/-- A move that opens the link again by a command. -/
def Reopens : DialMove → Prop
  | .wake { input := .command .connect _, .. } | .wake { input := .command .reconnect _, .. } => True
  | _ => False

/-- An iteration that adopts no result. -/
theorem Sound.wake (h : Sound s.actor.link.connecting s) (wake : Wake)
    (other : ∀ generation ok event, wake.input ≠ .connected generation ok event)
    (waited : wake.input = .timer .reconnect → s.due ≤ wake.mono) :
    Sound (s.iterate wake).actor.link.connecting (s.iterate wake) := by
  cases running : s.actor.stopped with
  | true =>
    have stays : s.actor.step wake = s.actor := by
      unfold Actor.step
      rw [if_pos running]
    refine h.iterate wake (by rw [stays]; exact h.good.refl) fun _ dials => ?_
    rw [stays] at dials
    simp [dialed] at dials
  | false =>
    have step := s.actor.step_tieStep wake running (h.closed running)
    refine h.iterate wake (step.fits h.good running other) fun fired dials => ?_
    rw [fired] at step
    generalize after : (s.actor.step wake).tie = t at step ⊢
    cases step with
    | keep =>
      have same : (s.actor.step wake).link.generation = s.actor.link.generation := congrArg Tie.generation after
      simp [dialed, same] at dials
    | retry armed =>
      refine ⟨armed, ?_, ?_, waited fired⟩
      · unfold Tie.retry
        dsimp only
        split <;> rfl
      · refine (congrArg Tie.attempts after).trans ?_
        unfold Tie.retry
        dsimp only
        split <;> rfl

/-- The result of an attempt arrives. -/
theorem Sound.result (h : Sound s.actor.link.connecting s) {index generation : Nat}
    (found : s.dials[index]? = some generation) (ok : Bool) (event : Option String) (now : Instant) (mono : Int) :
    let s' := ({ s with dials := s.dials.eraseIdx index } : StationDials).iterate
      { input := .connected generation ok event, now, mono }
    Sound s'.actor.link.connecting s' := by
  obtain ⟨bound, rfl⟩ := List.getElem?_eq_some_iff.mp found
  have erased : s.dials.eraseIdx index = s.dials.erase s.dials[index] := (h.fresh.erase_getElem index bound).symm
  have fresh : (s.dials.eraseIdx index).Nodup := h.fresh.sublist (List.eraseIdx_sublist _ _)
  have left {runs : Bool} (running : s.actor.link.generation ∈ s.dials.eraseIdx index ↔ runs = true) :
      Sound runs { s with dials := s.dials.eraseIdx index } :=
    { h with
      fresh := fresh, running := running
      known := fun generation mem => h.known generation (List.mem_of_mem_eraseIdx mem) }
  intro s'
  by_cases current : s.dials[index] = s.actor.link.generation
  · have connecting : s.actor.link.connecting = true := h.running.mp (current ▸ List.getElem_mem bound)
    have running : s.actor.stopped = false := by
      cases stopped : s.actor.stopped with
      | false => rfl
      | true => cases connecting.symm.trans (h.good.unwanted (h.good.stopped stopped)).2.2
    have none : Sound false { s with dials := s.dials.eraseIdx index } := by
      refine left ?_
      rw [erased, h.fresh.mem_erase_iff]
      simp [current]
    have step := s.actor.step_tieStep { input := .connected s.dials[index] ok event, now, mono } running
      (h.closed running)
    refine none.iterate _ ?_ nofun
    generalize (s.actor.step { input := .connected s.dials[index] ok event, now, mono }).tie = t at step ⊢
    cases step with
    | keep _ other => exact absurd rfl (other _ _ _)
    | adopt =>
      rw [current]
      exact h.good.adopt connecting ok
  · have same : Sound s.actor.link.connecting { s with dials := s.dials.eraseIdx index } := by
      refine left ?_
      rw [erased, h.fresh.mem_erase_iff]
      exact ⟨fun both => h.running.mp both.2, fun runs => ⟨Ne.symm current, h.running.mpr runs⟩⟩
    refine same.iterate _ ?_ nofun
    cases running : s.actor.stopped with
    | true =>
      show s.actor.tie.Fits _ (s.actor.step _).tie
      unfold Actor.step
      rw [if_pos running]
      exact h.good.refl
    | false =>
      have step := s.actor.step_tieStep { input := .connected s.dials[index] ok event, now, mono } running
        (h.closed running)
      show s.actor.tie.Fits _ (s.actor.step _).tie
      generalize (s.actor.step { input := .connected s.dials[index] ok event, now, mono }).tie = t at step ⊢
      cases step with
      | keep _ other => exact absurd rfl (other _ _ _)
      | adopt =>
        unfold Tie.adopt
        rw [if_pos (show s.dials[index] ≠ s.actor.tie.generation from current)]
        exact h.good.refl

theorem Sound.move (h : Sound s.actor.link.connecting s) (move : DialMove) :
    Sound (s.move move).actor.link.connecting (s.move move) := by
  unfold StationDials.move
  split
  · exact h
  · split
    · rename_i due
      exact h.wake _ nofun fun _ => due
    · exact h
  · rename_i wake connected reconnect
    refine h.wake wake ?_ ?_
    · intro generation ok event input
      obtain ⟨input', now, mono⟩ := wake
      obtain rfl := input
      exact connected _ _ _ _ _ rfl
    · intro input
      obtain ⟨input', now, mono⟩ := wake
      obtain rfl := input
      exact absurd rfl (reconnect _ _)
  · split
    · exact h
    · rename_i generation found
      exact h.result found _ _ _ _

theorem Sound.run (h : Sound s.actor.link.connecting s) (moves : List DialMove) :
    Sound (s.run moves).actor.link.connecting (s.run moves) := by
  unfold StationDials.run
  induction moves generalizing s with
  | nil => exact h
  | cons move moves ih => exact ih (h.move move)

/-- The tie of a new process. -/
def blank (config : StationConfig) : Tie :=
  { conn := false, connecting := false, wanted := false, generation := 0, attempts := 0, armed := false
    stopped := false, config }

theorem start_tie (config : StationConfig) (registry : ConfigRegistry) (now : Instant) (mono : Int)
    (saved : Option PersistedStation) : (Actor.start config registry now mono saved).tie = blank config := by
  have restored (a : Actor) : SameTie a a.afterRestore := by
    unfold Actor.afterRestore
    refine (a.releaseExpiredReservations_walk.trans ?_).tied
    generalize a.releaseExpiredReservations = b
    exact (Walk.foldl _ (fun id a => a.armReservation_walk id) b).trans (Actor.rescheduleMetering_walk _)
  have begun (a : Actor) : a.afterRestore.settleMeters.tie = a.tie :=
    (restored a).trans (Actor.settleMeters_walk _).tied
  cases saved with
  | none =>
    unfold Actor.start
    dsimp only
    rw [begun]
    rfl
  | some saved =>
    unfold Actor.start
    dsimp only
    rw [begun]
    rfl

/-- A new process has no link and no attempt. -/
theorem sound_start (config : StationConfig) (policy : ReconnectConfig) (registry : ConfigRegistry) (now : Instant)
    (mono : Int) (saved : Option PersistedStation) :
    Sound (start config policy registry now mono saved).actor.link.connecting
      (start config policy registry now mono saved) := by
  let own : StationConfig :=
    { config with reconnectEnabled := policy.enabled, reconnectMaxAttempts := policy.maxAttempts }
  have tie : (start config policy registry now mono saved).actor.tie = blank own := start_tie own registry now mono saved
  have ids : Ids ((start config policy registry now mono saved).actor.ledger [] .none) :=
    Actor.start_ids own registry now mono saved
  have fates : Fates ((start config policy registry now mono saved).actor.ledger [] .none) :=
    (fates_preserved {}).path (Actor.start_path own registry now mono saved (.inl rfl))
      (Actor.loaded_fates own registry now mono saved)
  have log : (start config policy registry now mono saved).log = [] := rfl
  have dials : (start config policy registry now mono saved).dials = [] := rfl
  have policies : (start config policy registry now mono saved).policy = policy := rfl
  generalize start config policy registry now mono saved = s at tie ids fates log dials policies ⊢
  have connecting : s.actor.link.connecting = false := congrArg Tie.connecting tie
  have config' : s.actor.config = own := congrArg Tie.config tie
  have attempts : s.actor.link.attempts = 0 := congrArg Tie.attempts tie
  refine ⟨ids, fates, ?_, ?_, ?_, ?_, ?_, ?_, fun armed => ?_, ?_, ?_⟩
  · rw [tie]
    exact ⟨nofun, fun _ => ⟨rfl, rfl, rfl⟩, nofun, nofun⟩
  · rw [config', policies]
  · rw [config', policies]
  · rw [dials]
    exact List.nodup_nil
  · rw [dials]
    exact nofun
  · rw [dials, connecting]
    exact ⟨nofun, nofun⟩
  · cases (congrArg Tie.armed tie).symm.trans (decide_eq_true armed)
  · rw [attempts, log]
    rfl
  · rw [log]
    exact .nil

/-! ## Disconnect -/

/-- Without a command that opens it the link stays unwanted. -/
theorem Sound.unwanted (h : Sound s.actor.link.connecting s) (unwanted : s.actor.link.wanted = false)
    {move : DialMove} (closed : ¬Reopens move) : (s.move move).actor.link.wanted = false := by
  have stays (s' : StationDials) (same : s'.actor = s.actor) (wake : Wake)
      (other : ∀ reply, wake.input ≠ .command .connect reply ∧ wake.input ≠ .command .reconnect reply) :
      (s'.iterate wake).actor.link.wanted = false := by
    show (s'.actor.step wake).link.wanted = false
    rw [same]
    cases running : s.actor.stopped with
    | true =>
      unfold Actor.step
      rw [if_pos running]
      exact unwanted
    | false =>
      have step := s.actor.step_tieStep wake running (h.closed running)
      show (s.actor.step wake).tie.wanted = false
      generalize (s.actor.step wake).tie = t, wake.input = input at step other ⊢
      have scheduled (t : Tie) (unwanted : t.wanted = false) : t.schedule.wanted = false := by
        unfold Tie.schedule
        rw [unwanted]
        exact unwanted
      cases step with
      | keep => exact unwanted
      | reset => exact unwanted
      | command command reply =>
        cases command with
        | connect => exact absurd rfl (other reply).1
        | reconnect => exact absurd rfl (other reply).2
        | disconnect => rfl
        | _ => exact unwanted
      | lose =>
        unfold Tie.lose
        split
        · exact unwanted
        · exact scheduled _ unwanted
      | adopt generation ok =>
        unfold Tie.adopt
        split
        · exact unwanted
        · split
          · exact unwanted
          · exact scheduled _ unwanted
      | retry armed => cases (h.good.unwanted unwanted).1.symm.trans armed
      | hardReset conn => cases (h.good.unwanted unwanted).2.1.symm.trans conn
      | halt => rfl
  unfold StationDials.move
  split
  · exact unwanted
  · split
    · exact stays s rfl _ fun _ => ⟨nofun, nofun⟩
    · exact unwanted
  · rename_i wake _ _
    refine stays s rfl wake fun reply => ⟨fun input => ?_, fun input => ?_⟩
    · obtain ⟨input', now, mono⟩ := wake
      obtain rfl := input
      exact closed trivial
    · obtain ⟨input', now, mono⟩ := wake
      obtain rfl := input
      exact closed trivial
  · split
    · exact unwanted
    · exact stays _ rfl _ fun _ => ⟨nofun, nofun⟩

theorem Sound.run_unwanted (h : Sound s.actor.link.connecting s) (unwanted : s.actor.link.wanted = false)
    {moves : List DialMove} (closed : ∀ move ∈ moves, ¬Reopens move) : (s.run moves).actor.link.wanted = false := by
  unfold StationDials.run
  induction moves generalizing s with
  | nil => exact unwanted
  | cons move moves ih =>
    rw [List.forall_mem_cons] at closed
    exact ih (h.move move) (h.unwanted unwanted closed.1) closed.2

theorem Sound.disconnect (h : Sound s.actor.link.connecting s) (reply : Reply) (now : Instant) (mono : Int) :
    (s.move (.wake { input := .command .disconnect reply, now, mono })).actor.link.wanted = false := by
  show (s.actor.step { input := .command .disconnect reply, now, mono }).tie.wanted = false
  cases running : s.actor.stopped with
  | true =>
    unfold Actor.step
    rw [if_pos running]
    exact h.good.stopped running
  | false =>
    have step := s.actor.step_tieStep { input := .command .disconnect reply, now, mono } running (h.closed running)
    unfold Actor.step at step ⊢
    rw [if_neg (by simp [running])] at step ⊢
    have tie := (s.actor.woken { input := .command .disconnect reply, now, mono }).execute_tie .disconnect reply
    dsimp only
    split
    · exact congrArg Tie.wanted tie
    · exact congrArg Tie.wanted tie

/-! ## The law -/

theorem delayForAttempt_eq (policy : ReconnectConfig) {attempt : Nat} (positive : 0 < attempt)
    (small : attempt ≤ 64) :
    policy.delayForAttempt attempt =
      min (policy.initialDelayMs.toNat * 2 ^ (attempt - 1)) policy.maxDelayMs.toNat := by
  have exponent : min (attempt - 1) 63 = attempt - 1 := by omega
  have bound : policy.maxDelayMs.toNat ≤ Actor.u64Max := Nat.le_of_lt_succ policy.maxDelayMs.toNat_lt
  unfold ReconnectConfig.delayForAttempt
  dsimp only
  rw [exponent, min_assoc, min_eq_right bound]

theorem delayForAttempt_mono (policy : ReconnectConfig) : Monotone policy.delayForAttempt := by
  intro attempt attempt' le
  have exponents : min (attempt - 1) 63 ≤ min (attempt' - 1) 63 := by omega
  unfold ReconnectConfig.delayForAttempt
  dsimp only
  gcongr
  norm_num

/-- What holds of the link and of the attempts of a station. -/
structure Disciplined (s : StationDials) : Prop where
  /-- There is no connection while one is being opened. -/
  single : ¬(s.actor.link.conn = true ∧ s.actor.link.connecting = true)
  /-- One attempt at most can still be adopted, and only while no connection is open. -/
  adoptable : ∀ i j : Nat, s.dials[i]? = some s.actor.link.generation → s.dials[j]? = some s.actor.link.generation →
    i = j ∧ s.actor.link.connecting = true ∧ s.actor.link.conn = false
  /-- The result of an older attempt changes nothing. -/
  stale : ∀ (index generation : Nat) (ok : Bool) (event : Option String) (now : Instant) (mono : Int),
    s.dials[index]? = some generation → generation ≠ s.actor.link.generation →
      (s.move (.result index ok event now mono)).actor.tie = s.actor.tie
  /-- After a disconnect no reconnect timer is armed until a command opens the link again. A hard reset cannot:
  it asks for a connection. -/
  disconnected : ∀ (reply : Reply) (now : Instant) (mono : Int) (later : List DialMove),
    (∀ move ∈ later, ¬Reopens move) →
      let s' := (s.move (.wake { input := .command .disconnect reply, now, mono })).run later
      .reconnect ∉ s'.actor.timers ∧ s'.actor.link.conn = false ∧ s'.actor.link.connecting = false
  /-- An attempt is the next one since the counter was set back, is allowed, and has waited. -/
  attempts : ∀ attempt later past, .attempted attempt later :: past <:+ s.log → ∃ time earlier,
    past = .armed attempt time (s.policy.delayForAttempt attempt) :: earlier ∧ attempt = counter earlier + 1 ∧
      s.policy.allowsAttempt attempt = true ∧ time + ofMillis (s.policy.delayForAttempt attempt) ≤ later
  /-- It is made once between two resets of the counter. -/
  once : ∀ attempt later earlier between past,
    .attempted attempt later :: (between ++ .attempted attempt earlier :: past) <:+ s.log → .reset ∈ between
  delay : ∀ attempt, 0 < attempt → attempt ≤ 64 → s.policy.delayForAttempt attempt =
    min (s.policy.initialDelayMs.toNat * 2 ^ (attempt - 1)) s.policy.maxDelayMs.toNat
  delays : ∀ attempt attempt', attempt ≤ attempt' →
    s.policy.delayForAttempt attempt ≤ s.policy.delayForAttempt attempt'

theorem Sound.disciplined (h : Sound s.actor.link.connecting s) : Disciplined s where
  single := fun both => by cases both.2.symm.trans (h.good.single both.1)
  adoptable := fun i j first second => by
    obtain ⟨boundI, atI⟩ := List.getElem?_eq_some_iff.mp first
    obtain ⟨boundJ, atJ⟩ := List.getElem?_eq_some_iff.mp second
    have connecting : s.actor.link.connecting = true := h.running.mp (atI ▸ List.getElem_mem boundI)
    refine ⟨(h.fresh.getElem_inj_iff).mp (atI.trans atJ.symm), connecting, ?_⟩
    by_contra open'
    cases connecting.symm.trans (h.good.single (Bool.not_eq_false _ ▸ open'))
  stale := fun index generation ok event now mono found older => by
    unfold StationDials.move
    dsimp only
    rw [found]
    show (s.actor.step { input := .connected generation ok event, now, mono }).tie = s.actor.tie
    cases running : s.actor.stopped with
    | true =>
      unfold Actor.step
      rw [if_pos running]
    | false =>
      have step := s.actor.step_tieStep { input := .connected generation ok event, now, mono } running
        (h.closed running)
      generalize (s.actor.step { input := .connected generation ok event, now, mono }).tie = t at step ⊢
      cases step with
      | keep => rfl
      | adopt =>
        unfold Tie.adopt
        rw [if_pos (show generation ≠ s.actor.tie.generation from older)]
  disconnected := fun reply now mono later closed => by
    have sound := h.move (.wake { input := .command .disconnect reply, now, mono })
    have unwanted := sound.run_unwanted (h.disconnect reply now mono) closed
    obtain ⟨disarmed, down, free⟩ := (sound.run later).good.unwanted unwanted
    exact ⟨of_decide_eq_false disarmed, down, free⟩
  attempts := fun _ _ _ suffix => (h.lawful.suffix suffix).attempted_inv
  once := fun _ _ _ _ _ suffix => (h.lawful.suffix suffix).once
  delay := fun _ => delayForAttempt_eq s.policy
  delays := fun _ _ le => delayForAttempt_mono s.policy le

theorem attempts_disciplined (config : StationConfig) (policy : ReconnectConfig) (registry : ConfigRegistry)
    (now : Instant) (mono : Int) (saved : Option PersistedStation) (moves : List DialMove) :
    Disciplined ((start config policy registry now mono saved).run moves) :=
  ((sound_start config policy registry now mono saved).run moves).disciplined

end StationDials

end KirbyOcpp
