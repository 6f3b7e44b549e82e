import KirbyOcpp.Station.Timers

/-!
# What a timer wheel returns

The log of a run says which arming of a key is live: the latest one, unless it was disarmed or returned. The
wheel's map has the generations of the live armings, and a message of the channel has the generation of an
arming whose delay has passed. As long as generations do not repeat, a message is current exactly if its arming
is live, so a stale one is never returned and a live one is never thrown away.
-/

namespace KirbyOcpp

variable {K : Type}

/-! ## The armings of a log -/

structure Arming where
  number : Nat
  delay : Nat
  time : Nat

/-- When the whole delay has passed. -/
def Arming.due (a : Arming) : Nat := a.time + min a.delay TimerWheel.maxTotalDelay

namespace Timers

section Log

variable [DecidableEq K]

/-- The latest arming of the key, unless it was disarmed or returned since. -/
def live : List (TimerEvent K) → K → Option Arming
  | [], _ => none
  | .armed number k delay time :: log, key => if key = k then some { number, delay, time } else live log key
  | .disarmed which :: log, key => if which key then none else live log key
  | .fired _ :: log, key => live log key
  | .returned k _ :: log, key => if key = k then none else live log key

/-- The armings that were returned, latest first. -/
def returns : List (TimerEvent K) → List Nat
  | [] => []
  | .returned k _ :: log => ((live log k).map (·.number)).toList ++ returns log
  | _ :: log => returns log

/-- The arming was cancelled, or replaced by a later one of its key. -/
def Dropped (key : K) (a : Arming) (log : List (TimerEvent K)) : Prop :=
  ∃ later event earlier, log = later ++ event :: earlier ∧ live earlier key = some a ∧
    ((∃ number delay time, event = .armed number key delay time) ∨ ∃ which, event = .disarmed which ∧ which key = true)

private theorem live_mem {log : List (TimerEvent K)} {key : K} {a : Arming} (found : live log key = some a) :
    .armed a.number key a.delay a.time ∈ log := by
  induction log with
  | nil => cases found
  | cons event log ih =>
    cases event with
    | armed number k delay time =>
      unfold live at found
      split at found
      · rename_i same
        obtain rfl := Option.some.inj found
        exact same ▸ List.mem_cons_self
      · exact List.mem_cons_of_mem _ (ih found)
    | disarmed which =>
      unfold live at found
      split at found
      · cases found
      · exact List.mem_cons_of_mem _ (ih found)
    | fired number => exact List.mem_cons_of_mem _ (ih found)
    | returned k time =>
      unfold live at found
      split at found
      · cases found
      · exact List.mem_cons_of_mem _ (ih found)

end Log

end Timers

/-! ## What a step does -/

/-- The same task, aborted or not. -/
def TimerTask.Same (old task : TimerTask K) : Prop := { old with aborted := task.aborted } = task

/-- Some tasks may have been aborted, and nothing else has changed. -/
structure Runtime.Aborts (r r' : Runtime K) : Prop where
  wheel : r'.wheel = r.wheel
  spawned : r'.spawned = r.spawned
  now : r'.now = r.now
  tasks : ∀ task ∈ r'.tasks, ∃ old ∈ r.tasks, old.Same task

namespace Runtime

/-- No task is aborted. -/
theorem Aborts.refl (r : Runtime K) : Aborts r r := ⟨rfl, rfl, rfl, fun task mem => ⟨task, mem, rfl⟩⟩

private theorem abort_aborts (r : Runtime K) (number : Nat) : Aborts r (r.abort number) := by
  refine ⟨rfl, rfl, rfl, fun task mem => ?_⟩
  obtain ⟨old, there, rfl⟩ := List.mem_map.mp mem
  refine ⟨old, there, ?_⟩
  unfold TimerTask.Same
  split <;> rfl

/-- Tasks are aborted one after the other. -/
theorem Aborts.trans {r r' r'' : Runtime K} (first : Aborts r r') (second : Aborts r' r'') : Aborts r r'' := by
  refine ⟨second.wheel.trans first.wheel, second.spawned.trans first.spawned, second.now.trans first.now,
    fun task mem => ?_⟩
  obtain ⟨between, mem, same⟩ := second.tasks task mem
  obtain ⟨old, mem, same'⟩ := first.tasks between mem
  refine ⟨old, mem, ?_⟩
  unfold TimerTask.Same at same same' ⊢
  rw [← same, ← same']

private theorem dropArmed_aborts (r : Runtime K) (dropped : List (K × Armed)) : Aborts r (r.dropArmed dropped) := by
  unfold dropArmed
  induction dropped generalizing r with
  | nil => exact .refl r
  | cons entry rest ih => exact (r.abort_aborts entry.2.task).trans (ih _)

private theorem cancelWhere_aborts (r : Runtime K) (predicate : K → Bool) :
    Aborts { r with wheel := { r.wheel with armed := Assoc.eraseWhere r.wheel.armed predicate } }
      (r.cancelWhere predicate) := dropArmed_aborts _ _

variable [DecidableEq K]

private theorem set_armed (r : Runtime K) (key : K) (delay : Nat) (other : K) :
    Assoc.get (r.set key delay).wheel.armed other =
      if other = key then some { generation := r.wheel.nextGeneration, task := r.spawned }
      else Assoc.get r.wheel.armed other := by
  unfold set
  dsimp only
  rw [(dropArmed_aborts _ _).wheel, Assoc.get_write]

private theorem cancelWhere_armed (r : Runtime K) (predicate : K → Bool) (other : K) :
    Assoc.get (r.cancelWhere predicate).wheel.armed other =
      if predicate other then none else Assoc.get r.wheel.armed other := by
  rw [(r.cancelWhere_aborts predicate).wheel]
  exact Assoc.get_eraseWhere r.wheel.armed predicate other

end Runtime

namespace Timers

variable [DecidableEq K]

/-- What the wheel has for a key. -/
def entry (s : Timers K) (key : K) : Option Armed := Assoc.get s.runtime.wheel.armed key

/-- The task of the next arming. -/
def newTask (s : Timers K) (key : K) (delay : Nat) : TimerTask K :=
  { number := s.runtime.spawned, fired := key, generation := s.runtime.wheel.nextGeneration
    remaining := min delay TimerWheel.maxTotalDelay }

/-- A turn of `next`. -/
def isTurn : TimerInput K → Bool
  | .turn => true
  | _ => false

/-- What a step can do. -/
inductive Move (s s' : Timers K) (turn : Bool) : Prop
  | arm (key : K) (delay : Nat) (still : turn = false)
      (log : s'.log = .armed s.runtime.spawned key delay s.runtime.now :: s.log)
      (entry : ∀ other, s'.entry other =
        if other = key then some { generation := s.runtime.wheel.nextGeneration, task := s.runtime.spawned }
        else s.entry other)
      (generation : s'.runtime.wheel.nextGeneration = s.runtime.wheel.nextGeneration + 1)
      (spawned : s'.runtime.spawned = s.runtime.spawned + 1) (rx : s'.runtime.wheel.rx = s.runtime.wheel.rx)
      (now : s'.runtime.now = s.runtime.now)
      (tasks : ∀ task ∈ s'.runtime.tasks, ∃ old, (old ∈ s.runtime.tasks ∨ old = s.newTask key delay) ∧ old.Same task)
  | disarm (which : K → Bool) (still : turn = false) (log : s'.log = .disarmed which :: s.log)
      (entry : ∀ other, s'.entry other = if which other then none else s.entry other)
      (generation : s'.runtime.wheel.nextGeneration = s.runtime.wheel.nextGeneration)
      (spawned : s'.runtime.spawned = s.runtime.spawned) (rx : s'.runtime.wheel.rx = s.runtime.wheel.rx)
      (now : s'.runtime.now = s.runtime.now)
      (tasks : ∀ task ∈ s'.runtime.tasks, ∃ old ∈ s.runtime.tasks, old.Same task)
  | receive (key : K) (generation : UInt64) (rx : s.runtime.wheel.rx = (key, generation) :: s'.runtime.wheel.rx)
      (current : (s.entry key).map (·.generation) = some generation)
      (log : s'.log = .returned key s.runtime.now :: s.log)
      (entry : ∀ other, s'.entry other = if other = key then none else s.entry other)
      (next : s'.runtime.wheel.nextGeneration = s.runtime.wheel.nextGeneration)
      (spawned : s'.runtime.spawned = s.runtime.spawned) (now : s'.runtime.now = s.runtime.now)
      (tasks : ∀ task ∈ s'.runtime.tasks, ∃ old ∈ s.runtime.tasks, old.Same task)
  | discard (key : K) (generation : UInt64) (rx : s.runtime.wheel.rx = (key, generation) :: s'.runtime.wheel.rx)
      (stale : (s.entry key).map (·.generation) ≠ some generation) (log : s'.log = s.log)
      (entry : ∀ other, s'.entry other = s.entry other)
      (next : s'.runtime.wheel.nextGeneration = s.runtime.wheel.nextGeneration)
      (spawned : s'.runtime.spawned = s.runtime.spawned) (now : s'.runtime.now = s.runtime.now)
      (tasks : s'.runtime.tasks = s.runtime.tasks)
  | fire (task : TimerTask K) (still : turn = false) (mem : task ∈ s.runtime.tasks)
      (ended : task.poll s.runtime.now = none) (log : s'.log = .fired task.number :: s.log)
      (entry : ∀ other, s'.entry other = s.entry other)
      (next : s'.runtime.wheel.nextGeneration = s.runtime.wheel.nextGeneration)
      (spawned : s'.runtime.spawned = s.runtime.spawned)
      (rx : s'.runtime.wheel.rx = s.runtime.wheel.rx ++ [(task.fired, task.generation)])
      (now : s'.runtime.now = s.runtime.now)
      (tasks : ∀ task ∈ s'.runtime.tasks, task ∈ s.runtime.tasks)
  | quiet (still : turn = true → s.runtime.wheel.rx = []) (log : s'.log = s.log)
      (wheel : s'.runtime.wheel = s.runtime.wheel) (spawned : s'.runtime.spawned = s.runtime.spawned)
      (now : s.runtime.now ≤ s'.runtime.now)
      (tasks : ∀ task ∈ s'.runtime.tasks, ∃ old ∈ s.runtime.tasks, task = old ∨ old.poll s.runtime.now = some task)

private theorem set_move (s : Timers K) (key : K) (delay : Nat) :
    Move s ⟨s.runtime.set key delay, .armed s.runtime.spawned key delay s.runtime.now :: s.log⟩ false := by
  have aborts := Runtime.dropArmed_aborts
    { s.runtime with
      wheel := { s.runtime.wheel with
        nextGeneration := s.runtime.wheel.nextGeneration + 1
        armed := Assoc.write s.runtime.wheel.armed key
          { generation := s.runtime.wheel.nextGeneration, task := s.runtime.spawned } }
      tasks := s.runtime.tasks ++ [s.newTask key delay]
      spawned := s.runtime.spawned + 1 }
    (s.runtime.wheel.armed.filter fun entry => entry.1 = key)
  have generation := congrArg TimerWheel.nextGeneration aborts.wheel
  have rx := congrArg TimerWheel.rx aborts.wheel
  refine .arm key delay rfl rfl (s.runtime.set_armed key delay) generation aborts.spawned rx aborts.now
    fun task mem => ?_
  obtain ⟨old, there, same⟩ := aborts.tasks task mem
  rcases List.mem_append.mp there with there | new
  · exact ⟨old, .inl there, same⟩
  · exact ⟨old, .inr (List.mem_singleton.mp new), same⟩

private theorem cancelWhere_move (s : Timers K) (which : K → Bool) :
    Move s ⟨s.runtime.cancelWhere which, .disarmed which :: s.log⟩ false := by
  have aborts := s.runtime.cancelWhere_aborts which
  have generation := congrArg TimerWheel.nextGeneration aborts.wheel
  have rx := congrArg TimerWheel.rx aborts.wheel
  exact .disarm which rfl rfl (s.runtime.cancelWhere_armed which) generation aborts.spawned rx aborts.now aborts.tasks

private theorem stay_move (s : Timers K) {turn : Bool} (still : turn = true → s.runtime.wheel.rx = []) :
    Move s s turn :=
  .quiet still rfl rfl rfl (Nat.le_refl _) fun task mem => ⟨task, mem, .inl rfl⟩

private theorem turn_move (s : Timers K) : Move s (s.step .turn) true := by
  cases waits : s.runtime.wheel.rx with
  | nil =>
    have idle : s.step .turn = s := by simp [step, Runtime.turn, waits]
    rw [idle]
    exact s.stay_move fun _ => waits
  | cons message rx =>
    obtain ⟨key, generation⟩ := message
    by_cases current : ((Assoc.get s.runtime.wheel.armed key).any fun armed => armed.generation == generation) = true
    · have taken : s.step .turn =
          ⟨{ s.runtime with wheel := { s.runtime.wheel with rx } }.cancelWhere fun other => other = key,
            .returned key s.runtime.now :: s.log⟩ := by
        simp only [step, Runtime.turn, waits, current, if_true, Runtime.cancel]
      have aborts := Runtime.cancelWhere_aborts { s.runtime with wheel := { s.runtime.wheel with rx } }
        fun other => other = key
      have left := congrArg TimerWheel.rx aborts.wheel
      have next := congrArg TimerWheel.nextGeneration aborts.wheel
      obtain ⟨armed, found, same⟩ := (Option.any_eq_true _ _).mp current
      rw [taken]
      refine .receive key generation ?_ ?_ rfl (fun other => ?_) next aborts.spawned aborts.now aborts.tasks
      · exact waits.trans (congrArg _ left.symm)
      · exact Option.map_eq_some_iff.mpr ⟨armed, found, eq_of_beq same⟩
      · refine (Runtime.cancelWhere_armed _ _ other).trans ?_
        simp only [decide_eq_true_eq]
        rfl
    · have skipped : s.step .turn = ⟨{ s.runtime with wheel := { s.runtime.wheel with rx } }, s.log⟩ := by
        simp only [step, Runtime.turn, waits, current]
        rfl
      rw [skipped]
      refine .discard key generation waits (fun same => current ?_) rfl (fun _ => rfl) rfl rfl rfl rfl
      obtain ⟨armed, found, rfl⟩ := Option.map_eq_some_iff.mp same
      exact (Option.any_eq_true _ _).mpr ⟨armed, found, beq_self_eq_true _⟩

private theorem pollTask_move (s : Timers K) (number : Nat) : Move s (s.step (.pollTask number)) false := by
  cases found : s.runtime.tasks.find? fun task => task.number == number with
  | none =>
    have idle : s.step (.pollTask number) = s := by simp [step, Runtime.pollTask, found]
    rw [idle]
    exact s.stay_move fun turn => nomatch turn
  | some task =>
    have mem := List.mem_of_find?_eq_some found
    have same : task.number = number := by simpa using List.find?_some found
    cases polled : task.poll s.runtime.now with
    | some task' =>
      have sleeps : s.step (.pollTask number) =
          ⟨{ s.runtime with
            tasks := s.runtime.tasks.map fun other => if other.number = number then task' else other }, s.log⟩ := by
        simp [step, Runtime.pollTask, found, polled]
      rw [sleeps]
      refine .quiet (fun turn => nomatch turn) rfl rfl rfl (Nat.le_refl _) fun other there => ?_
      obtain ⟨old, known, rfl⟩ := List.mem_map.mp there
      split
      · exact ⟨task, mem, .inr polled⟩
      · exact ⟨old, known, .inl rfl⟩
    | none =>
      have sends : s.step (.pollTask number) =
          ⟨{ s.runtime with
            tasks := s.runtime.tasks.filter fun other => other.number ≠ number
            wheel := { s.runtime.wheel with rx := s.runtime.wheel.rx ++ [(task.fired, task.generation)] } },
            .fired number :: s.log⟩ := by
        simp [step, Runtime.pollTask, found, polled]
      rw [sends]
      exact .fire task rfl mem polled (by rw [same]) (fun _ => rfl) rfl rfl rfl rfl fun other there =>
        List.mem_of_mem_filter there

/-- What the steps can do. -/
theorem step_move (s : Timers K) (input : TimerInput K) : Move s (s.step input) (isTurn input) := by
  cases input with
  | set key delay => exact s.set_move key delay
  | setIfIdle key delay =>
    cases armed : s.runtime.isArmed key with
    | true =>
      have idle : s.step (.setIfIdle key delay) = s := by simp [step, Runtime.setIfIdle, armed]
      rw [idle]
      exact s.stay_move fun turn => nomatch turn
    | false =>
      have sets : s.step (.setIfIdle key delay) = s.step (.set key delay) := by
        simp [step, Runtime.setIfIdle, armed]
      rw [sets]
      exact s.set_move key delay
  | cancel key => exact s.cancelWhere_move fun other => other = key
  | cancelWhere predicate => exact s.cancelWhere_move predicate
  | cancelAll => exact s.cancelWhere_move fun _ => true
  | turn => exact s.turn_move
  | pollTask number => exact s.pollTask_move number
  | reap number =>
    exact .quiet (fun turn => nomatch turn) rfl rfl rfl (Nat.le_refl _) fun task mem =>
      ⟨task, List.mem_of_mem_filter mem, .inl rfl⟩
  | advance duration =>
    exact .quiet (fun turn => nomatch turn) rfl rfl rfl (Nat.le_add_right _ _) fun task mem => ⟨task, mem, .inl rfl⟩

end Timers

/-! ## The time of a task -/

namespace TimerTask

variable {task task' : TimerTask K} {due now : Nat}

/-- What the task still has to sleep lasts until `due`. -/
def OnTime (task : TimerTask K) (due now : Nat) : Prop :=
  match task.sleepUntil with
  | none => due ≤ now + task.remaining
  | some stop => due ≤ stop + (task.remaining - maxDelay)

/-- A task on time stays such while it is only aborted. -/
theorem OnTime.same (h : task.OnTime due now) (same : task.Same task') : task'.OnTime due now := by
  unfold Same at same
  rw [← same]
  exact h

/-- A task on time stays such while time passes. -/
theorem OnTime.later (h : task.OnTime due now) {now' : Nat} (le : now ≤ now') : task.OnTime due now' := by
  unfold OnTime at h ⊢
  cases asleep : task.sleepUntil with
  | none =>
    rw [asleep] at h
    exact h.trans (Nat.add_le_add_right le _)
  | some stop =>
    rw [asleep] at h
    exact h

private theorem sleep_onTime (rest : due ≤ now + task.remaining) : (task.sleep now).OnTime due now := by
  show due ≤ now + min task.remaining maxDelay + (task.remaining - maxDelay)
  omega

/-- A poll keeps the time. -/
theorem OnTime.poll (h : task.OnTime due now) (polled : task.poll now = some task') : task'.OnTime due now := by
  unfold OnTime at h
  unfold TimerTask.poll at polled
  cases asleep : task.sleepUntil with
  | none =>
    rw [asleep] at h polled
    exact Option.some.inj polled ▸ sleep_onTime h
  | some stop =>
    rw [asleep] at h polled
    dsimp only at h polled
    split at polled
    · obtain rfl := Option.some.inj polled
      unfold OnTime
      rw [asleep]
      exact h
    rename_i past
    split at polled
    · rename_i long
      refine Option.some.inj polled ▸ sleep_onTime ?_
      show due ≤ now + (task.remaining - maxDelay)
      omega
    · cases polled

/-- A task whose delay is over ends in time. -/
theorem OnTime.over (h : task.OnTime due now) (polled : task.poll now = none) : due ≤ now := by
  unfold OnTime at h
  unfold TimerTask.poll at polled
  cases asleep : task.sleepUntil with
  | none =>
    rw [asleep] at polled
    cases polled
  | some stop =>
    rw [asleep] at h polled
    dsimp only at h polled
    split at polled
    · cases polled
    rename_i past
    split at polled
    · cases polled
    · omega

private theorem sleep_identity (task : TimerTask K) (rest now : Nat) :
    ({ task with remaining := rest }.sleep now).number = task.number ∧
      ({ task with remaining := rest }.sleep now).fired = task.fired ∧
      ({ task with remaining := rest }.sleep now).generation = task.generation := ⟨rfl, rfl, rfl⟩

private theorem poll_identity (polled : task.poll now = some task') :
    task'.number = task.number ∧ task'.fired = task.fired ∧ task'.generation = task.generation := by
  unfold TimerTask.poll at polled
  split at polled
  · obtain rfl := Option.some.inj polled
    exact task.sleep_identity task.remaining now
  split at polled
  · obtain rfl := Option.some.inj polled
    exact ⟨rfl, rfl, rfl⟩
  split at polled
  · rw [← Option.some.inj polled]
    exact task.sleep_identity (task.remaining - maxDelay) now
  · cases polled

end TimerTask

/-! ## The log -/

namespace Timers

variable {log : List (TimerEvent K)} {event : TimerEvent K} {armings : Nat}

/-- The task is that of an arming of the log. -/
def Tracks (log : List (TimerEvent K)) (now : Nat) (task : TimerTask K) : Prop :=
  ∃ a : Arming, .armed a.number task.fired a.delay a.time ∈ log ∧ task.number = a.number ∧
    task.generation = UInt64.ofNat a.number ∧ task.OnTime a.due now

/-- An event more leaves a task with its arming. -/
theorem Tracks.more {now : Nat} {task : TimerTask K} (h : Tracks log now task) (event : TimerEvent K) :
    Tracks (event :: log) now task := by
  obtain ⟨a, mem, rest⟩ := h
  exact ⟨a, List.mem_cons_of_mem _ mem, rest⟩

/-- An aborted task keeps its arming. -/
theorem Tracks.same {now : Nat} {old task : TimerTask K} (h : Tracks log now old) (same : old.Same task) :
    Tracks log now task := by
  obtain ⟨a, mem, number, generation, time⟩ := h
  have time := time.same same
  unfold TimerTask.Same at same
  rw [← same] at time ⊢
  exact ⟨a, mem, number, generation, time⟩

private theorem mem_of_fired {n : Nat} (silent : ∀ number, event ≠ .fired number) (mem : .fired n ∈ event :: log) :
    .fired n ∈ log := by
  rcases List.mem_cons.mp mem with eq | mem
  · exact absurd eq.symm (silent n)
  · exact mem

variable [DecidableEq K]

/-- What was returned was live, and its delay had passed. -/
def Lawful (log : List (TimerEvent K)) : Prop :=
  ∀ later key time earlier, log = later ++ .returned key time :: earlier →
    ∃ a, live earlier key = some a ∧ a.due ≤ time

/-- What holds of a log with that many armings. -/
structure History (log : List (TimerEvent K)) (armings : Nat) : Prop where
  below : ∀ {number key delay time}, .armed number key delay time ∈ log → number < armings
  once : ∀ {number key delay time key' delay' time'}, .armed number key delay time ∈ log →
    .armed number key' delay' time' ∈ log → key = key' ∧ delay = delay' ∧ time = time'
  known : ∀ number ∈ returns log, number < armings
  gone : ∀ {key a}, live log key = some a → a.number ∉ returns log
  nodup : (returns log).Nodup
  lawful : Lawful log

/-- An event is lawful if a timer returns only when it is live and due. -/
theorem Lawful.cons (h : Lawful log)
    (own : ∀ key time, event = .returned key time → ∃ a, live log key = some a ∧ a.due ≤ time) :
    Lawful (event :: log) := by
  intro later key time earlier split
  cases later with
  | nil =>
    obtain ⟨rfl, rfl⟩ := List.cons.inj split
    exact own key time rfl
  | cons first later => exact h later key time earlier (List.cons.inj split).2

private theorem History.live_below (h : History log armings) {key : K} {a : Arming} (found : live log key = some a) :
    a.number < armings := h.below (live_mem found)

/-- A live arming belongs to one key. -/
theorem History.live_key (h : History log armings) {key key' : K} {a a' : Arming} (found : live log key = some a)
    (found' : live log key' = some a') (same : a.number = a'.number) : key = key' ∧ a = a' := by
  have mem := live_mem found
  have mem' := live_mem found'
  rw [same] at mem
  obtain ⟨keys, delays, times⟩ := h.once mem mem'
  refine ⟨keys, ?_⟩
  cases a
  cases a'
  simp_all

/-- A timer is armed under the next number. -/
theorem History.arm (h : History log armings) (key : K) (delay time : Nat) :
    History (.armed armings key delay time :: log) (armings + 1) := by
  have old {number : Nat} {k : K} {d t : Nat} (mem : .armed number k d t ∈ log) : number ≠ armings :=
    (h.below mem).ne
  refine ⟨fun mem => ?_, fun mem mem' => ?_, fun number mem => Nat.lt_succ_of_lt (h.known number mem),
    fun {other a} found => ?_, h.nodup, h.lawful.cons fun _ _ eq => nomatch eq⟩
  · rcases List.mem_cons.mp mem with eq | mem
    · cases eq
      exact Nat.lt_succ_self _
    · exact Nat.lt_succ_of_lt (h.below mem)
  · rcases List.mem_cons.mp mem with eq | mem
    · cases eq
      rcases List.mem_cons.mp mem' with eq | mem'
      · cases eq
        exact ⟨rfl, rfl, rfl⟩
      · exact absurd rfl (old mem')
    · rcases List.mem_cons.mp mem' with eq | mem'
      · cases eq
        exact absurd rfl (old mem)
      · exact h.once mem mem'
  · unfold live at found
    split at found
    · obtain rfl := Option.some.inj found
      exact fun mem => lt_irrefl armings (h.known armings mem)
    · exact h.gone found

/-- An event that neither arms nor returns. -/
theorem History.aside (h : History log armings) (arms : ∀ number key delay time, event ≠ .armed number key delay time)
    (returned : ∀ key time, event ≠ .returned key time)
    (fewer : ∀ {key a}, live (event :: log) key = some a → live log key = some a)
    (same : returns (event :: log) = returns log) : History (event :: log) armings := by
  have old {number : Nat} {k : K} {d t : Nat} (mem : .armed number k d t ∈ event :: log) :
      .armed number k d t ∈ log := by
    rcases List.mem_cons.mp mem with eq | mem
    · exact absurd eq.symm (arms _ _ _ _)
    · exact mem
  exact ⟨fun mem => h.below (old mem), fun mem mem' => h.once (old mem) (old mem'), same ▸ h.known,
    fun found => same ▸ h.gone (fewer found), same ▸ h.nodup, h.lawful.cons fun key time eq => absurd eq (returned key time)⟩

private theorem History.disarm (h : History log armings) (which : K → Bool) :
    History (.disarmed which :: log) armings := by
  refine h.aside (fun _ _ _ _ eq => nomatch eq) (fun _ _ eq => nomatch eq) (fun found => ?_) rfl
  unfold live at found
  split at found
  · cases found
  · exact found

/-- A task ends. -/
theorem History.fire (h : History log armings) (number : Nat) : History (.fired number :: log) armings :=
  h.aside (fun _ _ _ _ eq => nomatch eq) (fun _ _ eq => nomatch eq) id rfl

/-- A timer returns while it is live. -/
theorem History.receive (h : History log armings) {key : K} {a : Arming} (found : live log key = some a) {time : Nat}
    (due : a.due ≤ time) : History (.returned key time :: log) armings := by
  have more : returns (.returned key time :: log) = a.number :: returns log := by
    show ((live log key).map (·.number)).toList ++ returns log = _
    rw [found]
    rfl
  have old {number : Nat} {k : K} {d t : Nat} (mem : .armed number k d t ∈ .returned key time :: log) :
      .armed number k d t ∈ log := by
    rcases List.mem_cons.mp mem with eq | mem
    · cases eq
    · exact mem
  refine ⟨fun mem => h.below (old mem), fun mem mem' => h.once (old mem) (old mem'), fun number mem => ?_,
    fun {other b} live' => ?_, ?_, h.lawful.cons fun key' time' eq => ?_⟩
  · rw [more] at mem
    rcases List.mem_cons.mp mem with rfl | mem
    · exact h.live_below found
    · exact h.known number mem
  · unfold live at live'
    split at live'
    · cases live'
    rename_i apart
    rw [more]
    intro mem
    rcases List.mem_cons.mp mem with same | mem
    · exact apart (h.live_key live' found same).1
    · exact h.gone live' mem
  · rw [more]
    exact List.nodup_cons.mpr ⟨h.gone found, h.nodup⟩
  · cases eq
    exact ⟨a, found, due⟩

/-! ## The invariant -/

/-- The wheel is what the log says: its map has the live armings, its channel only those whose delay has passed,
and all live ones that have fired. -/
structure Sound (s : Timers K) : Prop where
  history : History s.log s.runtime.spawned
  next : s.runtime.wheel.nextGeneration = UInt64.ofNat s.runtime.spawned
  entries : ∀ key, s.entry key =
    (live s.log key).map fun a => { generation := UInt64.ofNat a.number, task := a.number }
  tasks : ∀ task ∈ s.runtime.tasks, Tracks s.log s.runtime.now task
  messages : ∀ key generation, (key, generation) ∈ s.runtime.wheel.rx → ∃ a : Arming,
    .armed a.number key a.delay a.time ∈ s.log ∧ generation = UInt64.ofNat a.number ∧ a.due ≤ s.runtime.now
  fired : ∀ number, .fired number ∈ s.log → number < s.runtime.spawned
  kept : ∀ key a, live s.log key = some a → .fired a.number ∈ s.log →
    (key, UInt64.ofNat a.number) ∈ s.runtime.wheel.rx

private theorem ofNat_inj {a b : Nat} (ha : a < 2 ^ 64) (hb : b < 2 ^ 64) (same : UInt64.ofNat a = UInt64.ofNat b) :
    a = b := by
  have := congrArg UInt64.toNat same
  rwa [UInt64.toNat_ofNat_of_lt' ha, UInt64.toNat_ofNat_of_lt' hb] at this

/-- Nothing has happened. -/
theorem History.initial : History ([] : List (TimerEvent K)) 0 where
  below none := absurd none List.not_mem_nil
  once none := absurd none List.not_mem_nil
  known _ none := absurd none List.not_mem_nil
  gone found := nomatch found
  nodup := List.nodup_nil
  lawful later _ _ _ split := absurd split.symm (List.append_ne_nil_of_right_ne_nil later (List.cons_ne_nil _ _))

/-- A wheel without timers is sound. -/
theorem Sound.initial : Sound ({} : Timers K) where
  history := .initial
  next := rfl
  entries _ := rfl
  tasks _ none := absurd none List.not_mem_nil
  messages _ _ none := absurd none List.not_mem_nil
  fired _ none := absurd none List.not_mem_nil
  kept _ _ none := nomatch none

/-- A current message is of the live arming, and its delay has passed. -/
theorem Sound.current {s : Timers K} (h : Sound s) (few : s.runtime.spawned ≤ 2 ^ 64) {key : K} {generation : UInt64}
    (mem : (key, generation) ∈ s.runtime.wheel.rx)
    (current : (s.entry key).map (·.generation) = some generation) :
    ∃ a, live s.log key = some a ∧ generation = UInt64.ofNat a.number ∧ a.due ≤ s.runtime.now := by
  obtain ⟨b, there, rfl, due⟩ := h.messages key generation mem
  rw [h.entries key] at current
  cases found : live s.log key with
  | none =>
    rw [found] at current
    cases current
  | some a =>
    rw [found] at current
    have same : a.number = b.number :=
      ofNat_inj ((h.history.live_below found).trans_le few) ((h.history.below there).trans_le few)
        (Option.some.inj current)
    have here := live_mem found
    rw [same] at here
    obtain ⟨-, delays, times⟩ := h.history.once here there
    refine ⟨a, rfl, by rw [same], ?_⟩
    unfold Arming.due at due ⊢
    rwa [delays, times]

/-- An event that is logged while no task fires: the tasks and messages left are those of armings of the log. -/
theorem Sound.extend {s s' : Timers K} (h : Sound s) (log : s'.log = event :: s.log)
    (silent : ∀ number, event ≠ .fired number) (history : History s'.log s'.runtime.spawned)
    (next : s'.runtime.wheel.nextGeneration = UInt64.ofNat s'.runtime.spawned)
    (entries : ∀ key, s'.entry key =
      (live s'.log key).map fun a => { generation := UInt64.ofNat a.number, task := a.number })
    (spawned : s.runtime.spawned ≤ s'.runtime.spawned) (rx : s'.runtime.wheel.rx ⊆ s.runtime.wheel.rx)
    (now : s'.runtime.now = s.runtime.now)
    (tasks : ∀ task ∈ s'.runtime.tasks, ∃ old, Tracks s'.log s.runtime.now old ∧ old.Same task)
    (kept : ∀ key a, live s'.log key = some a → .fired a.number ∈ s.log →
      (key, UInt64.ofNat a.number) ∈ s'.runtime.wheel.rx) : Sound s' where
  history := history
  next := next
  entries := entries
  tasks task mem := by
    obtain ⟨old, tracks, same⟩ := tasks task mem
    rw [now]
    exact tracks.same same
  messages key g mem := by
    obtain ⟨a, there, rest⟩ := h.messages key g (rx mem)
    rw [log, now]
    exact ⟨a, List.mem_cons_of_mem _ there, rest⟩
  fired number mem := by
    rw [log] at mem
    exact (h.fired number (mem_of_fired silent mem)).trans_le spawned
  kept key a found mem := by
    rw [log] at mem
    exact kept key a found (mem_of_fired silent mem)

/-- The tasks of before are tracked by the longer log. -/
theorem Sound.tracks {s s' : Timers K} (h : Sound s) (log : s'.log = event :: s.log)
    (tasks : ∀ task ∈ s'.runtime.tasks, ∃ old ∈ s.runtime.tasks, old.Same task) :
    ∀ task ∈ s'.runtime.tasks, ∃ old, Tracks s'.log s.runtime.now old ∧ old.Same task := by
  intro task mem
  obtain ⟨old, known, same⟩ := tasks task mem
  exact ⟨old, log ▸ (h.tasks old known).more event, same⟩

/-- A timer is armed, and the task before it is aborted. -/
theorem Sound.arm {s s' : Timers K} (h : Sound s) {key : K} {delay : Nat}
    (log : s'.log = .armed s.runtime.spawned key delay s.runtime.now :: s.log)
    (entry : ∀ other, s'.entry other =
      if other = key then some { generation := s.runtime.wheel.nextGeneration, task := s.runtime.spawned }
      else s.entry other)
    (generation : s'.runtime.wheel.nextGeneration = s.runtime.wheel.nextGeneration + 1)
    (spawned : s'.runtime.spawned = s.runtime.spawned + 1) (rx : s'.runtime.wheel.rx = s.runtime.wheel.rx)
    (now : s'.runtime.now = s.runtime.now)
    (tasks : ∀ task ∈ s'.runtime.tasks, ∃ old, (old ∈ s.runtime.tasks ∨ old = s.newTask key delay) ∧ old.Same task) :
    Sound s' := by
  refine h.extend log (fun _ eq => nomatch eq) ?_ ?_ (fun other => ?_) (spawned ▸ Nat.le_succ _) (rx ▸ List.Subset.refl _)
    now (fun task mem => ?_) fun other a found fired => ?_
  · rw [log, spawned]
    exact h.history.arm key delay s.runtime.now
  · rw [generation, spawned, h.next]
    exact (UInt64.ofNat_add _ _).symm
  · rw [entry other, log]
    unfold live
    split
    · rw [h.next]
      rfl
    · exact h.entries other
  · obtain ⟨old, known, same⟩ := tasks task mem
    refine ⟨old, ?_, same⟩
    rw [log]
    rcases known with known | rfl
    · exact (h.tasks old known).more _
    · exact ⟨{ number := s.runtime.spawned, delay, time := s.runtime.now }, List.mem_cons_self, rfl, h.next,
        Nat.le_refl _⟩
  · rw [log] at found
    rw [rx]
    unfold live at found
    split at found
    · -- the new arming has not fired
      obtain rfl := Option.some.inj found
      exact absurd (h.fired _ fired) (lt_irrefl _)
    · exact h.kept other a found fired

private theorem Sound.disarm {s s' : Timers K} (h : Sound s) {which : K → Bool}
    (log : s'.log = .disarmed which :: s.log)
    (entry : ∀ other, s'.entry other = if which other then none else s.entry other)
    (generation : s'.runtime.wheel.nextGeneration = s.runtime.wheel.nextGeneration)
    (spawned : s'.runtime.spawned = s.runtime.spawned) (rx : s'.runtime.wheel.rx = s.runtime.wheel.rx)
    (now : s'.runtime.now = s.runtime.now)
    (tasks : ∀ task ∈ s'.runtime.tasks, ∃ old ∈ s.runtime.tasks, old.Same task) : Sound s' := by
  refine h.extend log (fun _ eq => nomatch eq) ?_ (by rw [generation, spawned, h.next]) (fun other => ?_) spawned.ge
    (rx ▸ List.Subset.refl _) now (h.tracks log tasks) fun other a found fired => ?_
  · rw [log, spawned]
    exact h.history.disarm which
  · rw [entry other, log]
    unfold live
    split
    · rfl
    · exact h.entries other
  · rw [log] at found
    rw [rx]
    unfold live at found
    split at found
    · cases found
    · exact h.kept other a found fired

/-- The wheel returns a timer that is current. -/
theorem Sound.receive {s s' : Timers K} (h : Sound s) (few : s.runtime.spawned ≤ 2 ^ 64) {key : K}
    {generation : UInt64} (rx : s.runtime.wheel.rx = (key, generation) :: s'.runtime.wheel.rx)
    (current : (s.entry key).map (·.generation) = some generation)
    (log : s'.log = .returned key s.runtime.now :: s.log)
    (entry : ∀ other, s'.entry other = if other = key then none else s.entry other)
    (next : s'.runtime.wheel.nextGeneration = s.runtime.wheel.nextGeneration)
    (spawned : s'.runtime.spawned = s.runtime.spawned) (now : s'.runtime.now = s.runtime.now)
    (tasks : ∀ task ∈ s'.runtime.tasks, ∃ old ∈ s.runtime.tasks, old.Same task) : Sound s' := by
  refine h.extend log (fun _ eq => nomatch eq) ?_ (by rw [next, spawned, h.next]) (fun other => ?_) spawned.ge
    (rx ▸ List.subset_cons_self _ _) now (h.tracks log tasks) fun other a found fired => ?_
  · obtain ⟨a, found, -, due⟩ := h.current few (rx ▸ List.mem_cons_self) current
    rw [log, spawned]
    exact h.history.receive found due
  · rw [entry other, log]
    unfold live
    split
    · rfl
    · exact h.entries other
  · rw [log] at found
    unfold live at found
    split at found
    · cases found
    rename_i apart
    have there := h.kept other a found fired
    rw [rx] at there
    rcases List.mem_cons.mp there with eq | there
    · exact absurd (Prod.mk.inj eq).1 apart
    · exact there

private theorem Sound.discard {s s' : Timers K} (h : Sound s) {key : K} {generation : UInt64}
    (rx : s.runtime.wheel.rx = (key, generation) :: s'.runtime.wheel.rx)
    (stale : (s.entry key).map (·.generation) ≠ some generation) (log : s'.log = s.log)
    (entry : ∀ other, s'.entry other = s.entry other)
    (next : s'.runtime.wheel.nextGeneration = s.runtime.wheel.nextGeneration)
    (spawned : s'.runtime.spawned = s.runtime.spawned) (now : s'.runtime.now = s.runtime.now)
    (tasks : s'.runtime.tasks = s.runtime.tasks) : Sound s' where
  history := by
    rw [log, spawned]
    exact h.history
  next := by rw [next, spawned, h.next]
  entries other := by
    rw [entry other, log]
    exact h.entries other
  tasks := by
    rw [log, now, tasks]
    exact h.tasks
  messages other g mem := by
    rw [log, now]
    exact h.messages other g (rx ▸ List.mem_cons_of_mem _ mem)
  fired := by
    rw [log, spawned]
    exact h.fired
  kept other a found mem := by
    rw [log] at found mem
    have there := h.kept other a found mem
    rw [rx] at there
    rcases List.mem_cons.mp there with eq | there
    · -- a live arming's message is not stale
      obtain ⟨rfl, rfl⟩ := Prod.mk.inj eq
      rw [h.entries other, found] at stale
      exact absurd rfl stale
    · exact there

/-- A task ends and sends its key. -/
theorem Sound.fire {s s' : Timers K} (h : Sound s) {task : TimerTask K} (mem : task ∈ s.runtime.tasks)
    (ended : task.poll s.runtime.now = none) (log : s'.log = .fired task.number :: s.log)
    (entry : ∀ other, s'.entry other = s.entry other)
    (next : s'.runtime.wheel.nextGeneration = s.runtime.wheel.nextGeneration)
    (spawned : s'.runtime.spawned = s.runtime.spawned)
    (rx : s'.runtime.wheel.rx = s.runtime.wheel.rx ++ [(task.fired, task.generation)])
    (now : s'.runtime.now = s.runtime.now) (tasks : ∀ task ∈ s'.runtime.tasks, task ∈ s.runtime.tasks) : Sound s' := by
  obtain ⟨a, there, number, generation, time⟩ := h.tasks task mem
  have due : a.due ≤ s.runtime.now := time.over ended
  refine ⟨?_, by rw [next, spawned, h.next], fun other => ?_, fun other known => ?_, fun other g message => ?_,
    fun n fired => ?_, fun other b found fired => ?_⟩
  · rw [log, spawned]
    exact h.history.fire task.number
  · rw [entry other, log]
    exact h.entries other
  · rw [log, now]
    exact (h.tasks other (tasks other known)).more _
  · rw [rx] at message
    rw [log, now]
    rcases List.mem_append.mp message with old | new
    · obtain ⟨b, known, rest⟩ := h.messages other g old
      exact ⟨b, List.mem_cons_of_mem _ known, rest⟩
    · obtain ⟨rfl, rfl⟩ := Prod.mk.inj (List.mem_singleton.mp new)
      exact ⟨a, List.mem_cons_of_mem _ there, generation, due⟩
  · rw [log] at fired
    rw [spawned]
    rcases List.mem_cons.mp fired with eq | fired
    · cases eq
      exact number ▸ h.history.below there
    · exact h.fired n fired
  · rw [log] at found fired
    have found : live s.log other = some b := found
    rw [rx]
    rcases List.mem_cons.mp fired with eq | fired
    · -- the task that has just sent is that of the live arming
      have same : b.number = a.number := (TimerEvent.fired.inj eq).trans number
      have here := live_mem found
      rw [same] at here
      obtain ⟨rfl, -⟩ := h.history.once here there
      refine List.mem_append_right _ (List.mem_singleton.mpr ?_)
      rw [generation, same]
    · exact List.mem_append_left _ (h.kept other b found fired)

/-- Nothing happens to the timers. -/
theorem Sound.quiet {s s' : Timers K} (h : Sound s) (log : s'.log = s.log)
    (wheel : s'.runtime.wheel = s.runtime.wheel) (spawned : s'.runtime.spawned = s.runtime.spawned)
    (now : s.runtime.now ≤ s'.runtime.now)
    (tasks : ∀ task ∈ s'.runtime.tasks, ∃ old ∈ s.runtime.tasks, task = old ∨ old.poll s.runtime.now = some task) :
    Sound s' where
  history := by
    rw [log, spawned]
    exact h.history
  next := by rw [wheel, spawned, h.next]
  entries other := by
    unfold entry
    rw [wheel, log]
    exact h.entries other
  tasks task mem := by
    obtain ⟨old, known, how⟩ := tasks task mem
    obtain ⟨a, there, number, generation, time⟩ := h.tasks old known
    rw [log]
    rcases how with rfl | polled
    · exact ⟨a, there, number, generation, time.later now⟩
    · obtain ⟨number', key', generation'⟩ := TimerTask.poll_identity polled
      exact ⟨a, key'.symm ▸ there, number'.trans number, generation'.trans generation, (time.poll polled).later now⟩
  messages other g mem := by
    rw [wheel] at mem
    obtain ⟨a, there, generation, due⟩ := h.messages other g mem
    rw [log]
    exact ⟨a, there, generation, due.trans now⟩
  fired := by
    rw [log, spawned]
    exact h.fired
  kept := by
    rw [log, wheel]
    exact h.kept

/-- Every move keeps the wheel sound. -/
theorem Sound.move {s s' : Timers K} {turn : Bool} (h : Sound s) (few : s.runtime.spawned ≤ 2 ^ 64)
    (move : Move s s' turn) : Sound s' := by
  cases move with
  | arm key delay still log entry generation spawned rx now tasks =>
    exact h.arm log entry generation spawned rx now tasks
  | disarm which still log entry generation spawned rx now tasks =>
    exact h.disarm log entry generation spawned rx now tasks
  | receive key generation rx current log entry next spawned now tasks =>
    exact h.receive few rx current log entry next spawned now tasks
  | discard key generation rx stale log entry next spawned now tasks =>
    exact h.discard rx stale log entry next spawned now tasks
  | fire task still mem ended log entry next spawned rx now tasks =>
    exact h.fire mem ended log entry next spawned rx now tasks
  | quiet still log wheel spawned now tasks => exact h.quiet log wheel spawned now tasks

/-! ## Runs -/

/-- Tasks are numbered in turn. -/
theorem Move.spawned {s s' : Timers K} {turn : Bool} (move : Move s s' turn) :
    s.runtime.spawned ≤ s'.runtime.spawned := by
  cases move with
  | arm _ _ _ _ _ _ spawned => exact spawned ▸ Nat.le_succ _
  | disarm _ _ _ _ _ spawned => exact spawned.ge
  | receive _ _ _ _ _ _ _ spawned => exact spawned.ge
  | discard _ _ _ _ _ _ _ spawned => exact spawned.ge
  | fire _ _ _ _ _ _ _ spawned => exact spawned.ge
  | quiet _ _ _ spawned => exact spawned.ge

private theorem run_spawned (s : Timers K) (inputs : List (TimerInput K)) :
    s.runtime.spawned ≤ (s.run inputs).runtime.spawned := by
  unfold run
  induction inputs generalizing s with
  | nil => exact Nat.le_refl _
  | cons input rest ih => exact (s.step_move input).spawned.trans (ih _)

/-- Every run keeps the wheel sound. -/
theorem Sound.run {s : Timers K} (h : Sound s) {inputs : List (TimerInput K)}
    (few : (s.run inputs).runtime.spawned ≤ 2 ^ 64) : Sound (s.run inputs) := by
  induction inputs generalizing s with
  | nil => exact h
  | cons input rest ih =>
    have fewer : s.runtime.spawned ≤ 2 ^ 64 := (s.run_spawned (input :: rest)).trans few
    exact ih (h.move fewer (s.step_move input)) few

/-! ## What becomes of an arming that has fired -/

/-- The arming was returned, cancelled or replaced. -/
def Finished (key : K) (a : Arming) (log : List (TimerEvent K)) : Prop := a.number ∈ returns log ∨ Dropped key a log

/-- What is over stays over. -/
theorem Finished.more {key : K} {a : Arming} (h : Finished key a log) (event : TimerEvent K) :
    Finished key a (event :: log) := by
  rcases h with returned | ⟨later, last, earlier, rfl, found, how⟩
  · refine .inl ?_
    cases event with
    | returned k time => exact List.mem_append_right _ returned
    | _ => exact returned
  · exact .inr ⟨event :: later, last, earlier, rfl, found, how⟩

/-- A move logs one event at most. -/
theorem Move.logged {s s' : Timers K} {turn : Bool} (move : Move s s' turn) :
    s'.log = s.log ∨ ∃ event, s'.log = event :: s.log := by
  cases move with
  | arm _ _ _ log => exact .inr ⟨_, log⟩
  | disarm _ _ log => exact .inr ⟨_, log⟩
  | receive _ _ _ _ log => exact .inr ⟨_, log⟩
  | discard _ _ _ _ log => exact .inl log
  | fire _ _ _ _ log => exact .inr ⟨_, log⟩
  | quiet _ log => exact .inl log

/-- What is over stays over in every run. -/
theorem Finished.run {s : Timers K} {key : K} {a : Arming} (h : Finished key a s.log)
    (inputs : List (TimerInput K)) : Finished key a (s.run inputs).log := by
  unfold Timers.run
  induction inputs generalizing s with
  | nil => exact h
  | cons input rest ih =>
    refine ih ?_
    rcases (s.step_move input).logged with same | ⟨event, eq⟩
    · exact same ▸ h
    · exact eq ▸ h.more event

/-- The message of a live arming has `ahead` messages before it. -/
def Waits (s : Timers K) (key : K) (a : Arming) (ahead : Nat) : Prop :=
  live s.log key = some a ∧ ∃ front back, s.runtime.wheel.rx = front ++ (key, UInt64.ofNat a.number) :: back ∧
    front.length = ahead

/-- A turn brings the message forward, and nothing sets it back. -/
theorem Waits.move {s s' : Timers K} {turn : Bool} (h : Sound s) {key : K} {a : Arming} {ahead : Nat}
    (waits : Waits s key a ahead) (move : Move s s' turn) :
    Finished key a s'.log ∨ ∃ ahead', Waits s' key a ahead' ∧ ahead' + turn.toNat ≤ ahead := by
  obtain ⟨found, front, back, channel, rfl⟩ := waits
  cases move with
  | arm k delay still log entry generation spawned rx now tasks =>
    rw [log]
    by_cases same : key = k
    · subst same
      exact .inl (.inr ⟨[], _, s.log, rfl, found, .inl ⟨_, _, _, rfl⟩⟩)
    · refine .inr ⟨front.length, ⟨?_, front, back, rx.trans channel, rfl⟩, by rw [still]; exact Nat.le_refl _⟩
      rw [log]
      exact (if_neg same).trans found
  | disarm which still log entry generation spawned rx now tasks =>
    rw [log]
    cases hit : which key with
    | true => exact .inl (.inr ⟨[], _, s.log, rfl, found, .inr ⟨which, rfl, hit⟩⟩)
    | false =>
      refine .inr ⟨front.length, ⟨?_, front, back, rx.trans channel, rfl⟩, by rw [still]; exact Nat.le_refl _⟩
      rw [log]
      unfold live
      rw [hit]
      exact found
  | receive k generation rx current log entry next spawned now tasks =>
    rw [log]
    by_cases same : key = k
    · subst same
      refine .inl (.inl (List.mem_append_left _ ?_))
      rw [found]
      exact List.mem_singleton_self _
    · rw [channel] at rx
      cases front with
      | nil => exact absurd (Prod.mk.inj (List.cons.inj rx).1).1 same
      | cons first front =>
        refine .inr ⟨front.length, ⟨?_, front, back, (List.cons.inj rx).2.symm, rfl⟩, ?_⟩
        · rw [log]
          exact (if_neg same).trans found
        · cases turn
          · exact Nat.le_succ _
          · exact Nat.le_refl _
  | discard k generation rx stale log entry next spawned now tasks =>
    rw [channel] at rx
    cases front with
    | nil =>
      obtain ⟨rfl, rfl⟩ := Prod.mk.inj (List.cons.inj rx).1
      rw [h.entries key, found] at stale
      exact absurd rfl stale
    | cons first front =>
      refine .inr ⟨front.length, ⟨log ▸ found, front, back, (List.cons.inj rx).2.symm, rfl⟩, ?_⟩
      cases turn
      · exact Nat.le_succ _
      · exact Nat.le_refl _
  | fire task still mem ended log entry next spawned rx now tasks =>
    refine .inr ⟨front.length, ⟨?_, front, back ++ [(task.fired, task.generation)], ?_, rfl⟩,
      by rw [still]; exact Nat.le_refl _⟩
    · rw [log]
      exact found
    · rw [rx, channel, List.append_assoc, List.cons_append]
  | quiet still log wheel spawned now tasks =>
    refine .inr ⟨front.length, ⟨log ▸ found, front, back, wheel ▸ channel, rfl⟩, ?_⟩
    cases turn
    · exact Nat.le_refl _
    · have empty := still rfl
      rw [channel] at empty
      exact absurd empty (List.append_ne_nil_of_right_ne_nil _ (List.cons_ne_nil _ _))

/-- After as many turns, whatever happens between them, the arming is finished. -/
theorem Waits.run {s : Timers K} (h : Sound s) {key : K} {a : Arming} {ahead : Nat} (waits : Waits s key a ahead)
    {inputs : List (TimerInput K)} (few : (s.run inputs).runtime.spawned ≤ 2 ^ 64)
    (turns : ahead < inputs.countP isTurn) : Finished key a (s.run inputs).log := by
  induction inputs generalizing s ahead with
  | nil => exact absurd turns (Nat.not_lt_zero _)
  | cons input rest ih =>
    have fewer : s.runtime.spawned ≤ 2 ^ 64 := (s.run_spawned (input :: rest)).trans few
    rcases waits.move h (s.step_move input) with finished | ⟨ahead', waits', nearer⟩
    · exact finished.run (s := s.step input) rest
    · refine ih (h.move fewer (s.step_move input)) waits' few ?_
      rw [List.countP_cons] at turns
      cases kind : isTurn input with
      | true =>
        rw [kind] at turns nearer
        simp only [if_true, Bool.toNat_true] at turns nearer
        omega
      | false =>
        rw [kind] at turns nearer
        simp only [Bool.false_eq_true, if_false, Bool.toNat_false] at turns nearer
        omega

/-! ## A poll of `next` -/

private theorem turn_eq_none {r : Runtime K} : r.turn = none ↔ r.wheel.rx = [] := by
  unfold Runtime.turn
  cases r.wheel.rx with
  | nil => simp
  | cons message rx =>
    dsimp only
    split <;> simp

private theorem turn_eq_discard {r r' : Runtime K} (turned : r.turn = some (none, r')) :
    ∃ message, r.wheel.rx = message :: r'.wheel.rx ∧ r'.now = r.now := by
  unfold Runtime.turn at turned
  cases channel : r.wheel.rx with
  | nil =>
    rw [channel] at turned
    cases turned
  | cons message rx =>
    rw [channel] at turned
    dsimp only at turned
    split at turned
    · cases turned
    · cases turned
      exact ⟨message, rfl, rfl⟩

/-- What the log says after a poll. -/
def polled (s : Timers K) (result : Option K × Runtime K) : Timers K :=
  match result.1 with
  | some key => ⟨result.2, .returned key s.runtime.now :: s.log⟩
  | none => ⟨result.2, s.log⟩

/-- A poll is a row of turns, and it waits only with an empty channel. -/
theorem nextTurns_run (fuel : Nat) (s : Timers K) (enough : s.runtime.wheel.rx.length ≤ fuel) :
    ∃ turns, s.run (List.replicate turns .turn) = s.polled (s.runtime.nextTurns fuel) ∧
      ((s.runtime.nextTurns fuel).1 = none → (s.runtime.nextTurns fuel).2.wheel.rx = []) := by
  induction fuel generalizing s with
  | zero => exact ⟨0, rfl, fun _ => List.length_eq_zero_iff.mp (Nat.le_zero.mp enough)⟩
  | succ fuel ih =>
    cases turned : s.runtime.turn with
    | none =>
      have waits : s.runtime.nextTurns (fuel + 1) = (none, s.runtime) := by simp [Runtime.nextTurns, turned]
      rw [waits]
      exact ⟨0, rfl, fun _ => turn_eq_none.mp turned⟩
    | some result =>
      obtain ⟨answer, runtime⟩ := result
      cases answer with
      | some key =>
        have returns : s.runtime.nextTurns (fuel + 1) = (some key, runtime) := by simp [Runtime.nextTurns, turned]
        rw [returns]
        refine ⟨1, ?_, fun none => nomatch none⟩
        show s.step .turn = _
        simp [step, turned, polled]
      | none =>
        have goes : s.runtime.nextTurns (fuel + 1) = runtime.nextTurns fuel := by simp [Runtime.nextTurns, turned]
        have stepped : s.step .turn = ⟨runtime, s.log⟩ := by simp [step, turned]
        obtain ⟨message, channel, now⟩ := turn_eq_discard turned
        rw [channel] at enough
        obtain ⟨turns, ran, empty⟩ := ih ⟨runtime, s.log⟩ (Nat.le_of_succ_le_succ enough)
        rw [goes]
        refine ⟨turns + 1, ?_, empty⟩
        rw [List.replicate_succ]
        show (s.step .turn).run (List.replicate turns .turn) = _
        rw [stepped, ran]
        unfold polled
        dsimp only
        rw [now]

/-- Turns arm nothing. -/
theorem turns_spawned (s : Timers K) (turns : Nat) :
    (s.run (List.replicate turns .turn)).runtime.spawned = s.runtime.spawned := by
  induction turns generalizing s with
  | zero => rfl
  | succ turns ih =>
    rw [List.replicate_succ]
    refine (ih (s.step .turn)).trans ?_
    cases s.turn_move with
    | arm _ _ still => cases still
    | disarm _ still => cases still
    | receive _ _ _ _ _ _ _ spawned => exact spawned
    | discard _ _ _ _ _ _ _ spawned => exact spawned
    | fire _ still => cases still
    | quiet _ _ _ spawned => exact spawned

/-- A poll does not wait while a live arming has fired. -/
theorem Sound.next_ready {s : Timers K} (h : Sound s) (few : s.runtime.spawned ≤ 2 ^ 64) {key : K} {a : Arming}
    (found : live s.log key = some a) (fired : .fired a.number ∈ s.log) : s.runtime.next.1.isSome = true := by
  obtain ⟨turns, ran, empty⟩ := nextTurns_run s.runtime.wheel.rx.length s (Nat.le_refl _)
  cases answer : s.runtime.next.1 with
  | some other => rfl
  | none =>
    -- the channel is empty after the poll, but the arming's message has to be there
    have same : s.polled s.runtime.next = ⟨s.runtime.next.2, s.log⟩ := by
      unfold polled
      rw [answer]
    have after : Sound (s.run (List.replicate turns .turn)) := h.run (by rwa [turns_spawned])
    rw [ran] at after
    have after : Sound (s.polled s.runtime.next) := after
    rw [same] at after
    have there := after.kept key a found fired
    have gone : s.runtime.next.2.wheel.rx = [] := empty answer
    rw [show (⟨s.runtime.next.2, s.log⟩ : Timers K).runtime.wheel.rx = [] from gone] at there
    cases there

/-! ## The wheel -/

/-- **The timer wheel.** In every run with at most 2^64 armings, a key that `next` returns is that of its latest
arming, which was neither cancelled nor replaced nor returned before and whose whole delay has passed. No arming
is returned twice, and a key is armed exactly while it has a live arming, so not after its return. While a live
arming has fired, `next` does not wait, and it is returned within as many turns as the channel has messages,
unless it is cancelled or replaced before. -/
theorem timers_lawful (inputs : List (TimerInput K))
    (few : (({} : Timers K).run inputs).runtime.spawned ≤ 2 ^ 64) :
    let s := ({} : Timers K).run inputs
    (∀ later key time earlier, s.log = later ++ .returned key time :: earlier →
      ∃ a, live earlier key = some a ∧ a.time + min a.delay TimerWheel.maxTotalDelay ≤ time) ∧
    (returns s.log).Nodup ∧
    (∀ key, s.runtime.isArmed key = (live s.log key).isSome) ∧
    (∀ key time earlier, s.log = .returned key time :: earlier → s.runtime.isArmed key = false) ∧
    ∀ key a, live s.log key = some a → .fired a.number ∈ s.log →
      s.runtime.next.1.isSome = true ∧
        ∀ more, (s.run more).runtime.spawned ≤ 2 ^ 64 → s.runtime.wheel.rx.length ≤ more.countP isTurn →
          a.number ∈ returns (s.run more).log ∨ Dropped key a (s.run more).log := by
  intro s
  have h : Sound s := Sound.initial.run few
  have armed (key : K) : s.runtime.isArmed key = (live s.log key).isSome := by
    have := h.entries key
    unfold Runtime.isArmed
    unfold entry at this
    rw [this, Option.isSome_map]
  refine ⟨h.history.lawful, h.history.nodup, armed, fun key time earlier split => ?_, fun key a found fired => ?_⟩
  · rw [armed, split]
    unfold live
    rw [if_pos rfl]
    rfl
  · refine ⟨h.next_ready few found fired, fun more few' turns => ?_⟩
    obtain ⟨front, back, channel⟩ := List.append_of_mem (h.kept key a found fired)
    have waits : Waits s key a front.length := ⟨found, front, back, channel, rfl⟩
    refine waits.run h few' ?_
    rw [channel, List.length_append, List.length_cons] at turns
    omega

/-- A timer is armed twice, and both tasks end, the first one after its abort. -/
def rearmed : List (TimerInput Nat) :=
  [.set 7 10, .pollTask 0, .set 7 30, .pollTask 1, .advance 40, .pollTask 0, .pollTask 1]

theorem timers_lawful_rearmed :
    (({} : Timers Nat).run rearmed).runtime.wheel.rx = [(7, 0), (7, 1)] ∧
      (({} : Timers Nat).run rearmed).runtime.next.1.isSome = true := by
  refine ⟨by decide, ?_⟩
  have laws := timers_lawful rearmed (by decide)
  exact (laws.2.2.2.2 7 { number := 1, delay := 30, time := 0 } rfl (List.mem_cons_self)).1

end Timers

end KirbyOcpp
