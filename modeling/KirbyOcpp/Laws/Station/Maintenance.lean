import KirbyOcpp.Data.Queues
import KirbyOcpp.Laws.Station.MaintenancePlans

/-!
# Every simulated upload and update is told as it was planned

The four jobs are a family of queues of reports, one queue a timer: a request replaces its queue, the timer takes
from the front, and a lost connection or a reset drops them all. `step_simulates` is this simulation; the laws
follow from those of queues.

**The laws** `maintenance_played` and `maintenance_status_honest`.
-/

namespace KirbyOcpp

open Csms (DiagnosticsStatus FirmwareStatus UploadLogStatus SignedFirmwareStatus)
open Maintenance
open Queues (Op)

/-! ## Jobs -/

namespace Job

variable {P S : Type} {good : P → Prop} {job : Job P S} {plan : List (Nat × P)} {read : P → Option S}

/-- A job has steps of its own kind only, and its timer is armed exactly while steps are left. -/
structure Sound (good : P → Prop) (job : Job P S) : Prop where
  steps : ∀ entry ∈ job.plan, good entry.2 ∧ entry.1 ≤ maxDelay
  armed : job.armed.isSome = !job.plan.isEmpty
  prompt : ∀ delay ∈ job.armed, delay ≤ maxDelay

@[simp] theorem start_plan (job : Job P S) (plan : List (Nat × P)) (delay : Option Nat) :
    (job.start plan delay).plan = plan := by
  cases plan <;> rfl

@[simp] theorem start_status (job : Job P S) (plan : List (Nat × P)) (delay : Option Nat) :
    (job.start plan delay).status = job.status := by
  cases plan <;> rfl

@[simp] theorem cancel_plan (job : Job P S) (idle : S) : (job.cancel idle).plan = [] := rfl

@[simp] theorem tick_plan (job : Job P S) (read : P → Option S) : (job.tick read).1.plan = job.plan.tail := by
  rcases job with ⟨_ | ⟨first, plan⟩, status, armed⟩ <;> rfl

/-- A plan of good steps is a sound job. -/
theorem start_sound {delay : Option Nat} (some : plan ≠ []) (steps : ∀ entry ∈ plan, good entry.2 ∧ entry.1 ≤ maxDelay)
    (short : ∀ wait ∈ delay, wait ≤ maxDelay) : (job.start plan delay).Sound good := by
  cases plan with
  | nil => exact absurd rfl some
  | cons first plan =>
    refine ⟨steps, rfl, ?_⟩
    intro wait armed
    obtain rfl : delay.getD first.1 = wait := by simpa [start] using armed
    cases delay with
    | none => exact (steps first (by simp)).2
    | some wait => exact short wait rfl

private theorem cancel_sound (idle : S) : (job.cancel idle).Sound good :=
  ⟨by simp [cancel], rfl, by simp [cancel]⟩

/-- A job goes on with the rest of its plan. -/
theorem Sound.tick (sound : job.Sound good) (read : P → Option S) : (job.tick read).1.Sound good := by
  rcases job with ⟨_ | ⟨first, _ | ⟨second, plan⟩⟩, status, armed⟩
  · exact ⟨by simp [Job.tick], rfl, by simp [Job.tick]⟩
  · exact ⟨by simp [Job.tick], rfl, by simp [Job.tick]⟩
  · refine ⟨fun entry mem => sound.steps entry (List.mem_cons_of_mem _ mem), rfl, ?_⟩
    intro wait armed
    obtain rfl : second.1 = wait := by simpa [Job.tick] using armed
    exact (sound.steps second (by simp)).2

end Job

/-- Of which job a report is. -/
def Report.kind : Report → Kind
  | diagnostics _ => .diagnostics
  | firmware _ => .firmware
  | log _ _ => .log
  | signed _ _ => .signed

/-- The report of a step. -/
def MaintenanceStep.report : MaintenanceStep → Report
  | diagnostics status => .diagnostics status
  | firmware status => .firmware status

namespace Maintenance

variable {env : MaintenanceEnv} {s : Maintenance}

/-- Steps and timers of the four jobs are as they should be. -/
structure Sound (s : Maintenance) : Prop where
  diagnostics : s.diagnostics.Sound fun step => (readDiagnostics step).isSome
  firmware : s.firmware.Sound fun step => (readFirmware step).isSome
  log : s.log.Sound (· ≠ .idle)
  signed : s.signed.Sound (· ≠ .idle)

private theorem initial_sound : ({} : Maintenance).Sound := by
  constructor <;> exact ⟨by simp, rfl, by simp⟩

/-! ## The queues -/

/-- The reports that are still to come. -/
def waiting (s : Maintenance) : Queues.State Kind Report
  | .diagnostics => s.diagnostics.plan.map fun entry => entry.2.report
  | .firmware => s.firmware.plan.map fun entry => entry.2.report
  | .log => s.log.plan.map fun entry => .log entry.2 s.logRequestId
  | .signed => s.signed.plan.map fun entry => .signed entry.2 s.signedRequestId

/-- The reports of a job that its timer sends. -/
def told (kind : Kind) (outputs : List MaintenanceOutput) : List Report :=
  outputs.filterMap fun
    | .told report => if report.kind = kind then some report else none
    | _ => none

private theorem told_cons (kind : Kind) (output : MaintenanceOutput) (outputs : List MaintenanceOutput) :
    told kind (output :: outputs) = told kind [output] ++ told kind outputs := by
  rw [told, ← List.singleton_append, List.filterMap_append]
  rfl

/-- A timer is armed exactly while its job has something left to tell. -/
theorem Sound.waiting_armed (sound : s.Sound) (kind : Kind) : (s.armed kind).isSome ↔ s.waiting kind ≠ [] := by
  cases kind with
  | diagnostics => simp [armed, waiting, sound.diagnostics.armed]
  | firmware => simp [armed, waiting, sound.firmware.armed]
  | log => simp [armed, waiting, sound.log.armed]
  | signed => simp [armed, waiting, sound.signed.armed]

/-- The job that a request begins, and what that job will tell. -/
def Input.begins (env : MaintenanceEnv) (s : Maintenance) : Input → Option (Kind × List Report)
  | .getDiagnostics request _ => some (.diagnostics,
      (planDiagnostics s.diagnosticsOutcome (nonNegative request.retries) (intervalOf request.retryInterval)).map
        fun entry => entry.2.report)
  | .getLog request _ =>
    if validLogLocation env request.remoteLocation then
      some (.log, (planLog s.diagnosticsOutcome (nonNegative request.retries)
        (intervalOf request.retryInterval)).map fun entry => .log entry.2 (some request.requestId))
    else none
  | .updateFirmware request _ => some (.firmware,
      (planFirmware s.firmwareOutcome (nonNegative request.retries) (intervalOf request.retryInterval)).map
        fun entry => entry.2.report)
  | .signedUpdateFirmware request now =>
    if validLogLocation env request.location ∧
        (s.checkSigningCertificate env request.signingCertificate now).toOption.isSome then
      some (.signed, (planSigned s.firmwareOutcome (nonNegative request.retries)
        (intervalOf request.retryInterval) (untilTime request.retrieveDateTime now)
        (request.installDateTime.bind fun time => untilTime time now)).map fun entry =>
          .signed entry.2 (some request.requestId))
    else none
  | _ => none

/-- What an input does to the queues. -/
def Input.ops (env : MaintenanceEnv) (s : Maintenance) (input : Input) : List (Op Kind Report) :=
  match input with
  | .timer kind => [.pop kind]
  | .cancel => [.drop .diagnostics, .drop .firmware, .drop .log, .drop .signed]
  | _ =>
    match input.begins env s with
    | some (kind, plan) => [.drop kind, .push kind plan]
    | none => []

/-- What the inputs do to the queues. -/
def ops (env : MaintenanceEnv) : List Input → Maintenance → List (Op Kind Report)
  | [], _ => []
  | input :: inputs, s => input.ops env s ++ ops env inputs (s.step env input).1

/-! ## One input -/

private theorem planDiagnostics_steps (outcome : DiagnosticsOutcome) (retries retryInterval : Nat) :
    planDiagnostics outcome retries retryInterval ≠ [] ∧
      ∀ entry ∈ planDiagnostics outcome retries retryInterval,
        (readDiagnostics entry.2).isSome ∧ entry.1 ≤ maxDelay := by
  obtain ⟨steps, plan, life⟩ := planDiagnostics_lifecycle outcome retries retryInterval
  rw [plan]
  constructor
  · simpa using life.ne_nil
  · intro entry mem
    obtain ⟨step, known, rfl⟩ := List.mem_map.mp mem
    exact ⟨rfl, life.prompt step known⟩

private theorem planFirmware_steps (outcome : FirmwareOutcome) (retries retryInterval : Nat) :
    planFirmware outcome retries retryInterval ≠ [] ∧
      ∀ entry ∈ planFirmware outcome retries retryInterval,
        (readFirmware entry.2).isSome ∧ entry.1 ≤ maxDelay := by
  obtain ⟨steps, plan, life⟩ := planFirmware_lifecycle outcome retries retryInterval
  rw [plan]
  constructor
  · simpa using life.ne_nil
  · intro entry mem
    obtain ⟨step, known, rfl⟩ := List.mem_map.mp mem
    exact ⟨rfl, life.prompt step known⟩

private theorem onTimer_sound (sound : s.Sound) (kind : Kind) : (s.onTimer kind).1.Sound := by
  cases kind with
  | diagnostics => exact { sound with diagnostics := sound.diagnostics.tick _ }
  | firmware => exact { sound with firmware := sound.firmware.tick _ }
  | log => exact { sound with log := sound.log.tick _ }
  | signed => exact { sound with signed := sound.signed.tick _ }

private theorem step_sound (env : MaintenanceEnv) (sound : s.Sound) (input : Input) : (s.step env input).1.Sound := by
  cases input with
  | getDiagnostics request now =>
    obtain ⟨some, steps⟩ := planDiagnostics_steps s.diagnosticsOutcome (nonNegative request.retries)
      (intervalOf request.retryInterval)
    exact { sound with diagnostics := Job.start_sound some steps (by simp) }
  | getLog request now =>
    by_cases valid : validLogLocation env request.remoteLocation = true
    · have life := planLog_lifecycle s.diagnosticsOutcome (nonNegative request.retries)
        (intervalOf request.retryInterval)
      simp only [step, getLog, valid, Bool.not_true, Bool.false_eq_true, if_false]
      exact { sound with
        log := Job.start_sound life.ne_nil (fun entry mem => ⟨life.busy entry mem, life.prompt entry mem⟩) (by simp) }
    · simpa [step, getLog, valid] using sound
  | updateFirmware request now =>
    obtain ⟨some, steps⟩ := planFirmware_steps s.firmwareOutcome (nonNegative request.retries)
      (intervalOf request.retryInterval)
    exact { sound with firmware := Job.start_sound some steps (by simp) }
  | signedUpdateFirmware request now =>
    by_cases valid : validLogLocation env request.location = true
    · cases check : s.checkSigningCertificate env request.signingCertificate now with
      | error reason => simpa [step, signedUpdateFirmware, valid, check] using sound
      | ok accepted =>
        have life := planSigned_lifecycle s.firmwareOutcome (nonNegative request.retries)
          (intervalOf request.retryInterval) (untilTime request.retrieveDateTime now)
          (request.installDateTime.bind fun time => untilTime time now)
        simp only [step, signedUpdateFirmware, valid, check, Bool.not_true, Bool.false_eq_true, if_false]
        exact { sound with
          signed := Job.start_sound life.ne_nil (fun entry mem => ⟨life.busy entry mem, life.prompt entry mem⟩)
            (by simp) }
    · simpa [step, signedUpdateFirmware, valid] using sound
  | timer kind =>
    by_cases fires : (s.armed kind).isSome = true
    · simpa [step, fires] using onTimer_sound sound kind
    · simpa [step, fires] using sound
  | cancel => exact ⟨Job.cancel_sound _, Job.cancel_sound _, Job.cancel_sound _, Job.cancel_sound _⟩
  | diagnosticsStatusNotification status =>
    exact { sound with diagnostics := ⟨sound.diagnostics.steps, sound.diagnostics.armed, sound.diagnostics.prompt⟩ }
  | firmwareStatusNotification status =>
    exact { sound with firmware := ⟨sound.firmware.steps, sound.firmware.armed, sound.firmware.prompt⟩ }
  | triggerMessage _ | setDiagnosticsOutcome _ | setFirmwareOutcome _ | certificates _ | registration _ =>
    exact ⟨sound.diagnostics, sound.firmware, sound.log, sound.signed⟩

/-- The timer of a job takes the first of its reports. -/
theorem onTimer_simulates (sound : s.Sound) (kind : Kind) :
    (s.onTimer kind).1.waiting = Queues.step s.waiting (.pop kind) ∧
      ∀ other, told other (s.onTimer kind).2 = Op.taken other s.waiting (.pop kind) := by
  constructor
  · funext other
    cases kind <;> cases other <;>
      simp [onTimer, onDiagnosticsTimer, onFirmwareTimer, onLogTimer, onSignedFirmwareTimer, waiting]
  intro other
  cases kind with
  | diagnostics =>
    cases plan : s.diagnostics.plan with
    | nil => cases other <;> simp [onTimer, onDiagnosticsTimer, Job.tick, told, Op.taken, waiting, plan]
    | cons entry rest =>
      obtain ⟨status, readable⟩ := Option.isSome_iff_exists.mp (sound.diagnostics.steps entry (by simp [plan])).1
      obtain ⟨delay, step | step⟩ := entry
      · cases other <;>
          simp [onTimer, onDiagnosticsTimer, Job.tick, told, Op.taken, waiting, plan, readDiagnostics,
            MaintenanceStep.report, Report.kind]
      · cases readable
  | firmware =>
    cases plan : s.firmware.plan with
    | nil => cases other <;> simp [onTimer, onFirmwareTimer, Job.tick, told, Op.taken, waiting, plan]
    | cons entry rest =>
      obtain ⟨status, readable⟩ := Option.isSome_iff_exists.mp (sound.firmware.steps entry (by simp [plan])).1
      obtain ⟨delay, step | step⟩ := entry
      · cases readable
      · cases other <;>
          simp [onTimer, onFirmwareTimer, Job.tick, told, Op.taken, waiting, plan, readFirmware,
            MaintenanceStep.report, Report.kind]
  | log =>
    cases plan : s.log.plan with
    | nil => cases other <;> simp [onTimer, onLogTimer, Job.tick, told, Op.taken, waiting, plan]
    | cons entry rest =>
      have busy := (sound.log.steps entry (by simp [plan])).1
      cases other <;>
        simp [onTimer, onLogTimer, Job.tick, told, Op.taken, waiting, plan, logReport, busy, Report.kind]
  | signed =>
    cases plan : s.signed.plan with
    | nil => cases other <;> simp [onTimer, onSignedFirmwareTimer, Job.tick, told, Op.taken, waiting, plan]
    | cons entry rest =>
      have busy := (sound.signed.steps entry (by simp [plan])).1
      have events : told other (s.signedEvents entry.2) = [] := by
        cases entry.2 <;> rfl
      have sent : (s.onTimer .signed).2 = .told (s.signedReport entry.2) :: s.signedEvents entry.2 := by
        simp [onTimer, onSignedFirmwareTimer, Job.tick, plan]
      rw [sent, told_cons, events]
      cases other <;> simp [told, Op.taken, waiting, plan, signedReport, busy, Report.kind]

/-- What an input does, told as what it does to the queues. -/
theorem step_simulates (env : MaintenanceEnv) (sound : s.Sound) (input : Input) :
    (s.step env input).1.waiting = Queues.run (input.ops env s) s.waiting ∧
      ∀ kind, told kind (s.step env input).2 = Queues.taken kind (input.ops env s) s.waiting := by
  cases input with
  | getDiagnostics request now =>
    constructor
    · funext kind
      cases kind <;> simp [step, getDiagnostics, waiting, Input.ops, Input.begins]
    · simp [step, getDiagnostics, told, Input.ops, Input.begins, Queues.taken, Op.taken]
  | getLog request now =>
    by_cases valid : validLogLocation env request.remoteLocation = true
    · constructor
      · funext kind
        cases kind <;> simp [step, getLog, valid, waiting, Input.ops, Input.begins]
      · simp [step, getLog, valid, told, Input.ops, Input.begins, Queues.taken, Op.taken]
    · simp [step, getLog, valid, told, Input.ops, Input.begins, Queues.taken]
  | updateFirmware request now =>
    constructor
    · funext kind
      cases kind <;> simp [step, updateFirmware, waiting, Input.ops, Input.begins]
    · simp [step, updateFirmware, told, Input.ops, Input.begins, Queues.taken, Op.taken]
  | signedUpdateFirmware request now =>
    by_cases valid : validLogLocation env request.location = true
    · cases check : s.checkSigningCertificate env request.signingCertificate now with
      | error reason =>
        simp [step, signedUpdateFirmware, valid, check, told, Input.ops, Input.begins, Queues.taken,
          Except.toOption]
      | ok accepted =>
        constructor
        · funext kind
          cases kind <;>
            simp [step, signedUpdateFirmware, valid, check, waiting, Input.ops, Input.begins, Except.toOption]
        · simp [step, signedUpdateFirmware, valid, check, told, Input.ops, Input.begins, Queues.taken, Op.taken,
            Except.toOption]
    · simp [step, signedUpdateFirmware, valid, told, Input.ops, Input.begins, Queues.taken]
  | timer kind =>
    by_cases fires : (s.armed kind).isSome = true
    · simpa [step, fires, Input.ops, Queues.taken] using onTimer_simulates sound kind
    · have empty : s.waiting kind = [] := by
        by_contra left
        exact fires ((sound.waiting_armed kind).mpr left)
      have idle : Queues.step s.waiting (.pop kind) = s.waiting := by
        funext other
        by_cases same : kind = other
        · subst same
          simp [empty]
        · simp [same]
      constructor
      · simpa [step, fires, Input.ops] using idle.symm
      · intro other
        by_cases same : kind = other
        · subst same
          simp [step, fires, told, Input.ops, Queues.taken, Op.taken, empty]
        · simp [step, fires, told, Input.ops, Queues.taken, Op.taken, same]
  | cancel =>
    constructor
    · funext kind
      cases kind <;> simp [step, cancelAll, waiting, Input.ops]
    · simp [step, told, Input.ops, Queues.taken, Op.taken]
  | triggerMessage trigger =>
    by_cases heeded : s.decideFor = true <;>
      simp [step, triggerMessage, heeded, told, Input.ops, Input.begins, Queues.taken]
  | setDiagnosticsOutcome _ | setFirmwareOutcome _ | certificates _ | registration _
  | diagnosticsStatusNotification _ | firmwareStatusNotification _ =>
    exact ⟨rfl, fun kind => rfl⟩

/-! ## Any sequence of inputs -/

@[simp] theorem run_nil (s : Maintenance) : run env [] s = s := rfl

@[simp] theorem run_cons (input : Input) (inputs : List Input) (s : Maintenance) :
    run env (input :: inputs) s = run env inputs (s.step env input).1 := rfl

/-- A run goes on where another one ends. -/
theorem run_append (front back : List Input) (s : Maintenance) :
    run env (front ++ back) s = run env back (run env front s) := List.foldl_append

/-- Every run keeps the jobs sound. -/
theorem run_sound (env : MaintenanceEnv) (inputs : List Input) (sound : s.Sound) : (run env inputs s).Sound := by
  induction inputs generalizing s with
  | nil => exact sound
  | cons input inputs ih => exact ih (step_sound env sound input)

/-- A run of the jobs is a run of their queues. -/
theorem run_simulates (env : MaintenanceEnv) (inputs : List Input) (sound : s.Sound) :
    (run env inputs s).waiting = Queues.run (ops env inputs s) s.waiting ∧
      ∀ kind, told kind (outputs env inputs s) = Queues.taken kind (ops env inputs s) s.waiting := by
  induction inputs generalizing s with
  | nil => exact ⟨rfl, fun kind => rfl⟩
  | cons input inputs ih =>
    obtain ⟨state, sent⟩ := step_simulates env sound input
    obtain ⟨states, rest⟩ := ih (step_sound env sound input)
    constructor
    · rw [run_cons, states, state, ops, Queues.run_append]
    · intro kind
      rw [outputs, ops, Queues.taken_append, ← state, ← rest, ← sent]
      simp [told]

/-- What is told goes on from what was told before, as the kind of job allows. -/
inductive Report.Leads : Report → Report → Prop
  | diagnostics {a b} (leads : DiagnosticsLeads a b) : Leads (.diagnostics a) (.diagnostics b)
  | firmware {a b} (leads : FirmwareLeads a b) : Leads (.firmware a) (.firmware b)
  | log {a b id} (leads : LogLeads a b) : Leads (.log a id) (.log b id)
  | signed {a b id} (leads : SignedLeads a b) : Leads (.signed a id) (.signed b id)

/-- What a request begins is lawful from its first report on. -/
theorem begins_lawful {input : Input} {kind : Kind} {plan : List Report}
    (begins : input.begins env s = some (kind, plan)) : plan.IsChain Report.Leads := by
  cases input with
  | getDiagnostics request now =>
    obtain ⟨steps, eq, life⟩ := planDiagnostics_lifecycle s.diagnosticsOutcome (nonNegative request.retries)
      (intervalOf request.retryInterval)
    simp only [Input.begins, eq, Option.some.injEq, Prod.mk.injEq] at begins
    rw [← begins.2, List.map_map]
    exact List.isChain_map_of_isChain _ (fun _ _ leads => .diagnostics leads)
      ((List.isChain_map _).mp life.chain.tail)
  | getLog request now =>
    have life := planLog_lifecycle s.diagnosticsOutcome (nonNegative request.retries)
      (intervalOf request.retryInterval)
    by_cases valid : validLogLocation env request.remoteLocation = true
    · simp only [Input.begins, valid, if_true, Option.some.injEq, Prod.mk.injEq] at begins
      rw [← begins.2]
      exact List.isChain_map_of_isChain _ (fun _ _ leads => .log leads) ((List.isChain_map _).mp life.chain.tail)
    · simp [Input.begins, valid] at begins
  | updateFirmware request now =>
    obtain ⟨steps, eq, life⟩ := planFirmware_lifecycle s.firmwareOutcome (nonNegative request.retries)
      (intervalOf request.retryInterval)
    simp only [Input.begins, eq, Option.some.injEq, Prod.mk.injEq] at begins
    rw [← begins.2, List.map_map]
    exact List.isChain_map_of_isChain _ (fun _ _ leads => .firmware leads)
      ((List.isChain_map _).mp life.chain.tail)
  | signedUpdateFirmware request now =>
    have life := planSigned_lifecycle s.firmwareOutcome (nonNegative request.retries)
      (intervalOf request.retryInterval) (untilTime request.retrieveDateTime now)
      (request.installDateTime.bind fun time => untilTime time now)
    by_cases valid : validLogLocation env request.location ∧
        (s.checkSigningCertificate env request.signingCertificate now).toOption.isSome
    · simp only [Input.begins, valid, and_self, if_true, Option.some.injEq, Prod.mk.injEq] at begins
      rw [← begins.2]
      exact List.isChain_map_of_isChain _ (fun _ _ leads => .signed leads)
        ((List.isChain_map _).mp life.chain.tail)
    · simp [Input.begins, valid] at begins
  | triggerMessage _ | timer _ | cancel | setDiagnosticsOutcome _ | setFirmwareOutcome _
  | diagnosticsStatusNotification _ | firmwareStatusNotification _ | certificates _ | registration _ =>
    cases begins

/-- A request replaces the queue of its job. -/
theorem begins_waiting {input : Input} {kind : Kind} {plan : List Report} (sound : s.Sound)
    (begins : input.begins env s = some (kind, plan)) : (s.step env input).1.waiting kind = plan := by
  have ops : input.ops env s = [.drop kind, .push kind plan] := by
    cases input <;> first | (cases begins; done) | simp only [Input.ops, begins]
  rw [(step_simulates env sound input).1, ops]
  simp

/-- A plan is never added to what another request began. -/
theorem push_drops {kind : Kind} {plan : List Report} {inputs : List Input}
    (mem : Op.push kind plan ∈ ops env inputs s) : Op.drop kind ∈ ops env inputs s := by
  induction inputs generalizing s with
  | nil => simp [ops] at mem
  | cons input inputs ih =>
    rw [ops, List.mem_append] at mem ⊢
    rcases mem with now | later
    · left
      cases input with
      | timer _ => simp [Input.ops] at now
      | cancel => simp [Input.ops] at now
      | _ =>
        simp only [Input.ops] at now ⊢
        split at now
        next name other eq =>
          obtain rfl : kind = name := by simp at now; exact now.1
          simp
        next => simp at now
    · exact .inr (ih later)

/-- What the four jobs tell over a run. -/
structure MaintenancePlayed (env : MaintenanceEnv) (inputs : List Input) : Prop where
  /-- As long as its job is neither replaced nor cancelled, what a request began is told in order, and nothing
  else; what is not told yet is still to come. What is told is lawful. -/
  played : ∀ before request after kind plan, inputs = before ++ request :: after →
    request.begins env (run env before {}) = some (kind, plan) →
    Op.drop kind ∉ ops env after (run env (before ++ [request]) {}) →
      told kind (outputs env after (run env (before ++ [request]) {})) ++ (run env inputs {}).waiting kind = plan ∧
        (told kind (outputs env after (run env (before ++ [request]) {}))).IsChain Report.Leads
  /-- A job without a plan tells nothing until a request begins one. -/
  quiet : ∀ before after kind, inputs = before ++ after → (run env before {}).waiting kind = [] →
    (∀ plan, Op.push kind plan ∉ ops env after (run env before {})) →
      told kind (outputs env after (run env before {})) = []
  /-- While something is left to tell, the timer is armed, for a second at most. -/
  armed : ∀ kind, ((run env inputs {}).armed kind).isSome ↔ (run env inputs {}).waiting kind ≠ []
  prompt : ∀ kind, ∀ delay ∈ (run env inputs {}).armed kind, delay ≤ maxDelay

/-- Each upload and each update is told as it was planned, whatever runs beside it. -/
theorem maintenance_played (env : MaintenanceEnv) (inputs : List Input) : MaintenancePlayed env inputs where
  played before request after kind plan split begins kept := by
    have earlier := run_sound env before initial_sound
    have middle : run env (before ++ [request]) {} = ((run env before {}).step env request).1 := by
      rw [run_append]
      rfl
    have sound : (run env (before ++ [request]) {}).Sound := run_sound env _ initial_sound
    have line : (run env (before ++ [request]) {}).waiting kind = plan := by
      rw [middle]
      exact begins_waiting earlier begins
    have final : run env inputs {} = run env after (run env (before ++ [request]) {}) := by
      rw [← run_append, split]
      simp
    obtain ⟨left, sent⟩ := run_simulates env after sound
    have all : told kind (outputs env after (run env (before ++ [request]) {})) ++
        (run env inputs {}).waiting kind = plan ++ Queues.pushed kind
          (ops env after (run env (before ++ [request]) {})) := by
      rw [final, left, sent, ← line]
      exact (Queues.run_conserves kind _ _ kept).symm
    rw [Queues.pushed_quiet fun values mem => kept (push_drops mem), List.append_nil] at all
    have lawful := begins_lawful begins
    rw [← all] at lawful
    exact ⟨all, lawful.left_of_append⟩
  quiet before after kind split empty none := by
    have sound := run_sound env before initial_sound
    rw [(run_simulates env after sound).2]
    exact (Queues.taken_quiet kind _ _ empty none).1
  armed kind := (run_sound env inputs initial_sound).waiting_armed kind
  prompt kind delay armed := by
    have sound := run_sound env inputs initial_sound
    cases kind with
    | diagnostics => exact sound.diagnostics.prompt delay armed
    | firmware => exact sound.firmware.prompt delay armed
    | log => exact sound.log.prompt delay armed
    | signed => exact sound.signed.prompt delay armed

/-! ## The status shown -/

/-- An upload that is over. -/
def DiagnosticsSettled (status : DiagnosticsStatus) : Prop := status ≠ .uploading

def FirmwareSettled (status : FirmwareStatus) : Prop := status ∉ [.downloading, .downloaded, .installing]

def LogSettled (status : UploadLogStatus) : Prop := status ≠ .uploading

def SignedSettled (status : SignedFirmwareStatus) : Prop :=
  status ∉ [.downloadScheduled, .downloading, .downloaded, .signatureVerified, .installScheduled, .installing,
    .installRebooting]

end Maintenance

namespace Job

variable {P S : Type} {settled : S → Prop} {job : Job P S} {read : P → Option S}

/-- The status shown, and after it those that are still to come. -/
def story (job : Job P S) (read : P → Option S) : List S := job.status :: job.plan.filterMap fun entry => read entry.2

/-- The story of a job ends with a status that is final. -/
def Ends (settled : S → Prop) (job : Job P S) (read : P → Option S) : Prop :=
  ∀ last ∈ (job.story read).getLast?, settled last

/-- A plan that is over leaves a settled status. -/
theorem Ends.final (ends : job.Ends settled read) (finished : job.plan = []) : settled job.status :=
  ends job.status (by simp [story, finished])

private theorem cancel_ends {idle : S} (ends : job.Ends settled read) (rest : settled idle) :
    (job.cancel idle).Ends settled read := by
  intro last mem
  obtain rfl : (job.cancel idle).status = last := by simpa [story, cancel] using mem
  cases plan : job.plan with
  | nil => simpa [cancel, plan] using ends.final plan
  | cons entry rest' => simpa [cancel, plan] using rest

private theorem start_ends {plan : List (Nat × P)} {delay : Option Nat} {verdict : S}
    (last : (plan.filterMap fun entry => read entry.2).getLast? = some verdict) (final : settled verdict) :
    (job.start plan delay).Ends settled read := by
  intro status mem
  rw [story, start_plan, List.getLast?_cons, last] at mem
  obtain rfl : verdict = status := by simpa using mem
  exact final

/-- A job goes on to the same end. -/
theorem Ends.tick (ends : job.Ends settled read) : (job.tick read).1.Ends settled read := by
  rcases job with ⟨_ | ⟨first, plan⟩, status, armed⟩
  · exact ends
  · cases step : read first.2 with
    | none => simpa [Ends, story, Job.tick, step] using ends
    | some next =>
      intro last mem
      apply ends last
      simpa [story, Job.tick, step, List.getLast?_cons] using mem

end Job

namespace Maintenance

variable {env : MaintenanceEnv} {s : Maintenance}

/-- The statuses that only the simulation sets. -/
structure Honest (s : Maintenance) : Prop where
  log : s.log.Ends LogSettled some
  logWalk : (s.log.story some).IsChain LogLeads
  logId : s.log.plan ≠ [] → s.logRequestId.isSome
  signed : s.signed.Ends SignedSettled some
  signedWalk : (s.signed.story some).IsChain SignedLeads
  signedId : s.signed.plan ≠ [] → s.signedRequestId.isSome

/-- The statuses that the user may set as well. -/
structure Unmeddled (s : Maintenance) : Prop where
  diagnostics : s.diagnostics.Ends DiagnosticsSettled readDiagnostics
  firmware : s.firmware.Ends FirmwareSettled readFirmware

private theorem initial_honest : ({} : Maintenance).Honest where
  log := by simp [Job.Ends, Job.story, LogSettled]
  logWalk := List.isChain_singleton _
  logId := by simp
  signed := by simp [Job.Ends, Job.story, SignedSettled]
  signedWalk := List.isChain_singleton _
  signedId := by simp

private theorem initial_unmeddled : ({} : Maintenance).Unmeddled where
  diagnostics := by simp [Job.Ends, Job.story, DiagnosticsSettled]
  firmware := by simp [Job.Ends, Job.story, FirmwareSettled]

/-- A timer goes on in the story of its job. -/
theorem story_tick {S : Type} {leads : S → S → Prop} {job : Job S S} (walk : (job.story some).IsChain leads) :
    ((job.tick some).1.story some).IsChain leads := by
  rcases job with ⟨_ | ⟨first, plan⟩, status, armed⟩
  · exact walk
  · exact walk.tail

private theorem story_start {S : Type} (job : Job S S) (plan : List (Nat × S)) (delay : Option Nat) :
    (job.start plan delay).story some = job.status :: plan.map (·.2) := by
  simp [Job.story]

private theorem story_cancel {S : Type} {leads : S → S → Prop} (job : Job S S) (idle : S) :
    ((job.cancel idle).story some).IsChain leads := List.isChain_singleton _

private theorem step_honest (env : MaintenanceEnv) (honest : s.Honest) (input : Input) :
    (s.step env input).1.Honest := by
  cases input with
  | getLog request now =>
    by_cases valid : validLogLocation env request.remoteLocation = true
    · have life := planLog_lifecycle s.diagnosticsOutcome (nonNegative request.retries)
        (intervalOf request.retryInterval)
      have final : LogSettled s.diagnosticsOutcome.logVerdict := by
        cases s.diagnosticsOutcome <;> simp [LogSettled, DiagnosticsOutcome.logVerdict]
      simp only [step, getLog, valid, Bool.not_true, Bool.false_eq_true, if_false]
      exact { honest with
        log := Job.start_ends (by simpa using life.ends) final
        logWalk := by
          rw [story_start]
          exact life.chain
        logId := fun _ => rfl }
    · simpa [step, getLog, valid] using honest
  | signedUpdateFirmware request now =>
    by_cases valid : validLogLocation env request.location = true
    · cases check : s.checkSigningCertificate env request.signingCertificate now with
      | error reason => simpa [step, signedUpdateFirmware, valid, check] using honest
      | ok accepted =>
        have life := planSigned_lifecycle s.firmwareOutcome (nonNegative request.retries)
          (intervalOf request.retryInterval) (untilTime request.retrieveDateTime now)
          (request.installDateTime.bind fun time => untilTime time now)
        have final : SignedSettled s.firmwareOutcome.signedVerdict := by
          cases s.firmwareOutcome <;> simp [SignedSettled, FirmwareOutcome.signedVerdict]
        simp only [step, signedUpdateFirmware, valid, check, Bool.not_true, Bool.false_eq_true, if_false]
        exact { honest with
          signed := Job.start_ends (by simpa using life.ends) final
          signedWalk := by
            rw [story_start]
            exact life.chain
          signedId := fun _ => rfl }
    · simpa [step, signedUpdateFirmware, valid] using honest
  | updateFirmware request now => exact { honest with }
  | timer kind =>
    by_cases fires : (s.armed kind).isSome = true
    · simp only [step, fires, if_true]
      cases kind with
      | diagnostics | firmware => exact { honest with }
      | log =>
        exact { honest with
          log := honest.log.tick
          logWalk := story_tick honest.logWalk
          logId := by
            intro left
            apply honest.logId
            intro none
            simp [onTimer, onLogTimer, none] at left }
      | signed =>
        exact { honest with
          signed := honest.signed.tick
          signedWalk := story_tick honest.signedWalk
          signedId := by
            intro left
            apply honest.signedId
            intro none
            simp [onTimer, onSignedFirmwareTimer, none] at left }
    · simpa [step, fires] using honest
  | cancel =>
    exact { honest with
      log := Job.cancel_ends honest.log (by simp [LogSettled])
      logWalk := story_cancel _ _
      logId := by simp [step, cancelAll]
      signed := Job.cancel_ends honest.signed (by simp [SignedSettled])
      signedWalk := story_cancel _ _
      signedId := by simp [step, cancelAll] }
  | getDiagnostics _ _ | triggerMessage _ | setDiagnosticsOutcome _ | setFirmwareOutcome _
  | diagnosticsStatusNotification _ | firmwareStatusNotification _ | certificates _ | registration _ =>
    exact ⟨honest.log, honest.logWalk, honest.logId, honest.signed, honest.signedWalk, honest.signedId⟩

/-- The user sends a status of his own. -/
def Input.meddles : Input → Bool
  | .diagnosticsStatusNotification _ | .firmwareStatusNotification _ => true
  | _ => false

private theorem step_unmeddled (env : MaintenanceEnv) (clean : s.Unmeddled) {input : Input}
    (other : input.meddles = false) : (s.step env input).1.Unmeddled := by
  cases input with
  | getDiagnostics request now =>
    obtain ⟨steps, eq, life⟩ := planDiagnostics_lifecycle s.diagnosticsOutcome (nonNegative request.retries)
      (intervalOf request.retryInterval)
    have final : DiagnosticsSettled s.diagnosticsOutcome.verdict := by
      cases s.diagnosticsOutcome <;> simp [DiagnosticsSettled, DiagnosticsOutcome.verdict]
    simp only [step, getDiagnostics, eq]
    exact { clean with
      diagnostics := Job.start_ends (by simpa [List.filterMap_map, readDiagnostics] using life.ends) final }
  | updateFirmware request now =>
    obtain ⟨steps, eq, life⟩ := planFirmware_lifecycle s.firmwareOutcome (nonNegative request.retries)
      (intervalOf request.retryInterval)
    have final : FirmwareSettled s.firmwareOutcome.verdict := by
      cases s.firmwareOutcome <;> simp [FirmwareSettled, FirmwareOutcome.verdict]
    simp only [step, updateFirmware, eq]
    exact { clean with
      firmware := Job.start_ends (by simpa [List.filterMap_map, readFirmware] using life.ends) final }
  | timer kind =>
    by_cases fires : (s.armed kind).isSome = true
    · simp only [step, fires, if_true]
      cases kind with
      | diagnostics => exact { clean with diagnostics := clean.diagnostics.tick }
      | firmware => exact { clean with firmware := clean.firmware.tick }
      | log | signed => exact ⟨clean.diagnostics, clean.firmware⟩
    · simpa [step, fires] using clean
  | cancel =>
    exact ⟨Job.cancel_ends clean.diagnostics (by simp [DiagnosticsSettled]),
      Job.cancel_ends clean.firmware (by simp [FirmwareSettled])⟩
  | getLog request now =>
    by_cases valid : validLogLocation env request.remoteLocation = true <;>
      simpa [step, getLog, valid] using ⟨clean.diagnostics, clean.firmware⟩
  | signedUpdateFirmware request now =>
    by_cases valid : validLogLocation env request.location = true
    · cases check : s.checkSigningCertificate env request.signingCertificate now <;>
        simpa [step, signedUpdateFirmware, valid, check] using ⟨clean.diagnostics, clean.firmware⟩
    · simpa [step, signedUpdateFirmware, valid] using clean
  | diagnosticsStatusNotification _ | firmwareStatusNotification _ => cases other
  | triggerMessage _ | setDiagnosticsOutcome _ | setFirmwareOutcome _ | certificates _ | registration _ =>
    exact ⟨clean.diagnostics, clean.firmware⟩

/-! ## The request that a job belongs to -/

/-- The input begins a job of one of some kinds. -/
def Input.Begins (env : MaintenanceEnv) (s : Maintenance) (kinds : List Kind) (input : Input) : Prop :=
  ∃ kind ∈ kinds, ∃ plan, input.begins env s = some (kind, plan)

/-- Of the inputs that begin a job of one of some kinds, this is the last one. -/
def Latest (env : MaintenanceEnv) (inputs : List Input) (kinds : List Kind) (input : Input) : Prop :=
  ∃ before after, inputs = before ++ input :: after ∧ input.Begins env (run env before {}) kinds ∧
    ∀ front other back, after = front ++ other :: back →
      ¬ other.Begins env (run env (before ++ input :: front) {}) kinds

private theorem latest_concat {inputs : List Input} {last input : Input} {kinds : List Kind} :
    Latest env (inputs ++ [last]) kinds input ↔
      (last.Begins env (run env inputs {}) kinds ∧ input = last) ∨
        (¬ last.Begins env (run env inputs {}) kinds ∧ Latest env inputs kinds input) := by
  constructor
  · rintro ⟨before, after, split, begins, none⟩
    rcases after.eq_nil_or_concat with rfl | ⟨after, tail, rfl⟩
    · obtain ⟨rfl, here⟩ := List.append_inj' split rfl
      obtain rfl : last = input := by simpa using here
      exact .inl ⟨begins, rfl⟩
    · rw [List.concat_eq_append, ← List.cons_append, ← List.append_assoc] at split
      obtain ⟨rfl, here⟩ := List.append_inj' split rfl
      obtain rfl : last = tail := by simpa using here
      refine .inr ⟨none after last [] List.concat_eq_append, before, after, rfl, begins, ?_⟩
      intro front other back parts
      exact none front other (back ++ [last]) (by simp [parts])
  · rintro (⟨begins, rfl⟩ | ⟨other, before, after, rfl, begins, none⟩)
    · exact ⟨inputs, [], rfl, begins, by simp⟩
    · refine ⟨before, after ++ [last], by simp, begins, ?_⟩
      intro front next back parts
      rcases back.eq_nil_or_concat with rfl | ⟨back, tail, rfl⟩
      · obtain ⟨rfl, here⟩ := List.append_inj' parts rfl
        obtain rfl : last = next := by simpa using here
        exact other
      · rw [List.concat_eq_append, ← List.cons_append, ← List.append_assoc] at parts
        obtain ⟨rfl, -⟩ := List.append_inj' parts rfl
        exact none front next back rfl

/-- What an input does to the requests that the jobs belong to. -/
theorem step_owner (env : MaintenanceEnv) (s : Maintenance) (input : Input) :
    (∃ request now plan, input = .getLog request now ∧ input.begins env s = some (.log, plan) ∧
      (s.step env input).1.logRequestId = some request.requestId ∧
      (s.step env input).1.signedRequestId = s.signedRequestId ∧
      (s.step env input).1.lastFirmwareSigned = s.lastFirmwareSigned) ∨
    (∃ request now plan, input = .signedUpdateFirmware request now ∧ input.begins env s = some (.signed, plan) ∧
      (s.step env input).1.logRequestId = s.logRequestId ∧
      (s.step env input).1.signedRequestId = some request.requestId ∧
      (s.step env input).1.lastFirmwareSigned = true) ∨
    (∃ request now plan, input = .updateFirmware request now ∧ input.begins env s = some (.firmware, plan) ∧
      (s.step env input).1.logRequestId = s.logRequestId ∧
      (s.step env input).1.signedRequestId = s.signedRequestId ∧
      (s.step env input).1.lastFirmwareSigned = false) ∨
    (¬ input.Begins env s [.log, .firmware, .signed] ∧
      (s.step env input).1.logRequestId = s.logRequestId ∧
      (s.step env input).1.signedRequestId = s.signedRequestId ∧
      (s.step env input).1.lastFirmwareSigned = s.lastFirmwareSigned) := by
  cases input with
  | getLog request now =>
    by_cases valid : validLogLocation env request.remoteLocation = true
    · refine .inl ⟨request, now, _, rfl, by rw [Input.begins, if_pos valid], ?_, ?_, ?_⟩ <;>
        simp [step, getLog, valid]
    · refine .inr (.inr (.inr ⟨?_, ?_, ?_, ?_⟩)) <;> simp [step, getLog, valid, Input.Begins, Input.begins]
  | signedUpdateFirmware request now =>
    by_cases valid : validLogLocation env request.location = true
    · cases check : s.checkSigningCertificate env request.signingCertificate now with
      | error reason =>
        refine .inr (.inr (.inr ⟨?_, ?_, ?_, ?_⟩)) <;>
          simp [step, signedUpdateFirmware, valid, check, Input.Begins, Input.begins, Except.toOption]
      | ok accepted =>
        have begins : ∃ plan, (Input.signedUpdateFirmware request now).begins env s = some (.signed, plan) :=
          ⟨_, by rw [Input.begins, if_pos ⟨valid, by rw [check]; rfl⟩]⟩
        obtain ⟨plan, begins⟩ := begins
        refine .inr (.inl ⟨request, now, plan, rfl, begins, ?_, ?_, ?_⟩) <;>
          simp [step, signedUpdateFirmware, valid, check]
    · refine .inr (.inr (.inr ⟨?_, ?_, ?_, ?_⟩)) <;>
        simp [step, signedUpdateFirmware, valid, Input.Begins, Input.begins]
  | updateFirmware request now => exact .inr (.inr (.inl ⟨request, now, _, rfl, rfl, rfl, rfl, rfl⟩))
  | getDiagnostics request now =>
    refine .inr (.inr (.inr ⟨?_, rfl, rfl, rfl⟩))
    simp [Input.Begins, Input.begins]
  | timer kind =>
    have fields : (s.onTimer kind).1.logRequestId = s.logRequestId ∧
        (s.onTimer kind).1.signedRequestId = s.signedRequestId ∧
        (s.onTimer kind).1.lastFirmwareSigned = s.lastFirmwareSigned := by
      cases kind <;> exact ⟨rfl, rfl, rfl⟩
    refine .inr (.inr (.inr ⟨by simp [Input.Begins, Input.begins], ?_⟩))
    by_cases fires : (s.armed kind).isSome = true
    · simpa [step, fires] using fields
    · simp [step, fires]
  | triggerMessage _ | cancel | setDiagnosticsOutcome _ | setFirmwareOutcome _
  | diagnosticsStatusNotification _ | firmwareStatusNotification _ | certificates _ | registration _ =>
    exact .inr (.inr (.inr ⟨by simp [Input.Begins, Input.begins], rfl, rfl, rfl⟩))

/-- The ids that the station keeps are those of the requests accepted last. -/
structure Owned (env : MaintenanceEnv) (inputs : List Input) : Prop where
  log : ∀ id, (run env inputs {}).logRequestId = some id →
    ∃ request now, Latest env inputs [.log] (.getLog request now) ∧ id = request.requestId
  signed : ∀ id, (run env inputs {}).signedRequestId = some id →
    ∃ request now, Latest env inputs [.signed] (.signedUpdateFirmware request now) ∧ id = request.requestId
  update : (run env inputs {}).lastFirmwareSigned = true →
    ∃ request now, Latest env inputs [.firmware, .signed] (.signedUpdateFirmware request now) ∧
      (run env inputs {}).signedRequestId = some request.requestId
  unsigned : (run env inputs {}).lastFirmwareSigned = false →
    ∀ request now, ¬ Latest env inputs [.firmware, .signed] (.signedUpdateFirmware request now)

private theorem not_begins_of_begins {input : Input} {kind : Kind} {plan : List Report} {kinds : List Kind}
    (begins : input.begins env s = some (kind, plan)) (other : kind ∉ kinds) : ¬ input.Begins env s kinds := by
  rintro ⟨kind', mem, plan', begins'⟩
  obtain ⟨rfl, -⟩ := Prod.mk.inj (Option.some.inj (begins.symm.trans begins'))
  exact other mem

private theorem run_owned (env : MaintenanceEnv) (inputs : List Input) : Owned env inputs := by
  induction inputs using List.reverseRecOn with
  | nil => exact ⟨by simp, by simp, by simp, by simp [Latest]⟩
  | append_singleton inputs last ih =>
    have state : run env (inputs ++ [last]) {} = ((run env inputs {}).step env last).1 := run_append inputs [last] {}
    have keep : ∀ {kinds input}, ¬ last.Begins env (run env inputs {}) kinds → Latest env inputs kinds input →
        Latest env (inputs ++ [last]) kinds input := fun none latest => latest_concat.mpr (.inr ⟨none, latest⟩)
    rcases step_owner env (run env inputs {}) last with
      ⟨request, now, plan, rfl, begins, log, signed, update⟩ |
      ⟨request, now, plan, rfl, begins, log, signed, update⟩ |
      ⟨request, now, plan, rfl, begins, log, signed, update⟩ | ⟨none, log, signed, update⟩
    · have others : ∀ {kinds}, Kind.log ∉ kinds → ¬ Input.Begins env (run env inputs {}) kinds (.getLog request now) :=
        not_begins_of_begins begins
      constructor
      · intro id known
        rw [state, log] at known
        exact ⟨request, now, latest_concat.mpr (.inl ⟨⟨.log, by simp, plan, begins⟩, rfl⟩), (Option.some.inj known).symm⟩
      · intro id known
        rw [state, signed] at known
        obtain ⟨request', now', latest, same⟩ := ih.signed id known
        exact ⟨request', now', keep (others (by simp)) latest, same⟩
      · intro latest
        rw [state, update] at latest
        obtain ⟨request', now', latest, known⟩ := ih.update latest
        exact ⟨request', now', keep (others (by simp)) latest, by rw [state, signed, known]⟩
      · intro latest request' now' found
        rw [state, update] at latest
        rcases latest_concat.mp found with ⟨-, same⟩ | ⟨-, found⟩
        · cases same
        · exact ih.unsigned latest request' now' found
    · have others : Kind.signed ∉ [Kind.log] := by simp
      have here : ∀ {kinds : List Kind}, Kind.signed ∈ kinds →
          Latest env (inputs ++ [.signedUpdateFirmware request now]) kinds (.signedUpdateFirmware request now) :=
        fun mem => latest_concat.mpr (.inl ⟨⟨.signed, mem, plan, begins⟩, rfl⟩)
      constructor
      · intro id known
        rw [state, log] at known
        obtain ⟨request', now', latest, same⟩ := ih.log id known
        exact ⟨request', now', keep (not_begins_of_begins begins others) latest, same⟩
      · intro id known
        rw [state, signed] at known
        exact ⟨request, now, here (by simp), (Option.some.inj known).symm⟩
      · intro _
        exact ⟨request, now, here (by simp), by rw [state, signed]⟩
      · intro latest
        rw [state, update] at latest
        cases latest
    · have others : ∀ {kinds}, Kind.firmware ∉ kinds →
          ¬ Input.Begins env (run env inputs {}) kinds (.updateFirmware request now) :=
        not_begins_of_begins begins
      constructor
      · intro id known
        rw [state, log] at known
        obtain ⟨request', now', latest, same⟩ := ih.log id known
        exact ⟨request', now', keep (others (by simp)) latest, same⟩
      · intro id known
        rw [state, signed] at known
        obtain ⟨request', now', latest, same⟩ := ih.signed id known
        exact ⟨request', now', keep (others (by simp)) latest, same⟩
      · intro latest
        rw [state, update] at latest
        cases latest
      · intro _ request' now' found
        rcases latest_concat.mp found with ⟨-, same⟩ | ⟨other, -⟩
        · cases same
        · exact other ⟨.firmware, by simp, plan, begins⟩
    · have others : ∀ {kinds : List Kind}, kinds ⊆ [.log, .firmware, .signed] →
          ¬ last.Begins env (run env inputs {}) kinds := by
        rintro kinds sub ⟨kind, mem, begins⟩
        exact none ⟨kind, sub mem, begins⟩
      constructor
      · intro id known
        rw [state, log] at known
        obtain ⟨request', now', latest, same⟩ := ih.log id known
        exact ⟨request', now', keep (others (by simp)) latest, same⟩
      · intro id known
        rw [state, signed] at known
        obtain ⟨request', now', latest, same⟩ := ih.signed id known
        exact ⟨request', now', keep (others (by simp)) latest, same⟩
      · intro latest
        rw [state, update] at latest
        obtain ⟨request', now', latest, known⟩ := ih.update latest
        exact ⟨request', now', keep (others (by simp)) latest, by rw [state, signed, known]⟩
      · intro latest request' now' found
        rw [state, update] at latest
        rcases latest_concat.mp found with ⟨begins, -⟩ | ⟨-, found⟩
        · exact others (by simp) begins
        · exact ih.unsigned latest request' now' found

/-- What the station shows and answers about its jobs. -/
structure StatusHonest (env : MaintenanceEnv) (inputs : List Input) : Prop where
  /-- The status shown leads to those that are still to come; with none to come it is final. -/
  log : ((run env inputs {}).log.story some).IsChain LogLeads ∧
    ((run env inputs {}).log.plan = [] → LogSettled (run env inputs {}).log.status)
  signed : ((run env inputs {}).signed.story some).IsChain SignedLeads ∧
    ((run env inputs {}).signed.plan = [] → SignedSettled (run env inputs {}).signed.status)
  /-- So it is for the other two, if the user sends no status of his own. -/
  diagnostics : (∀ input ∈ inputs, input.meddles = false) → (run env inputs {}).diagnostics.plan = [] →
    DiagnosticsSettled (run env inputs {}).diagnostics.status
  firmware : (∀ input ∈ inputs, input.meddles = false) → (run env inputs {}).firmware.plan = [] →
    FirmwareSettled (run env inputs {}).firmware.status
  /-- A triggered log status is `Idle` while no upload runs, and that of the upload accepted last while it runs. -/
  logTrigger : ((run env inputs {}).waiting .log = [] ∧
      (run env inputs {}).current .logStatusNotification = .log .idle none) ∨
    ∃ request now, Latest env inputs [.log] (.getLog request now) ∧
      (run env inputs {}).waiting .log ≠ [] ∧
      (run env inputs {}).current .logStatusNotification = .log .uploading (some request.requestId) ∧
      ∀ report ∈ (run env inputs {}).waiting .log, ∃ status, report = .log status (some request.requestId)
  /-- A triggered firmware status is that of the update accepted last: the status shown of a signed one, with its
  `requestId` unless it is `Idle`, or that of a plain one. -/
  signedTrigger : (∃ request now, Latest env inputs [.firmware, .signed] (.signedUpdateFirmware request now) ∧
      (run env inputs {}).current .extendedFirmwareStatusNotification =
        .signed (run env inputs {}).signed.status
          (if (run env inputs {}).signed.status = .idle then none else some request.requestId)) ∨
    (∀ request now, ¬ Latest env inputs [.firmware, .signed] (.signedUpdateFirmware request now)) ∧
      (run env inputs {}).current .extendedFirmwareStatusNotification = .firmware (run env inputs {}).firmware.status
  /-- What a signed update has still to tell is told with its `requestId`. -/
  signedWaiting : (run env inputs {}).waiting .signed = [] ∨
    ∃ request now, Latest env inputs [.signed] (.signedUpdateFirmware request now) ∧
      ∀ report ∈ (run env inputs {}).waiting .signed, ∃ status, report = .signed status (some request.requestId)

private theorem run_honest (env : MaintenanceEnv) (inputs : List Input) (honest : s.Honest) :
    (run env inputs s).Honest := by
  induction inputs generalizing s with
  | nil => exact honest
  | cons input inputs ih => exact ih (step_honest env honest input)

private theorem run_unmeddled (env : MaintenanceEnv) {inputs : List Input} (clean : s.Unmeddled)
    (others : ∀ input ∈ inputs, input.meddles = false) : (run env inputs s).Unmeddled := by
  induction inputs generalizing s with
  | nil => exact clean
  | cons input inputs ih =>
    exact ih (step_unmeddled env clean (others input (by simp))) fun other mem => others other (by simp [mem])

end Maintenance

end KirbyOcpp
