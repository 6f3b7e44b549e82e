import KirbyOcpp.Station.Maintenance

/-!
# The plans of simulated uploads and updates

A plan is a walk through the states of a real upload or update: it starts at `Idle`, repeats a failed attempt a
bounded number of times, and ends as the chosen outcome says.

**The law** `plans_are_lifecycles`.
-/

namespace KirbyOcpp

open Csms (DiagnosticsStatus FirmwareStatus UploadLogStatus SignedFirmwareStatus)
open Maintenance

/-! ## Lifecycles -/

/-- What may follow a status of a diagnostics upload. -/
inductive DiagnosticsLeads : DiagnosticsStatus → DiagnosticsStatus → Prop
  | start : DiagnosticsLeads .idle .uploading
  | done : DiagnosticsLeads .uploading .uploaded
  | failed : DiagnosticsLeads .uploading .uploadFailed
  | again : DiagnosticsLeads .uploadFailed .uploading

inductive FirmwareLeads : FirmwareStatus → FirmwareStatus → Prop
  | start : FirmwareLeads .idle .downloading
  | downloaded : FirmwareLeads .downloading .downloaded
  | downloadFailed : FirmwareLeads .downloading .downloadFailed
  | install : FirmwareLeads .downloaded .installing
  | installed : FirmwareLeads .installing .installed
  | installFailed : FirmwareLeads .installing .installationFailed
  | downloadAgain : FirmwareLeads .downloadFailed .downloading
  | installAgain : FirmwareLeads .installationFailed .downloading

inductive LogLeads : UploadLogStatus → UploadLogStatus → Prop
  | start : LogLeads .idle .uploading
  | done : LogLeads .uploading .uploaded
  | failed : LogLeads .uploading .uploadFailure
  | again : LogLeads .uploadFailure .uploading

inductive SignedLeads : SignedFirmwareStatus → SignedFirmwareStatus → Prop
  | start : SignedLeads .idle .downloading
  | schedule : SignedLeads .idle .downloadScheduled
  | due : SignedLeads .downloadScheduled .downloading
  | downloaded : SignedLeads .downloading .downloaded
  | downloadFailed : SignedLeads .downloading .downloadFailed
  | verified : SignedLeads .downloaded .signatureVerified
  | forged : SignedLeads .downloaded .invalidSignature
  | install : SignedLeads .signatureVerified .installing
  | installLater : SignedLeads .signatureVerified .installScheduled
  | installDue : SignedLeads .installScheduled .installing
  | reboot : SignedLeads .installing .installRebooting
  | installFailed : SignedLeads .installing .installationFailed
  | installed : SignedLeads .installRebooting .installed
  | verificationFailed : SignedLeads .installRebooting .installVerificationFailed
  | downloadAgain : SignedLeads .downloadFailed .downloading
  | installAgain : SignedLeads .installationFailed .downloading

attribute [simp] DiagnosticsLeads.start DiagnosticsLeads.done DiagnosticsLeads.failed DiagnosticsLeads.again
attribute [simp] FirmwareLeads.start FirmwareLeads.downloaded FirmwareLeads.downloadFailed FirmwareLeads.install
  FirmwareLeads.installed FirmwareLeads.installFailed FirmwareLeads.downloadAgain FirmwareLeads.installAgain
attribute [simp] LogLeads.start LogLeads.done LogLeads.failed LogLeads.again
attribute [simp] SignedLeads.start SignedLeads.schedule SignedLeads.due SignedLeads.downloaded
  SignedLeads.downloadFailed SignedLeads.verified SignedLeads.forged SignedLeads.install SignedLeads.installLater
  SignedLeads.installDue SignedLeads.reboot SignedLeads.installFailed SignedLeads.installed
  SignedLeads.verificationFailed SignedLeads.downloadAgain SignedLeads.installAgain

/-- What the outcome makes of an upload in the end. -/
def DiagnosticsOutcome.verdict : DiagnosticsOutcome → DiagnosticsStatus
  | success => .uploaded
  | uploadFailure => .uploadFailed

def DiagnosticsOutcome.logVerdict : DiagnosticsOutcome → UploadLogStatus
  | success => .uploaded
  | uploadFailure => .uploadFailure

def FirmwareOutcome.verdict : FirmwareOutcome → FirmwareStatus
  | success => .installed
  | downloadFailure => .downloadFailed
  | _ => .installationFailed

def FirmwareOutcome.signedVerdict : FirmwareOutcome → SignedFirmwareStatus
  | success => .installed
  | downloadFailure => .downloadFailed
  | installationFailure => .installationFailed
  | invalidSignature => .invalidSignature
  | installVerificationFailed => .installVerificationFailed

/-- How often an attempt is made that is made again after a failure, if `again` says so. -/
def attempts (again : Bool) (retries : Nat) : Nat := if again then min retries maxRetries + 1 else 1

/-- A plan tells of `tries` attempts, each from `first` to `verdict`, with only the last verdict final. -/
structure Lifecycle {T : Type} [DecidableEq T] (leads : T → T → Prop) (idle first verdict : T) (tries : Nat)
    (plan : List (Nat × T)) : Prop where
  /-- Each status may follow the one before, from `idle` on. -/
  chain : (idle :: plan.map (·.2)).IsChain leads
  ends : (plan.map (·.2)).getLast? = some verdict
  tried : (plan.map (·.2)).count first = tries
  failed : (plan.map (·.2)).count verdict = tries
  busy : ∀ entry ∈ plan, entry.2 ≠ idle
  prompt : ∀ entry ∈ plan, entry.1 ≤ maxDelay

/-- A lifecycle has a step. -/
theorem Lifecycle.ne_nil {T : Type} [DecidableEq T] {leads : T → T → Prop} {idle first verdict : T} {tries : Nat}
    {plan : List (Nat × T)} (life : Lifecycle leads idle first verdict tries plan) : plan ≠ [] := by
  intro none
  simpa [none] using life.ends

/-! ## Repeated attempts -/

section Repeats

variable {T : Type} {leads : T → T → Prop} {attempt : List T}

/-- An attempt that may be made again is a walk as often as it is made. -/
theorem isChain_replicate {first last : T} (chain : attempt.IsChain leads) (starts : attempt.head? = some first)
    (ends : attempt.getLast? = some last) (again : leads last first) (n : Nat) :
    (List.replicate n attempt).flatten.IsChain leads := by
  induction n with
  | zero => simp
  | succ n ih =>
    rw [List.replicate_succ, List.flatten_cons, List.isChain_append]
    refine ⟨chain, ih, ?_⟩
    intro x hx y hy
    obtain rfl : last = x := by simpa [ends] using hx
    cases n with
    | zero => simp at hy
    | succ n =>
      rw [List.replicate_succ, List.flatten_cons, List.head?_append, starts] at hy
      obtain rfl : first = y := by simpa using hy
      exact again

private theorem getLast?_repeatAttempt {last : T} (ends : attempt.getLast? = some last) (retries : Nat) :
    (repeatAttempt attempt retries).getLast? = some last := by
  rw [repeatAttempt, List.replicate_succ', List.flatten_append, List.getLast?_append]
  simp [ends]

private theorem count_repeatAttempt [DecidableEq T] (status : T) (retries : Nat) :
    (repeatAttempt attempt retries).count status = (min retries maxRetries + 1) * attempt.count status := by
  simp [repeatAttempt, List.count_flatten]

private theorem mem_repeatAttempt {status : T} {retries : Nat} :
    status ∈ repeatAttempt attempt retries ↔ status ∈ attempt := by
  simp [repeatAttempt, List.mem_flatten, List.mem_replicate]

@[simp] theorem repeatAttempt_zero : repeatAttempt attempt 0 = attempt := by simp [repeatAttempt]

/-- Repeated attempts, after what comes before them. -/
theorem isChain_repeatAttempt {idle first last : T} {before : List T} {retries : Nat}
    (chain : attempt.IsChain leads) (starts : attempt.head? = some first) (ends : attempt.getLast? = some last)
    (again : 0 < retries → leads last first) (enters : (idle :: before ++ [first]).IsChain leads) :
    (idle :: (before ++ repeatAttempt attempt retries)).IsChain leads := by
  have body : (repeatAttempt attempt retries).IsChain leads := by
    rcases Nat.eq_zero_or_pos retries with rfl | pos
    · simpa using chain
    · exact isChain_replicate chain starts ends (again pos) _
  rw [← List.cons_append, List.isChain_append]
  refine ⟨enters.left_of_append, body, ?_⟩
  intro x hx y hy
  rw [repeatAttempt, List.replicate_succ, List.flatten_cons, List.head?_append, starts] at hy
  obtain rfl : first = y := by simpa using hy
  exact (List.isChain_append.mp enters).2.2 x hx first (by simp)

private theorem map_snd_mapIdx {D : Type} (delay : Nat → T → D) (steps : List T) :
    (steps.mapIdx fun index step => (delay index step, step)).map (·.2) = steps := by
  apply List.ext_getElem?
  intro i
  rw [List.getElem?_map, List.getElem?_mapIdx]
  cases steps[i]? <;> rfl

@[simp] theorem map_withDelays (steps : List T) (attemptLen retryInterval : Nat) :
    (withDelays steps attemptLen retryInterval).map (·.2) = steps := map_snd_mapIdx _ steps

private theorem delay_withDelays {steps : List T} {attemptLen retryInterval : Nat} :
    ∀ entry ∈ withDelays steps attemptLen retryInterval, entry.1 ≤ maxDelay := by
  intro entry mem
  obtain ⟨i, bound, rfl⟩ := List.mem_mapIdx.mp mem
  by_cases late : 0 < i ∧ i % attemptLen = 0
  · simp [late]
  · simp [late, stepDelay, maxDelay]

/-- A plan of repeated attempts is a lifecycle. -/
theorem lifecycle_of_attempts [DecidableEq T] {idle first verdict : T} {plan : List (Nat × T)}
    (before attempt : List T) (retries : Nat) (statuses : plan.map (·.2) = before ++ repeatAttempt attempt retries)
    (prompt : ∀ entry ∈ plan, entry.1 ≤ maxDelay) (chain : attempt.IsChain leads)
    (starts : attempt.head? = some first) (ends : attempt.getLast? = some verdict)
    (again : 0 < retries → leads verdict first) (enters : (idle :: before ++ [first]).IsChain leads)
    (busy : idle ∉ before ++ attempt) (once : attempt.count first = 1 ∧ attempt.count verdict = 1)
    (alone : first ∉ before ∧ verdict ∉ before) :
    Lifecycle leads idle first verdict (min retries maxRetries + 1) plan where
  chain := by
    rw [statuses]
    exact isChain_repeatAttempt chain starts ends again enters
  ends := by
    rw [statuses, List.getLast?_append, getLast?_repeatAttempt ends]
    rfl
  tried := by
    rw [statuses, List.count_append, count_repeatAttempt, once.1, List.count_eq_zero.mpr alone.1]
    omega
  failed := by
    rw [statuses, List.count_append, count_repeatAttempt, once.2, List.count_eq_zero.mpr alone.2]
    omega
  busy entry mem same := by
    apply busy
    have status : entry.2 ∈ plan.map (·.2) := List.mem_map_of_mem mem
    rw [statuses, List.mem_append, mem_repeatAttempt] at status
    rw [← same]
    exact List.mem_append.mpr status
  prompt := prompt

end Repeats

/-! ## The plans -/

/-- The delays of a plan stay where each status is replaced. -/
theorem withDelays_map {T S : Type} (f : T → S) (steps : List T) (attemptLen retryInterval : Nat) :
    withDelays (steps.map f) attemptLen retryInterval =
      (withDelays steps attemptLen retryInterval).map fun entry => (entry.1, f entry.2) := by
  apply List.ext_getElem?
  intro i
  rw [withDelays, withDelays, List.getElem?_map, List.getElem?_mapIdx, List.getElem?_mapIdx, List.getElem?_map]
  cases steps[i]? <;> rfl

/-- The plan of an upload of diagnostics is a lifecycle. -/
theorem planDiagnostics_lifecycle (outcome : DiagnosticsOutcome) (retries retryInterval : Nat) :
    ∃ steps, planDiagnostics outcome retries retryInterval =
        steps.map (fun entry => (entry.1, .diagnostics entry.2)) ∧
      Lifecycle DiagnosticsLeads .idle .uploading outcome.verdict (attempts (outcome ≠ .success) retries) steps := by
  cases outcome with
  | success =>
    refine ⟨withDelays (repeatAttempt [.uploading, .uploaded] 0) 2 retryInterval, ?_, ?_⟩
    · rw [← withDelays_map]
      rfl
    · exact lifecycle_of_attempts [] [.uploading, .uploaded] 0 (map_withDelays _ _ _) delay_withDelays
        (by simp) rfl rfl (by simp) (by simp) (by simp) (by decide) (by simp)
  | uploadFailure =>
    refine ⟨withDelays (repeatAttempt [.uploading, .uploadFailed] retries) 2 retryInterval, ?_, ?_⟩
    · rw [← withDelays_map]
      rfl
    · exact lifecycle_of_attempts [] [.uploading, .uploadFailed] retries (map_withDelays _ _ _) delay_withDelays
        (by simp) rfl rfl (by simp [DiagnosticsOutcome.verdict]) (by simp) (by simp) (by decide) (by simp)

/-- The status of an upload in the spelling of `LogStatusNotification`. -/
def logStatusOf : DiagnosticsStatus → UploadLogStatus
  | .uploaded => .uploaded
  | .uploadFailed => .uploadFailure
  | .uploading => .uploading
  | .idle => .idle

/-- `plan_log` only respells a plan that does not say `Idle`. -/
theorem planLog_eq {outcome : DiagnosticsOutcome} {retries retryInterval : Nat}
    {steps : List (Nat × DiagnosticsStatus)}
    (plan : planDiagnostics outcome retries retryInterval =
      steps.map fun entry => (entry.1, .diagnostics entry.2)) (busy : ∀ entry ∈ steps, entry.2 ≠ .idle) :
    planLog outcome retries retryInterval = steps.map fun entry => (entry.1, logStatusOf entry.2) := by
  rw [planLog, plan, List.filterMap_map, ← List.filterMap_eq_map]
  apply List.filterMap_congr
  rintro ⟨delay, status⟩ mem
  cases status with
  | idle => exact absurd rfl (busy _ mem)
  | uploaded | uploadFailed | uploading => rfl

/-- The plan of a log upload is a lifecycle. -/
theorem planLog_lifecycle (outcome : DiagnosticsOutcome) (retries retryInterval : Nat) :
    Lifecycle LogLeads .idle .uploading outcome.logVerdict (attempts (outcome ≠ .success) retries)
      (planLog outcome retries retryInterval) := by
  obtain ⟨steps, plan, life⟩ := planDiagnostics_lifecycle outcome retries retryInterval
  have statuses : (planLog outcome retries retryInterval).map (·.2) = (steps.map (·.2)).map logStatusOf := by
    rw [planLog_eq plan life.busy, List.map_map, List.map_map]
    rfl
  have spelled : Function.Injective logStatusOf := by
    intro a b same
    cases a <;> cases b <;> first | rfl | cases same
  have verdict : outcome.logVerdict = logStatusOf outcome.verdict := by cases outcome <;> rfl
  refine ⟨?_, ?_, ?_, ?_, ?_, ?_⟩
  · rw [statuses]
    have walk := List.isChain_map_of_isChain logStatusOf (S := LogLeads) (fun a b leads => by cases leads <;> simp [logStatusOf]) life.chain
    exact walk
  · rw [statuses, List.getLast?_map, life.ends, verdict]
    rfl
  · rw [statuses, ← life.tried]
    exact List.count_map_of_injective _ _ spelled .uploading
  · rw [statuses, ← life.failed, verdict]
    exact List.count_map_of_injective _ _ spelled _
  · intro entry mem
    rw [planLog_eq plan life.busy] at mem
    obtain ⟨step, known, rfl⟩ := List.mem_map.mp mem
    exact spelled.ne (life.busy step known)
  · intro entry mem
    rw [planLog_eq plan life.busy] at mem
    obtain ⟨step, known, rfl⟩ := List.mem_map.mp mem
    exact life.prompt step known

/-- The plan of an update is a lifecycle. -/
theorem planFirmware_lifecycle (outcome : FirmwareOutcome) (retries retryInterval : Nat) :
    ∃ steps, planFirmware outcome retries retryInterval =
        steps.map (fun entry => (entry.1, .firmware entry.2)) ∧
      Lifecycle FirmwareLeads .idle .downloading outcome.verdict (attempts (outcome ≠ .success) retries) steps := by
  cases outcome with
  | success =>
    refine ⟨withDelays (repeatAttempt [.downloading, .downloaded, .installing, .installed] 0) 4 retryInterval,
      ?_, ?_⟩
    · rw [← withDelays_map]
      rfl
    · exact lifecycle_of_attempts [] [.downloading, .downloaded, .installing, .installed] 0 (map_withDelays _ _ _)
        delay_withDelays (by simp) rfl rfl (by simp) (by simp) (by simp) (by decide) (by simp)
  | downloadFailure =>
    refine ⟨withDelays (repeatAttempt [.downloading, .downloadFailed] retries) 2 retryInterval, ?_, ?_⟩
    · rw [← withDelays_map]
      rfl
    · exact lifecycle_of_attempts [] [.downloading, .downloadFailed] retries (map_withDelays _ _ _)
        delay_withDelays (by simp) rfl rfl (by simp [FirmwareOutcome.verdict]) (by simp) (by simp) (by decide)
        (by simp)
  | installationFailure | invalidSignature | installVerificationFailed =>
    refine ⟨withDelays (repeatAttempt [.downloading, .downloaded, .installing, .installationFailed] retries) 4
      retryInterval, ?_, ?_⟩
    · rw [← withDelays_map]
      rfl
    · exact lifecycle_of_attempts [] [.downloading, .downloaded, .installing, .installationFailed] retries
        (map_withDelays _ _ _) delay_withDelays (by simp) rfl rfl (by simp [FirmwareOutcome.verdict]) (by simp)
        (by simp) (by decide) (by simp)

/-- The attempt of a signed update, and whether it is made again after a failure. -/
def signedAttempt (installWait : Option Nat) : FirmwareOutcome → List SignedFirmwareStatus × Bool
  | .success => (installing installWait [.installRebooting, .installed], false)
  | .downloadFailure => ([.downloading, .downloadFailed], true)
  | .installationFailure => (installing installWait [.installationFailed], true)
  | .invalidSignature => ([.downloading, .downloaded, .invalidSignature], false)
  | .installVerificationFailed => (installing installWait [.installRebooting, .installVerificationFailed], false)

/-- What comes before the first attempt. -/
def scheduledFirst (retrieveWait : Option Nat) : List SignedFirmwareStatus :=
  if retrieveWait.isSome then [.downloadScheduled] else []

/-- Changing a delay changes no status. -/
theorem map_snd_modify (plan : List (Nat × SignedFirmwareStatus)) (i delay : Nat) :
    (plan.modify i fun entry => (delay, entry.2)).map (·.2) = plan.map (·.2) := by
  apply List.ext_getElem?
  intro j
  rw [List.getElem?_map, List.getElem?_map, List.getElem?_modify]
  cases plan[j]? with
  | none => rfl
  | some entry => by_cases same : i = j <;> simp [same]

private theorem map_planSigned (outcome : FirmwareOutcome) (retries retryInterval : Nat)
    (retrieveWait installWait : Option Nat) :
    (planSigned outcome retries retryInterval retrieveWait installWait).map (·.2) =
      scheduledFirst retrieveWait ++ repeatAttempt (signedAttempt installWait outcome).1
        (if (signedAttempt installWait outcome).2 then retries else 0) := by
  have delayed (plan : List (Nat × SignedFirmwareStatus)) (wait : Nat) :
      (plan.map fun entry => if entry.2 = .installing then (wait, entry.2) else entry).map (·.2) =
        plan.map (·.2) := by
    rw [List.map_map]
    apply List.map_congr_left
    intro entry mem
    by_cases install : entry.2 = .installing <;> simp [install]
  cases outcome <;> cases retrieveWait <;> cases installWait <;>
    simp only [planSigned, delayed, map_snd_modify, map_snd_mapIdx] <;> rfl

private theorem delay_modify {T : Type} {plan : List (Nat × T)} {i delay : Nat}
    (prompt : ∀ entry ∈ plan, entry.1 ≤ maxDelay)
    (short : delay ≤ maxDelay) : ∀ entry ∈ plan.modify i fun entry => (delay, entry.2), entry.1 ≤ maxDelay := by
  intro entry mem
  obtain ⟨j, found⟩ := List.mem_iff_getElem?.mp mem
  rw [List.getElem?_modify] at found
  cases old : plan[j]? with
  | none => simp [old] at found
  | some was =>
    by_cases same : i = j
    · obtain rfl : (delay, was.2) = entry := by simpa [old, same] using found
      exact short
    · obtain rfl : was = entry := by simpa [old, same] using found
      exact prompt was (List.mem_of_getElem? old)

private theorem delay_mapIdx {T : Type} (late : Nat → Bool) (retryInterval : Nat) (steps : List T) :
    ∀ entry ∈ steps.mapIdx fun index step => (if late index then min retryInterval maxDelay else stepDelay, step),
      entry.1 ≤ maxDelay := by
  intro entry mem
  obtain ⟨i, bound, rfl⟩ := List.mem_mapIdx.mp mem
  by_cases here : late i = true
  · simp [here]
  · simp [here, stepDelay, maxDelay]

private theorem delay_planSigned (outcome : FirmwareOutcome) (retries retryInterval : Nat)
    (retrieveWait installWait : Option Nat) :
    ∀ entry ∈ planSigned outcome retries retryInterval retrieveWait installWait, entry.1 ≤ maxDelay := by
  have delayed {plan : List (Nat × SignedFirmwareStatus)} (prompt : ∀ entry ∈ plan, entry.1 ≤ maxDelay) (wait : Nat) :
      ∀ entry ∈ plan.map fun entry => if entry.2 = .installing then (min wait maxDelay, entry.2) else entry,
        entry.1 ≤ maxDelay := by
    intro entry mem
    obtain ⟨was, known, rfl⟩ := List.mem_map.mp mem
    by_cases install : was.2 = .installing
    · simp [install]
    · simpa [install] using prompt was known
  have first (head len : Nat) (steps : List SignedFirmwareStatus) :=
    delay_mapIdx (fun index => decide (head ≤ index ∧ 0 < index - head ∧ (index - head) % len = 0)) retryInterval
      steps
  simp only [decide_eq_true_eq] at first
  cases retrieveWait with
  | none =>
    cases installWait with
    | none => cases outcome <;> exact first _ _ _
    | some wait => cases outcome <;> exact delayed (first _ _ _) wait
  | some retrieve =>
    have retrieved (head len : Nat) (steps : List SignedFirmwareStatus) :=
      delay_modify (i := head) (first head len steps) (min_le_right retrieve maxDelay)
    cases installWait with
    | none => cases outcome <;> exact retrieved _ _ _
    | some wait => cases outcome <;> exact delayed (retrieved _ _ _) wait

/-- An attempt walks from `Downloading` to the verdict, and may be made again where it is. -/
theorem signedAttempt_walks (installWait : Option Nat) (outcome : FirmwareOutcome) :
    ((signedAttempt installWait outcome).1.IsChain SignedLeads ∧
        (signedAttempt installWait outcome).1.head? = some .downloading ∧
        (signedAttempt installWait outcome).1.getLast? = some outcome.signedVerdict) ∧
      ((signedAttempt installWait outcome).2 = true → SignedLeads outcome.signedVerdict .downloading) ∧
      SignedFirmwareStatus.idle ∉ (signedAttempt installWait outcome).1 ∧
      (signedAttempt installWait outcome).1.count .downloading = 1 ∧
      (signedAttempt installWait outcome).1.count outcome.signedVerdict = 1 := by
  cases installWait <;> cases outcome <;>
    simp [signedAttempt, installing, FirmwareOutcome.signedVerdict]

/-- The plan of a signed update is a lifecycle. -/
theorem planSigned_lifecycle (outcome : FirmwareOutcome) (retries retryInterval : Nat)
    (retrieveWait installWait : Option Nat) :
    Lifecycle SignedLeads .idle .downloading outcome.signedVerdict
      (attempts (outcome = .downloadFailure ∨ outcome = .installationFailure) retries)
      (planSigned outcome retries retryInterval retrieveWait installWait) := by
  obtain ⟨⟨chain, starts, ends⟩, again, busy, once⟩ := signedAttempt_walks installWait outcome
  have enters : (SignedFirmwareStatus.idle :: scheduledFirst retrieveWait ++
      [SignedFirmwareStatus.downloading]).IsChain SignedLeads := by
    cases retrieveWait <;> simp [scheduledFirst]
  have before {status : SignedFirmwareStatus} (other : status ≠ .downloadScheduled) :
      status ∉ scheduledFirst retrieveWait := by
    cases retrieveWait <;> simp [scheduledFirst, other]
  have life := lifecycle_of_attempts (scheduledFirst retrieveWait) _ _
    (map_planSigned outcome retries retryInterval retrieveWait installWait)
    (delay_planSigned outcome retries retryInterval retrieveWait installWait) chain starts ends
    (fun pos => again (by by_contra none; simp [none] at pos)) enters
    (by simp [before, busy]) once ⟨before (by simp), before (by cases outcome <;> simp [FirmwareOutcome.signedVerdict])⟩
  have tries : min (if (signedAttempt installWait outcome).2 then retries else 0) maxRetries + 1 =
      attempts (outcome = .downloadFailure ∨ outcome = .installationFailure) retries := by
    cases outcome <;> simp [signedAttempt, attempts]
  rwa [tries] at life

/-- Every plan is a lifecycle of its kind, and ends as its outcome says. -/
structure PlansSound (retries retryInterval : Nat) : Prop where
  diagnostics : ∀ outcome, ∃ steps,
    planDiagnostics outcome retries retryInterval = steps.map (fun entry => (entry.1, .diagnostics entry.2)) ∧
      Lifecycle DiagnosticsLeads .idle .uploading outcome.verdict (attempts (outcome ≠ .success) retries) steps
  log : ∀ outcome, Lifecycle LogLeads .idle .uploading outcome.logVerdict (attempts (outcome ≠ .success) retries)
    (planLog outcome retries retryInterval)
  firmware : ∀ outcome, ∃ steps,
    planFirmware outcome retries retryInterval = steps.map (fun entry => (entry.1, .firmware entry.2)) ∧
      Lifecycle FirmwareLeads .idle .downloading outcome.verdict (attempts (outcome ≠ .success) retries) steps
  /-- A signature or a verification that fails is final. -/
  signed : ∀ outcome retrieveWait installWait,
    Lifecycle SignedLeads .idle .downloading outcome.signedVerdict
      (attempts (outcome = .downloadFailure ∨ outcome = .installationFailure) retries)
      (planSigned outcome retries retryInterval retrieveWait installWait)

/-- Whatever the request asks for, what is simulated is a legal upload or update, and it is over soon. -/
theorem plans_are_lifecycles (retries retryInterval : Nat) : PlansSound retries retryInterval where
  diagnostics outcome := planDiagnostics_lifecycle outcome retries retryInterval
  log outcome := planLog_lifecycle outcome retries retryInterval
  firmware outcome := planFirmware_lifecycle outcome retries retryInterval
  signed outcome := planSigned_lifecycle outcome retries retryInterval

end KirbyOcpp
