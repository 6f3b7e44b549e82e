import KirbyOcpp.Csms.State
import KirbyOcpp.Station.Certificates

/-!
# Simulated uploads and firmware updates: `maintenance.rs`, `handlers/maintenance.rs`

`GetDiagnostics`, `GetLog`, `UpdateFirmware` and `SignedUpdateFirmware` are answered at once. What they would do
is a plan of status reports, which a timer of their own sends one by one. A `Job` is one plan with its timer and
with the status that the station shows.

Times and delays are nanoseconds. The log lines of the handlers are left out; nothing reads them.
-/

namespace KirbyOcpp

open Csms (DiagnosticsStatus FirmwareStatus UploadLogStatus SignedFirmwareStatus)

inductive DiagnosticsOutcome where
  | success | uploadFailure
deriving DecidableEq, Repr

inductive FirmwareOutcome where
  | success | downloadFailure | installationFailure
  /-- `SignedUpdateFirmware` only. -/
  | invalidSignature
  /-- `SignedUpdateFirmware` only. -/
  | installVerificationFailed
deriving DecidableEq, Repr

inductive LogStatus where
  | accepted | rejected | acceptedCanceled
deriving DecidableEq, Repr

inductive UpdateFirmwareStatus where
  | accepted | rejected | acceptedCanceled | invalidCertificate
deriving DecidableEq, Repr

inductive LogType where
  | diagnosticsLog | securityLog
deriving DecidableEq, Repr

/-! ## Plans -/

namespace Maintenance

/-- Delay between two simulated steps. -/
def stepDelay : Nat := 100000000

/-- Upper bound of any simulated delay. -/
def maxDelay : Nat := 1000000000

/-- Upper bound of simulated retries. -/
def maxRetries : Nat := 5

end Maintenance

open Maintenance

/-- One simulated status report. -/
inductive MaintenanceStep where
  | diagnostics (status : DiagnosticsStatus)
  | firmware (status : FirmwareStatus)
deriving DecidableEq

/-- `repeat`. -/
def repeatAttempt {T : Type} (attempt : List T) (retries : Nat) : List T :=
  (List.replicate (min retries maxRetries + 1) attempt).flatten

/-- Each retry waits `retryInterval`, every other step `stepDelay`. -/
def withDelays {T : Type} (steps : List T) (attemptLen retryInterval : Nat) : List (Nat × T) :=
  steps.mapIdx fun index step =>
    (if 0 < index ∧ index % attemptLen = 0 then min retryInterval maxDelay else stepDelay, step)

/-- The status reports of a simulated diagnostics upload. -/
def planDiagnostics (outcome : DiagnosticsOutcome) (retries retryInterval : Nat) : List (Nat × MaintenanceStep) :=
  let (attempt, retries) : List DiagnosticsStatus × Nat := match outcome with
    | .success => ([.uploading, .uploaded], 0)
    | .uploadFailure => ([.uploading, .uploadFailed], retries)
  withDelays ((repeatAttempt attempt retries).map .diagnostics) attempt.length retryInterval

/-- The diagnostics plan in the spelling of `LogStatusNotification`. -/
def planLog (outcome : DiagnosticsOutcome) (retries retryInterval : Nat) : List (Nat × UploadLogStatus) :=
  (planDiagnostics outcome retries retryInterval).filterMap fun
    | (delay, .diagnostics .uploading) => some (delay, .uploading)
    | (delay, .diagnostics .uploaded) => some (delay, .uploaded)
    | (delay, .diagnostics .uploadFailed) => some (delay, .uploadFailure)
    | _ => none

/-- The attempt of a signed update that gets as far as the installation, and ends with `last`. -/
def installing (installWait : Option Nat) (last : List SignedFirmwareStatus) : List SignedFirmwareStatus :=
  [.downloading, .downloaded, .signatureVerified] ++ (if installWait.isSome then [.installScheduled] else []) ++
    [.installing] ++ last

/-- The status reports of a simulated `SignedUpdateFirmware`. -/
def planSigned (outcome : FirmwareOutcome) (retries retryInterval : Nat) (retrieveWait installWait : Option Nat) :
    List (Nat × SignedFirmwareStatus) :=
  let (attempt, retries) : List SignedFirmwareStatus × Nat := match outcome with
    | .success => (installing installWait [.installRebooting, .installed], 0)
    | .downloadFailure => ([.downloading, .downloadFailed], retries)
    | .installationFailure => (installing installWait [.installationFailed], retries)
    | .invalidSignature => ([.downloading, .downloaded, .invalidSignature], 0)
    | .installVerificationFailed => (installing installWait [.installRebooting, .installVerificationFailed], 0)
  let scheduled : List SignedFirmwareStatus := if retrieveWait.isSome then [.downloadScheduled] else []
  let head := scheduled.length
  let steps := scheduled ++ repeatAttempt attempt retries
  let plan := steps.mapIdx fun index status =>
    (if head ≤ index ∧ 0 < index - head ∧ (index - head) % attempt.length = 0 then min retryInterval maxDelay
      else stepDelay, status)
  let plan := match retrieveWait with
    | some wait => plan.modify head fun entry => (min wait maxDelay, entry.2)
    | none => plan
  match installWait with
  | some wait => plan.map fun entry => if entry.2 = .installing then (min wait maxDelay, entry.2) else entry
  | none => plan

/-- The status reports of a simulated firmware update. -/
def planFirmware (outcome : FirmwareOutcome) (retries retryInterval : Nat) : List (Nat × MaintenanceStep) :=
  let (attempt, retries) : List FirmwareStatus × Nat := match outcome with
    | .success => ([.downloading, .downloaded, .installing, .installed], 0)
    | .downloadFailure => ([.downloading, .downloadFailed], retries)
    | .installationFailure | .invalidSignature | .installVerificationFailed =>
      ([.downloading, .downloaded, .installing, .installationFailed], retries)
  withDelays ((repeatAttempt attempt retries).map .firmware) attempt.length retryInterval

/-! ## One plan that is played -/

/-- What is left of a plan, the status shown, and the delay of the timer if it is armed. -/
structure Job (P S : Type) where
  plan : List (Nat × P) := []
  status : S
  armed : Option Nat := none

namespace Job

variable {P S : Type}

/-- The plan from now on. The first step waits for `delay`, or as the plan says. -/
def start (job : Job P S) (plan : List (Nat × P)) (delay : Option Nat) : Job P S :=
  match plan with
  | [] => { job with plan := [] }
  | first :: _ => { job with plan, armed := some (delay.getD first.1) }

/-- Drops the remaining steps. A status that was only an intermediate one goes back to `idle`. -/
def cancel (job : Job P S) (idle : S) : Job P S :=
  { plan := [], status := if job.plan.isEmpty then job.status else idle, armed := none }

/-- The timer has fired: takes the first step, and arms the timer for the next one. -/
def tick (job : Job P S) (read : P → Option S) : Job P S × Option S :=
  match job.plan with
  | [] => ({ job with armed := none }, none)
  | (_, step) :: plan =>
    ({ plan, status := (read step).getD job.status, armed := plan.head?.map (·.1) }, read step)

end Job

/-! ## Messages -/

/-- A status report and the `requestId` that it carries. -/
inductive Report where
  | diagnostics (status : DiagnosticsStatus)
  | firmware (status : FirmwareStatus)
  | log (status : UploadLogStatus) (requestId : Option Int)
  | signed (status : SignedFirmwareStatus) (requestId : Option Int)
deriving DecidableEq

/-- The answer of a handler. -/
inductive MaintenanceReply where
  | diagnostics (fileName : String)
  | log (status : LogStatus) (filename : Option String)
  | firmware
  | signed (status : UpdateFirmwareStatus)
  | trigger (accepted : Bool)
deriving DecidableEq

inductive MaintenanceOutput where
  | respond (reply : MaintenanceReply)
  /-- A report of a plan. -/
  | told (report : Report)
  /-- A report that the CSMS or the user asked for. -/
  | asked (origin : Origin) (report : Report)
  | securityEvent (kind : String) (info : Option String)
deriving DecidableEq

structure GetDiagnosticsRequest where
  retries : Option Int
  retryInterval : Option Int

structure GetLogRequest where
  requestId : Int
  remoteLocation : String
  logType : LogType
  retries : Option Int
  retryInterval : Option Int

structure UpdateFirmwareRequest where
  retries : Option Int
  retryInterval : Option Int
  retrieveDate : Instant

structure SignedUpdateFirmwareRequest where
  requestId : Int
  location : String
  signingCertificate : Text
  retrieveDateTime : Instant
  installDateTime : Option Instant
  retries : Option Int
  retryInterval : Option Int

/-! ## The handlers -/

structure ParsedUrl where
  scheme : String
  host : Option String

/-- What the handlers read and never change. -/
structure MaintenanceEnv where
  /-- `url::Url::parse`. -/
  parseUrl : String → Option ParsedUrl
  pki : Pki
  /-- The subject of a certificate as a text. -/
  subject : ParsedCert → String
  /-- `format("%Y%m%dT%H%M%SZ")`. -/
  stamp : Instant → String
  chargePointId : String

/-- The part of the actor that simulates maintenance, with its part of the shown state. -/
structure Maintenance where
  diagnosticsOutcome : DiagnosticsOutcome := .success
  firmwareOutcome : FirmwareOutcome := .success
  diagnostics : Job MaintenanceStep DiagnosticsStatus := { status := .idle }
  firmware : Job MaintenanceStep FirmwareStatus := { status := .idle }
  log : Job UploadLogStatus UploadLogStatus := { status := .idle }
  logRequestId : Option Int := none
  signed : Job SignedFirmwareStatus SignedFirmwareStatus := { status := .idle }
  signedRequestId : Option Int := none
  /-- The latest firmware update was a signed one. -/
  lastFirmwareSigned : Bool := false
  /-- Kept by other handlers. -/
  certs : CertificateStore := {}
  registration : Option RegistrationStatus := none

/-- An `i32` that counts something. -/
def nonNegative (value : Option Int) : Nat := (value.getD 0).toNat

/-- Seconds of an `i32`, in nanoseconds. -/
def intervalOf (value : Option Int) : Nat := nonNegative value * 1000000000

/-- An absolute URL with a host and one of five schemes. -/
def validLogLocation (env : MaintenanceEnv) (location : String) : Bool :=
  match env.parseUrl location with
  | none => false
  | some url => ["ftp", "ftps", "http", "https", "sftp"].contains url.scheme && url.host.isSome

/-- `chains_to_manufacturer_root`. -/
def CertificateStore.chainsToManufacturerRoot (pki : Pki) (store : CertificateStore) (chain : List ParsedCert) :
    Option Bool :=
  let roots := ((store.parsedRoots pki).filter (·.1 = .manufacturerRootCertificate)).map (·.2)
  if roots.isEmpty then none
  else some (chain.any fun cert => roots.any fun root =>
    cert.der == root.der || cert.issuerRaw == root.subjectRaw)

namespace Maintenance

/-- `check_signing_certificate`: what is wrong with the signing certificate. -/
def checkSigningCertificate (env : MaintenanceEnv) (s : Maintenance) (pem : Text) (now : Instant) :
    Except String Unit :=
  match parsePemChain env.pki pem with
  | .error reason => .error reason
  | .ok chain =>
    match chain.find? fun cert => !cert.validAt now with
    | some bad => .error (env.subject bad ++ " is expired or not yet valid")
    | none =>
      if s.certs.chainsToManufacturerRoot env.pki chain = some false then
        .error "does not chain to an installed manufacturer root"
      else .ok ()

def getDiagnostics (env : MaintenanceEnv) (request : GetDiagnosticsRequest) (now : Instant) (s : Maintenance) :
    Maintenance × List MaintenanceOutput :=
  let fileName := "diagnostics-" ++ env.chargePointId ++ "-" ++ env.stamp now ++ ".log"
  let plan := planDiagnostics s.diagnosticsOutcome (nonNegative request.retries) (intervalOf request.retryInterval)
  ({ s with diagnostics := s.diagnostics.start plan none }, [.respond (.diagnostics fileName)])

/-- A new request while an upload runs cancels it. -/
def getLog (env : MaintenanceEnv) (request : GetLogRequest) (now : Instant) (s : Maintenance) :
    Maintenance × List MaintenanceOutput :=
  if !validLogLocation env request.remoteLocation then (s, [.respond (.log .rejected none)])
  else
    let label := match request.logType with
      | .diagnosticsLog => "diagnostics-log"
      | .securityLog => "security-log"
    let filename := label ++ "-" ++ env.chargePointId ++ "-" ++ env.stamp now ++ ".log"
    let plan := planLog s.diagnosticsOutcome (nonNegative request.retries) (intervalOf request.retryInterval)
    let idle : Job _ UploadLogStatus := { s.log.cancel .idle with status := .idle }
    ({ s with log := idle.start plan none, logRequestId := some request.requestId },
      [.respond (.log (if s.log.plan.isEmpty then .accepted else .acceptedCanceled) (some filename))])

def updateFirmware (request : UpdateFirmwareRequest) (now : Instant) (s : Maintenance) :
    Maintenance × List MaintenanceOutput :=
  let plan := planFirmware s.firmwareOutcome (nonNegative request.retries) (intervalOf request.retryInterval)
  let wait := min (request.retrieveDate - now).toNat maxDelay
  ({ s with firmware := s.firmware.start plan (some wait), lastFirmwareSigned := false }, [.respond .firmware])

/-- How long it is until `time`, if that is not over. -/
def untilTime (time now : Instant) : Option Nat := if now < time then some (time - now).toNat else none

/-- A new request while a signed update runs cancels it. -/
def signedUpdateFirmware (env : MaintenanceEnv) (request : SignedUpdateFirmwareRequest) (now : Instant)
    (s : Maintenance) : Maintenance × List MaintenanceOutput :=
  if !validLogLocation env request.location then (s, [.respond (.signed .rejected)])
  else match s.checkSigningCertificate env request.signingCertificate now with
    | .error reason =>
      (s, [.securityEvent "InvalidFirmwareSigningCertificate" (some reason),
        .respond (.signed .invalidCertificate)])
    | .ok () =>
      let plan := planSigned s.firmwareOutcome (nonNegative request.retries) (intervalOf request.retryInterval)
        (untilTime request.retrieveDateTime now) (request.installDateTime.bind fun time => untilTime time now)
      let idle : Job _ SignedFirmwareStatus := { s.signed.cancel .idle with status := .idle }
      ({ s with
          signed := idle.start plan none
          signedRequestId := some request.requestId
          lastFirmwareSigned := true },
        [.respond (.signed (if s.signed.plan.isEmpty then .accepted else .acceptedCanceled))])

/-- The `requestId` of a log status. -/
def logReport (s : Maintenance) (status : UploadLogStatus) : Report :=
  .log status (if status = .idle then none else s.logRequestId)

/-- The `requestId` of a status of a signed update. -/
def signedReport (s : Maintenance) (status : SignedFirmwareStatus) : Report :=
  .signed status (if status = .idle then none else s.signedRequestId)

def readDiagnostics : MaintenanceStep → Option DiagnosticsStatus
  | .diagnostics status => some status
  | .firmware _ => none

def readFirmware : MaintenanceStep → Option FirmwareStatus
  | .firmware status => some status
  | .diagnostics _ => none

def onDiagnosticsTimer (s : Maintenance) : Maintenance × List MaintenanceOutput :=
  let (job, status) := s.diagnostics.tick readDiagnostics
  ({ s with diagnostics := job }, (status.map fun status => .told (.diagnostics status)).toList)

def onFirmwareTimer (s : Maintenance) : Maintenance × List MaintenanceOutput :=
  let (job, status) := s.firmware.tick readFirmware
  ({ s with firmware := job }, (status.map fun status => .told (.firmware status)).toList)

def onLogTimer (s : Maintenance) : Maintenance × List MaintenanceOutput :=
  let (job, status) := s.log.tick some
  ({ s with log := job }, (status.map fun status => .told (s.logReport status)).toList)

/-- The security event of a status of a signed update. -/
def signedEvents (s : Maintenance) : SignedFirmwareStatus → List MaintenanceOutput
  | .invalidSignature =>
    [.securityEvent "InvalidFirmwareSignature" (s.signedRequestId.map fun id => "requestId " ++ toString id)]
  | .installed => [.securityEvent "FirmwareUpdated" none]
  | _ => []

def onSignedFirmwareTimer (s : Maintenance) : Maintenance × List MaintenanceOutput :=
  let (job, status) := s.signed.tick some
  ({ s with signed := job },
    match status with
    | some status => .told (s.signedReport status) :: s.signedEvents status
    | none => [])

/-- `cancel_maintenance`, `cancel_log_upload` and `cancel_signed_firmware`: the link is down, or a reset. -/
def cancelAll (s : Maintenance) : Maintenance :=
  { s with
    diagnostics := s.diagnostics.cancel .idle
    firmware := s.firmware.cancel .idle
    log := s.log.cancel .idle
    signed := s.signed.cancel .idle }

/-! ## Triggers -/

/-- What a trigger asks for, of the messages that report maintenance. -/
inductive Trigger where
  | diagnosticsStatusNotification
  | firmwareStatusNotification
  /-- `FirmwareStatusNotification` of an `ExtendedTriggerMessage`. -/
  | extendedFirmwareStatusNotification
  /-- `LogStatusNotification` of an `ExtendedTriggerMessage`. -/
  | logStatusNotification
deriving DecidableEq

/-- `decide_for`, for a message that is neither a boot nor about a connector. -/
def decideFor (s : Maintenance) : Bool :=
  match s.registration with
  | some .accepted | some .pending => true
  | _ => false

/-- The report that a trigger starts: the current status. -/
def current (s : Maintenance) : Trigger → Report
  | .diagnosticsStatusNotification => .diagnostics s.diagnostics.status
  | .firmwareStatusNotification => .firmware s.firmware.status
  | .extendedFirmwareStatusNotification =>
    if s.lastFirmwareSigned then s.signedReport s.signed.status else .firmware s.firmware.status
  | .logStatusNotification => s.logReport (if s.log.plan.isEmpty then .idle else .uploading)

def triggerMessage (trigger : Trigger) (s : Maintenance) : List MaintenanceOutput :=
  .respond (.trigger s.decideFor) :: if s.decideFor then [.asked .triggered (s.current trigger)] else []

/-! ## Runs -/

/-- The timers of the jobs. -/
inductive Kind where
  | diagnostics | firmware | log | signed
deriving DecidableEq

inductive Input where
  | getDiagnostics (request : GetDiagnosticsRequest) (now : Instant)
  | getLog (request : GetLogRequest) (now : Instant)
  | updateFirmware (request : UpdateFirmwareRequest) (now : Instant)
  | signedUpdateFirmware (request : SignedUpdateFirmwareRequest) (now : Instant)
  | triggerMessage (trigger : Trigger)
  | timer (kind : Kind)
  /-- The connection is lost, or the station is reset. -/
  | cancel
  | setDiagnosticsOutcome (outcome : DiagnosticsOutcome)
  | setFirmwareOutcome (outcome : FirmwareOutcome)
  /-- The user sends a status of his own. -/
  | diagnosticsStatusNotification (status : DiagnosticsStatus)
  | firmwareStatusNotification (status : FirmwareStatus)
  /-- Another handler changed the certificates. -/
  | certificates (store : CertificateStore)
  | registration (status : Option RegistrationStatus)

/-- The delay for which the timer of a job is armed. -/
def armed (s : Maintenance) : Kind → Option Nat
  | .diagnostics => s.diagnostics.armed
  | .firmware => s.firmware.armed
  | .log => s.log.armed
  | .signed => s.signed.armed

def onTimer (s : Maintenance) : Kind → Maintenance × List MaintenanceOutput
  | .diagnostics => s.onDiagnosticsTimer
  | .firmware => s.onFirmwareTimer
  | .log => s.onLogTimer
  | .signed => s.onSignedFirmwareTimer

/-- One input. A timer that is not armed does not fire. -/
def step (env : MaintenanceEnv) (s : Maintenance) : Input → Maintenance × List MaintenanceOutput
  | .getDiagnostics request now => s.getDiagnostics env request now
  | .getLog request now => s.getLog env request now
  | .updateFirmware request now => s.updateFirmware request now
  | .signedUpdateFirmware request now => s.signedUpdateFirmware env request now
  | .triggerMessage trigger => (s, s.triggerMessage trigger)
  | .timer kind => if (s.armed kind).isSome then s.onTimer kind else (s, [])
  | .cancel => (s.cancelAll, [])
  | .setDiagnosticsOutcome outcome => ({ s with diagnosticsOutcome := outcome }, [])
  | .setFirmwareOutcome outcome => ({ s with firmwareOutcome := outcome }, [])
  | .diagnosticsStatusNotification status =>
    ({ s with diagnostics := { s.diagnostics with status } }, [.asked .station (.diagnostics status)])
  | .firmwareStatusNotification status =>
    ({ s with firmware := { s.firmware with status } }, [.asked .station (.firmware status)])
  | .certificates store => ({ s with certs := store }, [])
  | .registration status => ({ s with registration := status }, [])

def run (env : MaintenanceEnv) (inputs : List Input) (s : Maintenance) : Maintenance :=
  inputs.foldl (fun s input => (s.step env input).1) s

/-- What a run sends, in order. -/
def outputs (env : MaintenanceEnv) : List Input → Maintenance → List MaintenanceOutput
  | [], _ => []
  | input :: inputs, s => (s.step env input).2 ++ outputs env inputs (s.step env input).1

end Maintenance

end KirbyOcpp
