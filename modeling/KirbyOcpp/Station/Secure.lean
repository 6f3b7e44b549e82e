import KirbyOcpp.Station.Certificates
import KirbyOcpp.Station.ConfigRegistry

/-!
# Certificates and transport of the actor: `secure.rs`

The part of the actor that the security profiles work on: the configuration keys, the certificates and
keys, the link as far as a connection attempt goes, and the two files they are saved in. The rest of the
actor only shows as a wish to save (`markDirty`).

* A running attempt is the identity its task presents (`connecting`).
* The writer replaces the secrets file and the state file one after the other; `Disk` is what a crash
  leaves. Of the state file only the certificates are modelled.
* `adopted`, `established` and `newestWorked` are ghosts.
-/

namespace KirbyOcpp

open Config (ConfigRegistry ConfigurationStatus RegistryConfig)

/-- The part of `StationConfig` that concerns the transport. -/
structure TransportConfig where
  url : Text
  /-- `tls.cert_file`. -/
  certFile : Option Text := none
  /-- `tls.skip_verify`. -/
  skipVerify : Bool := false
deriving DecidableEq

/-- The content of the secrets file. -/
structure StationSecrets where
  authorizationKey : Option Text := none
  /-- Private key of the installed charge point certificate. -/
  chargePointKeyPem : Option Text := none
  /-- Private key of a `SignCertificate` request that has not been answered yet. -/
  pendingKeyPem : Option Text := none
  /-- Private key of the previous charge point certificate. -/
  previousChargePointKeyPem : Option Text := none
deriving DecidableEq

/-- A TLS client identity. -/
structure IdentityPem where
  chainPem : Text
  keyPem : Text
deriving DecidableEq

/-- Which stored charge point certificate a connection attempt presents. -/
inductive StoredIdentity where
  | none | current | previous
deriving DecidableEq, Repr

/-- Why a connection attempt failed. -/
inductive ConnectError where
  | invalidUrl (text : Text)
  | tls (text : Text)
  | tlsFile (path reason : Text)
  | network (text : Text)
  | handshake (text : Text)
  | httpStatus (status : Nat) (line : Text)
  | subprotocolMismatch (expected : Text)
  | timeout
deriving DecidableEq

/-- `WILDCARD_REFUSED`. -/
def wildcardRefused : Text := "wildcard Central System certificate refused".toList

/-- `str::contains`. -/
def Text.contains (text part : Text) : Bool := decide (part <:+: text)

/-- The fatal alerts about certificates. -/
def certificateAlerts : List Text :=
  ["BadCertificate".toList, "UnsupportedCertificate".toList, "CertificateRevoked".toList,
    "CertificateExpired".toList, "CertificateUnknown".toList, "UnknownCA".toList,
    "CertificateRequired".toList, "AccessDenied".toList]

/-- Whether a failed attempt looks like the server refusing our client certificate. -/
def isClientCertificateRefusal : ConnectError → Bool
  | .tls text | .handshake text | .network text =>
    certificateAlerts.any fun alert => text.contains ("received fatal alert: ".toList ++ alert)
  | _ => false

/-! ## Files -/

/-- The two files, as a crash leaves them. -/
structure Disk where
  secrets : StationSecrets := {}
  certs : CertificateStore := {}
deriving DecidableEq

/-- How far the blocking task of a write is. -/
inductive WriteStage where
  | saveSecrets | save
  /-- Its result is on its way to the actor. -/
  | done (ok : Bool)
deriving DecidableEq, Repr

/-- A write that was started, with the data it captured. -/
structure Write where
  secrets : Option StationSecrets
  certs : CertificateStore
  stage : WriteStage
deriving DecidableEq

/-- Where a graceful stop is. -/
inductive Closing where
  | running
  /-- The write in flight is awaited. -/
  | awaiting
  /-- The final write runs. -/
  | final
  | closed
deriving DecidableEq, Repr

/-! ## State -/

/-- The part of the actor that this file is about. -/
structure SecureActor where
  config : TransportConfig
  registry : Config.ConfigRegistry
  certs : CertificateStore := {}
  secrets : StationSecrets := {}
  useFallbackRoot : Bool := false
  usePreviousCert : Bool := false
  connectIdentity : StoredIdentity := .none
  /-- A connection is open. -/
  conn : Bool := false
  /-- The running attempt, with the identity it presents. -/
  connecting : Option (Option IdentityPem) := none
  generation : Nat := 0
  wanted : Bool := false
  store : Bool := true
  dirty : Bool := false
  queued : Bool := false
  secretsDirty : Bool := false
  inFlight : Option Write := none
  closing : Closing := .running
  disk : Disk := {}
  /-- Ghost: the pairs that were adopted, or were there at the start, latest first. -/
  adopted : List IdentityPem := []
  /-- Ghost: what the attempt presented that established a connection last. -/
  established : Option IdentityPem := none
  /-- Ghost: the certificate adopted last has established a connection. -/
  newestWorked : Bool := false
deriving DecidableEq

namespace SecureActor

/-- The current chain with its key. -/
def currentPair (a : SecureActor) : Option IdentityPem :=
  match a.certs.chargePointChain, a.secrets.chargePointKeyPem with
  | some chainPem, some keyPem => some { chainPem, keyPem }
  | _, _ => none

/-- The previous chain with its key. -/
def previousPair (a : SecureActor) : Option IdentityPem :=
  match a.certs.previousChargePointChain, a.secrets.previousChargePointKeyPem with
  | some chainPem, some keyPem => some { chainPem, keyPem }
  | _, _ => none

/-! ## Saving -/

/-- Something worth persisting changed. -/
def markDirty (a : SecureActor) : SecureActor := if a.store then { a with dirty := true } else a

/-- A secret changed. -/
def markSecretsDirty (a : SecureActor) : SecureActor := ({ a with secretsDirty := true } : SecureActor).markDirty

/-- Starts a write if needed. -/
def flushPersistence (a : SecureActor) : SecureActor :=
  if !a.store then a
  else if !a.dirty then a
  else match a.inFlight with
    | some _ => { a with queued := true }
    | none =>
      { a with
        dirty := false
        secretsDirty := false
        inFlight := some
          { secrets := if a.secretsDirty then some a.secrets else none
            certs := a.certs
            stage := if a.secretsDirty then .saveSecrets else .save } }

/-- Write now. -/
def flushNow (a : SecureActor) : SecureActor := a.markDirty.flushPersistence

/-- No write is in flight any more; after a failed one the data stays marked. -/
def noteSaved (a : SecureActor) (ok : Bool) : SecureActor :=
  if ok then { a with inFlight := none }
  else { a with inFlight := none, dirty := true, secretsDirty := true }

/-- The result of a write arrives. -/
def onSaved (a : SecureActor) (ok : Bool) : SecureActor :=
  if (a.noteSaved ok).queued then ({ a.noteSaved ok with queued := false } : SecureActor).flushPersistence
  else a.noteSaved ok

/-- The end of `finish_persistence`, once no write is in flight any more. -/
def startFinalWrite (a : SecureActor) (hadInFlight : Bool) : SecureActor :=
  let a := { a with inFlight := none }
  if !a.store then { a with closing := .closed }
  else if !(a.dirty || a.queued || hadInFlight || a.secretsDirty) then { a with closing := .closed }
  else
    let secrets := a.secretsDirty || hadInFlight
    { a with
      closing := .final
      dirty := false
      queued := false
      secretsDirty := false
      inFlight := some
        { secrets := if secrets then some a.secrets else none
          certs := a.certs
          stage := if secrets then .saveSecrets else .save } }

/-- What `write_atomic` came to: the file was replaced, with the directory synced or not, or nothing
happened. -/
inductive DiskEvent where
  | replaced (synced : Bool)
  | failed
deriving DecidableEq, Repr

/-- The blocking task of `write` goes on. -/
def writerStep (a : SecureActor) (write : Write) (event : DiskEvent) : SecureActor :=
  match write.stage, event with
  | .saveSecrets, .replaced synced =>
    { a with
      disk := { a.disk with secrets := write.secrets.getD {} }
      inFlight := some { write with stage := if synced then .save else .done false } }
  | .save, .replaced synced =>
    { a with
      disk := { a.disk with certs := write.certs }
      inFlight := some { write with stage := .done synced } }
  | .done _, _ => a
  | _, .failed => { a with inFlight := some { write with stage := .done false } }

/-! ## The security profile -/

/-- Whether a TLS client identity is available. -/
def hasClientIdentity (a : SecureActor) : Bool := a.config.certFile.isSome || a.currentPair.isSome

/-- The URL of the station is a `wss://` one. -/
def secureUrl (a : SecureActor) : Bool := a.config.url.toAsciiLowercase.startsWith "wss://".toList

/-- Transport rules for raising `SecurityProfile`; the error carries the reason. `urlPassword` tells
whether a URL carries a password. -/
def checkSecurityChange (urlPassword : Text → Bool) (a : SecureActor) (key value : Text) : Except String Unit :=
  if !key.eqIgnoreAsciiCase Config.Key.securityProfile then .ok ()
  else match value.parseU8 with
    | none => .ok ()
    | some new =>
      if 3 < new then .ok ()
      else
        let current := a.registry.securityProfile
        let downgrade := decide (current = 3) && decide (new = 2) && a.registry.allowSecurityProfileDowngrade
        if new < current ∧ downgrade = false then
          .error s!"the security profile cannot be lowered ({current} -> {new})"
        else if new = current then
          if 1 < new then .error s!"the security profile is already {current}" else .ok ()
        else if 2 ≤ new ∧ a.secureUrl = false then .error s!"profile {new} needs a wss:// URL"
        else if new = 3 ∧ a.hasClientIdentity = false then
          .error "profile 3 needs a client certificate (CertificateSigned or tls cert_file)"
        else if (new = 1 ∨ new = 2) ∧ urlPassword a.config.url = false ∧ a.registry.authorizationKey = none then
          .error s!"profile {new} needs an AuthorizationKey (Basic Auth password)"
        else .ok ()

/-- Side effects of an accepted change of a security key. -/
def onSecurityKeyChanged (a : SecureActor) (key : Text) : SecureActor :=
  if key = Config.Key.authorizationKey then
    ({ a with secrets := { a.secrets with authorizationKey := a.registry.authorizationKey } } :
      SecureActor).markSecretsDirty
  else a

/-- `apply_configuration_change`. -/
def applyConfigurationChange (urlPassword : Text → Bool) (a : SecureActor) (key value : Text) :
    SecureActor × ConfigurationStatus :=
  match a.checkSecurityChange urlPassword key value with
  | .error _ => (a, .rejected)
  | .ok () =>
    match a.registry.change key value with
    | (registry, .accepted) =>
      let canonical := ((registry.get key).map (·.key)).getD key
      ((({ a with registry } : SecureActor).onSecurityKeyChanged canonical).flushNow, .accepted)
    | (_, status) => (a, status)

/-- `SetConfiguration`: whether it succeeded. -/
def setConfiguration (urlPassword : Text → Bool) (a : SecureActor) (key value : Text) :
    SecureActor × Except String Unit :=
  match a.applyConfigurationChange urlPassword key value with
  | (a, .accepted) => (a, .ok ())
  | (a, .notSupported) => (a, .error "unknown key")
  | (a, _) => (a, .error "value rejected (read-only or invalid)")

/-! ## Certificates -/

/-- `InstallCertificate`. -/
def installCertificate (pki : Pki) (a : SecureActor) (kind : CertificateUse) (pem : Text) (now : Instant) :
    SecureActor × InstallCertificateStatus :=
  let maxLen := a.registry.number Config.Key.certificateStoreMaxLength
  let check := decide (a.registry.value Config.Key.additionalRootCertificateCheck = some "true".toList)
  match a.certs.install pki kind pem now maxLen check with
  | (certs, .accepted) =>
    if certs.roots ≠ a.certs.roots then
      (({ a with certs, useFallbackRoot := false } : SecureActor).flushNow, .accepted)
    else (a, .accepted)
  | (_, status) => (a, status)

/-- `DeleteCertificate`. With TLS in use the last Central System root must stay. -/
def deleteCertificate (pki : Pki) (a : SecureActor) (wanted : CertificateHashData) :
    SecureActor × DeleteCertificateStatus :=
  match a.certs.delete pki wanted (decide (2 ≤ a.registry.securityProfile)) with
  | (certs, .accepted) => (({ a with certs } : SecureActor).flushNow, .accepted)
  | (certs, status) => ({ a with certs }, status)

/-- The new chain with the pending key becomes the charge point certificate; the one it replaces is kept
as the previous one, unless one is still waiting. -/
def adoptSignedCertificate (a : SecureActor) (chain key : Text) : SecureActor :=
  let a := match a.certs.previousChargePointChain, a.currentPair with
    | none, some old =>
      { a with
        certs := { a.certs with previousChargePointChain := some old.chainPem }
        secrets := { a.secrets with previousChargePointKeyPem := some old.keyPem } }
    | _, _ => a
  { a with
    certs := { a.certs with chargePointChain := some chain.trim }
    secrets := { a.secrets with chargePointKeyPem := some key, pendingKeyPem := none }
    usePreviousCert := false
    adopted := { chainPem := chain.trim, keyPem := key } :: a.adopted
    newestWorked := false }

/-- `CertificateSigned`; whether the chain was accepted. -/
def certificateSigned (pki : Pki) (a : SecureActor) (chain : Text) (now : Instant) : SecureActor × Bool :=
  let maxSize := a.registry.number Config.Key.certificateSignedMaxChainSize
  match a.secrets.pendingKeyPem with
  | none => (a.markDirty, false)
  | some key =>
    match validateSignedChain pki chain key now maxSize with
    | .error _ => (a.markDirty, false)
    | .ok () => ((a.adoptSignedCertificate chain key).markSecretsDirty.flushNow, true)

/-- `send_sign_certificate`: the key waits for `CertificateSigned`. -/
def sendSignCertificate (a : SecureActor) (key : Text) : SecureActor :=
  ({ a with secrets := { a.secrets with pendingKeyPem := some key } } : SecureActor).markSecretsDirty

/-- Puts `previous` back after a failed `SignCertificate`. -/
def restorePendingKey (a : SecureActor) (key : Text) (previous : Option Text) : SecureActor :=
  if a.secrets.pendingKeyPem = some key then
    ({ a with secrets := { a.secrets with pendingKeyPem := previous } } : SecureActor).markSecretsDirty
  else a

/-- The new certificate works: the previous one is discarded. -/
def discardPrevious (a : SecureActor) : SecureActor :=
  { a with
    usePreviousCert := false
    certs := { a.certs with previousChargePointChain := none }
    secrets := { a.secrets with previousChargePointKeyPem := none } }

/-- The new certificate did not work: the previous one is the current one again. -/
def restorePrevious (a : SecureActor) : SecureActor :=
  { a with
    usePreviousCert := false
    certs := { a.certs with
      chargePointChain := a.certs.previousChargePointChain, previousChargePointChain := none }
    secrets := { a.secrets with
      chargePointKeyPem := a.secrets.previousChargePointKeyPem, previousChargePointKeyPem := none } }

/-- A connection with a stored client certificate succeeded. -/
def clientCertificateConnected (a : SecureActor) : SecureActor :=
  match a.connectIdentity, a.certs.previousChargePointChain.isSome with
  | .current, true => a.discardPrevious.markSecretsDirty.flushNow
  | .previous, true => a.restorePrevious.markDirty.markSecretsDirty.flushNow
  | _, _ => { a with usePreviousCert := false }

/-- Applies the security profile to an attempt: the stored identity it presents, if any, and the
additional trust anchors. -/
def applySecurityTransport (a : SecureActor) : Option IdentityPem × StoredIdentity × List Text :=
  let roots := if a.useFallbackRoot && a.certs.hasFallback then (a.certs.roots.filter (·.fallback)).map (·.pem)
    else a.certs.rootPems .centralSystemRootCertificate
  if a.registry.securityProfile = 3 ∧ a.config.certFile = none then
    match a.previousPair.filter fun _ => a.usePreviousCert, a.currentPair with
    | some pair, _ => (some pair, .previous, roots)
    | none, some pair => (some pair, .current, roots)
    | none, none => (none, .none, roots)
  else (none, .none, roots)

/-- The certificate of the server was refused, for another reason than a wildcard. -/
def isServerCertificateError : ConnectError → Bool
  | .tls text => text.contains "invalid peer certificate".toList && !text.contains wildcardRefused
  | _ => false

/-- What a failed attempt means for the choices of the next one. -/
def reportConnectFailure (a : SecureActor) (error : ConnectError) : SecureActor :=
  { a with
    useFallbackRoot :=
      if isServerCertificateError error && a.certs.hasFallback then !a.useFallbackRoot else a.useFallbackRoot
    usePreviousCert :=
      if decide (a.connectIdentity ≠ .none) && a.certs.previousChargePointChain.isSome &&
          isClientCertificateRefusal error then !a.usePreviousCert
      else a.usePreviousCert }

/-- A TLS connection was made: with the new Central System root the fallback is no longer needed. -/
def onTlsConnected (a : SecureActor) : SecureActor :=
  if !a.useFallbackRoot && !(a.certs.rootPems .centralSystemRootCertificate).isEmpty && a.certs.hasFallback then
    ({ a with useFallbackRoot := false, certs := a.certs.dropFallback.1 } : SecureActor).flushNow
  else { a with useFallbackRoot := false }

/-! ## The link -/

/-- `start_connect`. -/
def startConnect (a : SecureActor) : SecureActor :=
  let (pair, identity, _) := a.applySecurityTransport
  { a with generation := a.generation + 1, connectIdentity := identity, connecting := some pair }

/-- `link_down`. -/
def linkDown (a : SecureActor) : SecureActor := { a with generation := a.generation + 1, conn := false }

/-- `Connect`. -/
def connect (a : SecureActor) : SecureActor :=
  let a := { a with wanted := true }
  if a.conn || a.connecting.isSome then a else a.startConnect

/-- `Disconnect`. -/
def disconnect (a : SecureActor) : SecureActor :=
  ({ a with wanted := false, connecting := none } : SecureActor).linkDown

/-- `on_reconnect_timer`. -/
def onReconnectTimer (a : SecureActor) : SecureActor :=
  if !a.wanted || a.conn || a.connecting.isSome then a else a.startConnect

/-- `reconnect_for_hard_reset`, once the wait is over. -/
def onHardResetTimer (a : SecureActor) : SecureActor :=
  if !a.conn then a
  else ({ a.linkDown with wanted := true, connecting := none } : SecureActor).startConnect

/-- Ghost: the attempt that presented `pair` has established a connection. -/
def noteEstablished (a : SecureActor) (pair : Option IdentityPem) : SecureActor :=
  { a with
    established := if pair.isSome then pair else a.established
    newestWorked := a.newestWorked || (decide (a.connectIdentity = .current) && pair.isSome) }

/-- `on_connect_result`. An attempt has one result. -/
def onConnectResult (a : SecureActor) (generation : Nat) (result : Except ConnectError Unit) : SecureActor :=
  if generation ≠ a.generation then a
  else match a.connecting with
    | none => a
    | some pair =>
      let a := { a with connecting := none }
      match result with
      | .ok () =>
        let a := ({ a with conn := true } : SecureActor).noteEstablished pair
        let a := if a.secureUrl && !a.config.skipVerify then a.onTlsConnected else a
        a.clientCertificateConnected
      | .error error => a.reportConnectFailure error

/-! ## One step -/

/-- What happens to the actor, and what its writer comes to. -/
inductive SecureInput where
  | connect
  | disconnect
  | reconnectTimer
  | hardResetTimer
  | connectResult (generation : Nat) (result : Except ConnectError Unit)
  /-- The connection was closed by the other side. -/
  | closed
  | certificateSigned (chain : Text) (now : Instant)
  | sendSignCertificate (key : Text)
  | signCertificateFailed (key : Text) (previous : Option Text)
  | installCertificate (kind : CertificateUse) (pem : Text) (now : Instant)
  | deleteCertificate (wanted : CertificateHashData)
  | changeConfiguration (key value : Text)
  | setConfiguration (key value : Text)
  /-- Another part of the actor has something to save, now or soon. -/
  | markDirty
  | flushNow
  | flushTimer
  | saved (ok : Bool)
  | writer (event : DiskEvent)
  /-- A graceful stop: the link goes, the write in flight is awaited. -/
  | shutdown
  /-- The awaited write is done. -/
  | finish

/-- A running actor takes one input; a CALL of the CSMS needs an open connection. -/
def runningStep (pki : Pki) (urlPassword : Text → Bool) (a : SecureActor) : SecureInput → SecureActor
  | .connect => a.connect
  | .disconnect => a.disconnect
  | .reconnectTimer => a.onReconnectTimer
  | .hardResetTimer => a.onHardResetTimer
  | .connectResult generation result => a.onConnectResult generation result
  | .closed => if a.conn then a.linkDown else a
  | .certificateSigned chain now => if a.conn then (a.certificateSigned pki chain now).1 else a
  | .sendSignCertificate key => if a.conn then a.sendSignCertificate key else a
  | .signCertificateFailed key previous => a.restorePendingKey key previous
  | .installCertificate kind pem now => if a.conn then (a.installCertificate pki kind pem now).1 else a
  | .deleteCertificate wanted => if a.conn then (a.deleteCertificate pki wanted).1 else a
  | .changeConfiguration key value =>
    if a.conn then (a.applyConfigurationChange urlPassword key value).1 else a
  | .setConfiguration key value => (a.setConfiguration urlPassword key value).1
  | .markDirty => a.markDirty
  | .flushNow => a.flushNow
  | .flushTimer => a.flushPersistence
  | .saved ok =>
    match a.inFlight with
    | some { stage := .done result, .. } => if ok = result then a.onSaved ok else a
    | _ => a
  | .shutdown =>
    { a with
      wanted := false, connecting := none, conn := false, generation := a.generation + 1, closing := .awaiting }
  | .writer _ | .finish => a

/-- The final write has ended. -/
def finalDone (a : SecureActor) : Bool :=
  decide (a.closing = .final) && a.inFlight.any fun w => decide (w.stage = .done true ∨ w.stage = .done false)

/-- One input, whatever the actor is doing. -/
def step (pki : Pki) (urlPassword : Text → Bool) (a : SecureActor) (input : SecureInput) : SecureActor :=
  match a.closing, input with
  | _, .writer event =>
    match a.inFlight with
    | none => a
    | some write =>
      let a := a.writerStep write event
      if a.finalDone then { a with closing := .closed } else a
  | .awaiting, .finish =>
    match a.inFlight with
    | none => a.startFinalWrite false
    | some { stage := .done _, .. } => a.startFinalWrite true
    | some _ => a
  | .running, input => a.runningStep pki urlPassword input
  | _, _ => a

/-- The actor after the inputs. -/
def run (pki : Pki) (urlPassword : Text → Bool) (a : SecureActor) (inputs : List SecureInput) : SecureActor :=
  inputs.foldl (step pki urlPassword) a

end SecureActor

end KirbyOcpp
