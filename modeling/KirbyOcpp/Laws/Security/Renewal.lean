import KirbyOcpp.Data.Rotation
import KirbyOcpp.Laws.Security.Saving
import KirbyOcpp.Laws.Security.CertificateStore

/-!
# Renewing the client certificate never loses the one that works

Under profile 3 the actor's chains and keys are a `Rotation` of identities (`Shows`): every step of the
actor is a path of it (`step_rotation`). Adoptions come over an open connection, attempts run without one,
so an attempt still presents a stored pair when it ends.
-/

namespace KirbyOcpp.SecureActor

open Relation Rotation

variable {pki : Pki} {urlPassword : Text → Bool} {a b : SecureActor} {s : Rotation IdentityPem}

/-- The actor holds the credentials of the rotation. -/
structure Shows (a : SecureActor) (s : Rotation IdentityPem) : Prop where
  noFiles : a.config.certFile = none
  chain : a.certs.chargePointChain = some s.current.chainPem
  key : a.secrets.chargePointKeyPem = some s.current.keyPem
  previousChain : a.certs.previousChargePointChain = s.previous.map (·.chainPem)
  previousKey : a.secrets.previousChargePointKeyPem = s.previous.map (·.keyPem)
  connecting : a.connecting = s.attempt.map fun running => some running.2
  identity : ∀ viaPrevious p, s.attempt = some (viaPrevious, p) →
    a.connectIdentity = if viaPrevious then .previous else .current
  conn : a.conn = s.linked
  established : a.established = s.working
  newestWorked : a.newestWorked = s.newestWorked
  adopted : a.adopted = s.adopted

namespace Shows

theorem currentPair (shows : Shows a s) : a.currentPair = some s.current := by
  unfold SecureActor.currentPair
  rw [shows.chain, shows.key]

theorem previousPair (shows : Shows a s) : a.previousPair = s.previous := by
  unfold SecureActor.previousPair
  rw [shows.previousChain, shows.previousKey]
  cases s.previous <;> rfl

/-- Saving does not touch the credentials. -/
theorem saving (shows : Shows a s) (h : Saving a b) : Shows b s := by
  rw [h]
  exact { shows with }

/-- Other roots do not concern the credentials. -/
theorem roots (shows : Shows a s) {certs : CertificateStore} (chain : certs.chargePointChain = a.certs.chargePointChain)
    (previous : certs.previousChargePointChain = a.certs.previousChargePointChain) : Shows { a with certs } s :=
  { shows with chain := chain.trans shows.chain, previousChain := previous.trans shows.previousChain }

end Shows

/-! ## Operations -/

/-- An attempt without a connection presents one of the stored pairs. -/
theorem startConnect_rotation (shows : Shows a s) (tls : a.registry.securityProfile = 3) (down : a.conn = false)
    (idle : a.connecting = none) :
    ∃ s', ReflTransGen Trans s s' ∧ Shows a.startConnect s' := by
  have noAttempt : s.attempt = none := by
    have h := shows.connecting
    rw [idle] at h
    cases eq : s.attempt with
    | none => rfl
    | some running => simp [eq] at h
  refine ⟨_, .single (.start s a.usePreviousCert noAttempt (shows.conn ▸ down)), ?_⟩
  have transport : a.applySecurityTransport.1 = some (s.chosen a.usePreviousCert).2 ∧
      a.applySecurityTransport.2.1 = if (s.chosen a.usePreviousCert).1 then .previous else .current := by
    unfold applySecurityTransport
    rw [if_pos ⟨tls, shows.noFiles⟩, shows.previousPair, shows.currentPair]
    unfold Rotation.chosen
    cases s.previous with
    | none => exact ⟨rfl, rfl⟩
    | some p => cases a.usePreviousCert <;> exact ⟨rfl, rfl⟩
  unfold startConnect
  exact { shows with
    connecting := congrArg some transport.1
    identity := fun viaPrevious p running => by
      have running : some (s.chosen a.usePreviousCert) = some (viaPrevious, p) := running
      have h := transport.2
      rw [Option.some.inj running] at h
      exact h }

theorem adoptSignedCertificate_rotation (shows : Shows a s) (linked : a.conn = true) (chain key : Text) :
    ∃ s', ReflTransGen Trans s s' ∧ Shows (a.adoptSignedCertificate chain key) s' := by
  refine ⟨_, .single (.adopt s { chainPem := chain.trim, keyPem := key } (shows.conn ▸ linked)), ?_⟩
  have previousChain := shows.previousChain
  have previousKey := shows.previousKey
  unfold adoptSignedCertificate
  rw [shows.currentPair]
  cases kept : s.previous with
  | none =>
    rw [kept] at previousChain previousKey
    rw [previousChain]
    exact { shows with
      chain := rfl, key := rfl, previousChain := rfl, previousKey := rfl
      newestWorked := rfl, adopted := congrArg _ shows.adopted }
  | some p =>
    rw [kept] at previousChain previousKey
    rw [previousChain]
    exact { shows with
      chain := rfl, key := rfl, previousChain := previousChain, previousKey := previousKey
      newestWorked := rfl, adopted := congrArg _ shows.adopted }

theorem certificateSigned_rotation (shows : Shows a s) (linked : a.conn = true) (chain : Text) (now : Instant) :
    ∃ s', ReflTransGen Trans s s' ∧ Shows (a.certificateSigned pki chain now).1 s' := by
  unfold certificateSigned
  dsimp only
  split
  · exact ⟨s, .refl, shows.saving (markDirty_saving a)⟩
  · split
    · exact ⟨s, .refl, shows.saving (markDirty_saving a)⟩
    · rename_i key _ _ _
      obtain ⟨s', path, after⟩ := adoptSignedCertificate_rotation shows linked chain key
      exact ⟨s', path, (after.saving (markSecretsDirty_saving _)).saving (flushNow_saving _)⟩

/-- What the first connection after a renewal settles. -/
theorem clientCertificateConnected_shows (shows : Shows a s) {viaPrevious : Bool}
    (identity : a.connectIdentity = if viaPrevious then .previous else .current) (noAttempt : s.attempt = none)
    (stored : viaPrevious = true → s.previous ≠ none) :
    Shows a.clientCertificateConnected
      { s with current := if viaPrevious then s.previous.getD s.current else s.current, previous := none } := by
  have previousChain := shows.previousChain
  have previousKey := shows.previousKey
  unfold clientCertificateConnected
  rw [identity, previousChain]
  cases viaPrevious with
  | false =>
    cases kept : s.previous with
    | none =>
      rw [kept] at previousChain previousKey
      exact { shows with
        previousChain := previousChain, previousKey := previousKey
        identity := fun v q running => by
          rw [noAttempt] at running
          cases running }
    | some p =>
      have discarded : Shows a.discardPrevious { s with previous := none } :=
        { shows with previousChain := rfl, previousKey := rfl }
      exact (discarded.saving (markSecretsDirty_saving _)).saving (flushNow_saving _)
  | true =>
    cases kept : s.previous with
    | none => exact absurd kept (stored rfl)
    | some p =>
      rw [kept] at previousChain previousKey
      have restored : Shows a.restorePrevious { s with current := p, previous := none } :=
        { shows with
          chain := previousChain, key := previousKey, previousChain := rfl, previousKey := rfl
          identity := fun v q running => by
            rw [noAttempt] at running
            cases running }
      exact ((restored.saving (markDirty_saving _)).saving (markSecretsDirty_saving _)).saving (flushNow_saving _)

theorem onTlsConnected_shows (shows : Shows a s) :
    Shows a.onTlsConnected s ∧ a.onTlsConnected.connectIdentity = a.connectIdentity := by
  unfold onTlsConnected
  split
  · have dropped : Shows { a with useFallbackRoot := false, certs := a.certs.dropFallback.1 } s := { shows with }
    refine ⟨dropped.saving (flushNow_saving _), ?_⟩
    rw [flushNow_saving]
  · exact ⟨{ shows with }, rfl⟩

theorem onConnectResult_rotation (shows : Shows a s) (sound : s.Sound) (generation : Nat)
    (result : Except ConnectError Unit) :
    ∃ s', ReflTransGen Trans s s' ∧ Shows (a.onConnectResult generation result) s' := by
  unfold onConnectResult
  split
  · exact ⟨s, .refl, shows⟩
  · split
    · exact ⟨s, .refl, shows⟩
    · rename_i pair connecting
      obtain ⟨⟨viaPrevious, p⟩, attempt, rfl⟩ : ∃ running, s.attempt = some running ∧ some running.2 = pair := by
        have h := shows.connecting
        rw [connecting] at h
        exact Option.map_eq_some_iff.mp h.symm
      have identity := shows.identity viaPrevious p attempt
      dsimp only
      split
      · refine ⟨_, .single (.connected s viaPrevious p attempt), ?_⟩
        have worked : (a.newestWorked || (decide (a.connectIdentity = .current) && (some p).isSome)) =
            (s.newestWorked || !viaPrevious) := by
          rw [shows.newestWorked, identity]
          cases viaPrevious <;> simp
        have linked : Shows (({ a with connecting := none, conn := true } : SecureActor).noteEstablished (some p))
            { s with
              attempt := none, linked := true, working := some p, newestWorked := s.newestWorked || !viaPrevious } :=
          { shows with
            connecting := rfl, conn := rfl, established := rfl, newestWorked := worked
            identity := fun _ _ running => by cases running }
        have stored : viaPrevious = true → s.previous ≠ none := by
          rintro rfl
          have kept : s.previous = some p := (sound.attempt true p attempt).2
          simp [kept]
        split
        · obtain ⟨after, same⟩ := onTlsConnected_shows linked
          exact clientCertificateConnected_shows after (same.trans identity) rfl stored
        · exact clientCertificateConnected_shows linked identity rfl stored
      · refine ⟨_, .single (.failed s), ?_⟩
        exact { shows with
          connecting := rfl
          identity := fun _ _ running => by cases running }

/-- The connection and the attempt go. -/
theorem down_rotation (shows : Shows a s) :
    ∃ s', ReflTransGen Trans s s' ∧ Shows { a with connecting := none, conn := false } s' ∧ s'.attempt = none := by
  refine ⟨_, (ReflTransGen.single (.failed s)).tail (.down _), ?_, rfl⟩
  exact { shows with
    connecting := rfl, conn := rfl
    identity := fun _ _ running => by cases running }

variable (urlPassword) in
theorem applyConfigurationChange_shows (shows : Shows a s) (key value : Text) :
    Shows (a.applyConfigurationChange urlPassword key value).1 s := by
  unfold applyConfigurationChange
  split
  · exact shows
  · split
    · rename_i registry _
      have changed : Shows { a with registry } s := { shows with }
      refine Shows.saving ?_ (flushNow_saving _)
      unfold onSecurityKeyChanged
      split
      · refine Shows.saving ?_ (markSecretsDirty_saving _)
        exact { changed with }
      · exact changed
    · exact shows

theorem installCertificate_shows (shows : Shows a s) (kind : CertificateUse) (pem : Text) (now : Instant) :
    Shows (a.installCertificate pki kind pem now).1 s := by
  unfold installCertificate
  dsimp only
  split
  · rename_i certs eq
    split
    · refine Shows.saving ?_ (flushNow_saving _)
      have same := CertificateStore.install_chains eq
      exact { shows.roots same.1 same.2 with }
    · exact shows
  · exact shows

theorem deleteCertificate_shows (shows : Shows a s) (wanted : CertificateHashData) :
    Shows (a.deleteCertificate pki wanted).1 s := by
  unfold deleteCertificate
  split
  · rename_i certs eq
    have same := CertificateStore.delete_chains eq
    exact (shows.roots same.1 same.2).saving (flushNow_saving _)
  · rename_i certs status _ eq
    have same := CertificateStore.delete_chains eq
    exact shows.roots same.1 same.2

/-! ## Steps and runs -/

theorem runningStep_rotation (shows : Shows a s) (sound : s.Sound) (tls : a.registry.securityProfile = 3)
    (input : SecureInput) :
    ∃ s', ReflTransGen Trans s s' ∧ Shows (a.runningStep pki urlPassword input) s' := by
  have stays {b : SecureActor} (same : Shows b s) : ∃ s', ReflTransGen Trans s s' ∧ Shows b s' := ⟨s, .refl, same⟩
  cases input with
  | connect =>
    show ∃ s', ReflTransGen Trans s s' ∧ Shows a.connect s'
    unfold connect
    dsimp only
    split
    · exact stays { shows with }
    · rename_i idle
      simp only [Bool.or_eq_true, not_or, Bool.not_eq_true, Option.isSome_eq_false_iff, Option.isNone_iff_eq_none]
        at idle
      have wanted : Shows { a with wanted := true } s := { shows with }
      exact startConnect_rotation wanted tls idle.1 idle.2
  | disconnect =>
    obtain ⟨s', path, after, -⟩ := down_rotation shows
    exact ⟨s', path, { after with }⟩
  | reconnectTimer =>
    show ∃ s', ReflTransGen Trans s s' ∧ Shows a.onReconnectTimer s'
    unfold onReconnectTimer
    split
    · exact stays shows
    · rename_i idle
      simp only [Bool.or_eq_true, not_or, Bool.not_eq_true, Option.isSome_eq_false_iff, Option.isNone_iff_eq_none]
        at idle
      exact startConnect_rotation shows tls idle.1.2 idle.2
  | hardResetTimer =>
    show ∃ s', ReflTransGen Trans s s' ∧ Shows a.onHardResetTimer s'
    unfold onHardResetTimer
    split
    · exact stays shows
    · obtain ⟨s', path, after, -⟩ := down_rotation shows
      have dropped : Shows { a.linkDown with wanted := true, connecting := none } s' := { after with }
      obtain ⟨s'', path', started⟩ := startConnect_rotation dropped tls rfl rfl
      exact ⟨s'', path.trans path', started⟩
  | connectResult generation result => exact onConnectResult_rotation shows sound generation result
  | closed =>
    show ∃ s', ReflTransGen Trans s s' ∧ Shows (if a.conn then a.linkDown else a) s'
    split
    · exact ⟨_, .single (.down s), { shows with conn := rfl }⟩
    · exact stays shows
  | certificateSigned chain now =>
    show ∃ s', ReflTransGen Trans s s' ∧ Shows (if a.conn then (a.certificateSigned pki chain now).1 else a) s'
    split
    · rename_i linked
      exact certificateSigned_rotation shows linked chain now
    · exact stays shows
  | sendSignCertificate key =>
    refine stays ?_
    show Shows (if a.conn then a.sendSignCertificate key else a) s
    split
    · refine Shows.saving ?_ (markSecretsDirty_saving _)
      exact { shows with }
    · exact shows
  | signCertificateFailed key previous =>
    refine stays ?_
    show Shows (a.restorePendingKey key previous) s
    unfold restorePendingKey
    split
    · refine Shows.saving ?_ (markSecretsDirty_saving _)
      exact { shows with }
    · exact shows
  | installCertificate kind pem now =>
    refine stays ?_
    show Shows (if a.conn then (a.installCertificate pki kind pem now).1 else a) s
    split
    · exact installCertificate_shows shows kind pem now
    · exact shows
  | deleteCertificate wanted =>
    refine stays ?_
    show Shows (if a.conn then (a.deleteCertificate pki wanted).1 else a) s
    split
    · exact deleteCertificate_shows shows wanted
    · exact shows
  | changeConfiguration key value =>
    refine stays ?_
    show Shows (if a.conn then (a.applyConfigurationChange urlPassword key value).1 else a) s
    split
    · exact applyConfigurationChange_shows _ shows key value
    · exact shows
  | setConfiguration key value =>
    refine stays ?_
    have changed := applyConfigurationChange_shows urlPassword shows key value
    show Shows (a.setConfiguration urlPassword key value).1 s
    unfold setConfiguration
    split <;> (rename_i eq; rw [eq] at changed; exact changed)
  | markDirty => exact stays (shows.saving (markDirty_saving a))
  | flushNow => exact stays (shows.saving (flushNow_saving a))
  | flushTimer => exact stays (shows.saving (flushPersistence_saving a))
  | saved ok =>
    refine stays ?_
    unfold runningStep
    dsimp only
    split
    · split
      · exact shows.saving (onSaved_saving a ok)
      · exact shows
    · exact shows
  | writer event => exact stays shows
  | shutdown =>
    obtain ⟨s', path, after, -⟩ := down_rotation shows
    exact ⟨s', path, { after with }⟩
  | finish => exact stays shows

variable (pki urlPassword) in
/-- Every step is a path of the rotation. -/
theorem step_rotation (shows : Shows a s) (sound : s.Sound) (tls : a.registry.securityProfile = 3)
    (input : SecureInput) :
    ∃ s', ReflTransGen Trans s s' ∧ Shows (a.step pki urlPassword input) s' := by
  have final (b : SecureActor) (had : Bool) (shows : Shows b s) : Shows (b.startFinalWrite had) s := by
    unfold startFinalWrite
    dsimp only
    split
    · exact { shows with }
    · split <;> exact { shows with }
  unfold step
  split
  · refine ⟨s, .refl, ?_⟩
    split
    · exact shows
    · rename_i write _
      have written (event : DiskEvent) : Shows (a.writerStep write event) s := by
        unfold writerStep
        split <;> exact { shows with }
      dsimp only
      split
      · exact { written _ with }
      · exact written _
  · refine ⟨s, .refl, ?_⟩
    split
    · exact final a false shows
    · exact final a true shows
    · exact shows
  · exact runningStep_rotation shows sound tls _
  · exact ⟨s, .refl, shows⟩

/-- The states of the runs from `start` in which profile 3 stays in force. -/
inductive UnderProfile3 (pki : Pki) (urlPassword : Text → Bool) (start : SecureActor) : SecureActor → Prop
  | start (tls : start.registry.securityProfile = 3) : UnderProfile3 pki urlPassword start start
  | step {a : SecureActor} (run : UnderProfile3 pki urlPassword start a) (input : SecureInput)
      (tls : (a.step pki urlPassword input).registry.securityProfile = 3) :
      UnderProfile3 pki urlPassword start (a.step pki urlPassword input)

theorem UnderProfile3.tls {start : SecureActor} (run : UnderProfile3 pki urlPassword start a) :
    a.registry.securityProfile = 3 := by
  cases run with
  | start tls => exact tls
  | step _ _ tls => exact tls

theorem UnderProfile3.run {start : SecureActor} (inputs : List SecureInput)
    (tls : ∀ past ∈ inputs.inits, (start.run pki urlPassword past).registry.securityProfile = 3) :
    UnderProfile3 pki urlPassword start (start.run pki urlPassword inputs) := by
  induction inputs using List.reverseRecOn with
  | nil => exact .start (tls [] (by simp))
  | append_singleton past input ih =>
    have before := ih fun earlier mem =>
      tls earlier ((List.mem_inits _ _).mpr (((List.mem_inits _ _).mp mem).trans (List.prefix_append past [input])))
    have after := tls _ ((List.mem_inits _ _).mpr (List.prefix_refl _))
    unfold SecureActor.run at before after ⊢
    rw [List.foldl_append] at after ⊢
    exact .step before input after

/-- A station with stored certificates: what is there counts as adopted, and nothing has connected yet. -/
structure Stored (a : SecureActor) : Prop where
  noFiles : a.config.certFile = none
  current : ∃ p ∈ a.adopted, a.certs.chargePointChain = some p.chainPem ∧ a.secrets.chargePointKeyPem = some p.keyPem
  previous : (a.certs.previousChargePointChain = none ∧ a.secrets.previousChargePointKeyPem = none) ∨
    ∃ p ∈ a.adopted, a.certs.previousChargePointChain = some p.chainPem ∧
      a.secrets.previousChargePointKeyPem = some p.keyPem
  idle : a.connecting = none
  unused : a.established = none ∧ a.newestWorked = false

theorem Stored.rotation (stored : Stored a) : ∃ s : Rotation IdentityPem, Shows a s ∧ s.Sound := by
  obtain ⟨p, adopted, chain, key⟩ := stored.current
  obtain ⟨previous, previousChain, previousKey, known⟩ : ∃ previous : Option IdentityPem,
      a.certs.previousChargePointChain = previous.map (·.chainPem) ∧
      a.secrets.previousChargePointKeyPem = previous.map (·.keyPem) ∧ ∀ q, previous = some q → q ∈ a.adopted := by
    rcases stored.previous with ⟨chain, key⟩ | ⟨q, adopted, chain, key⟩
    · exact ⟨none, chain, key, fun _ none => (nomatch none)⟩
    · exact ⟨some q, chain, key, fun r same => Option.some.inj same ▸ adopted⟩
  refine ⟨{ current := p, previous, attempt := none, linked := a.conn, working := none, newestWorked := false,
            adopted := a.adopted }, ?_, ?_⟩
  · exact
      { noFiles := stored.noFiles, chain, key, previousChain, previousKey, connecting := stored.idle
        identity := fun _ _ running => (nomatch running)
        conn := rfl, established := stored.unused.1, newestWorked := stored.unused.2, adopted := rfl }
  · exact
      { attempt := fun _ _ running => (nomatch running)
        working := fun _ none => (nomatch none)
        waiting := fun _ => rfl, current := adopted, previous := known }

theorem UnderProfile3.rotation {start : SecureActor} (stored : Stored start)
    (run : UnderProfile3 pki urlPassword start a) : ∃ s : Rotation IdentityPem, Shows a s ∧ s.Sound := by
  induction run with
  | start => exact stored.rotation
  | step run input _ ih =>
    obtain ⟨s, shows, sound⟩ := ih
    obtain ⟨s', path, after⟩ := step_rotation pki urlPassword shows sound run.tls input
    exact ⟨s', after, path_sound path sound⟩

/-- In every state of a run under profile 3: the pair that established a connection last is stored, as the
current or the previous one; both pairs are pairs that were adopted; a previous pair exists only while the
newest certificate has not connected; and a running attempt presents one of the stored pairs. -/
theorem renewal_keeps_working (pki : Pki) (urlPassword : Text → Bool) (start a : SecureActor) (stored : Stored start)
    (run : UnderProfile3 pki urlPassword start a) :
    (∀ p, a.established = some p → a.currentPair = some p ∨ a.previousPair = some p) ∧
    (∃ p ∈ a.adopted, a.currentPair = some p ∧ a.certs.chargePointChain = some p.chainPem ∧
      a.secrets.chargePointKeyPem = some p.keyPem) ∧
    ((a.certs.previousChargePointChain = none ∧ a.secrets.previousChargePointKeyPem = none) ∨
      ∃ p ∈ a.adopted, a.previousPair = some p) ∧
    (a.certs.previousChargePointChain ≠ none → a.newestWorked = false) ∧
    ∀ presented, a.connecting = some presented →
      ∃ p, presented = some p ∧ (a.currentPair = some p ∨ a.previousPair = some p) := by
  obtain ⟨s, shows, sound⟩ := run.rotation stored
  rw [shows.currentPair, shows.previousPair, shows.adopted]
  refine ⟨fun p worked => ?_, ⟨s.current, sound.current, rfl, shows.chain, shows.key⟩, ?_, fun kept => ?_,
    fun presented running => ?_⟩
  · rcases sound.working p (shows.established ▸ worked) with previous | ⟨-, current⟩
    · exact .inr previous
    · exact .inl (congrArg some current)
  · rw [shows.previousChain, shows.previousKey]
    cases h : s.previous with
    | none => exact .inl ⟨rfl, rfl⟩
    | some p => exact .inr ⟨p, sound.previous p h, rfl⟩
  · rw [shows.newestWorked]
    refine sound.waiting fun none => kept ?_
    rw [shows.previousChain, none]
    rfl
  · rw [shows.connecting] at running
    obtain ⟨⟨viaPrevious, p⟩, attempt, rfl⟩ := Option.map_eq_some_iff.mp running
    refine ⟨p, rfl, ?_⟩
    have stored := (sound.attempt viaPrevious p attempt).2
    cases viaPrevious with
    | false => exact .inl (congrArg some stored)
    | true => exact .inr stored

/-- A station under profile 3 with a certificate. -/
def certified : SecureActor where
  config := { url := "wss://csms".toList }
  registry := (Config.ConfigRegistry.new {}).setInternal Config.Key.securityProfile ['3']
  certs := { chargePointChain := some ['c'] }
  secrets := { chargePointKeyPem := some ['k'] }
  adopted := [{ chainPem := ['c'], keyPem := ['k'] }]

/-- It connects, adopts a certificate for a new key, and loses the link; the Central System refuses the new
certificate, and the next attempt runs. -/
def refusedRenewal : List SecureInput :=
  [.connect, .connectResult 1 (.ok ()), .sendSignCertificate [.ofNat 2],
    .certificateSigned (CertificateStore.pemOf "AgEy") 0, .closed, .reconnectTimer,
    .connectResult 3 (.error (.handshake "received fatal alert: BadCertificate".toList)), .reconnectTimer]

/-- The pair that worked is the previous one, and the attempt presents it. -/
theorem renewal_keeps_working_refused :
    let a := certified.run CertificateStore.byLines (fun _ => false) refusedRenewal
    a.established = some { chainPem := ['c'], keyPem := ['k'] } ∧
      (a.currentPair = some { chainPem := ['c'], keyPem := ['k'] } ∨
        a.previousPair = some { chainPem := ['c'], keyPem := ['k'] }) ∧
      a.currentPair = some { chainPem := (CertificateStore.pemOf "AgEy").trim, keyPem := [.ofNat 2] } ∧
      a.connecting = some (some { chainPem := ['c'], keyPem := ['k'] }) := by
  intro a
  have stored : Stored certified :=
    ⟨rfl, ⟨_, List.mem_singleton.mpr rfl, rfl, rfl⟩, .inl ⟨rfl, rfl⟩, rfl, rfl, rfl⟩
  have run : UnderProfile3 CertificateStore.byLines (fun _ => false) certified a :=
    .run refusedRenewal (by decide +kernel)
  have worked : a.established = some { chainPem := ['c'], keyPem := ['k'] } := by decide +kernel
  refine ⟨worked, (renewal_keeps_working _ _ certified a stored run).1 _ worked, ?_, ?_⟩ <;> decide +kernel

end KirbyOcpp.SecureActor
