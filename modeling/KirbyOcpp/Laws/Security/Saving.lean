import KirbyOcpp.Station.Secure

/-!
# What the operations of the secure actor leave alone

Marking and flushing change only what the actor knows about its writes (`Saving`). What is done to the certificates
leaves the configuration and the attempt to connect aside (`Aside`), and of all inputs only a change of the configuration
touches the registry (`step_registry`).
-/

namespace KirbyOcpp.SecureActor

variable {pki : Pki} {urlPassword : Text → Bool} {a b c : SecureActor}

/-- Only the wiring of the store changes. -/
def Saving (a b : SecureActor) : Prop :=
  b = { a with dirty := b.dirty, queued := b.queued, secretsDirty := b.secretsDirty, inFlight := b.inFlight }

namespace Saving

/-- Writes follow each other. -/
theorem trans (first : Saving a b) (second : Saving b c) : Saving a c := by
  unfold Saving at *
  rw [second, first]

theorem registry (h : Saving a b) : b.registry = a.registry := by rw [h]

theorem certs (h : Saving a b) : b.certs = a.certs := by rw [h]

end Saving

theorem markDirty_saving (a : SecureActor) : Saving a a.markDirty := by
  unfold markDirty
  split <;> rfl

theorem markSecretsDirty_saving (a : SecureActor) : Saving a a.markSecretsDirty := by
  refine .trans (b := { a with secretsDirty := true }) rfl ?_
  exact markDirty_saving _

theorem flushPersistence_saving (a : SecureActor) : Saving a a.flushPersistence := by
  unfold flushPersistence
  split
  · rfl
  · split
    · rfl
    · split <;> rfl

theorem flushNow_saving (a : SecureActor) : Saving a a.flushNow :=
  (markDirty_saving a).trans (flushPersistence_saving _)

theorem noteSaved_saving (a : SecureActor) (ok : Bool) : Saving a (a.noteSaved ok) := by
  unfold noteSaved
  split <;> rfl

theorem onSaved_saving (a : SecureActor) (ok : Bool) : Saving a (a.onSaved ok) := by
  unfold onSaved
  split
  · refine (noteSaved_saving a ok).trans (.trans (b := { a.noteSaved ok with queued := false }) rfl ?_)
    exact flushPersistence_saving _
  · exact noteSaved_saving a ok

/-! ## Certificates and keys -/

/-- The certificates and the keys may change, with the writes that store them; neither the configuration nor the attempt
to connect does. -/
structure Aside (a b : SecureActor) : Prop where
  registry : b.registry = a.registry
  connecting : b.connecting = a.connecting

namespace Aside

/-- Nothing happens. -/
theorem refl (a : SecureActor) : Aside a a := ⟨rfl, rfl⟩

/-- Operations of the kind follow each other. -/
theorem trans (first : Aside a b) (second : Aside b c) : Aside a c :=
  ⟨second.registry.trans first.registry, second.connecting.trans first.connecting⟩

end Aside

/-- Marking and flushing are of the kind. -/
theorem Saving.aside (h : Saving a b) : Aside a b := by
  rw [h]
  exact ⟨rfl, rfl⟩

/-- What is marked is written. -/
private theorem stored_aside (a : SecureActor) : Aside a a.markSecretsDirty.flushNow :=
  ((markSecretsDirty_saving a).trans (flushNow_saving _)).aside

/-- The new secrets of a changed key are marked. -/
theorem onSecurityKeyChanged_aside (a : SecureActor) (key : Text) : Aside a (a.onSecurityKeyChanged key) := by
  unfold onSecurityKeyChanged
  split
  · rw [markSecretsDirty_saving]
    exact ⟨rfl, rfl⟩
  · exact .refl a

/-- A signed certificate becomes the current one. -/
theorem adoptSignedCertificate_aside (a : SecureActor) (chain key : Text) :
    Aside a (a.adoptSignedCertificate chain key) := by
  unfold adoptSignedCertificate
  dsimp only
  split <;> exact ⟨rfl, rfl⟩

/-- A signed certificate is adopted and written, or refused. -/
theorem certificateSigned_aside (a : SecureActor) (chain : Text) (now : Instant) :
    Aside a (a.certificateSigned pki chain now).1 := by
  unfold certificateSigned
  dsimp only
  split
  · exact (markDirty_saving a).aside
  · split
    · exact (markDirty_saving a).aside
    · exact (adoptSignedCertificate_aside a chain _).trans (stored_aside _)

/-- The pending key of a failed request gives way to the one before. -/
theorem restorePendingKey_aside (a : SecureActor) (key : Text) (previous : Option Text) :
    Aside a (a.restorePendingKey key previous) := by
  unfold restorePendingKey
  split
  · rw [markSecretsDirty_saving]
    exact ⟨rfl, rfl⟩
  · exact .refl a

/-- A root is installed and written, or refused. -/
theorem installCertificate_aside (a : SecureActor) (kind : CertificateUse) (pem : Text) (now : Instant) :
    Aside a (a.installCertificate pki kind pem now).1 := by
  unfold installCertificate
  dsimp only
  split
  · split
    · rw [flushNow_saving]
      exact ⟨rfl, rfl⟩
    · exact .refl a
  · exact .refl a

/-- A root is deleted, if it is there. -/
theorem deleteCertificate_aside (a : SecureActor) (wanted : CertificateHashData) :
    Aside a (a.deleteCertificate pki wanted).1 := by
  unfold deleteCertificate
  split
  · rw [flushNow_saving]
    exact ⟨rfl, rfl⟩
  · exact ⟨rfl, rfl⟩

/-- A connection settles which of the two certificates stays. -/
theorem clientCertificateConnected_aside (a : SecureActor) : Aside a a.clientCertificateConnected := by
  unfold clientCertificateConnected
  split
  · have discarded : Aside a a.discardPrevious := ⟨rfl, rfl⟩
    exact discarded.trans (stored_aside _)
  · have restored : Aside a a.restorePrevious := ⟨rfl, rfl⟩
    exact (restored.trans (markDirty_saving _).aside).trans (stored_aside _)
  · exact ⟨rfl, rfl⟩

/-- A connection by the new root drops the one before. -/
theorem onTlsConnected_aside (a : SecureActor) : Aside a a.onTlsConnected := by
  unfold onTlsConnected
  split
  · rw [flushNow_saving]
    exact ⟨rfl, rfl⟩
  · exact ⟨rfl, rfl⟩

/-! ## The registry -/

private theorem startFinalWrite_registry (a : SecureActor) (had : Bool) :
    (a.startFinalWrite had).registry = a.registry := by
  unfold startFinalWrite
  dsimp only
  split
  · rfl
  · split <;> rfl

private theorem writerStep_registry (a : SecureActor) (write : Write) (event : DiskEvent) :
    (a.writerStep write event).registry = a.registry := by
  unfold writerStep
  split <;> rfl

private theorem onConnectResult_registry (a : SecureActor) (generation : Nat) (result : Except ConnectError Unit) :
    (a.onConnectResult generation result).registry = a.registry := by
  unfold onConnectResult
  split
  · rfl
  · split
    · rfl
    · dsimp only
      split
      · rw [(clientCertificateConnected_aside _).registry]
        split
        · rw [(onTlsConnected_aside _).registry]
          rfl
        · rfl
      · rfl

/-- What a running actor does with an input leaves the configuration as it is, or applies one change. -/
theorem runningStep_registry (a : SecureActor) (input : SecureInput) :
    (a.runningStep pki urlPassword input).registry = a.registry ∨
    ∃ key value, (a.runningStep pki urlPassword input).registry =
      (a.applyConfigurationChange urlPassword key value).1.registry := by
  cases input with
  | connect =>
    left
    show a.connect.registry = _
    unfold connect
    dsimp only
    split <;> rfl
  | disconnect => exact .inl rfl
  | reconnectTimer =>
    left
    show a.onReconnectTimer.registry = _
    unfold onReconnectTimer
    split <;> rfl
  | hardResetTimer =>
    left
    show a.onHardResetTimer.registry = _
    unfold onHardResetTimer
    split <;> rfl
  | connectResult generation result => exact .inl (onConnectResult_registry a generation result)
  | closed =>
    left
    show (if a.conn then a.linkDown else a).registry = _
    split <;> rfl
  | certificateSigned chain now =>
    left
    show (if a.conn then (a.certificateSigned pki chain now).1 else a).registry = _
    split
    · exact (certificateSigned_aside a chain now).registry
    · rfl
  | sendSignCertificate key =>
    left
    show (if a.conn then a.sendSignCertificate key else a).registry = _
    split
    · exact (markSecretsDirty_saving _).registry
    · rfl
  | signCertificateFailed key previous => exact .inl (restorePendingKey_aside a key previous).registry
  | installCertificate kind pem now =>
    left
    show (if a.conn then (a.installCertificate pki kind pem now).1 else a).registry = _
    split
    · exact (installCertificate_aside a kind pem now).registry
    · rfl
  | deleteCertificate wanted =>
    left
    show (if a.conn then (a.deleteCertificate pki wanted).1 else a).registry = _
    split
    · exact (deleteCertificate_aside a wanted).registry
    · rfl
  | changeConfiguration key value =>
    show (if a.conn then (a.applyConfigurationChange urlPassword key value).1 else a).registry = _ ∨ _
    by_cases h : a.conn = true
    · exact .inr ⟨key, value, by
        show (if a.conn then (a.applyConfigurationChange urlPassword key value).1 else a).registry = _
        rw [if_pos h]⟩
    · left
      rw [if_neg h]
  | setConfiguration key value =>
    refine .inr ⟨key, value, ?_⟩
    show (a.setConfiguration urlPassword key value).1.registry = _
    unfold setConfiguration
    split <;> (rename_i eq; rw [eq])
  | markDirty => exact .inl (markDirty_saving a).registry
  | flushNow => exact .inl (flushNow_saving a).registry
  | flushTimer => exact .inl (flushPersistence_saving a).registry
  | saved ok =>
    left
    unfold runningStep
    dsimp only
    split
    · split
      · exact (onSaved_saving a ok).registry
      · rfl
    · rfl
  | writer event => exact .inl rfl
  | shutdown => exact .inl rfl
  | finish => exact .inl rfl

variable (pki urlPassword) in
/-- A step leaves the configuration as it is, or applies one change. -/
theorem step_registry (a : SecureActor) (input : SecureInput) :
    (a.step pki urlPassword input).registry = a.registry ∨
    ∃ key value, (a.step pki urlPassword input).registry =
      (a.applyConfigurationChange urlPassword key value).1.registry := by
  unfold step
  split
  · left
    split
    · rfl
    · dsimp only
      split
      · exact writerStep_registry a _ _
      · exact writerStep_registry a _ _
  · left
    split
    · exact startFinalWrite_registry a false
    · exact startFinalWrite_registry a true
    · rfl
  · exact runningStep_registry a _
  · exact .inl rfl

end KirbyOcpp.SecureActor
