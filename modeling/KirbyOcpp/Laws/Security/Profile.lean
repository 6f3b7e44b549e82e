import KirbyOcpp.Laws.Security.Saving
import KirbyOcpp.Laws.Security.Configuration
import KirbyOcpp.Laws.Security.CertificateStore

/-!
# The security profile only goes up

Two validators decide one after the other over a change of `SecurityProfile`: the transport rules
(`checkSecurityChange`), which let through what they cannot read, and the registry. Whatever both let
through is read as the same number, so the transport rules hold of the number that is stored.

**The law** `securityProfile_ratchet`: in every run the profile rises only as the rules allow, and falls
only from 3 to 2 with `AllowSecurityProfileDowngrade`.
-/

namespace KirbyOcpp

open Config (ConfigRegistry RegistryConfig)
open Config.ConfigRegistry (Shaped SameKey)

namespace SecureActor

variable {pki : Pki} {urlPassword : Text → Bool} {a b : SecureActor}

/-- A new station: the defaults of its configuration. -/
def fresh (config : TransportConfig) (registry : RegistryConfig) : SecureActor :=
  { config, registry := .new registry }

/-- How the profile may move. -/
structure Ratchet (urlPassword : Text → Bool) (a b : SecureActor) : Prop where
  lowered : b.registry.securityProfile < a.registry.securityProfile →
    a.registry.securityProfile = 3 ∧ b.registry.securityProfile = 2 ∧
      a.registry.allowSecurityProfileDowngrade = true
  secure : a.registry.securityProfile < b.registry.securityProfile → 2 ≤ b.registry.securityProfile →
    a.secureUrl = true
  identity : a.registry.securityProfile < b.registry.securityProfile → b.registry.securityProfile = 3 →
    a.hasClientIdentity = true
  password : a.registry.securityProfile < b.registry.securityProfile →
    b.registry.securityProfile = 1 ∨ b.registry.securityProfile = 2 →
    urlPassword a.config.url = true ∨ a.registry.authorizationKey.isSome = true

/-- Where the profile stays the ratchet holds. -/
theorem Ratchet.of_same (h : b.registry.securityProfile = a.registry.securityProfile) : Ratchet urlPassword a b where
  lowered lt := absurd h lt.ne
  secure lt := absurd h.symm lt.ne
  identity lt := absurd h.symm lt.ne
  password lt := absurd h.symm lt.ne

theorem Ratchet.of_registry {c : SecureActor} (h : Ratchet urlPassword a b) (same : c.registry = b.registry) :
    Ratchet urlPassword a c where
  lowered := same ▸ h.lowered
  secure := same ▸ h.secure
  identity := same ▸ h.identity
  password := same ▸ h.password

/-- What the transport rules let through, of the number they read. -/
theorem checkSecurityChange_rules {key value : Text} (ok : a.checkSecurityChange urlPassword key value = .ok ())
    (same : SameKey key Config.Key.securityProfile) {new : Nat} (read : value.parseU8 = some new) (le : new ≤ 3)
    (differs : new ≠ a.registry.securityProfile) :
    (new < a.registry.securityProfile → a.registry.securityProfile = 3 ∧ new = 2 ∧
      a.registry.allowSecurityProfileDowngrade = true) ∧
    (2 ≤ new → a.secureUrl = true) ∧ (new = 3 → a.hasClientIdentity = true) ∧
    (new = 1 ∨ new = 2 → urlPassword a.config.url = true ∨ a.registry.authorizationKey.isSome = true) := by
  unfold checkSecurityChange at ok
  have named : key.eqIgnoreAsciiCase Config.Key.securityProfile = true := by
    unfold Text.eqIgnoreAsciiCase
    rw [same]
    exact beq_self_eq_true _
  rw [named, read] at ok
  simp only [Bool.not_true, Bool.false_eq_true, if_false, if_neg differs] at ok
  rw [if_neg (by omega)] at ok
  split at ok
  · cases ok
  · rename_i kept
    split at ok
    · cases ok
    · rename_i secure
      split at ok
      · cases ok
      · rename_i identity
        split at ok
        · cases ok
        · rename_i password
          refine ⟨fun lt => ?_, fun ge => ?_, fun three => ?_, fun needs => ?_⟩
          · have downgrade : (decide (a.registry.securityProfile = 3) && decide (new = 2) &&
                a.registry.allowSecurityProfileDowngrade) = true := by
              by_contra no
              exact kept ⟨lt, by simpa using no⟩
            simp only [Bool.and_eq_true, decide_eq_true_eq] at downgrade
            exact ⟨downgrade.1.1, downgrade.1.2, downgrade.2⟩
          · by_contra no
            exact secure ⟨ge, by simpa using no⟩
          · by_contra no
            exact identity ⟨three, by simpa using no⟩
          · by_contra no
            rw [not_or] at no
            exact password ⟨needs, by simpa using no.1, by simpa using no.2⟩

variable (urlPassword) in
theorem applyConfigurationChange_cases (a : SecureActor) (key value : Text) :
    (a.applyConfigurationChange urlPassword key value).1.registry = a.registry ∨
    a.checkSecurityChange urlPassword key value = .ok () ∧ a.registry.check key value = .accepted ∧
      (a.applyConfigurationChange urlPassword key value).1.registry = (a.registry.change key value).1 := by
  unfold applyConfigurationChange
  split
  · exact .inl rfl
  · rename_i ok
    split
    · rename_i registry changed
      refine .inr ⟨ok, ?_, ?_⟩
      · rcases a.registry.change_cases key value with ⟨status, refused, -, eq⟩ | ⟨entry, -, accepted, -⟩
        · rw [eq] at changed
          exact absurd (Prod.mk.inj changed).2 refused
        · exact accepted
      · rw [(flushNow_saving _).registry, (onSecurityKeyChanged_aside _ _).registry, changed]
    · exact .inl rfl

/-- A change that one of the validators rejects is not stored. -/
theorem applyConfigurationChange_rejected {key value : Text}
    (rejected : a.checkSecurityChange urlPassword key value ≠ .ok () ∨ a.registry.check key value ≠ .accepted) :
    (a.applyConfigurationChange urlPassword key value).1.registry = a.registry := by
  rcases applyConfigurationChange_cases urlPassword a key value with same | ⟨ok, accepted, -⟩
  · exact same
  · rcases rejected with no | no
    · exact absurd ok no
    · exact absurd accepted no

theorem applyConfigurationChange_shaped (shaped : Shaped a.registry) (key value : Text) :
    Shaped (a.applyConfigurationChange urlPassword key value).1.registry := by
  rcases applyConfigurationChange_cases urlPassword a key value with same | ⟨-, -, eq⟩
  · rwa [same]
  · rw [eq]
    exact shaped.change key value

theorem applyConfigurationChange_ratchet (shaped : Shaped a.registry) (key value : Text) :
    Ratchet urlPassword a (a.applyConfigurationChange urlPassword key value).1 := by
  rcases applyConfigurationChange_cases urlPassword a key value with same | ⟨ok, accepted, eq⟩
  · exact .of_same (by rw [same])
  · by_cases named : SameKey key Config.Key.securityProfile
    · obtain ⟨n, le, read, stored⟩ := shaped.securityProfile_same named accepted
      rw [← eq] at stored
      by_cases differs : n = a.registry.securityProfile
      · exact .of_same (by rw [stored, differs])
      · obtain ⟨lowered, secure, identity, password⟩ := checkSecurityChange_rules ok named read le differs
        exact ⟨stored ▸ lowered, fun _ => stored ▸ secure, fun _ => stored ▸ identity, fun _ => stored ▸ password⟩
    · refine .of_same ?_
      rw [eq, Config.ConfigRegistry.securityProfile_other named]

theorem step_shaped (shaped : Shaped a.registry) (input : SecureInput) :
    Shaped (a.step pki urlPassword input).registry := by
  rcases step_registry pki urlPassword a input with same | ⟨key, value, same⟩
  · rwa [same]
  · rw [same]
    exact applyConfigurationChange_shaped shaped key value

theorem run_shaped (shaped : Shaped a.registry) (inputs : List SecureInput) :
    Shaped (a.run pki urlPassword inputs).registry := by
  induction inputs generalizing a with
  | nil => exact shaped
  | cons input inputs ih => exact ih (step_shaped shaped input)

theorem step_ratchet (shaped : Shaped a.registry) (input : SecureInput) :
    Ratchet urlPassword a (a.step pki urlPassword input) := by
  rcases step_registry pki urlPassword a input with same | ⟨key, value, same⟩
  · exact .of_same (by rw [same])
  · exact (applyConfigurationChange_ratchet shaped key value).of_registry same

/-- The last Central System root stays while a profile with TLS is in force. -/
theorem deleteCertificate_keeps_root (tls : 2 ≤ a.registry.securityProfile) (wanted : CertificateHashData)
    (some : ∃ r ∈ a.certs.roots, r.isCentral = true) :
    ∃ r ∈ (a.deleteCertificate pki wanted).1.certs.roots, r.isCentral = true := by
  have kept := CertificateStore.delete_keeps_central pki wanted some
  unfold deleteCertificate
  rw [decide_eq_true tls]
  split
  · rename_i certs eq
    rw [(flushNow_saving _).certs]
    rwa [eq] at kept
  · rename_i certs status _ eq
    rwa [eq] at kept

/-- In every run of a new station the profile moves as the ratchet allows, a change that a validator
rejects is not stored, and with TLS in use a deletion leaves a Central System root. -/
theorem securityProfile_ratchet (pki : Pki) (urlPassword : Text → Bool) (config : TransportConfig)
    (registry : RegistryConfig) (inputs : List SecureInput) :
    let a := (fresh config registry).run pki urlPassword inputs
    (∀ input, Ratchet urlPassword a (a.step pki urlPassword input)) ∧
    (∀ key value, a.checkSecurityChange urlPassword key value ≠ .ok () ∨ a.registry.check key value ≠ .accepted →
      (a.applyConfigurationChange urlPassword key value).1.registry = a.registry) ∧
    (2 ≤ a.registry.securityProfile → ∀ wanted, (∃ r ∈ a.certs.roots, r.isCentral = true) →
      ∃ r ∈ (a.deleteCertificate pki wanted).1.certs.roots, r.isCentral = true) := by
  intro a
  have shaped : Shaped a.registry := run_shaped (Config.ConfigRegistry.shaped_new registry) inputs
  exact ⟨step_ratchet shaped, fun _ _ => applyConfigurationChange_rejected,
    fun tls wanted some => deleteCertificate_keeps_root tls wanted some⟩

end SecureActor

end KirbyOcpp
