import KirbyOcpp.Laws.Security.Saving
import KirbyOcpp.Laws.Security.CertificateStore

/-!
# The two files after a crash

The chains are in the state file and their keys in the secrets file, which is replaced first. Between the
two replacements the files may hold a chain with the key of another one: the replacement of the secrets file
has torn them (`tears`). As long as the last replacement has not, what is restored is paired, and an identity
that the files once held is not lost.
-/

namespace KirbyOcpp.SecureActor

variable {pki : Pki} {urlPassword : Text → Bool} {a b : SecureActor} {held torn : Bool}

/-! ## Chains and keys -/

/-- The chains of a state file with the keys of a secrets file. -/
structure Credentials where
  chain : Option Text
  key : Option Text
  previousChain : Option Text
  previousKey : Option Text

/-- What `certs` and `secrets` hold. -/
def credentials (certs : CertificateStore) (secrets : StationSecrets) : Credentials where
  chain := certs.chargePointChain
  key := secrets.chargePointKeyPem
  previousChain := certs.previousChargePointChain
  previousKey := secrets.previousChargePointKeyPem

namespace Credentials

/-- A chain and a key in the same slot come from the same adoption. -/
def Paired (c : Credentials) (adopted : List IdentityPem) : Prop :=
  (∀ x k, c.chain = some x → c.key = some k → { chainPem := x, keyPem := k } ∈ adopted) ∧
  ∀ x k, c.previousChain = some x → c.previousKey = some k → { chainPem := x, keyPem := k } ∈ adopted

/-- Paired, with a key for the current chain and no previous chain without a current one. -/
structure Kept (c : Credentials) (adopted : List IdentityPem) : Prop where
  paired : c.Paired adopted
  whole : c.chain.isSome = true → c.key.isSome = true
  newer : c.previousChain.isSome = true → c.chain.isSome = true

variable {c : Credentials} {adopted adopted' : List IdentityPem}

theorem Kept.mono (kept : c.Kept adopted) (more : ∀ p ∈ adopted, p ∈ adopted') : c.Kept adopted' :=
  ⟨⟨fun x k chain key => more _ (kept.paired.1 x k chain key),
    fun x k chain key => more _ (kept.paired.2 x k chain key)⟩, kept.whole, kept.newer⟩

end Credentials

/-! ## The replacement that tears the files -/

/-- The state file keeps another chain for a key that the secrets file gets. -/
def slotTorn (onDisk written key : Option Text) : Bool :=
  onDisk.isSome && key.isSome && decide (onDisk ≠ written)

/-- Replacing the secrets file by that of `write` gives a chain in the state file the key of another one. -/
def tears (disk : Disk) (write : Write) : Bool :=
  slotTorn disk.certs.chargePointChain write.certs.chargePointChain (write.secrets.getD {}).chargePointKeyPem ||
  slotTorn disk.certs.previousChargePointChain write.certs.previousChargePointChain
    (write.secrets.getD {}).previousChargePointKeyPem

/-- Whether the files are torn after an input: the last replacement was that of the secrets file, and it
tore them. -/
def tornAfter (torn : Bool) (a : SecureActor) (input : SecureInput) : Bool :=
  match a.inFlight, input with
  | some write, .writer (.replaced _) =>
    match write.stage with
    | .saveSecrets => tears a.disk write
    | .save => false
    | .done _ => torn
  | _, _ => torn

/-- The process that starts from the files that `a` leaves, with whatever configuration. -/
def restarted (a : SecureActor) (config : TransportConfig) (registry : Config.ConfigRegistry) : SecureActor :=
  { config, registry, certs := a.disk.certs, secrets := a.disk.secrets, disk := a.disk, adopted := a.adopted }

/-- Runs of the station, over crashes and restarts while the files are not torn; with whether they are. -/
inductive Crashes (pki : Pki) (urlPassword : Text → Bool) (start : SecureActor) (before : Bool) :
    Bool → SecureActor → Prop
  | start : Crashes pki urlPassword start before before start
  | step {torn : Bool} {a : SecureActor} (run : Crashes pki urlPassword start before torn a)
      (input : SecureInput) :
      Crashes pki urlPassword start before (tornAfter torn a input) (a.step pki urlPassword input)
  | restart {a : SecureActor} (run : Crashes pki urlPassword start before false a) (config : TransportConfig)
      (registry : Config.ConfigRegistry) :
      Crashes pki urlPassword start before false (a.restarted config registry)

/-- Whether the files are torn after the inputs. -/
def tornOver (pki : Pki) (urlPassword : Text → Bool) : Bool → SecureActor → List SecureInput → Bool
  | torn, _, [] => torn
  | torn, a, input :: rest => tornOver pki urlPassword (tornAfter torn a input) (a.step pki urlPassword input) rest

/-- Inputs one after the other are a run without a crash. -/
theorem Crashes.inputs {start : SecureActor} {before : Bool} (run : Crashes pki urlPassword start before torn a)
    (inputs : List SecureInput) :
    Crashes pki urlPassword start before (tornOver pki urlPassword torn a inputs) (a.run pki urlPassword inputs) := by
  induction inputs generalizing torn a with
  | nil => exact run
  | cons input rest ih => exact ih (run.step input)

/-! ## The files -/

/-- The content of the secrets file after the replacement that is under way, if one is. -/
def nextSecrets (a : SecureActor) : StationSecrets :=
  match a.inFlight with
  | some write => if write.stage = .saveSecrets then write.secrets.getD {} else a.disk.secrets
  | none => a.disk.secrets

/-- A write that still has a file to replace. -/
def Write.open (write : Write) : Prop := ∀ ok, write.stage ≠ .done ok

/-- What holds of the actor's chains and keys, the write in flight and the files; with whether the files
have held a current chain before. -/
structure Files (held torn : Bool) (a : SecureActor) : Prop where
  live : (credentials a.certs a.secrets).Kept a.adopted
  /-- Without a mark on the secrets, and without a failed write, the secrets file gets or has the actor's
  keys. -/
  settled : a.closing = .running ∨ a.closing = .awaiting → a.secretsDirty = false →
    (∀ write, a.inFlight = some write → write.stage ≠ .done false) →
    a.nextSecrets.chargePointKeyPem = a.secrets.chargePointKeyPem ∧
      a.nextSecrets.previousChargePointKeyPem = a.secrets.previousChargePointKeyPem
  writing : ∀ write, a.inFlight = some write → Write.open write →
    (credentials write.certs a.nextSecrets).Kept a.adopted ∧
    (write.certs.chargePointChain.isSome = true → a.certs.chargePointChain.isSome = true) ∧
    (a.disk.certs.chargePointChain.isSome = true → write.certs.chargePointChain.isSome = true)
  grown : a.disk.certs.chargePointChain.isSome = true → a.certs.chargePointChain.isSome = true
  newer : a.disk.certs.previousChargePointChain.isSome = true → a.disk.certs.chargePointChain.isSome = true
  disk : torn = false → (credentials a.disk.certs a.disk.secrets).Kept a.adopted
  held : held = true → a.disk.certs.chargePointChain.isSome = true

/-- The chains, the keys and the files stay; the mark on the secrets may be set. -/
structure Steady (a b : SecureActor) : Prop where
  chains : b.certs.chargePointChain = a.certs.chargePointChain ∧
    b.certs.previousChargePointChain = a.certs.previousChargePointChain
  keys : b.secrets.chargePointKeyPem = a.secrets.chargePointKeyPem ∧
    b.secrets.previousChargePointKeyPem = a.secrets.previousChargePointKeyPem
  adopted : b.adopted = a.adopted
  disk : b.disk = a.disk
  inFlight : b.inFlight = a.inFlight
  closing : b.closing = a.closing
  marked : b.secretsDirty = false → a.secretsDirty = false

theorem Steady.credentials (h : Steady a b) :
    credentials b.certs b.secrets = SecureActor.credentials a.certs a.secrets := by
  unfold SecureActor.credentials
  rw [h.chains.1, h.chains.2, h.keys.1, h.keys.2]

theorem Steady.nextSecrets (h : Steady a b) : b.nextSecrets = a.nextSecrets := by
  unfold SecureActor.nextSecrets
  rw [h.inFlight, h.disk]

theorem Files.steady (files : Files held torn a) (h : Steady a b) : Files held torn b := by
  refine ⟨?_, fun running clean ok => ?_, fun write busy left => ?_, fun some => ?_, fun some => ?_, fun whole => ?_,
    fun before => ?_⟩
  · rw [h.credentials, h.adopted]
    exact files.live
  · rw [h.nextSecrets, h.keys.1, h.keys.2]
    exact files.settled (h.closing ▸ running) (h.marked clean) (h.inFlight ▸ ok)
  · rw [h.nextSecrets, h.adopted, h.chains.1, h.disk]
    exact files.writing write (h.inFlight ▸ busy) left
  · rw [h.disk] at some
    rw [h.chains.1]
    exact files.grown some
  · rw [h.disk] at some ⊢
    exact files.newer some
  · rw [h.disk, h.adopted]
    exact files.disk whole
  · rw [h.disk]
    exact files.held before

/-- The credentials are rewritten and the secrets marked. -/
theorem Files.rewrite (files : Files held torn a) (disk : b.disk = a.disk) (inFlight : b.inFlight = a.inFlight)
    (marked : b.secretsDirty = true) (kept : (credentials b.certs b.secrets).Kept b.adopted)
    (adopted : ∀ p ∈ a.adopted, p ∈ b.adopted)
    (stays : a.certs.chargePointChain.isSome = true → b.certs.chargePointChain.isSome = true) :
    Files held torn b := by
  have next : b.nextSecrets = a.nextSecrets := by
    unfold nextSecrets
    rw [inFlight, disk]
  refine ⟨kept, fun _ clean _ => ?_, fun write busy left => ?_, fun some => ?_, fun some => ?_, fun whole => ?_,
    fun before => ?_⟩
  · rw [marked] at clean
    cases clean
  · rw [next, disk]
    obtain ⟨pairs, live, more⟩ := files.writing write (inFlight ▸ busy) left
    exact ⟨pairs.mono adopted, fun some => stays (live some), more⟩
  · rw [disk] at some
    exact stays (files.grown some)
  · rw [disk] at some ⊢
    exact files.newer some
  · rw [disk]
    exact (files.disk whole).mono adopted
  · rw [disk]
    exact files.held before

/-! ## Writes -/

theorem markDirty_steady (a : SecureActor) : Steady a a.markDirty := by
  unfold markDirty
  split <;> exact ⟨⟨rfl, rfl⟩, ⟨rfl, rfl⟩, rfl, rfl, rfl, rfl, id⟩

theorem markSecretsDirty_steady (a : SecureActor) : Steady a a.markSecretsDirty := by
  unfold markSecretsDirty markDirty
  split <;> exact ⟨⟨rfl, rfl⟩, ⟨rfl, rfl⟩, rfl, rfl, rfl, rfl, fun clean => (nomatch clean)⟩

/-- A write takes the actor's chains, and its keys if the secrets are marked. -/
theorem Files.startWrite (files : Files held torn a) (running : a.closing = .running ∨ a.closing = .awaiting)
    (withSecrets : Bool) (safe : withSecrets = false → a.secretsDirty = false ∧ a.inFlight = none)
    (h : b = { a with
      closing := b.closing, dirty := b.dirty, queued := b.queued, secretsDirty := b.secretsDirty
      inFlight := some
        { secrets := if withSecrets then some a.secrets else none
          certs := a.certs
          stage := if withSecrets then .saveSecrets else .save } }) :
    Files held torn b := by
  have next : b.nextSecrets.chargePointKeyPem = a.secrets.chargePointKeyPem ∧
      b.nextSecrets.previousChargePointKeyPem = a.secrets.previousChargePointKeyPem := by
    cases withSecrets with
    | true =>
      rw [h]
      exact ⟨rfl, rfl⟩
    | false =>
      obtain ⟨clean, free⟩ := safe rfl
      have settled := files.settled running clean (by simp [free])
      unfold nextSecrets at settled
      rw [free] at settled
      rw [h]
      exact settled
  have same : credentials a.certs b.nextSecrets = credentials a.certs a.secrets := by
    unfold credentials
    rw [next.1, next.2]
  have adopted : b.adopted = a.adopted := by rw [h]
  have disk : b.disk = a.disk := by rw [h]
  have certs : b.certs = a.certs := by rw [h]
  have secrets : b.secrets = a.secrets := by rw [h]
  refine ⟨?_, fun _ _ _ => ?_, fun write busy _ => ?_, ?_, ?_, ?_, ?_⟩
  · rw [certs, secrets, adopted]
    exact files.live
  · rw [secrets]
    exact next
  · have taken : write.certs = a.certs := by
      rw [h] at busy
      obtain rfl := Option.some.inj busy
      rfl
    rw [taken, same, adopted, certs, disk]
    exact ⟨files.live, id, files.grown⟩
  · rw [disk, certs]
    exact files.grown
  · rw [disk]
    exact files.newer
  · rw [disk, adopted]
    exact files.disk
  · rw [disk]
    exact files.held

theorem Files.flushPersistence (files : Files held torn a) (running : a.closing = .running) :
    Files held torn a.flushPersistence := by
  unfold SecureActor.flushPersistence
  split
  · exact files
  · split
    · exact files
    · split
      · exact files.steady ⟨⟨rfl, rfl⟩, ⟨rfl, rfl⟩, rfl, rfl, rfl, rfl, id⟩
      · rename_i free
        refine files.startWrite (.inl running) a.secretsDirty (fun clean => ⟨clean, free⟩) rfl

theorem Files.flushNow (files : Files held torn a) (running : a.closing = .running) : Files held torn a.flushNow := by
  refine (files.steady (markDirty_steady a)).flushPersistence ?_
  rw [(markDirty_steady a).closing, running]

/-- A slot that is not torn keeps its chain for the key. -/
theorem slotTorn_false {onDisk written key : Option Text} (kept : slotTorn onDisk written key = false)
    {x k : Text} (chain : onDisk = some x) (present : key = some k) : written = some x := by
  unfold slotTorn at kept
  rw [chain, present] at kept
  have same : some x = written := by simpa using kept
  exact same.symm

/-- A replaced secrets file that does not tear the files pairs with the chains of the state file. -/
theorem kept_of_untorn {disk : Disk} {write : Write} {adopted : List IdentityPem} (untorn : tears disk write = false)
    (kept : (credentials write.certs (write.secrets.getD {})).Kept adopted)
    (more : disk.certs.chargePointChain.isSome = true → write.certs.chargePointChain.isSome = true)
    (newer : disk.certs.previousChargePointChain.isSome = true → disk.certs.chargePointChain.isSome = true) :
    (credentials disk.certs (write.secrets.getD {})).Kept adopted := by
  unfold tears at untorn
  rw [Bool.or_eq_false_iff] at untorn
  refine ⟨⟨fun x k chain key => ?_, fun x k chain key => ?_⟩, fun some => kept.whole (more some), newer⟩
  · exact kept.paired.1 x k (slotTorn_false untorn.1 chain key) key
  · exact kept.paired.2 x k (slotTorn_false untorn.2 chain key) key

/-- A write that failed leaves the files as they are. -/
theorem Files.failedWrite (files : Files held torn a) (write : Write) :
    Files held torn { a with inFlight := some { write with stage := .done false } } := by
  refine ⟨files.live, fun _ _ sound => ?_, fun _ same left => ?_, files.grown, files.newer, files.disk, files.held⟩
  · exact absurd rfl (sound _ rfl)
  · obtain rfl := Option.some.inj same
    exact absurd rfl (left false)

/-- One more file is replaced, or not. -/
theorem Files.writerStep (files : Files held torn a) {write : Write} (busy : a.inFlight = some write)
    (event : DiskEvent) : Files held (tornAfter torn a (.writer event)) (a.writerStep write event) := by
  have next := files.writing write busy
  have settled := files.settled
  unfold nextSecrets at next settled
  rw [busy] at next settled
  unfold tornAfter SecureActor.writerStep
  rw [busy]
  cases event with
  | failed =>
    dsimp only
    cases write.stage with
    | saveSecrets => exact files.failedWrite write
    | save => exact files.failedWrite write
    | done ok => exact files
  | replaced synced =>
    dsimp only
    cases stage : write.stage with
    | saveSecrets =>
      have open' : Write.open write := fun ok done => nomatch stage.symm.trans done
      obtain ⟨pairs, live, more⟩ := next open'
      dsimp only at pairs settled
      rw [if_pos stage] at pairs settled
      refine ⟨files.live, fun running clean sound => ?_, fun other same left => ?_, files.grown, files.newer,
        fun untorn => kept_of_untorn untorn pairs more files.newer, files.held⟩
      · have keys := settled running clean fun w same done => by
          obtain rfl := Option.some.inj same
          exact nomatch stage.symm.trans done
        cases synced with
        | true => exact keys
        | false => exact absurd rfl (sound _ rfl)
      · obtain rfl := Option.some.inj same
        cases synced with
        | true => exact ⟨pairs, live, more⟩
        | false => exact absurd rfl (left false)
    | save =>
      have open' : Write.open write := fun ok done => nomatch stage.symm.trans done
      have last : ¬write.stage = .saveSecrets := fun first => nomatch stage.symm.trans first
      obtain ⟨pairs, live, more⟩ := next open'
      dsimp only at pairs settled
      rw [if_neg last] at pairs settled
      refine ⟨files.live, fun running clean sound => ?_, fun other same left => ?_, live, pairs.newer,
        fun _ => pairs, fun before => more (files.held before)⟩
      · have keys := settled running clean fun w same done => by
          obtain rfl := Option.some.inj same
          exact nomatch stage.symm.trans done
        cases synced with
        | true => exact keys
        | false => exact absurd rfl (sound _ rfl)
      · obtain rfl := Option.some.inj same
        exact absurd rfl (left synced)
    | done ok => exact files

theorem Files.noteSaved (files : Files held torn a) {write : Write} {ok : Bool} (busy : a.inFlight = some write)
    (done : write.stage = .done ok) : Files held torn (a.noteSaved ok) := by
  unfold SecureActor.noteSaved
  split
  · rename_i saved
    subst saved
    have settled := files.settled
    unfold nextSecrets at settled
    rw [busy] at settled
    dsimp only at settled
    rw [if_neg (by rw [done]; exact fun stage => nomatch stage)] at settled
    refine ⟨files.live, fun running clean _ => ?_, fun _ none => (nomatch none), files.grown, files.newer, files.disk, files.held⟩
    refine settled running clean fun w same => ?_
    obtain rfl := Option.some.inj same
    rw [done]
    exact fun stage => nomatch stage
  · exact ⟨files.live, fun _ clean _ => (nomatch clean), fun _ none => (nomatch none), files.grown, files.newer,
      files.disk, files.held⟩

theorem Files.onSaved (files : Files held torn a) (running : a.closing = .running) {write : Write} {ok : Bool}
    (busy : a.inFlight = some write) (done : write.stage = .done ok) : Files held torn (a.onSaved ok) := by
  have noted := files.noteSaved busy done
  have closing : (a.noteSaved ok).closing = .running := by
    rw [noteSaved_saving a ok]
    exact running
  unfold SecureActor.onSaved
  split
  · refine Files.flushPersistence (noted.steady ?_) closing
    exact ⟨⟨rfl, rfl⟩, ⟨rfl, rfl⟩, rfl, rfl, rfl, rfl, id⟩
  · exact noted

/-- The last write of a graceful stop. -/
theorem Files.startFinalWrite (files : Files held torn a) (awaiting : a.closing = .awaiting) (had : Bool)
    (idle : had = false → a.inFlight = none) : Files held torn (a.startFinalWrite had) := by
  have closed : Files held torn { a with inFlight := none, closing := .closed } := by
    refine ⟨files.live, fun running => ?_, fun _ none => (nomatch none), files.grown, files.newer, files.disk, files.held⟩
    rcases running with running | running <;> cases running
  unfold SecureActor.startFinalWrite
  dsimp only
  split
  · exact closed
  · split
    · exact closed
    · refine files.startWrite (.inr awaiting) (a.secretsDirty || had) (fun clean => ?_) rfl
      rw [Bool.or_eq_false_iff] at clean
      exact ⟨clean.1, idle clean.2⟩

/-! ## Operations -/

theorem pair_of_currentPair {p : IdentityPem} (h : a.currentPair = some p) :
    a.certs.chargePointChain = some p.chainPem ∧ a.secrets.chargePointKeyPem = some p.keyPem := by
  unfold currentPair at h
  split at h
  · rename_i x k chain key
    obtain rfl := Option.some.inj h
    exact ⟨chain, key⟩
  · cases h

theorem pair_of_previousPair {p : IdentityPem} (h : a.previousPair = some p) :
    a.certs.previousChargePointChain = some p.chainPem ∧
      a.secrets.previousChargePointKeyPem = some p.keyPem := by
  unfold previousPair at h
  split at h
  · rename_i x k chain key
    obtain rfl := Option.some.inj h
    exact ⟨chain, key⟩
  · cases h

/-- A running attempt has no connection beside it, and presents a previous pair only where there is one. -/
def Trying (a : SecureActor) : Prop :=
  a.connecting.isSome = true → a.conn = false ∧ (a.connectIdentity = .previous → a.previousPair.isSome = true)

theorem Trying.saving (trying : Trying a) (h : Saving a b) : Trying b := by
  rw [h]
  exact trying

theorem trying_idle (idle : a.connecting = none) : Trying a := by
  intro running
  rw [idle] at running
  cases running

theorem startConnect_steady (a : SecureActor) : Steady a a.startConnect := by
  unfold startConnect
  exact ⟨⟨rfl, rfl⟩, ⟨rfl, rfl⟩, rfl, rfl, rfl, rfl, id⟩

/-- The previous pair is presented only where there is one. -/
theorem startConnect_trying (down : a.conn = false) : Trying a.startConnect := by
  refine fun _ => ⟨down, fun previous => ?_⟩
  have chosen : a.applySecurityTransport.2.1 = .previous := previous
  show a.previousPair.isSome = true
  unfold applySecurityTransport at chosen
  dsimp only at chosen
  split at chosen
  · cases held : a.previousPair.filter fun _ => a.usePreviousCert with
    | some pair =>
      obtain ⟨same, -⟩ := Option.filter_eq_some_iff.mp held
      rw [same]
      rfl
    | none =>
      rw [held] at chosen
      cases current : a.currentPair <;> (rw [current] at chosen; cases chosen)
  · cases chosen

/-- The credentials after an adoption. -/
theorem adoptSignedCertificate_kept (kept : (credentials a.certs a.secrets).Kept a.adopted) (chain key : Text) :
    (credentials (a.adoptSignedCertificate chain key).certs (a.adoptSignedCertificate chain key).secrets).Kept
      (a.adoptSignedCertificate chain key).adopted := by
  have newest (x k : Text) (first : some chain.trim = some x) (second : some key = some k) :
      ({ chainPem := x, keyPem := k } : IdentityPem) ∈
        { chainPem := chain.trim, keyPem := key } :: a.adopted := by
    obtain rfl := Option.some.inj first
    obtain rfl := Option.some.inj second
    exact List.mem_cons_self
  unfold adoptSignedCertificate
  dsimp only
  split
  · rename_i old _ current
    obtain ⟨oldChain, oldKey⟩ := pair_of_currentPair current
    refine ⟨⟨newest, fun x k first second => List.mem_cons_of_mem _ ?_⟩, fun _ => rfl, fun _ => rfl⟩
    obtain rfl := Option.some.inj first
    obtain rfl := Option.some.inj second
    exact kept.paired.1 _ _ oldChain oldKey
  · exact ⟨⟨newest, fun x k first second => List.mem_cons_of_mem _ (kept.paired.2 x k first second)⟩,
      fun _ => rfl, fun _ => rfl⟩

/-- An adoption touches neither the files nor the writes. -/
theorem adoptSignedCertificate_frame (a : SecureActor) (chain key : Text) :
    (a.adoptSignedCertificate chain key).disk = a.disk ∧
      (a.adoptSignedCertificate chain key).inFlight = a.inFlight ∧
      (a.adoptSignedCertificate chain key).closing = a.closing ∧
      (a.adoptSignedCertificate chain key).adopted = { chainPem := chain.trim, keyPem := key } :: a.adopted ∧
      (a.adoptSignedCertificate chain key).certs.chargePointChain = some chain.trim := by
  unfold adoptSignedCertificate
  dsimp only
  split <;> exact ⟨rfl, rfl, rfl, rfl, rfl⟩

theorem markSecretsDirty_marked (a : SecureActor) : a.markSecretsDirty.secretsDirty = true := by
  unfold markSecretsDirty markDirty
  split <;> rfl

/-- Rewritten credentials are marked and written. -/
theorem Files.rewriteNow (files : Files held torn a) (running : a.closing = .running) (disk : b.disk = a.disk)
    (inFlight : b.inFlight = a.inFlight) (closing : b.closing = a.closing)
    (kept : (credentials b.certs b.secrets).Kept b.adopted) (adopted : ∀ p ∈ a.adopted, p ∈ b.adopted)
    (stays : a.certs.chargePointChain.isSome = true → b.certs.chargePointChain.isSome = true) :
    Files held torn b.markSecretsDirty.flushNow := by
  have marked := markSecretsDirty_steady b
  refine Files.flushNow ?_ (marked.closing.trans (closing.trans running))
  refine files.rewrite (marked.disk.trans disk) (marked.inFlight.trans inFlight) (markSecretsDirty_marked b) ?_ ?_ ?_
  · rw [marked.credentials, marked.adopted]
    exact kept
  · rw [marked.adopted]
    exact adopted
  · rw [marked.chains.1]
    exact stays

theorem certificateSigned_files (files : Files held torn a) (running : a.closing = .running) (chain : Text)
    (now : Instant) : Files held torn (a.certificateSigned pki chain now).1 := by
  unfold certificateSigned
  dsimp only
  split
  · exact files.steady (markDirty_steady a)
  · split
    · exact files.steady (markDirty_steady a)
    · rename_i key _ _ _
      obtain ⟨disk, inFlight, closing, adopted, current⟩ := adoptSignedCertificate_frame a chain key
      refine files.rewriteNow running disk inFlight closing (adoptSignedCertificate_kept files.live chain key) ?_ ?_
      · rw [adopted]
        exact fun p mem => List.mem_cons_of_mem _ mem
      · rw [current]
        exact fun _ => rfl

theorem clientCertificateConnected_files (files : Files held torn a) (running : a.closing = .running)
    (stored : a.connectIdentity = .previous → a.previousPair.isSome = true) :
    Files held torn a.clientCertificateConnected := by
  have live := files.live
  unfold clientCertificateConnected
  split
  · refine files.rewriteNow (b := a.discardPrevious) running rfl rfl rfl ?_ (fun _ mem => mem) id
    exact ⟨⟨live.paired.1, fun x k none => (nomatch none)⟩, live.whole, fun none => (nomatch none)⟩
  · rename_i identity _
    obtain ⟨p, previous⟩ := Option.isSome_iff_exists.mp (stored identity)
    obtain ⟨chain, key⟩ := pair_of_previousPair previous
    have marked := markDirty_steady a.restorePrevious
    refine files.rewriteNow running marked.disk marked.inFlight marked.closing ?_ ?_ ?_
    · rw [marked.credentials, marked.adopted]
      refine ⟨⟨live.paired.2, fun x k none => (nomatch none)⟩, fun _ => ?_, fun none => (nomatch none)⟩
      show a.secrets.previousChargePointKeyPem.isSome = true
      rw [key]
      rfl
    · rw [marked.adopted]
      exact fun _ mem => mem
    · intro _
      rw [marked.chains.1]
      show a.certs.previousChargePointChain.isSome = true
      rw [chain]
      rfl
  · exact files.steady ⟨⟨rfl, rfl⟩, ⟨rfl, rfl⟩, rfl, rfl, rfl, rfl, id⟩

/-- What a TLS connection does to the fallback root. -/
theorem onTlsConnected_files (files : Files held torn a) (running : a.closing = .running) :
    Files held torn a.onTlsConnected ∧ a.onTlsConnected.closing = a.closing ∧
      a.onTlsConnected.connectIdentity = a.connectIdentity ∧ a.onTlsConnected.previousPair = a.previousPair := by
  unfold onTlsConnected
  split
  · refine ⟨Files.flushNow (files.steady ⟨⟨rfl, rfl⟩, ⟨rfl, rfl⟩, rfl, rfl, rfl, rfl, id⟩) running, ?_⟩
    rw [flushNow_saving]
    exact ⟨rfl, rfl, rfl⟩
  · exact ⟨files.steady ⟨⟨rfl, rfl⟩, ⟨rfl, rfl⟩, rfl, rfl, rfl, rfl, id⟩, rfl, rfl, rfl⟩

theorem onConnectResult_files (files : Files held torn a) (trying : Trying a) (running : a.closing = .running)
    (generation : Nat) (result : Except ConnectError Unit) :
    Files held torn (a.onConnectResult generation result) ∧ Trying (a.onConnectResult generation result) := by
  unfold onConnectResult
  split
  · exact ⟨files, trying⟩
  · split
    · exact ⟨files, trying⟩
    · rename_i pair connecting
      obtain ⟨-, stored⟩ := trying (by rw [connecting]; rfl)
      dsimp only
      split
      · have linked : Files held torn (({ a with connecting := none, conn := true } : SecureActor).noteEstablished pair) :=
          files.steady ⟨⟨rfl, rfl⟩, ⟨rfl, rfl⟩, rfl, rfl, rfl, rfl, id⟩
        split
        · obtain ⟨after, closing, identity, previous⟩ := onTlsConnected_files linked running
          refine ⟨clientCertificateConnected_files after (closing.trans running) fun h => ?_, trying_idle ?_⟩
          · rw [previous]
            exact stored (identity.symm.trans h)
          · rw [(clientCertificateConnected_aside _).connecting, (onTlsConnected_aside _).connecting]
            rfl
        · refine ⟨clientCertificateConnected_files linked running stored, trying_idle ?_⟩
          rw [(clientCertificateConnected_aside _).connecting]
          rfl
      · exact ⟨files.steady ⟨⟨rfl, rfl⟩, ⟨rfl, rfl⟩, rfl, rfl, rfl, rfl, id⟩, trying_idle rfl⟩

variable (urlPassword) in
theorem applyConfigurationChange_files (files : Files held torn a) (trying : Trying a) (running : a.closing = .running)
    (key value : Text) :
    Files held torn (a.applyConfigurationChange urlPassword key value).1 ∧
      Trying (a.applyConfigurationChange urlPassword key value).1 := by
  unfold applyConfigurationChange
  split
  · exact ⟨files, trying⟩
  · split
    · rename_i registry _
      have changed (canonical : Text) :
          Steady a (({ a with registry } : SecureActor).onSecurityKeyChanged canonical) ∧
          Trying (({ a with registry } : SecureActor).onSecurityKeyChanged canonical) := by
        unfold onSecurityKeyChanged
        split
        · have marked := markSecretsDirty_steady ({ a with
            registry, secrets := { a.secrets with authorizationKey := registry.authorizationKey } } : SecureActor)
          refine ⟨⟨marked.chains, marked.keys, marked.adopted, marked.disk, marked.inFlight, marked.closing,
            marked.marked⟩, Trying.saving (a := { a with
              registry, secrets := { a.secrets with authorizationKey := registry.authorizationKey } }) trying
              (markSecretsDirty_saving _)⟩
        · exact ⟨⟨⟨rfl, rfl⟩, ⟨rfl, rfl⟩, rfl, rfl, rfl, rfl, id⟩, trying⟩
      refine ⟨Files.flushNow (files.steady (changed _).1) ((changed _).1.closing.trans running), ?_⟩
      exact (changed _).2.saving (flushNow_saving _)
    · exact ⟨files, trying⟩

/-- A change of the roots, saved or not. -/
theorem roots_files (files : Files held torn a) (trying : Trying a) (running : a.closing = .running)
    {certs : CertificateStore} (chains : certs.chargePointChain = a.certs.chargePointChain ∧
      certs.previousChargePointChain = a.certs.previousChargePointChain) (fallback : Bool) :
    let b := { a with certs, useFallbackRoot := fallback }
    (Files held torn b ∧ Trying b) ∧ Files held torn b.flushNow ∧ Trying b.flushNow := by
  intro b
  have steady : Steady a b := ⟨chains, ⟨rfl, rfl⟩, rfl, rfl, rfl, rfl, id⟩
  have same : b.previousPair = a.previousPair := by
    unfold previousPair
    rw [steady.chains.2, steady.keys.2]
  have still : Trying b := fun busy => by
    rw [same]
    exact trying busy
  exact ⟨⟨files.steady steady, still⟩, (files.steady steady).flushNow running, still.saving (flushNow_saving b)⟩

theorem installCertificate_files (files : Files held torn a) (trying : Trying a) (running : a.closing = .running)
    (kind : CertificateUse) (pem : Text) (now : Instant) :
    Files held torn (a.installCertificate pki kind pem now).1 ∧ Trying (a.installCertificate pki kind pem now).1 := by
  unfold installCertificate
  dsimp only
  split
  · rename_i certs eq
    split
    · exact (roots_files files trying running (CertificateStore.install_chains eq) false).2
    · exact ⟨files, trying⟩
  · exact ⟨files, trying⟩

theorem deleteCertificate_files (files : Files held torn a) (trying : Trying a) (running : a.closing = .running)
    (wanted : CertificateHashData) :
    Files held torn (a.deleteCertificate pki wanted).1 ∧ Trying (a.deleteCertificate pki wanted).1 := by
  unfold deleteCertificate
  split
  · rename_i certs eq
    exact (roots_files files trying running (CertificateStore.delete_chains eq) a.useFallbackRoot).2
  · rename_i certs status _ eq
    exact (roots_files files trying running (CertificateStore.delete_chains eq) a.useFallbackRoot).1

/-- The request for a certificate changes neither chain nor key. -/
theorem pendingKey_files (files : Files held torn a) (trying : Trying a) (key : Option Text) :
    let b := ({ a with secrets := { a.secrets with pendingKeyPem := key } } : SecureActor).markSecretsDirty
    Files held torn b ∧ Trying b := by
  intro b
  have marked := markSecretsDirty_steady ({ a with secrets := { a.secrets with pendingKeyPem := key } } : SecureActor)
  refine ⟨files.steady ⟨marked.chains, marked.keys, marked.adopted, marked.disk, marked.inFlight, marked.closing,
    marked.marked⟩, ?_⟩
  exact Trying.saving (a := { a with secrets := { a.secrets with pendingKeyPem := key } }) trying
    (markSecretsDirty_saving _)

/-! ## Steps and runs -/

/-- The link goes, or an attempt starts without it. -/
theorem link_files (files : Files held torn a) (h : Steady a b) (trying : Trying b) : Files held torn b ∧ Trying b :=
  ⟨files.steady h, trying⟩

theorem runningStep_files (files : Files held torn a) (trying : Trying a) (running : a.closing = .running)
    (input : SecureInput) :
    Files held torn (a.runningStep pki urlPassword input) ∧ Trying (a.runningStep pki urlPassword input) := by
  have same : Steady a a := ⟨⟨rfl, rfl⟩, ⟨rfl, rfl⟩, rfl, rfl, rfl, rfl, id⟩
  cases input with
  | connect =>
    show Files held torn a.connect ∧ Trying a.connect
    unfold connect
    dsimp only
    split
    · exact link_files files { same with } trying
    · rename_i idle
      simp only [Bool.or_eq_true, not_or, Bool.not_eq_true] at idle
      have started := startConnect_steady { a with wanted := true }
      exact link_files files { started with } (startConnect_trying idle.1)
  | disconnect => exact link_files files { same with } (trying_idle rfl)
  | reconnectTimer =>
    show Files held torn a.onReconnectTimer ∧ Trying a.onReconnectTimer
    unfold onReconnectTimer
    split
    · exact ⟨files, trying⟩
    · rename_i idle
      simp only [Bool.or_eq_true, not_or, Bool.not_eq_true] at idle
      exact link_files files (startConnect_steady a) (startConnect_trying idle.1.2)
  | hardResetTimer =>
    show Files held torn a.onHardResetTimer ∧ Trying a.onHardResetTimer
    unfold onHardResetTimer
    split
    · exact ⟨files, trying⟩
    · have started := startConnect_steady { a.linkDown with wanted := true, connecting := none }
      exact link_files files { started with } (startConnect_trying rfl)
  | connectResult generation result => exact onConnectResult_files files trying running generation result
  | closed =>
    show Files held torn (if a.conn then a.linkDown else a) ∧ Trying (if a.conn then a.linkDown else a)
    split
    · refine link_files files { same with } fun busy => ⟨rfl, (trying busy).2⟩
    · exact ⟨files, trying⟩
  | certificateSigned chain now =>
    show Files held torn (if a.conn then (a.certificateSigned pki chain now).1 else a) ∧
      Trying (if a.conn then (a.certificateSigned pki chain now).1 else a)
    split
    · rename_i linked
      refine ⟨certificateSigned_files files running chain now, fun busy => ?_⟩
      rw [(certificateSigned_aside _ _ _).connecting] at busy
      have down := (trying busy).1
      rw [linked] at down
      cases down
    · exact ⟨files, trying⟩
  | sendSignCertificate key =>
    show Files held torn (if a.conn then a.sendSignCertificate key else a) ∧
      Trying (if a.conn then a.sendSignCertificate key else a)
    split
    · exact pendingKey_files files trying (some key)
    · exact ⟨files, trying⟩
  | signCertificateFailed key previous =>
    show Files held torn (a.restorePendingKey key previous) ∧ Trying (a.restorePendingKey key previous)
    unfold restorePendingKey
    split
    · exact pendingKey_files files trying previous
    · exact ⟨files, trying⟩
  | installCertificate kind pem now =>
    show Files held torn (if a.conn then (a.installCertificate pki kind pem now).1 else a) ∧
      Trying (if a.conn then (a.installCertificate pki kind pem now).1 else a)
    split
    · exact installCertificate_files files trying running kind pem now
    · exact ⟨files, trying⟩
  | deleteCertificate wanted =>
    show Files held torn (if a.conn then (a.deleteCertificate pki wanted).1 else a) ∧
      Trying (if a.conn then (a.deleteCertificate pki wanted).1 else a)
    split
    · exact deleteCertificate_files files trying running wanted
    · exact ⟨files, trying⟩
  | changeConfiguration key value =>
    show Files held torn (if a.conn then (a.applyConfigurationChange urlPassword key value).1 else a) ∧
      Trying (if a.conn then (a.applyConfigurationChange urlPassword key value).1 else a)
    split
    · exact applyConfigurationChange_files urlPassword files trying running key value
    · exact ⟨files, trying⟩
  | setConfiguration key value =>
    have changed := applyConfigurationChange_files urlPassword files trying running key value
    show Files held torn (a.setConfiguration urlPassword key value).1 ∧ Trying (a.setConfiguration urlPassword key value).1
    unfold setConfiguration
    split <;> (rename_i eq; rw [eq] at changed; exact changed)
  | markDirty => exact ⟨files.steady (markDirty_steady a), trying.saving (markDirty_saving a)⟩
  | flushNow => exact ⟨files.flushNow running, trying.saving (flushNow_saving a)⟩
  | flushTimer => exact ⟨files.flushPersistence running, trying.saving (flushPersistence_saving a)⟩
  | saved ok =>
    unfold runningStep
    dsimp only
    split
    · rename_i busy
      split
      · rename_i same
        subst same
        exact ⟨files.onSaved running busy rfl, trying.saving (onSaved_saving a _)⟩
      · exact ⟨files, trying⟩
    · exact ⟨files, trying⟩
  | shutdown =>
    refine ⟨?_, trying_idle rfl⟩
    exact ⟨files.live, fun _ => files.settled (.inl running), files.writing, files.grown, files.newer, files.disk, files.held⟩
  | writer event => exact ⟨files, trying⟩
  | finish => exact ⟨files, trying⟩

/-- Nothing is replaced without the writer. -/
theorem tornAfter_other {input : SecureInput} (other : ∀ event, input ≠ .writer event) :
    tornAfter torn a input = torn := by
  unfold tornAfter
  split
  · exact absurd rfl (other _)
  · rfl

theorem step_files (files : Files held torn a) (trying : Trying a) (input : SecureInput) :
    Files held (tornAfter torn a input) (a.step pki urlPassword input) ∧ Trying (a.step pki urlPassword input) := by
  unfold step
  split
  · rename_i event
    split
    · rename_i free
      unfold tornAfter
      rw [free]
      exact ⟨files, trying⟩
    · rename_i write busy
      have written := files.writerStep busy event
      have still : Trying (a.writerStep write event) := by
        unfold SecureActor.writerStep
        split <;> exact trying
      dsimp only
      split
      · refine ⟨⟨written.live, fun running => ?_, written.writing, written.grown, written.newer, written.disk,
          written.held⟩, still⟩
        rcases running with running | running <;> cases running
      · exact ⟨written, still⟩
  · rename_i awaiting
    have still (had : Bool) : Trying (a.startFinalWrite had) := by
      unfold SecureActor.startFinalWrite
      dsimp only
      split
      · exact trying
      · split <;> exact trying
    rw [tornAfter_other (by simp)]
    split
    · rename_i free
      exact ⟨files.startFinalWrite awaiting false fun _ => free, still false⟩
    · exact ⟨files.startFinalWrite awaiting true nofun, still true⟩
    · exact ⟨files, trying⟩
  · rename_i running other
    rw [tornAfter_other other]
    exact runningStep_files files trying running _
  · rename_i other _ _
    rw [tornAfter_other other]
    exact ⟨files, trying⟩

theorem restarted_files (files : Files held false a) (config : TransportConfig) (registry : Config.ConfigRegistry) :
    Files held false (a.restarted config registry) :=
  ⟨files.disk rfl, fun _ _ _ => ⟨rfl, rfl⟩, fun _ none => (nomatch none), id, files.newer, files.disk, files.held⟩

/-- Runs keep what holds of the files. -/
theorem Crashes.files {start : SecureActor} {before : Bool} (files : Files held before start) (trying : Trying start)
    (run : Crashes pki urlPassword start before torn a) : Files held torn a ∧ Trying a := by
  induction run with
  | start => exact ⟨files, trying⟩
  | step _ input ih => exact step_files ih.1 ih.2 input
  | restart _ config registry ih => exact ⟨restarted_files ih.1 config registry, trying_idle rfl⟩

/-- A station without files. -/
def installed (config : TransportConfig) (registry : Config.ConfigRegistry) : SecureActor := { config, registry }

theorem installed_files (config : TransportConfig) (registry : Config.ConfigRegistry) :
    Files false false (installed config registry) := by
  have empty : (credentials {} {}).Kept [] := ⟨⟨nofun, nofun⟩, nofun, nofun⟩
  exact ⟨empty, fun _ _ _ => ⟨rfl, rfl⟩, nofun, nofun, nofun, fun _ => empty, nofun⟩

/-! ## What is restored -/

/-- A process that starts from the files of `a` has a client identity that was adopted. -/
def Restorable (a : SecureActor) : Prop :=
  ∃ p ∈ a.adopted, ∀ config registry,
    (a.restarted config registry).currentPair = some p ∨ (a.restarted config registry).previousPair = some p

/-- Whole files restore an identity exactly if they hold a current chain. -/
theorem Files.restorable_iff (files : Files held false a) :
    a.Restorable ↔ a.disk.certs.chargePointChain.isSome = true := by
  have kept := files.disk rfl
  constructor
  · rintro ⟨p, -, restored⟩
    rcases restored a.config a.registry with current | previous
    · have chain : a.disk.certs.chargePointChain = some p.chainPem := (pair_of_currentPair current).1
      rw [chain]
      rfl
    · have chain : a.disk.certs.previousChargePointChain = some p.chainPem := (pair_of_previousPair previous).1
      refine files.newer ?_
      rw [chain]
      rfl
  · intro present
    obtain ⟨x, chain⟩ := Option.isSome_iff_exists.mp present
    obtain ⟨k, key⟩ := Option.isSome_iff_exists.mp (kept.whole present)
    refine ⟨{ chainPem := x, keyPem := k }, kept.paired.1 x k chain key, fun config registry => .inl ?_⟩
    have chain : (a.restarted config registry).certs.chargePointChain = some x := chain
    have key : (a.restarted config registry).secrets.chargePointKeyPem = some k := key
    unfold currentPair
    rw [chain, key]

/-- After a crash that does not find the files torn, every pair that is restored comes from one adoption; and
where the files once restored an identity, they still do. -/
theorem crash_keeps_pairs (pki : Pki) (urlPassword : Text → Bool) (config : TransportConfig)
    (registry : Config.ConfigRegistry) (a : SecureActor)
    (run : Crashes pki urlPassword (installed config registry) false false a) :
    (∀ config registry p,
      (a.restarted config registry).currentPair = some p ∨ (a.restarted config registry).previousPair = some p →
      p ∈ a.adopted) ∧
    (a.Restorable → ∀ b, Crashes pki urlPassword a false false b → b.Restorable) := by
  obtain ⟨files, trying⟩ := run.files (installed_files config registry) (trying_idle rfl)
  constructor
  · intro config registry p restored
    rcases restored with current | previous
    · obtain ⟨chain, key⟩ := pair_of_currentPair current
      exact (files.disk rfl).paired.1 _ _ chain key
    · obtain ⟨chain, key⟩ := pair_of_previousPair previous
      exact (files.disk rfl).paired.2 _ _ chain key
  · intro restorable b later
    have present := files.restorable_iff.mp restorable
    have holding : Files true false a := { files with held := fun _ => present }
    have after := (later.files holding trying).1
    exact after.restorable_iff.mpr (after.held rfl)

/-- A reader for which a chain and its key are the same text. -/
def plain : Pki where
  pemSections text := [.ok (text.map fun c => c.toNat.toUInt8)]
  fromDer der := .ok { der, serial := [], notBefore := 0, notAfter := 1, subjectRaw := [], issuerRaw := [], keyBits := []
                       spkiDer := der, selfSigned := false }
  digest _ _ := []
  verifySignature _ _ := false
  keyInfo text := .ok (text.map fun c => c.toNat.toUInt8)

/-- The first certificate arrives and is saved. -/
def certifiedInputs : List SecureInput :=
  [.connect, .connectResult 1 (.ok ()), .sendSignCertificate ['1'], .certificateSigned ['1'] 0,
    .writer (.replaced true), .writer (.replaced true), .saved true]

/-- The station restores its first pair after a crash. -/
theorem crash_keeps_pairs_certified :
    let a := (installed { url := [] } (.new {})).run plain (fun _ => false) certifiedInputs
    ∀ p, (a.restarted { url := [] } (.new {})).currentPair = some p → p ∈ a.adopted := by
  intro a p restored
  have whole : tornOver plain (fun _ => false) false (installed { url := [] } (.new {})) certifiedInputs = false := by
    decide +kernel
  have run : Crashes plain (fun _ => false) (installed { url := [] } (.new {})) false
      (tornOver plain (fun _ => false) false (installed { url := [] } (.new {})) certifiedInputs) a :=
    Crashes.start.inputs certifiedInputs
  rw [whole] at run
  exact (crash_keeps_pairs plain (fun _ => false) _ _ a run).1 _ _ p (.inl restored)

/-- The second certificate arrives; the secrets file is replaced. -/
def renewalInputs : List SecureInput :=
  [.sendSignCertificate ['2'], .certificateSigned ['2'] 0, .writer (.replaced true)]

/-- A crash now finds the old chain with the new key, and no other pair. -/
theorem renewal_tears_files :
    let a := (installed { url := [] } (.new {})).run plain (fun _ => false) certifiedInputs
    let b := a.run plain (fun _ => false) renewalInputs
    let restored := b.restarted { url := [] } (.new {})
    (a.restarted { url := [] } (.new {})).currentPair = some { chainPem := ['1'], keyPem := ['1'] } ∧
    { chainPem := ['1'], keyPem := ['1'] } ∈ a.adopted ∧
    restored.currentPair = some { chainPem := ['1'], keyPem := ['2'] } ∧
    { chainPem := ['1'], keyPem := ['2'] } ∉ b.adopted ∧ restored.previousPair = none := by
  decide +kernel

end KirbyOcpp.SecureActor
