import KirbyOcpp.Laws.Station.Permissions
import KirbyOcpp.Laws.Station.Sync

/-!
# Accepted boots: `after_boot_accepted`, `finish_boot_accepted`

An accepted boot is completed at once, or by the sync that follows it (`sync_boot`). A sync of another origin
that is still running takes the place of that sync: nothing completes the boot then.

**The law** `accepted_boots_complete`: where no boot is accepted during a sync of another origin, an accepted
boot has been completed after its iteration or its sync runs, and `sync_boot` ends by the completion of the boot
or by the end of the registration.
-/

namespace KirbyOcpp

open Paths Relation

variable {allow : Allow} {l l' : Ledger}

/-! ## What a transition does to boots -/

/-- What a transition does to boots and to the sync that follows one. -/
inductive BootMove (allow : Allow) (l l' : Ledger) : Prop
  | elsewhere (boot : l'.syncBoot = l.syncBoot) (registration : l'.registration = l.registration)
      (hand : l.hand.boots = true → l'.hand = l.hand)
  | accepted (hand : l.hand = .booted) (next : l'.hand = .boot) (registration : l'.registration = some .accepted)
  | finished (hand : l.hand = .boot) (noted : l'.history = .bootFinished :: l.history)
      (registration : l'.registration = l.registration)
  | joined (hand : l.hand = .boot) (own : allow.forgetBoot = true ∨ l.syncBoot = true)
      (boot : l'.syncBoot = l.syncBoot) (registration : l'.registration = l.registration)
  | began (boot : Bool) (hand : l.hand = if boot then .boot else .none) (free : l.syncOutstanding = 0)
      (next : l'.syncBoot = boot) (registration : l'.registration = l.registration)
  | ended (hand : l.hand = .sync)
      (next : l'.hand = if l.syncBoot ∧ l.registration = some .accepted then .boot else .none)
      (registration : l'.registration = l.registration)
  | lowered (may : allow.closes = true ∨ allow.lowers = true) (registration : l'.registration ≠ some .accepted)

/-- An operation outside the boots. -/
theorem BootMove.outside (hand : l.hand.boots = false) (boot : l'.syncBoot = l.syncBoot)
    (registration : l'.registration = l.registration) : BootMove allow l l' :=
  .elsewhere boot registration fun boots => by
    rw [hand] at boots
    cases boots

theorem Trans.bootMove (step : Trans allow l l') : BootMove allow l l' := by
  cases step with
  | quiet step => cases step <;> exact .elsewhere rfl rfl fun _ => rfl
  | takeCall call result hand => exact .outside (by rw [hand]; rfl) rfl rfl
  | takeRest call rest error hand => exact .outside (by rw [hand]; rfl) rfl rfl
  | requeue event hand => exact .outside (by rw [hand]; rfl) rfl rfl
  | openStart id c pending hand => exact .outside (by rw [hand]; rfl) rfl rfl
  | sendStart id pending call done hand => exact .outside (by rw [hand]; rfl) rfl rfl
  | charge id pending c hand => exact .outside (by rw [hand]; rfl) rfl rfl
  | queueStart id pending entry hand => exact .outside (by rw [hand]; rfl) rfl rfl
  | abandonStart id localId c hand => exact .outside (by rw [hand]; rfl) rfl rfl
  | loseStart id localId hand => exact .outside (by rw [hand]; rfl) rfl rfl
  | activate id localId transactionId c active hand => exact .outside (by rw [hand]; rfl) rfl rfl
  | refuseOpened id localId transactionId c hand => exact .outside (by rw [hand]; rfl) rfl rfl
  | refuseLost id localId transactionId hand => exact .outside (by rw [hand]; rfl) rfl rfl
  | sendClose session sync call hand => exact .outside (by rw [hand]; rfl) rfl rfl
  | skipClose session sync hand => exact .outside (by rw [hand]; rfl) rfl rfl
  | beginStop id c tx info f hand => exact .outside (by rw [hand]; rfl) rfl rfl
  | markStopping id tx info stopping c hand => exact .outside (by rw [hand]; rfl) rfl rfl
  | sendStop id tx tag startedAt meterStartWh info done call wire hand => exact .outside (by rw [hand]; rfl) rfl rfl
  | queueStop id tx info e hand =>
    exact .outside (by rcases hand with hand | hand <;> rw [hand] <;> rfl) rfl rfl
  | queueNewStop id tx info entry hand =>
    exact .outside (by rcases hand with hand | hand <;> rw [hand] <;> rfl) rfl rfl
  | confirmStop id tx info hand => exact .outside (by rw [hand]; rfl) rfl rfl
  | beginSync boot keys hand conn free => exact .began boot hand free rfl rfl
  | sendNext key keys e request cont call hand => exact .outside (by rw [hand]; rfl) rfl rfl
  | skipNext key keys hand => exact .outside (by rw [hand]; rfl) rfl rfl
  | release key hand => exact .outside (by rcases hand with hand | hand <;> rw [hand] <;> rfl) rfl rfl
  | finishSync hand => exact .ended hand rfl rfl
  | missing key transactionId hand => exact .outside (by rw [hand]; rfl) rfl rfl
  | assign key transactionId e hand => exact .outside (by rw [hand]; rfl) rfl rfl
  | refuseQueued key transactionId e hand => exact .outside (by rw [hand]; rfl) rfl rfl
  | sendReady key e request cont call hand => exact .outside (by rw [hand]; rfl) rfl rfl
  | confirmQueued key info hand => exact .outside (by rw [hand]; rfl) rfl rfl
  | dropLink hand rest running closes => exact .lowered (.inl closes) nofun
  | register status other lowers => exact .lowered (.inr lowers) other
  | acceptBoot hand => exact .accepted hand rfl rfl
  | joinSync hand running own => exact .joined hand own rfl rfl
  | finishBoot hand => exact .finished hand rfl rfl
  | halt hand rest closes => exact .lowered (.inl closes) nofun
  | _ => exact .elsewhere rfl rfl fun _ => rfl

/-! ## A boot that waits -/

/-- Since the history was `old` the boot has been completed, or it waits for the operation or for its sync. -/
def Attended (old : List Event) (l : Ledger) : Prop :=
  (∃ recent, l.history = recent ++ old ∧ .bootFinished ∈ recent) ∨
    (old <:+ l.history ∧
      (l.hand.boots = true ∨ l.syncBoot = true ∨ l.registration ≠ some .accepted))

theorem Trans.attended (step : Trans allow l l') (own : allow.forgetBoot = false) (counted : Counted l)
    {old : List Event} (h : Attended old l) : Attended old l' := by
  obtain ⟨more, grown⟩ := step.history
  rcases h with ⟨recent, history, finished⟩ | ⟨⟨recent, history⟩, waits⟩
  · refine .inl ⟨more ++ recent, ?_, List.mem_append_right _ finished⟩
    rw [← grown, history, List.append_assoc]
  · have older : old <:+ l'.history := ⟨more ++ recent, by rw [List.append_assoc, history, grown]⟩
    cases step.bootMove with
    | elsewhere boot registration hand =>
      refine .inr ⟨older, ?_⟩
      rw [boot, registration]
      exact waits.imp_left fun boots => by rwa [hand boots]
    | accepted hand next => exact .inr ⟨older, .inl (by rw [next]; rfl)⟩
    | finished hand noted =>
      refine .inl ⟨.bootFinished :: recent, ?_, List.mem_cons_self⟩
      rw [noted, ← history, List.cons_append]
    | joined hand same boot =>
      refine .inr ⟨older, .inr (.inl ?_)⟩
      rw [boot]
      exact same.resolve_left (by simp [own])
    | began boot hand free next registration =>
      refine .inr ⟨older, ?_⟩
      rw [next, registration]
      cases boot with
      | true => exact .inr (.inl rfl)
      | false =>
        -- a sync that follows a boot would still be busy
        rcases waits with boots | busy | lowered
        · rw [hand] at boots
          cases boots
        · rcases counted.busy busy with sync | outstanding
          · rw [hand] at sync
            cases sync
          · omega
        · exact .inr (.inr lowered)
    | ended hand next registration =>
      refine .inr ⟨older, ?_⟩
      rw [next, registration]
      by_cases both : l.syncBoot = true ∧ l.registration = some .accepted
      · rw [if_pos both]
        exact .inl rfl
      · refine .inr (.inr fun accepted => ?_)
        rcases waits with boots | busy | lowered
        · rw [hand] at boots
          cases boots
        · exact both ⟨busy, accepted⟩
        · exact lowered accepted
    | lowered may registration => exact .inr ⟨older, .inr (.inr registration)⟩

/-- A boot that is being answered is accepted, and the registration stays. -/
theorem Trans.registered (step : Trans allow l l') (kept : allow.closes = false) (raised : allow.lowers = false)
    (h : l.hand = .booted ∨ l.registration = some .accepted) :
    l'.hand = .booted ∨ l'.registration = some .accepted := by
  cases step.bootMove with
  | elsewhere boot registration hand =>
    rw [registration]
    exact h.imp_left fun booted => (hand (by rw [booted]; rfl)).trans booted
  | accepted hand next registration => exact .inr registration
  | finished hand noted registration =>
    rw [hand] at h
    exact .inr (registration.trans (h.resolve_left nofun))
  | joined hand own boot registration =>
    rw [hand] at h
    exact .inr (registration.trans (h.resolve_left nofun))
  | began boot hand free next registration =>
    refine .inr (registration.trans (h.resolve_left ?_))
    rw [hand]
    cases boot <;> exact nofun
  | ended hand next registration =>
    rw [hand] at h
    exact .inr (registration.trans (h.resolve_left nofun))
  | lowered may => rcases may with may | may <;> simp_all

/-! ## Every reachable state -/

namespace Actor

/-- No boot is accepted during a sync that does not follow one. -/
def OwnBoots (a : Actor) (wake : Wake) : Prop := a.AcceptsBoot wake.input → a.OwnSync

/-- `finish_boot_accepted` has run on the way from `a` to `b`. -/
def FinishesBoot (a b : Actor) : Prop := ∃ recent, b.history = recent ++ a.history ∧ .bootFinished ∈ recent

theorem permits_ownBoots {a : Actor} {wake : Wake} (own : a.OwnBoots wake) :
    Permits (allowing true true false) (a.woken wake) wake.input :=
  permits_allowing _ (.inl rfl) (.inl rfl) (.inr own)

/-- The counter is right, and a boot that waited has been completed or still waits. -/
theorem attended_preserved (own : allow.forgetBoot = false) (old : List Event) :
    Preserves (Trans allow) fun l => (Fates l ∧ Counted l) ∧ Attended old l :=
  (fates_counted allow).and fun _ _ step counted h => step.attended own counted.2 h

/-- A sync that follows a boot ends by the completion of the boot, or by the end of the registration. -/
theorem step_attends {a : Actor} (counts : a.CountsSync) {wake : Wake} (own : a.OwnBoots wake)
    (boot : a.syncBoot = true) (registered : (a.step wake).registration = some .accepted) :
    (a.step wake).syncBoot = true ∨ a.FinishesBoot (a.step wake) := by
  have path := a.step_path wake counts.1 (permits_ownBoots own)
  have attended : Attended a.history (a.ledger [] .none) := .inr ⟨List.suffix_rfl, .inr (.inl boot)⟩
  obtain ⟨-, finished | ⟨-, waits⟩⟩ := (attended_preserved rfl a.history).path path ⟨counts.2, attended⟩
  · exact .inr finished
  · rcases waits with boots | busy | lowered
    · cases boots
    · exact .inl busy
    · exact absurd registered lowered

/-- An accepted boot: it has been completed, or its sync runs. -/
theorem step_acceptsBoot {a : Actor} (counts : a.CountsSync) {wake : Wake} (own : a.OwnBoots wake)
    (running : a.stopped = false) (accepts : a.AcceptsBoot wake.input) :
    (a.step wake).registration = some .accepted ∧
      (a.FinishesBoot (a.step wake) ∨ ((a.step wake).syncBoot = true ∧ 0 < (a.step wake).syncOutstanding)) := by
  have ownSync := own accepts
  obtain ⟨token, result, call, input, found, generation, reply, response, cont, decoded, accepted⟩ := accepts
  obtain rfl : call.token = token := by simpa using List.find?_some found
  -- nothing but the answer is allowed to this iteration
  set narrow : Allow := { closes := false, lowers := false, forgetBoot := false }
  set b := a.woken wake with hb
  set taken : Actor := { b with calls := b.calls.filter fun c => !(c.token == call.token) }
  set c := taken.record (.completed call result)
  have booted : Hand.ofResult call.continuation result = .booted := by
    unfold Hand.ofResult
    rw [cont]
    dsimp only
    rw [decoded]
    dsimp only
    rw [if_pos accepted]
  have handled : b.handle wake.input = runCont call.continuation result c := by
    rw [input]
    unfold handle onCallDone
    dsimp only
    rw [if_neg (by exact not_not_intro rfl)]
    have found : (b.calls.find? fun c => c.token == call.token) = some call := found
    rw [found]
    rfl
  have may : MayComplete narrow c call.continuation result := by
    rw [cont]
    intro other same
    obtain rfl := Except.ok.inj (decoded.symm.trans same)
    rw [if_pos accepted]
    exact .inr ownSync
  have run : Path narrow (c.ledger [] .booted) ((a.step wake).ledger [] .none) := by
    have answered : Path narrow (c.ledger [] .booted) ((b.handle wake.input).ledger [] .none) := by
      rw [handled, ← booted]
      exact runCont_path call.continuation result c may
    refine answered.trans ?_
    unfold step
    rw [if_neg (by simp [running])]
    dsimp only
    split
    · exact .refl
    · exact (settleMeters_quiet _).path [] .none
  have before : (Fates (c.ledger [] .booted) ∧ Counted (c.ledger [] .booted)) := by
    have woken := (fates_counted narrow).path ((a.woken_quiet wake).path [] .none) counts.2
    have take : Trans narrow (b.ledger [] .none) (c.ledger [] (.ofResult call.continuation result)) :=
      .takeCall (b.ledger [] .none) call result rfl rfl running found
    rw [booted] at take
    exact fates_counted narrow take woken
  have attended : Attended a.history (c.ledger [] .booted) := .inr ⟨List.suffix_cons _ _, .inl rfl⟩
  have registered : (a.step wake).registration = some .accepted := by
    have registered : Preserves (Trans narrow) fun l => l.hand = .booted ∨ l.registration = some .accepted :=
      fun _ _ step h => step.registered rfl rfl h
    exact (registered.path run (.inl rfl)).resolve_left nofun
  obtain ⟨⟨-, counted⟩, finished | ⟨-, waits⟩⟩ := (attended_preserved rfl a.history).path run ⟨before, attended⟩
  · exact ⟨registered, .inl finished⟩
  · rcases waits with boots | busy | lowered
    · cases boots
    · exact ⟨registered, .inr ⟨busy, (counted.busy busy).resolve_left nofun⟩⟩
    · exact absurd registered lowered

/-- **Accepted boots are completed.** Where no boot is accepted during a sync that does not follow one: after the
iteration in which a boot is accepted, `finish_boot_accepted` has run or a sync runs with `sync_boot`; and as long
as the station is registered, `sync_boot` ends by `finish_boot_accepted` only. -/
theorem accepted_boots_complete {a : Actor} (h : Reachable OwnBoots a) (wake : Wake) (own : a.OwnBoots wake) :
    (a.stopped = false → a.AcceptsBoot wake.input →
      (a.step wake).registration = some .accepted ∧
        (a.FinishesBoot (a.step wake) ∨ ((a.step wake).syncBoot = true ∧ 0 < (a.step wake).syncOutstanding))) ∧
    (a.syncBoot = true → (a.step wake).registration = some .accepted →
      (a.step wake).syncBoot = true ∨ a.FinishesBoot (a.step wake)) := by
  have counts := reachable_countsSync h
  exact ⟨step_acceptsBoot counts own, step_attends counts own⟩

/-- The first boot of a station is accepted. -/
theorem accepted_boots_complete_first :
    let a := (start { connectorCount := 1 } {} 1000000000000 0 none).replay 1000000000000 0
      [.command .connect 0, .connected 1 true none]
    let wake : Wake := { input := .callDone 0 1 (.ok (.boot .accepted 0 0)), now := 1000000000000, mono := 0 }
    (a.step wake).registration = some .accepted ∧
      (a.FinishesBoot (a.step wake) ∨ ((a.step wake).syncBoot = true ∧ 0 < (a.step wake).syncOutstanding)) := by
  intro a wake
  have reached : Reachable OwnBoots a := by
    refine .fresh _ _ _ _ (Runs.replay _ _ _ _ fun input mem b accepts => ?_)
    obtain ⟨token, result, call, same, -⟩ := accepts
    simp only [List.mem_cons, List.not_mem_nil, or_false] at mem
    rcases mem with rfl | rfl <;> cases same
  have generation : a.link.generation = 1 := by decide +kernel
  have accepts : a.AcceptsBoot wake.input := by
    refine ⟨0, .ok (.boot .accepted 0 0),
      { token := 0, generation := 1, request := .bootNotification, origin := .station, continuation := .boot 1 none
        attempts := 1 },
      ?_, ?_, 1, none, { status := .accepted, currentTime := 0, interval := 0 }, rfl, rfl, rfl⟩
    · rw [generation]
    · decide +kernel
  exact (accepted_boots_complete reached wake fun _ => .inl (by decide +kernel)).1 (by decide +kernel) accepts

/-- How often `finish_boot_accepted` has run. -/
def finishedBoots (a : Actor) : Nat := a.history.countP fun event => event matches .bootFinished

theorem FinishesBoot.finishedBoots {a b : Actor} (h : a.FinishesBoot b) : a.finishedBoots < b.finishedBoots := by
  obtain ⟨recent, history, finished⟩ := h
  have one : 0 < recent.countP fun event => event matches .bootFinished :=
    List.countP_pos_iff.mpr ⟨.bootFinished, finished, rfl⟩
  unfold Actor.finishedBoots
  rw [history, List.countP_append]
  omega

/-- A stop was queued after its CALL timed out, and its retry is in flight when the operator has the station boot
again: the accepted boot is not completed, and nothing remembers it. -/
theorem retry_swallows_boot :
    let inputs : List Input :=
      [.command .connect 0, .connected 1 true none, .callDone 0 1 (.ok (.boot .accepted 0 0)),
        .command (.startTransaction 1 { chars := ['A'] }) 2,
        .callDone 5 1 (.ok (.startTransaction 7 { status := .accepted })),
        .command (.stopTransaction 1 .«local» none) 3, .callDone 8 1 (.error .timeout), .timer .syncRetry,
        .command .boot 4]
    let a := (start { connectorCount := 1 } {} 1000000000000 0 none).replay 1000000000000 0 inputs
    let wake : Wake := { input := .callDone 10 1 (.ok (.boot .accepted 0 0)), now := 1000000000000, mono := 0 }
    Reachable (fun _ _ => True) a ∧ a.stopped = false ∧ a.AcceptsBoot wake.input ∧
      (a.step wake).syncBoot = false ∧ ¬a.FinishesBoot (a.step wake) := by
  intro inputs a wake
  have generation : a.link.generation = 1 := by decide +kernel
  have accepts : a.AcceptsBoot wake.input := by
    refine ⟨10, .ok (.boot .accepted 0 0),
      { token := 10, generation := 1, request := .bootNotification, origin := .station, continuation := .boot 1 (some 4)
        attempts := 1 },
      ?_, ?_, 1, some 4, { status := .accepted, currentTime := 0, interval := 0 }, rfl, rfl, rfl⟩
    · rw [generation]
    · decide +kernel
  refine ⟨.replay _ _ _ _ _ inputs, by decide +kernel, accepts, by decide +kernel, fun finishes => ?_⟩
  exact absurd finishes.finishedBoots (by decide +kernel)

end Actor

end KirbyOcpp
