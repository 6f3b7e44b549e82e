import KirbyOcpp.Laws.Station.Charging

/-!
# Runs that leave a few inputs out

A property that only a status set by hand, a shutdown or an accepted boot can break holds in every run without
these inputs: `permits_allowing` says what an input asks for where all other permissions are given.
-/

namespace KirbyOcpp

open Paths Relation

variable {allow : Allow} {l l' : Ledger}

/-! ## Histories -/

/-- The history only grows. -/
theorem Trans.history (step : Trans allow l l') : l.history <:+ l'.history := by
  cases step with
  | quiet step =>
    cases step with
    | raise => exact (List.suffix_cons _ _).trans (List.suffix_cons _ _)
    | _ => first | exact List.suffix_rfl | exact List.suffix_cons _ _
  | queueStart => exact List.suffix_append _ _
  | queueNewStop => exact List.suffix_append _ _
  | _ => first | exact List.suffix_rfl | exact List.suffix_cons _ _

theorem path_history (path : Path allow l l') : l.history <:+ l'.history := by
  induction path with
  | refl => exact List.suffix_rfl
  | tail _ step ih => exact ih.trans step.history

/-! ## Permissions -/

namespace Actor

/-- Everything is allowed, with or without statuses set by hand, a shutdown that leaves CALLs in flight, and boots
that are accepted during a sync of another origin. -/
def allowing (manual abandon forgetBoot : Bool) : Allow := { manual, abandon, forgetBoot }

/-- `continuation` accepts a boot with `result`. -/
def AcceptsBootWith (continuation : Cont) (result : CallResult) : Prop :=
  ∃ generation reply response, continuation = .boot generation reply ∧ decodeBoot result = .ok response ∧
    response.status = .accepted

/-- The CALL that `input` completes is a boot, and the Central System accepts it. -/
def AcceptsBoot (a : Actor) (input : Input) : Prop :=
  ∃ token result call, input = .callDone token a.link.generation result ∧
    (a.calls.find? fun call => call.token == token) = some call ∧ AcceptsBootWith call.continuation result

/-- No sync runs that does not follow a boot. -/
def OwnSync (a : Actor) : Prop := a.syncOutstanding = 0 ∨ a.syncBoot = true

theorem mayComplete_allowing {manual abandon forgetBoot : Bool} (a : Actor) (continuation : Cont) (result : CallResult)
    (own : forgetBoot = true ∨ (AcceptsBootWith continuation result → a.OwnSync)) :
    MayComplete (allowing manual abandon forgetBoot) a continuation result := by
  cases continuation with
  | startResult => exact fun _ _ _ => ⟨.inl rfl, .inl rfl, rfl⟩
  | stopResult => exact ⟨.inl rfl, fun _ => .inl rfl⟩
  | syncStart =>
    intro response e _ _
    unfold MayDeliver
    split
    · exact ⟨.inl rfl, .inl rfl⟩
    · exact ⟨rfl, .inl rfl, .inl rfl⟩
  | authorize _ done =>
    cases done with
    | reply => trivial
    | remoteStart => exact fun _ _ _ _ => ⟨rfl, fun _ => .inl rfl⟩
  | meterValues => exact fun _ => rfl
  | boot generation reply =>
    intro response decoded
    split
    · rename_i accepted
      exact own.imp_right fun own => own ⟨generation, reply, response, rfl, decoded, accepted⟩
    · rfl
  | _ => trivial

/-- What an input asks for, where only the answers to CALLs ask for more than everything that is allowed. -/
theorem permits_of_complete {manual abandon forgetBoot leave share : Bool} (a : Actor) {input : Input}
    (unset : manual = true ∨ ¬SetsStatus input)
    (drained : abandon = true ∨ ∀ reply, input = .shutdown reply → a.drain.calls = [])
    (complete : ∀ token result call, input = .callDone token a.link.generation result →
      (a.calls.find? fun call => call.token == token) = some call →
        MayComplete { manual, abandon, forgetBoot, leave, share } a call.continuation result) :
    Permits { manual, abandon, forgetBoot, leave, share } a input := by
  have closes : Allow.Closes { manual, abandon, forgetBoot, leave, share } a.limited := ⟨rfl, rfl, .inl fun _ => rfl⟩
  have byHand (sets : SetsStatus input) : Allow.Manual { manual, abandon, forgetBoot, leave, share } :=
    ⟨unset.resolve_right fun unset => unset sets, rfl, rfl⟩
  cases input with
  | shutdown reply => exact ⟨closes, drained.imp_right fun drained => drained reply rfl⟩
  | command command reply =>
    cases command with
    | startTransaction => exact ⟨rfl, fun _ => .inl rfl⟩
    | stopTransaction => rfl
    | meterValues => exact fun _ => rfl
    | plugIn => exact .inl rfl
    | fault => exact ⟨rfl, rfl⟩
    | clearFault => exact ⟨.inl rfl, .inl rfl⟩
    | unplug => exact ⟨.inl rfl, .inl rfl, .inl rfl⟩
    | setConnectorStatus => exact byHand trivial
    | cycleConnectorStatus => exact byHand trivial
    | disconnect => exact closes
    | reconnect => exact closes
    | _ => trivial
  | incoming call =>
    intro conn
    cases call with
    | remoteStart connectorId idTag profile =>
      intro id _
      split
      · exact fun _ _ _ => ⟨rfl, fun _ => .inl rfl⟩
      · exact ⟨rfl, fun _ => .inl rfl⟩
    | remoteStop => exact fun _ _ _ => rfl
    | unlockConnector => rfl
    | changeAvailability => rfl
    | reserveNow => exact .inl rfl
    | cancelReservation => exact .inl rfl
    | reset => exact ⟨rfl, fun _ _ _ => rfl, .inl rfl, .inl rfl⟩
    | _ => trivial
  | closed => exact closes
  | connected => rfl
  | callDone token generation result =>
    intro current call found
    subst current
    exact complete token result call rfl found
  | saved => trivial
  | timer key =>
    cases key with
    | meterPeriodic => exact fun _ => rfl
    | meterAligned => exact .inl fun _ => rfl
    | reservationExpiry => exact .inl rfl
    | hardReset => exact closes
    | _ => trivial
  | maintenance => trivial

theorem permits_allowing {manual abandon forgetBoot : Bool} (a : Actor) {input : Input}
    (unset : manual = true ∨ ¬SetsStatus input)
    (drained : abandon = true ∨ ∀ reply, input = .shutdown reply → a.drain.calls = [])
    (own : forgetBoot = true ∨ (a.AcceptsBoot input → a.OwnSync)) :
    Permits (allowing manual abandon forgetBoot) a input :=
  a.permits_of_complete unset drained fun token result call same found =>
    a.mayComplete_allowing call.continuation result (own.imp_right fun own accepts => own
      ⟨token, result, call, same, found, accepts⟩)

end Actor

end KirbyOcpp
