import KirbyOcpp.Station.SmartCharging

/-!
# The charging profile store: `charging_profiles.rs`

`SetChargingProfile`, `ClearChargingProfile`, expiry pruning and the transaction binding of
TxProfiles.
-/

namespace KirbyOcpp

variable {F : Type}

inductive ChargingProfileStatus where
  | accepted | rejected | notSupported
deriving DecidableEq, Repr

/-- Station limits that the store enforces. -/
structure StoreLimits where
  maxStackLevel : Int
  maxInstalled : Nat
  maxPeriods : Nat
  allowedUnits : List ChargingRateUnitType
deriving DecidableEq, Repr

/-- Context of a `set` call. -/
structure ProfileContext where
  now : Instant
  connectorCount : Nat
  /-- Transaction active on the connector the profile is set for. -/
  activeTx : Option TxId
  limits : StoreLimits

/-- The stored profiles, in installation order. -/
abbrev ChargingProfileStore (F : Type) := List (StoredProfile F)

/-- `ClearChargingProfile.req`. -/
structure ClearChargingProfileRequest where
  id : Option Int := none
  connectorId : Option ConnectorId := none
  chargingProfilePurpose : Option ChargingProfilePurposeType := none
  stackLevel : Option Int := none
deriving DecidableEq

namespace ChargingProfileStore

/-- The transaction a profile is bound to, or the status to refuse it with. -/
def admits [Float64 F] (connector : ConnectorId) (profile : ChargingProfile F) (ctx : ProfileContext) :
    Except ChargingProfileStatus (Option TxId) :=
  if !isKnownConnector connector ctx.connectorCount then .error .rejected
  else
    let bound : Except ChargingProfileStatus (Option TxId) :=
      match profile.chargingProfilePurpose with
      | .chargePointMaxProfile => if !isStation connector then .error .rejected else .ok none
      | .txProfile =>
        if isStation connector then .error .rejected
        else match ctx.activeTx with
          | none => .error .rejected
          | some tx =>
            if profile.transactionId.any fun id => decide (tx.wire ≠ some id) then .error .rejected
            else .ok (some tx)
      | .txDefaultProfile => .ok none
    match bound with
    | .error status => .error status
    | .ok boundTx =>
      if (shapeError profile).isSome then .error .rejected
      else if !ctx.limits.allowedUnits.contains profile.chargingSchedule.chargingRateUnit then
        .error .notSupported
      else if profile.stackLevel > ctx.limits.maxStackLevel ∨
          profile.chargingSchedule.chargingSchedulePeriod.length > ctx.limits.maxPeriods then
        .error .rejected
      else .ok boundTx

/-- Removes profiles whose `validTo` has passed. -/
def pruneExpired (profiles : ChargingProfileStore F) (now : Instant) : ChargingProfileStore F :=
  profiles.filter fun stored => !isExpired stored.profile now

/-- `profile` on `connector` takes the place of `stored`. -/
def replaces (connector : ConnectorId) (profile : ChargingProfile F) (stored : StoredProfile F) : Bool :=
  decide (stored.profile.chargingProfileId = profile.chargingProfileId) ||
    (stored.connectorId == connector &&
      decide (stored.profile.stackLevel = profile.stackLevel) &&
      decide (stored.profile.chargingProfilePurpose = profile.chargingProfilePurpose))

/-- `SetChargingProfile`: validates and stores `profile` on `connector`. -/
def set [Float64 F] (profiles : ChargingProfileStore F) (connector : ConnectorId)
    (profile : ChargingProfile F) (ctx : ProfileContext) :
    ChargingProfileStore F × ChargingProfileStatus :=
  let profiles := pruneExpired profiles ctx.now
  match admits connector profile ctx with
  | .error status => (profiles, status)
  | .ok boundTx =>
    let remaining := profiles.filter fun stored => !replaces connector profile stored
    if remaining.length ≥ ctx.limits.maxInstalled then (profiles, .rejected)
    else (remaining ++ [{ connectorId := connector, profile, boundTx, installedAt := some ctx.now }],
      .accepted)

/-- Gives profiles without an install time `now` as their install time. -/
def backfillInstalledAt (profiles : ChargingProfileStore F) (now : Instant) : ChargingProfileStore F :=
  profiles.map fun stored => { stored with installedAt := stored.installedAt.or (some now) }

def matchesFilter (stored : StoredProfile F) (filter : ClearChargingProfileRequest) : Bool :=
  filter.id.all (fun id => decide (stored.profile.chargingProfileId = id)) &&
    filter.connectorId.all (fun connector => stored.connectorId == connector) &&
    filter.chargingProfilePurpose.all
      (fun purpose => decide (stored.profile.chargingProfilePurpose = purpose)) &&
    filter.stackLevel.all fun stack => decide (stored.profile.stackLevel = stack)

/-- `ClearChargingProfile`; whether a profile was removed. -/
def clear (profiles : ChargingProfileStore F) (filter : ClearChargingProfileRequest) (now : Instant) :
    ChargingProfileStore F × Bool :=
  let profiles := pruneExpired profiles now
  let kept := profiles.filter fun stored => !matchesFilter stored filter
  (kept, decide (kept.length < profiles.length))

/-- Removes the TxProfiles bound to `tx`. -/
def onTransactionEnded (profiles : ChargingProfileStore F) (tx : TxId) : ChargingProfileStore F :=
  profiles.filter fun stored =>
    !(decide (stored.profile.chargingProfilePurpose = .txProfile) && decide (stored.boundTx = some tx))

/-- `GetCompositeSchedule` over the stored profiles; expired ones are pruned first. -/
def compositeSchedule [Float64 F] [DecidableEq F] (profiles : ChargingProfileStore F)
    (req : CompositeRequest F) :
    ChargingProfileStore F × Except CompositeError (CompositeSchedule F) :=
  let profiles := pruneExpired profiles req.now
  (profiles, KirbyOcpp.compositeSchedule profiles req)

end ChargingProfileStore

end KirbyOcpp
