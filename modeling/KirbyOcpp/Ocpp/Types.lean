import Mathlib

/-!
# Wire types and identifiers

The enumerations of `ocpp/types.rs`, the typed identifiers of `ids.rs` and the message records
that the station reads or builds. An instant (`DateTime<Utc>`) is its number of nanoseconds since
the epoch; a `TimeDelta` is a number of nanoseconds.

Floating-point numbers enter through the class `Float64`: the operations the source performs, with
no laws. Equality of a carrier stands for `to_bits` equality. `Rat` is the exact instance.
-/

namespace KirbyOcpp

/-! ## Numbers -/

/-- The `f64` operations the source uses, without any law about them. -/
class Float64 (F : Type) where
  /-- `f64::from` of an integer. -/
  ofInt : Int → F
  add : F → F → F
  mul : F → F → F
  div : F → F → F
  /-- The comparison `<`. -/
  lt : F → F → Bool
  /-- `partial_cmp`: `none` when one side is not a number. -/
  partialCmp : F → F → Option Ordering
  isFinite : F → Bool
  /-- Rounding to the nearest integer, halves away from zero. -/
  round : F → F

/-- Halves away from zero, as `f64::round`. -/
def roundHalfAway (q : Rat) : Int :=
  if 0 ≤ q then ⌊q + 1 / 2⌋ else -⌊-q + 1 / 2⌋

/-- Exact arithmetic. -/
instance : Float64 Rat where
  ofInt n := n
  add := (· + ·)
  mul := (· * ·)
  div := (· / ·)
  lt a b := decide (a < b)
  partialCmp a b := some (if a < b then .lt else if b < a then .gt else .eq)
  isFinite _ := true
  round q := roundHalfAway q

/-! ## Time -/

/-- `DateTime<Utc>`: nanoseconds since the epoch. -/
abbrev Instant := Int

/-- Nanoseconds in a millisecond. -/
def nanosPerMilli : Int := 1000000

/-- Nanoseconds in a second. -/
def nanosPerSecond : Int := 1000000000

/-- `TimeDelta::num_milliseconds`: whole milliseconds, towards zero. -/
def numMilliseconds (delta : Int) : Int := delta.tdiv nanosPerMilli

/-- `TimeDelta::seconds`. -/
def seconds (n : Int) : Int := n * nanosPerSecond

/-- `TimeDelta::milliseconds`. -/
def milliseconds (n : Int) : Int := n * nanosPerMilli

/-! ## Identifiers -/

/-- Connector number: `0` is the charge point, `1..` are physical connectors. -/
abbrev ConnectorId := Nat

/-- Connector `0`: the charge point itself. -/
def station : ConnectorId := 0

/-- `ConnectorId::is_station`. -/
def isStation (id : ConnectorId) : Bool := id == station

/-- Reservation id as the CSMS assigns it. -/
abbrev ReservationId := Int

/-- Maximum length of an `IdToken` (`CiString20Type`). -/
def idTagMaxLen : Nat := 20

/-- `IdTag`: a token of at most `idTagMaxLen` characters. -/
structure IdTag where
  chars : List Char
  bounded : chars.length ≤ idTagMaxLen := by decide
deriving DecidableEq

/-- A token of one character. -/
def IdTag.single (c : Char) : IdTag := { chars := [c], bounded := Nat.le_of_ble_eq_true rfl }

/-- A transaction id: assigned by the CSMS, or a placeholder of the station. -/
inductive TxId where
  | csms (id : Int)
  | loc (key : Nat)
deriving DecidableEq, Repr

/-- `TxId::wire`: the wire value of an id the CSMS assigned. -/
def TxId.wire : TxId → Option Int
  | .csms id => some id
  | .loc _ => none

/-- `TxId::is_local`. -/
def TxId.isLocal : TxId → Bool
  | .csms _ => false
  | .loc _ => true

/-! ## Charging profiles -/

inductive ChargingProfilePurposeType where
  | chargePointMaxProfile | txDefaultProfile | txProfile
deriving DecidableEq, Repr

inductive ChargingProfileKindType where
  | absolute | recurring | relative
deriving DecidableEq, Repr

inductive RecurrencyKindType where
  | daily | weekly
deriving DecidableEq, Repr

inductive ChargingRateUnitType where
  | W | A
deriving DecidableEq, Repr

/-- `ChargingSchedulePeriod`. -/
structure ChargingSchedulePeriod (F : Type) where
  startPeriod : Int
  limit : F
  numberPhases : Option Int
deriving DecidableEq, Repr

/-- `ChargingSchedule`. -/
structure ChargingSchedule (F : Type) where
  duration : Option Int
  startSchedule : Option Instant
  chargingRateUnit : ChargingRateUnitType
  chargingSchedulePeriod : List (ChargingSchedulePeriod F)
  minChargingRate : Option F
deriving DecidableEq, Repr

/-- `ChargingProfile`. -/
structure ChargingProfile (F : Type) where
  chargingProfileId : Int
  transactionId : Option Int
  stackLevel : Int
  chargingProfilePurpose : ChargingProfilePurposeType
  chargingProfileKind : ChargingProfileKindType
  recurrencyKind : Option RecurrencyKindType
  validFrom : Option Instant
  validTo : Option Instant
  chargingSchedule : ChargingSchedule F
deriving DecidableEq, Repr

end KirbyOcpp
