import KirbyOcpp.Ocpp.Types

/-!
# The power model of `metering.rs`

A charging connector draws the smaller of its nominal power and the charging limit in force.
-/

namespace KirbyOcpp

variable {F : Type} [Float64 F]

/-- Electrical parameters of the station. -/
structure PowerModel (F : Type) where
  /-- Nominal power of one connector in watts. -/
  nominalW : F
  /-- Voltage per phase in volts. -/
  voltageV : F
  /-- Phases the station charges with. -/
  phases : Nat
deriving DecidableEq, Repr

/-- `PowerModel::from_config`: the unsigned settings of the station. -/
def PowerModel.fromConfig (nominalPowerW voltageV phases : Nat) : PowerModel F :=
  { nominalW := Float64.ofInt nominalPowerW, voltageV := Float64.ofInt voltageV
    phases := max phases 1 }

/-- `i32::clamp`. -/
def clampInt (value low high : Int) : Int :=
  if value < low then low else if value > high then high else value

/-- `f64::clamp`. -/
def clampFloat (value low high : F) : F :=
  if Float64.lt value low then low else if Float64.lt high value then high else value

/-- Phases used for a schedule period: `numberPhases`, at most what the station has. -/
def PowerModel.periodPhases (model : PowerModel F) (numberPhases : Option Int) : F :=
  let station : Int := model.phases
  Float64.ofInt (numberPhases.elim station fun n => clampInt n 1 station)

/-- Power of `amps` per phase on `numberPhases` phases. -/
def PowerModel.ampsToWatts (model : PowerModel F) (amps : F) (numberPhases : Option Int) : F :=
  Float64.mul (Float64.mul amps model.voltageV) (model.periodPhases numberPhases)

/-- Current per phase that `watts` need on all of the station's phases. -/
def PowerModel.wattsToAmps (model : PowerModel F) (watts : F) : F :=
  Float64.div watts (Float64.mul model.voltageV (Float64.ofInt model.phases))

/-- The power a connector can draw under `limitW` (`none` is no limit). -/
def PowerModel.effectiveW (model : PowerModel F) (limitW : Option F) : F :=
  limitW.elim model.nominalW fun limit => clampFloat limit (Float64.ofInt 0) model.nominalW

/-- The nominal power of a configured station is not negative. -/
theorem PowerModel.fromConfig_nominal (nominalPowerW voltageV phases : Nat) :
    0 ≤ (PowerModel.fromConfig nominalPowerW voltageV phases : PowerModel Rat).nominalW :=
  Int.cast_nonneg (Int.natCast_nonneg nominalPowerW)

end KirbyOcpp
