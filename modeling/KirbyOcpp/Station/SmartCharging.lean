import KirbyOcpp.Station.Metering
import KirbyOcpp.Data.Windows

/-!
# Smart charging: `smart_charging.rs`

Profile validity, schedule evaluation, the composite schedule and the energy integral.

Schedules are evaluated at instants of an ordered ring `T` with a floor. The source's instants are
`T = Int` (nanoseconds), where the floor is the identity; the same formula over the reals is what
the energy is an integral of. Profiles always name whole nanoseconds.

`windows` and `sortDedup` are Rust's `windows(2)` and `sort_unstable` with `dedup`.
`checked_add_signed` and `try_milliseconds` fail only outside chrono's range of ±262 000 years,
which `Instant` does not have; `offsetMs` is therefore total.
-/

namespace KirbyOcpp

variable {F : Type} [Float64 F]
variable {T : Type} [Ring T] [LinearOrder T] [FloorRing T]

/-- Seconds in a day (daily recurrence period). -/
def daySeconds : Int := 86400
/-- Seconds in a week (weekly recurrence period). -/
def weekSeconds : Int := 604800
/-- Longest window a composite schedule covers. -/
def maxCompositeDurationS : Int := 604800
/-- Most periods in a composite schedule. -/
def maxCompositePeriods : Nat := 1000

/-- Structural problem of a `ChargingProfile`. -/
inductive ShapeError where
  | negativeStackLevel
  | noPeriods
  | firstPeriodNotZero
  | periodsNotIncreasing
  | invalidLimit
  | nonPositiveDuration
deriving DecidableEq, Repr

/-- Checks the structure of a profile; the first problem found. -/
def shapeError (profile : ChargingProfile F) : Option ShapeError :=
  let schedule := profile.chargingSchedule
  let periods := schedule.chargingSchedulePeriod
  if profile.stackLevel < 0 then some .negativeStackLevel
  else if schedule.duration.any (fun duration => duration ≤ 0) then some .nonPositiveDuration
  else match periods.head? with
    | none => some .noPeriods
    | some first =>
      if first.startPeriod ≠ 0 then some .firstPeriodNotZero
      else if (windows periods).any (fun pair => pair.2.startPeriod ≤ pair.1.startPeriod) then
        some .periodsNotIncreasing
      else if periods.any (fun period =>
          !Float64.isFinite period.limit || Float64.lt period.limit (Float64.ofInt 0)) then
        some .invalidLimit
      else none

/-- Inside the profile's `validFrom`/`validTo` window (both inclusive). -/
def isValidAt (profile : ChargingProfile F) (at' : T) : Bool :=
  profile.validFrom.all (fun (start : Instant) => decide ((start : T) ≤ at')) &&
    profile.validTo.all (fun (stop : Instant) => decide (at' ≤ (stop : T)))

/-- The profile's `validTo` lies before `at'`. -/
def isExpired (profile : ChargingProfile F) (at' : Instant) : Bool :=
  profile.validTo.any (fun stop => decide (stop < at'))

/-- Length of one recurrence cycle in milliseconds; `none` for non-recurring profiles. -/
def recurrencePeriodMs (profile : ChargingProfile F) : Option Int :=
  if profile.chargingProfileKind ≠ .recurring then none
  else match profile.recurrencyKind with
    | some .weekly => some (weekSeconds * 1000)
    | some .daily | none => some (daySeconds * 1000)

/-- The instant that elapsed time of a profile's schedule is counted from. -/
def scheduleBase (profile : ChargingProfile F) (relativeStart installedAt : Option Instant)
    (fallbackStart : Instant) : Instant :=
  match profile.chargingProfileKind with
  | .relative => relativeStart.getD fallbackStart
  | .absolute | .recurring =>
    ((profile.chargingSchedule.startSchedule.or profile.validFrom).or installedAt).getD fallbackStart

/-- Whole milliseconds from `base` to a later instant. -/
def elapsedMilliseconds (at' : T) (base : Instant) : Int := ⌊at' - (base : T)⌋ / nanosPerMilli

/-- `max_by_key` over the start of the periods: the last one among equals. -/
def maxByStart : List (ChargingSchedulePeriod F) → Option (ChargingSchedulePeriod F)
  | [] => none
  | period :: rest =>
    match maxByStart rest with
    | none => some period
    | some best => if best.startPeriod < period.startPeriod then some period else some best

/-- The period of `schedule` after `elapsed` milliseconds; none past its `duration`. -/
def periodAfter (schedule : ChargingSchedule F) (elapsed : Int) : Option (ChargingSchedulePeriod F) :=
  if schedule.duration.any (fun duration => decide (duration * 1000 ≤ elapsed)) then none
  else maxByStart (schedule.chargingSchedulePeriod.filter fun period =>
    period.startPeriod * 1000 ≤ elapsed)

/-- The schedule period in force for `profile` at `at'`, if any; `base` comes from `scheduleBase`. -/
def periodAt (profile : ChargingProfile F) (at' : T) (base : Instant) :
    Option (ChargingSchedulePeriod F) :=
  if !isValidAt profile at' || decide (at' < (base : T)) then none
  else
    let elapsed := elapsedMilliseconds at' base
    let elapsed := (recurrencePeriodMs profile).elim elapsed fun cycle => elapsed % cycle
    periodAfter profile.chargingSchedule elapsed

/-- `instant` moved by `ms` milliseconds. -/
def offsetMs (instant : Instant) (ms : Int) : Instant := instant + ms * nanosPerMilli

/-- The instants of one cycle of `schedule` that starts at `cycleStart`. -/
def cycleInstants (schedule : ChargingSchedule F) (cycleStart : Instant) : List Instant :=
  schedule.chargingSchedulePeriod.map (fun period => offsetMs cycleStart (period.startPeriod * 1000))
    ++ (schedule.duration.map fun duration => offsetMs cycleStart (duration * 1000)).toList

/-- The integers `first..=last`. -/
def intRange (first last : Int) : List Int :=
  (List.range (last + 1 - first).toNat).map fun (i : Nat) => first + (i : Int)

/-- Instants in `[start, until']` where the output of `profile` may change: a superset. -/
def changeInstants (profile : ChargingProfile F) (base start until' : Instant) : List Instant :=
  let candidates := profile.validFrom.toList ++ profile.validTo.toList ++ [base]
  let schedule := profile.chargingSchedule
  let candidates := candidates ++
    match recurrencePeriodMs profile with
    | some cycle =>
      let firstCycle := numMilliseconds (start - base) / cycle - 1
      let lastCycle := numMilliseconds (until' - base) / cycle + 1
      (intRange firstCycle lastCycle).flatMap fun n =>
        cycleInstants schedule (offsetMs base (n * cycle))
    | none => cycleInstants schedule base
  candidates.filter fun instant => start ≤ instant && instant ≤ until'

/-! ## Resolution of competing profiles -/

/-- A stored profile with its connector and, for TxProfiles, its transaction. -/
structure StoredProfile (F : Type) where
  connectorId : ConnectorId
  profile : ChargingProfile F
  /-- Transaction a TxProfile belongs to. -/
  boundTx : Option TxId
  /-- When the profile was installed. -/
  installedAt : Option Instant
deriving DecidableEq, Repr

/-- The limit in force at one instant after combining the winning profiles. -/
structure Resolved (F : Type) where
  limit : F
  numberPhases : Option Int
  minChargingRate : Option F
deriving DecidableEq, Repr

/-- A profile in force at the evaluated instant, with its period. -/
structure Candidate (F : Type) where
  entry : StoredProfile F
  period : ChargingSchedulePeriod F
  /-- The period's limit in the comparison unit. -/
  limit : F
  /-- Ranking inside its purpose: stack level, then "connector-specific" as the tie break. -/
  rank : Int × Bool

/-- `>=` of two ranks (tuples compare lexicographically). -/
def rankGe (a b : Int × Bool) : Bool :=
  decide (b.1 < a.1) || (decide (a.1 = b.1) && (a.2 || !b.2))

/-- The higher-ranked of `best` and `candidate`; the earlier one wins a tie. -/
def keepHigher (best : Option (Candidate F)) (candidate : Candidate F) : Candidate F :=
  match best with
  | some best => if rankGe best.rank candidate.rank then best else candidate
  | none => candidate

def maxOption (left right : Option F) : Option F :=
  match left, right with
  | some a, some b =>
    match Float64.partialCmp a b with
    | some .gt | some .eq => some a
    | _ => some b
  | a, none => a
  | none, b => b

def minOption (left right : Option Int) : Option Int :=
  match left, right with
  | some a, some b => some (min a b)
  | a, none => a
  | none, b => b

/-- The best candidate of each purpose so far. -/
structure Bests (F : Type) where
  txBest : Option (Candidate F) := none
  defaultBest : Option (Candidate F) := none
  capBest : Option (Candidate F) := none

/-- One turn of the loop in `resolve_at`. -/
def Bests.visit (connector : ConnectorId) (activeTx : Option TxId) (at' : T)
    (limitOf : StoredProfile F → ChargingSchedulePeriod F → F) (bests : Bests F)
    (entry : StoredProfile F) (base : Instant) : Bests F :=
  match periodAt entry.profile at' base with
  | none => bests
  | some period =>
    let candidate : Candidate F :=
      { entry, period, limit := limitOf entry period,
        rank := (entry.profile.stackLevel, entry.connectorId == connector) }
    match entry.profile.chargingProfilePurpose with
    | .txProfile =>
      let bound := activeTx.isSome && entry.boundTx == activeTx
      if entry.connectorId == connector && bound then
        { bests with txBest := some (keepHigher bests.txBest candidate) }
      else bests
    | .txDefaultProfile => { bests with defaultBest := some (keepHigher bests.defaultBest candidate) }
    | .chargePointMaxProfile =>
      if isStation entry.connectorId then
        { bests with capBest := some (keepHigher bests.capBest candidate) }
      else bests

/-- The winning limit of the candidates: the selected profile capped by the station's cap. -/
def Bests.resolve (bests : Bests F) : Option (Resolved F) :=
  let selected := bests.txBest.or bests.defaultBest
  let minChargingRate := (selected.toList ++ bests.capBest.toList).foldl (fun acc candidate =>
    maxOption acc candidate.entry.profile.chargingSchedule.minChargingRate) none
  match selected, bests.capBest with
  | none, none => none
  | some only, none | none, some only =>
    some { limit := only.limit, numberPhases := only.period.numberPhases, minChargingRate }
  | some profile, some cap =>
    match Float64.partialCmp profile.limit cap.limit with
    | some .lt =>
      some { limit := profile.limit, numberPhases := profile.period.numberPhases, minChargingRate }
    | some .gt =>
      some { limit := cap.limit, numberPhases := cap.period.numberPhases, minChargingRate }
    | _ => some { limit := profile.limit,
                  numberPhases := minOption profile.period.numberPhases cap.period.numberPhases,
                  minChargingRate }

/-- The limit in force at `at'` for `connector`, from the usable profiles with their bases. -/
def resolveAt (usable : List (StoredProfile F × Instant)) (connector : ConnectorId)
    (activeTx : Option TxId) (at' : T)
    (limitOf : StoredProfile F → ChargingSchedulePeriod F → F) : Option (Resolved F) :=
  (usable.foldl (fun (bests : Bests F) (entry, base) =>
    bests.visit connector activeTx at' limitOf entry base) {}).resolve

/-! ## The composite schedule -/

/-- What a composite schedule is requested for. -/
structure CompositeRequest (F : Type) where
  connector : ConnectorId
  /-- Requested length in seconds. -/
  durationS : Int
  /-- Requested unit; `none` means the unit the charge point prefers. -/
  unit : Option ChargingRateUnitType
  now : Instant
  /-- Number of physical connectors. -/
  connectorCount : Nat
  /-- Transaction active on `connector`, if any. -/
  activeTx : Option TxId
  /-- Start of `activeTx`: the base of `Relative` profiles. -/
  txStartedAt : Option Instant
  model : PowerModel F

/-- A composite schedule as returned by `GetCompositeSchedule.conf`. -/
structure CompositeSchedule (F : Type) where
  connectorId : ConnectorId
  scheduleStart : Instant
  chargingSchedule : ChargingSchedule F
deriving DecidableEq

/-- Why no composite schedule was produced. -/
inductive CompositeError where
  | unknownConnector (id : ConnectorId)
  | nonPositiveDuration
  | noSchedule
deriving DecidableEq, Repr

/-- Connector `0` is the station; `1..=count` are the physical connectors. -/
def isKnownConnector (connector : ConnectorId) (connectorCount : Nat) : Bool :=
  isStation connector || (1 ≤ connector && connector ≤ connectorCount)

/-- Drops the milliseconds of the second from `instant` (towards the past). -/
def truncateToSecond (instant : Instant) : Instant :=
  instant - milliseconds (instant % nanosPerSecond / nanosPerMilli)

/-- `(class, stack level)` of a profile that may choose the default unit. -/
def unitPriority (req : CompositeRequest F) (start : Instant) (entry : StoredProfile F) :
    Option (Nat × Int) :=
  let cls : Option Nat := match entry.profile.chargingProfilePurpose with
    | .txProfile =>
      let bound := req.activeTx.isSome && entry.boundTx == req.activeTx
      if entry.connectorId ≠ req.connector || !bound then none else some 2
    | .txDefaultProfile =>
      if entry.connectorId ≠ req.connector && !isStation entry.connectorId then none else some 1
    | .chargePointMaxProfile => if !isStation entry.connectorId then none else some 0
  cls.bind fun cls =>
    if isValidAt entry.profile start then some (cls, entry.profile.stackLevel) else none

/-- Unit of the highest-priority profile valid at `start` (the last among equals); `A` if none. -/
def defaultUnit (entries : List (StoredProfile F)) (req : CompositeRequest F) (start : Instant) :
    ChargingRateUnitType :=
  let best := entries.foldl (fun (best : Option ((Nat × Int) × ChargingRateUnitType)) entry =>
    match unitPriority req start entry with
    | none => best
    | some key =>
      let unit := entry.profile.chargingSchedule.chargingRateUnit
      match best with
      | none => some (key, unit)
      | some (top, topUnit) =>
        if key.1 < top.1 || (key.1 = top.1 && key.2 < top.2) then some (top, topUnit)
        else some (key, unit)) none
  best.elim .A (·.2)

/-- Profiles of `unit` that can affect the connector: its own and connector 0's, with their bases. -/
def usableProfiles (entries : List (StoredProfile F)) (req : CompositeRequest F)
    (unit : ChargingRateUnitType) (start : Instant) : List (StoredProfile F × Instant) :=
  ((entries.filter fun entry => entry.profile.chargingSchedule.chargingRateUnit = unit).filter
      fun entry => entry.connectorId == req.connector || isStation entry.connectorId).map
    fun entry => (entry, scheduleBase entry.profile req.txStartedAt entry.installedAt start)

/-- Every whole second of the window where the state may change, relative to `start`. -/
def compositeOffsets (usable : List (StoredProfile F × Instant)) (start : Instant)
    (durationS : Int) : List Int :=
  let windowEnd := start + seconds durationS
  let windowMs := durationS * 1000
  let offsets := usable.flatMap fun (entry, base) =>
    (changeInstants entry.profile base start windowEnd).flatMap fun instant =>
      let ms := numMilliseconds (instant - start)
      -- The first whole second at or after the change, and the first one strictly after it.
      [(ms + 999) / 1000, ms / 1000 + 1]
  sortDedup ((0 :: offsets).filter fun offset => 0 ≤ offset && offset * 1000 < windowMs)

/-- Rounds to one decimal. -/
def roundTenth (value : F) : F :=
  Float64.div (Float64.round (Float64.mul value (Float64.ofInt 10))) (Float64.ofInt 10)

/-- The station's nominal limit in `unit`: what a stretch without any profile shows. -/
def stationLimit (model : PowerModel F) (unit : ChargingRateUnitType) : F :=
  match unit with
  | .W => model.nominalW
  | .A => roundTenth (model.wattsToAmps model.nominalW)

/-- The limit and phases a schedule shows for a resolution. -/
def shownLimit (model : PowerModel F) (unit : ChargingRateUnitType) (resolved : Option (Resolved F)) :
    F × Option Int :=
  match resolved with
  | some resolved => (resolved.limit, resolved.numberPhases)
  | none => (stationLimit model unit, none)

/-- Appends a period unless it repeats the last one (`to_bits` equality of the limits). -/
def pushPeriod [DecidableEq F] (periods : List (ChargingSchedulePeriod F)) (offset : Int)
    (shown : F × Option Int) : List (ChargingSchedulePeriod F) :=
  match periods.getLast? with
  | some last =>
    if last.limit = shown.1 ∧ last.numberPhases = shown.2 then periods
    else periods ++ [{ startPeriod := offset, limit := shown.1, numberPhases := shown.2 }]
  | none => periods ++ [{ startPeriod := offset, limit := shown.1, numberPhases := shown.2 }]

/-- Computes the composite schedule for `req` from the stored profiles. -/
def compositeSchedule [DecidableEq F] (entries : List (StoredProfile F)) (req : CompositeRequest F) :
    Except CompositeError (CompositeSchedule F) :=
  if !isKnownConnector req.connector req.connectorCount then .error (.unknownConnector req.connector)
  else if req.durationS ≤ 0 then .error .nonPositiveDuration
  else
    let durationS := min req.durationS maxCompositeDurationS
    let start := truncateToSecond req.now
    let unit := req.unit.getD (defaultUnit entries req start)
    let usable := usableProfiles entries req unit start
    if usable.isEmpty then .error .noSchedule
    else
      let points := (compositeOffsets usable start durationS).map fun offset =>
        (offset, resolveAt usable req.connector req.activeTx (start + seconds offset)
          (fun _ period => period.limit))
      if points.all (fun point => point.2.isNone) then .error .noSchedule
      else
        let periods := points.foldl (fun periods (offset, resolved) =>
          pushPeriod periods offset (shownLimit req.model unit resolved)) []
        let minChargingRate := points.foldl (fun acc (_, resolved) =>
          resolved.elim acc fun resolved => maxOption acc resolved.minChargingRate) none
        let firstCut := if maxCompositePeriods < periods.length then periods[maxCompositePeriods]?
          else none
        .ok { connectorId := req.connector, scheduleStart := start
              chargingSchedule :=
                { duration := some (firstCut.elim durationS fun cut => min cut.startPeriod durationS)
                  startSchedule := some start
                  chargingRateUnit := unit
                  chargingSchedulePeriod := periods.take maxCompositePeriods
                  minChargingRate } }

/-! ## Power and energy -/

/-- What the power of one connector is evaluated for. -/
structure PowerRequest (F : Type) where
  connector : ConnectorId
  activeTx : Option TxId
  txStartedAt : Option Instant
  model : PowerModel F
  /-- Connectors drawing power right now: each gets an equal share of a `ChargePointMaxProfile`. -/
  chargingConnectors : Nat

/-- Every profile that can affect the connector, with its schedule base. -/
def powerProfiles (entries : List (StoredProfile F)) (req : PowerRequest F)
    (fallbackStart : Instant) : List (StoredProfile F × Instant) :=
  (entries.filter fun entry => entry.connectorId == req.connector || isStation entry.connectorId).map
    fun entry => (entry, scheduleBase entry.profile req.txStartedAt entry.installedAt fallbackStart)

/-- A period's limit in watts; a cap is shared by the charging connectors. -/
def limitWOf (req : PowerRequest F) (entry : StoredProfile F) (period : ChargingSchedulePeriod F) : F :=
  let watts := match entry.profile.chargingSchedule.chargingRateUnit with
    | .W => period.limit
    | .A => req.model.ampsToWatts period.limit period.numberPhases
  if entry.profile.chargingProfilePurpose = .chargePointMaxProfile then
    Float64.div watts (Float64.ofInt (max req.chargingConnectors 1 : Nat))
  else watts

/-- `limit_w_resolved`: the limit in watts in force at `at'`. -/
def limitWResolved (usable : List (StoredProfile F × Instant)) (req : PowerRequest F) (at' : T) :
    Option F :=
  (resolveAt usable req.connector req.activeTx at' (limitWOf req)).map (·.limit)

/-- The charging limit in watts in force at `at'`; `none` when no profile covers `at'`. -/
def limitWAt (entries : List (StoredProfile F)) (req : PowerRequest F) (at' : Instant) : Option F :=
  limitWResolved (powerProfiles entries req at') req at'

/-- Where `energyWh` cuts the span: its ends and every change of a usable profile. -/
def energyCuts (usable : List (StoredProfile F × Instant)) (start stop : Instant) : List Instant :=
  sortDedup (start :: stop :: usable.flatMap fun (entry, base) =>
    changeInstants entry.profile base start stop)

/-- `as_seconds_f64`. -/
def asSecondsF64 (span : Int) : F :=
  Float64.div (Float64.ofInt span) (Float64.ofInt nanosPerSecond)

/-- Energy in Wh a charging connector takes in `[start, stop]`, summed over the stretches between
the cuts with the power in the middle of each. -/
def energyWh (entries : List (StoredProfile F)) (req : PowerRequest F) (start stop : Instant) : F :=
  if stop ≤ start then Float64.ofInt 0
  else
    let usable := powerProfiles entries req start
    ((windows (energyCuts usable start stop)).map fun pair =>
      let span := pair.2 - pair.1
      let middle := pair.1 + span.tdiv 2
      let power := req.model.effectiveW (limitWResolved usable req middle)
      Float64.div (Float64.mul power (asSecondsF64 span)) (Float64.ofInt 3600)).foldl Float64.add
        (Float64.ofInt 0)

end KirbyOcpp
