import KirbyOcpp.Laws.SmartCharging.ProfileStore

/-!
# The default unit of a composite schedule

`resolve_at` ranks the profiles of a purpose by stack level and lets the connector's own profile win a tie.
`default_unit` writes the ranking a second time, with the class of the purpose in front and without the connector,
and `max_by_key` leaves a tie to the profile that was stored last. The store has one profile for each slot, so a tie
is one between a TxDefaultProfile of the connector and one of connector 0 (`SplitTie`).
-/

namespace KirbyOcpp

open KirbyOcpp.Lists ChargingProfileStore

variable {F : Type} {entries : ChargingProfileStore F} {req : CompositeRequest F} {start : Instant}

/-! ## The precedence of `resolve_at` -/

/-- The class in which `resolve_at` lets a usable profile compete. -/
def classOf (req : CompositeRequest F) (entry : StoredProfile F) : Option Nat :=
  match entry.profile.chargingProfilePurpose with
  | .txProfile =>
    if entry.connectorId = req.connector ∧ req.activeTx.isSome ∧ entry.boundTx = req.activeTx then some 2 else none
  | .txDefaultProfile =>
    if entry.connectorId = req.connector ∨ isStation entry.connectorId then some 1 else none
  | .chargePointMaxProfile => if isStation entry.connectorId then some 0 else none

/-- The rank inside a class, as `resolve_at` compares it. -/
def rankOf (req : CompositeRequest F) (entry : StoredProfile F) : Int × Bool :=
  (entry.profile.stackLevel, entry.connectorId == req.connector)

/-- The unit of a profile. -/
def unitOf (entry : StoredProfile F) : ChargingRateUnitType := entry.profile.chargingSchedule.chargingRateUnit

/-- The profile is valid at `start` and competes in the class `cls`. -/
structure Competes (req : CompositeRequest F) (start : Instant) (entry : StoredProfile F) (cls : Nat) : Prop where
  cls : classOf req entry = some cls
  valid : isValidAt entry.profile start = true

/-- No profile that competes ranks above `entry`. -/
structure Leads (entries : ChargingProfileStore F) (req : CompositeRequest F) (start : Instant)
    (entry : StoredProfile F) : Prop where
  mem : entry ∈ entries
  top : ∃ cls, Competes req start entry cls ∧ ∀ other ∈ entries, ∀ cls', Competes req start other cls' →
    cls' < cls ∨ cls' = cls ∧ rankGe (rankOf req entry) (rankOf req other) = true

/-- `unit` is the unit of the leading profile, `A` if none competes. -/
def IsDefaultUnit (entries : ChargingProfileStore F) (req : CompositeRequest F) (start : Instant)
    (unit : ChargingRateUnitType) : Prop :=
  (∃ entry, Leads entries req start entry ∧ unit = unitOf entry) ∨
    (∀ entry ∈ entries, ∀ cls, ¬Competes req start entry cls) ∧ unit = .A

/-- A TxDefaultProfile of the connector and one of connector 0 share the highest stack level of their class, nothing
of a higher class competes, and their units differ. -/
def SplitTie (entries : ChargingProfileStore F) (req : CompositeRequest F) (start : Instant) : Prop :=
  ∃ own ∈ entries, ∃ other ∈ entries, Competes req start own 1 ∧ Competes req start other 1 ∧
    own.connectorId = req.connector ∧ own.connectorId ≠ other.connectorId ∧
    own.profile.stackLevel = other.profile.stackLevel ∧ unitOf own ≠ unitOf other ∧
    ∀ entry ∈ entries, ∀ cls, Competes req start entry cls →
      cls < 1 ∨ cls = 1 ∧ entry.profile.stackLevel ≤ own.profile.stackLevel

/-! ## The key of `default_unit` -/

/-- The key that `max_by_key` compares. -/
def keyOf (req : CompositeRequest F) (start : Instant) (entry : StoredProfile F) : Option (Nat ×ₗ Int) :=
  (unitPriority req start entry).map toLex

theorem unitPriority_eq (req : CompositeRequest F) (start : Instant) (entry : StoredProfile F) :
    unitPriority req start entry = (classOf req entry).bind fun cls =>
      if isValidAt entry.profile start then some (cls, entry.profile.stackLevel) else none := by
  unfold unitPriority classOf
  dsimp only
  congr 1
  cases entry.profile.chargingProfilePurpose with
  | txProfile =>
    by_cases same : entry.connectorId = req.connector
    · by_cases active : req.activeTx.isSome = true
      · by_cases bound : entry.boundTx = req.activeTx
        · simp [same, active, bound]
        · simp [same, active, bound]
      · simp [active]
    · simp [same]
  | txDefaultProfile =>
    by_cases same : entry.connectorId = req.connector
    · simp [same]
    · by_cases zero : isStation entry.connectorId = true
      · simp [same, zero]
      · simp [same, zero]
  | chargePointMaxProfile =>
    by_cases zero : isStation entry.connectorId = true
    · simp [zero]
    · simp [zero]

theorem keyOf_eq_some {entry : StoredProfile F} {key : Nat ×ₗ Int} :
    keyOf req start entry = some key ↔
      ∃ cls, Competes req start entry cls ∧ key = toLex (cls, entry.profile.stackLevel) := by
  unfold keyOf
  rw [unitPriority_eq]
  constructor
  · intro keyed
    cases cls : classOf req entry with
    | none =>
      rw [cls] at keyed
      cases keyed
    | some cls' =>
      rw [cls, Option.bind_some] at keyed
      split at keyed
      · rename_i valid
        exact ⟨cls', ⟨cls, valid⟩, (Option.some.inj keyed).symm⟩
      · cases keyed
  · rintro ⟨cls, competes, rfl⟩
    rw [competes.cls, Option.bind_some, if_pos competes.valid]
    rfl

theorem keyOf_eq_none {entry : StoredProfile F} :
    keyOf req start entry = none ↔ ∀ cls, ¬Competes req start entry cls := by
  constructor
  · intro none cls competes
    rw [keyOf_eq_some.mpr ⟨cls, competes, rfl⟩] at none
    cases none
  · intro silent
    cases keyed : keyOf req start entry with
    | none => rfl
    | some key =>
      obtain ⟨cls, competes, -⟩ := keyOf_eq_some.mp keyed
      exact absurd competes (silent cls)

/-- One turn of the loop in `default_unit`. -/
def unitTurn (req : CompositeRequest F) (start : Instant) (best : Option ((Nat × Int) × ChargingRateUnitType))
    (entry : StoredProfile F) : Option ((Nat × Int) × ChargingRateUnitType) :=
  match unitPriority req start entry with
  | none => best
  | some key =>
    let unit := unitOf entry
    match best with
    | none => some (key, unit)
    | some (top, topUnit) =>
      if key.1 < top.1 || (key.1 = top.1 && key.2 < top.2) then some (top, topUnit) else some (key, unit)

/-- What the loop keeps of the best profile. -/
def shownBest (best : Option ((Nat ×ₗ Int) × StoredProfile F)) : Option ((Nat × Int) × ChargingRateUnitType) :=
  best.map fun pair => (ofLex pair.1, unitOf pair.2)

theorem shownBest_keepLatest (best : Option ((Nat ×ₗ Int) × StoredProfile F)) (entry : StoredProfile F) :
    shownBest (keepLatest (keyOf req start) best entry) = unitTurn req start (shownBest best) entry := by
  unfold keepLatest keyOf unitTurn
  cases unitPriority req start entry with
  | none => rfl
  | some key =>
    cases best with
    | none => rfl
    | some pair =>
      obtain ⟨top, held⟩ := pair
      obtain ⟨top, rfl⟩ := toLex.surjective top
      have less : toLex key < toLex top ↔ (key.1 < top.1 || (key.1 = top.1 && key.2 < top.2)) = true := by
        rw [Prod.Lex.toLex_lt_toLex]
        simp
      by_cases below : toLex key < toLex top
      · change shownBest (if toLex key < toLex top then _ else _) = if _ then _ else _
        rw [if_pos below]
        exact (if_pos (less.mp below)).symm
      · change shownBest (if toLex key < toLex top then _ else _) = if _ then _ else _
        rw [if_neg below]
        exact (if_neg fun h => below (less.mpr h)).symm

/-- The loop of `default_unit` looks for the greatest key, the last among equals. -/
theorem defaultUnit_eq (entries : ChargingProfileStore F) (req : CompositeRequest F) (start : Instant) :
    defaultUnit entries req start = ((latest (keyOf req start) entries).map fun best => unitOf best.2).getD .A := by
  have loop (best : Option ((Nat ×ₗ Int) × StoredProfile F)) :
      shownBest (entries.foldl (keepLatest (keyOf req start)) best) =
        entries.foldl (unitTurn req start) (shownBest best) := by
    induction entries generalizing best with
    | nil => rfl
    | cons entry rest ih => rw [List.foldl_cons, List.foldl_cons, ih, shownBest_keepLatest]
  have folded : defaultUnit entries req start = (entries.foldl (unitTurn req start) none).elim .A (·.2) := rfl
  have looped : shownBest (latest (keyOf req start) entries) = entries.foldl (unitTurn req start) none := loop none
  rw [folded, ← looped]
  cases latest (keyOf req start) entries <;> rfl

/-! ## Ties -/

theorem rankGe_iff {a b : Int × Bool} : rankGe a b = true ↔ b.1 < a.1 ∨ a.1 = b.1 ∧ (a.2 = true ∨ b.2 = false) := by
  simp [rankGe]

theorem key_le_iff {cls cls' : Nat} {level level' : Int} :
    (toLex (cls', level') : Nat ×ₗ Int) ≤ toLex (cls, level) ↔ cls' < cls ∨ cls' = cls ∧ level' ≤ level := by
  rw [Prod.Lex.toLex_le_toLex]

/-- The purpose and the connector that a class stands for. -/
theorem Competes.place {entry : StoredProfile F} {cls : Nat} (h : Competes req start entry cls) :
    (cls = 2 ∧ entry.profile.chargingProfilePurpose = .txProfile ∧ entry.connectorId = req.connector) ∨
    (cls = 1 ∧ entry.profile.chargingProfilePurpose = .txDefaultProfile ∧
      (entry.connectorId = req.connector ∨ entry.connectorId = station)) ∨
    (cls = 0 ∧ entry.profile.chargingProfilePurpose = .chargePointMaxProfile ∧ entry.connectorId = station) := by
  have known := h.cls
  unfold classOf at known
  cases purpose : entry.profile.chargingProfilePurpose with
  | txProfile =>
    rw [purpose] at known
    dsimp only at known
    split at known
    · rename_i bound
      exact .inl ⟨(Option.some.inj known).symm, rfl, bound.1⟩
    · cases known
  | txDefaultProfile =>
    rw [purpose] at known
    dsimp only at known
    split at known
    · rename_i near
      exact .inr (.inl ⟨(Option.some.inj known).symm, rfl, near.imp_right fun zero => by simpa [isStation] using zero⟩)
    · cases known
  | chargePointMaxProfile =>
    rw [purpose] at known
    dsimp only at known
    split at known
    · rename_i zero
      exact .inr (.inr ⟨(Option.some.inj known).symm, rfl, by simpa [isStation] using zero⟩)
    · cases known

/-- Two profiles with one key have one slot, or they are default profiles of the connector and of connector 0. -/
theorem same_slot_of_key {a b : StoredProfile F} {cls : Nat} (ha : Competes req start a cls)
    (hb : Competes req start b cls) (level : a.profile.stackLevel = b.profile.stackLevel) :
    slot a = slot b ∨ cls = 1 ∧ a.connectorId ≠ b.connectorId ∧
      (a.connectorId = req.connector ∨ b.connectorId = req.connector) := by
  have same (purpose : a.profile.chargingProfilePurpose = b.profile.chargingProfilePurpose)
      (connector : a.connectorId = b.connectorId) : slot a = slot b := by
    unfold slot
    rw [purpose, connector, level]
  rcases ha.place with ⟨rfl, purpose, connector⟩ | ⟨rfl, purpose, connector⟩ | ⟨rfl, purpose, connector⟩
  · rcases hb.place with ⟨-, purpose', connector'⟩ | ⟨other, -⟩ | ⟨other, -⟩
    · exact .inl (same (purpose.trans purpose'.symm) (connector.trans connector'.symm))
    · omega
    · omega
  · rcases hb.place with ⟨other, -⟩ | ⟨-, purpose', connector'⟩ | ⟨other, -⟩
    · omega
    · by_cases one : a.connectorId = b.connectorId
      · exact .inl (same (purpose.trans purpose'.symm) one)
      · refine .inr ⟨rfl, one, ?_⟩
        rcases connector with own | zero
        · exact .inl own
        · rcases connector' with own' | zero'
          · exact .inr own'
          · exact absurd (zero.trans zero'.symm) one
    · omega
  · rcases hb.place with ⟨other, -⟩ | ⟨other, -⟩ | ⟨-, purpose', connector'⟩
    · omega
    · omega
    · exact .inl (same (purpose.trans purpose'.symm) (connector.trans connector'.symm))

/-- The profile competes, and no key is above its own. -/
structure Greatest (entries : ChargingProfileStore F) (req : CompositeRequest F) (start : Instant)
    (entry : StoredProfile F) (cls : Nat) : Prop where
  mem : entry ∈ entries
  competes : Competes req start entry cls
  top : ∀ other ∈ entries, ∀ cls', Competes req start other cls' →
    cls' < cls ∨ cls' = cls ∧ other.profile.stackLevel ≤ entry.profile.stackLevel

theorem Greatest.key_le {entry other : StoredProfile F} {cls : Nat} (h : Greatest entries req start entry cls)
    (mem : other ∈ entries) {key : Nat ×ₗ Int} (keyed : keyOf req start other = some key) :
    key ≤ toLex (cls, entry.profile.stackLevel) := by
  obtain ⟨cls', competes, rfl⟩ := keyOf_eq_some.mp keyed
  exact key_le_iff.mpr (h.top other mem cls' competes)

/-- The pass finds a profile with the greatest key, or none competes. -/
theorem latest_greatest_cases (entries : ChargingProfileStore F) (req : CompositeRequest F) (start : Instant) :
    (∃ entry cls, Greatest entries req start entry cls ∧ defaultUnit entries req start = unitOf entry) ∨
      (∀ entry ∈ entries, ∀ cls, ¬Competes req start entry cls) ∧ defaultUnit entries req start = .A := by
  have greatest := latest_greatest (keyOf req start) entries
  rw [defaultUnit_eq]
  cases best : latest (keyOf req start) entries with
  | none =>
    rw [best] at greatest
    exact .inr ⟨fun entry mem => keyOf_eq_none.mp (greatest entry mem), rfl⟩
  | some pair =>
    obtain ⟨key, entry⟩ := pair
    rw [best] at greatest
    obtain ⟨mem, own, top⟩ := greatest
    obtain ⟨cls, competes, rfl⟩ := keyOf_eq_some.mp own
    refine .inl ⟨entry, cls, ⟨mem, competes, fun other mem' cls' competes' => ?_⟩, rfl⟩
    exact key_le_iff.mp (top other mem' _ (keyOf_eq_some.mpr ⟨cls', competes', rfl⟩))

/-- Without a tie in different units the greatest key has one unit. -/
theorem unit_of_greatest (slots : (entries.map slot).Nodup) (untied : ¬SplitTie entries req start)
    {a b : StoredProfile F} {cls cls' : Nat} (ha : Greatest entries req start a cls)
    (hb : Greatest entries req start b cls') : unitOf a = unitOf b := by
  have above := ha.top b hb.mem cls' hb.competes
  have below := hb.top a ha.mem cls ha.competes
  have same : cls' = cls := by omega
  subst same
  have level : a.profile.stackLevel = b.profile.stackLevel := by omega
  rcases same_slot_of_key ha.competes hb.competes level with one | ⟨rfl, apart, own⟩
  · rw [eq_of_nodup_map slots ha.mem hb.mem one]
  · by_contra differ
    refine untied ?_
    rcases own with own | own
    · exact ⟨a, ha.mem, b, hb.mem, ha.competes, hb.competes, own, apart, level, differ, ha.top⟩
    · exact ⟨b, hb.mem, a, ha.mem, hb.competes, ha.competes, own, apart.symm, level.symm, Ne.symm differ, hb.top⟩

theorem Greatest.of_perm {entries' : ChargingProfileStore F} (perm : entries'.Perm entries) {entry : StoredProfile F}
    {cls : Nat} (h : Greatest entries' req start entry cls) : Greatest entries req start entry cls :=
  ⟨perm.mem_iff.mp h.mem, h.competes, fun other mem => h.top other (perm.mem_iff.mpr mem)⟩

/-- Where a profile has the greatest key, one leads: it or the connector's own with its key. -/
theorem leads_of_greatest {entry : StoredProfile F} {cls : Nat} (h : Greatest entries req start entry cls) :
    ∃ lead, Leads entries req start lead ∧ Greatest entries req start lead cls := by
  have leads {lead : StoredProfile F} (top : Greatest entries req start lead cls)
      (ahead : lead.connectorId = req.connector ∨ ∀ other ∈ entries, Competes req start other cls →
        other.profile.stackLevel = lead.profile.stackLevel → other.connectorId ≠ req.connector) :
      Leads entries req start lead := by
    refine ⟨top.mem, cls, top.competes, fun other mem cls' competes => ?_⟩
    rcases top.top other mem cls' competes with below | ⟨rfl, level⟩
    · exact .inl below
    · refine .inr ⟨rfl, rankGe_iff.mpr ?_⟩
      rcases lt_or_eq_of_le level with less | equal
      · exact .inl less
      · refine .inr ⟨equal.symm, ahead.imp (fun own => ?_) fun others => ?_⟩
        · exact beq_iff_eq.mpr own
        · exact beq_eq_false_iff_ne.mpr (others other mem competes equal)
  by_cases own : ∃ other ∈ entries, Competes req start other cls ∧
      other.profile.stackLevel = entry.profile.stackLevel ∧ other.connectorId = req.connector
  · obtain ⟨other, mem, competes, level, connector⟩ := own
    have top : Greatest entries req start other cls := ⟨mem, competes, by rw [level]; exact h.top⟩
    exact ⟨other, leads top (.inl connector), top⟩
  · refine ⟨entry, leads h (.inr fun other mem competes level connector => ?_), h⟩
    exact own ⟨other, mem, competes, level, connector⟩

/-- A profile with the greatest key chooses the unit when it was stored last. -/
theorem defaultUnit_of_last {entry : StoredProfile F} {cls : Nat} (h : Greatest entries req start entry cls) :
    ∃ entries', entries'.Perm entries ∧ defaultUnit entries' req start = unitOf entry := by
  obtain ⟨front, back, rfl⟩ := List.append_of_mem h.mem
  refine ⟨front ++ back ++ [entry], (List.perm_append_singleton _ _).trans List.perm_middle.symm, ?_⟩
  have last : latest (keyOf req start) (front ++ back ++ [entry]) = some (_, entry) :=
    latest_append_greatest (keyOf_eq_some.mpr ⟨cls, h.competes, rfl⟩) fun other mem key keyed =>
      h.key_le (by simp at mem ⊢; tauto) keyed
  rw [defaultUnit_eq, last]
  rfl

/-! ## The law -/

/-- The unit of every store is that of the leading profile, in whatever order the profiles were stored, exactly if
no tie in different units decides. -/
theorem defaultUnit_ranked_iff [Float64 F] [DecidableEq F] (limits : StoreLimits) (connectorCount : Nat)
    (ops : List (Op F)) (req : CompositeRequest F) (start : Instant) :
    let entries := run limits connectorCount ops
    (IsDefaultUnit entries req start (defaultUnit entries req start) ∧
      ∀ entries', entries'.Perm entries → defaultUnit entries' req start = defaultUnit entries req start) ↔
    ¬SplitTie entries req start := by
  intro entries
  have slots : (entries.map slot).Nodup := (run_sound limits connectorCount ops).slots
  constructor
  · rintro ⟨-, ordered⟩ ⟨own, memOwn, other, memOther, competes, competes', -, -, level, differ, top⟩
    obtain ⟨ownLast, perm, eq⟩ := defaultUnit_of_last ⟨memOwn, competes, top⟩
    obtain ⟨otherLast, perm', eq'⟩ := defaultUnit_of_last ⟨memOther, competes', level ▸ top⟩
    refine differ ?_
    rw [← eq, ← eq', ordered ownLast perm, ordered otherLast perm']
  · intro untied
    rcases latest_greatest_cases entries req start with ⟨entry, cls, greatest, eq⟩ | ⟨silent, eq⟩
    · refine ⟨?_, fun entries' perm => ?_⟩
      · obtain ⟨lead, leads, top⟩ := leads_of_greatest greatest
        exact .inl ⟨lead, leads, eq.trans (unit_of_greatest slots untied greatest top)⟩
      · rcases latest_greatest_cases entries' req start with ⟨entry', cls', greatest', eq'⟩ | ⟨silent', -⟩
        · rw [eq, eq']
          exact unit_of_greatest slots untied (greatest'.of_perm perm) greatest
        · exact absurd greatest.competes (silent' entry (perm.mem_iff.mpr greatest.mem) cls)
    · refine ⟨.inr ⟨silent, eq⟩, fun entries' perm => ?_⟩
      rcases latest_greatest_cases entries' req start with ⟨entry', cls', greatest', -⟩ | ⟨-, eq'⟩
      · exact absurd greatest'.competes (silent entry' (perm.mem_iff.mp greatest'.mem) cls')
      · rw [eq, eq']

/-- A default profile without an end, in the given unit. -/
def flatTariff (id : Int) (unit : ChargingRateUnitType) : ChargingProfile Rat :=
  { chargingProfileId := id, transactionId := none, stackLevel := 0
    chargingProfilePurpose := .txDefaultProfile, chargingProfileKind := .absolute
    recurrencyKind := none, validFrom := none, validTo := none
    chargingSchedule :=
      { duration := none, startSchedule := some 0, chargingRateUnit := unit
        chargingSchedulePeriod := [{ startPeriod := 0, limit := 16, numberPhases := none }]
        minChargingRate := none } }

/-- A request for connector 1 without a unit. -/
def unitlessRequest : CompositeRequest Rat :=
  { connector := 1, durationS := 3600, unit := none, now := 5, connectorCount := 1
    activeTx := none, txStartedAt := none, model := PowerModel.fromConfig 7200 230 1 }

/-- The profile of connector 1 leads, but that of connector 0 was stored last and chooses the unit. -/
theorem stored_last_wins :
    let limits : StoreLimits := { maxStackLevel := 8, maxInstalled := 10, maxPeriods := 6, allowedUnits := [.A, .W] }
    let own : Op Rat := .set 1 (flatTariff 1 .A) 0 none
    let shared : Op Rat := .set 0 (flatTariff 2 .W) 0 none
    let entries := run limits 1 [own, shared]
    ¬IsDefaultUnit entries unitlessRequest 0 (defaultUnit entries unitlessRequest 0) ∧
      defaultUnit entries unitlessRequest 0 = .W ∧ defaultUnit (run limits 1 [shared, own]) unitlessRequest 0 = .A := by
  intro limits own shared entries
  let mine : StoredProfile Rat := { connectorId := 1, profile := flatTariff 1 .A, boundTx := none, installedAt := some 0 }
  let yours : StoredProfile Rat := { connectorId := 0, profile := flatTariff 2 .W, boundTx := none, installedAt := some 0 }
  have stored : entries = [mine, yours] := by decide +kernel
  have chosen : defaultUnit entries unitlessRequest 0 = .W := by decide +kernel
  refine ⟨?_, chosen, by decide +kernel⟩
  rw [chosen]
  rintro (⟨lead, ⟨mem, cls, competes, top⟩, unit⟩ | ⟨-, unit⟩)
  · rw [stored] at mem top
    rcases List.mem_cons.mp mem with rfl | mem
    · cases unit
    · obtain rfl := List.mem_singleton.mp mem
      have first : cls = 1 := Option.some.inj (competes.cls.symm.trans (by decide +kernel))
      rcases top mine List.mem_cons_self 1 ⟨by decide +kernel, by decide +kernel⟩ with less | ⟨-, ranks⟩
      · omega
      · exact absurd ranks (by decide +kernel)
  · cases unit
end KirbyOcpp
