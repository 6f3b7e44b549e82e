import KirbyOcpp.Laws.Ocpp.Text
import KirbyOcpp.Laws.Station.Restart

/-!
# The configuration keys over a process: `change` and `set_connector_count`

The registry lets no value through that its checks refuse. The values it writes itself are not checked:
`setConnectorCount` appends an item for every connector that `ConnectorPhaseRotation` leaves out, while the
bound of the list grows to one more than the connectors. Items that name no connector of the station, or one
that is named already, take the room of the appended ones.

**The law** `registry_round_trip`: every saved value passes its own check, and survives a restart, in every
state of a process, if and only if every connector that is added finds room (`HasRoom`).
-/

namespace KirbyOcpp.Config

/-! ## Items -/

/-- What a value lists: texts without a separator and with nothing to trim. -/
structure Item (item : Text) : Prop where
  apart : ',' ∉ item
  trimmed : item.trim = item
  filled : item ≠ []

private theorem item_of_mem {value item : Text} (mem : item ∈ listItems value) : Item item := by
  obtain ⟨mem, filled⟩ := List.mem_filter.mp mem
  obtain ⟨part, inside, rfl⟩ := List.mem_map.mp mem
  refine ⟨fun comma => Text.not_mem_split inside (Text.mem_of_mem_trim comma), Text.trim_trim part, fun eq => ?_⟩
  simp [eq] at filled

private theorem listItems_joinItems {items : List Text} (all : ∀ item ∈ items, Item item) :
    listItems (joinItems items) = items := by
  by_cases none : items = []
  · subst none
    rfl
  · unfold listItems joinItems
    rw [Text.split_intercalate (fun item mem => (all item mem).apart) none]
    have same : items.map Text.trim = items := by
      refine (List.map_congr_left fun item mem => ?_).trans (List.map_id items)
      exact (all item mem).trimmed
    rw [same, List.filter_eq_self]
    intro item mem
    simp [(all item mem).filled]

/-- `<id>.Unknown`. -/
def unknownItem (id : Nat) : Text := Text.ofNat id ++ ".Unknown".toList

private theorem ofNat_apart {c : Char} (other : Text.isAsciiDigit c = false) (n : Nat) : c ∉ Text.ofNat n := by
  intro mem
  rw [Text.ofNat_digits n c mem] at other
  cases other

private theorem isWhitespace_of_digit {c : Char} (digit : Text.isAsciiDigit c = true) :
    Text.isWhitespace c = false := by
  simp only [Text.isAsciiDigit, Bool.and_eq_true, decide_eq_true_eq] at digit
  have low : '0'.toNat ≤ c.toNat := digit.1
  have high : c.toNat ≤ '9'.toNat := digit.2
  have below : '0'.toNat = 48 := rfl
  have above : '9'.toNat = 57 := rfl
  simp only [Text.isWhitespace, Bool.or_eq_false_iff, Bool.and_eq_false_iff, decide_eq_false_iff_not,
    beq_eq_false_iff_ne]
  omega

private theorem item_unknown (id : Nat) : Item (unknownItem id) := by
  refine ⟨fun comma => ?_, Text.trim_of_none fun c mem => ?_, fun eq => ?_⟩
  · rcases List.mem_append.mp comma with left | right
    · exact ofNat_apart (by decide) id left
    · exact absurd right (by decide)
  · rcases List.mem_append.mp mem with left | right
    · exact isWhitespace_of_digit (Text.ofNat_digits id c left)
    · have plain : (".Unknown".toList.all fun c => !Text.isWhitespace c) = true := by decide
      simpa using List.all_eq_true.mp plain c right
  · exact Text.ofNat_ne_nil id (List.append_eq_nil_iff.mp eq).1

private theorem unknown_accepted (id : Nat) : isPhaseRotationItem (unknownItem id) = true := by
  have parts : (unknownItem id).splitOnce '.' = some (Text.ofNat id, "Unknown".toList) :=
    Text.splitOnce_append (ofNat_apart (by decide) id) _
  unfold isPhaseRotationItem
  rw [parts]
  have filled : (Text.ofNat id).isEmpty = false := by simp [Text.ofNat_ne_nil]
  have digits : (Text.ofNat id).all Text.isAsciiDigit = true := List.all_eq_true.mpr (Text.ofNat_digits id)
  simp only [filled, digits]
  decide

private theorem accepts_rotation {value : Text} :
    Kind.phaseRotations.accepts value = true ↔
      listItems value ≠ [] ∧ ∀ item ∈ listItems value, isPhaseRotationItem item = true := by
  simp [Kind.accepts]

/-- A list of items is as good as its items. -/
theorem joinItems_accepted {items : List Text} (some : items ≠ []) (all : ∀ item ∈ items, Item item)
    (rotations : ∀ item ∈ items, isPhaseRotationItem item = true) :
    Kind.phaseRotations.accepts (joinItems items) = true := by
  rw [accepts_rotation, listItems_joinItems all]
  exact ⟨some, rotations⟩

/-! ## Numbers -/

private theorem parseInt_ofNat {n : Nat} (small : n < 2 ^ 31) : parseInt (Text.ofNat n) = some n := by
  unfold parseInt
  have filled : (Text.ofNat n).isEmpty = false := by simp [Text.ofNat_ne_nil]
  have digits : (Text.ofNat n).all Text.isAsciiDigit = true := List.all_eq_true.mpr (Text.ofNat_digits n)
  rw [filled, digits, Text.digits_ofNat, Option.filter_some, decide_eq_true small]
  rfl

/-! ## The defaults -/

namespace ConfigRegistry

variable {config : RegistryConfig} {r : ConfigRegistry}

private theorem number_eq {name value : Text} (current : r.value name = some value) :
    r.number name = (Text.parseU32 value).getD 0 := by
  unfold ConfigRegistry.number
  rw [current]
  rfl

/-- The connectors of `config`. -/
theorem connectorCount_new (config : RegistryConfig) :
    (ConfigRegistry.new config).connectorCount = max (max config.connectorCount config.initialConnector) 1 := rfl

private theorem rotation_new (config : RegistryConfig) :
    (ConfigRegistry.new config).value Key.connectorPhaseRotation =
      some (joinItems ((List.range' 1 (ConfigRegistry.new config).connectorCount).map unknownItem)) := rfl

private theorem bound_new (config : RegistryConfig) :
    (ConfigRegistry.new config).value Key.connectorPhaseRotationMaxLength =
      some (Text.ofNat ((ConfigRegistry.new config).connectorCount + 1)) := rfl

/-- The default of an entry is a value of its kind. -/
def OfKind (entry : ConfigEntry) : Bool := entry.readonly || entry.secret || entry.kind.accepts entry.value

private theorem ofKind_new (heartbeat : 1 ≤ config.heartbeatIntervalSecs ∧ config.heartbeatIntervalSecs < 2 ^ 31)
    (ping : config.wsPingIntervalSecs < 2 ^ 31) : ∀ entry ∈ (ConfigRegistry.new config).entries, OfKind entry := by
  let connectors := (ConfigRegistry.new config).connectorCount
  have rotation : OfKind (writableList Key.connectorPhaseRotation .phaseRotations
      Key.connectorPhaseRotationMaxLength (joinItems ((List.range' 1 connectors).map unknownItem))) = true := by
    refine joinItems_accepted ?_ ?_ ?_
    · simp [connectors, connectorCount_new]
    · exact fun item mem => (List.mem_map.mp mem).elim fun id made => made.2 ▸ item_unknown id
    · exact fun item mem => (List.mem_map.mp mem).elim fun id made => made.2 ▸ unknown_accepted id
  have interval : OfKind (writable Key.heartbeatInterval .positiveInt
      (Text.ofNat config.heartbeatIntervalSecs)) = true := by
    show Kind.positiveInt.accepts (Text.ofNat config.heartbeatIntervalSecs) = true
    simp [Kind.accepts, parseInt_ofNat heartbeat.2, heartbeat.1]
  have period : OfKind (writable Key.webSocketPingInterval .nonNegativeInt
      (Text.ofNat config.wsPingIntervalSecs)) = true := by
    show Kind.nonNegativeInt.accepts (Text.ofNat config.wsPingIntervalSecs) = true
    simp [Kind.accepts, parseInt_ofNat ping]
  have first : ∀ entry ∈ firstHalfEntries config connectors, OfKind entry = true := by
    simp only [firstHalfEntries, List.forall_mem_cons]
    and_intros
    all_goals first | rfl | exact rotation | exact interval | exact List.forall_mem_nil _
  have second : ∀ entry ∈ secondHalfEntries config connectors, OfKind entry = true := by
    simp only [secondHalfEntries, List.forall_mem_cons]
    and_intros
    all_goals first | rfl | exact period | exact List.forall_mem_nil _
  exact fun entry mem => (List.mem_append.mp mem).elim (first entry) (second entry)

/-- A list within the bound of its key. -/
def WithinBound (r : ConfigRegistry) (entry : ConfigEntry) : Prop :=
  ∀ maxKey, entry.maxItemsKey = some maxKey → (listItems entry.value).length ≤ r.number maxKey

private theorem withinBound_new (config : RegistryConfig) :
    ∀ entry ∈ (ConfigRegistry.new config).entries, ¬SameKey Key.connectorPhaseRotation entry.key →
      WithinBound (.new config) entry := by
  let connectors := (ConfigRegistry.new config).connectorCount
  have free (entry : ConfigEntry) (none : entry.maxItemsKey = none) : WithinBound (.new config) entry := by
    intro maxKey bounded
    rw [none] at bounded
    cases bounded
  have measurands (key maxKey : Text) (bound : (ConfigRegistry.new config).number maxKey = measurandNames.length) :
      WithinBound (.new config) (writableList key .measurands maxKey defaultMeasurands) := by
    intro maxKey' eq
    cases eq
    rw [bound]
    exact (by decide +kernel : (listItems defaultMeasurands).length ≤ measurandNames.length)
  have first : ∀ entry ∈ firstHalfEntries config connectors, ¬SameKey Key.connectorPhaseRotation entry.key →
      WithinBound (.new config) entry := by
    simp only [firstHalfEntries, List.forall_mem_cons]
    and_intros
    all_goals first | exact fun _ => free _ rfl | exact fun other => absurd rfl other | exact List.forall_mem_nil _
  have second : ∀ entry ∈ secondHalfEntries config connectors, ¬SameKey Key.connectorPhaseRotation entry.key →
      WithinBound (.new config) entry := by
    simp only [secondHalfEntries, List.forall_mem_cons]
    and_intros
    all_goals
      first
      | exact fun _ => free _ rfl
      | exact fun _ => measurands _ _ rfl
      | exact List.forall_mem_nil _
  exact fun entry mem => (List.mem_append.mp mem).elim (first entry) (second entry)

/-! ## Sound registries -/

/-- Every saved value passes its own check. -/
def Sound (r : ConfigRegistry) : Prop :=
  ∀ entry ∈ r.entries, entry.readonly = false → entry.secret = false → r.check entry.key entry.value = .accepted

/-- The defaults besides `ConnectorPhaseRotation` pass their checks. -/
theorem checked_new (heartbeat : 1 ≤ config.heartbeatIntervalSecs ∧ config.heartbeatIntervalSecs < 2 ^ 31)
    (ping : config.wsPingIntervalSecs < 2 ^ 31) {entry : ConfigEntry}
    (mem : entry ∈ (ConfigRegistry.new config).entries) (other : ¬SameKey Key.connectorPhaseRotation entry.key)
    (unlocked : entry.readonly = false) (shown : entry.secret = false) :
    (ConfigRegistry.new config).check entry.key entry.value = .accepted := by
  have kind := ofKind_new heartbeat ping entry mem
  unfold OfKind at kind
  rw [unlocked, shown, Bool.false_or, Bool.false_or] at kind
  exact check_accepted_iff.mpr ⟨entry, (shaped_new config).get_of_mem mem, unlocked, kind,
    withinBound_new config entry mem other⟩

/-- What holds of every registry of a process, whatever room its connectors find. -/
structure Rotating (config : RegistryConfig) (r : ConfigRegistry) : Prop where
  kept : Kept config r
  grown : (ConfigRegistry.new config).connectorCount ≤ r.connectorCount
  bound : r.value Key.connectorPhaseRotationMaxLength = some (Text.ofNat (r.connectorCount + 1))
  rotation : ∃ value, r.value Key.connectorPhaseRotation = some value ∧ Kind.phaseRotations.accepts value = true

/-- The phase rotation is within its bound. -/
def Fits (r : ConfigRegistry) : Prop :=
  ∀ value, r.value Key.connectorPhaseRotation = some value →
    (listItems value).length ≤ r.number Key.connectorPhaseRotationMaxLength

private theorem rotating_new (config : RegistryConfig) : Rotating config (.new config) where
  kept := kept_new config
  grown := le_rfl
  bound := bound_new config
  rotation := by
    refine ⟨_, rotation_new config, joinItems_accepted ?_ ?_ ?_⟩
    · simp [connectorCount_new]
    · exact fun item mem => (List.mem_map.mp mem).elim fun id made => made.2 ▸ item_unknown id
    · exact fun item mem => (List.mem_map.mp mem).elim fun id made => made.2 ▸ unknown_accepted id

/-- The bound as it is read: it counts up to `u32::MAX`. -/
theorem Rotating.number (h : Rotating config r) :
    r.number Key.connectorPhaseRotationMaxLength =
      if r.connectorCount + 1 < 2 ^ 32 then r.connectorCount + 1 else 0 := by
  rw [number_eq h.bound, Text.parseU32, Text.parseUnsigned_ofNat]
  by_cases small : r.connectorCount + 1 < 2 ^ 32
  · rw [if_pos small, if_pos (by omega)]
    rfl
  · rw [if_neg small, if_neg (by omega)]
    rfl

private theorem check_congr {a b : Text} (same : SameKey a b) (value : Text) : r.check a value = r.check b value := by
  unfold ConfigRegistry.check
  rw [get_congr same]

private theorem Rotating.check_rotation (h : Rotating config r) (value : Text) :
    r.check Key.connectorPhaseRotation value = .accepted ↔
      Kind.phaseRotations.accepts value = true ∧
        (listItems value).length ≤ r.number Key.connectorPhaseRotationMaxLength := by
  obtain ⟨entry, found, eq⟩ := h.kept.shaped.defaulted Key.connectorPhaseRotation
    (s := (Key.connectorPhaseRotation, false, .phaseRotations, some Key.connectorPhaseRotationMaxLength))
    (by decide +kernel)
  simp only [shape, Prod.mk.injEq] at eq
  obtain ⟨-, unlocked, kind, bounded⟩ := eq
  rw [check_accepted_iff]
  constructor
  · rintro ⟨e, there, -, accepts, fits⟩
    obtain rfl : entry = e := Option.some.inj (found.symm.trans there)
    exact ⟨kind ▸ accepts, fits _ bounded⟩
  · rintro ⟨accepts, fits⟩
    refine ⟨entry, found, unlocked, kind ▸ accepts, fun maxKey eq => ?_⟩
    cases bounded.symm.trans eq
    exact fits

/-- Only the phase rotation can fail its check. -/
theorem Rotating.sound_iff (h : Rotating config r)
    (heartbeat : 1 ≤ config.heartbeatIntervalSecs ∧ config.heartbeatIntervalSecs < 2 ^ 31)
    (ping : config.wsPingIntervalSecs < 2 ^ 31) : Sound r ↔ Fits r := by
  have shaped := h.kept.shaped
  constructor
  · intro sound value current
    obtain ⟨entry, found, rfl⟩ := Option.map_eq_some_iff.mp current
    have same : SameKey entry.key Key.connectorPhaseRotation := named_iff.mp (List.find?_some found)
    obtain ⟨unlocked, shown⟩ := shaped.rotation_saved rfl found
    have checked := sound entry (List.mem_of_find?_eq_some found) unlocked shown
    rw [check_congr same] at checked
    exact ((h.check_rotation entry.value).mp checked).2
  · intro fits entry mem unlocked shown
    have found := shaped.get_of_mem mem
    by_cases same : SameKey Key.connectorPhaseRotation entry.key
    · have current : r.value Key.connectorPhaseRotation = some entry.value := by
        unfold ConfigRegistry.value
        rw [get_congr same, found]
        rfl
      obtain ⟨value, rotation, accepts⟩ := h.rotation
      obtain rfl : value = entry.value := Option.some.inj (rotation.symm.trans current)
      rw [← check_congr same]
      exact (h.check_rotation _).mpr ⟨accepts, fits _ current⟩
    · rw [h.kept.check same]
      rcases h.kept.values entry.key entry same found unlocked shown with default | accepted
      · exact checked_new heartbeat ping (List.mem_of_find?_eq_some default) same unlocked shown
      · exact accepted

/-! ## One write -/

/-- The connectors that the items of a phase rotation name. -/
def namedConnectors (value : Text) : List Nat :=
  (listItems value).filterMap fun item => (item.splitOnce '.').bind fun parts => Text.parseU32 parts.1

/-- Those of a station with `count` connectors among them, each once. -/
def coveredConnectors (value : Text) (count : Nat) : List Nat :=
  (List.range' 1 count).filter fun id => (namedConnectors value).contains id

/-- The items that are appended find room: `count + 1` does not overflow, and at most one item names no
connector of the station or repeats one. -/
def HasRoom (r : ConfigRegistry) (count : Nat) : Prop :=
  r.connectorCount < count → count + 1 < 2 ^ 32 ∧
    ∀ value, r.value Key.connectorPhaseRotation = some value →
      namedConnectors value = [] ∨ (listItems value).length ≤ (coveredConnectors value count).length + 1

/-- A change of a key checks the rotation against its limit. -/
theorem Rotating.change (h : Rotating config r) (name value : Text) :
    Rotating config (r.change name value).1 ∧ (Fits r → Fits (r.change name value).1) := by
  rcases r.change_cases name value with ⟨status, -, -, eq⟩ | ⟨entry, found, accepted, unlocked, -, eq⟩
  · rw [eq]
    exact ⟨h, id⟩
  · rw [eq]
    have steady : ¬SameKey name Key.connectorPhaseRotationMaxLength := by
      intro same
      rw [h.kept.shaped.derived_readonly (.inr same.symm) found] at unlocked
      cases unlocked
    have bound : (r.setInternal name value).value Key.connectorPhaseRotationMaxLength =
        r.value Key.connectorPhaseRotationMaxLength := value_setInternal_other steady
    have number : (r.setInternal name value).number Key.connectorPhaseRotationMaxLength =
        r.number Key.connectorPhaseRotationMaxLength := by
      unfold ConfigRegistry.number
      rw [bound]
    have kept := h.kept.setInternal found unlocked (.inr accepted)
    by_cases same : SameKey name Key.connectorPhaseRotation
    · have written : (r.setInternal name value).value Key.connectorPhaseRotation = some value :=
        value_setInternal_same same found
      rw [check_congr same] at accepted
      obtain ⟨accepts, fits⟩ := (h.check_rotation value).mp accepted
      refine ⟨⟨kept, h.grown, bound.trans h.bound, value, written, accepts⟩, fun _ other current => ?_⟩
      obtain rfl : value = other := Option.some.inj (written.symm.trans current)
      exact number ▸ fits
    · have untouched : (r.setInternal name value).value Key.connectorPhaseRotation =
          r.value Key.connectorPhaseRotation := value_setInternal_other same
      refine ⟨⟨kept, h.grown, bound.trans h.bound, untouched ▸ h.rotation⟩, fun fits other current => ?_⟩
      rw [number]
      exact fits other (untouched ▸ current)

/-- The phase rotation of a station that grows to `count` connectors. -/
def grownRotation (value : Text) (count : Nat) : Text :=
  if (namedConnectors value).isEmpty then value
  else
    joinItems (listItems value ++
      ((List.range' 1 count).filter fun id => !(namedConnectors value).contains id).map unknownItem)

private theorem value_setConnectorCount {value : Text} {count : Nat} (more : r.connectorCount < count)
    (shaped : Shaped r) (current : r.value Key.connectorPhaseRotation = some value) :
    (r.setConnectorCount count).connectorCount = count ∧
      (r.setConnectorCount count).value Key.connectorPhaseRotationMaxLength = some (Text.ofNat (count + 1)) ∧
      (r.setConnectorCount count).value Key.connectorPhaseRotation = some (grownRotation value count) := by
  let counted := ({ r with connectorCount := count } : ConfigRegistry).setInternal Key.numberOfConnectors
    (Text.ofNat count)
  let bounded := counted.setInternal Key.connectorPhaseRotationMaxLength (Text.ofNat (count + 1))
  have shapedCounted : Shaped counted := Shaped.setInternal (r := { r with connectorCount := count }) shaped _ _
  have bound : bounded.value Key.connectorPhaseRotationMaxLength = some (Text.ofNat (count + 1)) := by
    obtain ⟨entry, found, -⟩ := shapedCounted.defaulted Key.connectorPhaseRotationMaxLength
      (s := (Key.connectorPhaseRotationMaxLength, true, .text, none)) (by decide +kernel)
    exact value_setInternal_same rfl found
  have same : bounded.value Key.connectorPhaseRotation = some value := by
    rw [value_setInternal_other (by decide +kernel), value_setInternal_other (by decide +kernel)]
    exact current
  have step : r.setConnectorCount count =
      if (namedConnectors value).isEmpty then bounded
      else bounded.setInternal Key.connectorPhaseRotation (joinItems (listItems value ++
        ((List.range' 1 count).filter fun id => !(namedConnectors value).contains id).map unknownItem)) := by
    unfold ConfigRegistry.setConnectorCount
    rw [if_neg (by omega)]
    dsimp only
    split
    · rename_i absent
      cases same.symm.trans absent
    · rename_i known
      obtain rfl := Option.some.inj (same.symm.trans known)
      rfl
  rw [step]
  unfold grownRotation
  split
  · exact ⟨rfl, bound, same⟩
  · obtain ⟨entry, found, -⟩ := (shapedCounted.setInternal Key.connectorPhaseRotationMaxLength
      (Text.ofNat (count + 1))).defaulted Key.connectorPhaseRotation
      (s := (Key.connectorPhaseRotation, false, .phaseRotations, some Key.connectorPhaseRotationMaxLength))
      (by decide +kernel)
    refine ⟨rfl, ?_, value_setInternal_same rfl found⟩
    rw [value_setInternal_other (by decide +kernel)]
    exact bound

/-- What the grown phase rotation lists: an item for every connector that was left out. -/
theorem listItems_grownRotation {value : Text} (count : Nat) (some : namedConnectors value ≠ []) :
    (listItems (grownRotation value count)).length + (coveredConnectors value count).length =
      (listItems value).length + count := by
  have items : listItems (grownRotation value count) = listItems value ++
      ((List.range' 1 count).filter fun id => !(namedConnectors value).contains id).map unknownItem := by
    unfold grownRotation
    rw [if_neg (by simpa using some)]
    refine listItems_joinItems fun item mem => ?_
    rcases List.mem_append.mp mem with old | new
    · exact item_of_mem old
    · obtain ⟨id, -, rfl⟩ := List.mem_map.mp new
      exact item_unknown id
  have parts := List.length_eq_length_filter_add (l := List.range' 1 count)
    fun id => (namedConnectors value).contains id
  rw [List.length_range'] at parts
  rw [items, List.length_append, List.length_map]
  unfold coveredConnectors
  omega

private theorem grownRotation_accepts {value : Text} (accepts : Kind.phaseRotations.accepts value = true)
    (count : Nat) :
    Kind.phaseRotations.accepts (grownRotation value count) = true := by
  unfold grownRotation
  split
  · exact accepts
  · obtain ⟨some, rotations⟩ := accepts_rotation.mp accepts
    refine joinItems_accepted (by simp [some]) (fun item mem => ?_) fun item mem => ?_
    · rcases List.mem_append.mp mem with old | new
      · exact item_of_mem old
      · obtain ⟨id, -, rfl⟩ := List.mem_map.mp new
        exact item_unknown id
    · rcases List.mem_append.mp mem with old | new
      · exact rotations item old
      · obtain ⟨id, -, rfl⟩ := List.mem_map.mp new
        exact unknown_accepted id

/-- A new count extends the rotation, which fits where there is room. -/
theorem Rotating.setConnectorCount (h : Rotating config r) (count : Nat) :
    Rotating config (r.setConnectorCount count) ∧
      (Fits r → (Fits (r.setConnectorCount count) ↔ HasRoom r count)) := by
  by_cases more : r.connectorCount < count
  · obtain ⟨value, current, accepts⟩ := h.rotation
    obtain ⟨counted, bound, rotation⟩ := value_setConnectorCount more h.kept.shaped current
    have grown : Rotating config (r.setConnectorCount count) :=
      ⟨h.kept.setConnectorCount count, by have := h.grown; omega, counted.symm ▸ bound, _, rotation,
        grownRotation_accepts accepts count⟩
    refine ⟨grown, fun fits => ?_⟩
    have number := grown.number
    rw [counted] at number
    have earlier := fits value current
    rw [h.number] at earlier
    have filled : 0 < (listItems (grownRotation value count)).length :=
      List.length_pos_iff.mpr (accepts_rotation.mp (grownRotation_accepts accepts count)).1
    have length : namedConnectors value ≠ [] → _ := listItems_grownRotation count
    have within : Fits (r.setConnectorCount count) ↔
        (listItems (grownRotation value count)).length ≤ if count + 1 < 2 ^ 32 then count + 1 else 0 := by
      constructor
      · intro fits
        rw [← number]
        exact fits _ rotation
      · intro le other current
        obtain rfl := Option.some.inj (rotation.symm.trans current)
        rw [number]
        exact le
    rw [within]
    constructor
    · intro le _
      by_cases small : count + 1 < 2 ^ 32
      · rw [if_pos small] at le
        refine ⟨small, fun other same => ?_⟩
        obtain rfl := Option.some.inj (current.symm.trans same)
        refine or_iff_not_imp_left.mpr fun some => ?_
        have := length some
        omega
      · rw [if_neg small] at le
        omega
    · intro room
      obtain ⟨small, room⟩ := room more
      rw [if_pos small]
      rcases room value current with none | le
      · have same : grownRotation value count = value := by
          unfold grownRotation
          rw [none]
          rfl
        rw [same]
        split at earlier <;> omega
      · by_cases none : namedConnectors value = []
        · have same : grownRotation value count = value := by
            unfold grownRotation
            rw [none]
            rfl
          rw [same]
          split at earlier <;> omega
        · have := length none
          omega
  · have same : r.setConnectorCount count = r := if_pos (by omega)
    rw [same]
    exact ⟨h, fun fits => ⟨fun _ grows => absurd grows more, fun _ => fits⟩⟩

/-! ## A restart -/

/-- A new process with the same configuration and as many connectors takes every saved value. -/
def RoundTrips (config : RegistryConfig) (r : ConfigRegistry) : Prop :=
  let restored := ((ConfigRegistry.new config).setConnectorCount r.connectorCount).restore r.snapshot
  restored.2 = [] ∧ ∀ entry ∈ r.entries, entry.readonly = false → entry.secret = false →
    restored.1.value entry.key = some entry.value

/-- What is saved is the value of an entry that is shown. -/
theorem mem_snapshot {v : Text × Text} (mem : v ∈ r.snapshot) :
    ∃ entry ∈ r.entries, entry.readonly = false ∧ entry.secret = false ∧ v = (entry.key, entry.value) := by
  have perm : r.snapshot.Perm ((r.entries.filter fun entry => !entry.readonly && !entry.secret).map fun entry =>
      (entry.key, entry.value)) := List.mergeSort_perm _ _
  obtain ⟨entry, kept, rfl⟩ := List.mem_map.mp (perm.mem_iff.mp mem)
  obtain ⟨known, open'⟩ := List.mem_filter.mp kept
  rw [Bool.and_eq_true, Bool.not_eq_true', Bool.not_eq_true'] at open'
  exact ⟨entry, known, open'.1, open'.2, rfl⟩

/-- Values that pass their checks are all taken. -/
theorem Shaped.restore_takes (h : Shaped r) {values : List (Text × Text)}
    (distinct : values.Pairwise fun v w => ¬SameKey v.1 w.1)
    (accepted : ∀ v ∈ values, r.check v.1 v.2 = .accepted) : (r.restore values).2 = [] := by
  unfold ConfigRegistry.restore
  induction values generalizing r with
  | nil => rfl
  | cons first rest ih =>
    rw [List.pairwise_cons] at distinct
    rcases r.change_cases first.1 first.2 with ⟨status, refused, checked, -⟩ | ⟨entry, found, -, unlocked, -, eq⟩
    · exact absurd (checked ▸ accepted first List.mem_cons_self) refused
    · rw [List.foldl_cons]
      dsimp only
      rw [eq]
      refine ih (h.setInternal first.1 first.2) distinct.2 fun w mem => ?_
      have same : (r.change first.1 first.2).1.check w.1 w.2 = r.check w.1 w.2 :=
        h.check_change_other (distinct.1 w mem) found unlocked
      rw [eq] at same
      exact same.trans (accepted w (List.mem_cons_of_mem _ mem))

private theorem Rotating.round_trips (h : Rotating config r) (sound : Sound r) : RoundTrips config r := by
  let fresh := (ConfigRegistry.new config).setConnectorCount r.connectorCount
  have rotating : Rotating config fresh := ((rotating_new config).setConnectorCount r.connectorCount).1
  have count : fresh.connectorCount = r.connectorCount := by
    by_cases more : (ConfigRegistry.new config).connectorCount < r.connectorCount
    · exact (value_setConnectorCount more (shaped_new config) (rotation_new config)).1
    · have same : fresh = ConfigRegistry.new config := if_pos (by omega)
      have := h.grown
      rw [same]
      omega
  have number : fresh.number Key.connectorPhaseRotationMaxLength =
      r.number Key.connectorPhaseRotationMaxLength := by
    rw [rotating.number, h.number, count]
  have checks (name value : Text) : r.check name value = .accepted → fresh.check name value = .accepted := by
    intro accepted
    by_cases same : SameKey Key.connectorPhaseRotation name
    · rw [← check_congr same] at accepted ⊢
      rw [rotating.check_rotation, number]
      exact (h.check_rotation value).mp accepted
    · rw [rotating.kept.check same]
      exact (h.kept.check same value).mp accepted
  obtain ⟨distinct, writable, saved⟩ := h.kept.shaped.snapshot
  have accepted : ∀ v ∈ r.snapshot, fresh.check v.1 v.2 = .accepted := by
    intro v mem
    obtain ⟨entry, known, unlocked, shown, rfl⟩ := mem_snapshot mem
    exact checks _ _ (sound entry known unlocked shown)
  refine ⟨rotating.kept.shaped.restore_takes distinct accepted, fun entry mem unlocked shown => ?_⟩
  have kept := saved entry mem unlocked shown
  have known : ∀ v ∈ r.snapshot, ∃ entry, fresh.get v.1 = some entry ∧ entry.readonly = false := by
    intro v mem
    obtain ⟨e, found, open', -⟩ := check_accepted_iff.mp (accepted v mem)
    exact ⟨e, found, open'⟩
  have value := rotating.kept.shaped.restore_value distinct known kept
  rw [if_pos (accepted _ kept)] at value
  exact value

/-! ## A process -/

/-- One write to the registry. -/
inductive Write where
  | change (name value : Text)
  | setConnectorCount (count : Nat)

def write (r : ConfigRegistry) : Write → ConfigRegistry
  | .change name value => (r.change name value).1
  | .setConnectorCount count => r.setConnectorCount count

/-- Every connector that the writes add finds room. -/
def Roomy : ConfigRegistry → List Write → Prop
  | _, [] => True
  | r, .change name value :: writes => Roomy (r.change name value).1 writes
  | r, .setConnectorCount count :: writes => HasRoom r count ∧ Roomy (r.setConnectorCount count) writes

/-- Every sequence of writes keeps the shape of the rotation. -/
theorem Rotating.run (h : Rotating config r) (writes : List Write) :
    ∀ r' ∈ writes.scanl write r, Rotating config r' := by
  induction writes generalizing r with
  | nil => simpa using h
  | cons w writes ih =>
    rw [List.scanl_cons, List.forall_mem_cons]
    cases w with
    | change name value => exact ⟨h, ih (h.change name value).1⟩
    | setConnectorCount count => exact ⟨h, ih (h.setConnectorCount count).1⟩

private theorem mem_scanl_start (r : ConfigRegistry) (writes : List Write) : r ∈ writes.scanl write r := by
  cases writes <;> simp

private theorem Rotating.fits_iff (h : Rotating config r) (fits : Fits r) (writes : List Write) :
    (∀ r' ∈ writes.scanl write r, Fits r') ↔ Roomy r writes := by
  induction writes generalizing r with
  | nil => simpa [Roomy] using fits
  | cons w writes ih =>
    rw [List.scanl_cons, List.forall_mem_cons]
    cases w with
    | change name value =>
      obtain ⟨next, kept⟩ := h.change name value
      have rest := ih next (kept fits)
      exact ⟨fun all => rest.mp all.2, fun roomy => ⟨fits, rest.mpr roomy⟩⟩
    | setConnectorCount count =>
      obtain ⟨next, grows⟩ := h.setConnectorCount count
      constructor
      · intro ⟨_, all⟩
        have grown : Fits (r.setConnectorCount count) := all _ (mem_scanl_start _ writes)
        exact ⟨(grows fits).mp grown, (ih next grown).mp all⟩
      · intro ⟨room, roomy⟩
        exact ⟨fits, (ih next ((grows fits).mpr room)).mpr roomy⟩

/-- The defaults list as many items as there are connectors. -/
theorem fits_new : Fits (.new config) ↔ (ConfigRegistry.new config).connectorCount + 1 < 2 ^ 32 := by
  have items : listItems (joinItems ((List.range' 1 (ConfigRegistry.new config).connectorCount).map unknownItem)) =
      (List.range' 1 (ConfigRegistry.new config).connectorCount).map unknownItem := by
    refine listItems_joinItems fun item mem => ?_
    obtain ⟨id, -, rfl⟩ := List.mem_map.mp mem
    exact item_unknown id
  have number := (rotating_new config).number
  have filled : 1 ≤ (ConfigRegistry.new config).connectorCount := by
    rw [connectorCount_new]
    omega
  constructor
  · intro fits
    have le := fits _ (rotation_new config)
    rw [items, List.length_map, List.length_range', number] at le
    by_contra large
    rw [if_neg large] at le
    omega
  · intro small value current
    obtain rfl := Option.some.inj ((rotation_new config).symm.trans current)
    rw [items, List.length_map, List.length_range', number, if_pos small]
    omega

/-- Every state of a process is sound and survives a restart if and only if its connectors find room; a change
that is not accepted changes nothing, and a key is found in any spelling. -/
theorem registry_round_trip (config : RegistryConfig)
    (heartbeat : 1 ≤ config.heartbeatIntervalSecs ∧ config.heartbeatIntervalSecs ≤ 2 ^ 31 - 1)
    (ping : config.wsPingIntervalSecs ≤ 2 ^ 31 - 1) (writes : List Write) :
    ((∀ r ∈ writes.scanl write (.new config), Sound r ∧ RoundTrips config r) ↔
      (ConfigRegistry.new config).connectorCount + 1 < 2 ^ 32 ∧ Roomy (.new config) writes) ∧
    (∀ (r : ConfigRegistry) (name value : Text), (r.change name value).2 ≠ .accepted →
      (r.change name value).1 = r) ∧
    ∀ (r : ConfigRegistry) (a b : Text), a.eqIgnoreAsciiCase b = true → r.get a = r.get b := by
  have start := rotating_new config
  have rotating := start.run writes
  have sound {r : ConfigRegistry} (h : Rotating config r) : Sound r ↔ Fits r :=
    h.sound_iff ⟨heartbeat.1, by omega⟩ (by omega)
  refine ⟨?_, fun r name value refused => ?_, fun r a b same => ?_⟩
  · rw [← fits_new]
    constructor
    · intro all
      have fits : Fits (.new config) := (sound start).mp (all _ (mem_scanl_start _ writes)).1
      refine ⟨fits, (start.fits_iff fits writes).mp fun r mem => ?_⟩
      exact (sound (rotating r mem)).mp (all r mem).1
    · intro ⟨fits, roomy⟩ r mem
      have checked := (sound (rotating r mem)).mpr ((start.fits_iff fits writes).mpr roomy r mem)
      exact ⟨checked, (rotating r mem).round_trips checked⟩
  · rcases r.change_cases name value with ⟨status, -, -, eq⟩ | ⟨entry, -, -, -, -, eq⟩
    · rw [eq]
    · rw [eq] at refused
      exact absurd rfl refused
  · exact get_congr (beq_iff_eq.mp same)

/-- A phase rotation for all connectors and one of its own leaves room for the next connector. -/
theorem registry_round_trip_two :
    ([Write.change "connectorphaserotation".toList "RST, 1.RTS".toList, .setConnectorCount 2].scanl write
      (.new {})).Forall fun r => Sound r ∧ RoundTrips {} r := by
  rw [List.forall_iff_forall_mem]
  refine (registry_round_trip {} (by decide) (by decide) _).1.mpr ⟨by decide, fun _ => ⟨by decide, ?_⟩, trivial⟩
  intro value current
  have eq : (ConfigRegistry.change (.new {}) "connectorphaserotation".toList "RST, 1.RTS".toList).1.value
      Key.connectorPhaseRotation = some "RST, 1.RTS".toList := by
    decide +kernel
  obtain rfl := Option.some.inj (eq.symm.trans current)
  exact .inr (by decide +kernel)

instance (r : ConfigRegistry) : Decidable (Sound r) :=
  inferInstanceAs (Decidable (∀ entry ∈ r.entries, entry.readonly = false → entry.secret = false → _))

/-- Two items for connector 0 are accepted; with the items of two connectors there are four, and three are
allowed. -/
theorem grown_rotation_unsound :
    ¬∀ r ∈ [Write.change Key.connectorPhaseRotation "0.RST,0.RST".toList, .setConnectorCount 2].scanl write
      (.new {}), Sound r ∧ RoundTrips {} r := by
  intro all
  have sound := (all (write (write (.new {}) (.change Key.connectorPhaseRotation "0.RST,0.RST".toList))
    (.setConnectorCount 2)) (by simp [List.scanl_cons])).1
  revert sound
  decide +kernel

end ConfigRegistry

end KirbyOcpp.Config
