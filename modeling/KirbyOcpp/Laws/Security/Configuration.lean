import KirbyOcpp.Station.ConfigRegistry

/-!
# Lookups and changes of the configuration keys

A key has many spellings and one entry. Writing a value changes the entry of its key and no other
(`find_setAt_same`, `find_setAt_other`), and never the key, the kind or the bound of an entry
(`ConfigRegistry.Shaped`). A number that the registry accepts is read as the same number by every parser
of the station (`parseInt_parseUnsigned`).
-/

namespace KirbyOcpp

/-! ## Numbers -/

/-- Digits only, so no sign is skipped: any unsigned parser that holds the number reads it. -/
theorem parseInt_parseUnsigned {value : Text} {n max : Nat} (h : Config.parseInt value = some n) (le : n ≤ max) :
    Text.parseUnsigned max value = some n := by
  unfold Config.parseInt at h
  split at h
  · cases h
  · rename_i digits
    obtain ⟨parsed, -⟩ := Option.filter_eq_some_iff.mp h
    cases value with
    | nil => simp at digits
    | cons c rest =>
      have sign : c ≠ '+' := by
        rintro rfl
        simp [Text.isAsciiDigit] at digits
      have plain : Text.unsigned (c :: rest) = c :: rest := by
        unfold Text.unsigned
        split
        · rename_i eq
          exact absurd (List.cons.inj eq).1 sign
        · rfl
      unfold Text.parseUnsigned
      rw [plain, if_neg (by simp)]
      exact Option.filter_eq_some_iff.mpr ⟨parsed, by simpa using le⟩

namespace Config

/-! ## Entries -/

namespace ConfigRegistry

/-- Two spellings of one key. -/
def SameKey (a b : Text) : Prop := a.toAsciiLowercase = b.toAsciiLowercase

instance (a b : Text) : Decidable (SameKey a b) := inferInstanceAs (Decidable (_ = _))

theorem named_iff {name : Text} {entry : ConfigEntry} : named name entry = true ↔ SameKey entry.key name := by
  simp [named, Text.eqIgnoreAsciiCase, SameKey]

theorem named_congr {a b : Text} (h : SameKey a b) : named a = named b := by
  funext entry
  unfold named Text.eqIgnoreAsciiCase
  rw [h]

theorem find_setAt_same {name value : Text} (entries : List ConfigEntry) :
    (setAt name value entries).find? (named name) =
      (entries.find? (named name)).map fun entry => { entry with value } := by
  induction entries with
  | nil => rfl
  | cons entry entries ih =>
    unfold setAt
    by_cases h : named name entry = true
    · have h' : named name { entry with value } = true := h
      simp [h, h']
    · simp [h, ih]

theorem find_setAt_other {name name' value : Text} (other : ¬SameKey name name') (entries : List ConfigEntry) :
    (setAt name value entries).find? (named name') = entries.find? (named name') := by
  induction entries with
  | nil => rfl
  | cons entry entries ih =>
    unfold setAt
    by_cases h : named name entry = true
    · have h' : ¬named name' entry = true := fun h' =>
        other ((named_iff.mp h).symm.trans (named_iff.mp h'))
      have h'' : ¬named name' { entry with value } = true := h'
      simp [h, h', h'']
    · by_cases h' : named name' entry = true
      · simp [h, h']
      · simp [h, h', ih]

/-- What no change touches of an entry. -/
def shape (entry : ConfigEntry) : Text × Bool × Kind × Option Text :=
  (entry.key, entry.readonly, entry.kind, entry.maxItemsKey)

theorem setAt_shape (name value : Text) (entries : List ConfigEntry) :
    (setAt name value entries).map shape = entries.map shape := by
  induction entries with
  | nil => rfl
  | cons entry entries ih =>
    unfold setAt
    split
    · rfl
    · simp [ih]

/-- The entries are the ones of the defaults, with other values. -/
def Shaped (r : ConfigRegistry) : Prop := r.entries.map shape = (defaultEntries {} 1).map shape

theorem shaped_new (config : RegistryConfig) : Shaped (.new config) := rfl

theorem Shaped.setInternal {r : ConfigRegistry} (h : Shaped r) (name value : Text) :
    Shaped (r.setInternal name value) := (setAt_shape name value r.entries).trans h

/-- The shape of the entry of a key is that of its default. -/
theorem Shaped.get {r : ConfigRegistry} (h : Shaped r) (name : Text) :
    (r.get name).map shape = ((defaultEntries {} 1).find? (named name)).map shape := by
  have byShape (entries : List ConfigEntry) :
      (entries.find? (named name)).map shape =
        (entries.map shape).find? fun s => Text.eqIgnoreAsciiCase s.1 name := by
    rw [List.find?_map]
    rfl
  unfold ConfigRegistry.get
  rw [byShape, byShape, h]

theorem Shaped.profileEntry {r : ConfigRegistry} (h : Shaped r) :
    ∃ entry, r.get Key.securityProfile = some entry ∧ entry.kind = .securityProfile := by
  have same := h.get Key.securityProfile
  have default : ((defaultEntries {} 1).find? (named Key.securityProfile)).map shape =
      some (Key.securityProfile, false, Kind.securityProfile, none) := by
    decide +kernel
  rw [default] at same
  obtain ⟨entry, found, eq⟩ := Option.map_eq_some_iff.mp same
  exact ⟨entry, found, congrArg (fun s => s.2.2.1) eq⟩

/-! ## Changes -/

/-- The ways a change can end. -/
theorem change_cases (r : ConfigRegistry) (name value : Text) :
    (∃ status, status ≠ .accepted ∧ r.check name value = status ∧ r.change name value = (r, status)) ∨
    ∃ entry, r.get name = some entry ∧ r.check name value = .accepted ∧ entry.readonly = false ∧
      entry.kind.accepts value = true ∧ r.change name value = (r.setInternal name value, .accepted) := by
  unfold change
  split
  · rename_i accepted
    refine .inr ?_
    have checked := accepted
    unfold check at accepted
    split at accepted
    · cases accepted
    · rename_i entry found
      cases readonly : entry.readonly with
      | true => simp [readonly] at accepted
      | false =>
        cases accepts : entry.kind.accepts value with
        | false => simp [accepts] at accepted
        | true => exact ⟨entry, found, checked, readonly, accepts, rfl⟩
  · rename_i status refused
    exact .inl ⟨_, refused, rfl, rfl⟩

theorem Shaped.change {r : ConfigRegistry} (h : Shaped r) (name value : Text) : Shaped (r.change name value).1 := by
  rcases r.change_cases name value with ⟨status, -, -, eq⟩ | ⟨entry, -, -, -, -, eq⟩
  · rw [eq]
    exact h
  · rw [eq]
    exact h.setInternal name value

theorem value_setInternal_other {r : ConfigRegistry} {name name' value : Text} (other : ¬SameKey name name') :
    (r.setInternal name value).value name' = r.value name' := by
  unfold ConfigRegistry.value ConfigRegistry.get setInternal
  rw [find_setAt_other other]

theorem value_setInternal_same {r : ConfigRegistry} {name name' value : Text} (same : SameKey name name')
    {entry : ConfigEntry} (found : r.get name = some entry) :
    (r.setInternal name value).value name' = some value := by
  unfold ConfigRegistry.get at found
  unfold ConfigRegistry.value ConfigRegistry.get setInternal
  rw [← named_congr same, find_setAt_same, found]
  rfl

/-- A change of another key leaves the profile. -/
theorem securityProfile_other {r : ConfigRegistry} {name value : Text} (other : ¬SameKey name Key.securityProfile) :
    (r.change name value).1.securityProfile = r.securityProfile := by
  rcases r.change_cases name value with ⟨status, -, -, eq⟩ | ⟨entry, -, -, -, -, eq⟩
  · rw [eq]
  · rw [eq]
    unfold securityProfile number
    rw [value_setInternal_other other]

/-- An accepted change of the profile is read as the number it names, by this parser and by the other. -/
theorem Shaped.securityProfile_same {r : ConfigRegistry} (h : Shaped r) {name value : Text}
    (same : SameKey name Key.securityProfile) (accepted : r.check name value = .accepted) :
    ∃ n ≤ 3, value.parseU8 = some n ∧ (r.change name value).1.securityProfile = n := by
  rcases r.change_cases name value with ⟨status, refused, eq, -⟩ | ⟨entry, found, -, -, accepts, eq⟩
  · exact absurd (eq ▸ accepted) refused
  · obtain ⟨entry', found', kind⟩ := h.profileEntry
    have named : r.get name = r.get Key.securityProfile := by
      unfold ConfigRegistry.get
      rw [named_congr same]
    obtain rfl : entry = entry' := Option.some.inj (found ▸ named ▸ found')
    rw [kind] at accepts
    obtain ⟨n, parsed, le⟩ : ∃ n, parseInt value = some n ∧ n ≤ 3 := by
      unfold Kind.accepts at accepts
      cases parsed : parseInt value with
      | none => simp [parsed] at accepts
      | some n => exact ⟨n, rfl, by simpa [parsed] using accepts⟩
    refine ⟨n, le, parseInt_parseUnsigned parsed (by omega), ?_⟩
    rw [eq]
    unfold securityProfile number
    rw [value_setInternal_same same found]
    simp only [Option.bind_some]
    unfold Text.parseU32
    rw [parseInt_parseUnsigned parsed (by omega), Option.getD_some, if_pos (by omega)]

/-! ## Checks -/

/-- The entries of a registry have distinct keys. -/
theorem Shaped.keys_nodup {r : ConfigRegistry} (h : Shaped r) :
    (r.entries.map fun entry => entry.key.toAsciiLowercase).Nodup := by
  have keys (entries : List ConfigEntry) :
      entries.map (fun entry => entry.key.toAsciiLowercase) =
        (entries.map shape).map fun s => s.1.toAsciiLowercase := by
    rw [List.map_map]
    rfl
  rw [keys, h, ← keys]
  decide +kernel

/-- An entry is found under its key. -/
theorem Shaped.get_of_mem {r : ConfigRegistry} (h : Shaped r) {entry : ConfigEntry} (mem : entry ∈ r.entries) :
    r.get entry.key = some entry := by
  unfold ConfigRegistry.get
  cases found : r.entries.find? (named entry.key) with
  | none =>
    have missed := List.find?_eq_none.mp found entry mem
    exact absurd (named_iff.mpr rfl) missed
  | some other =>
    have same : SameKey other.key entry.key := named_iff.mp (List.find?_some found)
    rw [List.inj_on_of_nodup_map h.keys_nodup (List.mem_of_find?_eq_some found) mem same]

/-- The read-only keys that follow the number of connectors. -/
def Derived (name : Text) : Prop :=
  SameKey Key.numberOfConnectors name ∨ SameKey Key.connectorPhaseRotationMaxLength name

instance (name : Text) : Decidable (Derived name) := inferInstanceAs (Decidable (_ ∨ _))

/-- A list is bounded by a read-only key, and only `ConnectorPhaseRotation` by one that changes. -/
theorem Shaped.bound_readonly {r : ConfigRegistry} (h : Shaped r) {name maxKey : Text} {entry : ConfigEntry}
    (found : r.get name = some entry) (bounded : entry.maxItemsKey = some maxKey) :
    (∀ bound, r.get maxKey = some bound → bound.readonly = true) ∧
      (¬SameKey Key.connectorPhaseRotation name → ¬Derived maxKey) := by
  have all : (defaultEntries {} 1).all (fun d => d.maxItemsKey.all fun m =>
      ((defaultEntries {} 1).find? (named m)).all (·.readonly) &&
        (decide (SameKey Key.connectorPhaseRotation d.key) || !decide (Derived m))) = true := by
    decide +kernel
  have same := h.get name
  rw [found] at same
  obtain ⟨d, default, eq⟩ := Option.map_eq_some_iff.mp same.symm
  have known := List.all_eq_true.mp all d (List.mem_of_find?_eq_some default)
  have bound : d.maxItemsKey = some maxKey := (congrArg (fun s => s.2.2.2) eq).trans bounded
  rw [bound, Option.all_some, Bool.and_eq_true] at known
  refine ⟨fun e there => ?_, fun other derived => ?_⟩
  · have same := h.get maxKey
    rw [there] at same
    obtain ⟨d', default', eq'⟩ := Option.map_eq_some_iff.mp same.symm
    rw [default', Option.all_some] at known
    exact (congrArg (fun s => s.2.1) eq').symm.trans known.1
  · have key : SameKey d.key name := named_iff.mp (List.find?_some default)
    have differs : ¬SameKey Key.connectorPhaseRotation d.key := fun eq => other (eq.trans key)
    simp [differs, derived] at known

/-- When a value is accepted. -/
theorem check_accepted_iff {r : ConfigRegistry} {name value : Text} :
    r.check name value = .accepted ↔
      ∃ entry, r.get name = some entry ∧ entry.readonly = false ∧ entry.kind.accepts value = true ∧
        ∀ maxKey, entry.maxItemsKey = some maxKey → (listItems value).length ≤ r.number maxKey := by
  unfold check
  cases found : r.get name with
  | none => simp
  | some entry =>
    cases bound : entry.maxItemsKey with
    | none => simp [bound]
    | some maxKey => simp [bound, and_assoc]

/-- A change does not touch another entry. -/
theorem get_change_other {r : ConfigRegistry} {name name' : Text} (other : ¬SameKey name name') (value : Text) :
    (r.change name value).1.get name' = r.get name' := by
  rcases r.change_cases name value with ⟨status, -, -, eq⟩ | ⟨entry, -, -, -, -, eq⟩
  · rw [eq]
  · rw [eq]
    exact find_setAt_other other r.entries

/-- A change of another key never changes what the check of a key says. -/
theorem Shaped.check_change_other {r : ConfigRegistry} (h : Shaped r) {name name' value value' : Text}
    (other : ¬SameKey name name') {entry : ConfigEntry} (found : r.get name = some entry)
    (writable : entry.readonly = false) :
    (r.change name value).1.check name' value' = r.check name' value' := by
  have get := r.get_change_other other value
  unfold check
  rw [get]
  cases there : r.get name' with
  | none => rfl
  | some entry' =>
    cases bounded : entry'.maxItemsKey with
    | none => simp only [bounded]
    | some maxKey =>
      have fixed : ¬SameKey name maxKey := by
        intro same
        have there' : r.get maxKey = some entry := by
          unfold ConfigRegistry.get at found ⊢
          rwa [← named_congr same]
        have readonly := (h.bound_readonly there bounded).1 entry there'
        rw [writable] at readonly
        cases readonly
      have number : (r.change name value).1.number maxKey = r.number maxKey := by
        unfold ConfigRegistry.number ConfigRegistry.value
        rw [r.get_change_other fixed value]
      simp only [bounded, number]

/-! ## What a restart makes of the saved values -/

theorem restore_eq (r : ConfigRegistry) (values : List (Text × Text)) :
    (r.restore values).1 = values.foldl (fun r v => (r.change v.1 v.2).1) r := by
  unfold restore
  obtain ⟨state, begun⟩ : ∃ state : ConfigRegistry × List Text, state = (r, []) := ⟨_, rfl⟩
  have own : r = state.1 := (congrArg Prod.fst begun).symm
  rw [← begun, own]
  clear begun own
  induction values generalizing state with
  | nil => rfl
  | cons v values ih =>
    rw [List.foldl_cons, List.foldl_cons]
    obtain ⟨r, skipped⟩ := state
    dsimp only
    rcases r.change v.1 v.2 with ⟨r', status⟩
    cases status with
    | accepted => exact ih (r', skipped)
    | _ => exact ih (r', skipped ++ [v.1])

/-- Each saved value stands or falls on its own. -/
theorem Shaped.restore_value {r : ConfigRegistry} (h : Shaped r) {values : List (Text × Text)}
    (distinct : values.Pairwise fun v w => ¬SameKey v.1 w.1)
    (writable : ∀ v ∈ values, ∃ entry, r.get v.1 = some entry ∧ entry.readonly = false) {v : Text × Text}
    (mem : v ∈ values) :
    (r.restore values).1.value v.1 = if r.check v.1 v.2 = .accepted then some v.2 else r.value v.1 := by
  rw [restore_eq]
  induction values generalizing r with
  | nil => cases mem
  | cons first rest ih =>
    rw [List.pairwise_cons] at distinct
    obtain ⟨entry, found, unlocked⟩ := writable first List.mem_cons_self
    have later : ∀ w ∈ rest, ∃ e, (r.change first.1 first.2).1.get w.1 = some e ∧ e.readonly = false := by
      intro w known
      rw [r.get_change_other (distinct.1 w known) first.2]
      exact writable w (List.mem_cons_of_mem _ known)
    rw [List.foldl_cons]
    rcases List.mem_cons.mp mem with rfl | tail
    · -- none of the rest is this key
      have kept (rest : List (Text × Text)) (others : ∀ w ∈ rest, ¬SameKey v.1 w.1) (r : ConfigRegistry) :
          (rest.foldl (fun r w => (r.change w.1 w.2).1) r).get v.1 = r.get v.1 := by
        induction rest generalizing r with
        | nil => rfl
        | cons w rest ih =>
          rw [List.foldl_cons, ih fun w' known => others w' (List.mem_cons_of_mem _ known)]
          exact r.get_change_other (fun same => others w List.mem_cons_self same.symm) w.2
      unfold ConfigRegistry.value
      rw [kept rest distinct.1]
      rcases r.change_cases v.1 v.2 with ⟨status, refused, checked, eq⟩ | ⟨e, there, accepted, -, -, eq⟩
      · rw [eq, if_neg (by rw [checked]; exact refused)]
      · rw [eq, if_pos accepted]
        exact value_setInternal_same rfl there
    · have other := distinct.1 v tail
      rw [ih (h.change _ _) distinct.2 later tail, h.check_change_other other found unlocked]
      unfold ConfigRegistry.value
      rw [r.get_change_other other first.2]

/-- What `snapshot` saves: each writable key that is no secret, once. -/
theorem Shaped.snapshot {r : ConfigRegistry} (h : Shaped r) :
    (r.snapshot.Pairwise fun v w => ¬SameKey v.1 w.1) ∧
      (∀ v ∈ r.snapshot, ∃ entry, r.get v.1 = some entry ∧ entry.readonly = false) ∧
      ∀ entry ∈ r.entries, entry.readonly = false → entry.secret = false → (entry.key, entry.value) ∈ r.snapshot := by
  let saved := (r.entries.filter fun entry => !entry.readonly && !entry.secret).map fun entry =>
    (entry.key, entry.value)
  have perm : r.snapshot.Perm saved := List.mergeSort_perm _ _
  refine ⟨?_, fun v mem => ?_, fun entry mem unlocked shown => ?_⟩
  · refine (perm.symm.pairwise ?_ fun differ same => differ same.symm)
    refine List.Pairwise.map _ (fun _ _ differ => differ) ?_
    exact (List.pairwise_map.mp h.keys_nodup).filter _
  · obtain ⟨entry, kept, rfl⟩ := List.mem_map.mp (perm.mem_iff.mp mem)
    rw [List.mem_filter, Bool.and_eq_true, Bool.not_eq_true'] at kept
    exact ⟨entry, h.get_of_mem kept.1, kept.2.1⟩
  · refine perm.mem_iff.mpr (List.mem_map_of_mem (List.mem_filter.mpr ⟨mem, ?_⟩))
    rw [unlocked, shown]
    rfl

end ConfigRegistry

end Config

end KirbyOcpp
