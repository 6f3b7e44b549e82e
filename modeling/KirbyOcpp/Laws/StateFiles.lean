import KirbyOcpp.Laws.Store
import KirbyOcpp.StateFiles

/-!
# Stations that share a directory do not share files

The four files of a station have names of their own when the ids of the other stations are kept whole in their names
(`pathOf_injective`, `KeptWhole.apart`): long ids are told apart by a hash only. Then a step of one station reads and writes
its own files only, and a run of many stations is, for each of them, a run of its own.

**The laws** `files_apart` and `files_durable`.
-/

namespace KirbyOcpp

open Ws (Json)

namespace StateFiles

variable {State : Type} {codec : Codec State} {dir : Text} {id other : List UInt8} {files files' : Files}

/-! ## Names -/

/-- The files of a station. -/
inductive Kind where
  | state | secrets | stateBackup | secretsBackup
deriving DecidableEq

def pathOf (dir : Text) (id : List UInt8) : Kind → Text
  | .state => (StationStore.new dir id).path
  | .secrets => (StationStore.new dir id).secretsPath
  | .stateBackup => backupOf (StationStore.new dir id).path
  | .secretsBackup => backupOf (StationStore.new dir id).secretsPath

/-- What every path of a station begins with. -/
def stem (dir : Text) (id : List UInt8) : Text :=
  (StationStore.new dir id).path.take ((StationStore.new dir id).path.length - ".station.json".toList.length)

/-- What the path of a file ends with. -/
def Kind.ending : Kind → Text
  | state => ".station.json".toList
  | secrets => ".station.secrets.json".toList
  | stateBackup => ".station.json.bak".toList
  | secretsBackup => ".station.secrets.json.bak".toList

/-- A name that is joined to a directory is the end of the path. -/
theorem joinPath_eq (dir : Text) {name : Text} (plain : name.head? ≠ some '/') :
    ∃ front, joinPath dir name = front ++ name := by
  by_cases bare : dir = [] ∨ dir.getLast? = some '/'
  · exact ⟨dir, by simp [joinPath, plain, bare]⟩
  · exact ⟨dir ++ ['/'], by simp [joinPath, plain, bare]⟩

theorem fileName_head (id : List UInt8) : (fileName id).head? ≠ some '/' := by
  intro slash
  have safe := fileName_chars id '/' (List.mem_of_head? slash)
  exact absurd safe (by decide)

theorem path_eq (dir : Text) (id : List UInt8) :
    (StationStore.new dir id).path = stem dir id ++ ".station.json".toList := by
  obtain ⟨front, joined⟩ := joinPath_eq dir (fileName_head id)
  obtain ⟨name, ends⟩ : ∃ name, fileName id = name ++ ".station.json".toList := ⟨_, rfl⟩
  have path : (StationStore.new dir id).path = (front ++ name) ++ ".station.json".toList := by
    rw [StationStore.new, joined, ends, List.append_assoc]
  have start : stem dir id = front ++ name := by
    rw [stem, path, List.length_append, Nat.add_sub_cancel, List.take_left']
    rfl
  rw [start, path]

theorem pathOf_eq (dir : Text) (id : List UInt8) (kind : Kind) : pathOf dir id kind = stem dir id ++ kind.ending := by
  have stripped : (StationStore.new dir id).path.stripSuffix ".station.json".toList = some (stem dir id) := by
    rw [Text.stripSuffix, if_pos]
    · rfl
    · rw [path_eq]
      simp
  cases kind with
  | state => exact path_eq dir id
  | secrets => rw [pathOf, StationStore.secretsPath, stripped]; rfl
  | stateBackup =>
    rw [pathOf, backupOf, path_eq, List.append_assoc]
    rfl
  | secretsBackup =>
    rw [pathOf, backupOf, StationStore.secretsPath, stripped, Option.getD_some, List.append_assoc]
    rfl

/-- The endings tell the kinds of file apart, whatever comes before them. -/
theorem ending_injective {a b : Text} {k l : Kind} (same : a ++ k.ending = b ++ l.ending) : k = l ∧ a = b := by
  have alone : ∀ k l : Kind, k.ending <:+ l.ending → k = l := by
    intro k l
    cases k <;> cases l <;> first | exact fun _ => rfl | exact fun ends => absurd ends (by decide)
  have kind : k = l := by
    have left : k.ending <:+ b ++ l.ending := ⟨a, same⟩
    rcases List.suffix_or_suffix_of_suffix left (List.suffix_append b l.ending) with ends | ends
    · exact alone k l ends
    · exact (alone l k ends).symm
  subst kind
  exact ⟨rfl, List.append_cancel_right same⟩

theorem pathOf_injective (apart : fileName id = fileName other → id = other) {k l : Kind}
    (same : pathOf dir id k = pathOf dir other l) : k = l ∧ id = other := by
  rw [pathOf_eq, pathOf_eq] at same
  obtain ⟨rfl, stems⟩ := ending_injective same
  refine ⟨rfl, apart ?_⟩
  have paths : (StationStore.new dir id).path = (StationStore.new dir other).path := by
    rw [path_eq, path_eq, stems]
  exact joinPath_injective dir (fileName_head id) (fileName_head other) paths

/-! ## One step -/

/-- The paths of a station. -/
def own (dir : Text) (id : List UInt8) : Set Text := Set.range (pathOf dir id)

/-- Two directories have the same files at some paths. -/
def Agree (paths : Set Text) (files files' : Files) : Prop := ∀ path ∈ paths, files path = files' path

theorem Agree.update {paths : Set Text} (agree : Agree paths files files') (path : Text) (bytes : Option Bytes) :
    Agree paths (Function.update files path bytes) (Function.update files' path bytes) := by
  intro other mem
  by_cases same : other = path
  · simp [same]
  · simp [same, agree other mem]

theorem ne_backupOf (path : Text) : path ≠ backupOf path := by
  intro same
  have lengths := congrArg List.length same
  simp [backupOf] at lengths

section Calls

variable {paths : Set Text} {path : Text} {accidents : Accidents}

theorem moveAside_frame (accidents : Accidents) (files : Files) {path elsewhere : Text}
    (apart : elsewhere ≠ path ∧ elsewhere ≠ backupOf path) :
    (moveAside accidents path files).1 elsewhere = files elsewhere := by
  by_cases kept : (accidents.remove && (files (backupOf path)).isSome) = true
  · simp [moveAside, kept]
  · by_cases fixed : accidents.rename = true <;> simp [moveAside, kept, fixed, apart]

theorem writeAtomic_frame {elsewhere : Text} {bytes : Bytes} (apart : elsewhere ≠ path) :
    (writeAtomic accidents path bytes files).1 elsewhere = files elsewhere := by
  cases fate : accidents.write <;> simp [writeAtomic, fate, apart]

theorem moveAside_agree (accidents : Accidents) (agree : Agree paths files files') (mem : path ∈ paths) (backup : backupOf path ∈ paths) :
    (moveAside accidents path files).2 = (moveAside accidents path files').2 ∧
      Agree paths (moveAside accidents path files).1 (moveAside accidents path files').1 := by
  have same := agree _ backup
  by_cases kept : (accidents.remove && (files' (backupOf path)).isSome) = true
  · simp [moveAside, same, kept, agree]
  · by_cases fixed : accidents.rename = true
    · simp [moveAside, same, kept, fixed, agree.update]
    · have moved := agree path mem
      simp [moveAside, same, kept, fixed, ne_backupOf path, moved, (agree.update _ _).update]

theorem writeAtomic_agree (accidents : Accidents) (path : Text) (bytes : Bytes) (agree : Agree paths files files') :
    (writeAtomic accidents path bytes files).2 = (writeAtomic accidents path bytes files').2 ∧
      Agree paths (writeAtomic accidents path bytes files).1 (writeAtomic accidents path bytes files').1 := by
  cases fate : accidents.write <;> simp [writeAtomic, fate, agree, agree.update]

end Calls

/-- The files of its station that an operation touches. -/
def Op.touches : Op State → Kind → Prop
  | .load, kind => kind = .state ∨ kind = .stateBackup
  | .save _, kind => kind = .state
  | .loadSecrets, kind => kind = .secrets ∨ kind = .secretsBackup
  | .saveSecrets _, kind => kind = .secrets

/-- A step touches no other file. -/
theorem step_frame (codec : Codec State) (dir : Text) (files : Files) (event : Event State) {path : Text}
    (elsewhere : ∀ kind, event.op.touches kind → path ≠ pathOf dir event.chargePointId kind) :
    (step codec dir files event).1 path = files path := by
  rcases event with ⟨id, op, accidents⟩
  cases op with
  | load =>
    by_cases fails : accidents.read = true
    · simp [step, StationStore.load, fails]
    · cases found : files (StationStore.new dir id).path with
      | none => simp [step, StationStore.load, fails, found]
      | some bytes =>
        rcases checked : (StationStore.new dir id).check codec bytes with e | reason | state
        · simp [step, StationStore.load, fails, found, checked]
        · have moved := moveAside_frame accidents files
            ⟨elsewhere .state (.inl rfl), elsewhere .stateBackup (.inr rfl)⟩
          rcases aside : moveAside accidents (StationStore.new dir id).path files with ⟨files', e | backup⟩ <;>
            simpa [step, StationStore.load, fails, found, checked, StationStore.quarantine, aside, pathOf]
              using moved
        · simp [step, StationStore.load, fails, found, checked]
  | save state => exact writeAtomic_frame (elsewhere .state rfl)
  | loadSecrets =>
    by_cases fails : accidents.read = true
    · simp [step, StationStore.loadSecrets, fails]
    · cases found : files (StationStore.new dir id).secretsPath with
      | none => simp [step, StationStore.loadSecrets, fails, found]
      | some bytes =>
        cases decoded : codec.decodeSecrets bytes with
        | ok secrets => simp [step, StationStore.loadSecrets, fails, found, decoded]
        | error e =>
          have moved := moveAside_frame accidents files
            ⟨elsewhere .secrets (.inl rfl), elsewhere .secretsBackup (.inr rfl)⟩
          rcases aside : moveAside accidents (StationStore.new dir id).secretsPath files with ⟨files', e | backup⟩ <;>
            simpa [step, StationStore.loadSecrets, fails, found, decoded, aside, pathOf] using moved
  | saveSecrets secrets =>
    have away : path ≠ (StationStore.new dir id).secretsPath := elsewhere .secrets rfl
    by_cases empty : secrets.isEmpty = true
    · by_cases kept : (accidents.remove && (files (StationStore.new dir id).secretsPath).isSome) = true
      · simp [step, StationStore.saveSecrets, empty, kept]
      · simp [step, StationStore.saveSecrets, empty, kept, away]
    · simpa [step, StationStore.saveSecrets, empty] using writeAtomic_frame away

/-- What a step does and gives depends on the files of its station only. -/
theorem step_agree (codec : Codec State) (event : Event State)
    (agree : Agree (own dir event.chargePointId) files files') :
    (step codec dir files event).2 = (step codec dir files' event).2 ∧
      Agree (own dir event.chargePointId) (step codec dir files event).1 (step codec dir files' event).1 := by
  have mem (kind : Kind) : pathOf dir event.chargePointId kind ∈ own dir event.chargePointId := ⟨kind, rfl⟩
  rcases event with ⟨id, op, accidents⟩
  cases op with
  | load =>
    have state := agree _ (mem .state)
    simp only [pathOf] at state
    by_cases fails : accidents.read = true
    · simp [step, StationStore.load, fails, agree]
    · cases found : files' (StationStore.new dir id).path with
      | none => simp [step, StationStore.load, fails, state, found, agree]
      | some bytes =>
        rcases checked : (StationStore.new dir id).check codec bytes with e | reason | state'
        · simp [step, StationStore.load, fails, state, found, checked, agree]
        · obtain ⟨result, after⟩ := moveAside_agree accidents agree (mem .state) (mem .stateBackup)
          rcases aside : moveAside accidents (StationStore.new dir id).path files with ⟨left, outcome⟩
          rcases aside' : moveAside accidents (StationStore.new dir id).path files' with ⟨left', outcome'⟩
          rw [pathOf, aside, aside'] at result after
          obtain rfl : outcome = outcome' := result
          cases outcome <;>
            simpa [step, StationStore.load, fails, state, found, checked, StationStore.quarantine, aside, aside']
              using after
        · simp [step, StationStore.load, fails, state, found, checked, agree]
  | save state =>
    obtain ⟨result, after⟩ := writeAtomic_agree accidents (StationStore.new dir id).path
      (codec.encode state) agree
    exact ⟨congrArg Result.saved result, after⟩
  | loadSecrets =>
    have kept := agree _ (mem .secrets)
    simp only [pathOf] at kept
    by_cases fails : accidents.read = true
    · simp [step, StationStore.loadSecrets, fails, agree]
    · cases found : files' (StationStore.new dir id).secretsPath with
      | none => simp [step, StationStore.loadSecrets, fails, kept, found, agree]
      | some bytes =>
        cases decoded : codec.decodeSecrets bytes with
        | ok secrets => simp [step, StationStore.loadSecrets, fails, kept, found, decoded, agree]
        | error e =>
          obtain ⟨result, after⟩ := moveAside_agree accidents agree (mem .secrets) (mem .secretsBackup)
          rcases aside : moveAside accidents (StationStore.new dir id).secretsPath files with ⟨left, outcome⟩
          rcases aside' : moveAside accidents (StationStore.new dir id).secretsPath files' with ⟨left', outcome'⟩
          rw [pathOf, aside, aside'] at result after
          obtain rfl : outcome = outcome' := result
          cases outcome <;>
            simpa [step, StationStore.loadSecrets, fails, kept, found, decoded, aside, aside'] using after
  | saveSecrets secrets =>
    have kept := agree _ (mem .secrets)
    simp only [pathOf] at kept
    by_cases empty : secrets.isEmpty = true
    · by_cases stays : (accidents.remove && (files' (StationStore.new dir id).secretsPath).isSome) = true
      · simp [step, StationStore.saveSecrets, empty, kept, stays, agree]
      · simp [step, StationStore.saveSecrets, empty, kept, stays, agree.update]
    · obtain ⟨result, after⟩ := writeAtomic_agree accidents (StationStore.new dir id).secretsPath
        (codec.encodeSecrets secrets storeVersion) agree
      simpa [step, StationStore.saveSecrets, empty, result] using after

/-! ## Runs -/

/-- Other stations of the directory have other file names. -/
def Apart (id : List UInt8) (events : List (Event State)) : Prop :=
  ∀ event ∈ events, fileName id = fileName event.chargePointId → id = event.chargePointId

theorem apart_of_keptWhole {events : List (Event State)} (named : id ≠ [])
    (fits : ∀ event ∈ events, event.chargePointId ≠ id → KeptWhole event.chargePointId) : Apart id events := by
  intro event mem same
  by_contra other
  exact other ((fits event mem (Ne.symm other)).apart named same)

theorem Apart.tail {event : Event State} {events : List (Event State)} (apart : Apart id (event :: events)) :
    Apart id events :=
  fun later mem => apart later (List.mem_cons_of_mem event mem)

/-- A file that a step does not touch: one of another station, or one of another kind. -/
theorem step_elsewhere {event : Event State} {kind : Kind}
    (apart : fileName id = fileName event.chargePointId → id = event.chargePointId)
    (foreign : event.chargePointId = id → ¬event.op.touches kind) :
    (step codec dir files event).1 (pathOf dir id kind) = files (pathOf dir id kind) := by
  apply step_frame
  intro kind' touched same
  obtain ⟨rfl, owner⟩ := pathOf_injective apart same
  exact foreign owner.symm touched

theorem run_agree (codec : Codec State) {events : List (Event State)} (apart : Apart id events)
    (agree : Agree (own dir id) files files') :
    (results codec dir events files).filter (·.1 = id) =
        results codec dir (events.filter (·.chargePointId = id)) files' ∧
      Agree (own dir id) (run codec dir events files)
        (run codec dir (events.filter (·.chargePointId = id)) files') := by
  induction events generalizing files files' with
  | nil => exact ⟨rfl, agree⟩
  | cons event events ih =>
    by_cases mine : event.chargePointId = id
    · subst mine
      obtain ⟨result, after⟩ := step_agree codec event agree
      obtain ⟨rest, last⟩ := ih apart.tail after
      simp [results, run, result, rest]
      exact last
    · have after : Agree (own dir id) (step codec dir files event).1 files' := by
        rintro path ⟨kind, rfl⟩
        rw [step_elsewhere (apart event List.mem_cons_self) fun owner => absurd owner mine]
        exact agree _ ⟨kind, rfl⟩
      obtain ⟨rest, last⟩ := ih apart.tail after
      simp [results, run, mine, rest]
      exact last

/-- A station reads and leaves in its files what it would if it had the directory to itself, whatever goes wrong for
the others, when their ids fit; and files of no station are left alone. -/
theorem files_apart (codec : Codec State) (dir : Text) (id : List UInt8) (named : id ≠ [])
    (events : List (Event State)) (files : Files)
    (fits : ∀ event ∈ events, event.chargePointId ≠ id → KeptWhole event.chargePointId) :
    (results codec dir events files).filter (·.1 = id) =
        results codec dir (events.filter (·.chargePointId = id)) files ∧
      (∀ kind, run codec dir events files (pathOf dir id kind) =
        run codec dir (events.filter (·.chargePointId = id)) files (pathOf dir id kind)) ∧
      ∀ path, (∀ event ∈ events, path ∉ own dir event.chargePointId) →
        run codec dir events files path = files path := by
  obtain ⟨same, agree⟩ := run_agree codec (apart_of_keptWhole named fits) fun path _ => Eq.refl (files path)
  refine ⟨same, fun kind => agree _ ⟨kind, rfl⟩, ?_⟩
  intro path outside
  clear same agree fits
  induction events generalizing files with
  | nil => rfl
  | cons event events ih =>
    have untouched : (step codec dir files event).1 path = files path := by
      apply step_frame
      intro kind _ same
      exact outside event List.mem_cons_self ⟨kind, same.symm⟩
    rw [← untouched]
    exact ih (step codec dir files event).1 fun later mem => outside later (List.mem_cons_of_mem event mem)

/-- States that are only a charge point id, and secrets that are only an authorization key. -/
def idCodec : Codec (List UInt8) where
  encode id := id
  parse bytes := .ok (.object [("version", .integer 7), ("id", .array (bytes.map fun byte => .integer byte.toNat))])
  decode
    | .object [_, (_, .array items)] => .ok (items.filterMap fun item => item.asU64.map UInt8.ofNat)
    | _ => .error "no id"
  chargePointId state := state
  encodeSecrets secrets _ := (secrets.authorizationKey.getD []).map fun c => UInt8.ofNat c.toNat
  decodeSecrets bytes := .ok { authorizationKey := some (bytes.map fun byte => Char.ofNat byte.toNat) }

theorem keptWhole_two : KeptWhole [66] := ⟨by decide, by decide +kernel⟩

theorem files_apart_beside :
    let events := [⟨[66], .save [65], {}⟩, ⟨[65], .load, {}⟩, ⟨[66], .load, { rename := true }⟩, ⟨[65], .save [65], {}⟩]
    (results idCodec ['d'] events fun _ => none).filter (·.1 = [65]) =
        results idCodec ['d'] [⟨[65], .load, {}⟩, ⟨[65], .save [65], {}⟩] (fun _ => none) ∧
      run idCodec ['d'] events (fun _ => none) ['x'] = none := by
  intro events
  have fits : ∀ event ∈ events, event.chargePointId ≠ [65] → KeptWhole event.chargePointId := by
    simp [events, keptWhole_two]
  obtain ⟨same, -, outside⟩ := files_apart idCodec ['d'] [65] (by decide) events (fun _ => none) fits
  refine ⟨same, outside ['x'] ?_⟩
  have short (id : List UInt8) : ['x'] ∉ own ['d'] id := by
    rintro ⟨kind, named⟩
    have lengths := congrArg List.length named
    rw [pathOf_eq, List.length_append] at lengths
    have long : 1 < kind.ending.length := by cases kind <;> decide
    simp only [List.length_singleton] at lengths
    omega
  exact fun event _ => short event.chargePointId

/-! ## What is saved is there -/

/-- `serde_json` reads back the state it wrote, and the state is one of this format. -/
def ReadsBack (codec : Codec State) (state : State) : Prop :=
  ∃ value version, codec.parse (codec.encode state) = .ok value ∧ versionOf value = some version ∧
    version ≤ storeVersion ∧ codec.decode value = .ok state

/-- The event replaces or removes the state file of `id`. -/
def SavesState (id : List UInt8) (event : Event State) : Prop :=
  event.chargePointId = id ∧ (∃ state, event.op = .save state) ∧ event.accidents.write ≠ .failed

/-- The event replaces or removes the secrets file of `id`. -/
def SavesSecrets (id : List UInt8) (event : Event State) : Prop :=
  event.chargePointId = id ∧ ∃ secrets, event.op = .saveSecrets secrets ∧
    if secrets.isEmpty then event.accidents.remove = false else event.accidents.write ≠ .failed

theorem check_encode (dir : Text) {state : State} (reads : ReadsBack codec state) :
    (StationStore.new dir (codec.chargePointId state)).check codec (codec.encode state) = .ok (.ok state) := by
  obtain ⟨value, version, parsed, tagged, old, decoded⟩ := reads
  have known : ¬storeVersion < version := by omega
  simp [StationStore.check, parsed, tagged, known, decoded, StationStore.new]

/-- The secrets file after `secrets` were saved. -/
def secretsBytes (codec : Codec State) (secrets : StationSecrets) : Option Bytes :=
  if secrets.isEmpty then none else some (codec.encodeSecrets secrets storeVersion)

/-- A state file that can be read stays until it is replaced. -/
theorem step_keeps_state {event : Event State} {bytes : Bytes}
    (apart : fileName id = fileName event.chargePointId → id = event.chargePointId)
    (held : files (pathOf dir id .state) = some bytes)
    (usable : ∀ reason, (StationStore.new dir id).check codec bytes ≠ .ok (.error reason))
    (unsaved : ¬SavesState id event) : (step codec dir files event).1 (pathOf dir id .state) = some bytes := by
  by_cases touched : event.chargePointId = id ∧ event.op.touches .state
  swap
  · rw [step_elsewhere apart fun owner touches => touched ⟨owner, touches⟩, held]
  obtain ⟨rfl, touches⟩ := touched
  rcases event with ⟨id, op, accidents⟩
  simp only [pathOf] at held ⊢
  cases op with
  | load =>
    by_cases fails : accidents.read = true
    · simp [step, StationStore.load, fails, held]
    · rcases checked : (StationStore.new dir id).check codec bytes with e | reason | state
      · simp [step, StationStore.load, fails, held, checked]
      · exact absurd checked (usable reason)
      · simp [step, StationStore.load, fails, held, checked]
  | save state =>
    have failed : accidents.write = .failed := by
      by_contra landed
      exact unsaved ⟨rfl, ⟨state, rfl⟩, landed⟩
    simp [step, StationStore.save, writeAtomic, failed, held]
  | loadSecrets => simp [Op.touches] at touches
  | saveSecrets secrets => simp [Op.touches] at touches

/-- Secrets that can be read stay until they are replaced. -/
theorem step_keeps_secrets {event : Event State} {saved : Option Bytes}
    (apart : fileName id = fileName event.chargePointId → id = event.chargePointId)
    (held : files (pathOf dir id .secrets) = saved)
    (readable : ∀ bytes ∈ saved, ∃ secrets, codec.decodeSecrets bytes = .ok secrets)
    (unsaved : ¬SavesSecrets id event) : (step codec dir files event).1 (pathOf dir id .secrets) = saved := by
  by_cases touched : event.chargePointId = id ∧ event.op.touches .secrets
  swap
  · rw [step_elsewhere apart fun owner touches => touched ⟨owner, touches⟩, held]
  obtain ⟨rfl, touches⟩ := touched
  rcases event with ⟨id, op, accidents⟩
  simp only [pathOf] at held ⊢
  cases op with
  | load => simp [Op.touches] at touches
  | save state => simp [Op.touches] at touches
  | loadSecrets =>
    by_cases fails : accidents.read = true
    · simp [step, StationStore.loadSecrets, fails, held]
    · cases saved with
      | none => simp [step, StationStore.loadSecrets, fails, held]
      | some bytes =>
        obtain ⟨secrets, decoded⟩ := readable bytes rfl
        simp [step, StationStore.loadSecrets, fails, held, decoded]
  | saveSecrets secrets =>
    by_cases empty : secrets.isEmpty = true
    · have stuck : accidents.remove = true := by
        by_contra removable
        exact unsaved ⟨rfl, secrets, rfl, by simpa [empty] using removable⟩
      cases saved with
      | none => simp [step, StationStore.saveSecrets, empty, held]
      | some bytes => simp [step, StationStore.saveSecrets, empty, stuck, held]
    · have failed : accidents.write = .failed := by
        by_contra landed
        exact unsaved ⟨rfl, secrets, rfl, by simpa [empty] using landed⟩
      simp [step, StationStore.saveSecrets, empty, writeAtomic, failed, held]

/-- The bytes of a state file are still where they were, or in the backup. -/
def Kept (dir : Text) (id : List UInt8) (bytes : Bytes) (files : Files) : Prop :=
  files (pathOf dir id .state) = some bytes ∨
    files (pathOf dir id .state) = none ∧ files (pathOf dir id .stateBackup) = some bytes

theorem load_kept {accidents : Accidents} {bytes : Bytes} (kept : Kept dir id bytes files) :
    Kept dir id bytes (step codec dir files ⟨id, .load, accidents⟩).1 := by
  have ne := ne_backupOf (StationStore.new dir id).path
  simp only [Kept, pathOf] at kept ⊢
  by_cases fails : accidents.read = true
  · simpa [step, StationStore.load, fails] using kept
  rcases kept with held | ⟨gone, moved⟩
  · rcases checked : (StationStore.new dir id).check codec bytes with e | reason | state
    · simp [step, StationStore.load, fails, held, checked]
    · by_cases stays : (accidents.remove && (files (backupOf (StationStore.new dir id).path)).isSome) = true
      · simp [step, StationStore.load, fails, held, checked, StationStore.quarantine, moveAside, stays]
      · by_cases fixed : accidents.rename = true
        · simp [step, StationStore.load, fails, held, checked, StationStore.quarantine, moveAside, stays, fixed, ne]
        · simp [step, StationStore.load, fails, held, checked, StationStore.quarantine, moveAside, stays, fixed, ne,
            ne.symm]
    · simp [step, StationStore.load, fails, held, checked]
  · simp [step, StationStore.load, fails, gone, moved]

theorem step_kept {event : Event State} {bytes : Bytes}
    (apart : fileName id = fileName event.chargePointId → id = event.chargePointId)
    (kept : Kept dir id bytes files) (unsaved : ¬SavesState id event) :
    Kept dir id bytes (step codec dir files event).1 := by
  by_cases mine : event.chargePointId = id
  swap
  · rwa [Kept, step_elsewhere apart fun owner => absurd owner mine,
      step_elsewhere apart fun owner => absurd owner mine]
  rcases event with ⟨id, op, accidents⟩
  subst mine
  cases op with
  | load => exact load_kept kept
  | save state =>
    have failed : accidents.write = .failed := by
      by_contra landed
      exact unsaved ⟨rfl, ⟨state, rfl⟩, landed⟩
    simpa [step, StationStore.save, writeAtomic, failed] using kept
  | loadSecrets =>
    rwa [Kept, step_elsewhere apart fun _ => by simp [Op.touches],
      step_elsewhere apart fun _ => by simp [Op.touches]]
  | saveSecrets secrets =>
    rwa [Kept, step_elsewhere apart fun _ => by simp [Op.touches],
      step_elsewhere apart fun _ => by simp [Op.touches]]

/-- What every step keeps holds after a run. -/
theorem run_keeps (holds : Files → Prop) {events : List (Event State)}
    (kept : ∀ event ∈ events, ∀ files, holds files → holds (step codec dir files event).1) (start : holds files) :
    holds (run codec dir events files) := by
  induction events generalizing files with
  | nil => exact start
  | cons event events ih =>
    exact ih (fun later mem => kept later (List.mem_cons_of_mem event mem))
      (kept event List.mem_cons_self files start)

theorem run_append (codec : Codec State) (dir : Text) (before after : List (Event State)) (event : Event State)
    (files : Files) : run codec dir (before ++ event :: after) files =
      run codec dir after (step codec dir (run codec dir before files) event).1 :=
  List.foldl_append

theorem isEmpty_eq {secrets : StationSecrets} (empty : secrets.isEmpty = true) : secrets = {} := by
  rcases secrets with ⟨key, pem, pending, previous⟩
  simp [StationSecrets.isEmpty] at empty
  simp [empty]

section Durable

variable {before after : List (Event State)} {accidents accidents' : Accidents}

/-- A load after the last save finds the state. -/
theorem load_saved {state : State} (reads : ReadsBack codec state) (landed : accidents.write ≠ .failed)
    (apart : Apart (codec.chargePointId state) after)
    (unsaved : ∀ event ∈ after, ¬SavesState (codec.chargePointId state) event) (readable : accidents'.read = false) :
    ((StationStore.new dir (codec.chargePointId state)).load codec accidents'
      (run codec dir (before ++ ⟨codec.chargePointId state, .save state, accidents⟩ :: after) files)).2 =
      .ok (.loaded state) := by
  have checked := check_encode dir reads
  have held : run codec dir (before ++ ⟨codec.chargePointId state, .save state, accidents⟩ :: after) files
      (pathOf dir (codec.chargePointId state) .state) = some (codec.encode state) := by
    rw [run_append]
    apply run_keeps fun files => files (pathOf dir (codec.chargePointId state) .state) = some (codec.encode state)
    · intro event mem files held
      exact step_keeps_state (apart event mem) held (by simp [checked]) (unsaved event mem)
    · cases fate : accidents.write <;> simp_all [step, StationStore.save, writeAtomic, pathOf]
  rw [pathOf] at held
  simp [StationStore.load, readable, held, checked]

/-- A load after secrets were last saved or removed finds those, or none. -/
theorem loadSecrets_saved {secrets : StationSecrets}
    (reads : codec.decodeSecrets (codec.encodeSecrets secrets storeVersion) = .ok secrets)
    (landed : SavesSecrets id (⟨id, .saveSecrets secrets, accidents⟩ : Event State)) (apart : Apart id after)
    (unsaved : ∀ event ∈ after, ¬SavesSecrets id event) (readable : accidents'.read = false) :
    ((StationStore.new dir id).loadSecrets codec accidents'
      (run codec dir (before ++ ⟨id, .saveSecrets secrets, accidents⟩ :: after) files)).2 = .ok secrets := by
  obtain ⟨-, _, ⟨⟩, landed⟩ := landed
  have held : run codec dir (before ++ ⟨id, .saveSecrets secrets, accidents⟩ :: after) files
      (pathOf dir id .secrets) = secretsBytes codec secrets := by
    rw [run_append]
    apply run_keeps fun files => files (pathOf dir id .secrets) = secretsBytes codec secrets
    · intro event mem files held
      refine step_keeps_secrets (apart event mem) held ?_ (unsaved event mem)
      intro bytes found
      by_cases empty : secrets.isEmpty = true <;> simp [secretsBytes, empty] at found
      exact ⟨secrets, by rw [← found, reads]⟩
    · by_cases empty : secrets.isEmpty = true
      · simp_all [step, StationStore.saveSecrets, pathOf, secretsBytes]
      · cases fate : accidents.write <;>
          simp_all [step, StationStore.saveSecrets, writeAtomic, pathOf, secretsBytes]
  rw [pathOf] at held
  by_cases empty : secrets.isEmpty = true
  · obtain rfl := isEmpty_eq empty
    simp [StationStore.loadSecrets, readable, held, secretsBytes, empty]
  · simp [StationStore.loadSecrets, readable, held, secretsBytes, empty, reads]

/-- The bytes of a state file outlast any run in which the station saves no state. -/
theorem kept_unsaved {bytes : Bytes} (held : files (pathOf dir id .state) = some bytes) (apart : Apart id after)
    (unsaved : ∀ event ∈ after, ¬SavesState id event) :
    Kept dir id bytes (run codec dir after files) ∧
      ((∀ reason, (StationStore.new dir id).check codec bytes ≠ .ok (.error reason)) →
        run codec dir after files (pathOf dir id .state) = some bytes) := by
  constructor
  · apply run_keeps (Kept dir id bytes)
    · intro event mem files kept
      exact step_kept (apart event mem) kept (unsaved event mem)
    · exact .inl held
  · intro usable
    apply run_keeps fun files => files (pathOf dir id .state) = some bytes
    · intro event mem files held
      exact step_keeps_state (apart event mem) held usable (unsaved event mem)
    · exact held

end Durable

/-- What a station saved last is what it loads, whatever other stations whose ids fit and other operations of its own
did since and whichever calls failed; and while it saves no state, the bytes of its state file are not lost, and not
moved unless they are unusable. -/
theorem files_durable (codec : Codec State) (dir : Text) (id : List UInt8) (named : id ≠ [])
    (before after : List (Event State)) (files : Files)
    (fits : ∀ event ∈ after, event.chargePointId ≠ id → KeptWhole event.chargePointId) :
    (∀ state accidents accidents', codec.chargePointId state = id → ReadsBack codec state →
      accidents.write ≠ .failed → (∀ event ∈ after, ¬SavesState id event) → accidents'.read = false →
      ((StationStore.new dir id).load codec accidents'
        (run codec dir (before ++ ⟨id, .save state, accidents⟩ :: after) files)).2 = .ok (.loaded state)) ∧
    (∀ secrets accidents accidents', codec.decodeSecrets (codec.encodeSecrets secrets storeVersion) = .ok secrets →
      SavesSecrets id (⟨id, .saveSecrets secrets, accidents⟩ : Event State) →
      (∀ event ∈ after, ¬SavesSecrets id event) → accidents'.read = false →
      ((StationStore.new dir id).loadSecrets codec accidents'
        (run codec dir (before ++ ⟨id, .saveSecrets secrets, accidents⟩ :: after) files)).2 = .ok secrets) ∧
    ∀ bytes, files (pathOf dir id .state) = some bytes → (∀ event ∈ after, ¬SavesState id event) →
      Kept dir id bytes (run codec dir after files) ∧
        ((∀ reason, (StationStore.new dir id).check codec bytes ≠ .ok (.error reason)) →
          run codec dir after files (pathOf dir id .state) = some bytes) := by
  have apart := apart_of_keptWhole named fits
  refine ⟨?_, ?_, ?_⟩
  · rintro state accidents accidents' rfl reads landed unsaved readable
    exact load_saved reads landed apart unsaved readable
  · intro secrets accidents accidents' reads landed unsaved readable
    exact loadSecrets_saved reads landed apart unsaved readable
  · intro bytes held unsaved
    exact kept_unsaved held apart unsaved

theorem idCodec_readsBack : ReadsBack idCodec [65] :=
  ⟨_, 7, rfl, by simp [versionOf, Json.asU64], by decide, by simp [idCodec, Json.asU64]⟩

theorem files_durable_beside :
    let files := run idCodec ['d'] [⟨[66], .load, {}⟩, ⟨[65], .loadSecrets, {}⟩]
    let saved := (step idCodec ['d'] (fun _ => none) ⟨[65], .save [65], {}⟩).1
    let sealed := (step idCodec ['d'] saved ⟨[65], .saveSecrets { authorizationKey := some ['k'] }, {}⟩).1
    ((StationStore.new ['d'] [65]).load idCodec {} (files saved)).2 = .ok (.loaded [65]) ∧
      ((StationStore.new ['d'] [65]).loadSecrets idCodec {} (files sealed)).2 =
        .ok { authorizationKey := some ['k'] } ∧
      files saved (pathOf ['d'] [65] .state) = some [65] := by
  intro files saved sealed
  have fits : ∀ event ∈ [(⟨[66], .load, {}⟩ : Event (List UInt8)), ⟨[65], .loadSecrets, {}⟩],
      event.chargePointId ≠ [65] → KeptWhole event.chargePointId := by simp [keptWhole_two]
  have unsaved : ∀ event ∈ [(⟨[66], .load, {}⟩ : Event (List UInt8)), ⟨[65], .loadSecrets, {}⟩],
      ¬SavesState [65] event := by simp [SavesState]
  have unsealed : ∀ event ∈ [(⟨[66], .load, {}⟩ : Event (List UInt8)), ⟨[65], .loadSecrets, {}⟩],
      ¬SavesSecrets [65] event := by simp [SavesSecrets]
  have held : saved (pathOf ['d'] [65] .state) = some [65] := by
    simp [saved, step, StationStore.save, writeAtomic, pathOf, idCodec]
  have durable := files_durable idCodec ['d'] [65] (by decide) []
    [⟨[66], .load, {}⟩, ⟨[65], .loadSecrets, {}⟩]
  refine ⟨?_, ?_, ?_⟩
  · exact (durable (fun _ => none) fits).1 [65] {} {} rfl idCodec_readsBack (by decide) unsaved rfl
  · exact (durable saved fits).2.1 { authorizationKey := some ['k'] } {} {} rfl ⟨rfl, _, rfl, by decide⟩ unsealed rfl
  · refine ((durable saved fits).2.2 [65] held unsaved).2 ?_
    intro reason
    have usable : (StationStore.new ['d'] [65]).check idCodec [65] = .ok (.ok [65]) :=
      check_encode ['d'] idCodec_readsBack
    simp [usable]

end StateFiles

end KirbyOcpp
