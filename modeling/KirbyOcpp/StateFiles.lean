import KirbyOcpp.Ocpp.Frame
import KirbyOcpp.Station.Secure
import KirbyOcpp.Store

/-!
# Reading and writing state files: `StationStore`

All stations of a directory keep their files in it, each a state file, a secrets file and a backup of either. A path
leads to the bytes of a file, or to none. Which calls of the operating system fail is not up to the store
(`Accidents`); which path such an error names is left out, and so are the permissions of a backup.

The types of the state, and what turns it and the secrets into bytes and back, are parameters (`Codec`).
-/

namespace KirbyOcpp

open Ws (Json)

/-- `STORE_VERSION`. -/
def storeVersion : Nat := 7

/-- `serde_json` for the two kinds of file. -/
structure Codec (State : Type) where
  /-- `serde_json::to_vec_pretty`. -/
  encode : State → Bytes
  /-- `serde_json::from_slice`. -/
  parse : Bytes → Except String Json
  /-- `serde_json::from_value`. -/
  decode : Json → Except String State
  chargePointId : State → List UInt8
  /-- The secrets, with their version. -/
  encodeSecrets : StationSecrets → Nat → Bytes
  decodeSecrets : Bytes → Except String StationSecrets

abbrev Files := Text → Option Bytes

/-- How far `write_atomic` gets. -/
inductive WriteFate where
  | done
  /-- It fails, and the old file is still there. -/
  | failed
  /-- The new file is there, but the directory cannot be synced. -/
  | unsynced
deriving DecidableEq

/-- Which calls of the operating system fail. -/
structure Accidents where
  read : Bool := false
  remove : Bool := false
  rename : Bool := false
  write : WriteFate := .done

inductive StoreError where
  | io
  /-- The file was written by a newer version of this program; it was left untouched. -/
  | unsupportedVersion (path : Text) (found : Nat)
deriving DecidableEq

inductive LoadOutcome (State : Type) where
  | missing
  | loaded (state : State)
  /-- The file was unusable and has been moved to `backup`. -/
  | quarantined (backup : Text) (reason : String)

/-- `str::strip_suffix`. -/
def Text.stripSuffix (text suffix : Text) : Option Text :=
  if suffix.isSuffixOf text then some (text.take (text.length - suffix.length)) else none

/-- Nothing secret is held. -/
def StationSecrets.isEmpty (secrets : StationSecrets) : Bool :=
  secrets.authorizationKey.isNone && secrets.chargePointKeyPem.isNone && secrets.pendingKeyPem.isNone &&
    secrets.previousChargePointKeyPem.isNone

/-- The name of a backup. -/
def backupOf (path : Text) : Text := path ++ ".bak".toList

/-- Moves `path` to its backup, replacing an older one. -/
def moveAside (accidents : Accidents) (path : Text) (files : Files) : Files × Except StoreError Text :=
  let backup := backupOf path
  if accidents.remove && (files backup).isSome then (files, .error .io)
  else
    let files := Function.update files backup none
    if accidents.rename then (files, .error .io)
    else (Function.update (Function.update files backup (files path)) path none, .ok backup)

/-- Replaces a file as a whole, or not at all. -/
def writeAtomic (accidents : Accidents) (path : Text) (bytes : Bytes) (files : Files) :
    Files × Except StoreError Unit :=
  match accidents.write with
  | .done => (Function.update files path (some bytes), .ok ())
  | .failed => (files, .error .io)
  | .unsynced => (Function.update files path (some bytes), .error .io)

/-- `value.get("version").and_then(Value::as_u64)`. -/
def versionOf : Json → Option Nat
  | .object fields => (fields.lookup "version").bind Json.asU64
  | _ => none

/-- A charge point id as a text. -/
def idText (chargePointId : List UInt8) : String := (String.fromUTF8? ⟨chargePointId.toArray⟩).getD ""

namespace StationStore

variable {State : Type}

/-- Path of the secrets file next to the state file. -/
def secretsPath (store : StationStore) : Text :=
  (store.path.stripSuffix ".station.json".toList).getD store.path ++ ".station.secrets.json".toList

def quarantine (accidents : Accidents) (store : StationStore) (reason : String) (files : Files) :
    Files × Except StoreError (LoadOutcome State) :=
  match moveAside accidents store.path files with
  | (files, .ok backup) => (files, .ok (.quarantined backup reason))
  | (files, .error e) => (files, .error e)

/-- What is wrong with the bytes of a state file, or the state in it. -/
def check (codec : Codec State) (store : StationStore) (bytes : Bytes) :
    Except StoreError (Except String State) :=
  match codec.parse bytes with
  | .error e => .ok (.error ("not valid JSON: " ++ e))
  | .ok value =>
    match versionOf value with
    | none => .ok (.error "missing format version")
    | some found =>
      if storeVersion < found then .error (.unsupportedVersion store.path found)
      else match codec.decode value with
        | .error e => .ok (.error ("unexpected structure: " ++ e))
        | .ok state =>
          if codec.chargePointId state = store.chargePointId then .ok (.ok state)
          else .ok (.error ("belongs to charge point `" ++ idText (codec.chargePointId state) ++ "`, expected `" ++
            idText store.chargePointId ++ "`"))

/-- Reads the state file. -/
def load (codec : Codec State) (accidents : Accidents) (store : StationStore) (files : Files) :
    Files × Except StoreError (LoadOutcome State) :=
  if accidents.read then (files, .error .io)
  else match files store.path with
    | none => (files, .ok .missing)
    | some bytes =>
      match store.check codec bytes with
      | .error e => (files, .error e)
      | .ok (.error reason) => store.quarantine accidents reason files
      | .ok (.ok state) => (files, .ok (.loaded state))

/-- Atomically replaces the state file. -/
def save (codec : Codec State) (accidents : Accidents) (store : StationStore) (state : State) (files : Files) :
    Files × Except StoreError Unit :=
  writeAtomic accidents store.path (codec.encode state) files

/-- Reads the secrets file; a missing one is no secrets. -/
def loadSecrets (codec : Codec State) (accidents : Accidents) (store : StationStore) (files : Files) :
    Files × Except StoreError StationSecrets :=
  let path := store.secretsPath
  if accidents.read then (files, .error .io)
  else match files path with
    | none => (files, .ok {})
    | some bytes =>
      match codec.decodeSecrets bytes with
      | .ok secrets => (files, .ok secrets)
      | .error _ =>
        -- The broken file is kept: the next save would overwrite it.
        match moveAside accidents path files with
        | (files, .ok _) => (files, .error .io)
        | (files, .error e) => (files, .error e)

/-- Atomically replaces the secrets file; removes it when `secrets` is empty. -/
def saveSecrets (codec : Codec State) (accidents : Accidents) (store : StationStore) (secrets : StationSecrets)
    (files : Files) : Files × Except StoreError Unit :=
  let path := store.secretsPath
  if secrets.isEmpty then
    if accidents.remove && (files path).isSome then (files, .error .io)
    else (Function.update files path none, .ok ())
  else writeAtomic accidents path (codec.encodeSecrets secrets storeVersion) files

end StationStore

/-! ## The stations of a directory -/

namespace StateFiles

variable {State : Type}

inductive Op (State : Type) where
  | load
  | save (state : State)
  | loadSecrets
  | saveSecrets (secrets : StationSecrets)

inductive Result (State : Type) where
  | loaded (result : Except StoreError (LoadOutcome State))
  | secrets (result : Except StoreError StationSecrets)
  | saved (result : Except StoreError Unit)

/-- What one station does, and what goes wrong. -/
structure Event (State : Type) where
  chargePointId : List UInt8
  op : Op State
  accidents : Accidents := {}

def step (codec : Codec State) (dir : Text) (files : Files) (event : Event State) : Files × Result State :=
  let store := StationStore.new dir event.chargePointId
  match event.op with
  | .load =>
    let (files, result) := store.load codec event.accidents files
    (files, .loaded result)
  | .save state =>
    let (files, result) := store.save codec event.accidents state files
    (files, .saved result)
  | .loadSecrets =>
    let (files, result) := store.loadSecrets codec event.accidents files
    (files, .secrets result)
  | .saveSecrets secrets =>
    let (files, result) := store.saveSecrets codec event.accidents secrets files
    (files, .saved result)

def run (codec : Codec State) (dir : Text) (events : List (Event State)) (files : Files) : Files :=
  events.foldl (fun files event => (step codec dir files event).1) files

/-- What each event gave, with its station. -/
def results (codec : Codec State) (dir : Text) : List (Event State) → Files →
    List (List UInt8 × Result State)
  | [], _ => []
  | event :: events, files =>
    (event.chargePointId, (step codec dir files event).2) :: results codec dir events (step codec dir files event).1

end StateFiles

end KirbyOcpp
