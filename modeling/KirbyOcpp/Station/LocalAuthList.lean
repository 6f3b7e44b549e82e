import KirbyOcpp.Data.Assoc
import KirbyOcpp.Ocpp.Text
import KirbyOcpp.Station.Step

/-!
# The local authorization list: `local_auth_list.rs`, `local_edit.rs`

`SendLocalList` and the three local edits. The list is an association list without repeated tags in
place of the ordered map; nothing below looks at the order of the entries.
-/

namespace KirbyOcpp

inductive UpdateType where
  | differential | full
deriving DecidableEq, Repr

inductive UpdateStatus where
  | accepted | failed | notSupported | versionMismatch
deriving DecidableEq, Repr

/-- `AuthorizationData`: one entry of an update. -/
structure AuthorizationData where
  idTag : IdTag
  idTagInfo : Option IdTagInfo
deriving DecidableEq

/-- `SendLocalList.req`. -/
structure SendLocalListRequest where
  listVersion : Int
  localAuthorizationList : Option (List AuthorizationData)
  updateType : UpdateType
deriving DecidableEq

/-- The entries of the update; an absent list has none. -/
def SendLocalListRequest.update (request : SendLocalListRequest) : List AuthorizationData :=
  request.localAuthorizationList.getD []

/-- Limits of the local list, read from the configuration. -/
structure LocalListLimits where
  enabled : Bool
  maxUpdateEntries : Nat
  maxEntries : Nat
deriving DecidableEq

namespace LocalAuthList

/-- Number of entries. -/
def len (list : LocalAuthList) : Nat := list.entries.length

/-- One entry of an update: an insertion, or a deletion without `idTagInfo`. -/
def applyItem (entries : List (IdTag × IdTagInfo)) (item : AuthorizationData) : List (IdTag × IdTagInfo) :=
  match item.idTagInfo with
  | some info => Assoc.write entries item.idTag info
  | none => Assoc.erase entries item.idTag

/-- Applies a `SendLocalList` request: the list after it and the status. -/
def apply (list : LocalAuthList) (request : SendLocalListRequest) (limits : LocalListLimits) :
    LocalAuthList × UpdateStatus :=
  if !limits.enabled then (list, .notSupported)
  else
    let update := request.update
    if limits.maxUpdateEntries < update.length then (list, .failed)
    else
      let full := decide (request.updateType = .full)
      if full && update.any fun item => item.idTagInfo.isNone then (list, .failed)
      else
        let next := update.foldl applyItem (if full then [] else list.entries)
        if limits.maxEntries < next.length then (list, .failed)
        else if !full && decide (request.listVersion ≤ list.version) then (list, .versionMismatch)
        else ({ version := request.listVersion, entries := next }, .accepted)

/-! ## Local edits -/

/-- `i32::MAX`. -/
def versionMax : Int := 2147483647

/-- `saturating_add(1)` of a version. -/
def nextVersion (version : Int) : Int := if version < versionMax then version + 1 else version

/-- `apply_local_list_request`: the list after an accepted request, or the error. -/
def applyLocalListRequest (list : LocalAuthList) (limits : LocalListLimits) (request : SendLocalListRequest) :
    LocalAuthList × Except Text Unit :=
  match list.apply request limits with
  | (next, .accepted) => (next, .ok ())
  | (next, .notSupported) =>
    (next, .error "the local authorization list is disabled (LocalAuthListEnabled)".toList)
  | (next, .failed) =>
    (next, .error ("the local list is full (LocalAuthListMaxLength ".toList ++ Text.ofNat limits.maxEntries ++
      ")".toList))
  | (next, .versionMismatch) => (next, .error "local list version mismatch".toList)

/-- `apply_local_list_edit`: one entry as a differential update of the next version. -/
def applyLocalListEdit (list : LocalAuthList) (limits : LocalListLimits) (item : AuthorizationData) :
    LocalAuthList × Except Text Unit :=
  list.applyLocalListRequest limits
    { listVersion := nextVersion list.version
      localAuthorizationList := some [item]
      updateType := .differential }

def setLocalListEntry (list : LocalAuthList) (limits : LocalListLimits) (idTag : IdTag) (info : IdTagInfo) :
    LocalAuthList × Except Text Unit :=
  list.applyLocalListEdit limits { idTag, idTagInfo := some info }

def removeLocalListEntry (list : LocalAuthList) (limits : LocalListLimits) (idTag : IdTag) :
    LocalAuthList × Except Text Unit :=
  if (list.get idTag).isNone then (list, .error (idTag.chars ++ " is not in the local list".toList))
  else list.applyLocalListEdit limits { idTag, idTagInfo := none }

def clearLocalList (list : LocalAuthList) (limits : LocalListLimits) : LocalAuthList × Except Text Unit :=
  list.applyLocalListRequest limits
    { listVersion := 0, localAuthorizationList := some [], updateType := .full }

end LocalAuthList

/-! ## Runs -/

/-- What changes the local list. -/
inductive LocalListOp where
  | sendLocalList (request : SendLocalListRequest)
  | set (idTag : IdTag) (info : IdTagInfo)
  | remove (idTag : IdTag)
  | clear
deriving DecidableEq

namespace LocalAuthList

/-- The list after one operation. -/
def after (limits : LocalListLimits) (list : LocalAuthList) : LocalListOp → LocalAuthList
  | .sendLocalList request => (list.apply request limits).1
  | .set idTag info => (list.setLocalListEntry limits idTag info).1
  | .remove idTag => (list.removeLocalListEntry limits idTag).1
  | .clear => (list.clearLocalList limits).1

/-- The update an operation amounts to; a removal of an unlisted tag is none. -/
def requested (list : LocalAuthList) : LocalListOp → Option SendLocalListRequest
  | .sendLocalList request => some request
  | .set idTag info =>
    some { listVersion := nextVersion list.version
           localAuthorizationList := some [{ idTag, idTagInfo := some info }]
           updateType := .differential }
  | .remove idTag =>
    if (list.get idTag).isNone then none
    else some { listVersion := nextVersion list.version
                localAuthorizationList := some [{ idTag, idTagInfo := none }]
                updateType := .differential }
  | .clear => some { listVersion := 0, localAuthorizationList := some [], updateType := .full }

/-- The updates accepted in a run, in order. -/
def acceptedUpdates (limits : LocalListLimits) : LocalAuthList → List LocalListOp → List SendLocalListRequest
  | _, [] => []
  | list, op :: ops =>
    ((list.requested op).filter fun request => decide ((list.apply request limits).2 = .accepted)).toList ++
      acceptedUpdates limits (list.after limits op) ops

end LocalAuthList

/-- The outcome of an update as the actor's commands take it: the list, if it was accepted. -/
def acceptedList (outcome : LocalAuthList × UpdateStatus) : Option LocalAuthList :=
  if outcome.2 = .accepted then some outcome.1 else none

end KirbyOcpp
