import KirbyOcpp.Ocpp.Messages

/-!
# Authorization: `authorization.rs` and the typed configuration

The local list, the authorization cache, the offline rules, and the configuration values the actor
reads through the getters of `ConfigRegistry`. How a configuration text becomes a value, and how a
`SendLocalList` is checked, is not modelled here.
-/

namespace KirbyOcpp

/-- `DEFAULT_SAMPLED_DATA`: the energy register, the power, the current, the voltage, the temperature and the
state of charge. -/
def sampledByDefault : List Measurand := [4, 13, 1, 21, 20, 19]

/-- The values behind the getters of `ConfigRegistry` (seconds for intervals). -/
structure ConfigRegistry where
  heartbeatInterval : Nat := 30
  transactionMessageAttempts : Nat := 1
  transactionMessageRetryInterval : Nat := 30
  minimumStatusDuration : Nat := 0
  meterValueSampleInterval : Nat := 60
  clockAlignedDataInterval : Nat := 0
  resetRetries : Nat := 0
  localAuthListEnabled : Bool := true
  localAuthorizeOffline : Bool := true
  localPreAuthorize : Bool := false
  authorizationCacheEnabled : Bool := true
  allowOfflineTxForUnknownId : Bool := true
  authorizeRemoteTxRequests : Bool := false
  stopTransactionOnEvSideDisconnect : Bool := true
  stopTransactionOnInvalidId : Bool := true
  maxEnergyOnInvalidId : Nat := 0
  reserveConnectorZeroSupported : Bool := true
  chargeProfileMaxStackLevel : Int := 10
  maxChargingProfilesInstalled : Nat := 10
  chargingScheduleMaxPeriods : Nat := 24
  certSigningRepeatTimes : Nat := 5
  meterValuesSampledData : List Measurand := sampledByDefault
  meterValuesAlignedData : List Measurand := sampledByDefault
  stopTxnSampledData : List Measurand := sampledByDefault
  stopTxnAlignedData : List Measurand := sampledByDefault
deriving DecidableEq

/-- The local authorization list. -/
structure LocalAuthList where
  version : Int := 0
  entries : List (IdTag × IdTagInfo) := []
deriving DecidableEq

def LocalAuthList.get (list : LocalAuthList) (idTag : IdTag) : Option IdTagInfo :=
  (list.entries.find? fun entry => decide (entry.1 = idTag)).map (·.2)

/-- Where an authorization decision came from. -/
inductive AuthSource where
  | centralSystem | localList | authorizationCache | offlineUnknown | none
deriving DecidableEq, Repr

/-- Result of an `Authorize` flow. -/
structure AuthorizationDecision where
  accepted : Bool
  idTagInfo : IdTagInfo
  source : AuthSource
deriving DecidableEq

/-- `IdTagInfo` with `expiryDate` applied. -/
def normalizeIdTagInfo (info : IdTagInfo) (now : Instant) : IdTagInfo :=
  { info with status := if info.expiryDate.any fun expiry => decide (expiry ≤ now) then .expired
                        else info.status }

/-- Whether an `IdTagInfo` authorizes a transaction. -/
def isAccepted (info : IdTagInfo) : Bool := decide (info.status = .accepted)

/-- An entry of the cache with its write order. -/
structure CacheSlot where
  idTag : IdTag
  info : IdTagInfo
  seq : Nat
deriving DecidableEq

/-- Bounded cache of the CSMS's latest `IdTagInfo` per idTag. -/
structure AuthorizationCache where
  capacity : Nat := 1000
  /-- A `u64` that wraps. -/
  nextSeq : Nat := 0
  entries : List CacheSlot := []
deriving DecidableEq

namespace AuthorizationCache

def isLiveAccept (info : IdTagInfo) (now : Instant) : Bool := isAccepted (normalizeIdTagInfo info now)

/-- `(!live, seq)` of `a` is smaller than that of `b`: `a` is evicted before `b`. -/
def evictedBefore (now : Instant) (a b : CacheSlot) : Bool :=
  let live := isLiveAccept a.info now
  let live' := isLiveAccept b.info now
  if live = live' then decide (a.seq < b.seq) else live

/-- The entry that makes room: the oldest live `Accepted` one, else the oldest. -/
def victim (now : Instant) : List CacheSlot → Option CacheSlot
  | [] => none
  | slot :: rest =>
    match victim now rest with
    | none => some slot
    | some best => if evictedBefore now best slot then some best else some slot

def evictOne (cache : AuthorizationCache) (now : Instant) : AuthorizationCache :=
  match victim now cache.entries with
  | none => cache
  | some slot => { cache with entries := cache.entries.filter fun s => decide (s.idTag ≠ slot.idTag) }

/-- `while len >= capacity { evict_one }`, for at most `fuel` rounds. -/
def makeRoom (cache : AuthorizationCache) (now : Instant) : Nat → AuthorizationCache
  | 0 => cache
  | fuel + 1 =>
    if cache.capacity ≤ cache.entries.length then makeRoom (cache.evictOne now) now fuel else cache

/-- Stores the CSMS's `IdTagInfo` for `idTag`, evicting if the cache is full. -/
def remember (cache : AuthorizationCache) (idTag : IdTag) (info : IdTagInfo) (now : Instant) :
    AuthorizationCache :=
  if cache.capacity = 0 then cache
  else
    let known := cache.entries.any fun slot => decide (slot.idTag = idTag)
    -- every round removes an entry, so as many rounds as entries suffice
    let cache := if known then cache else cache.makeRoom now cache.entries.length
    { cache with
      nextSeq := (cache.nextSeq + 1) % 2 ^ 64
      entries := (cache.entries.filter fun slot => decide (slot.idTag ≠ idTag)) ++
        [{ idTag, info, seq := cache.nextSeq }] }

/-- The cached `IdTagInfo` as seen at `now`. -/
def lookup (cache : AuthorizationCache) (idTag : IdTag) (now : Instant) : Option IdTagInfo :=
  (cache.entries.find? fun slot => decide (slot.idTag = idTag)).map fun slot =>
    normalizeIdTagInfo slot.info now

/-- `ClearCache`. -/
def clear (cache : AuthorizationCache) : AuthorizationCache := { cache with entries := [] }

end AuthorizationCache

/-! ## Decisions -/

def decided (info : IdTagInfo) (source : AuthSource) : AuthorizationDecision :=
  { accepted := isAccepted info, idTagInfo := info, source }

def authorizeLocally (idTag : IdTag) (now : Instant) (list : LocalAuthList)
    (cache : AuthorizationCache) (config : ConfigRegistry) (requireOfflinePermission : Bool) :
    AuthorizationDecision :=
  if requireOfflinePermission && !config.localAuthorizeOffline then
    decided { status := .invalid } .none
  else match if config.localAuthListEnabled then list.get idTag else none with
    | some info => decided (normalizeIdTagInfo info now) .localList
    | none =>
      match if config.authorizationCacheEnabled then cache.lookup idTag now else none with
      | some info => decided info .authorizationCache
      | none =>
        if requireOfflinePermission && config.allowOfflineTxForUnknownId then
          decided { status := .accepted } .offlineUnknown
        else decided { status := .invalid } .none

/-- Offline authorization. -/
def authorizeOffline (idTag : IdTag) (now : Instant) (list : LocalAuthList)
    (cache : AuthorizationCache) (config : ConfigRegistry) : AuthorizationDecision :=
  authorizeLocally idTag now list cache config true

/-- `LocalPreAuthorize`: the local decision a start must pass before it is sent. -/
def preAuthorize (idTag : IdTag) (now : Instant) (list : LocalAuthList)
    (cache : AuthorizationCache) (config : ConfigRegistry) : Option AuthorizationDecision :=
  if config.localPreAuthorize then some (authorizeLocally idTag now list cache config false) else none

/-- Applies the CSMS's `IdTagInfo`: the cache and the decision. -/
def applyOnlineIdTagInfo (idTag : IdTag) (info : IdTagInfo) (now : Instant)
    (cache : AuthorizationCache) (config : ConfigRegistry) :
    AuthorizationCache × AuthorizationDecision :=
  (if config.authorizationCacheEnabled then cache.remember idTag info now else cache,
    decided (normalizeIdTagInfo info now) .centralSystem)

/-- The parentIdTag of `idTag` as the station already knows it. -/
def knownParent (idTag : IdTag) (now : Instant) (list : LocalAuthList) (cache : AuthorizationCache) :
    Option IdTag :=
  ((list.get idTag).bind (·.parentIdTag)).or ((cache.lookup idTag now).bind (·.parentIdTag))

end KirbyOcpp
