import KirbyOcpp.Station.LocalAuthList
import KirbyOcpp.Ledger.Walks

/-!
# Updates of the local authorization list

The list as a version and a function from tags. An update is refused by the first rule it breaks and
changes nothing then; an accepted one folds its entries over the old list, or over the empty one when
it is full. The local edits are updates of derived versions, so a run of both is told by the updates
it accepted.
-/

namespace KirbyOcpp

/-- What the list says: a version, and the stored info of each tag. -/
@[ext] structure Listing where
  version : Int
  info : IdTag → Option IdTagInfo

namespace SendLocalListRequest

/-- The left fold of the entries: an entry replaces what the tag had, an entry without info deletes it. -/
def target (request : SendLocalListRequest) (old : IdTag → Option IdTagInfo) : IdTag → Option IdTagInfo :=
  request.update.foldl (fun info item => Function.update info item.idTag item.idTagInfo)
    (match request.updateType with
      | .full => fun _ => none
      | .differential => old)

/-- The tags listed after the update. -/
def targetTags (request : SendLocalListRequest) (old : IdTag → Option IdTagInfo) : Set IdTag :=
  {tag | (request.target old tag).isSome = true}

/-- Every rule of `SendLocalList` is met. -/
structure Allowed (request : SendLocalListRequest) (limits : LocalListLimits) (listing : Listing) : Prop where
  enabled : limits.enabled = true
  short : request.update.length ≤ limits.maxUpdateEntries
  complete : request.updateType = .full → ∀ item ∈ request.update, item.idTagInfo ≠ none
  fits : (request.targetTags listing.info).ncard ≤ limits.maxEntries
  newer : request.updateType = .differential → listing.version < request.listVersion

open Classical in
/-- The status of the first rule that fails, in the documented order. -/
noncomputable def verdict (request : SendLocalListRequest) (limits : LocalListLimits) (listing : Listing) :
    UpdateStatus :=
  if limits.enabled = false then .notSupported
  else if limits.maxUpdateEntries < request.update.length then .failed
  else if request.updateType = .full ∧ ∃ item ∈ request.update, item.idTagInfo = none then .failed
  else if limits.maxEntries < (request.targetTags listing.info).ncard then .failed
  else if request.updateType = .differential ∧ request.listVersion ≤ listing.version then .versionMismatch
  else .accepted

/-- No rule fails exactly if every rule is met. -/
theorem verdict_accepted (request : SendLocalListRequest) (limits : LocalListLimits) (listing : Listing) :
    request.verdict limits listing = .accepted ↔ request.Allowed limits listing := by
  unfold verdict
  constructor
  · intro passed
    split at passed
    · cases passed
    next enabled =>
    split at passed
    · cases passed
    next short =>
    split at passed
    · cases passed
    next complete =>
    split at passed
    · cases passed
    next fits =>
    split at passed
    · cases passed
    next newer =>
    exact
      { enabled := by simpa using enabled
        short := Nat.le_of_not_lt short
        complete := fun full item mem absent => complete ⟨full, item, mem, absent⟩
        fits := Nat.le_of_not_lt fits
        newer := fun differential => Int.lt_of_not_ge fun old => newer ⟨differential, old⟩ }
  · rintro ⟨enabled, short, complete, fits, newer⟩
    have whole : ¬(request.updateType = .full ∧ ∃ item ∈ request.update, item.idTagInfo = none) := by
      rintro ⟨full, item, mem, absent⟩
      exact complete full item mem absent
    have later : ¬(request.updateType = .differential ∧ request.listVersion ≤ listing.version) := by
      rintro ⟨differential, old⟩
      exact absurd (newer differential) (Int.not_lt.mpr old)
    rw [if_neg (by simp [enabled]), if_neg (Nat.not_lt.mpr short), if_neg whole, if_neg (Nat.not_lt.mpr fits),
      if_neg later]

end SendLocalListRequest

/-- The listing an accepted update leads to. -/
def Listing.accept (listing : Listing) (request : SendLocalListRequest) : Listing :=
  { version := request.listVersion, info := request.target listing.info }

namespace LocalAuthList

/-- The list as it is read. -/
def listing (list : LocalAuthList) : Listing := { version := list.version, info := list.get }

/-- No tag is listed twice. -/
def Keyed (list : LocalAuthList) : Prop := Assoc.Keyed list.entries

/-! ## One update -/

theorem foldl_applyItem (entries : List (IdTag × IdTagInfo)) (update : List AuthorizationData) :
    update.foldl applyItem entries =
      (update.map fun item => (item.idTag, item.idTagInfo)).foldl Assoc.edit entries := by
  have item (entries : List (IdTag × IdTagInfo)) (item : AuthorizationData) :
      applyItem entries item = Assoc.edit entries (item.idTag, item.idTagInfo) := by
    obtain ⟨idTag, info⟩ := item
    cases info <;> rfl
  rw [List.foldl_map]
  congr 1
  funext entries next
  exact item entries next

/-- The entries before the update is folded over them. -/
def base (list : LocalAuthList) (request : SendLocalListRequest) : List (IdTag × IdTagInfo) :=
  if decide (request.updateType = .full) = true then [] else list.entries

theorem keyed_base {list : LocalAuthList} (h : list.Keyed) (request : SendLocalListRequest) :
    Assoc.Keyed (list.base request) := by
  unfold base
  split
  · exact List.nodup_nil
  · exact h

theorem get_base (list : LocalAuthList) (request : SendLocalListRequest) :
    Assoc.get (list.base request) =
      (match request.updateType with
        | .full => fun _ => none
        | .differential => list.get) := by
  unfold base
  cases request.updateType with
  | full => rfl
  | differential => rfl

theorem get_next (list : LocalAuthList) (request : SendLocalListRequest) :
    Assoc.get (request.update.foldl applyItem (list.base request)) = request.target list.get := by
  rw [foldl_applyItem, Assoc.get_edits, get_base, List.foldl_map]
  rfl

theorem keyed_next {list : LocalAuthList} (h : list.Keyed) (request : SendLocalListRequest) :
    Assoc.Keyed (request.update.foldl applyItem (list.base request)) := by
  rw [foldl_applyItem]
  exact Assoc.keyed_edits (keyed_base h request) _

/-- The size of the folded list is the number of tags it lists. -/
theorem length_next {list : LocalAuthList} (h : list.Keyed) (request : SendLocalListRequest) :
    (request.update.foldl applyItem (list.base request)).length = (request.targetTags list.get).ncard := by
  rw [Assoc.length_eq_ncard (keyed_next h request), get_next]
  rfl

/-- The whole of `apply`: the verdict, and the list it goes with. -/
theorem apply_eq {list : LocalAuthList} (h : list.Keyed) (request : SendLocalListRequest)
    (limits : LocalListLimits) :
    list.apply request limits =
      (if request.verdict limits list.listing = .accepted then
          { version := request.listVersion, entries := request.update.foldl applyItem (list.base request) }
        else list,
        request.verdict limits list.listing) := by
  have incomplete : (decide (request.updateType = .full) && request.update.any fun item => item.idTagInfo.isNone)
      = true ↔ request.updateType = .full ∧ ∃ item ∈ request.update, item.idTagInfo = none := by
    simp [List.any_eq_true]
  have stale : (!decide (request.updateType = .full) && decide (request.listVersion ≤ list.version)) = true ↔
      request.updateType = .differential ∧ request.listVersion ≤ list.version := by
    cases request.updateType <;> simp
  have size := length_next h request
  unfold base at size
  unfold apply SendLocalListRequest.verdict base
  simp only [incomplete, stale, size, listing, Bool.not_eq_true']
  by_cases enabled : limits.enabled = false
  · simp [enabled]
  by_cases short : limits.maxUpdateEntries < request.update.length
  · simp [enabled, short]
  by_cases complete : request.updateType = .full ∧ ∃ item ∈ request.update, item.idTagInfo = none
  · simp [enabled, short, complete]
  by_cases fits : limits.maxEntries < (request.targetTags list.get).ncard
  · simp [enabled, short, complete, fits]
  by_cases newer : request.updateType = .differential ∧ request.listVersion ≤ list.version
  · simp [enabled, short, fits, newer]
  · simp only [enabled, short, complete, fits, newer, if_false]
    rfl

theorem apply_status {list : LocalAuthList} (h : list.Keyed) (request : SendLocalListRequest)
    (limits : LocalListLimits) : (list.apply request limits).2 = request.verdict limits list.listing := by
  rw [apply_eq h]

/-- An accepted update: the fold of its entries, and its version. -/
theorem apply_accepted {list : LocalAuthList} (h : list.Keyed) {request : SendLocalListRequest}
    {limits : LocalListLimits} (accepted : (list.apply request limits).2 = .accepted) :
    (list.apply request limits).1.listing = list.listing.accept request := by
  have verdict := (apply_status h request limits).symm.trans accepted
  rw [apply_eq h, if_pos verdict]
  exact Listing.ext rfl (get_next list request)

/-- A refused update changes nothing. -/
theorem apply_refused (list : LocalAuthList) {request : SendLocalListRequest} {limits : LocalListLimits}
    (refused : (list.apply request limits).2 ≠ .accepted) : (list.apply request limits).1 = list := by
  revert refused
  fun_cases apply list request limits <;> first | exact fun _ => rfl | exact fun refused => absurd rfl refused

theorem keyed_apply {list : LocalAuthList} (h : list.Keyed) (request : SendLocalListRequest)
    (limits : LocalListLimits) : (list.apply request limits).1.Keyed := by
  rw [apply_eq h]
  split
  · exact keyed_next h request
  · exact h

/-- An accepted differential update raises the version to its own. -/
theorem apply_newer {list : LocalAuthList} (h : list.Keyed) {request : SendLocalListRequest}
    {limits : LocalListLimits} (accepted : (list.apply request limits).2 = .accepted)
    (differential : request.updateType = .differential) :
    list.version < request.listVersion ∧ (list.apply request limits).1.version = request.listVersion := by
  have allowed := (request.verdict_accepted limits list.listing).mp
    ((apply_status h request limits).symm.trans accepted)
  exact ⟨allowed.newer differential, congrArg Listing.version (apply_accepted h accepted)⟩

/-- A differential update of a version that is not above the current one is not accepted: a size rule
refuses it, or it is a mismatch. -/
theorem apply_stale {list : LocalAuthList} (h : list.Keyed) {request : SendLocalListRequest}
    {limits : LocalListLimits} (enabled : limits.enabled = true)
    (short : request.update.length ≤ limits.maxUpdateEntries)
    (differential : request.updateType = .differential) (stale : request.listVersion ≤ list.version) :
    (list.apply request limits).2 =
      if limits.maxEntries < (request.targetTags list.get).ncard then .failed else .versionMismatch := by
  have whole : ¬(request.updateType = .full ∧ ∃ item ∈ request.update, item.idTagInfo = none) := by
    simp [differential]
  have old : request.updateType = .differential ∧ request.listVersion ≤ list.listing.version :=
    ⟨differential, stale⟩
  rw [apply_status h, SendLocalListRequest.verdict, if_neg (by simp [enabled]), if_neg (Nat.not_lt.mpr short),
    if_neg whole, if_pos old]
  rfl

/-- The same differential update a second time is a mismatch: its fold changes nothing any more. -/
theorem apply_again {list : LocalAuthList} (h : list.Keyed) {request : SendLocalListRequest}
    {limits : LocalListLimits} (accepted : (list.apply request limits).2 = .accepted)
    (differential : request.updateType = .differential) :
    ((list.apply request limits).1.apply request limits).2 = .versionMismatch := by
  have allowed := (request.verdict_accepted limits list.listing).mp
    ((apply_status h request limits).symm.trans accepted)
  have info : (list.apply request limits).1.get = request.target list.get :=
    congrArg Listing.info (apply_accepted h accepted)
  have same : request.target (list.apply request limits).1.get = request.target list.get := by
    have again := Assoc.updates_again list.get (request.update.map fun item => (item.idTag, item.idTagInfo))
    simp only [List.foldl_map] at again
    rw [info]
    unfold SendLocalListRequest.target
    rw [differential]
    exact again
  rw [apply_stale (keyed_apply h request limits) allowed.enabled allowed.short differential
    (apply_newer h accepted differential).2.ge]
  have fits : (request.targetTags (list.apply request limits).1.get).ncard ≤ limits.maxEntries := by
    unfold SendLocalListRequest.targetTags
    rw [same]
    exact allowed.fits
  rw [if_neg (Nat.not_lt.mpr fits)]

/-! ## Local edits -/

theorem applyLocalListRequest_fst (list : LocalAuthList) (limits : LocalListLimits)
    (request : SendLocalListRequest) :
    (list.applyLocalListRequest limits request).1 = (list.apply request limits).1 := by
  unfold applyLocalListRequest
  split <;> next outcome => rw [outcome]

theorem applyLocalListRequest_ok (list : LocalAuthList) (limits : LocalListLimits)
    (request : SendLocalListRequest) :
    (list.applyLocalListRequest limits request).2 = .ok () ↔ (list.apply request limits).2 = .accepted := by
  unfold applyLocalListRequest
  split <;> next outcome => simp [outcome]

/-- An operation applies the update it amounts to. -/
theorem after_eq (limits : LocalListLimits) (list : LocalAuthList) (op : LocalListOp) :
    list.after limits op =
      match list.requested op with
      | some request => (list.apply request limits).1
      | none => list := by
  cases op with
  | sendLocalList request => rfl
  | set idTag info => exact applyLocalListRequest_fst list limits _
  | clear => exact applyLocalListRequest_fst list limits _
  | remove idTag =>
    simp only [after, removeLocalListEntry, requested]
    split
    · rfl
    · exact applyLocalListRequest_fst list limits _

theorem keyed_after {list : LocalAuthList} (h : list.Keyed) (limits : LocalListLimits) (op : LocalListOp) :
    (list.after limits op).Keyed := by
  rw [after_eq]
  split
  · exact keyed_apply h _ limits
  · exact h

/-- No run lists a tag twice. -/
theorem keyed_run {list : LocalAuthList} (h : list.Keyed) (limits : LocalListLimits) (ops : List LocalListOp) :
    (ops.foldl (after limits) list).Keyed := by
  induction ops generalizing list with
  | nil => exact h
  | cons op ops ih => exact ih (keyed_after h limits op)

/-! ## Runs -/

/-- One operation accepts the update it amounts to, or changes nothing. -/
theorem listing_after {list : LocalAuthList} (h : list.Keyed) (limits : LocalListLimits) (op : LocalListOp) :
    (list.after limits op).listing =
      (((list.requested op).filter fun request =>
        decide ((list.apply request limits).2 = .accepted)).toList).foldl Listing.accept list.listing := by
  rw [after_eq]
  cases requested : list.requested op with
  | none => rfl
  | some request =>
    by_cases accepted : (list.apply request limits).2 = .accepted
    · simp only [Option.filter_some, accepted, decide_true, if_true, Option.toList_some, List.foldl_cons,
        List.foldl_nil]
      exact apply_accepted h accepted
    · simp only [Option.filter_some, accepted, decide_false, Bool.false_eq_true, if_false, Option.toList_none,
        List.foldl_nil]
      rw [apply_refused list accepted]

/-- The accepted updates alone rebuild the list and its version. -/
theorem listing_run {list : LocalAuthList} (h : list.Keyed) (limits : LocalListLimits) (ops : List LocalListOp) :
    (ops.foldl (after limits) list).listing =
      (acceptedUpdates limits list ops).foldl Listing.accept list.listing := by
  induction ops generalizing list with
  | nil => rfl
  | cons op ops ih =>
    rw [List.foldl_cons, ih (keyed_after h limits op), acceptedUpdates, List.foldl_append, listing_after h]

/-- Differential updates only raise the version. -/
theorem version_run {list : LocalAuthList} (h : list.Keyed) (limits : LocalListLimits) (ops : List LocalListOp)
    (differential : ∀ request ∈ acceptedUpdates limits list ops, request.updateType = .differential) :
    list.version ≤ (ops.foldl (after limits) list).version := by
  induction ops generalizing list with
  | nil => exact le_rfl
  | cons op ops ih =>
    rw [acceptedUpdates] at differential
    have tail := ih (keyed_after h limits op) fun request mem => differential request (List.mem_append_right _ mem)
    refine le_trans ?_ tail
    rw [after_eq]
    cases requested : list.requested op with
    | none => exact le_rfl
    | some request =>
      by_cases accepted : (list.apply request limits).2 = .accepted
      · have kind := differential request (List.mem_append_left _ (by simp [requested, accepted]))
        have newer := apply_newer h accepted kind
        exact newer.2 ▸ newer.1.le
      · exact (congrArg LocalAuthList.version (apply_refused list accepted)).ge

/-- Where a tag is mentioned last decides it; an unmentioned tag keeps what the fold started with. -/
theorem target_last (request : SendLocalListRequest) (old : IdTag → Option IdTagInfo) (tag : IdTag) :
    request.target old tag =
      match request.update.reverse.find? fun item => decide (item.idTag = tag) with
      | some item => item.idTagInfo
      | none => if request.updateType = .full then none else old tag := by
  have last := Assoc.updates_last
    (match request.updateType with
      | .full => fun _ => none
      | .differential => old) (request.update.map fun item => (item.idTag, item.idTagInfo)) tag
  rw [List.foldl_map, ← List.map_reverse, List.find?_map] at last
  refine Eq.trans last ?_
  cases found : request.update.reverse.find? fun item => decide (item.idTag = tag) with
  | some item =>
    simp only [Function.comp_def, found]
    rfl
  | none =>
    simp only [Function.comp_def, found]
    cases request.updateType with
    | full => rfl
    | differential => rfl

/-! ## The rules of a run -/

/-- What one `SendLocalList` does to a list. -/
structure UpdateRules (limits : LocalListLimits) (list : LocalAuthList) (request : SendLocalListRequest) :
    Prop where
  accepts : (list.apply request limits).2 = .accepted ↔ request.Allowed limits list.listing
  first : (list.apply request limits).2 = request.verdict limits list.listing
  folds : (list.apply request limits).2 = .accepted →
    (list.apply request limits).1.listing = list.listing.accept request
  last : (list.apply request limits).2 = .accepted → ∀ tag, (list.apply request limits).1.get tag =
    match request.update.reverse.find? fun item => decide (item.idTag = tag) with
    | some item => item.idTagInfo
    | none => if request.updateType = .full then none else list.get tag
  keeps : (list.apply request limits).2 ≠ .accepted → (list.apply request limits).1 = list
  again : (list.apply request limits).2 = .accepted → request.updateType = .differential →
    ((list.apply request limits).1.apply request limits).2 = .versionMismatch
  /-- Sent once more after any differential updates, it is a mismatch or too many. -/
  replayed : (list.apply request limits).2 = .accepted → request.updateType = .differential →
    ∀ later, (∀ update ∈ acceptedUpdates limits (list.apply request limits).1 later,
        update.updateType = .differential) →
      ((later.foldl (after limits) (list.apply request limits).1).apply request limits).2 =
        if limits.maxEntries <
            (request.targetTags (later.foldl (after limits) (list.apply request limits).1).get).ncard
          then .failed else .versionMismatch

/-- What a local edit does: the update it amounts to, or an error and nothing else. -/
structure EditRules (limits : LocalListLimits) (list : LocalAuthList) : Prop where
  set : ∀ tag info,
    ((list.setLocalListEntry limits tag info).2 = .ok () ∧
      (list.setLocalListEntry limits tag info).1.listing =
        { version := list.version + 1, info := Function.update list.get tag (some info) }) ∨
    ((list.setLocalListEntry limits tag info).2 ≠ .ok () ∧ (list.setLocalListEntry limits tag info).1 = list)
  remove : ∀ tag,
    ((list.get tag).isSome = true ∧ (list.removeLocalListEntry limits tag).2 = .ok () ∧
      (list.removeLocalListEntry limits tag).1.listing =
        { version := list.version + 1, info := Function.update list.get tag none }) ∨
    ((list.removeLocalListEntry limits tag).2 ≠ .ok () ∧ (list.removeLocalListEntry limits tag).1 = list)
  clear : if limits.enabled = true
    then (list.clearLocalList limits).2 = .ok () ∧
      (list.clearLocalList limits).1.listing = { version := 0, info := fun _ => none }
    else (list.clearLocalList limits).2 ≠ .ok () ∧ (list.clearLocalList limits).1 = list
  /-- Every operation is the update it stands for. -/
  updates : ∀ op, list.after limits op =
    match list.requested op with
    | some request => (list.apply request limits).1
    | none => list

theorem updateRules {list : LocalAuthList} (h : list.Keyed) (limits : LocalListLimits)
    (request : SendLocalListRequest) : UpdateRules limits list request where
  accepts := by rw [apply_status h, SendLocalListRequest.verdict_accepted]
  first := apply_status h request limits
  folds := apply_accepted h
  last := fun accepted tag => by
    have info : (list.apply request limits).1.get = request.target list.get :=
      congrArg Listing.info (apply_accepted h accepted)
    rw [info, target_last]
  keeps := apply_refused list
  again := apply_again h
  replayed := fun accepted differential later kinds => by
    have allowed := (request.verdict_accepted limits list.listing).mp
      ((apply_status h request limits).symm.trans accepted)
    have next := keyed_apply h request limits
    have raised := version_run next limits later kinds
    refine apply_stale (keyed_run next limits later) allowed.enabled allowed.short differential ?_
    exact (apply_newer h accepted differential).2 ▸ raised

/-- An edit of one entry raises the version by one and changes that entry, or fails. -/
theorem applyLocalListEdit_cases {list : LocalAuthList} (h : list.Keyed) (limits : LocalListLimits)
    (item : AuthorizationData) :
    ((list.applyLocalListEdit limits item).2 = .ok () ∧
      (list.applyLocalListEdit limits item).1.listing =
        { version := list.version + 1, info := Function.update list.get item.idTag item.idTagInfo }) ∨
    ((list.applyLocalListEdit limits item).2 ≠ .ok () ∧ (list.applyLocalListEdit limits item).1 = list) := by
  unfold applyLocalListEdit
  simp only [ne_eq, applyLocalListRequest_ok, applyLocalListRequest_fst]
  by_cases accepted : (list.apply { listVersion := nextVersion list.version
                                    localAuthorizationList := some [item]
                                    updateType := .differential } limits).2 = .accepted
  · refine .inl ⟨accepted, ?_⟩
    have newer : list.version < nextVersion list.version := (apply_newer h accepted rfl).1
    have next : nextVersion list.version = list.version + 1 := by
      unfold nextVersion at newer ⊢
      split
      · rfl
      · next full => exact absurd newer (by simp [full])
    rw [apply_accepted h accepted]
    exact Listing.ext next rfl
  · exact .inr ⟨accepted, apply_refused list accepted⟩

theorem editRules {list : LocalAuthList} (h : list.Keyed) (limits : LocalListLimits) :
    EditRules limits list where
  set := fun tag info => applyLocalListEdit_cases h limits { idTag := tag, idTagInfo := some info }
  remove := fun tag => by
    unfold removeLocalListEntry
    by_cases absent : (list.get tag).isNone = true
    · rw [if_pos absent]
      exact .inr ⟨by simp, rfl⟩
    · rw [if_neg absent]
      have listed : (list.get tag).isSome = true := by simpa [Option.isSome_iff_ne_none] using absent
      exact (applyLocalListEdit_cases h limits { idTag := tag, idTagInfo := none }).imp_left
        fun done => ⟨listed, done⟩
  clear := by
    unfold clearLocalList
    simp only [ne_eq, applyLocalListRequest_ok, applyLocalListRequest_fst, apply_status h,
      SendLocalListRequest.verdict_accepted]
    have empty (old : IdTag → Option IdTagInfo) :
        SendLocalListRequest.targetTags
          { listVersion := 0, localAuthorizationList := some [], updateType := .full } old = ∅ := by
      ext tag
      exact iff_of_false Bool.false_ne_true (Set.notMem_empty tag)
    by_cases enabled : limits.enabled = true
    · rw [if_pos enabled]
      have allowed : SendLocalListRequest.Allowed
          { listVersion := 0, localAuthorizationList := some [], updateType := .full } limits list.listing :=
        { enabled := enabled
          short := Nat.zero_le _
          complete := fun _ item mem => absurd mem List.not_mem_nil
          fits := by
            rw [empty, Set.ncard_empty]
            exact Nat.zero_le _
          newer := fun differential => by cases differential }
      refine ⟨allowed, ?_⟩
      have accepted := (apply_status h _ limits).trans
        ((SendLocalListRequest.verdict_accepted _ limits list.listing).mpr allowed)
      rw [apply_accepted h accepted]
      rfl
    · rw [if_neg enabled]
      have refused : ¬SendLocalListRequest.Allowed
          { listVersion := 0, localAuthorizationList := some [], updateType := .full } limits list.listing :=
        fun allowed => enabled allowed.enabled
      refine ⟨refused, apply_refused list fun accepted => refused ?_⟩
      exact (SendLocalListRequest.verdict_accepted _ limits list.listing).mp
        ((apply_status h _ limits).symm.trans accepted)
  updates := after_eq limits list

/-- In every run of updates and local edits from the empty list: the rules of an update and of an edit
hold of the list reached, and the accepted updates alone rebuild it. -/
theorem localList_run (limits : LocalListLimits) (ops : List LocalListOp) :
    (∀ request, UpdateRules limits (ops.foldl (after limits) {}) request) ∧
      EditRules limits (ops.foldl (after limits) {}) ∧
      (ops.foldl (after limits) {}).listing =
        (acceptedUpdates limits {} ops).foldl Listing.accept { version := 0, info := fun _ => none } := by
  have fresh : ({} : LocalAuthList).Keyed := List.nodup_nil
  have reached := keyed_run fresh limits ops
  exact ⟨updateRules reached limits, editRules reached limits, listing_run fresh limits ops⟩

end LocalAuthList

/-! ## The actor -/

namespace Actor

/-- The station keeps the list an accepted `SendLocalList` leads to, and its own list otherwise. -/
theorem dispatchIncoming_sendLocalList (a : Actor) (request : SendLocalListRequest)
    (limits : LocalListLimits) :
    (a.dispatchIncoming (.sendLocalList (acceptedList (a.localList.apply request limits)))).localList =
      (a.localList.apply request limits).1 := by
  unfold acceptedList
  by_cases accepted : (a.localList.apply request limits).2 = .accepted
  · rw [if_pos accepted]
    exact congrArg Shelf.localList (flushNow_walk { a with localList := (a.localList.apply request limits).1 }).shelf
  · rw [if_neg accepted, LocalAuthList.apply_refused a.localList accepted]
    rfl

end Actor

end KirbyOcpp
