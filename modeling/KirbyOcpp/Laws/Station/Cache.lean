import KirbyOcpp.Station.Authorization
import KirbyOcpp.Data.Lists

/-!
# The authorization cache over a history

A full cache gives up the oldest live `Accepted` entry, and only without one an entry that denies or has expired. Write
order is kept in `seq`, a 64-bit counter that wraps: it orders the entries as long as the cache has been written at most
2^64 times (`seq_of_write`). What the cache forgets decides how an unknown idTag is treated offline, so a denial is only
lost to a `ClearCache` or to a cache full of denials (`Removed`).
-/

namespace KirbyOcpp

open KirbyOcpp.Lists

namespace AuthorizationCache

variable {cache : AuthorizationCache} {now : Instant} {idTag : IdTag} {info : IdTagInfo} {c : Nat}

/-! ## Histories -/

/-- An operation on the cache, with its time. -/
inductive Op where
  | remember (idTag : IdTag) (info : IdTagInfo) (now : Instant)
  | clear (now : Instant)
  | lookup (idTag : IdTag) (now : Instant)

def Op.time : Op → Instant
  | .remember _ _ now | .clear now | .lookup _ now => now

/-- The cache after one operation. -/
def apply (cache : AuthorizationCache) : Op → AuthorizationCache
  | .remember idTag info now => cache.remember idTag info now
  | .clear _ => cache.clear
  | .lookup _ _ => cache

/-- The cache after a history. -/
def after (cache : AuthorizationCache) (ops : List Op) : AuthorizationCache := ops.foldl apply cache

/-- A fresh cache after a history. -/
def run (c : Nat) (ops : List Op) : AuthorizationCache := ({ capacity := c } : AuthorizationCache).after ops

/-- What a history writes, oldest first. -/
def writes (ops : List Op) : List (IdTag × IdTagInfo) :=
  ops.filterMap fun
    | .remember idTag info _ => some (idTag, info)
    | _ => none

/-- `other` was written since the last write of `idTag`. -/
def WrittenSince (ops : List Op) (idTag other : IdTag) : Prop :=
  ∃ front info back, writes ops = front ++ (idTag, info) :: back ∧ (∀ w ∈ back, w.1 ≠ idTag) ∧
    ∃ info', (other, info') ∈ back

/-- The idTag is cached. -/
def Holds (cache : AuthorizationCache) (idTag : IdTag) : Prop := ∃ slot ∈ cache.entries, slot.idTag = idTag

/-- The entry that makes room is not written again and gone. -/
def Evicted (cache : AuthorizationCache) (idTag : IdTag) (info : IdTagInfo) (now : Instant) (slot : CacheSlot) : Prop :=
  slot ∈ cache.entries ∧ slot.idTag ≠ idTag ∧ ¬(cache.remember idTag info now).Holds slot.idTag

/-- Whether an entry authorizes at `now`. -/
abbrev live (now : Instant) (slot : CacheSlot) : Bool := isLiveAccept slot.info now

/-! ## The victim -/

theorem evictedBefore_iff {a b : CacheSlot} :
    evictedBefore now a b = true ↔ (live now a = true ∧ live now b = false) ∨ live now a = live now b ∧ a.seq < b.seq := by
  unfold evictedBefore live
  by_cases same : isLiveAccept a.info now = isLiveAccept b.info now
  · simp [same]
  · cases alive : isLiveAccept a.info now with
    | true => simp_all
    | false => simp_all

/-- What `a` is not evicted before goes first, or ties with it. -/
theorem evictedBefore_eq_false {a b : CacheSlot} :
    evictedBefore now a b = false ↔ (live now b = true ∧ live now a = false) ∨ live now b = live now a ∧ b.seq ≤ a.seq := by
  rw [← Bool.not_eq_true, evictedBefore_iff]
  cases live now a <;> cases live now b <;> simp

theorem evictedBefore_asymm {a b : CacheSlot} (h : evictedBefore now a b = true) : evictedBefore now b a = false :=
  evictedBefore_eq_false.mpr ((evictedBefore_iff.mp h).imp_right fun tie => ⟨tie.1, tie.2.le⟩)

/-- Nothing is evicted before what nothing is evicted before. -/
theorem evictedBefore_trans {a b d : CacheSlot} (first : evictedBefore now a b = false)
    (second : evictedBefore now b d = false) : evictedBefore now a d = false := by
  rw [evictedBefore_eq_false] at first second ⊢
  rcases first with ⟨aliveB, deadA⟩ | ⟨same, older⟩
  · rcases second with ⟨-, deadB⟩ | ⟨same', -⟩
    · rw [aliveB] at deadB
      cases deadB
    · exact .inl ⟨same'.trans aliveB, deadA⟩
  · rcases second with ⟨aliveD, deadB⟩ | ⟨same', older'⟩
    · exact .inl ⟨aliveD, same.symm.trans deadB⟩
    · exact .inr ⟨same'.trans same, older'.trans older⟩

theorem victim_spec {entries : List CacheSlot} {slot : CacheSlot} (found : victim now entries = some slot) :
    slot ∈ entries ∧ ∀ other ∈ entries, evictedBefore now other slot = false := by
  induction entries generalizing slot with
  | nil => cases found
  | cons head rest ih =>
    have self (s : CacheSlot) : evictedBefore now s s = false := by simp [evictedBefore]
    unfold victim at found
    cases best : victim now rest with
    | none =>
      rw [best] at found
      cases found
      have empty : rest = [] := by
        cases rest with
        | nil => rfl
        | cons next others =>
          unfold victim at best
          split at best
          · cases best
          · split at best <;> cases best
      subst empty
      exact ⟨List.mem_cons_self, fun other mem => List.mem_singleton.mp mem ▸ self _⟩
    | some candidate =>
      rw [best] at found
      obtain ⟨mem, top⟩ := ih best
      dsimp only at found
      split at found
      · rename_i before
        cases found
        refine ⟨List.mem_cons_of_mem _ mem, fun other mem' => ?_⟩
        rcases List.mem_cons.mp mem' with rfl | old
        · exact evictedBefore_asymm before
        · exact top other old
      · rename_i notBefore
        cases found
        refine ⟨List.mem_cons_self, fun other mem' => ?_⟩
        rcases List.mem_cons.mp mem' with rfl | old
        · exact self _
        · exact evictedBefore_trans (top other old) (Bool.not_eq_true _ ▸ notBefore)

theorem victim_isSome {entries : List CacheSlot} (filled : entries ≠ []) : ∃ slot, victim now entries = some slot := by
  cases entries with
  | nil => exact absurd rfl filled
  | cons head rest =>
    unfold victim
    cases victim now rest with
    | none => exact ⟨head, rfl⟩
    | some best =>
      dsimp only
      split
      · exact ⟨best, rfl⟩
      · exact ⟨head, rfl⟩

/-- A victim that does not authorize is found only where nothing does. -/
theorem dead_of_victim {a b : CacheSlot} (first : evictedBefore now b a = false) (dead : live now a = false) :
    live now b = false := by
  rcases evictedBefore_eq_false.mp first with ⟨alive, -⟩ | ⟨same, -⟩
  · rw [dead] at alive
    cases alive
  · exact same.symm.trans dead

/-- Among its like the victim has the lowest number. -/
theorem seq_le_of_victim {a b : CacheSlot} (first : evictedBefore now b a = false) (same : live now b = live now a) :
    a.seq ≤ b.seq := by
  rcases evictedBefore_eq_false.mp first with ⟨alive, dead⟩ | ⟨-, older⟩
  · rw [same, alive] at dead
    cases dead
  · exact older

/-! ## A write -/

theorem filter_length_lt {entries : List CacheSlot} {slot : CacheSlot} (mem : slot ∈ entries) :
    (entries.filter fun s => decide (s.idTag ≠ slot.idTag)).length < entries.length :=
  List.length_filter_lt_length_iff_exists.mpr ⟨slot, mem, by simp⟩

/-- A full cache gives up one entry. -/
theorem makeRoom_full (positive : 1 ≤ cache.capacity) (full : cache.entries.length = cache.capacity) :
    ∃ slot, victim now cache.entries = some slot ∧
      cache.makeRoom now cache.entries.length =
        { cache with entries := cache.entries.filter fun s => decide (s.idTag ≠ slot.idTag) } := by
  have filled : cache.entries ≠ [] := by
    intro empty
    rw [empty] at full
    exact absurd full.symm (Nat.one_le_iff_ne_zero.mp positive)
  obtain ⟨slot, found⟩ : ∃ slot, victim now cache.entries = some slot := victim_isSome filled
  refine ⟨slot, found, ?_⟩
  have evicted : cache.evictOne now =
      { cache with entries := cache.entries.filter fun s => decide (s.idTag ≠ slot.idTag) } := by
    unfold evictOne
    rw [found]
  have shorter := filter_length_lt (victim_spec found).1
  cases count : cache.entries.length with
  | zero => exact absurd (List.length_eq_zero_iff.mp count) filled
  | succ rounds =>
    unfold makeRoom
    rw [if_pos (by omega), evicted]
    cases rounds with
    | zero => rfl
    | succ rounds =>
      unfold makeRoom
      rw [if_neg]
      change ¬cache.capacity ≤ (List.filter _ _).length
      omega

/-- The entry that a write leaves. -/
def written (cache : AuthorizationCache) (idTag : IdTag) (info : IdTagInfo) : CacheSlot :=
  { idTag, info, seq := cache.nextSeq }

/-- What a write does to a cache within its capacity: the entry of the idTag is replaced; if there is none and the
cache is full, the victim goes as well. -/
theorem remember_cases (positive : 1 ≤ cache.capacity) (within : cache.entries.length ≤ cache.capacity) (idTag : IdTag)
    (info : IdTagInfo) (now : Instant) :
    ∃ kept : List CacheSlot,
      cache.remember idTag info now =
        { cache with
          nextSeq := (cache.nextSeq + 1) % 2 ^ 64
          entries := (kept.filter fun slot => decide (slot.idTag ≠ idTag)) ++ [cache.written idTag info] } ∧
      ((kept = cache.entries ∧ (cache.Holds idTag ∨ cache.entries.length < cache.capacity)) ∨
        ¬cache.Holds idTag ∧ cache.entries.length = cache.capacity ∧ ∃ slot, victim now cache.entries = some slot ∧
          kept = cache.entries.filter fun s => decide (s.idTag ≠ slot.idTag)) := by
  have nonzero : ¬cache.capacity = 0 := Nat.one_le_iff_ne_zero.mp positive
  unfold remember
  rw [if_neg nonzero]
  dsimp only
  by_cases known : (cache.entries.any fun slot => decide (slot.idTag = idTag)) = true
  · rw [if_pos known]
    obtain ⟨slot, mem, same⟩ := List.any_eq_true.mp known
    exact ⟨cache.entries, rfl, .inl ⟨rfl, .inl ⟨slot, mem, of_decide_eq_true same⟩⟩⟩
  · rw [if_neg known]
    have unknown : ¬cache.Holds idTag := fun ⟨slot, mem, same⟩ =>
      known (List.any_eq_true.mpr ⟨slot, mem, decide_eq_true same⟩)
    rcases Nat.lt_or_eq_of_le within with less | full
    · have same (rounds : Nat) : cache.makeRoom now rounds = cache := by
        cases rounds with
        | zero => rfl
        | succ rounds =>
          unfold makeRoom
          exact if_neg (Nat.not_le.mpr less)
      rw [same]
      exact ⟨cache.entries, rfl, .inl ⟨rfl, .inr less⟩⟩
    · obtain ⟨slot, found, room⟩ :
          ∃ slot, victim now cache.entries = some slot ∧ cache.makeRoom now cache.entries.length =
            { cache with entries := cache.entries.filter fun s => decide (s.idTag ≠ slot.idTag) } :=
        makeRoom_full positive full
      rw [room]
      exact ⟨_, rfl, .inr ⟨unknown, full, slot, found, rfl⟩⟩

/-- Right after a write the idTag reads as it was written. -/
theorem lookup_remember (positive : 1 ≤ cache.capacity) (within : cache.entries.length ≤ cache.capacity) (idTag : IdTag)
    (info : IdTagInfo) (now later : Instant) :
    (∃ slot ∈ (cache.remember idTag info now).entries, slot.idTag = idTag ∧ slot.info = info) ∧
      (cache.remember idTag info now).lookup idTag later = some (normalizeIdTagInfo info later) := by
  obtain ⟨kept, eq, -⟩ := remember_cases positive within idTag info now
  rw [eq]
  refine ⟨⟨cache.written idTag info, by simp, rfl, rfl⟩, ?_⟩
  have others : (kept.filter fun slot => decide (slot.idTag ≠ idTag)).find? (fun slot => decide (slot.idTag = idTag)) =
      none := by
    rw [List.find?_eq_none]
    intro slot mem
    simpa using (List.mem_filter.mp mem).2
  unfold lookup
  dsimp only
  rw [List.find?_append, others]
  simp [written]

/-- An entry that makes room is the victim of a full cache. -/
theorem victim_of_evicted (positive : 1 ≤ cache.capacity) (within : cache.entries.length ≤ cache.capacity)
    (tags : (cache.entries.map (·.idTag)).Nodup) {slot : CacheSlot} (evicted : cache.Evicted idTag info now slot) :
    victim now cache.entries = some slot := by
  obtain ⟨mem, other, gone⟩ := evicted
  obtain ⟨kept, eq, cases⟩ := remember_cases positive within idTag info now
  have lost : slot ∉ kept := fun still => gone ⟨slot, by
    rw [eq]
    exact List.mem_append_left _ (List.mem_filter.mpr ⟨still, decide_eq_true other⟩), rfl⟩
  rcases cases with ⟨rfl, -⟩ | ⟨-, -, first, found, rfl⟩
  · exact absurd mem lost
  · have same : slot.idTag = first.idTag := by
      by_contra differs
      exact lost (List.mem_filter.mpr ⟨mem, decide_eq_true differs⟩)
    rw [found, eq_of_nodup_map tags (victim_spec found).1 mem same.symm]

/-! ## Every history -/

/-- What a cache is after the history `ops`. -/
structure Kept (c : Nat) (ops : List Op) (cache : AuthorizationCache) : Prop where
  capacity : cache.capacity = c
  counter : cache.nextSeq = (writes ops).length % 2 ^ 64
  tags : (cache.entries.map (·.idTag)).Nodup
  size : cache.entries.length ≤ c
  wrote : ∀ slot ∈ cache.entries, ∃ front back, writes ops = front ++ (slot.idTag, slot.info) :: back ∧
    (∀ w ∈ back, w.1 ≠ slot.idTag) ∧ slot.seq = front.length % 2 ^ 64

theorem Kept.positive {ops : List Op} (h : Kept c ops cache) (positive : 1 ≤ c) : 1 ≤ cache.capacity :=
  positive.trans_eq h.capacity.symm

theorem Kept.within {ops : List Op} (h : Kept c ops cache) : cache.entries.length ≤ cache.capacity :=
  h.size.trans_eq h.capacity.symm

theorem run_append (c : Nat) (ops more : List Op) : run c (ops ++ more) = (run c ops).after more :=
  List.foldl_append

theorem writes_append (ops more : List Op) : writes (ops ++ more) = writes ops ++ writes more :=
  List.filterMap_append

theorem Kept.remember (positive : 1 ≤ c) {ops : List Op} (h : Kept c ops cache) (idTag : IdTag) (info : IdTagInfo)
    (now : Instant) : Kept c (ops ++ [.remember idTag info now]) (cache.remember idTag info now) := by
  have wrote : writes (ops ++ [.remember idTag info now]) = writes ops ++ [(idTag, info)] := writes_append _ _
  obtain ⟨kept, eq, cases⟩ := remember_cases (h.positive positive) h.within idTag info now
  have sublist : kept.Sublist cache.entries := by
    rcases cases with ⟨rfl, -⟩ | ⟨-, -, slot, -, rfl⟩
    · exact List.Sublist.refl _
    · exact List.filter_sublist
  have shorter := List.length_filter_le (fun slot => decide (slot.idTag ≠ idTag)) kept
  rw [eq]
  refine ⟨h.capacity, ?_, ?_, ?_, ?_⟩
  · change (cache.nextSeq + 1) % 2 ^ 64 = _
    rw [wrote, h.counter, List.length_append, List.length_singleton, Nat.mod_add_mod]
  · exact nodup_map_filter_append (h.tags.sublist (sublist.map _)) fun slot _ keeps => of_decide_eq_true keeps
  · rw [List.length_append, List.length_singleton]
    rcases cases with ⟨rfl, known | less⟩ | ⟨-, full, slot, found, rfl⟩
    · obtain ⟨slot, mem, same⟩ := known
      have dropped := filter_length_lt mem
      rw [same] at dropped
      have := h.size
      omega
    · have := h.capacity
      omega
    · have dropped := filter_length_lt (victim_spec found).1
      have := h.capacity
      omega
  · intro slot mem
    rw [wrote]
    rcases List.mem_append.mp mem with old | new
    · obtain ⟨still, other⟩ := List.mem_filter.mp old
      obtain ⟨front, back, order, last, seq⟩ := h.wrote slot (sublist.subset still)
      refine ⟨front, back ++ [(idTag, info)], by simp [order], fun w mem => ?_, seq⟩
      rcases List.mem_append.mp mem with before | now
      · exact last w before
      · rw [List.mem_singleton.mp now]
        exact Ne.symm (of_decide_eq_true other)
    · rw [List.mem_singleton.mp new]
      exact ⟨writes ops, [], rfl, nofun, h.counter⟩

theorem run_kept (positive : 1 ≤ c) (ops : List Op) : Kept c ops (run c ops) := by
  induction ops using List.reverseRecOn with
  | nil => exact ⟨rfl, rfl, List.nodup_nil, Nat.zero_le _, nofun⟩
  | append_singleton ops op ih =>
    rw [run_append]
    cases op with
    | remember idTag info now => exact ih.remember positive idTag info now
    | clear now =>
      have wrote : writes (ops ++ [.clear now]) = writes ops := (writes_append _ _).trans (List.append_nil _)
      exact ⟨ih.capacity, wrote ▸ ih.counter, List.nodup_nil, Nat.zero_le _, nofun⟩
    | lookup idTag now =>
      have wrote : writes (ops ++ [.lookup idTag now]) = writes ops := (writes_append _ _).trans (List.append_nil _)
      exact ⟨ih.capacity, wrote ▸ ih.counter, ih.tags, ih.size, wrote ▸ ih.wrote⟩

/-- As long as the counter has not wrapped, the number of an entry is that of its write. -/
theorem Kept.seq_of_write {ops : List Op} (h : Kept c ops cache) (few : (writes ops).length ≤ 2 ^ 64)
    {slot : CacheSlot} (mem : slot ∈ cache.entries) : (writes ops)[slot.seq]? = some (slot.idTag, slot.info) ∧
      ∃ front back, writes ops = front ++ (slot.idTag, slot.info) :: back ∧ (∀ w ∈ back, w.1 ≠ slot.idTag) ∧
        slot.seq = front.length := by
  obtain ⟨front, back, order, last, seq⟩ := h.wrote slot mem
  have bound : front.length < 2 ^ 64 := by
    rw [order] at few
    simp only [List.length_append, List.length_cons] at few
    omega
  rw [Nat.mod_eq_of_lt bound] at seq
  refine ⟨?_, front, back, order, last, seq⟩
  rw [order, seq]
  simp

theorem Kept.seqs {ops : List Op} (h : Kept c ops cache) (few : (writes ops).length ≤ 2 ^ 64) :
    (cache.entries.map (·.seq)).Nodup := by
  refine List.Nodup.map_on (fun a memA b memB same => ?_) (List.Nodup.of_map _ h.tags)
  have first := (h.seq_of_write few memA).1
  rw [same, (h.seq_of_write few memB).1] at first
  exact eq_of_nodup_map h.tags memA memB (congrArg Prod.fst (Option.some.inj first)).symm

/-- A lower number was written earlier. -/
theorem Kept.writtenSince {ops : List Op} (h : Kept c ops cache) (few : (writes ops).length ≤ 2 ^ 64)
    {slot other : CacheSlot} (mem : slot ∈ cache.entries) (mem' : other ∈ cache.entries) (earlier : slot.seq < other.seq) :
    WrittenSince ops slot.idTag other.idTag := by
  obtain ⟨-, front, back, order, last, seq⟩ := h.seq_of_write few mem
  have later := (h.seq_of_write few mem').1
  refine ⟨front, slot.info, back, order, last, other.info, ?_⟩
  obtain ⟨gap, eq⟩ : ∃ gap, other.seq = front.length + (gap + 1) := ⟨other.seq - front.length - 1, by omega⟩
  rw [order, eq, List.getElem?_append_right (by omega), Nat.add_sub_cancel_left, List.getElem?_cons_succ] at later
  exact List.mem_of_getElem? later

/-! ## What becomes of a denial -/

/-- An answer that does not authorize now does not later. -/
theorem isLiveAccept_mono {later : Instant} (dead : isLiveAccept info now = false) (order : now ≤ later) :
    isLiveAccept info later = false := by
  unfold isLiveAccept isAccepted normalizeIdTagInfo at dead ⊢
  dsimp only at dead ⊢
  cases expiry : info.expiryDate with
  | none => simpa [expiry] using dead
  | some expiry' =>
    by_cases past : expiry' ≤ now
    · simp [past.trans order]
    · have status : info.status ≠ .accepted := by simpa [expiry, past] using dead
      by_cases past' : expiry' ≤ later <;> simp [past', status]

/-- The last write of a key is unique. -/
theorem last_write_unique {front front' back back' : List (IdTag × IdTagInfo)} {info' : IdTagInfo}
    (same : front ++ (idTag, info) :: back = front' ++ (idTag, info') :: back') (last : ∀ w ∈ back, w.1 ≠ idTag)
    (last' : ∀ w ∈ back', w.1 ≠ idTag) : info' = info := by
  rcases List.append_eq_append_iff.mp same with ⟨gap, -, eq⟩ | ⟨gap, -, eq⟩
  · cases gap with
    | nil => exact (congrArg Prod.snd (List.cons.inj eq).1).symm
    | cons w gap =>
      have mem : (idTag, info') ∈ back := by
        rw [(List.cons.inj eq).2]
        simp
      exact absurd rfl (last _ mem)
  · cases gap with
    | nil => exact congrArg Prod.snd (List.cons.inj eq).1
    | cons w gap =>
      have mem : (idTag, info) ∈ back' := by
        rw [(List.cons.inj eq).2]
        simp
      exact absurd rfl (last' _ mem)

/-- An entry holds the latest answer. -/
theorem info_of_latest (positive : 1 ≤ c) {ops more : List Op} (latest : ∀ w ∈ writes more, w.1 ≠ idTag)
    {slot : CacheSlot} (mem : slot ∈ (run c ((ops ++ [.remember idTag info now]) ++ more)).entries)
    (own : slot.idTag = idTag) : slot.info = info := by
  obtain ⟨front, back, order, last, -⟩ := (run_kept positive _).wrote slot mem
  rw [writes_append, writes_append, own] at order
  have order : writes ops ++ (idTag, info) :: writes more = front ++ (idTag, slot.info) :: back := by
    rw [← order]
    simp [writes]
  exact last_write_unique order latest (own ▸ last)

/-- The local decision about an idTag outside the enabled list that the enabled cache holds. -/
theorem accepted_of_held {list : LocalAuthList} {config : ConfigRegistry}
    (unlisted : config.localAuthListEnabled = true → list.get idTag = none)
    (enabled : config.authorizationCacheEnabled = true) {seen : IdTagInfo} (held : cache.lookup idTag now = some seen)
    (accepted : (authorizeOffline idTag now list cache config).accepted = true) : isAccepted seen = true := by
  unfold authorizeOffline authorizeLocally at accepted
  split at accepted
  · cases accepted
  · have silent : (if config.localAuthListEnabled = true then list.get idTag else none) = none := by
      split
      · rename_i on
        exact unlisted on
      · rfl
    rw [silent] at accepted
    simpa [enabled, held, decided] using accepted

/-- How an entry is lost: the cache was cleared, or a write found nothing in it that authorizes. -/
def LosesDenial (cache : AuthorizationCache) (op : Op) : Prop :=
  (∃ now, op = .clear now) ∨
    ∃ idTag info now, op = .remember idTag info now ∧ ∀ slot ∈ cache.entries, live now slot = false

/-- `op` removes the entry of `idTag`. -/
def Removes (cache : AuthorizationCache) (op : Op) (idTag : IdTag) : Prop :=
  cache.Holds idTag ∧ ¬(cache.apply op).Holds idTag

/-- A denied idTag is accepted offline only after its entry was cleared, or was evicted from a cache without a live
`Accepted` entry. -/
theorem denial_lost (positive : 1 ≤ c) (ops more : List Op) {later : Instant}
    (dead : isLiveAccept info now = false) (timed : (now :: (more.map Op.time ++ [later])).Pairwise (· ≤ ·))
    (latest : ∀ w ∈ writes more, w.1 ≠ idTag) {config config' : ConfigRegistry}
    (enabled : config.authorizationCacheEnabled = true) {list : LocalAuthList}
    (unlisted : config'.localAuthListEnabled = true → list.get idTag = none)
    (enabled' : config'.authorizationCacheEnabled = true)
    (accepted : (authorizeOffline idTag later list
      ((applyOnlineIdTagInfo idTag info now (run c ops) config).1.after more) config').accepted = true) :
    ∃ earlier op rest, more = earlier ++ op :: rest ∧
      let cache := (applyOnlineIdTagInfo idTag info now (run c ops) config).1.after earlier
      cache.Removes op idTag ∧ cache.LosesDenial op := by
  have answered : (applyOnlineIdTagInfo idTag info now (run c ops) config).1 =
      run c (ops ++ [.remember idTag info now]) := by
    rw [run_append]
    unfold applyOnlineIdTagInfo
    rw [enabled]
    rfl
  rw [answered] at accepted ⊢
  have bounds : ∀ t ∈ more.map Op.time ++ [later], now ≤ t := (List.pairwise_cons.mp timed).1
  have kept := run_kept positive ops
  have holds : (run c (ops ++ [.remember idTag info now])).Holds idTag := by
    obtain ⟨slot, mem, own, -⟩ :=
      (lookup_remember (kept.positive positive) kept.within idTag info now now).1
    rw [run_append]
    exact ⟨slot, mem, own⟩
  have lost : ¬((run c (ops ++ [.remember idTag info now])).after more).Holds idTag := by
    rintro ⟨slot, mem, own⟩
    have present : (((run c (ops ++ [.remember idTag info now])).after more).entries.find? fun slot =>
        decide (slot.idTag = idTag)).isSome = true := List.find?_isSome.mpr ⟨slot, mem, decide_eq_true own⟩
    obtain ⟨found, seen⟩ := Option.isSome_iff_exists.mp present
    have own' : found.idTag = idTag := by simpa using List.find?_some seen
    have mem' := List.mem_of_find?_eq_some seen
    rw [← run_append] at mem'
    have held : ((run c (ops ++ [.remember idTag info now])).after more).lookup idTag later =
        some (normalizeIdTagInfo info later) := by
      unfold lookup
      rw [seen, Option.map_some, info_of_latest positive latest mem' own']
    have alive : isLiveAccept info later = true := accepted_of_held unlisted enabled' held accepted
    rw [isLiveAccept_mono dead (bounds later (by simp))] at alive
    cases alive
  obtain ⟨earlier, op, rest, rfl, before, gone⟩ := foldl_loses (f := apply) (P := fun cache => cache.Holds idTag) more holds lost
  refine ⟨earlier, op, rest, rfl, ⟨before, gone⟩, ?_⟩
  have order : now ≤ op.time := bounds _ (by simp)
  have current := run_kept positive ((ops ++ [.remember idTag info now]) ++ earlier)
  rw [run_append] at current
  have latest' : ∀ w ∈ writes earlier, w.1 ≠ idTag := fun w mem => latest w (by
    rw [writes_append]
    exact List.mem_append_left _ mem)
  obtain ⟨slot, mem, own⟩ := before
  cases op with
  | clear now' => exact .inl ⟨now', rfl⟩
  | lookup idTag' now' => exact absurd ⟨slot, mem, own⟩ gone
  | remember idTag' info' now' =>
    refine .inr ⟨idTag', info', now', rfl, ?_⟩
    have other : slot.idTag ≠ idTag' := by
      rw [own]
      exact (latest (idTag', info') (by simp [writes])).symm
    have first := victim_of_evicted (current.positive positive) current.within current.tags
      ⟨mem, other, by rw [own]; exact gone⟩
    have denied : live now' slot = false := by
      unfold live
      rw [info_of_latest positive latest' (by rw [run_append]; exact mem) own]
      exact isLiveAccept_mono dead order
    exact fun slot' mem' => dead_of_victim ((victim_spec first).2 slot' mem') denied

/-! ## The law -/

/-- Every cache after a history is within its capacity, a write is read back, an eviction takes an entry that does not
authorize only where none does, and a denial is lost in no other way. For the first 2^64 writes the numbers are
distinct, and among the candidates the one that was written longest ago goes. -/
theorem cache_lawful (positive : 1 ≤ c) (ops : List Op) :
    (run c ops).entries.length ≤ c ∧
    (∀ idTag info now,
      (∃ slot ∈ ((run c ops).remember idTag info now).entries, slot.idTag = idTag ∧ slot.info = info) ∧
      (∀ later, ((run c ops).remember idTag info now).lookup idTag later = some (normalizeIdTagInfo info later)) ∧
      ∀ slot, (run c ops).Evicted idTag info now slot →
        (live now slot = false → ∀ other ∈ (run c ops).entries, live now other = false) ∧
        ((writes ops).length ≤ 2 ^ 64 → ∀ other ∈ (run c ops).entries, other ≠ slot → live now other = live now slot →
          WrittenSince ops slot.idTag other.idTag)) ∧
    ((writes ops).length ≤ 2 ^ 64 → ((run c ops).entries.map (·.seq)).Nodup) ∧
    ∀ (more : List Op) idTag info now later (config config' : ConfigRegistry) (list : LocalAuthList),
      config.authorizationCacheEnabled = true → config'.authorizationCacheEnabled = true →
      (config'.localAuthListEnabled = true → list.get idTag = none) → isLiveAccept info now = false →
      (now :: (more.map Op.time ++ [later])).Pairwise (· ≤ ·) → (∀ w ∈ writes more, w.1 ≠ idTag) →
      (authorizeOffline idTag later list
        ((applyOnlineIdTagInfo idTag info now (run c ops) config).1.after more) config').accepted = true →
      ∃ earlier op rest, more = earlier ++ op :: rest ∧
        let cache := (applyOnlineIdTagInfo idTag info now (run c ops) config).1.after earlier
        cache.Removes op idTag ∧ cache.LosesDenial op := by
  have kept := run_kept positive ops
  refine ⟨kept.size, fun idTag info now => ⟨?_, fun later => ?_, fun slot evicted => ?_⟩, kept.seqs, ?_⟩
  · exact (lookup_remember (kept.positive positive) kept.within idTag info now now).1
  · exact (lookup_remember (kept.positive positive) kept.within idTag info now later).2
  · have first := victim_of_evicted (kept.positive positive) kept.within kept.tags evicted
    obtain ⟨mem, top⟩ := victim_spec first
    refine ⟨fun dead other mem' => dead_of_victim (top other mem') dead, fun few other mem' differs same => ?_⟩
    have older := seq_le_of_victim (top other mem') same
    have apart : slot.seq ≠ other.seq := fun one => differs (eq_of_nodup_map (kept.seqs few) mem' mem one.symm)
    exact kept.writtenSince few mem mem' (lt_of_le_of_ne older apart)
  · intro more idTag info now later config config' list enabled enabled' unlisted dead timed latest accepted
    exact denial_lost positive ops more dead timed latest enabled unlisted enabled' accepted

/-- A denial that a write to a full cache evicts. -/
theorem cache_lawful_evicted :
    let denied : IdTagInfo := { status := .blocked }
    let more : List Op := [.remember { chars := ['B'] } { status := .accepted } 2]
    let first := (applyOnlineIdTagInfo { chars := ['A'] } denied 1 (run 1 []) {}).1
    (authorizeOffline { chars := ['A'] } 3 {} (first.after more) {}).accepted = true ∧
      ∃ earlier op rest, more = earlier ++ op :: rest ∧
        (first.after earlier).Removes op { chars := ['A'] } ∧ (first.after earlier).LosesDenial op := by
  intro denied more first
  have accepted : (authorizeOffline { chars := ['A'] } 3 {} (first.after more) {}).accepted = true := by decide
  refine ⟨accepted, ?_⟩
  exact (cache_lawful (Nat.le_refl 1) []).2.2.2 more { chars := ['A'] } denied 1 3 {} {} {} rfl rfl (fun _ => rfl) (by decide)
    (by decide) (by decide) accepted

/-- The history that writes `A` once and then `B`, over and over. -/
def rewriting (n : Nat) : List Op :=
  .remember { chars := ['A'] } { status := .accepted } 0 ::
    List.replicate n (.remember { chars := ['B'] } { status := .accepted } 0)

theorem run_rewriting (n : Nat) : run 2 (rewriting (n + 1)) =
    { capacity := 2, nextSeq := (n + 2) % 2 ^ 64
      entries := [{ idTag := { chars := ['A'] }, info := { status := .accepted }, seq := 0 },
        { idTag := { chars := ['B'] }, info := { status := .accepted }, seq := (n + 1) % 2 ^ 64 }] } := by
  induction n with
  | zero => rfl
  | succ n ih =>
    have split : rewriting (n + 1 + 1) =
        rewriting (n + 1) ++ [.remember { chars := ['B'] } { status := .accepted } 0] := by
      unfold rewriting
      rw [List.replicate_succ', List.cons_append]
    rw [split, run_append, ih]
    have counter : ((n + 2) % 2 ^ 64 + 1) % 2 ^ 64 = (n + 1 + 2) % 2 ^ 64 := by omega
    rw [← counter]
    rfl

/-- All of it happens at one time. -/
theorem times_rewriting (n : Nat) : ((rewriting n).map Op.time).Pairwise (· ≤ ·) := by
  have still : (rewriting n).map Op.time = List.replicate (n + 1) 0 := by
    unfold rewriting
    rw [List.map_cons, List.map_replicate, List.replicate_succ]
    rfl
  rw [still, List.pairwise_replicate]
  exact .inr (Int.le_refl 0)

/-- The counter wraps: after 2^64 more writes `B` has the number of `A`. -/
theorem seqs_repeat : ¬∀ (c : Nat) (ops : List Op), 1 ≤ c → (ops.map Op.time).Pairwise (· ≤ ·) →
    ((run c ops).entries.map (·.seq)).Nodup := by
  intro distinct
  have nodup := distinct 2 (rewriting (2 ^ 64 - 1 + 1)) (by decide) (times_rewriting _)
  rw [run_rewriting] at nodup
  simp at nodup

end AuthorizationCache

end KirbyOcpp
