import TokenFactory.Distributor.Disabled

namespace TokenFactory.Distributor

open Data Go Relay

/-! The keys of a channel: which of them are disabled, and when the channel is. -/

def ChannelInfo.marked (info : ChannelInfo) (index : Nat) : Prop := index ∈ info.multiKeyStatusList

instance (info : ChannelInfo) (index : Nat) : Decidable (info.marked index) :=
  inferInstanceAs (Decidable (index ∈ info.multiKeyStatusList))

theorem marks_full {info : ChannelInfo} {size : Nat} (inside : ∀ index, info.marked index → index < size) :
    size ≤ info.multiKeyStatusList.entries.length ↔ ∀ index < size, info.marked index := by
  have counted : info.multiKeyStatusList.entries.length = info.multiKeyStatusList.keys.toFinset.card := by
    rw [List.toFinset_card_of_nodup info.multiKeyStatusList.keys_nodup]
    exact (List.length_map _).symm
  have subset : info.multiKeyStatusList.keys.toFinset ⊆ Finset.range size := by
    intro index member
    exact Finset.mem_range.mpr (inside index (AList.mem_keys.mpr (List.mem_toFinset.mp member)))
  rw [counted]
  constructor
  · intro full index below
    have all := Finset.eq_of_subset_of_card_le subset (by rwa [Finset.card_range])
    have member := all.symm ▸ Finset.mem_range.mpr below
    exact AList.mem_keys.mpr (List.mem_toFinset.mp member)
  · intro all
    have superset : Finset.range size ⊆ info.multiKeyStatusList.keys.toFinset := by
      intro index member
      exact List.mem_toFinset.mpr (AList.mem_keys.mp (all index (Finset.mem_range.mp member)))
    simpa using Finset.card_le_card superset

/-- The status that the last call on the channel gave the key. -/
def lastNamed (id : Int) (key : String) (calls : List StatusCall) : Option ChannelStatus :=
  (calls.reverse.find? fun call => call.channelId = id ∧ call.usingKey = key).map StatusCall.status

theorem lastNamed_append (id : Int) (key : String) (calls : List StatusCall) (call : StatusCall) :
    lastNamed id key (calls ++ [call]) =
      if call.channelId = id ∧ call.usingKey = key then some call.status else lastNamed id key calls := by
  unfold lastNamed
  by_cases named : call.channelId = id ∧ call.usingKey = key
  · simp [named]
  · simp [named]

section
variable (decodeArray : String → Option (List String))

def storedStep (call : StatusCall) (row : ChannelRow) : ChannelRow :=
  if row.status = call.status then row else ChannelCache.changeStored decodeArray call row

/-- What the bookkeeping can record: a listed key that is disabled, or any key once the
channel is disabled, and an enabled key that is enabled again. -/
def ChannelRow.records (row : ChannelRow) (call : StatusCall) : Bool :=
  if call.status = .enabled then
    row.status = .enabled &&
      !(row.info.marked (keyIndex (row.getKeys decodeArray) call.usingKey) &&
        call.usingKey ∈ row.getKeys decodeArray)
  else row.status = .autoDisabled || call.usingKey ∈ row.getKeys decodeArray

/-- The marks are those that the calls ask for, and the channel is disabled when every key is. -/
structure Recorded (id : Int) (keys : List String) (calls : List StatusCall) (row : ChannelRow) : Prop where
  multiKey : row.info.isMultiKey = true
  listed : row.getKeys decodeArray = keys
  size : row.info.multiKeySize = keys.length
  marks : ∀ index, row.info.marked index ↔
    ∃ key, keys[index]? = some key ∧ lastNamed id key calls = some .autoDisabled
  status : row.status = if ∀ index < keys.length, row.info.marked index then .autoDisabled else .enabled

variable {decodeArray} {id : Int} {keys : List String} {calls : List StatusCall} {row : ChannelRow}
  {call : StatusCall}

section
variable (recorded : Recorded decodeArray id keys calls row)
include recorded

theorem Recorded.all (disabled : row.status = .autoDisabled) :
    ∀ index < keys.length, row.info.marked index := by
  by_contra free
  have status := recorded.status
  rw [if_neg free, disabled] at status
  cases status

theorem Recorded.enabled (undisabled : row.status ≠ .autoDisabled) : row.status = .enabled := by
  have status := recorded.status
  split at status
  · exact absurd status undisabled
  · exact status

theorem Recorded.congr {later : List StatusCall}
    (same : ∀ key ∈ keys, lastNamed id key later = some .autoDisabled ↔
      lastNamed id key calls = some .autoDisabled) : Recorded decodeArray id keys later row := by
  refine ⟨recorded.multiKey, recorded.listed, recorded.size, fun index => ?_, recorded.status⟩
  rw [recorded.marks]
  constructor
  · rintro ⟨key, found, last⟩
    exact ⟨key, found, (same key (List.mem_of_getElem? found)).mpr last⟩
  · rintro ⟨key, found, last⟩
    exact ⟨key, found, (same key (List.mem_of_getElem? found)).mp last⟩

theorem Recorded.elsewhere (apart : call.channelId ≠ id) :
    Recorded decodeArray id keys (calls ++ [call]) row := by
  refine recorded.congr fun key _ => ?_
  rw [lastNamed_append, if_neg fun both => apart both.1]

end

theorem keyIndex_eq (nodup : keys.Nodup) {key : String} (listed : key ∈ keys) (index : Nat) :
    keys[index]? = some key ↔ index = keyIndex keys key := by
  unfold keyIndex
  cases position : keys.idxOf? key with
  | none => exact absurd listed (List.idxOf?_eq_none_iff.mp position)
  | some found =>
    obtain ⟨inside, held, _⟩ := List.idxOf?_eq_some_iff.mp position
    constructor
    · intro same
      obtain ⟨bounded, equal⟩ := List.getElem?_eq_some_iff.mp same
      exact nodup.getElem_inj_iff.mp (equal.trans held.symm)
    · rintro rfl
      exact List.getElem?_eq_some_iff.mpr ⟨inside, held⟩

theorem markKey_marked (info : ChannelInfo) (place index : Nat) {status : ChannelStatus}
    (disabling : status ≠ .enabled) (reason : String) (now : Int) :
    (info.markKey place status reason now).marked index ↔ index = place ∨ info.marked index := by
  unfold ChannelInfo.markKey ChannelInfo.marked
  rw [if_neg disabling]
  exact AList.mem_insert _

section
variable (recorded : Recorded decodeArray id keys calls row)
include recorded

theorem Recorded.marks_disable (nodup : keys.Nodup)
    (named : call.channelId = id) (disabling : call.status = .autoDisabled) (listed : call.usingKey ∈ keys)
    (index : Nat) :
    (row.info.markKey (keyIndex keys call.usingKey) call.status call.reason call.now).marked index ↔
      ∃ key, keys[index]? = some key ∧ lastNamed id key (calls ++ [call]) = some .autoDisabled := by
  have disabled : call.status ≠ .enabled := by
    rw [disabling]
    decide
  rw [markKey_marked _ _ _ disabled, recorded.marks]
  constructor
  · rintro (here | ⟨key, found, last⟩)
    · refine ⟨call.usingKey, (keyIndex_eq nodup listed index).mpr here, ?_⟩
      rw [lastNamed_append, if_pos ⟨named, rfl⟩, disabling]
    · refine ⟨key, found, ?_⟩
      rw [lastNamed_append, disabling, last, ite_self]
  · rintro ⟨key, found, last⟩
    by_cases same : call.usingKey = key
    · subst same
      exact .inl ((keyIndex_eq nodup listed index).mp found)
    · rw [lastNamed_append, if_neg fun both => same both.2] at last
      exact .inr ⟨key, found, last⟩

theorem Recorded.disable (nodup : keys.Nodup)
    (named : call.channelId = id) (disabling : call.status = .autoDisabled) (listed : call.usingKey ∈ keys)
    (enabled : row.status = .enabled) :
    Recorded decodeArray id keys (calls ++ [call]) (handlerMultiKeyUpdate decodeArray call row) := by
  have marks := recorded.marks_disable nodup named disabling listed
  have kept : (row.info.markKey (keyIndex keys call.usingKey) call.status call.reason call.now).multiKeySize =
      keys.length ∧
      (row.info.markKey (keyIndex keys call.usingKey) call.status call.reason call.now).isMultiKey = true := by
    unfold ChannelInfo.markKey
    split <;> exact ⟨recorded.size, recorded.multiKey⟩
  unfold handlerMultiKeyUpdate
  dsimp only
  rw [recorded.listed, if_neg (List.ne_nil_of_mem listed)]
  generalize row.info.markKey (keyIndex keys call.usingKey) call.status call.reason call.now = info
    at marks kept
  have inside (index : Nat) (marked : info.marked index) : index < keys.length := by
    obtain ⟨key, found, _⟩ := (marks index).mp marked
    exact (List.getElem?_eq_some_iff.mp found).1
  have full := marks_full inside
  rw [← Nat.cast_le (α := Int), ← kept.1] at full
  split
  case isTrue many => exact ⟨kept.2, recorded.listed, kept.1, marks, (if_pos (full.mp many)).symm⟩
  case isFalse few =>
    exact ⟨kept.2, recorded.listed, kept.1, marks, enabled.trans (if_neg fun all => few (full.mpr all)).symm⟩

theorem Recorded.step (nodup : keys.Nodup)
    (named : call.channelId = id) (known : call.status = .enabled ∨ call.status = .autoDisabled)
    (records : row.records decodeArray call = true) :
    Recorded decodeArray id keys (calls ++ [call]) (storedStep decodeArray call row) := by
  unfold storedStep ChannelCache.changeStored
  rw [if_pos recorded.multiKey]
  unfold ChannelRow.records at records
  rw [recorded.listed] at records
  rcases known with enabling | disabling
  · rw [if_pos enabling] at records
    simp only [Bool.and_eq_true, decide_eq_true_eq, Bool.not_eq_true', Bool.and_eq_false_imp] at records
    obtain ⟨enabled, unmarked⟩ := records
    rw [if_pos (enabled.trans enabling.symm)]
    refine recorded.congr fun key member => ?_
    rw [lastNamed_append, enabling]
    split
    case isTrue same =>
      obtain ⟨_, rfl⟩ := same
      have before : lastNamed id call.usingKey calls ≠ some .autoDisabled := by
        intro last
        have found := (keyIndex_eq nodup member _).mpr rfl
        have absent := unmarked ((recorded.marks _).mpr ⟨_, found, last⟩)
        simp [member] at absent
      simp [before]
    case isFalse other => exact Iff.rfl
  · rw [if_neg (by rw [disabling]; decide)] at records
    simp only [Bool.or_eq_true, decide_eq_true_eq] at records
    by_cases disabled : row.status = .autoDisabled
    · rw [if_pos (disabled.trans disabling.symm)]
      refine recorded.congr fun key member => ?_
      rw [lastNamed_append, disabling]
      split
      case isTrue same =>
        obtain ⟨index, inside, found⟩ := List.getElem_of_mem member
        obtain ⟨other, held, last⟩ := (recorded.marks index).mp (recorded.all disabled index inside)
        rw [List.getElem?_eq_getElem inside, found, Option.some.injEq] at held
        subst held
        simp [last]
      case isFalse other => exact Iff.rfl
    · have enabled := recorded.enabled disabled
      rw [if_neg fun same => disabled (same.trans disabling)]
      exact recorded.disable nodup named disabling (records.resolve_left disabled) enabled

end

/-- The channel is a stored one, and the cache, if there is one, holds it with several keys. -/
structure Tracked (decodeArray : String → Option (List String)) (id : Int) (keys : List String)
    (calls : List StatusCall) (cache : ChannelCache) : Prop where
  cached : cache.memoryCacheEnabled = true →
    ∃ row, cache.channelsIDM.lookup id = some row ∧ row.info.isMultiKey = true
  stored : ∃ row, cache.channels.lookup id = some row ∧ Recorded decodeArray id keys calls row

theorem Tracked.elsewhere {cache : ChannelCache} (tracked : Tracked decodeArray id keys calls cache)
    (apart : call.channelId ≠ id) : Tracked decodeArray id keys (calls ++ [call]) cache := by
  obtain ⟨row, found, recorded⟩ := tracked.stored
  exact ⟨tracked.cached, row, found, recorded.elsewhere apart⟩

theorem handlerMultiKeyUpdate_isMultiKey (decodeArray : String → Option (List String)) (call : StatusCall)
    (row : ChannelRow) : (handlerMultiKeyUpdate decodeArray call row).info.isMultiKey = row.info.isMultiKey := by
  have marked : (row.info.markKey (keyIndex (row.getKeys decodeArray) call.usingKey) call.status call.reason
      call.now).isMultiKey = row.info.isMultiKey := by
    unfold ChannelInfo.markKey
    split <;> rfl
  unfold handlerMultiKeyUpdate
  dsimp only
  split
  · rfl
  · split <;> exact marked

namespace ChannelCache

variable {cache : ChannelCache}

theorem storeStatus_lookup {row : ChannelRow} (found : cache.channels.lookup id = some row) (call : StatusCall) :
    (cache.storeStatus decodeArray call).2.channels.lookup id =
      some (if call.channelId = id then storedStep decodeArray call row else row) := by
  unfold storeStatus storedStep
  by_cases here : call.channelId = id
  · subst here
    rw [found, if_pos rfl]
    dsimp only
    split
    · exact found
    · rw [Table.lookup_modify, if_pos rfl, found]
      rfl
  · rw [if_neg here]
    cases other : cache.channels.lookup call.channelId with
    | none => exact found
    | some held =>
      dsimp only
      split
      · exact found
      · rw [Table.lookup_modify, if_neg (Ne.symm here), found]

theorem tracked_store {before : ChannelCache} (tracked : Tracked decodeArray id keys calls before)
    (nodup : keys.Nodup) (known : call.channelId = id → call.status = .enabled ∨ call.status = .autoDisabled)
    (records : ∀ row, before.channels.lookup id = some row → call.channelId = id →
      row.records decodeArray call = true) (same : cache.channels = before.channels)
    (cached : cache.memoryCacheEnabled = true →
      ∃ row, cache.channelsIDM.lookup id = some row ∧ row.info.isMultiKey = true) :
    Tracked decodeArray id keys (calls ++ [call]) (cache.storeStatus decodeArray call).2 := by
  obtain ⟨rows, _, caching⟩ := storeStatus_cache cache decodeArray call
  obtain ⟨row, found, recorded⟩ := tracked.stored
  refine ⟨fun on => ?_, ?_⟩
  · rw [rows]
    exact cached (caching ▸ on)
  · refine ⟨_, storeStatus_lookup (same ▸ found) call, ?_⟩
    split
    case isTrue here => exact recorded.step nodup here (known here) (records row found here)
    case isFalse elsewhere => exact recorded.elsewhere elsewhere

theorem cacheUpdateChannelStatus_other {changed : Int} (apart : id ≠ changed) (status : ChannelStatus) :
    (cache.cacheUpdateChannelStatus changed status).channelsIDM.lookup id = cache.channelsIDM.lookup id := by
  unfold cacheUpdateChannelStatus
  split
  · rfl
  · split
    all_goals
      simp only [changeCached, unlist]
      rw [Table.lookup_modify, if_neg apart]

theorem cacheUpdateChannelStatus_kept (cache : ChannelCache) (changed : Int) (status : ChannelStatus) :
    (cache.cacheUpdateChannelStatus changed status).channels = cache.channels ∧
      (cache.cacheUpdateChannelStatus changed status).memoryCacheEnabled = cache.memoryCacheEnabled := by
  unfold cacheUpdateChannelStatus
  split_ifs <;> exact ⟨rfl, rfl⟩

theorem updateChannelStatus_tracked (tracked : Tracked decodeArray id keys calls cache) (nodup : keys.Nodup)
    (known : call.channelId = id → call.status = .enabled ∨ call.status = .autoDisabled)
    (records : ∀ row, cache.channels.lookup id = some row → call.channelId = id →
      row.records decodeArray call = true) :
    Tracked decodeArray id keys (calls ++ [call]) (cache.updateChannelStatus decodeArray call).2 := by
  unfold updateChannelStatus
  split
  case isFalse uncached => exact tracked_store tracked nodup known records rfl tracked.cached
  case isTrue caching =>
    obtain ⟨own, held, multiKey⟩ := tracked.cached caching
    cases found : cache.channelsIDM.lookup call.channelId with
    | none =>
      have apart : call.channelId ≠ id := fun same => by simp [same, held] at found
      exact tracked.elsewhere apart
    | some row =>
      dsimp only
      split
      case isTrue several =>
        refine tracked_store tracked nodup known records rfl fun _ => ?_
        unfold changeCached
        rw [Table.lookup_modify, held]
        split
        · exact ⟨_, rfl, (handlerMultiKeyUpdate_isMultiKey decodeArray call own).trans multiKey⟩
        · exact ⟨own, rfl, multiKey⟩
      case isFalse one =>
        have apart : call.channelId ≠ id := by
          intro same
          rw [same, held] at found
          cases found
          exact one multiKey
        split
        · exact tracked.elsewhere apart
        · obtain ⟨rows, _⟩ := cacheUpdateChannelStatus_kept cache call.channelId call.status
          refine tracked_store tracked nodup known records rows fun _ => ?_
          rw [cacheUpdateChannelStatus_other (Ne.symm apart)]
          exact ⟨own, held, multiKey⟩

/-- The stored row can record the call, if the call is about it. -/
def recordable (decodeArray : String → Option (List String)) (id : Int) (cache : ChannelCache)
    (call : StatusCall) : Bool :=
  (cache.channels.lookup id).all fun row => call.channelId ≠ id || row.records decodeArray call

theorem updateAll_tracked (tracked : Tracked decodeArray id keys calls cache) (nodup : keys.Nodup)
    {later : List StatusCall}
    (known : ∀ call ∈ later, call.channelId = id → call.status = .enabled ∨ call.status = .autoDisabled)
    (recordable : Guarded (fun cache call => (cache.updateChannelStatus decodeArray call).2)
      (fun cache call => cache.recordable decodeArray id call = true) cache later) :
    Tracked decodeArray id keys (calls ++ later) (cache.updateAll decodeArray later) := by
  induction later generalizing calls cache with
  | nil =>
    rw [List.append_nil]
    exact tracked
  | cons call rest ih =>
    have records : ∀ row, cache.channels.lookup id = some row → call.channelId = id →
        row.records decodeArray call = true := by
      intro row found here
      simpa [ChannelCache.recordable, found, here] using recordable.1
    have next := updateChannelStatus_tracked tracked nodup (known call (.head _)) records
    have done := ih next (fun other among => known other (.tail _ among)) recordable.2
    rwa [List.append_assoc] at done

end ChannelCache

end

/-- As long as every call can be recorded, the marks are the keys that were last disabled,
and the channel is disabled exactly when all its keys are. -/
theorem multi_key_bookkeeping (decodeArray : String → Option (List String)) {cache : ChannelCache} {id : Int}
    {row : ChannelRow} (stored : cache.channels.lookup id = some row) (multiKey : row.info.isMultiKey = true)
    (cached : cache.memoryCacheEnabled = true →
      ∃ held, cache.channelsIDM.lookup id = some held ∧ held.info.isMultiKey = true)
    (nonempty : row.getKeys decodeArray ≠ []) (distinct : (row.getKeys decodeArray).Nodup)
    (size : row.info.multiKeySize = (row.getKeys decodeArray).length)
    (unmarked : row.info.multiKeyStatusList = ∅) (enabled : row.status = .enabled) {calls : List StatusCall}
    (known : ∀ call ∈ calls, call.channelId = id → call.status = .enabled ∨ call.status = .autoDisabled)
    (recordable : Guarded (fun cache call => (cache.updateChannelStatus decodeArray call).2)
      (fun cache call => cache.recordable decodeArray id call = true) cache calls) :
    ∃ after, (cache.updateAll decodeArray calls).channels.lookup id = some after ∧
      (∀ index, index ∈ after.info.multiKeyStatusList ↔
        ∃ key, (row.getKeys decodeArray)[index]? = some key ∧ lastNamed id key calls = some .autoDisabled) ∧
      (after.status = .autoDisabled ↔
        ∀ index < (row.getKeys decodeArray).length, index ∈ after.info.multiKeyStatusList) := by
  have unnamed (index : Nat) : ¬ row.info.marked index := by
    unfold ChannelInfo.marked
    rw [unmarked]
    exact AList.notMem_empty index
  have free : ¬ ∀ index < (row.getKeys decodeArray).length, row.info.marked index :=
    fun all => unnamed 0 (all 0 (List.length_pos_iff.mpr nonempty))
  have start : Recorded decodeArray id (row.getKeys decodeArray) [] row :=
    ⟨multiKey, rfl, size, fun index => by simp [unnamed, lastNamed], enabled.trans (if_neg free).symm⟩
  obtain ⟨after, found, recorded⟩ :=
    (ChannelCache.updateAll_tracked ⟨cached, row, stored, start⟩ distinct known recordable).stored
  refine ⟨after, found, recorded.marks, recorded.all, fun all => ?_⟩
  exact recorded.status.trans (if_pos all)

def naming (usingKey : String) (status : ChannelStatus) : StatusCall := ⟨1, usingKey, status, "", 0⟩

def storedAfter (calls : List StatusCall) : Option (List Nat × ChannelStatus) :=
  ((ChannelCache.twoKeys.load.updateAll ChannelCache.noArrays calls).channels.lookup 1).map fun row =>
    (row.info.multiKeyStatusList.keys, row.status)

/-- The second key is disabled after the first. -/
theorem multi_key_bookkeeping_twoKeys :
    ∃ after, (ChannelCache.twoKeys.load.updateAll ChannelCache.noArrays
        [naming "sk-1" .autoDisabled, naming "sk-2" .autoDisabled]).channels.lookup 1 = some after ∧
      after.status = .autoDisabled := by
  have recordable : Guarded (fun cache call => (cache.updateChannelStatus ChannelCache.noArrays call).2)
      (fun cache call => cache.recordable ChannelCache.noArrays 1 call = true) ChannelCache.twoKeys.load
      [naming "sk-1" .autoDisabled, naming "sk-2" .autoDisabled] := by decide +kernel
  obtain ⟨after, found, marks, status⟩ := multi_key_bookkeeping ChannelCache.noArrays rfl rfl
    (fun _ => ⟨_, rfl, rfl⟩) (by decide +kernel) (by decide +kernel) rfl rfl rfl (by decide +kernel) recordable
  refine ⟨after, found, status.mpr fun index below => (marks index).mpr ?_⟩
  have first : index = 0 ∨ index = 1 := by
    have two : index < 2 := below
    omega
  rcases first with rfl | rfl
  · exact ⟨"sk-1", rfl, rfl⟩
  · exact ⟨"sk-2", rfl, rfl⟩

/-- A key that is not listed marks the first one; a mark stays when its key is enabled again;
and a channel stays disabled when one of its keys is enabled again. -/
theorem multi_key_bookkeeping_lost :
    storedAfter [naming "sk-9" .autoDisabled] = some ([0], .enabled) ∧
      storedAfter [naming "sk-1" .autoDisabled, naming "sk-1" .enabled] = some ([0], .enabled) ∧
      storedAfter [naming "sk-1" .autoDisabled, naming "sk-2" .autoDisabled, naming "sk-1" .enabled] =
        some ([1], .autoDisabled) := by
  decide +kernel

end TokenFactory.Distributor
