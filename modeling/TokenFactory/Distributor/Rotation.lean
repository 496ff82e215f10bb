import TokenFactory.Data.Cycle
import TokenFactory.Distributor.Disabled

namespace TokenFactory.Distributor

open Data

/-! The key that a request uses: `GetNextEnabledKey`. -/

inductive KeyError where
  | noKeys
  | noEnabledKeys
  | getChannelFailed (reason : String)
deriving DecidableEq

namespace KeyError

def message : KeyError → String
  | .noKeys => "no keys available"
  | .noEnabledKeys => "no enabled keys"
  | .getChannelFailed reason => reason

def code : KeyError → String
  | .noKeys | .noEnabledKeys => "channel:no_available_key"
  | .getChannelFailed _ => "get_channel_failed"

def skipRetry : KeyError → Bool
  | .noKeys | .noEnabledKeys => false
  | .getChannelFailed _ => true

end KeyError

abbrev KeyChoice := Except KeyError (String × Nat)

/-- A key without a status is enabled. -/
def ChannelInfo.getStatus (info : ChannelInfo) (index : Nat) : ChannelStatus :=
  (info.multiKeyStatusList.lookup index).getD .enabled

def ChannelInfo.keyEnabled (info : ChannelInfo) (index : Nat) : Bool := info.getStatus index = .enabled

def ChannelInfo.pollingStart (info : ChannelInfo) (size : Nat) : Nat :=
  if info.multiKeyPollingIndex < 0 ∨ info.multiKeyPollingIndex ≥ size then 0
  else info.multiKeyPollingIndex.toNat

namespace ChannelRow

variable (decodeArray : String → Option (List String)) (row : ChannelRow)

def enabledIdx : List Nat := (List.range (row.getKeys decodeArray).length).filter row.info.keyEnabled

def choose (index : Nat) : KeyChoice := .ok ((row.getKeys decodeArray).getD index "", index)

/-- The answers for which the lock of the channel is not taken. -/
def answerWithoutLock : Option KeyChoice :=
  if ¬ row.info.isMultiKey then some (.ok (row.key, 0))
  else if row.getKeys decodeArray = [] then some (.error .noKeys)
  else none

/-- The answers for which the polling index is not read. `draw` is the random number. -/
def answerWithoutPolling (draw : Nat) : Option KeyChoice :=
  let enabledIdx := row.enabledIdx decodeArray
  if enabledIdx = [] then some (.error .noEnabledKeys)
  else
    match row.info.multiKeyMode with
    | .random => some (row.choose decodeArray (enabledIdx.getD (draw % enabledIdx.length) 0))
    | .polling => none

/-- The next key in turn, and the channel with the index behind it. `saved` is the
information that the polling index is read from. -/
def poll (saved : ChannelInfo) : KeyChoice × ChannelRow :=
  let size := (row.getKeys decodeArray).length
  match scan row.info.keyEnabled size (saved.pollingStart size) with
  | some idx =>
    (row.choose decodeArray idx, { row with info.multiKeyPollingIndex := ((idx + 1) % size : Nat) })
  | none => (row.choose decodeArray ((row.enabledIdx decodeArray).getD 0 0), row)

def getNextEnabledKey (draw : Nat) (saved : Except String ChannelInfo) : KeyChoice × ChannelRow :=
  match row.answerWithoutLock decodeArray with
  | some answer => (answer, row)
  | none =>
    match row.answerWithoutPolling decodeArray draw with
    | some answer => (answer, row)
    | none =>
      match saved with
      | .error reason => (.error (.getChannelFailed reason), row)
      | .ok info => row.poll decodeArray info

theorem poll_row (saved : ChannelInfo) :
    ∃ index, (row.poll decodeArray saved).2 = { row with info.multiKeyPollingIndex := index } := by
  unfold poll
  dsimp only
  split
  · exact ⟨_, rfl⟩
  · exact ⟨row.info.multiKeyPollingIndex, rfl⟩

theorem getNextEnabledKey_row (draw : Nat) (saved : Except String ChannelInfo) :
    ∃ index, (row.getNextEnabledKey decodeArray draw saved).2 =
      { row with info.multiKeyPollingIndex := index } := by
  unfold getNextEnabledKey
  split
  · exact ⟨row.info.multiKeyPollingIndex, rfl⟩
  · split
    · exact ⟨row.info.multiKeyPollingIndex, rfl⟩
    · split
      · exact ⟨row.info.multiKeyPollingIndex, rfl⟩
      · exact poll_row decodeArray row _

theorem getNextEnabledKey_id (draw : Nat) (saved : Except String ChannelInfo) :
    (row.getNextEnabledKey decodeArray draw saved).2.id = row.id := by
  obtain ⟨index, same⟩ := getNextEnabledKey_row decodeArray row draw saved
  rw [same]
  rfl

end ChannelRow

theorem ChannelInfo.pollingStart_lt (info : ChannelInfo) {size : Nat} (positive : 0 < size) :
    info.pollingStart size < size := by
  unfold ChannelInfo.pollingStart
  split
  · exact positive
  · omega

namespace ChannelCache

variable (decodeArray : String → Option (List String))

def saveChannelInfo (cache : ChannelCache) (id : Int) (info : ChannelInfo) : ChannelCache :=
  { cache with
    channels := cache.channels.modify id (fun row => { row with info }) fun _ => rfl
    stored := update_positive cache.stored }

/-- `CacheGetChannel`, then `GetNextEnabledKey` of that channel with nobody else around. -/
def nextEnabledKey (cache : ChannelCache) (id : Int) (draw : Nat) : KeyChoice × ChannelCache :=
  if cache.memoryCacheEnabled then
    match cache.channelsIDM.lookup id with
    | none => (.error (.getChannelFailed s!"渠道# {id}，已不存在"), cache)
    | some row =>
      ((row.getNextEnabledKey decodeArray draw (.ok row.info)).1,
        cache.changeCached id (fun row => (row.getNextEnabledKey decodeArray draw (.ok row.info)).2)
          fun row => row.getNextEnabledKey_id decodeArray draw (.ok row.info))
  else
    match cache.channels.lookup id with
    | none => (.error (.getChannelFailed "record not found"), cache)
    | some row =>
      ((row.getNextEnabledKey decodeArray draw (.ok row.info)).1,
        cache.saveChannelInfo id (row.getNextEnabledKey decodeArray draw (.ok row.info)).2.info)

def nextEnabledKeys (cache : ChannelCache) (id : Int) : List Nat → List KeyChoice
  | [] => []
  | draw :: rest =>
    (cache.nextEnabledKey decodeArray id draw).1 ::
      nextEnabledKeys (cache.nextEnabledKey decodeArray id draw).2 id rest

end ChannelCache

/-- A channel that polls and has an enabled key. -/
structure ChannelRow.Polls (decodeArray : String → Option (List String)) (row : ChannelRow) : Prop where
  multiKey : row.info.isMultiKey = true
  polling : row.info.multiKeyMode = .polling
  able : row.enabledIdx decodeArray ≠ []

namespace ChannelRow.Polls

variable {decodeArray : String → Option (List String)} {row : ChannelRow}

section
variable (polls : row.Polls decodeArray)
include polls

theorem keys_ne_nil : row.getKeys decodeArray ≠ [] := by
  intro empty
  apply polls.able
  simp [ChannelRow.enabledIdx, empty]

theorem getNextEnabledKey_eq (draw : Nat) (info : ChannelInfo) :
    row.getNextEnabledKey decodeArray draw (.ok info) = row.poll decodeArray info := by
  have locked : row.answerWithoutLock decodeArray = none := by
    simp [ChannelRow.answerWithoutLock, polls.multiKey, polls.keys_ne_nil]
  have polled : row.answerWithoutPolling decodeArray draw = none := by
    simp [ChannelRow.answerWithoutPolling, polls.polling, polls.able]
  simp only [ChannelRow.getNextEnabledKey, locked, polled]

theorem scan_isSome (start : Nat) :
    ∃ idx, scan row.info.keyEnabled (row.getKeys decodeArray).length start = some idx := by
  cases found : scan row.info.keyEnabled (row.getKeys decodeArray).length start with
  | some idx => exact ⟨idx, rfl⟩
  | none =>
    have refused := List.filter_eq_nil_iff.mpr (List.find?_eq_none.mp found)
    have empty : (row.enabledIdx decodeArray).length = 0 := by
      rw [ChannelRow.enabledIdx, ← length_filter_circle _ _ start, refused, List.length_nil]
    exact absurd (List.eq_nil_of_length_eq_zero empty) polls.able

theorem advance (index : Int) :
    ChannelRow.Polls decodeArray { row with info.multiKeyPollingIndex := index } :=
  ⟨polls.multiKey, polls.polling, polls.able⟩

end

end ChannelRow.Polls

namespace ChannelCache

variable {decodeArray : String → Option (List String)} {cache : ChannelCache} {id : Int} {row : ChannelRow}

theorem nextEnabledKey_polls (caching : cache.memoryCacheEnabled = true)
    (found : cache.channelsIDM.lookup id = some row) (polls : row.Polls decodeArray) (draw idx : Nat)
    (hit : scan row.info.keyEnabled (row.getKeys decodeArray).length
      (row.info.pollingStart (row.getKeys decodeArray).length) = some idx) :
    (cache.nextEnabledKey decodeArray id draw).1 = row.choose decodeArray idx ∧
      (cache.nextEnabledKey decodeArray id draw).2.memoryCacheEnabled = true ∧
      (cache.nextEnabledKey decodeArray id draw).2.channelsIDM.lookup id = some { row with
          info.multiKeyPollingIndex := ((idx + 1) % (row.getKeys decodeArray).length : Nat) } := by
  have outcome : row.getNextEnabledKey decodeArray draw (.ok row.info) =
      (row.choose decodeArray idx, { row with
        info.multiKeyPollingIndex := ((idx + 1) % (row.getKeys decodeArray).length : Nat) }) := by
    rw [polls.getNextEnabledKey_eq, ChannelRow.poll]
    simp only [hit]
  simp only [nextEnabledKey, if_pos caching, found, changeCached, outcome, true_and]
  refine ⟨caching, ?_⟩
  rw [Table.lookup_modify, found]
  simp [outcome]

theorem pollingStart_behind (info : ChannelInfo) {idx size : Nat} (positive : 0 < size) :
    { info with multiKeyPollingIndex := ((idx + 1) % size : Nat) }.pollingStart size = (idx + 1) % size := by
  have inside := Nat.mod_lt (idx + 1) positive
  unfold ChannelInfo.pollingStart
  dsimp only
  rw [if_neg (by omega)]
  rfl

theorem nextEnabledKeys_eq_scans (caching : cache.memoryCacheEnabled = true)
    (found : cache.channelsIDM.lookup id = some row)
    (polls : row.Polls decodeArray) (draws : List Nat) :
    cache.nextEnabledKeys decodeArray id draws =
      (scans row.info.keyEnabled (row.getKeys decodeArray).length draws.length
        (row.info.pollingStart (row.getKeys decodeArray).length)).map (row.choose decodeArray) := by
  induction draws generalizing cache row with
  | nil => rfl
  | cons draw rest ih =>
    obtain ⟨idx, hit⟩ := polls.scan_isSome (row.info.pollingStart (row.getKeys decodeArray).length)
    obtain ⟨answer, still, later⟩ := nextEnabledKey_polls caching found polls draw idx hit
    have positive := List.length_pos_of_ne_nil polls.keys_ne_nil
    rw [nextEnabledKeys, answer, ih still later (polls.advance _)]
    simp only [List.length_cons, scans, hit, List.map_cons]
    congr 2
    exact congrArg (scans _ _ _) (pollingStart_behind row.info positive)

end ChannelCache

/-- As many calls as there are enabled keys hand out each of them once: from the polling index
on in the order of the list, then those before it. -/
theorem polling_round_robin (decodeArray : String → Option (List String)) (cache : ChannelCache) (id : Int)
    (row : ChannelRow) (draws : List Nat) (caching : cache.memoryCacheEnabled = true)
    (found : cache.channelsIDM.lookup id = some row) (multiKey : row.info.isMultiKey = true)
    (polling : row.info.multiKeyMode = .polling) (able : row.enabledIdx decodeArray ≠ [])
    (calls : draws.length = (row.enabledIdx decodeArray).length) :
    let start := row.info.pollingStart (row.getKeys decodeArray).length
    cache.nextEnabledKeys decodeArray id draws =
      ((row.enabledIdx decodeArray).filter (fun index => start ≤ index) ++
        (row.enabledIdx decodeArray).filter fun index => index < start).map (row.choose decodeArray) := by
  intro start
  have polls : row.Polls decodeArray := ⟨multiKey, polling, able⟩
  have inside : start < (row.getKeys decodeArray).length :=
    row.info.pollingStart_lt (List.length_pos_of_ne_nil polls.keys_ne_nil)
  have turns : draws.length =
      ((circle (row.getKeys decodeArray).length start).filter row.info.keyEnabled).length := by
    rw [length_filter_circle, calls, ChannelRow.enabledIdx]
  rw [ChannelCache.nextEnabledKeys_eq_scans caching found polls, scans_eq_take _ turns.le, turns, List.take_length,
    circle_eq_append inside, List.filter_append]
  simp only [ChannelRow.enabledIdx, List.filter_filter, Bool.and_comm]

def threeKeys : ChannelRow where
  channel := { ChannelStore.weighed 1 0 0 with models := "gpt" }
  status := .enabled
  group := "default"
  key := "sk-1\nsk-2\nsk-3"
  info :=
    { isMultiKey := true
      multiKeySize := 3
      multiKeyStatusList := AList.insert 1 .autoDisabled ∅
      multiKeyPollingIndex := 2
      multiKeyMode := .polling }

theorem polling_round_robin_threeKeys :
    (ChannelCache.oneRow "gpt" threeKeys.key threeKeys.info).load.nextEnabledKeys ChannelCache.noArrays 1 [0, 0] =
      [.ok ("sk-3", 2), .ok ("sk-1", 0)] := by
  have found : (ChannelCache.oneRow "gpt" threeKeys.key threeKeys.info).load.channelsIDM.lookup 1 =
      some (ChannelCache.loadRow ChannelCache.noArrays .empty threeKeys) := by rfl
  have able : (ChannelCache.loadRow ChannelCache.noArrays .empty threeKeys).enabledIdx ChannelCache.noArrays =
      [0, 2] := by decide +kernel
  have answers := polling_round_robin ChannelCache.noArrays _ 1 _ [0, 0] rfl found rfl rfl
    (by rw [able]; decide) (by rw [able]; rfl)
  rw [answers]
  decide +kernel

end TokenFactory.Distributor
