import TokenFactory.Distributor.Channels

namespace TokenFactory.Distributor

open Data Go Relay

/-! The status of a channel, in its row and in the cache.

A channel with several keys keeps a status for each key that is disabled, by the index of
the key. The cache holds rows of its own: those that `InitChannelCache` has read, changed
since then by `UpdateChannelStatus`. -/

inductive ChannelStatus where
  | unknown
  | enabled
  | manuallyDisabled
  | autoDisabled
deriving DecidableEq

inductive MultiKeyMode where
  | random
  | polling
deriving DecidableEq

structure ChannelInfo where
  isMultiKey : Bool := false
  multiKeySize : Int := 0
  multiKeyStatusList : AList fun _ : Nat => ChannelStatus := ∅
  multiKeyDisabledReason : AList fun _ : Nat => String := ∅
  multiKeyDisabledTime : AList fun _ : Nat => Int := ∅
  multiKeyPollingIndex : Int := 0
  multiKeyMode : MultiKeyMode := .random
deriving DecidableEq

/-- A row: what the relay reads of the channel, and what the status depends on. The keys are
no column; the cache fills them in. -/
structure ChannelRow where
  channel : Channel
  status : ChannelStatus
  group : String
  key : String
  keys : List String := []
  info : ChannelInfo := {}
deriving DecidableEq

namespace ChannelRow

def id (row : ChannelRow) : Int := row.channel.id

def view (row : ChannelRow) : Channel :=
  { row.channel with enabled := row.status = .enabled, isMultiKey := row.info.isMultiKey }

def noteStatus (row : ChannelRow) (reason : String) (now : Int) : ChannelRow :=
  { row with
    channel.otherInfo :=
      (row.channel.otherInfo.set "status_reason" (.string reason)).set "status_time" (.number now) }

/-- `strings.Trim` of line ends. -/
def trimNewlines (text : String) : List Char :=
  ((text.toList.dropWhile (· = '\n')).reverse.dropWhile (· = '\n')).reverse

/-- `decodeArray` is Go's decoding of a JSON array into the texts of its elements. -/
def getKeys (decodeArray : String → Option (List String)) (row : ChannelRow) : List String :=
  if row.key = "" then []
  else if row.keys ≠ [] then row.keys
  else
    let array := if hasPrefix (trimSpace row.key) "[" then decodeArray (trimSpace row.key) else none
    array.getD (split '\n' (String.ofList (trimNewlines row.key)))

end ChannelRow

def ChannelInfo.markKey (info : ChannelInfo) (index : Nat) (status : ChannelStatus) (reason : String)
    (now : Int) : ChannelInfo :=
  if status = .enabled then { info with multiKeyStatusList := info.multiKeyStatusList.erase index }
  else
    { info with
      multiKeyStatusList := info.multiKeyStatusList.insert index status
      multiKeyDisabledReason := info.multiKeyDisabledReason.insert index reason
      multiKeyDisabledTime := info.multiKeyDisabledTime.insert index now }

/-- The index of the key; the first one for a key that is not listed. -/
def keyIndex (keys : List String) (usingKey : String) : Nat := (keys.idxOf? usingKey).getD 0

structure StatusCall where
  channelId : Int
  usingKey : String
  status : ChannelStatus
  reason : String
  now : Int
deriving DecidableEq

section
variable (decodeArray : String → Option (List String))

def handlerMultiKeyUpdate (call : StatusCall) (row : ChannelRow) : ChannelRow :=
  let keys := row.getKeys decodeArray
  if keys = [] then { row with status := call.status }
  else
    let info := row.info.markKey (keyIndex keys call.usingKey) call.status call.reason call.now
    if (info.multiKeyStatusList.entries.length : Int) ≥ info.multiKeySize then
      { row with info, status := .autoDisabled }.noteStatus "All keys are disabled" call.now
    else { row with info }

theorem handlerMultiKeyUpdate_id (call : StatusCall) (row : ChannelRow) :
    (handlerMultiKeyUpdate decodeArray call row).id = row.id := by
  unfold handlerMultiKeyUpdate
  dsimp only
  split
  · rfl
  · split <;> rfl

end

structure ChannelCache where
  memoryCacheEnabled : Bool
  channels : Table ChannelRow.id
  abilities : List Ability
  suppliers : List (String × Int)
  channelsIDM : Table ChannelRow.id
  group2model2channels : List ((String × String) × List Int)
  stored : ∀ row ∈ channels, 0 < row.id
  cached : ∀ row ∈ channelsIDM, 0 < row.id
  able : ∀ ability ∈ abilities, 0 < ability.channelId
  listed : ∀ entry ∈ group2model2channels, ∀ id ∈ entry.2, 0 < id

namespace ChannelCache

theorem view_id (row : ChannelRow) : row.view.id = row.id := rfl

theorem project_positive {table : Table ChannelRow.id} (positive : ∀ row ∈ table, 0 < row.id) :
    ∀ channel ∈ table.project ChannelRow.view view_id, 0 < channel.id := by
  intro channel member
  obtain ⟨row, present, rfl⟩ := Table.mem_project.mp member
  exact positive row present

def view (cache : ChannelCache) : ChannelStore where
  memoryCacheEnabled := cache.memoryCacheEnabled
  channels := cache.channels.project ChannelRow.view view_id
  abilities := cache.abilities
  suppliers := cache.suppliers
  channelsIDM := cache.channelsIDM.project ChannelRow.view view_id
  group2model2channels := cache.group2model2channels
  stored := project_positive cache.stored
  cached := project_positive cache.cached
  able := cache.able
  listed := cache.listed

theorem update_positive {table : Table ChannelRow.id} (positive : ∀ row ∈ table, 0 < row.id)
    {change : ChannelRow → ChannelRow} {keeps : ∀ row, (change row).id = row.id} :
    ∀ row ∈ table.update change keeps, 0 < row.id := by
  intro row member
  obtain ⟨old, present, rfl⟩ := Table.mem_update.mp member
  rw [keeps]
  exact positive old present

variable (cache : ChannelCache)

/-- A cached row is replaced, as a change through a pointer to it does. -/
def changeCached (id : Int) (change : ChannelRow → ChannelRow) (keeps : ∀ row, (change row).id = row.id) :
    ChannelCache :=
  { cache with
    channelsIDM := cache.channelsIDM.modify id change keeps
    cached := update_positive cache.cached }

def withStatus (status : ChannelStatus) (row : ChannelRow) : ChannelRow := { row with status }

theorem withStatus_id (status : ChannelStatus) (row : ChannelRow) : (withStatus status row).id = row.id := rfl

/-- The first entry of each list that names the channel is taken out. -/
def unlist (id : Int) : ChannelCache :=
  { cache with
    group2model2channels := cache.group2model2channels.map fun entry => (entry.1, entry.2.erase id)
    listed := by
      intro entry member other present
      obtain ⟨old, among, rfl⟩ := List.mem_map.mp member
      exact cache.listed old among other (List.mem_of_mem_erase present) }

def cacheUpdateChannelStatus (id : Int) (status : ChannelStatus) : ChannelCache :=
  if ¬ cache.memoryCacheEnabled then cache
  else if status = .enabled then cache.changeCached id (withStatus status) (withStatus_id status)
  else (cache.changeCached id (withStatus status) (withStatus_id status)).unlist id

theorem project_withStatus (table : Table ChannelRow.id) (id : Int) (status : ChannelStatus) :
    (table.modify id (withStatus status) (withStatus_id status)).project ChannelRow.view view_id =
      (table.project ChannelRow.view view_id).update (ChannelStore.withStatus id (status = .enabled))
        (ChannelStore.withStatus_id id (status = .enabled)) := by
  simp only [Table.modify, Table.update, Table.project, List.map_map, Table.mk.injEq]
  refine List.map_congr_left fun row _ => ?_
  simp only [Function.comp_apply, ChannelStore.withStatus]
  by_cases same : row.id = id
  · have seen : row.view.id = id := same
    rw [if_pos same, if_pos seen]
    rfl
  · have seen : ¬ row.view.id = id := same
    rw [if_neg same, if_neg seen]

theorem view_cacheUpdateChannelStatus (id : Int) (status : ChannelStatus) :
    (cache.cacheUpdateChannelStatus id status).view =
      cache.view.cacheUpdateChannelStatus id (status = .enabled) := by
  have projected := project_withStatus cache.channelsIDM id status
  unfold cacheUpdateChannelStatus ChannelStore.cacheUpdateChannelStatus
  by_cases caching : cache.memoryCacheEnabled = true
  · have seen : cache.view.memoryCacheEnabled = true := caching
    rw [if_neg (not_not.mpr caching), if_neg (not_not.mpr seen)]
    by_cases enabled : status = .enabled
    · rw [if_pos enabled]
      simp only [view, changeCached, ChannelStore.mk.injEq, true_and]
      exact ⟨projected, by simp [enabled]⟩
    · rw [if_neg enabled]
      simp only [view, changeCached, unlist, ChannelStore.mk.injEq, true_and]
      exact ⟨projected, by simp [enabled]⟩
  · have seen : ¬ cache.view.memoryCacheEnabled = true := caching
    rw [if_pos caching, if_pos seen]

section
variable (decodeArray : String → Option (List String)) (call : StatusCall)

/-- The status of the stored row, of a channel with one key or with several. -/
def changeStored (row : ChannelRow) : ChannelRow :=
  if row.info.isMultiKey then handlerMultiKeyUpdate decodeArray call row
  else (withStatus call.status row).noteStatus call.reason call.now

theorem changeStored_id (row : ChannelRow) : (changeStored decodeArray call row).id = row.id := by
  unfold changeStored
  split
  · exact handlerMultiKeyUpdate_id decodeArray call row
  · rfl

/-- `UpdateChannelStatus`, the part that is about the database. -/
def storeStatus : Bool × ChannelCache :=
  match cache.channels.lookup call.channelId with
  | none => (false, cache)
  | some row =>
    if row.status = call.status then (false, cache)
    else
      let after := changeStored decodeArray call row
      let shouldUpdateAbilities := ¬ row.info.isMultiKey ∨ row.status ≠ after.status
      (true, { cache with
        channels := cache.channels.modify call.channelId (changeStored decodeArray call)
          (changeStored_id decodeArray call)
        abilities :=
          if shouldUpdateAbilities then
            cache.abilities.map fun ability =>
              if ability.channelId = call.channelId then { ability with enabled := call.status = .enabled }
              else ability
          else cache.abilities
        stored := update_positive cache.stored
        able := by
          intro ability member
          split at member
          · obtain ⟨old, present, rfl⟩ := List.mem_map.mp member
            split
            · exact cache.able old present
            · exact cache.able old present
          · exact cache.able ability member })

def updateChannelStatus : Bool × ChannelCache :=
  if cache.memoryCacheEnabled then
    match cache.channelsIDM.lookup call.channelId with
    | none => (false, cache)
    | some row =>
      if row.info.isMultiKey then
        (cache.changeCached call.channelId (handlerMultiKeyUpdate decodeArray call)
          (handlerMultiKeyUpdate_id decodeArray call)).storeStatus decodeArray call
      else if row.status = call.status then (false, cache)
      else (cache.cacheUpdateChannelStatus call.channelId call.status).storeStatus decodeArray call
  else cache.storeStatus decodeArray call

end

end ChannelCache

def ChannelRow.places (row : ChannelRow) : List (String × String) :=
  (split ',' row.group).flatMap fun group => (split ',' row.channel.models).map fun model => (group, model)

namespace ChannelCache

def enabledRows (rows : List ChannelRow) : List ChannelRow := rows.filter fun row => row.status = .enabled

def entries (rows : List ChannelRow) : List ((String × String) × Int) :=
  (enabledRows rows).flatMap fun row => row.places.map fun place => (place, row.id)

def priorityOf (channels : Table ChannelRow.id) (id : Int) : Int :=
  ((channels.lookup id).map fun row => row.channel.priority).getD 0

/-- The ids of each group and model, by priority. -/
def listings (channels : Table ChannelRow.id) : List ((String × String) × List Int) :=
  ((entries channels.rows).map Prod.fst).dedup.map fun place =>
    (place, (((entries channels.rows).filter fun entry => entry.1 = place).map Prod.snd).insertionSort
      fun first second => priorityOf channels first ≥ priorityOf channels second)

/-- The row of the cache. The keys are decoded once; polling goes on where it was. -/
def loadRow (decodeArray : String → Option (List String)) (old : Table ChannelRow.id) (row : ChannelRow) :
    ChannelRow :=
  if ¬ row.info.isMultiKey then row
  else
    let polled := ((old.lookup row.id).filter fun before =>
      row.info.multiKeyMode = .polling ∧ before.info.isMultiKey ∧ before.info.multiKeyMode = .polling).map
        fun before => before.info.multiKeyPollingIndex
    { row with
      keys := row.getKeys decodeArray
      info.multiKeyPollingIndex := polled.getD row.info.multiKeyPollingIndex }

theorem loadRow_id (decodeArray : String → Option (List String)) (old : Table ChannelRow.id) (row : ChannelRow) :
    (loadRow decodeArray old row).id = row.id := by
  unfold loadRow
  split <;> rfl

theorem mem_listings {channels : Table ChannelRow.id} {entry : (String × String) × List Int} {id : Int}
    (member : entry ∈ listings channels) :
    id ∈ entry.2 ↔ ∃ row ∈ channels, row.status = .enabled ∧ entry.1 ∈ row.places ∧ row.id = id := by
  obtain ⟨place, _, rfl⟩ := List.mem_map.mp member
  simp only [List.mem_insertionSort, List.mem_map, List.mem_filter, entries, enabledRows, List.mem_flatMap,
    decide_eq_true_eq]
  constructor
  · rintro ⟨_, ⟨⟨row, ⟨present, enabled⟩, place', among, rfl⟩, rfl⟩, rfl⟩
    exact ⟨row, present, enabled, among, rfl⟩
  · rintro ⟨row, present, enabled, among, rfl⟩
    exact ⟨(place, row.id), ⟨⟨row, ⟨present, enabled⟩, place, among, rfl⟩, rfl⟩, rfl⟩

theorem listings_positive {channels : Table ChannelRow.id} (positive : ∀ row ∈ channels, 0 < row.id) :
    ∀ entry ∈ listings channels, ∀ id ∈ entry.2, 0 < id := by
  intro entry member id present
  obtain ⟨row, stored, _, _, rfl⟩ := (mem_listings member).mp present
  exact positive row stored

/-- A group that no ability names has no map to write to; the goroutine then panics. -/
def initChannelCache (decodeArray : String → Option (List String)) (cache : ChannelCache) :
    Option ChannelCache :=
  if ¬ cache.memoryCacheEnabled then some cache
  else if ∀ entry ∈ entries cache.channels.rows, ∃ ability ∈ cache.abilities, ability.group = entry.1.1 then
    some { cache with
      channelsIDM := cache.channels.update (loadRow decodeArray cache.channelsIDM)
        (loadRow_id decodeArray cache.channelsIDM)
      group2model2channels := listings cache.channels
      cached := update_positive cache.stored
      listed := listings_positive cache.stored }
  else none

end ChannelCache

end TokenFactory.Distributor
