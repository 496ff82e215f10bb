import TokenFactory.Data.Run
import TokenFactory.Distributor.Status
import TokenFactory.Distributor.Weighted

namespace TokenFactory.Distributor

open Data Go Relay

/-! A disabled channel is not selected. -/

/-- The groups and the models of the row are named once. -/
def ChannelRow.Tidy (row : ChannelRow) : Prop :=
  (split ',' row.group).Nodup ∧ (split ',' row.channel.models).Nodup

instance (row : ChannelRow) : Decidable row.Tidy := inferInstanceAs (Decidable (_ ∧ _))

namespace ChannelCache

/-- What the lists name is cached and enabled, and is named once. -/
structure Sound (cache : ChannelCache) : Prop where
  caching : cache.memoryCacheEnabled = true
  enabled : ∀ entry ∈ cache.group2model2channels, ∀ id ∈ entry.2,
    ∃ row, cache.channelsIDM.lookup id = some row ∧ row.status = .enabled
  once : ∀ entry ∈ cache.group2model2channels, entry.2.Nodup

section
variable {cache start : ChannelCache} {decodeArray : String → Option (List String)} {call : StatusCall}

theorem places_nodup {row : ChannelRow} (tidy : row.Tidy) : row.places.Nodup := by
  refine List.nodup_flatMap.mpr ⟨fun group _ => tidy.2.map fun first second same => (Prod.mk.inj same).2, ?_⟩
  refine tidy.1.imp fun {first second} apart => ?_
  simp only [Function.onFun, List.disjoint_left, List.mem_map]
  rintro place ⟨model, _, rfl⟩ ⟨other, _, same⟩
  exact apart (Prod.mk.inj same).1.symm

theorem entries_nodup {channels : Table ChannelRow.id}
    (tidy : ∀ row ∈ channels, row.status = .enabled → row.Tidy) : (entries channels.rows).Nodup := by
  refine List.nodup_flatMap.mpr ⟨fun row member => ?_, ?_⟩
  · obtain ⟨present, enabled⟩ := List.mem_filter.mp member
    have named := places_nodup (tidy row present (by simpa using enabled))
    exact named.map fun first second same => (Prod.mk.inj same).1
  · have distinct : channels.rows.Pairwise fun first second => first.id ≠ second.id :=
      List.pairwise_map.mp channels.unique
    refine (distinct.filter _).imp fun {first second} apart => ?_
    simp only [Function.onFun, List.disjoint_left, List.mem_map]
    rintro entry ⟨place, _, rfl⟩ ⟨other, _, same⟩
    exact apart (Prod.mk.inj same).2.symm

theorem listings_nodup {channels : Table ChannelRow.id}
    (tidy : ∀ row ∈ channels, row.status = .enabled → row.Tidy) :
    ∀ entry ∈ listings channels, entry.2.Nodup := by
  intro entry member
  obtain ⟨place, _, rfl⟩ := List.mem_map.mp member
  refine (List.perm_insertionSort _ _).nodup_iff.mpr ?_
  refine ((entries_nodup tidy).filter _).map_on fun first one second two same => ?_
  have named := (List.mem_filter.mp one).2
  have also := (List.mem_filter.mp two).2
  simp only [decide_eq_true_eq] at named also
  exact Prod.ext (named.trans also.symm) same

theorem loadRow_status (decodeArray : String → Option (List String)) (old : Table ChannelRow.id)
    (row : ChannelRow) : (loadRow decodeArray old row).status = row.status := by
  unfold loadRow
  split <;> rfl

theorem initChannelCache_sound (caching : start.memoryCacheEnabled = true)
    (tidy : ∀ row ∈ start.channels, row.status = .enabled → row.Tidy)
    (loaded : start.initChannelCache decodeArray = some cache) : cache.Sound := by
  unfold initChannelCache at loaded
  rw [if_neg (not_not.mpr caching)] at loaded
  split at loaded
  · cases loaded
    refine ⟨caching, fun entry member id present => ?_, listings_nodup tidy⟩
    obtain ⟨row, stored, enabled, _, named⟩ := (mem_listings member).mp present
    refine ⟨loadRow decodeArray start.channelsIDM row, ?_, (loadRow_status _ _ row).trans enabled⟩
    rw [Table.lookup_update, Table.lookup_eq_some.mpr ⟨stored, named⟩]
    rfl
  · cases loaded

theorem storeStatus_cache (cache : ChannelCache) (decodeArray : String → Option (List String))
    (call : StatusCall) : (cache.storeStatus decodeArray call).2.channelsIDM = cache.channelsIDM ∧
      (cache.storeStatus decodeArray call).2.group2model2channels = cache.group2model2channels ∧
      (cache.storeStatus decodeArray call).2.memoryCacheEnabled = cache.memoryCacheEnabled := by
  unfold storeStatus
  cases cache.channels.lookup call.channelId with
  | none => exact ⟨rfl, rfl, rfl⟩
  | some row =>
    dsimp only
    split <;> exact ⟨rfl, rfl, rfl⟩

theorem Sound.storeStatus (sound : cache.Sound) : (cache.storeStatus decodeArray call).2.Sound := by
  obtain ⟨rows, lists, same⟩ := storeStatus_cache cache decodeArray call
  constructor
  · exact same.trans sound.caching
  · rw [rows, lists]
    exact sound.enabled
  · rw [lists]
    exact sound.once

theorem Sound.changeCached (sound : cache.Sound) {id : Int} {change : ChannelRow → ChannelRow}
    {keeps : ∀ row, (change row).id = row.id}
    (stays : ∀ row, cache.channelsIDM.lookup id = some row → row.status = .enabled →
      (change row).status = .enabled) : (cache.changeCached id change keeps).Sound := by
  refine ⟨sound.caching, fun entry member other present => ?_, sound.once⟩
  obtain ⟨row, found, enabled⟩ := sound.enabled entry member other present
  unfold ChannelCache.changeCached
  rw [Table.lookup_modify]
  by_cases same : other = id
  · subst same
    rw [if_pos rfl, found]
    exact ⟨change row, rfl, stays row found enabled⟩
  · rw [if_neg same]
    exact ⟨row, found, enabled⟩

theorem Sound.disabled (sound : cache.Sound) {id : Int} {change : ChannelRow → ChannelRow}
    {keeps : ∀ row, (change row).id = row.id} : ((cache.changeCached id change keeps).unlist id).Sound := by
  constructor
  · exact sound.caching
  · intro entry member other present
    obtain ⟨old, among, rfl⟩ := List.mem_map.mp member
    have named := ((sound.once old among).mem_erase_iff.mp present)
    obtain ⟨row, found, enabled⟩ := sound.enabled old among other named.2
    refine ⟨row, ?_, enabled⟩
    unfold unlist ChannelCache.changeCached
    rw [Table.lookup_modify, if_neg named.1, found]
  · intro entry member
    obtain ⟨old, among, rfl⟩ := List.mem_map.mp member
    exact (sound.once old among).erase id

/-- The call leaves some of the keys unmarked; a row without keys takes the status of the call. -/
def keepsKey (decodeArray : String → Option (List String)) (call : StatusCall) (row : ChannelRow) : Bool :=
  let keys := row.getKeys decodeArray
  let info := row.info.markKey (keyIndex keys call.usingKey) call.status call.reason call.now
  if keys = [] then call.status = .enabled
  else (info.multiKeyStatusList.entries.length : Int) < info.multiKeySize

theorem handlerMultiKeyUpdate_enabled {row : ChannelRow} (enabled : row.status = .enabled)
    (keeps : keepsKey decodeArray call row = true) :
    (handlerMultiKeyUpdate decodeArray call row).status = .enabled := by
  unfold keepsKey at keeps
  unfold handlerMultiKeyUpdate
  dsimp only at keeps ⊢
  split at keeps
  case isTrue keyless =>
    rw [if_pos keyless]
    exact of_decide_eq_true keeps
  case isFalse keyed =>
    rw [if_neg keyed, if_neg (not_le.mpr (of_decide_eq_true keeps))]
    exact enabled

/-- Of a channel with several keys that the cache has as enabled, the call leaves one. -/
def staysEnabled (decodeArray : String → Option (List String)) (cache : ChannelCache) (call : StatusCall) :
    Bool :=
  (cache.channelsIDM.lookup call.channelId).all fun row =>
    !row.info.isMultiKey || row.status ≠ .enabled || keepsKey decodeArray call row

theorem Sound.updateChannelStatus (sound : cache.Sound) (stays : cache.staysEnabled decodeArray call = true) :
    (cache.updateChannelStatus decodeArray call).2.Sound := by
  unfold ChannelCache.updateChannelStatus
  split
  case isFalse uncached => exact absurd sound.caching uncached
  case isTrue caching =>
    cases found : cache.channelsIDM.lookup call.channelId with
    | none => exact sound
    | some row =>
      dsimp only
      split
      case isTrue multiKey =>
        refine Sound.storeStatus (sound.changeCached fun held same enabled => ?_)
        rw [found] at same
        cases same
        have keeps : keepsKey decodeArray call row = true := by
          simpa [staysEnabled, found, multiKey, enabled] using stays
        exact handlerMultiKeyUpdate_enabled enabled keeps
      case isFalse oneKey =>
        split
        · exact sound
        · refine Sound.storeStatus ?_
          unfold cacheUpdateChannelStatus
          rw [if_neg (not_not.mpr caching)]
          split
          case isTrue enabling => exact sound.changeCached fun _ _ _ => enabling
          case isFalse disabling => exact sound.disabled

theorem cachedIds_listed {group model : String} {id : Int} (member : id ∈ cache.view.cachedIds group model) :
    ∃ entry ∈ cache.group2model2channels, id ∈ entry.2 := by
  unfold ChannelStore.cachedIds at member
  cases found : cache.view.group2model2channels.find? fun entry => entry.1 = (group, model) with
  | none =>
    rw [found] at member
    cases member
  | some entry =>
    rw [found] at member
    exact ⟨entry, List.mem_of_find?_eq_some found, member⟩

theorem Sound.selected (sound : cache.Sound) {draw : Nat → Nat}
    {group model : String} {retry : Nat} {channel : Channel}
    (selected : cache.view.getRandomSatisfiedChannel draw group model retry = .ok (some channel)) :
    ∃ row, cache.channelsIDM.lookup channel.id = some row ∧ row.status = .enabled := by
  unfold ChannelStore.getRandomSatisfiedChannel at selected
  have seen : cache.view.memoryCacheEnabled = true := sound.caching
  rw [if_pos seen] at selected
  have named := (ChannelStore.drawFromCache_mem selected).1
  unfold ChannelStore.idsForGroupModel at named
  split at named
  all_goals
    obtain ⟨entry, member, present⟩ := cachedIds_listed named
    exact sound.enabled entry member _ present

end

def updateAll (decodeArray : String → Option (List String)) (cache : ChannelCache) (calls : List StatusCall) :
    ChannelCache :=
  run (fun cache call => (cache.updateChannelStatus decodeArray call).2) cache calls

/-- After the cache was loaded from rows that name their groups and models once, and after
calls that disable no channel with several keys, only enabled channels are selected. -/
theorem disabled_not_selected (decodeArray : String → Option (List String)) {start cache : ChannelCache}
    (caching : start.memoryCacheEnabled = true)
    (tidy : ∀ row ∈ start.channels, row.status = .enabled → row.Tidy)
    (loaded : start.initChannelCache decodeArray = some cache) {calls : List StatusCall}
    (stays : Guarded (fun cache call => (cache.updateChannelStatus decodeArray call).2)
      (fun cache call => cache.staysEnabled decodeArray call = true) cache calls)
    (draw : Nat → Nat) (group model : String) (retry : Nat) (channel : Channel)
    (selected : (cache.updateAll decodeArray calls).view.getRandomSatisfiedChannel draw group model retry =
      .ok (some channel)) :
    ∃ row, (cache.updateAll decodeArray calls).channelsIDM.lookup channel.id = some row ∧
      row.status = .enabled := by
  have sound : (cache.updateAll decodeArray calls).Sound :=
    Guarded.invariant (fun _ _ sound stays => sound.updateChannelStatus stays)
      (initChannelCache_sound caching tidy loaded) stays
  exact sound.selected selected

def oneRow (models key : String) (info : ChannelInfo) : ChannelCache where
  memoryCacheEnabled := true
  channels := ⟨[⟨{ ChannelStore.weighed 1 0 0 with models }, .enabled, "default", key, [], info⟩], by simp⟩
  abilities := [⟨"default", "gpt", 1, true, 0, 0⟩]
  suppliers := []
  channelsIDM := .empty
  group2model2channels := []
  stored := by simp [← Table.mem_rows, ChannelRow.id, ChannelStore.weighed]
  cached := by simp
  able := by decide
  listed := by decide

def noArrays (_ : String) : Option (List String) := none

def autoDisable : StatusCall := ⟨1, "sk-1", .autoDisabled, "upstream error", 0⟩

def load (start : ChannelCache) : ChannelCache := (start.initChannelCache noArrays).getD start

def selectedStatus (cache : ChannelCache) (calls : List StatusCall) : Option ChannelStatus :=
  let after := cache.updateAll noArrays calls
  match after.view.getRandomSatisfiedChannel (fun _ => 0) "default" "gpt" 0 with
  | .ok (some channel) => (after.channelsIDM.lookup channel.id).map ChannelRow.status
  | _ => none

def twoKeys : ChannelCache := oneRow "gpt" "sk-1\nsk-2" { isMultiKey := true, multiKeySize := 2 }

theorem disabled_not_selected_twoKeys : twoKeys.initChannelCache noArrays = some twoKeys.load ∧
      ∃ row, (twoKeys.load.updateAll noArrays [autoDisable]).channelsIDM.lookup 1 = some row ∧
        row.status = .enabled := by
  have loaded : twoKeys.initChannelCache noArrays = some twoKeys.load := by rfl
  exact ⟨loaded, @disabled_not_selected noArrays _ _ rfl (by decide +kernel) loaded [autoDisable]
    (by decide +kernel) (fun _ => 0) "default" "gpt" 0 _ rfl⟩

/-- A channel that lists its model twice, and one whose keys are all disabled. -/
theorem disabled_selected :
    (oneRow "gpt,gpt" "sk-1" {}).load.selectedStatus [autoDisable] = some .autoDisabled ∧
      (oneRow "gpt" "sk-1" { isMultiKey := true, multiKeySize := 1 }).load.selectedStatus [autoDisable] =
        some .autoDisabled := by
  decide +kernel

end ChannelCache

end TokenFactory.Distributor
