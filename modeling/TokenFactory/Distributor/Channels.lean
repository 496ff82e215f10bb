import TokenFactory.Data.Table
import TokenFactory.Relay.Context

namespace TokenFactory.Distributor

open Data Go Relay

/-! The channels as the distributor finds them.

The tables of the database, and the cache over them: the channels by id, and for each
group and model the ids of the enabled channels. The ids are those of an
auto-increment column. -/

structure Ability where
  group : String
  model : String
  channelId : Int
  enabled : Bool
  priority : Int
  weight : Nat
deriving DecidableEq

structure ChannelStore where
  memoryCacheEnabled : Bool
  channels : Table Channel.id
  abilities : List Ability
  /-- The supplier applications: alias and id. -/
  suppliers : List (String × Int)
  channelsIDM : Table Channel.id
  group2model2channels : List ((String × String) × List Int)
  stored : ∀ channel ∈ channels, 0 < channel.id
  cached : ∀ channel ∈ channelsIDM, 0 < channel.id
  able : ∀ ability ∈ abilities, 0 < ability.channelId
  listed : ∀ entry ∈ group2model2channels, ∀ id ∈ entry.2, 0 < id

/-- The smallest of the `retry + 1` greatest different priorities. -/
def priorityAt (priorities : List Int) (retry : Nat) : Option Int :=
  let sorted := priorities.dedup.insertionSort (· ≥ ·)
  sorted[min retry (sorted.length - 1)]?

/-- Takes the weights off the draw one after the other, until what is left stops it. -/
def drawWeighted (weight : Item → Int) (stops : Int → Bool) : Int → List Item → Option Item
  | _, [] => none
  | left, item :: rest =>
    if stops (left - weight item) then some item else drawWeighted weight stops (left - weight item) rest

theorem drawWeighted_mem {weight : Item → Int} {stops : Int → Bool} {left : Int} {items : List Item}
    {item : Item} (drawn : drawWeighted weight stops left items = some item) : item ∈ items := by
  induction items generalizing left with
  | nil => cases drawn
  | cons first rest ih =>
    simp only [drawWeighted] at drawn
    split at drawn
    · cases drawn
      exact .head _
    · exact .tail _ (ih drawn)

namespace ChannelStore

variable (store : ChannelStore)

def channelMissing (id : Int) : String :=
  "数据库一致性错误，渠道# " ++ toString id ++ " 不存在，请联系管理员修复"

def cacheGetChannel (id : Int) : Option Channel :=
  if store.memoryCacheEnabled then store.channelsIDM.lookup id else store.channels.lookup id

section
variable (group model : String)

def cachedIds : List Int :=
  ((store.group2model2channels.find? fun entry => entry.1 = (group, model)).map Prod.snd).getD []

/-- The ids under the exact model name, or else under the normalised one. -/
def idsForGroupModel : List Int :=
  if store.cachedIds group model = [] then store.cachedIds group (formatMatchingModelName model)
  else store.cachedIds group model

def listChannelIDsForGroupModel : List Int :=
  if store.memoryCacheEnabled then store.idsForGroupModel group model else []

def enabledUnder (id : Int) : Bool :=
  if store.memoryCacheEnabled then id ∈ store.cachedIds group model
  else store.abilities.any fun ability =>
    ability.group = group ∧ ability.model = model ∧ ability.channelId = id ∧ ability.enabled

def isChannelEnabledForGroupModel (id : Int) : Bool :=
  if group = "" ∨ model = "" ∨ id ≤ 0 then false
  else
    let normalized := formatMatchingModelName model
    store.enabledUnder group model id ||
      (normalized ≠ "" && normalized ≠ model && store.enabledUnder group normalized id)

end

def cachedChannels : List Int → Except String (List Channel)
  | [] => .ok []
  | id :: rest =>
    match store.channelsIDM.lookup id with
    | none => .error (channelMissing id)
    | some channel => (cachedChannels rest).map (channel :: ·)

/-- The weights are scaled up when they are small, and equal when they are all zero. -/
def drawChannel (draw : Nat → Nat) (targets : List Channel) : Option Channel :=
  let sumWeight := (targets.map Channel.weight).sum
  let adjustment := if sumWeight = 0 then 100 else 0
  let factor := if sumWeight ≠ 0 ∧ sumWeight / targets.length < 10 then 100 else 1
  let total := (if sumWeight = 0 then targets.length * 100 else sumWeight) * factor
  drawWeighted (fun channel => (channel.weight * factor + adjustment : Nat)) (· < 0) (draw total) targets

def drawFromCache (draw : Nat → Nat) (group model : String) (retry : Nat) :
    List Int → Except String (Option Channel)
  | [] => .ok none
  | [id] =>
    match store.channelsIDM.lookup id with
    | none => .error (channelMissing id)
    | some channel => .ok (some channel)
  | ids =>
    match store.cachedChannels ids with
    | .error reason => .error reason
    | .ok channels =>
      let target := (priorityAt (channels.map Channel.priority) retry).getD 0
      let targets := channels.filter fun channel => channel.priority = target
      if targets = [] then
        .error ("no channel found, group: " ++ group ++ ", model: " ++ model ++ ", priority: " ++
          toString target)
      else
        match drawChannel draw targets with
        | none => .error "channel not found"
        | some channel => .ok (some channel)

/-- `GetChannel`: the choice among the abilities when there is no cache. -/
def getChannel (draw : Nat → Nat) (group model : String) (retry : Nat) : Except String (Option Channel) :=
  let enabled := store.abilities.filter fun ability =>
    ability.group = group ∧ ability.model = model ∧ ability.enabled
  match priorityAt (enabled.map Ability.priority) retry with
  | none => if retry = 0 then .ok none else .error "数据库一致性被破坏"
  | some priority =>
    let abilities := (enabled.filter fun ability => ability.priority = priority).insertionSort
      fun first second => first.weight ≥ second.weight
    let weightSum := (abilities.map fun ability => ability.weight + 10).sum
    match drawWeighted (fun ability : Ability => (ability.weight + 10 : Nat)) (· ≤ 0) (draw weightSum)
        abilities with
    | none => .error "record not found"
    | some ability =>
      match store.channels.lookup ability.channelId with
      | none => .error "record not found"
      | some channel => .ok (some channel)

def getRandomSatisfiedChannel (draw : Nat → Nat) (group model : String) (retry : Nat) :
    Except String (Option Channel) :=
  if store.memoryCacheEnabled then
    store.drawFromCache draw group model retry (store.idsForGroupModel group model)
  else store.getChannel draw group model retry

def withStatus (id : Int) (enabled : Bool) (channel : Channel) : Channel :=
  if channel.id = id then { channel with enabled } else channel

theorem withStatus_id (id : Int) (enabled : Bool) (channel : Channel) :
    (withStatus id enabled channel).id = channel.id := by
  unfold withStatus
  split <;> rfl

theorem withStatus_supplier (id : Int) (enabled : Bool) (channel : Channel) :
    (withStatus id enabled channel).supplierApplicationId = channel.supplierApplicationId := by
  unfold withStatus
  split <;> rfl

/-- `CacheUpdateChannelStatus`: a channel that is disabled leaves each list once. -/
def cacheUpdateChannelStatus (id : Int) (enabled : Bool) : ChannelStore :=
  if ¬ store.memoryCacheEnabled then store
  else
    { store with
      channelsIDM := store.channelsIDM.update (withStatus id enabled) (withStatus_id id enabled)
      group2model2channels :=
        if enabled then store.group2model2channels
        else store.group2model2channels.map fun entry => (entry.1, entry.2.erase id)
      cached := by
        intro channel member
        obtain ⟨old, present, rfl⟩ := Table.mem_update.mp member
        rw [withStatus_id]
        exact store.cached old present
      listed := by
        intro entry member other present
        split at member
        · exact store.listed entry member other present
        · obtain ⟨old, among, rfl⟩ := List.mem_map.mp member
          exact store.listed old among other (List.mem_of_mem_erase present) }

/-- The status in the tables: the row of the channel and its abilities. -/
def updateStatus (id : Int) (enabled : Bool) : ChannelStore :=
  { store with
    channels := store.channels.update (withStatus id enabled) (withStatus_id id enabled)
    abilities := store.abilities.map fun ability =>
      if ability.channelId = id then { ability with enabled } else ability
    stored := by
      intro channel member
      obtain ⟨old, present, rfl⟩ := Table.mem_update.mp member
      rw [withStatus_id]
      exact store.stored old present
    able := by
      intro ability member
      obtain ⟨old, present, rfl⟩ := List.mem_map.mp member
      split
      · exact store.able old present
      · exact store.able old present }

def supplierOf (id : Int) : Option Int := (store.cacheGetChannel id).map Channel.supplierApplicationId

theorem cacheUpdateChannelStatus_supplierOf (changed : Int) (enabled : Bool) (id : Int) :
    (store.cacheUpdateChannelStatus changed enabled).supplierOf id = store.supplierOf id := by
  unfold cacheUpdateChannelStatus
  split
  · rfl
  case isFalse cache =>
    simp only [supplierOf, cacheGetChannel, not_not.mp cache, ↓reduceIte, Table.lookup_update, Option.map_map,
      Function.comp_def, withStatus_supplier]

theorem updateStatus_supplierOf (changed : Int) (enabled : Bool) (id : Int) :
    (store.updateStatus changed enabled).supplierOf id = store.supplierOf id := by
  unfold updateStatus supplierOf cacheGetChannel
  split
  · rfl
  · simp only [Table.lookup_update, Option.map_map, Function.comp_def, withStatus_supplier]

section
variable {store : ChannelStore} {group model : String} {channel : Channel} {draw : Nat → Nat} {retry : Nat}

variable {id : Int}

theorem cacheGetChannel_id (found : store.cacheGetChannel id = some channel) : channel.id = id := by
  unfold cacheGetChannel at found
  split at found
  all_goals exact Table.key_of_lookup found

theorem cachedIds_positive (member : id ∈ store.cachedIds group model) : 0 < id := by
  unfold cachedIds at member
  cases found : store.group2model2channels.find? fun entry => entry.1 = (group, model) with
  | none =>
    rw [found] at member
    cases member
  | some entry =>
    rw [found] at member
    exact store.listed entry (List.mem_of_find?_eq_some found) id member

theorem idsForGroupModel_positive (member : id ∈ store.idsForGroupModel group model) : 0 < id := by
  unfold idsForGroupModel at member
  split at member
  all_goals exact cachedIds_positive member

theorem isChannelEnabled_of_under (grouped : group ≠ "") (named : model ≠ "") (positive : 0 < id)
    (enabled : store.enabledUnder group model id = true ∨
      store.enabledUnder group (formatMatchingModelName model) id = true) :
    store.isChannelEnabledForGroupModel group model id = true := by
  have guard : ¬ (group = "" ∨ model = "" ∨ id ≤ 0) := by
    rintro (empty | empty | zero)
    · exact grouped empty
    · exact named empty
    · omega
  simp only [isChannelEnabledForGroupModel, guard, ↓reduceIte, Bool.or_eq_true, Bool.and_eq_true,
    decide_eq_true_eq]
  rcases enabled with plain | normalized
  · exact .inl plain
  · by_cases same : formatMatchingModelName model = model
    · rw [same] at normalized
      exact .inl normalized
    · exact .inr ⟨⟨formatMatchingModelName_ne_empty named, same⟩, normalized⟩

theorem idsForGroupModel_enabled (cache : store.memoryCacheEnabled = true) (grouped : group ≠ "")
    (named : model ≠ "") (member : id ∈ store.idsForGroupModel group model) :
    store.isChannelEnabledForGroupModel group model id = true := by
  refine isChannelEnabled_of_under grouped named (idsForGroupModel_positive member) ?_
  simp only [enabledUnder, cache, ↓reduceIte, decide_eq_true_eq]
  unfold idsForGroupModel at member
  split at member
  · exact .inr member
  · exact .inl member

variable {ids : List Int}

theorem cachedChannels_found {channels : List Channel}
    (found : store.cachedChannels ids = .ok channels) :
    List.Forall₂ (fun id channel => store.channelsIDM.lookup id = some channel) ids channels := by
  induction ids generalizing channels with
  | nil =>
    cases found
    exact .nil
  | cons id rest ih =>
    simp only [cachedChannels] at found
    cases first : store.channelsIDM.lookup id with
    | none =>
      rw [first] at found
      cases found
    | some head =>
      cases tail : store.cachedChannels rest with
      | error reason =>
        rw [first, tail] at found
        cases found
      | ok others =>
        rw [first, tail] at found
        cases found
        exact .cons first (ih tail)

theorem cachedChannels_mem {channels : List Channel}
    (found : store.cachedChannels ids = .ok channels) (member : channel ∈ channels) :
    channel.id ∈ ids ∧ store.channelsIDM.lookup channel.id = some channel := by
  have listed := cachedChannels_found found
  clear found
  induction listed with
  | nil => cases member
  | cons first _ ih =>
    cases member with
    | head =>
      have named := Table.key_of_lookup first
      exact ⟨named ▸ .head _, named.symm ▸ first⟩
    | tail _ later => exact ⟨.tail _ (ih later).1, (ih later).2⟩

theorem drawFromCache_mem
    (drawn : store.drawFromCache draw group model retry ids = .ok (some channel)) :
    channel.id ∈ ids ∧ store.channelsIDM.lookup channel.id = some channel := by
  unfold drawFromCache at drawn
  split at drawn
  · cases drawn
  · split at drawn
    · cases drawn
    case h_2 id found channel' lookup =>
      cases drawn
      have named := Table.key_of_lookup lookup
      exact ⟨named ▸ .head _, named.symm ▸ lookup⟩
  · split at drawn
    · cases drawn
    case h_2 channels found =>
      dsimp only at drawn
      split at drawn
      · cases drawn
      split at drawn
      · cases drawn
      case h_2 chosen picked =>
        cases drawn
        have member := drawWeighted_mem picked
        exact cachedChannels_mem found (List.mem_of_mem_filter member)

theorem getChannel_ability (drawn : store.getChannel draw group model retry = .ok (some channel)) :
    ∃ ability ∈ store.abilities, ability.group = group ∧ ability.model = model ∧
      ability.channelId = channel.id ∧ ability.enabled = true ∧
      store.channels.lookup channel.id = some channel := by
  unfold getChannel at drawn
  dsimp only at drawn
  split at drawn
  · split at drawn <;> cases drawn
  split at drawn
  · cases drawn
  case h_2 ability picked =>
    split at drawn
    · cases drawn
    case h_2 found lookup =>
      cases drawn
      have member := (List.mem_insertionSort _).mp (drawWeighted_mem picked)
      obtain ⟨among, under⟩ := List.mem_filter.mp (List.mem_of_mem_filter member)
      simp only [decide_eq_true_eq] at under
      have named := Table.key_of_lookup lookup
      exact ⟨ability, among, under.1, under.2.1, named.symm, under.2.2, named.symm ▸ lookup⟩

theorem getRandomSatisfiedChannel_enabled (grouped : group ≠ "") (named : model ≠ "")
    (drawn : store.getRandomSatisfiedChannel draw group model retry = .ok (some channel)) :
    store.isChannelEnabledForGroupModel group model channel.id = true := by
  unfold getRandomSatisfiedChannel at drawn
  split at drawn
  case isTrue cache => exact idsForGroupModel_enabled cache grouped named (drawFromCache_mem drawn).1
  case isFalse database =>
    obtain ⟨ability, member, group', model', id, enabled, _⟩ := getChannel_ability drawn
    refine isChannelEnabled_of_under grouped named (id ▸ store.able ability member) (.inl ?_)
    simp only [enabledUnder, database, Bool.false_eq_true, ↓reduceIte, List.any_eq_true, decide_eq_true_eq]
    exact ⟨ability, member, group', model', id, enabled⟩

end

end ChannelStore

end TokenFactory.Distributor
