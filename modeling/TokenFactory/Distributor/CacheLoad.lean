import TokenFactory.Data.Distinct
import TokenFactory.Data.Nested
import TokenFactory.Distributor.Disabled

namespace TokenFactory.Distributor

open Data Go Relay

/-! The loops of `InitChannelCache`, and `FixAbility` running beside them. -/

/-- `AddAbilities`: one row for each model and group, unless the text of the two was seen. -/
def ChannelRow.addAbilities (row : ChannelRow) : List Ability :=
  let pairs := (split ',' row.channel.models).flatMap fun model =>
    (split ',' row.group).map fun group => (group, model)
  (distinctBy (fun pair => pair.1 ++ "|" ++ pair.2) pairs).map fun pair =>
    { group := pair.1
      model := pair.2
      channelId := row.id
      enabled := row.status = .enabled
      priority := row.channel.priority
      weight := row.channel.weight }

/-- A statement on the abilities table. -/
inductive AbilityWrite where
  | truncate
  | deleteChannels (ids : List Int)
  | insert (rows : List Ability)
deriving DecidableEq

/-- The primary key; a row whose key is taken is not inserted. -/
def Ability.key (ability : Ability) : String × String × Int :=
  (ability.group, ability.model, ability.channelId)

def AbilityWrite.apply (abilities : List Ability) : AbilityWrite → List Ability
  | .truncate => []
  | .deleteChannels ids => abilities.filter fun ability => ability.channelId ∉ ids
  | .insert rows => abilities ++ rows.filter fun row => row.key ∉ abilities.map Ability.key

/-- The statements of `FixAbility`, in their order. -/
def fixAbility (channels : List ChannelRow) : List AbilityWrite :=
  .truncate :: (channels.toChunks 50).flatMap fun chunk =>
    .deleteChannels (chunk.map ChannelRow.id) ::
      chunk.flatMap fun row => (row.addAbilities.toChunks 50).map .insert

def fixAbilityStates (channels : List ChannelRow) (abilities : List Ability) : List (List Ability) :=
  (fixAbility channels).scanl AbilityWrite.apply abilities

theorem empty_mem_fixAbilityStates (channels : List ChannelRow) (abilities : List Ability) :
    [] ∈ fixAbilityStates channels abilities := by
  rw [fixAbilityStates, fixAbility, List.scanl_cons]
  exact .tail _ (List.mem_of_mem_head? (by rw [List.head?_scanl]; rfl))

namespace ChannelCache

variable {decodeArray : String → Option (List String)} {cache loaded : ChannelCache}

/-- The maps of the groups that an ability names, still empty. -/
def groupMaps (abilities : List Ability) : Nested String String Int := fun group =>
  if ∃ ability ∈ abilities, ability.group = group then some fun _ => [] else none

/-- The loop over the enabled channels, their groups and their models; `none` is the panic of
a write to a missing map. -/
def fillGroups (cache : ChannelCache) : Option (Nested String String Int) :=
  (groupMaps cache.abilities).appendAll (entries cache.channels.rows)

theorem groupMaps_get (abilities : List Ability) (group model : String) :
    (groupMaps abilities).get group model = [] := by
  unfold Nested.get groupMaps
  split <;> rfl

theorem fillGroups_isSome : cache.fillGroups.isSome ↔
      ∀ entry ∈ entries cache.channels.rows, ∃ ability ∈ cache.abilities, ability.group = entry.1.1 := by
  rw [fillGroups, Nested.appendAll_isSome]
  refine forall₂_congr fun entry _ => ?_
  unfold groupMaps
  split <;> simp_all

theorem find_listings (channels : Table ChannelRow.id) (place : String × String) :
    (((listings channels).find? fun entry => entry.1 = place).map Prod.snd).getD [] =
      (((entries channels.rows).filter fun entry => entry.1 = place).map Prod.snd).insertionSort
        fun first second => priorityOf channels first ≥ priorityOf channels second := by
  cases found : (listings channels).find? fun entry => entry.1 = place with
  | none =>
    have absent : (entries channels.rows).filter (fun entry => entry.1 = place) = [] := by
      refine List.filter_eq_nil_iff.mpr fun entry member named => ?_
      have listed : (place, _) ∈ listings channels := List.mem_map.mpr
        ⟨place, List.mem_dedup.mpr (List.mem_map.mpr ⟨entry, member, of_decide_eq_true named⟩), rfl⟩
      exact List.find?_eq_none.mp found _ listed (decide_eq_true rfl)
    rw [absent]
    rfl
  | some entry =>
    have named : entry.1 = place := by simpa using List.find?_some found
    obtain ⟨key, _, rfl⟩ := List.mem_map.mp (List.mem_of_find?_eq_some found)
    subst named
    rfl

theorem initChannelCache_fills (caching : cache.memoryCacheEnabled = true)
    (loading : cache.initChannelCache decodeArray = some loaded) :
    ∃ maps, cache.fillGroups = some maps ∧ ∀ group model, loaded.view.cachedIds group model =
      (maps.get group model).insertionSort
        fun first second => priorityOf cache.channels first ≥ priorityOf cache.channels second := by
  unfold initChannelCache at loading
  rw [if_neg (not_not.mpr caching)] at loading
  split at loading
  · rename_i made
    obtain ⟨maps, filled⟩ := Option.isSome_iff_exists.mp (fillGroups_isSome.mpr made)
    cases loading
    refine ⟨maps, filled, fun group model => ?_⟩
    rw [Nested.appendAll_get filled, groupMaps_get, List.nil_append]
    exact find_listings cache.channels (group, model)
  · cases loading

theorem initChannelCache_isSome (caching : cache.memoryCacheEnabled = true) :
    (cache.initChannelCache decodeArray).isSome ↔ cache.fillGroups.isSome := by
  rw [fillGroups_isSome]
  unfold initChannelCache
  rw [if_neg (not_not.mpr caching)]
  split
  · rename_i made
    exact iff_of_true rfl made
  · rename_i missing
    exact iff_of_false Bool.false_ne_true missing

/-- Loading ends, and every enabled channel is then listed under each of its groups and models.
Without the memory cache nothing is loaded, and nothing is read from the lists. -/
def LoadsAll (decodeArray : String → Option (List String)) (cache : ChannelCache) : Prop :=
  ∃ loaded, cache.initChannelCache decodeArray = some loaded ∧
    (cache.memoryCacheEnabled = true → ∀ row ∈ cache.channels, row.status = .enabled →
      ∀ group ∈ split ',' row.group, ∀ model ∈ split ',' row.channel.models,
        row.id ∈ loaded.view.cachedIds group model)

theorem mem_entries {rows : List ChannelRow} {entry : (String × String) × Int} :
    entry ∈ entries rows ↔ ∃ row ∈ rows, row.status = .enabled ∧
      entry.1.1 ∈ split ',' row.group ∧ entry.1.2 ∈ split ',' row.channel.models ∧ entry.2 = row.id := by
  obtain ⟨⟨group, model⟩, id⟩ := entry
  simp only [entries, enabledRows, ChannelRow.places, List.mem_flatMap, List.mem_filter, List.mem_map,
    decide_eq_true_eq, Prod.mk.injEq]
  constructor
  · rintro ⟨row, ⟨present, enabled⟩, _, ⟨group', grouped, model', named, rfl⟩, same, rfl⟩
    cases same
    exact ⟨row, present, enabled, grouped, named, rfl⟩
  · rintro ⟨row, present, enabled, grouped, named, rfl⟩
    exact ⟨row, ⟨present, enabled⟩, _, ⟨group, grouped, model, named, rfl⟩, rfl, rfl⟩

theorem exists_mem_split (separator : Char) (text : String) : ∃ part, part ∈ split separator text := by
  have parts : split separator text ≠ [] := by
    simp [split, List.splitOn_ne_nil]
  exact List.exists_mem_of_ne_nil _ parts

theorem fillGroups_isSome_iff_groups :
    cache.fillGroups.isSome ↔ ∀ row ∈ cache.channels, row.status = .enabled →
      ∀ group ∈ split ',' row.group, ∃ ability ∈ cache.abilities, ability.group = group := by
  rw [fillGroups_isSome]
  constructor
  · intro made row present enabled group grouped
    obtain ⟨model, named⟩ := exists_mem_split ',' row.channel.models
    exact made ((group, model), row.id) (mem_entries.mpr ⟨row, present, enabled, grouped, named, rfl⟩)
  · intro named entry member
    obtain ⟨row, present, enabled, grouped, _, _⟩ := mem_entries.mp member
    exact named row present enabled entry.1.1 grouped

/-- Loading does what it should exactly when every group of an enabled channel is named by
some ability. -/
theorem initChannelCache_loadsAll_iff (decodeArray : String → Option (List String)) (cache : ChannelCache) :
    cache.LoadsAll decodeArray ↔
      (cache.memoryCacheEnabled = true → ∀ row ∈ cache.channels, row.status = .enabled →
        ∀ group ∈ split ',' row.group, ∃ ability ∈ cache.abilities, ability.group = group) := by
  constructor
  · rintro ⟨loaded, loading, _⟩ caching
    rw [← fillGroups_isSome_iff_groups, ← @initChannelCache_isSome decodeArray _ caching, loading]
    rfl
  · intro named
    by_cases caching : cache.memoryCacheEnabled = true
    · have made : (cache.initChannelCache decodeArray).isSome :=
        (initChannelCache_isSome caching).mpr (fillGroups_isSome_iff_groups.mpr (named caching))
      obtain ⟨loaded, loading⟩ := Option.isSome_iff_exists.mp made
      refine ⟨loaded, loading, fun _ row present enabled group grouped model among => ?_⟩
      obtain ⟨maps, filled, lists⟩ := initChannelCache_fills caching loading
      rw [lists, List.mem_insertionSort, Nested.appendAll_get filled, groupMaps_get, List.nil_append]
      refine List.mem_map.mpr ⟨((group, model), row.id), List.mem_filter.mpr ⟨?_, decide_eq_true rfl⟩, rfl⟩
      exact mem_entries.mpr ⟨row, present, enabled, grouped, among, rfl⟩
    · refine ⟨cache, ?_, fun on => absurd on caching⟩
      unfold initChannelCache
      rw [if_pos caching]

/-- While `FixAbility` runs, the table is empty for a moment; a sync of the cache that reads
it then panics. -/
theorem fixAbility_sync_panics :
    ∃ abilities ∈ fixAbilityStates twoKeys.channels.rows twoKeys.abilities,
      ∃ able : ∀ ability ∈ abilities, 0 < ability.channelId,
        ¬ LoadsAll noArrays { twoKeys with abilities, able } := by
  refine ⟨[], empty_mem_fixAbilityStates _ _, by simp, ?_⟩
  rintro ⟨loaded, loading, _⟩
  cases loading

end ChannelCache

end TokenFactory.Distributor
