import TokenFactory.Channels.MirrorSteps
import TokenFactory.Data.Chunks
import TokenFactory.Supplier.Isolation

namespace TokenFactory.Channels

open Data Go Supplier
open Distributor (ChannelStatus)

/-! The mirror over new channels, imports and whole runs. -/

namespace Registry.Synced

variable {registry : Registry} {channel : Channel}

/-- What an insertion has added: the channels of `added`, up to their slugs. -/
structure Grown (before after : Registry) (added : List Channel) : Prop where
  expects : ∀ row, after.Expects row ↔ before.Expects row ∨ ∃ channel ∈ added, row ∈ abilityRows channel
  abilities : after.abilities = before.abilities
  ids : ∀ id, (∃ channel ∈ after.channels, channel.id = id) ↔
    (∃ channel ∈ before.channels, channel.id = id) ∨ id ∈ added.map Channel.id
  fresh : ∀ id ∈ added.map Channel.id, ¬ ∃ channel ∈ before.channels, channel.id = id
  distinct : (added.map Channel.id).Nodup
  groups : (∀ channel ∈ before.channels, plain channel.group) → (∀ channel ∈ added, plain channel.group) →
    ∀ channel ∈ after.channels, plain channel.group

namespace Grown

variable {before middle after : Registry} {added later : List Channel}

theorem refl (registry : Registry) : Grown registry registry [] where
  expects row := by simp
  abilities := rfl
  ids id := by simp
  fresh := by simp
  distinct := List.nodup_nil
  groups before _ := before

theorem trans (first : Grown before middle added) (second : Grown middle after later) :
    Grown before after (added ++ later) where
  expects row := by
    rw [second.expects, first.expects, or_assoc]
    simp only [List.mem_append, or_and_right, exists_or]
  abilities := second.abilities.trans first.abilities
  ids id := by rw [second.ids, first.ids, List.map_append, List.mem_append, or_assoc]
  fresh id member := by
    rw [List.map_append, List.mem_append] at member
    rcases member with member | member
    · exact first.fresh id member
    · exact fun old => second.fresh id member ((first.ids id).mpr (.inl old))
  distinct := by
    rw [List.map_append, List.nodup_append]
    refine ⟨first.distinct, second.distinct, fun id member other also same => ?_⟩
    exact second.fresh other also ((first.ids other).mpr (.inr (same ▸ member)))
  groups clean new :=
    second.groups (first.groups clean fun channel member => new channel (List.mem_append.mpr (.inl member)))
      fun channel member => new channel (List.mem_append.mpr (.inr member))

theorem synced (grown : Grown before after added) (synced : before.Synced)
    (clean : ∀ channel ∈ added, plain channel.group) : (added.foldl addAbilities after).Synced := by
  have free : ∀ old ∈ after.abilities, old.channelId ∉ added.map Channel.id := by
    intro old present member
    rw [grown.abilities] at present
    obtain ⟨channel, stored, named⟩ := synced.mirrors.stored present
    exact grown.fresh _ member ⟨channel, stored, named.symm⟩
  constructor
  · intro row
    have written : (∃ channel ∈ added, row ∈ newAbilities channel) ↔
        ∃ channel ∈ added, row ∈ abilityRows channel :=
      exists_congr fun channel => and_congr_right fun member => mem_newAbilities (clean channel member)
    rw [mem_foldl_addAbilities grown.distinct free, grown.abilities, synced.mirrors row, written,
      ← grown.expects row]
    unfold Registry.Expects
    rw [foldl_addAbilities_channels]
  · rw [foldl_addAbilities_channels]
    exact grown.groups synced.groups clean

end Grown

variable {after : Registry}

theorem create_grown {row : Channel} (done : registry.create channel = .ok (row, after)) :
    Grown registry after [row] ∧ row = registry.created channel := by
  obtain ⟨_, _, done⟩ := bind_ok.mp done
  obtain ⟨_, unused, ⟨⟩⟩ := bind_ok.mp done
  have free : registry.channels.lookup (registry.created channel).id = none :=
    Option.not_isSome_iff_eq_none.mp (refuseIf_ok.mp unused)
  have channels : ∀ other, other ∈ registry.channels.insert (registry.created channel) ↔
      other ∈ registry.channels ∨ other = registry.created channel := fun other => Table.mem_insert free
  refine ⟨⟨fun row => ?_, rfl, fun id => ?_, fun id member => ?_, List.nodup_singleton _,
    fun before added other stored => ?_⟩, rfl⟩
  · simp only [Registry.Expects, channels, or_and_right, exists_or, exists_eq_left, List.mem_singleton]
  · simp only [channels, or_and_right, exists_or, exists_eq_left, List.map_singleton, List.mem_singleton, eq_comm]
  · rw [List.map_singleton, List.mem_singleton] at member
    rintro ⟨old, stored, same⟩
    exact Table.lookup_eq_none.mp free old stored (same.trans member)
  · rcases (channels other).mp stored with present | rfl
    · exact before other present
    · exact added _ (.head _)

variable {collate : String → String}

theorem assign_grown {id : Int} {requested slug : String}
    (done : registry.assignRouteSlugInTx collate id requested = .ok (slug, after)) : Grown registry after [] := by
  unfold Registry.assignRouteSlugInTx at done
  split at done
  · cases done
    exact .refl registry
  · obtain ⟨_, _, done⟩ := bind_ok.mp done
    obtain ⟨_, _, ⟨⟩⟩ := bind_ok.mp done
    generalize (if trimSpace requested = "" then defaultRouteSlugFromChannelID id else trimSpace requested) = slug
    let change := fun old : Channel => if old.id = id then { old with routeSlug := slug } else old
    have channels : ∀ channel, channel ∈ registry.channels.modify id
        (fun row => { row with routeSlug := slug }) (withSlug_id slug) ↔
          ∃ old ∈ registry.channels, change old = channel := fun channel => Table.mem_modify
    have same : ∀ old, (change old).id = old.id ∧ abilityRows (change old) = abilityRows old ∧
        (change old).group = old.group := by
      intro old
      unfold change
      split <;> exact ⟨rfl, rfl, rfl⟩
    refine ⟨fun row => ?_, rfl, fun wanted => ?_, by simp, List.nodup_nil, fun before _ channel stored => ?_⟩
    · simp [Registry.Expects, channels, same]
    · simp [channels, same]
    · obtain ⟨old, present, rfl⟩ := (channels channel).mp stored
      rw [(same old).2.2]
      exact before old present

theorem created_group (registry : Registry) (clean : plain channel.group) :
    plain (registry.created channel).group := by
  unfold Registry.created withDefaults
  dsimp only
  split
  · decide
  · exact clean

theorem insert (synced : registry.Synced) (clean : plain channel.group) :
    (registry.orRolledBack (registry.insert collate channel)).Synced := by
  refine Registry.orRolledBack_keeps synced fun after done => ?_
  obtain ⟨⟨row, created⟩, creating, done⟩ := bind_ok.mp done
  obtain ⟨⟨slug, assigned⟩, assigning, ⟨⟩⟩ := bind_ok.mp done
  obtain ⟨grown, rfl⟩ := create_grown creating
  exact (grown.trans (assign_grown assigning)).synced synced (by simpa using created_group registry clean)

theorem createAll_grown {channels rows : List Channel}
    (done : Registry.createAll channels registry = .ok (rows, after))
    (clean : ∀ channel ∈ channels, plain channel.group) :
    Grown registry after rows ∧ ∀ row ∈ rows, plain row.group := by
  induction channels generalizing registry rows after with
  | nil =>
    cases done
    exact ⟨.refl _, by simp⟩
  | cons channel rest ih =>
    obtain ⟨⟨row, created⟩, creating, done⟩ := bind_ok.mp done
    obtain ⟨⟨later, created'⟩, creatingLater, ⟨⟩⟩ := bind_ok.mp done
    obtain ⟨grown, rfl⟩ := create_grown creating
    obtain ⟨grownLater, cleanLater⟩ := ih creatingLater fun other member => clean other (.tail _ member)
    refine ⟨grown.trans grownLater, List.forall_mem_cons.mpr ⟨?_, cleanLater⟩⟩
    exact created_group registry (clean channel (.head _))

theorem assignAll_grown {rows : List Channel}
    (done : Registry.assignAll collate rows registry = .ok after) : Grown registry after [] := by
  induction rows generalizing registry with
  | nil =>
    cases done
    exact .refl _
  | cons row rest ih =>
    obtain ⟨⟨slug, assigned⟩, assigning, done⟩ := bind_ok.mp done
    exact (assign_grown assigning).trans (ih done)

theorem insertChunk {chunk : List Channel} (synced : registry.Synced)
    (done : registry.insertChunk collate chunk = .ok after) (clean : ∀ channel ∈ chunk, plain channel.group) :
    after.Synced := by
  obtain ⟨⟨rows, created⟩, creating, done⟩ := bind_ok.mp done
  obtain ⟨assigned, assigning, ⟨⟩⟩ := bind_ok.mp done
  obtain ⟨grown, cleanRows⟩ := createAll_grown creating clean
  have both := grown.trans (assignAll_grown assigning)
  rw [List.append_nil] at both
  exact both.synced synced cleanRows

theorem batchInsertChannels {channels : List Channel} (synced : registry.Synced)
    (clean : ∀ channel ∈ channels, plain channel.group) :
    (registry.orRolledBack (registry.batchInsertChannels collate channels)).Synced := by
  refine Registry.orRolledBack_keeps synced fun after done => ?_
  refine foldlM_invariant (fun middle chunk next chunked synced first => ?_) synced done
  exact synced.insertChunk first fun channel member => clean channel (mem_of_mem_toChunks chunked member)

open ImportServices

/-- The id, and the columns that the abilities depend on. -/
def keyColumns (channel : Channel) := (channel.id, columnsOf channel)

theorem keyColumns_chCommon (importing : ImportServices) (item : Fields) (siteBuilderApiKey : String) (type : Int)
    (channel : Channel) : keyColumns (importing.chCommon item siteBuilderApiKey type channel) = keyColumns channel := by
  obtain ⟨inner, kept, same⟩ := importing.chCommon_keeps keyColumns (fun _ _ _ _ _ _ _ => rfl)
    (fun other _ _ => Prod.ext rfl (columnsOf_set other)) channel
  rw [same, ← kept]
  refine chSet_keeps keyColumns ?_ inner
  exact chText_keeps keyColumns fun _ _ => rfl

/-- An item that leaves status, models and groups alone. -/
def LeavesAbilities (item : Fields) : Prop :=
  (item.get? "disabled").bind chStatus = none ∧ (item.get? "models").bind chModels = none ∧
    (item.get? "groups").bind chGroups = none

theorem keyColumns_chApplyToExisting {importing : ImportServices} {item : Fields} {siteBuilderApiKey : String}
    (leaves : LeavesAbilities item) :
    keyColumns (importing.chApplyToExisting item siteBuilderApiKey channel) = keyColumns channel := by
  obtain ⟨status, models, groups⟩ := leaves
  unfold chApplyToExisting chSet
  rw [status, models, groups]
  exact keyColumns_chCommon importing item siteBuilderApiKey _ channel

def importedGroup (item : Fields) : String :=
  match item.get? "groups" with
  | some (.array groups) => chJoin groups
  | some _ => ""
  | none => "default"

theorem group_chApplyToNew (importing : ImportServices) (item : Fields) (siteBuilderApiKey name : String) :
    (importing.chApplyToNew item siteBuilderApiKey name).group = importedGroup item := by
  have common : (importing.chCommon item siteBuilderApiKey (importing.chType item 0) (blankChannel name)).group =
      "" := congrArg (fun columns => columns.2.2.2.2.1)
    (keyColumns_chCommon importing item siteBuilderApiKey (importing.chType item 0) (blankChannel name))
  have models : ∀ row, (chSet item "models" chModels row).group = row.group :=
    chSet_keeps Channel.group fun value write reads row => by
      cases value <;> cases reads
      rfl
  unfold chApplyToNew importedGroup
  rw [chSet]
  cases found : item.get? "groups" with
  | none => exact models _
  | some value =>
    cases value with
    | array items => rfl
    | _ => exact (models _).trans common

theorem importItem {importing : ImportServices} {siteBuilderApiKey : String}
    {item : Fields} (synced : registry.Synced) (clean : plain (importedGroup item))
    (leaves : (registry.getChannelByName collate (trimSpace ((chGetStr item "name").getD ""))).isSome →
      LeavesAbilities item) :
    (registry.importItem collate importing siteBuilderApiKey item).2.Synced := by
  rcases registry.importItem_cases collate importing siteBuilderApiKey item with
    same | inserted | ⟨existing, stored, found, same⟩
  · rw [same]
    exact synced
  · have group := group_chApplyToNew importing item siteBuilderApiKey (trimSpace ((chGetStr item "name").getD ""))
    have kept := @insert registry _ collate synced (by rw [group]; exact clean)
    rw [inserted] at kept
    exact kept
  · have columns := @keyColumns_chApplyToExisting existing importing item siteBuilderApiKey
      (leaves (by rw [found]; rfl))
    rw [same]
    generalize importing.chApplyToExisting item siteBuilderApiKey existing = changed at columns
    obtain ⟨same, columns⟩ := Prod.mk.inj columns
    refine @saveWith registry existing changed id registry.abilities synced stored same ?_
      (fun row => by simp) ?_ fun _ _ => rfl
    · exact congrArg (fun columns => columns.2.2.2.1) columns
    · rw [List.map_id]
      exact abilityRows_of_columns same columns

end Registry.Synced

section Runs

variable (services : Services) (importing : ImportServices)

/-- An import may create channels; an item for an existing one has to leave its abilities alone. -/
def ItemKeepsMirror (registry : Registry) (item : Fields) : Prop :=
  plain (Registry.Synced.importedGroup item) ∧
    ((registry.getChannelByName id (trimSpace ((ImportServices.chGetStr item "name").getD ""))).isSome →
      Registry.Synced.LeavesAbilities item)

/-- What an operation has to meet for the abilities to follow. -/
def Operation.KeepsMirror (registry : Registry) : Operation → Prop
  | .insert channel => plain channel.group
  | .batchInsertChannels channels => ∀ channel ∈ channels, plain channel.group
  | .update sent => plain sent.group ∧ ∃ channel ∈ registry.channels, channel.id = sent.id
  | .updateChannelStatus _ change => ∀ channel ∈ registry.channels, channel.id = change.channelId →
      Registry.Synced.StatusFits services change channel
  | .enableChannelByTag _ => True
  | .disableChannelByTag _ => True
  | .editChannelByTag tag edit => (∀ group ∈ edit.group, plain group) ∧
      (edit.shouldReCreateAbilities = false → edit.weight = some 0 →
        ∀ channel ∈ registry.channels, channel.tag = some tag → channel.weight.getD 0 = 0)
  | .batchSetChannelTag ids tag => ∀ channel ∈ registry.channels, channel.id ∈ ids → channel.tag = tag
  | .batchDeleteChannels _ => True
  | .deleteChannelByStatus status => ∀ channel ∈ registry.channels, channel.status ≠ status
  | .deleteDisabledChannel => ∀ channel ∈ registry.channels,
      channel.status ≠ .autoDisabled ∧ channel.status ≠ .manuallyDisabled
  | .importChannels siteBuilderApiKey items =>
    Guarded (fun registry item => (registry.importItem id importing siteBuilderApiKey item).2)
      ItemKeepsMirror registry items

variable {services importing} {registry : Registry}

theorem perform_synced (registry : Registry) (operation : Operation) (synced : registry.Synced)
    (keeps : operation.KeepsMirror services importing registry) :
    (registry.perform services importing operation).Synced := by
  cases operation with
  | insert channel => exact synced.insert keeps
  | batchInsertChannels channels => exact synced.batchInsertChannels keeps
  | update sent => exact synced.update keeps.1 keeps.2
  | updateChannelStatus cached change => exact synced.updateChannelStatus keeps
  | enableChannelByTag tag => exact synced.setStatusByTag (by decide)
  | disableChannelByTag tag => exact synced.setStatusByTag (by decide)
  | editChannelByTag tag edit => exact synced.editChannelByTag keeps.1 keeps.2
  | batchSetChannelTag ids tag => exact synced.batchSetChannelTag keeps
  | batchDeleteChannels ids => exact synced.batchDeleteChannels
  | deleteChannelByStatus status =>
    exact synced.restrict fun channel stored => decide_eq_true (keeps channel stored)
  | deleteDisabledChannel =>
    exact synced.restrict fun channel stored => by simp [keeps channel stored]
  | importChannels siteBuilderApiKey items =>
    rw [Registry.perform, Registry.importChannels_run]
    exact Guarded.invariant (fun registry item synced keeps => synced.importItem keeps.1 keeps.2) synced keeps

theorem empty_synced : Registry.empty.Synced where
  mirrors row := by
    constructor
    · exact fun present => absurd present Table.not_mem_empty
    · rintro ⟨channel, stored, _⟩
      exact absurd stored Table.not_mem_empty
  groups channel stored := absurd stored Table.not_mem_empty

theorem Registry.Mirrors.lookup (mirrors : registry.Mirrors) {channel : Channel} (stored : channel ∈ registry.channels)
    {group model : String} (grouped : group ∈ split ',' channel.group) (named : model ∈ split ',' channel.models) :
    registry.abilities.lookup (group, model, channel.id) = some (abilityFor channel (group, model)) := by
  have expected : abilityFor channel (group, model) ∈ abilityRows channel :=
    List.mem_map_of_mem (mem_places.mpr ⟨grouped, named⟩)
  exact Table.lookup_eq_some.mpr ⟨(mirrors _).mpr ⟨channel, stored, expected⟩, rfl⟩

theorem Registry.Mirrors.origin (mirrors : registry.Mirrors) {row : AbilityRow} (present : row ∈ registry.abilities) :
    ∃ channel ∈ registry.channels, row.channelId = channel.id ∧ row.group ∈ split ',' channel.group ∧
      row.model ∈ split ',' channel.models := by
  obtain ⟨channel, stored, expected⟩ := (mirrors row).mp present
  obtain ⟨place, member, rfl⟩ := List.mem_map.mp expected
  exact ⟨channel, stored, rfl, mem_places.mp member⟩

end Runs

/-- Along every run whose steps meet the condition, the abilities table has exactly one row for
each channel and each pair of its groups and models, with the columns of the channel. -/
theorem abilities_mirror_channels (services : Services) (importing : ImportServices) (operations : List Operation)
    (keeps : Guarded (Registry.perform services importing) (Operation.KeepsMirror services importing)
      Registry.empty operations) :
    let registry := run (Registry.perform services importing) Registry.empty operations
    (∀ channel ∈ registry.channels, ∀ group ∈ split ',' channel.group, ∀ model ∈ split ',' channel.models,
      registry.abilities.lookup (group, model, channel.id) = some
        { group, model, channelId := channel.id, enabled := channel.status = .enabled,
          priority := channel.priority.getD 0, weight := channel.weight.getD 0, tag := channel.tag }) ∧
      ∀ row ∈ registry.abilities, ∃ channel ∈ registry.channels, row.channelId = channel.id ∧
        row.group ∈ split ',' channel.group ∧ row.model ∈ split ',' channel.models := by
  intro registry
  have synced : registry.Synced := Guarded.invariant perform_synced empty_synced keeps
  exact ⟨fun channel stored group grouped model named => synced.mirrors.lookup stored grouped named,
    fun row present => synced.mirrors.origin present⟩

open Supplier.Catalogue (plainServices channelOwnedBy)

def taggedChannel : Channel := (channelOwnedBy 0 0).withTag (some "a")

def plainImport : ImportServices := ⟨fun _ => 0, fun _ => ""⟩

theorem abilities_mirror_tagged_channel :
    let operations := [.insert taggedChannel, .disableChannelByTag "a", .batchDeleteChannels [2]]
    let registry := run (Registry.perform plainServices plainImport) Registry.empty operations
    ∀ channel ∈ registry.channels, ∀ group ∈ split ',' channel.group, ∀ model ∈ split ',' channel.models,
      registry.abilities.lookup (group, model, channel.id) = some
        { group, model, channelId := channel.id, enabled := channel.status = .enabled,
          priority := channel.priority.getD 0, weight := channel.weight.getD 0, tag := channel.tag } := by
  intro operations registry
  exact (abilities_mirror_channels plainServices plainImport operations
    ⟨show plain taggedChannel.group by decide, trivial, trivial, trivial⟩).1

/-- The channel is read back before its new tag is committed, so its abilities keep the old one. -/
theorem batchSetChannelTag_keeps_old_tag :
    ¬ ∀ (services : Services) (importing : ImportServices) (operations : List Operation),
      let registry := run (Registry.perform services importing) Registry.empty operations
      ∀ channel ∈ registry.channels, ∀ group ∈ split ',' channel.group, ∀ model ∈ split ',' channel.models,
        ∃ row ∈ registry.abilities, row.key = (group, model, channel.id) ∧ row.tag = channel.tag := by
  intro holds
  have mirrored := holds plainServices plainImport [.insert taggedChannel, .batchSetChannelTag [1] (some "b")]
  generalize reached : run (Registry.perform plainServices plainImport) Registry.empty _ = registry at mirrored
  have retagged : (registry.channels.lookup 1).map (fun channel => (channel.tag, channel.group, channel.models)) =
      some (some "b", "default", "gpt") := by
    rw [← reached]
    decide +kernel
  have kept : (registry.abilities.lookup ("default", "gpt", 1)).map AbilityRow.tag = some (some "a") := by
    rw [← reached]
    decide +kernel
  obtain ⟨channel, found, columns⟩ := Option.map_eq_some_iff.mp retagged
  obtain ⟨stored, named⟩ := Table.lookup_eq_some.mp found
  obtain ⟨tag, lists⟩ := Prod.mk.inj columns
  obtain ⟨group, models⟩ := Prod.mk.inj lists
  obtain ⟨row, present, key, same⟩ := mirrored channel stored "default" (by rw [group]; decide) "gpt"
    (by rw [models]; decide)
  rw [named] at key
  rw [Table.lookup_eq_some.mpr ⟨present, key⟩, Option.map_some, same, tag] at kept
  exact absurd kept (by decide)

end TokenFactory.Channels
