import TokenFactory.Channels.Operations

namespace TokenFactory.Channels

open Data Go Supplier
open Distributor (ChannelStatus)

/-! The abilities mirror the channels. -/

def abilityRows (channel : Channel) : List AbilityRow := (places channel).map (abilityFor channel)

def Registry.Expects (registry : Registry) (row : AbilityRow) : Prop :=
  ∃ channel ∈ registry.channels, row ∈ abilityRows channel

def Registry.Mirrors (registry : Registry) : Prop :=
  ∀ row, row ∈ registry.abilities ↔ registry.Expects row

/-- The text does not contain the character that separates group and model when the abilities
of a channel are collected. -/
def plain (text : String) : Prop := '|' ∉ text.toList

instance (text : String) : Decidable (plain text) := inferInstanceAs (Decidable (_ ∉ _))

section Rows

variable {channel : Channel} {row : AbilityRow}

theorem channelId_of_mem_abilityRows (member : row ∈ abilityRows channel) : row.channelId = channel.id := by
  obtain ⟨place, _, rfl⟩ := List.mem_map.mp member
  rfl

theorem channelId_of_mem_newAbilities (member : row ∈ newAbilities channel) : row.channelId = channel.id := by
  obtain ⟨place, _, rfl⟩ := List.mem_map.mp member
  rfl

theorem newAbilities_keys_nodup (channel : Channel) : ((newAbilities channel).map AbilityRow.key).Nodup := by
  have distinct := (@distinctBy_nodup _ _ _ (fun place : String × String => place.1 ++ "|" ++ place.2)
    (places channel)).of_map
  rw [newAbilities, List.map_map]
  refine distinct.map fun first second same => ?_
  simp only [Function.comp_apply, AbilityRow.key, abilityFor, Prod.mk.injEq, and_true] at same
  exact Prod.ext same.1 same.2

theorem plain_of_mem_split {text part : String} (clean : plain text) (member : part ∈ split ',' text) :
    plain part := fun present => clean (mem_of_mem_split member present)

theorem mem_places {place : String × String} :
    place ∈ places channel ↔ place.1 ∈ split ',' channel.group ∧ place.2 ∈ split ',' channel.models := by
  simp only [places, List.mem_flatMap, List.mem_map]
  constructor
  · rintro ⟨model, named, group, grouped, rfl⟩
    exact ⟨grouped, named⟩
  · rintro ⟨grouped, named⟩
    exact ⟨place.2, named, place.1, grouped, rfl⟩

theorem placeText_injective {first second : String × String} (left : plain first.1) (right : plain second.1)
    (same : first.1 ++ "|" ++ first.2 = second.1 ++ "|" ++ second.2) : first = second := by
  have chars : first.1.toList ++ '|' :: first.2.toList = second.1.toList ++ '|' :: second.2.toList := by
    have := congrArg String.toList same
    simpa [String.toList_append] using this
  have groups : first.1.toList = second.1.toList := by
    have parts := congrArg (List.splitOn '|') chars
    rw [List.splitOn_append_cons_self_of_not_mem left, List.splitOn_append_cons_self_of_not_mem right] at parts
    exact (List.cons.inj parts).1
  rw [groups] at chars
  exact Prod.ext (String.toList_inj.mp groups)
    (String.toList_inj.mp (List.cons.inj (List.append_cancel_left chars)).2)

theorem mem_newAbilities (clean : plain channel.group) : row ∈ newAbilities channel ↔ row ∈ abilityRows channel := by
  have kept : ∀ place, place ∈ distinctBy (fun place : String × String => place.1 ++ "|" ++ place.2)
      (places channel) ↔ place ∈ places channel := fun place =>
    mem_distinctBy fun first left second right same =>
      placeText_injective (plain_of_mem_split clean (mem_places.mp left).1)
        (plain_of_mem_split clean (mem_places.mp right).1) same
  simp only [newAbilities, abilityRows, List.mem_map, kept]

end Rows

namespace Registry

variable {registry : Registry} {channel : Channel} {channels : List Channel} {row : AbilityRow}

@[simp] theorem insertAbilities_channels {rows : List AbilityRow} :
    (registry.insertAbilities rows).channels = registry.channels := rfl

@[simp] theorem addAbilities_channels : (registry.addAbilities channel).channels = registry.channels :=
  insertAbilities_channels

@[simp] theorem deleteAbilities_channels {ids : List Int} :
    (registry.deleteAbilities ids).channels = registry.channels := rfl

@[simp] theorem updateAbilities_channels :
    (registry.updateAbilities channel).channels = registry.channels := by
  rw [updateAbilities, addAbilities_channels, deleteAbilities_channels]

theorem mem_deleteAbilities {ids : List Int} :
    row ∈ (registry.deleteAbilities ids).abilities ↔ row ∈ registry.abilities ∧ row.channelId ∉ ids := by
  rw [deleteAbilities, Table.mem_restrict, decide_eq_true_eq]

theorem mem_addAbilities (free : ∀ old ∈ registry.abilities, old.channelId ≠ channel.id) :
    row ∈ (registry.addAbilities channel).abilities ↔
      row ∈ registry.abilities ∨ row ∈ newAbilities channel := by
  refine Table.mem_foldl_insert (newAbilities_keys_nodup channel) fun new member => ?_
  refine Table.lookup_eq_none.mpr fun old present same => free old present ?_
  rw [(Prod.mk.inj (Prod.mk.inj same).2).2, channelId_of_mem_newAbilities member]

theorem mem_updateAbilities : row ∈ (registry.updateAbilities channel).abilities ↔
      (row ∈ registry.abilities ∧ row.channelId ≠ channel.id) ∨ row ∈ newAbilities channel := by
  have free : ∀ old ∈ (registry.deleteAbilities [channel.id]).abilities, old.channelId ≠ channel.id := by
    intro old present
    simpa using (mem_deleteAbilities.mp present).2
  rw [updateAbilities, mem_addAbilities free, mem_deleteAbilities, List.mem_singleton]

theorem foldl_updateAbilities_channels :
    (channels.foldl updateAbilities registry).channels = registry.channels := by
  induction channels generalizing registry with
  | nil => rfl
  | cons first rest ih => rw [List.foldl_cons, ih, updateAbilities_channels]

theorem foldl_addAbilities_channels : (channels.foldl addAbilities registry).channels = registry.channels := by
  induction channels generalizing registry with
  | nil => rfl
  | cons first rest ih => rw [List.foldl_cons, ih, addAbilities_channels]

theorem mem_foldl_updateAbilities (distinct : (channels.map Channel.id).Nodup) :
    row ∈ (channels.foldl updateAbilities registry).abilities ↔
      (row ∈ registry.abilities ∧ row.channelId ∉ channels.map Channel.id) ∨
        ∃ channel ∈ channels, row ∈ newAbilities channel := by
  induction channels generalizing registry with
  | nil => simp
  | cons first rest ih =>
    obtain ⟨apart, later⟩ := List.nodup_cons.mp distinct
    have others : row ∈ newAbilities first → row.channelId ∉ rest.map Channel.id := fun member => by
      rwa [channelId_of_mem_newAbilities member]
    rw [List.foldl_cons, ih later, mem_updateAbilities, List.map_cons]
    simp only [List.mem_cons, exists_eq_or_imp]
    constructor
    · rintro (⟨⟨present, notFirst⟩ | new, notLater⟩ | new)
      · exact .inl ⟨present, not_or.mpr ⟨notFirst, notLater⟩⟩
      · exact .inr (.inl new)
      · exact .inr (.inr new)
    · rintro (⟨present, notListed⟩ | new | new)
      · obtain ⟨notFirst, notLater⟩ := not_or.mp notListed
        exact .inl ⟨.inl ⟨present, notFirst⟩, notLater⟩
      · exact .inl ⟨.inr new, others new⟩
      · exact .inr new

theorem mem_foldl_addAbilities (distinct : (channels.map Channel.id).Nodup)
    (free : ∀ old ∈ registry.abilities, old.channelId ∉ channels.map Channel.id) :
    row ∈ (channels.foldl addAbilities registry).abilities ↔
      row ∈ registry.abilities ∨ ∃ channel ∈ channels, row ∈ newAbilities channel := by
  induction channels generalizing registry with
  | nil => simp
  | cons first rest ih =>
    obtain ⟨apart, later⟩ := List.nodup_cons.mp distinct
    have notFirst : ∀ old ∈ registry.abilities, old.channelId ≠ first.id := fun old present same =>
      free old present (same ▸ .head _)
    have freeLater : ∀ old ∈ (registry.addAbilities first).abilities, old.channelId ∉ rest.map Channel.id := by
      intro old present
      rcases (mem_addAbilities notFirst).mp present with before | new
      · exact fun member => free old before (.tail _ member)
      · rwa [channelId_of_mem_newAbilities new]
    rw [List.foldl_cons, ih later freeLater, mem_addAbilities notFirst]
    simp only [List.mem_cons, exists_eq_or_imp, or_assoc]

theorem Mirrors.mapped {after : Registry} (mirrors : registry.Mirrors) {change : Channel → Channel}
    {changeRow : AbilityRow → AbilityRow}
    (channels : ∀ channel, channel ∈ after.channels ↔ ∃ old ∈ registry.channels, change old = channel)
    (abilities : ∀ row, row ∈ after.abilities ↔ ∃ old ∈ registry.abilities, changeRow old = row)
    (same : ∀ channel ∈ registry.channels, abilityRows (change channel) = (abilityRows channel).map changeRow) :
    after.Mirrors := by
  intro row
  rw [abilities]
  constructor
  · rintro ⟨old, present, rfl⟩
    obtain ⟨channel, stored, member⟩ := (mirrors old).mp present
    refine ⟨change channel, (channels _).mpr ⟨channel, stored, rfl⟩, ?_⟩
    rw [same channel stored]
    exact List.mem_map_of_mem member
  · rintro ⟨channel, stored, member⟩
    obtain ⟨origin, before, rfl⟩ := (channels channel).mp stored
    rw [same origin before] at member
    obtain ⟨old, among, rfl⟩ := List.mem_map.mp member
    exact ⟨old, (mirrors old).mpr ⟨origin, before, among⟩, rfl⟩

theorem Mirrors.rewritten {after : Registry} (mirrors : registry.Mirrors) {ids : List Int}
    (others : ∀ channel, channel.id ∉ ids → (channel ∈ after.channels ↔ channel ∈ registry.channels))
    (abilities : ∀ row, row ∈ after.abilities ↔ (row ∈ registry.abilities ∧ row.channelId ∉ ids) ∨
        ∃ channel ∈ after.channels, channel.id ∈ ids ∧ row ∈ abilityRows channel) :
    after.Mirrors := by
  intro row
  rw [abilities]
  constructor
  · rintro (⟨present, apart⟩ | ⟨channel, stored, _, member⟩)
    · obtain ⟨channel, stored, member⟩ := (mirrors row).mp present
      rw [channelId_of_mem_abilityRows member] at apart
      exact ⟨channel, (others channel apart).mpr stored, member⟩
    · exact ⟨channel, stored, member⟩
  · rintro ⟨channel, stored, member⟩
    by_cases listed : channel.id ∈ ids
    · exact .inr ⟨channel, stored, listed, member⟩
    · refine .inl ⟨(mirrors row).mpr ⟨channel, (others channel listed).mp stored, member⟩, ?_⟩
      rwa [channelId_of_mem_abilityRows member]

theorem Mirrors.recreated {edited : Registry} {listed : List Channel} (mirrors : registry.Mirrors)
    (abilities : edited.abilities = registry.abilities) (distinct : (listed.map Channel.id).Nodup)
    (groups : ∀ channel ∈ listed, plain channel.group)
    (others : ∀ channel, channel.id ∉ listed.map Channel.id →
      (channel ∈ edited.channels ↔ channel ∈ registry.channels))
    (rows : ∀ row, (∃ channel ∈ listed, row ∈ abilityRows channel) ↔
      ∃ channel ∈ edited.channels, channel.id ∈ listed.map Channel.id ∧ row ∈ abilityRows channel) :
    (listed.foldl updateAbilities edited).Mirrors := by
  refine @Mirrors.rewritten registry _ mirrors (listed.map Channel.id) ?_ fun row => ?_
  · rw [foldl_updateAbilities_channels]
    exact others
  · have written : (∃ channel ∈ listed, row ∈ newAbilities channel) ↔
        ∃ channel ∈ listed, row ∈ abilityRows channel :=
      exists_congr fun channel => and_congr_right fun member => mem_newAbilities (groups channel member)
    rw [mem_foldl_updateAbilities distinct, foldl_updateAbilities_channels, abilities, written, rows]

theorem Mirrors.recreated_stored {edited : Registry} {listed : List Channel} (mirrors : registry.Mirrors)
    (abilities : edited.abilities = registry.abilities) (distinct : (listed.map Channel.id).Nodup)
    (groups : ∀ channel ∈ listed, plain channel.group) (stored : ∀ channel ∈ listed, channel ∈ edited.channels)
    (others : ∀ channel, channel.id ∉ listed.map Channel.id →
      (channel ∈ edited.channels ↔ channel ∈ registry.channels)) :
    (listed.foldl updateAbilities edited).Mirrors := by
  refine mirrors.recreated abilities distinct groups others fun row => ?_
  constructor
  · rintro ⟨channel, member, expected⟩
    exact ⟨channel, stored channel member, List.mem_map_of_mem member, expected⟩
  · rintro ⟨channel, present, named, expected⟩
    obtain ⟨other, member, same⟩ := List.mem_map.mp named
    have equal : other = channel := edited.channels.eq_of_key (stored other member) present same
    exact ⟨channel, equal ▸ member, expected⟩

theorem Mirrors.stored (mirrors : registry.Mirrors) (present : row ∈ registry.abilities) :
    ∃ channel ∈ registry.channels, row.channelId = channel.id := by
  obtain ⟨channel, stored, member⟩ := (mirrors row).mp present
  exact ⟨channel, stored, channelId_of_mem_abilityRows member⟩

end Registry

end TokenFactory.Channels
