import TokenFactory.Channels.Mirror

namespace TokenFactory.Channels

open Data Go Supplier
open Distributor (ChannelStatus)

/-! Which operations keep the abilities a mirror of the channels. -/

/-- The mirror, and group names that its rows can be told apart by. -/
structure Registry.Synced (registry : Registry) : Prop where
  mirrors : registry.Mirrors
  groups : ∀ channel ∈ registry.channels, plain channel.group

def columnsOf (channel : Channel) :
    Option String × ChannelStatus × String × String × Option Int × Option Nat :=
  (channel.tag, channel.status, channel.models, channel.group, channel.priority, channel.weight)

theorem columnsOf_set {column : String} {value : Json} {channel : Channel} (other : column ≠ "tag") :
    columnsOf { channel with columns := channel.columns.set column value } = columnsOf channel := by
  unfold columnsOf Channel.tag
  rw [Fields.get?_set, if_neg (Ne.symm other)]

namespace Registry.Synced

variable {registry : Registry} {channel : Channel}

theorem abilityRows_of_columns {first second : Channel} (id : first.id = second.id)
    (columns : columnsOf first = columnsOf second) : abilityRows first = abilityRows second := by
  simp only [columnsOf, Prod.mk.injEq] at columns
  obtain ⟨tag, status, models, group, priority, weight⟩ := columns
  unfold abilityRows places abilityFor
  rw [id, models, group, status, priority, weight, tag]

variable {tag : String} {change : Channel → Channel}

theorem mem_updateTagged {keeps : ∀ channel, (change channel).id = channel.id} {channel : Channel} :
    channel ∈ (registry.updateTagged tag change keeps).channels ↔
      ∃ old ∈ registry.channels, (if old.tag = some tag then change old else old) = channel := by
  unfold Registry.updateTagged
  rw [Table.mem_update]

variable {row : AbilityRow}

theorem mem_updateAbilitiesTagged {change : AbilityRow → AbilityRow}
    {keeps : ∀ row, (change row).key = row.key} :
    row ∈ (registry.updateAbilitiesTagged tag change keeps).abilities ↔
      ∃ old ∈ registry.abilities, (if old.tag = some tag then change old else old) = row := by
  unfold Registry.updateAbilitiesTagged
  rw [Table.mem_update]

theorem updateAbilitiesTagged_channels {change : AbilityRow → AbilityRow}
    {keeps : ∀ row, (change row).key = row.key} :
    (registry.updateAbilitiesTagged tag change keeps).channels = registry.channels := rfl

theorem updateTagged_abilities {keeps : ∀ channel, (change channel).id = channel.id} :
    (registry.updateTagged tag change keeps).abilities = registry.abilities := rfl

theorem tag_of_mem_abilityRows (member : row ∈ abilityRows channel) : row.tag = channel.tag := by
  obtain ⟨place, _, rfl⟩ := List.mem_map.mp member
  rfl

theorem changeTagged {changeRow : AbilityRow → AbilityRow}
    {keeps : ∀ channel, (change channel).id = channel.id} {keepsRow : ∀ row, (changeRow row).key = row.key}
    (synced : registry.Synced) (same : ∀ channel ∈ registry.channels, channel.tag = some tag →
      abilityRows (change channel) = (abilityRows channel).map changeRow)
    (groups : ∀ channel ∈ registry.channels, channel.tag = some tag → (change channel).group = channel.group) :
    ((registry.updateTagged tag change keeps).updateAbilitiesTagged tag changeRow keepsRow).Synced := by
  generalize changed : (registry.updateTagged tag change keeps).updateAbilitiesTagged tag changeRow keepsRow = after
  have channels : ∀ channel, channel ∈ after.channels ↔
      ∃ old ∈ registry.channels, (if old.tag = some tag then change old else old) = channel := fun channel => by
    rw [← changed, updateAbilitiesTagged_channels, mem_updateTagged]
  have abilities : ∀ row, row ∈ after.abilities ↔
      ∃ old ∈ registry.abilities, (if old.tag = some tag then changeRow old else old) = row := fun row => by
    rw [← changed, mem_updateAbilitiesTagged, updateTagged_abilities]
  constructor
  · refine synced.mirrors.mapped channels abilities fun channel stored => ?_
    by_cases tagged : channel.tag = some tag
    · rw [if_pos tagged, same channel stored tagged]
      refine List.map_congr_left fun row member => ?_
      rw [tag_of_mem_abilityRows member, if_pos tagged]
    · rw [if_neg tagged, List.map_congr_left (g := id) fun row member => ?_, List.map_id]
      rw [tag_of_mem_abilityRows member, if_neg tagged, id]
  · intro channel stored
    obtain ⟨old, present, rfl⟩ := (channels channel).mp stored
    split
    · rename_i tagged
      rw [groups old present tagged]
      exact synced.groups old present
    · exact synced.groups old present

theorem setStatusByTag {status : ChannelStatus} {enabled : Bool} (synced : registry.Synced)
    (same : enabled = decide (status = .enabled)) : (registry.setStatusByTag tag status enabled).Synced := by
  subst same
  refine synced.changeTagged (fun channel _ _ => ?_) fun _ _ _ => rfl
  rw [abilityRows, abilityRows, List.map_map]
  rfl

variable {edit : TagEdit} {tag : String}

theorem columnsOf_setColumn {column : String} {text : Option String} (other : column ≠ "tag") :
    columnsOf (TagEdit.setColumn column text channel) = columnsOf channel := by
  cases text with
  | none => rfl
  | some text => exact columnsOf_set other

theorem columnsOf_applyTo (edit : TagEdit) (tagged : channel.tag = some tag) :
    columnsOf (edit.applyTo tag channel) =
      (some (edit.updatedTag tag), channel.status, (TagEdit.sent edit.models).getD channel.models,
        (TagEdit.sent edit.group).getD channel.group, edit.priority.or channel.priority,
        edit.weight.or channel.weight) := by
  unfold TagEdit.applyTo
  generalize texts : TagEdit.setColumn "header_override" edit.headerOverride
    (TagEdit.setColumn "param_override" edit.paramOverride
      (TagEdit.setColumn "model_mapping" (TagEdit.sent edit.modelMapping) channel)) = row
  have kept : columnsOf row = columnsOf channel := by
    rw [← texts, columnsOf_setColumn (by decide), columnsOf_setColumn (by decide),
      columnsOf_setColumn (by decide)]
  simp only [columnsOf, Prod.mk.injEq] at kept
  obtain ⟨tag', status, models, group, priority, weight⟩ := kept
  dsimp only
  rw [models, group, priority, weight]
  split
  · rename_i stays
    have same : row.tag = some (edit.updatedTag tag) := by rw [stays, tag', tagged]
    exact Prod.ext same (Prod.ext status rfl)
  · exact Prod.ext (Channel.tag_withTag _ _) (Prod.ext status rfl)

theorem sent_plain {text : Option String} {stored : String} (clean : ∀ sent ∈ text, plain sent)
    (kept : plain stored) : plain ((TagEdit.sent text).getD stored) := by
  cases found : TagEdit.sent text with
  | none => exact kept
  | some sent => exact clean sent (Option.mem_filter_iff.mp found).1

theorem mem_edited_of_tag (edit : TagEdit) (stored : channel ∈ registry.channels) (tagged : channel.tag = some tag) :
    edit.applyTo tag channel ∈
      (registry.updateTagged tag (edit.applyTo tag) (edit.applyTo_id tag)).taggedChannels (edit.updatedTag tag) := by
  refine List.mem_filter.mpr ⟨?_, decide_eq_true ?_⟩
  · rw [Table.mem_rows, mem_updateTagged]
    exact ⟨channel, stored, if_pos tagged⟩
  · exact congrArg Prod.fst (columnsOf_applyTo edit tagged)

theorem taggedChannels_distinct (registry : Registry) (tag : String) :
    ((registry.taggedChannels tag).map Channel.id).Nodup :=
  (List.filter_sublist.map _).nodup registry.channels.unique

section
variable (synced : registry.Synced)
include synced

theorem edit_groups (clean : ∀ group ∈ edit.group, plain group) :
    ∀ channel ∈ (registry.updateTagged tag (edit.applyTo tag) (edit.applyTo_id tag)).channels,
      plain channel.group := by
  intro channel stored
  obtain ⟨old, present, rfl⟩ := mem_updateTagged.mp stored
  split
  · rename_i tagged
    have columns := columnsOf_applyTo edit tagged
    simp only [columnsOf, Prod.mk.injEq] at columns
    rw [columns.2.2.2.1]
    exact sent_plain clean (synced.groups old present)
  · exact synced.groups old present

theorem editRecreating (clean : ∀ group ∈ edit.group, plain group)
    (recreates : edit.shouldReCreateAbilities = true) : (registry.editChannelByTag tag edit).Synced := by
  have groups := @edit_groups registry edit tag synced clean
  have reached := fun channel => @mem_edited_of_tag registry channel tag edit
  have channels := fun channel => @mem_updateTagged registry tag (edit.applyTo tag) (edit.applyTo_id tag) channel
  have abilities := @updateTagged_abilities registry tag (edit.applyTo tag) (edit.applyTo_id tag)
  unfold Registry.editChannelByTag
  rw [if_pos recreates]
  generalize registry.updateTagged tag (edit.applyTo tag) (edit.applyTo_id tag) = edited at *
  refine ⟨?_, by rwa [foldl_updateAbilities_channels]⟩
  have listed : ∀ channel ∈ edited.taggedChannels (edit.updatedTag tag), channel ∈ edited.channels :=
    fun channel member => (List.mem_filter.mp member).1
  refine synced.mirrors.recreated_stored abilities (taggedChannels_distinct _ _)
    (fun channel member => groups channel (listed channel member)) listed fun channel apart => ?_
  -- a channel that the edit has reached is listed, under the id that it had
  have untagged : ∀ old ∈ registry.channels, old.id = channel.id → old.tag ≠ some tag := by
    intro old stored same tagged
    refine apart (List.mem_map.mpr ⟨_, reached old stored tagged, ?_⟩)
    rw [edit.applyTo_id, same]
  rw [channels]
  constructor
  · rintro ⟨old, stored, rfl⟩
    by_cases tagged : old.tag = some tag
    · refine absurd tagged (untagged old stored ?_)
      rw [if_pos tagged, edit.applyTo_id]
    · rwa [if_neg tagged]
  · intro stored
    exact ⟨channel, stored, if_neg (untagged channel stored rfl)⟩

theorem editKeeping (keeps : edit.shouldReCreateAbilities = false)
    (weights : edit.weight = some 0 → ∀ channel ∈ registry.channels, channel.tag = some tag →
      channel.weight.getD 0 = 0) : (registry.editChannelByTag tag edit).Synced := by
  have nothing : TagEdit.sent edit.models = none ∧ TagEdit.sent edit.group = none := by
    rw [TagEdit.shouldReCreateAbilities, Bool.or_eq_false_iff] at keeps
    exact ⟨Option.not_isSome_iff_eq_none.mp (by simp [keeps.1]), Option.not_isSome_iff_eq_none.mp (by simp [keeps.2])⟩
  unfold Registry.editChannelByTag
  rw [keeps]
  refine @changeTagged registry tag (edit.applyTo tag) edit.applyToAbility (edit.applyTo_id tag) (fun _ => rfl)
    synced (fun channel stored tagged => ?_) fun channel _ tagged => ?_
  · have columns := columnsOf_applyTo edit tagged
    simp only [columnsOf, Prod.mk.injEq, nothing, Option.getD_none] at columns
    obtain ⟨tag', status, models, group, priority, weight⟩ := columns
    rw [abilityRows, abilityRows, List.map_map]
    unfold places
    rw [models, group]
    refine List.map_congr_left fun place _ => ?_
    have weighed : (edit.applyTo tag channel).weight.getD 0 =
        (edit.weight.filter (· ≠ 0)).getD (channel.weight.getD 0) := by
      rw [weight]
      cases sent : edit.weight with
      | none => rfl
      | some value =>
        by_cases zero : value = 0
        · subst zero
          exact (weights sent channel stored tagged).symm
        · simp [Option.filter, zero]
    have ranked : (edit.applyTo tag channel).priority.getD 0 = edit.priority.getD (channel.priority.getD 0) := by
      rw [priority]
      cases edit.priority <;> rfl
    have named : (edit.applyTo tag channel).tag = edit.newTag.or channel.tag := by
      rw [tag', tagged, TagEdit.updatedTag]
      cases edit.newTag <;> rfl
    simp only [abilityFor, TagEdit.applyToAbility, Function.comp_apply, edit.applyTo_id, status, named, weighed,
      ranked]
  · have columns := columnsOf_applyTo edit tagged
    simp only [columnsOf, Prod.mk.injEq, nothing, Option.getD_none] at columns
    exact columns.2.2.2.1

theorem editChannelByTag (clean : ∀ group ∈ edit.group, plain group)
    (weights : edit.shouldReCreateAbilities = false → edit.weight = some 0 →
      ∀ channel ∈ registry.channels, channel.tag = some tag → channel.weight.getD 0 = 0) :
    (registry.editChannelByTag tag edit).Synced := by
  cases recreates : edit.shouldReCreateAbilities with
  | true => exact synced.editRecreating clean recreates
  | false => exact synced.editKeeping recreates (weights recreates)

end

variable {ids : List Int}

theorem mem_setTag {tag : Option String} : channel ∈ (registry.setTag ids tag).channels ↔
      ∃ old ∈ registry.channels, (if old.id ∈ ids then old.withTag tag else old) = channel := by
  unfold Registry.setTag
  rw [Table.mem_update]

theorem columnsOf_withTag {tag : Option String} (same : channel.tag = tag) :
    columnsOf (channel.withTag tag) = columnsOf channel :=
  Prod.ext ((Channel.tag_withTag tag channel).trans same.symm) rfl

theorem batchSetChannelTag {tag : Option String} (synced : registry.Synced)
    (unchanged : ∀ channel ∈ registry.channels, channel.id ∈ ids → channel.tag = tag) :
    (registry.batchSetChannelTag ids tag).Synced := by
  have listed : ∀ channel, channel ∈ registry.channels.rows.filter (fun channel => channel.id ∈ ids) ↔
      channel ∈ registry.channels ∧ channel.id ∈ ids := fun channel => by
    rw [List.mem_filter, Table.mem_rows, decide_eq_true_eq]
  have named : ∀ channel ∈ registry.channels, channel.id ∈ ids →
      channel.id ∈ (registry.channels.rows.filter fun channel => channel.id ∈ ids).map Channel.id :=
    fun channel stored member => List.mem_map_of_mem ((listed channel).mpr ⟨stored, member⟩)
  unfold Registry.batchSetChannelTag
  constructor
  · refine synced.mirrors.recreated rfl ((List.filter_sublist.map _).nodup registry.channels.unique)
      (fun channel member => synced.groups channel ((listed channel).mp member).1)
      (fun channel apart => ?_) fun row => ?_
    · have outside : ∀ old ∈ registry.channels, old.id = channel.id → old.id ∉ ids := fun old stored same member =>
        apart (same ▸ named old stored member)
      rw [mem_setTag]
      constructor
      · rintro ⟨old, stored, rfl⟩
        by_cases member : old.id ∈ ids
        · exact absurd member (outside old stored (by rw [if_pos member]; rfl))
        · rwa [if_neg member]
      · intro stored
        exact ⟨channel, stored, if_neg (outside channel stored rfl)⟩
    · have rows : ∀ old ∈ registry.channels, old.id ∈ ids → abilityRows (old.withTag tag) = abilityRows old :=
        fun old stored member => abilityRows_of_columns rfl (columnsOf_withTag (unchanged old stored member))
      constructor
      · rintro ⟨channel, member, expected⟩
        obtain ⟨stored, among⟩ := (listed channel).mp member
        refine ⟨channel.withTag tag, mem_setTag.mpr ⟨channel, stored, if_pos among⟩, named channel stored among, ?_⟩
        rwa [rows channel stored among]
      · rintro ⟨channel, present, member, expected⟩
        obtain ⟨old, stored, rfl⟩ := mem_setTag.mp present
        obtain ⟨other, among, same⟩ := List.mem_map.mp member
        have inside : old.id ∈ ids := by
          by_contra outside
          rw [if_neg outside] at same
          exact outside (same ▸ ((listed other).mp among).2)
        rw [if_pos inside, rows old stored inside] at expected
        exact ⟨old, (listed old).mpr ⟨stored, inside⟩, expected⟩
  · rw [foldl_updateAbilities_channels]
    intro channel stored
    obtain ⟨old, present, rfl⟩ := mem_setTag.mp stored
    split <;> exact synced.groups old present

theorem batchDeleteChannels (synced : registry.Synced) :
    (registry.batchDeleteChannels ids).Synced := by
  have channels : ∀ channel, channel ∈ (registry.batchDeleteChannels ids).channels ↔
      channel ∈ registry.channels ∧ channel.id ∉ ids := fun channel => by
    rw [Registry.batchDeleteChannels, deleteAbilities_channels, Table.mem_restrict, decide_eq_true_eq]
  constructor
  · intro row
    rw [Registry.batchDeleteChannels, mem_deleteAbilities, synced.mirrors row]
    constructor
    · rintro ⟨⟨channel, stored, member⟩, apart⟩
      rw [channelId_of_mem_abilityRows member] at apart
      exact ⟨channel, (channels channel).mpr ⟨stored, apart⟩, member⟩
    · rintro ⟨channel, stored, member⟩
      obtain ⟨before, apart⟩ := (channels channel).mp stored
      exact ⟨⟨channel, before, member⟩, by rwa [channelId_of_mem_abilityRows member]⟩
  · intro channel stored
    exact synced.groups channel ((channels channel).mp stored).1

theorem restrict {kept : Channel → Bool} (synced : registry.Synced)
    (all : ∀ channel ∈ registry.channels, kept channel = true) :
    ({ registry with channels := registry.channels.restrict kept } : Registry).Synced := by
  have channels : ∀ channel, channel ∈ registry.channels.restrict kept ↔ channel ∈ registry.channels :=
    fun channel => Table.mem_restrict.trans (and_iff_left_of_imp (all channel))
  constructor
  · intro row
    refine (synced.mirrors row).trans ?_
    exact exists_congr fun channel => and_congr_left fun _ => (channels channel).symm
  · intro channel stored
    exact synced.groups channel ((channels channel).mp stored)

theorem store (synced : registry.Synced) (stored : ∃ old ∈ registry.channels, old.id = channel.id)
    (clean : plain channel.group) :
    ({ registry with channels := registry.channels.save channel }.updateAbilities channel : Registry).Synced := by
  obtain ⟨old, present, same⟩ := stored
  have saved : channel ∈ registry.channels.save channel := Table.mem_save.mpr (.inl ⟨rfl, old, present, same⟩)
  constructor
  · refine @Mirrors.recreated_stored registry { registry with channels := registry.channels.save channel }
      [channel] synced.mirrors rfl (List.nodup_singleton _) ?_ ?_ fun other apart => ?_
    · simpa using clean
    · simpa using saved
    · rw [List.map_singleton, List.mem_singleton] at apart
      refine Table.mem_save.trans ⟨?_, fun before => .inr ⟨before, apart⟩⟩
      rintro (⟨rfl, _⟩ | ⟨before, _⟩)
      · exact absurd rfl apart
      · exact before
  · intro other member
    rcases Table.mem_save.mp member with ⟨rfl, _⟩ | ⟨before, _⟩
    · exact clean
    · exact synced.groups other before

variable {services : Services}

theorem update {sent : Channel} (synced : registry.Synced) (clean : plain sent.group)
    (known : ∃ channel ∈ registry.channels, channel.id = sent.id) :
    (registry.orRolledBack (registry.update services sent)).Synced := by
  unfold Registry.update
  by_cases zero : sent.id = 0
  · rw [refuseIf_pos zero]
    exact synced
  · rw [refuseIf_neg zero, ok_bind]
    obtain ⟨stored, present, same⟩ := known
    rw [Table.lookup_eq_some.mpr ⟨present, same⟩]
    refine synced.store ⟨stored, present, rfl⟩ ?_
    have groups : (stored.updated (sent.recounted services stored)).group =
        if sent.group = "" then stored.group else sent.group := by
      unfold Channel.updated Channel.recounted Channel.nonZero
      split <;> rfl
    rw [groups]
    split
    · exact synced.groups stored present
    · exact clean

theorem changedStatus_id (services : Services) (change : StatusChange) (channel : Channel) :
    (changedStatus services change channel).id = channel.id := by
  unfold changedStatus handlerMultiKeyUpdate noteStatus
  split
  · split
    · rfl
    · split <;> rfl
  · rfl

theorem columnsOf_changedStatus (services : Services) (change : StatusChange) (channel : Channel) :
    columnsOf (changedStatus services change channel) =
      (channel.tag, (changedStatus services change channel).status, channel.models, channel.group,
        channel.priority, channel.weight) := by
  unfold changedStatus handlerMultiKeyUpdate noteStatus columnsOf
  split
  · split
    · rfl
    · split <;> rfl
  · rfl

/-- A call for an enabled key leaves a key of the channel that is not counted as disabled. -/
def StatusFits (services : Services) (change : StatusChange) (channel : Channel) : Prop :=
  channel.isMultiKey = true → change.status = .enabled →
    getKeys services channel = [] ∨ allKeysDisabled services change channel = false

theorem changedStatus_enabled {change : StatusChange} (fits : StatusFits services change channel)
    (written : ¬ (channel.isMultiKey = true ∧ (changedStatus services change channel).status = channel.status)) :
    decide ((changedStatus services change channel).status = .enabled) = decide (change.status = .enabled) := by
  cases multi : channel.isMultiKey with
  | false =>
    unfold changedStatus
    rw [multi]
    rfl
  | true =>
    have changed : (changedStatus services change channel).status ≠ channel.status := fun same =>
      written ⟨multi, same⟩
    unfold changedStatus at changed ⊢
    rw [if_pos multi] at changed ⊢
    unfold handlerMultiKeyUpdate noteStatus at changed ⊢
    split
    · rfl
    · rename_i keys
      rw [if_neg keys] at changed
      split
      · rename_i all
        have other : change.status ≠ .enabled := by
          intro enabled
          rcases fits multi enabled with unmarked | marked
          · exact keys unmarked
          · rw [marked] at all
            exact Bool.false_ne_true all
        simp [other]
      · rename_i other
        rw [if_neg other] at changed
        exact absurd rfl changed

theorem saveWith {changed : Channel} {changeRow : AbilityRow → AbilityRow} {rows : Table AbilityRow.key}
    (synced : registry.Synced) (stored : channel ∈ registry.channels) (kept : changed.id = channel.id)
    (group : changed.group = channel.group)
    (abilities : ∀ row, row ∈ rows ↔ ∃ old ∈ registry.abilities, changeRow old = row)
    (own : abilityRows changed = (abilityRows channel).map changeRow)
    (others : ∀ row, row.channelId ≠ channel.id → changeRow row = row) :
    ({ registry with channels := registry.channels.save changed, abilities := rows } : Registry).Synced := by
  have channels : ∀ other, other ∈ registry.channels.save changed ↔
      ∃ old ∈ registry.channels, (if old.id = channel.id then changed else old) = other := by
    intro other
    rw [Table.mem_save, kept]
    constructor
    · rintro (⟨rfl, _⟩ | ⟨present, apart⟩)
      · exact ⟨channel, stored, if_pos rfl⟩
      · exact ⟨other, present, if_neg apart⟩
    · rintro ⟨old, present, rfl⟩
      by_cases same : old.id = channel.id
      · exact .inl ⟨if_pos same, old, present, same⟩
      · rw [if_neg same]
        exact .inr ⟨present, same⟩
  constructor
  · refine synced.mirrors.mapped channels abilities fun other present => ?_
    by_cases same : other.id = channel.id
    · rw [if_pos same, own, registry.channels.eq_of_key present stored same]
    · rw [if_neg same, List.map_congr_left (g := id) fun row member => ?_, List.map_id]
      exact others row (channelId_of_mem_abilityRows member ▸ same)
  · intro other member
    obtain ⟨old, present, rfl⟩ := (channels other).mp member
    split
    · rw [group]
      exact synced.groups channel stored
    · exact synced.groups old present

theorem mem_updateAbilityStatus {id : Int} {enabled : Bool} :
    row ∈ (registry.updateAbilityStatus id enabled).abilities ↔
      ∃ old ∈ registry.abilities, (if old.channelId = id then { old with enabled } else old) = row := by
  unfold Registry.updateAbilityStatus
  rw [Table.mem_update]

theorem updateChannelStatus {cached : Option (Option Channel)} {change : StatusChange}
    (synced : registry.Synced)
    (fits : ∀ channel ∈ registry.channels, channel.id = change.channelId → StatusFits services change channel) :
    (registry.updateChannelStatus services cached change).2.Synced := by
  unfold Registry.updateChannelStatus
  split
  · exact synced
  · cases found : registry.channels.lookup change.channelId with
    | none => exact synced
    | some channel =>
      obtain ⟨stored, named⟩ := Table.lookup_eq_some.mp found
      have columns := columnsOf_changedStatus services change channel
      have same := changedStatus_id services change channel
      have fitting := @changedStatus_enabled channel services change (fits channel stored named)
      dsimp only
      generalize changedStatus services change channel = changed at *
      simp only [columnsOf, Prod.mk.injEq, true_and] at columns
      obtain ⟨tag, models, group, priority, weight⟩ := columns
      split
      · exact synced
      · split
        · rename_i unwritten
          refine @saveWith registry channel changed id registry.abilities synced stored same group
            (fun row => by simp) ?_ fun _ _ => rfl
          rw [List.map_id]
          refine abilityRows_of_columns same ?_
          rw [columnsOf, columnsOf, tag, models, group, priority, weight, unwritten.2]
        · rename_i written
          refine synced.saveWith stored same group (fun row => mem_updateAbilityStatus) ?_ fun row apart => ?_
          · rw [abilityRows, abilityRows, List.map_map]
            unfold places
            rw [models, group]
            refine List.map_congr_left fun place _ => ?_
            simp only [abilityFor, Function.comp_apply, same, tag, priority, weight, fitting written, named, if_true]
          · exact if_neg (named ▸ apart)

end Registry.Synced

end TokenFactory.Channels
