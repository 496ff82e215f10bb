import TokenFactory.Channels.Slugs
import TokenFactory.Data.Chunks

namespace TokenFactory.Channels

open Data Go Supplier
open Relay (isValidRouteSlug)

/-! The slugs over whole runs of the requests that write them. -/

/-- Valid and distinct slugs, and a counter that gives positive ids. -/
structure Registry.Named (collate : String → String) (registry : Registry) : Prop where
  slugged : registry.Slugged collate
  counter : 0 < registry.nextId

namespace Registry.Named

variable {collate : String → String} {registry after : Registry}

theorem insert {channel : Channel} (named : registry.Named collate) (given : 0 ≤ channel.id)
    (done : registry.insert collate channel = .ok after) : after.Named collate := by
  obtain ⟨⟨row, created⟩, creating, done⟩ := bind_ok.mp done
  obtain ⟨⟨slug, assigned⟩, assigning, ⟨⟩⟩ := bind_ok.mp done
  have positive := SluggedBut.idFor_pos named.counter given
  have fresh := named.counter
  obtain ⟨rfl, fits, next, _⟩ := SluggedBut.create_spec creating
  obtain ⟨_, _, _, counter, _⟩ := SluggedBut.assign_spec positive assigning
  have slugged := (named.slugged.create creating).assign positive fits assigning
  exact ⟨⟨slugged.valid, slugged.distinct⟩, by change 0 < assigned.nextId; omega⟩

theorem foldl_addAbilities (rows : List Channel) (registry : Registry) :
    ∃ abilities, rows.foldl addAbilities registry = { registry with abilities } := by
  induction rows generalizing registry with
  | nil => exact ⟨registry.abilities, rfl⟩
  | cons row rest ih =>
    obtain ⟨abilities, grown⟩ := ih (registry.addAbilities row)
    exact ⟨abilities, grown⟩

theorem insertChunk {chunk : List Channel} (named : registry.Named collate)
    (given : ∀ channel ∈ chunk, 0 ≤ channel.id) (done : registry.insertChunk collate chunk = .ok after) :
    after.Named collate := by
  obtain ⟨⟨rows, created⟩, creating, done⟩ := bind_ok.mp done
  obtain ⟨assigned, assigning, ⟨⟩⟩ := bind_ok.mp done
  obtain ⟨pending, counter, ids⟩ := named.slugged.createAll named.counter given creating
  rw [List.append_nil] at pending
  obtain ⟨slugged, same⟩ := pending.assignAll ids assigning
  obtain ⟨abilities, grown⟩ := foldl_addAbilities rows assigned
  rw [grown]
  exact ⟨⟨slugged.valid, slugged.distinct⟩, by change 0 < assigned.nextId; omega⟩

theorem batchInsertChannels {channels : List Channel} (named : registry.Named collate)
    (given : ∀ channel ∈ channels, 0 ≤ channel.id)
    (done : registry.batchInsertChannels collate channels = .ok after) : after.Named collate := by
  refine foldlM_invariant (fun middle chunk next chunked named first => ?_) named done
  exact named.insertChunk (fun channel member => given channel (mem_of_mem_toChunks chunked member)) first

theorem updateChannel_tables (registry : Registry) (services : Services) (caller : Caller)
    (body : Except Refusal PatchChannel) :
    (registry.updateChannel services caller body).2.nextId = registry.nextId ∧
      (registry.updateChannel services caller body).2.channels =
        (registry.catalogue.updateChannel services caller body).2.channels := by
  unfold Registry.updateChannel
  dsimp only
  split
  · split <;> exact ⟨rfl, rfl⟩
  · exact ⟨rfl, rfl⟩

/-- `UpdateChannel` leaves the channels alone or writes one row, with the stored slug or with one
that was asked for. -/
theorem updateChannelCollated_writes {services : Services} {caller : Caller} {body : Except Refusal PatchChannel}
    {answer : Except Refusal String}
    (done : registry.updateChannelCollated collate services caller body = (answer, after)) :
    after.nextId = registry.nextId ∧ (after.channels = registry.channels ∨
        ∃ patch origin slug, body = .ok patch ∧ origin ∈ registry.channels ∧
          WritesSlug registry.channels after.channels origin.id slug ∧ (slug = origin.routeSlug ∨
            trimSpace patch.channel.routeSlug ≠ "" ∧ registry.Free collate origin.id slug)) := by
  unfold Registry.updateChannelCollated at done
  cases body with
  | error refusal =>
    obtain ⟨counter, channels⟩ := updateChannel_tables registry services caller (.error refusal)
    dsimp only at done
    rw [done] at counter channels
    exact ⟨counter, .inl channels⟩
  | ok patch =>
    dsimp only at done
    split at done
    · cases done
      exact ⟨rfl, .inl rfl⟩
    · rename_i free
      obtain ⟨counter, channels⟩ := updateChannel_tables registry services caller (.ok patch)
      have writes := @catalogueUpdate_writes services caller registry.catalogue (.ok patch)
      rw [← channels, done] at writes
      rw [done] at counter
      refine ⟨counter, writes.imp_right ?_⟩
      rintro ⟨sent, origin, checked, same, positive, found, allowed, slugged, writes⟩
      cases same
      obtain ⟨stored, named⟩ := Table.lookup_eq_some.mp found
      refine ⟨patch, origin, checked.channel.routeSlug, rfl, stored, writes, ?_⟩
      rcases withRouteSlug_slug slugged with ⟨_, kept⟩ | ⟨asked, slug, valid⟩
      · exact .inl kept
      · rw [withSupplierType_slug] at asked slug valid
        by_cases old : trimSpace patch.channel.routeSlug = origin.routeSlug
        · exact .inl (slug.trans old)
        · refine .inr ⟨asked, ?_⟩
          rw [slug, named]
          refine SluggedBut.free_of_not_taken (valid old) ?_
          have held : registry.channels.lookup patch.channel.id = some origin := found
          simpa [sentSlugTaken, held, positive, allowed, asked, old, valid old] using free

theorem updateChannelCollated {services : Services} {caller : Caller} {body : Except Refusal PatchChannel}
    (named : registry.Named collate) :
    (registry.updateChannelCollated collate services caller body).2.Named collate := by
  cases done : registry.updateChannelCollated collate services caller body with
  | mk answer after =>
    obtain ⟨counter, channels | ⟨patch, origin, slug, _, stored, writes, kept⟩⟩ :=
      updateChannelCollated_writes done
    · refine ⟨⟨?_, ?_⟩, counter ▸ named.counter⟩
      · rw [channels]
        exact named.slugged.valid
      · rw [channels]
        exact named.slugged.distinct
    · have free : registry.Free collate origin.id slug := by
        rcases kept with rfl | ⟨_, free⟩
        · exact named.slugged.free stored
        · exact free
      exact ⟨(named.slugged.mono (List.nil_subset _)).written free writes, counter ▸ named.counter⟩

end Registry.Named

section Import

open ImportServices

variable {importing : ImportServices} {item : Fields} {siteBuilderApiKey name : String} {channel : Channel}

def slugOf (channel : Channel) := (channel.id, channel.routeSlug)

theorem slugOf_chSet (channel : Channel) :
    slugOf (chSet item "routeSlug" (chText fun text channel => { channel with routeSlug := text }) channel) =
      (channel.id, (chGetStr item "routeSlug").getD channel.routeSlug) := by
  unfold chSet chText chGetStr
  cases item.get? "routeSlug" with
  | none => rfl
  | some value => cases value <;> rfl

theorem slugOf_chCommon (type : Int) :
    slugOf (importing.chCommon item siteBuilderApiKey type channel) =
      (channel.id, (chGetStr item "routeSlug").getD channel.routeSlug) := by
  obtain ⟨inner, kept, same⟩ := importing.chCommon_keeps slugOf (fun _ _ _ _ _ _ _ => rfl) (fun _ _ _ => rfl) channel
  obtain ⟨id, slug⟩ := Prod.mk.inj kept
  rw [same, slugOf_chSet, id, slug]

theorem slugOf_chModels (channel : Channel) : slugOf (chSet item "models" chModels channel) = slugOf channel :=
  chSet_keeps slugOf (fun value write reads channel => by
    cases value <;> cases reads
    rfl) channel

theorem slugOf_chGroups (channel : Channel) : slugOf (chSet item "groups" chGroups channel) = slugOf channel :=
  chSet_keeps slugOf (fun value write reads channel => by
    cases value <;> cases reads
    rfl) channel

theorem slugOf_chApplyToExisting : slugOf (importing.chApplyToExisting item siteBuilderApiKey channel) =
    (channel.id, (chGetStr item "routeSlug").getD channel.routeSlug) := by
  have status : ∀ channel, slugOf (chSet item "disabled" chStatus channel) = slugOf channel :=
    chSet_keeps slugOf fun value write reads channel => by
      obtain ⟨disabled, _, rfl⟩ := Option.map_eq_some_iff.mp reads
      rfl
  unfold chApplyToExisting
  rw [slugOf_chGroups, slugOf_chModels, status, slugOf_chCommon]

theorem slugOf_chApplyToNew : slugOf (importing.chApplyToNew item siteBuilderApiKey name) =
    (0, (chGetStr item "routeSlug").getD "") := by
  unfold chApplyToNew
  rw [slugOf_chGroups, slugOf_chModels]
  exact slugOf_chCommon _

end Import

/-- The slug that an item brings for a channel that exists has to be free. -/
def ItemKeepsSlugs (collate : String → String) (registry : Registry) (item : Fields) : Prop :=
  ∀ existing, registry.getChannelByName collate
      (trimSpace ((ImportServices.chGetStr item "name").getD "")) = some existing →
    ∀ slug, ImportServices.chGetStr item "routeSlug" = some slug → registry.Free collate existing.id slug

theorem Registry.Named.importItem {collate : String → String} {registry : Registry} {importing : ImportServices}
    {item : Fields} {siteBuilderApiKey : String} (named : registry.Named collate)
    (keeps : ItemKeepsSlugs collate registry item) :
    (registry.importItem collate importing siteBuilderApiKey item).2.Named collate := by
  rcases registry.importItem_cases collate importing siteBuilderApiKey item with
    same | inserted | ⟨existing, stored, found, same⟩
  · rw [same]
    exact named
  · exact named.insert (Prod.mk.inj slugOf_chApplyToNew).1.ge inserted
  · obtain ⟨id, slug⟩ := Prod.mk.inj (@slugOf_chApplyToExisting importing item siteBuilderApiKey existing)
    rw [same]
    generalize importing.chApplyToExisting item siteBuilderApiKey existing = changed at id slug ⊢
    have free : registry.Free collate changed.id changed.routeSlug := by
      rw [id, slug]
      cases sent : ImportServices.chGetStr item "routeSlug" with
      | none => exact named.slugged.free stored
      | some text => exact keeps existing found text sent
    exact ⟨(named.slugged.mono (List.nil_subset _)).written free (WritesSlug.save _ changed), named.counter⟩

/-- Every channel has the slug of its id, or none. -/
def Registry.Defaulted (registry : Registry) : Prop :=
  ∀ channel ∈ registry.channels, trimSpace channel.routeSlug = "" ∨
    0 < channel.id ∧ channel.routeSlug = defaultRouteSlugFromChannelID channel.id

namespace Registry.Defaulted

variable {collate : String → String} {registry after : Registry} (defaulted : registry.Defaulted)
include defaulted

theorem create {channel row : Channel} (blank : trimSpace channel.routeSlug = "")
    (done : registry.create channel = .ok (row, after)) :
    after.Defaulted ∧ trimSpace row.routeSlug = "" := by
  obtain ⟨rfl, _, _, channels⟩ := SluggedBut.create_spec done
  refine ⟨fun other stored => ?_, blank⟩
  rcases channels other stored with present | rfl
  · exact defaulted other present
  · exact .inl blank

theorem assign {id : Int} {requested slug : String}
    (blank : trimSpace requested = "")
    (done : registry.assignRouteSlugInTx collate id requested = .ok (slug, after)) : after.Defaulted := by
  by_cases positive : 0 < id
  · obtain ⟨named, _, _, _, writes⟩ := SluggedBut.assign_spec positive done
    rw [if_pos blank] at named
    intro channel stored
    rcases writes channel stored with ⟨present, _⟩ | ⟨rfl, same⟩
    · exact defaulted channel present
    · exact .inr ⟨positive, same.trans named⟩
  · unfold Registry.assignRouteSlugInTx at done
    rw [if_pos (by omega)] at done
    cases done
    exact defaulted

theorem insert {channel : Channel} (blank : trimSpace channel.routeSlug = "")
    (done : registry.insert collate channel = .ok after) : after.Defaulted := by
  obtain ⟨⟨row, created⟩, creating, done⟩ := bind_ok.mp done
  obtain ⟨⟨slug, assigned⟩, assigning, ⟨⟩⟩ := bind_ok.mp done
  obtain ⟨grown, unasked⟩ := defaulted.create blank creating
  have named := grown.assign unasked assigning
  exact named

theorem createAll {channels rows : List Channel}
    (blank : ∀ channel ∈ channels, trimSpace channel.routeSlug = "")
    (done : Registry.createAll channels registry = .ok (rows, after)) :
    after.Defaulted ∧ ∀ row ∈ rows, trimSpace row.routeSlug = "" := by
  induction channels generalizing registry rows with
  | nil =>
    cases done
    exact ⟨defaulted, by simp⟩
  | cons channel rest ih =>
    obtain ⟨⟨row, created⟩, creating, done⟩ := bind_ok.mp done
    obtain ⟨⟨others, grown⟩, growing, ⟨⟩⟩ := bind_ok.mp done
    obtain ⟨first, unasked⟩ := defaulted.create (blank channel (.head _)) creating
    obtain ⟨all, others⟩ := ih first (fun other member => blank other (.tail _ member)) growing
    exact ⟨all, List.forall_mem_cons.mpr ⟨unasked, others⟩⟩

theorem assignAll {rows : List Channel}
    (blank : ∀ row ∈ rows, trimSpace row.routeSlug = "")
    (done : Registry.assignAll collate rows registry = .ok after) : after.Defaulted := by
  induction rows generalizing registry with
  | nil =>
    cases done
    exact defaulted
  | cons row rest ih =>
    obtain ⟨⟨slug, assigned⟩, assigning, done⟩ := bind_ok.mp done
    obtain ⟨unasked, later⟩ := List.forall_mem_cons.mp blank
    exact ih (defaulted.assign unasked assigning) later done

theorem batchInsertChannels {channels : List Channel}
    (blank : ∀ channel ∈ channels, trimSpace channel.routeSlug = "")
    (done : registry.batchInsertChannels collate channels = .ok after) : after.Defaulted := by
  refine foldlM_invariant (fun middle chunk next chunked defaulted first => ?_) defaulted done
  obtain ⟨⟨rows, created⟩, creating, first⟩ := bind_ok.mp first
  obtain ⟨assigned, assigning, ⟨⟩⟩ := bind_ok.mp first
  obtain ⟨grown, unasked⟩ := defaulted.createAll
    (fun channel member => blank channel (mem_of_mem_toChunks chunked member)) creating
  obtain ⟨abilities, same⟩ := Named.foldl_addAbilities rows assigned
  have named := grown.assignAll unasked assigning
  rw [same]
  exact named

theorem updateChannelCollated {services : Services} {caller : Caller} {body : Except Refusal PatchChannel}
    (blank : ∀ patch, body = .ok patch → trimSpace patch.channel.routeSlug = "") :
    (registry.updateChannelCollated collate services caller body).2.Defaulted := by
  cases done : registry.updateChannelCollated collate services caller body with
  | mk answer after =>
    obtain ⟨_, channels | ⟨patch, origin, slug, sent, stored, writes, kept⟩⟩ :=
      Named.updateChannelCollated_writes done
    · change ∀ channel ∈ after.channels, _
      rw [channels]
      exact defaulted
    · intro channel present
      rcases writes channel present with ⟨old, _⟩ | ⟨id, same⟩
      · exact defaulted channel old
      · rcases kept with rfl | ⟨asked, _⟩
        · rw [id, same]
          exact defaulted origin stored
        · exact absurd (blank patch sent) asked

theorem importItem {importing : ImportServices} {item : Fields} {siteBuilderApiKey : String}
    (blank : trimSpace ((ImportServices.chGetStr item "routeSlug").getD "") = "") :
    (registry.importItem collate importing siteBuilderApiKey item).2.Defaulted := by
  rcases registry.importItem_cases collate importing siteBuilderApiKey item with
    same | inserted | ⟨existing, stored, found, same⟩
  · rw [same]
    exact defaulted
  · exact defaulted.insert ((Prod.mk.inj slugOf_chApplyToNew).2 ▸ blank) inserted
  · obtain ⟨id, slug⟩ := Prod.mk.inj (@slugOf_chApplyToExisting importing item siteBuilderApiKey existing)
    rw [same]
    intro channel present
    rcases WritesSlug.save registry.channels _ channel present with ⟨old, _⟩ | ⟨self, same⟩
    · exact defaulted channel old
    · rw [self, same, id, slug]
      cases sent : ImportServices.chGetStr item "routeSlug" with
      | none => exact defaulted existing stored
      | some text =>
        rw [sent] at blank
        exact .inl blank

theorem assign_succeeds {id : Int} {requested : String}
    (injective : Function.Injective collate) (blank : trimSpace requested = "") :
    ∃ assigned, registry.assignRouteSlugInTx collate id requested = .ok assigned := by
  unfold Registry.assignRouteSlugInTx
  split
  · exact ⟨_, rfl⟩
  · have free : registry.slugTaken collate (defaultRouteSlugFromChannelID id) id = false := by
      refine SluggedBut.slugTaken_eq_false.mpr fun channel stored same => ?_
      have slug := injective same
      rcases defaulted channel stored with unnamed | ⟨above, own⟩
      · rw [slug, trimSpace_defaultRouteSlug (by omega)] at unnamed
        exact absurd unnamed (defaultRouteSlug_ne_empty (by omega))
      · exact defaultRouteSlug_injective above (by omega) (own.symm.trans slug)
    dsimp only
    rw [refuseIf_neg (fun asked => asked.1 blank), ok_bind, refuseIf_neg (by simp [free]), ok_bind]
    exact ⟨_, rfl⟩

theorem refused_by_create {channel : Channel} {refusal : Refusal}
    (injective : Function.Injective collate) (blank : trimSpace channel.routeSlug = "")
    (refused : registry.insert collate channel = .error refusal) : registry.create channel = .error refusal := by
  unfold Registry.insert at refused
  cases creating : registry.create channel with
  | error reason =>
    rw [creating, error_bind] at refused
    exact congrArg Except.error (Except.error.inj refused)
  | ok made =>
    obtain ⟨row, created⟩ := made
    obtain ⟨grown, unasked⟩ := defaulted.create blank creating
    obtain ⟨assigned, assigning⟩ := @assign_succeeds collate created grown row.id row.routeSlug injective unasked
    rw [creating, ok_bind] at refused
    dsimp only at refused
    rw [assigning, ok_bind] at refused
    cases refused

end Registry.Defaulted

section Runs

variable (collate : String → String) (services : Services) (importing : ImportServices)

/-- What an event has to meet for the slugs to stay valid and distinct. -/
def SlugEvent.KeepsSlugs (registry : Registry) : SlugEvent → Prop
  | .insert channel => 0 ≤ channel.id
  | .batchInsertChannels channels => ∀ channel ∈ channels, 0 ≤ channel.id
  | .updateChannel _ _ => True
  | .importChannels siteBuilderApiKey items =>
    Guarded (fun registry item => (registry.importItem collate importing siteBuilderApiKey item).2)
      (ItemKeepsSlugs collate) registry items

def SlugEvent.AsksNone : SlugEvent → Prop
  | .insert channel => trimSpace channel.routeSlug = ""
  | .batchInsertChannels channels => ∀ channel ∈ channels, trimSpace channel.routeSlug = ""
  | .updateChannel _ body => ∀ patch, body = .ok patch → trimSpace patch.channel.routeSlug = ""
  | .importChannels _ items =>
    ∀ item ∈ items, trimSpace ((ImportServices.chGetStr item "routeSlug").getD "") = ""

variable {collate services importing}

theorem write_named (registry : Registry) (event : SlugEvent) (named : registry.Named collate)
    (keeps : event.KeepsSlugs collate importing registry) :
    (registry.write collate services importing event).Named collate := by
  cases event with
  | insert channel =>
    exact Registry.orRolledBack_keeps named fun after done => named.insert keeps done
  | batchInsertChannels channels =>
    exact Registry.orRolledBack_keeps named fun after done => named.batchInsertChannels keeps done
  | updateChannel caller body => exact named.updateChannelCollated
  | importChannels siteBuilderApiKey items =>
    rw [Registry.write, Registry.importChannels_run]
    exact Guarded.invariant (fun registry item named keeps => named.importItem keeps) named keeps

theorem write_defaulted (registry : Registry) (event : SlugEvent) (defaulted : registry.Defaulted)
    (unasked : event.AsksNone) : (registry.write collate services importing event).Defaulted := by
  cases event with
  | insert channel =>
    exact Registry.orRolledBack_keeps defaulted fun after done => defaulted.insert unasked done
  | batchInsertChannels channels =>
    exact Registry.orRolledBack_keeps defaulted fun after done => defaulted.batchInsertChannels unasked done
  | updateChannel caller body => exact defaulted.updateChannelCollated unasked
  | importChannels siteBuilderApiKey items =>
    rw [Registry.write, Registry.importChannels_run]
    refine Guarded.invariant (fun registry item defaulted unnamed => ?_) defaulted (.of_forall unasked)
    exact defaulted.importItem unnamed

theorem Registry.SluggedBut.resolve {registry : Registry} {slug modelName : String}
    (slugged : registry.Slugged collate) (blank : ∀ slug, isValidRouteSlug slug = true → collate slug ≠ collate "")
    (found : registry.resolveChannelIDByRouteSlugAndModel collate slug modelName ≠ 0) :
    ∃ channel ∈ registry.channels,
      channel.id = registry.resolveChannelIDByRouteSlugAndModel collate slug modelName ∧
      ∀ other ∈ registry.channels, collate other.routeSlug = collate (trimSpace slug) ↔ other = channel := by
  unfold resolveChannelIDByRouteSlugAndModel at found ⊢
  dsimp only at found ⊢
  split at found
  · exact absurd rfl found
  · rename_i fits
    rw [if_neg fits]
    rw [not_or, not_not] at fits
    split at found
    · exact absurd rfl found
    · rename_i channel first
      -- the checks on the row have passed, or the answer would be zero
      split at found
      · exact absurd rfl found
      · rename_i enabled
        split at found
        · exact absurd rfl found
        · rename_i served
          rw [if_neg enabled, if_neg served]
          have among := List.mem_filter.mp ((List.mem_insertionSort _).mp (List.mem_of_mem_head? first))
          have carries : collate channel.routeSlug = collate (trimSpace slug) := of_decide_eq_true among.2
          have named : ∀ other : Channel, collate other.routeSlug = collate (trimSpace slug) →
              other.routeSlug ≠ "" := by
            intro other same empty
            rw [empty] at same
            exact blank _ fits.2 same.symm
          refine ⟨channel, among.1, rfl, fun other stored => ⟨fun same => ?_, fun same => same ▸ carries⟩⟩
          exact Table.eq_of_key stored among.1 (slugged.distinct other stored channel among.1 (by simp) (by simp)
            (named other same) (named channel carries) (same.trans carries.symm))

end Runs

/-- Along every run whose steps meet the condition the slugs stay valid and distinct, a slug is
resolved to the one channel that carries it, and, if no slug was ever asked for and the database
compares texts as they are, an insertion without a slug is never refused because of it. -/
theorem route_slugs_stay_unique (collate : String → String)
    (blank : ∀ slug, isValidRouteSlug slug = true → collate slug ≠ collate "")
    (services : Services) (importing : ImportServices) (start : Registry) (counter : 0 < start.nextId)
    (slugged : start.Slugged collate) (events : List SlugEvent)
    (keeps : Guarded (Registry.write collate services importing) (SlugEvent.KeepsSlugs collate importing)
      start events) :
    let registry := run (Registry.write collate services importing) start events
    (∀ channel ∈ registry.channels, channel.routeSlug ≠ "" → isValidRouteSlug channel.routeSlug = true) ∧
      (∀ channel ∈ registry.channels, ∀ other ∈ registry.channels, channel.routeSlug ≠ "" →
        other.routeSlug ≠ "" → collate channel.routeSlug = collate other.routeSlug → channel = other) ∧
      (∀ slug modelName, registry.resolveChannelIDByRouteSlugAndModel collate slug modelName ≠ 0 →
        ∃ channel ∈ registry.channels,
          channel.id = registry.resolveChannelIDByRouteSlugAndModel collate slug modelName ∧
          ∀ other ∈ registry.channels, collate other.routeSlug = collate (trimSpace slug) ↔ other = channel) ∧
      (start.Defaulted → (∀ event ∈ events, event.AsksNone) → Function.Injective collate →
        ∀ channel, trimSpace channel.routeSlug = "" → ∀ refusal,
          registry.insert collate channel = .error refusal → registry.create channel = .error refusal) := by
  intro registry
  have named : registry.Named collate := Guarded.invariant write_named ⟨slugged, counter⟩ keeps
  refine ⟨fun channel stored => named.slugged.valid channel stored (by simp), ?distinct, ?resolved, ?inserted⟩
  case distinct =>
    intro channel stored other present full otherFull same
    exact Table.eq_of_key stored present
      (named.slugged.distinct channel stored other present (by simp) (by simp) full otherFull same)
  case resolved => exact fun slug modelName found => named.slugged.resolve blank found
  case inserted =>
    intro defaulted unasked exactly channel unnamed refusal refused
    have still : registry.Defaulted :=
      Guarded.invariant write_defaulted defaulted (.of_forall unasked)
    exact still.refused_by_create exactly unnamed refused

open Supplier.Catalogue (plainServices channelOwnedBy)

def namedChannel (id : Int) (name : String) : Channel :=
  { channelOwnedBy id 0 with columns := [("name", .string name)] }

def plainImporting : ImportServices := ⟨fun _ => 0, fun _ => ""⟩

theorem empty_slugged (collate : String → String) : Registry.empty.Slugged collate where
  valid _ stored := absurd stored Table.not_mem_empty
  distinct _ stored := absurd stored Table.not_mem_empty

theorem route_slugs_stay_unique_two_channels :
    let events := [.insert (namedChannel 0 "a"), .insert (namedChannel 0 "b"),
      .importChannels "" [[("name", .string "b"), ("routeSlug", .string "route")]]]
    let registry := run (Registry.write id plainServices plainImporting) Registry.empty events
    (registry.channels.lookup 2).map Channel.routeSlug = some "route" ∧
      ∀ channel ∈ registry.channels, ∀ other ∈ registry.channels, channel.routeSlug ≠ "" →
        other.routeSlug ≠ "" → channel.routeSlug = other.routeSlug → channel = other := by
  intro events registry
  have blank : ∀ slug, isValidRouteSlug slug = true → id slug ≠ id "" := by
    rintro slug valid rfl
    cases valid
  have keeps : Guarded (Registry.write id plainServices plainImporting) (SlugEvent.KeepsSlugs id plainImporting)
      Registry.empty events := by
    refine ⟨le_rfl, le_rfl, ⟨fun existing _ slug sent => ?_, trivial⟩, trivial⟩
    obtain rfl : "route" = slug := Option.some.inj sent
    have unused : ∀ other ∈ (run (Registry.write id plainServices plainImporting) Registry.empty
        (events.take 2)).channels, other.routeSlug ≠ "route" := by
      decide +kernel
    exact fun _ => ⟨by decide +kernel, fun other stored _ same => absurd same (unused other stored)⟩
  exact ⟨by decide +kernel, (route_slugs_stay_unique id blank plainServices plainImporting Registry.empty
    (by decide) (empty_slugged id) events keeps).2.1⟩

/-- How a database compares that has no regard for case. -/
def foldCase (text : String) : String := String.ofList (text.toList.map Char.toLower)

def refusal? : Except Refusal Registry → Option Refusal
  | .ok _ => none
  | .error refusal => some refusal

theorem eq_of_refusal? {attempt : Except Refusal Registry} {refusal : Refusal}
    (said : refusal? attempt = some refusal) : attempt = .error refusal := by
  cases attempt with
  | error reason => exact congrArg Except.error (Option.some.inj said)
  | ok after => cases said

/-- An import gives a channel the slug of another one. Without regard for case the channels 10 and
36, `uA` and `ua`, have one slug, so that the second cannot be inserted. -/
theorem import_repeats_route_slug :
    (¬ ∀ (services : Services) (importing : ImportServices) (start : Registry) (events : List SlugEvent),
      start.Slugged id → (run (Registry.write id services importing) start events).Slugged id) ∧
    ¬ ∀ (services : Services) (importing : ImportServices) (events : List SlugEvent),
      (∀ event ∈ events, event.AsksNone) → ∀ channel, trimSpace channel.routeSlug = "" →
        (run (Registry.write foldCase services importing) Registry.empty events).insert foldCase channel ≠
          .error "route_slug 已被占用" := by
  constructor
  · intro holds
    have slugged := holds plainServices plainImporting Registry.empty
      [.insert (namedChannel 0 "a"), .insert (namedChannel 0 "b"),
        .importChannels "" [[("name", .string "b"), ("routeSlug", .string "u1")]]] (empty_slugged id)
    generalize reached : run (Registry.write id plainServices plainImporting) Registry.empty _ = registry at slugged
    have first : (registry.channels.lookup 1).map Channel.routeSlug = some "u1" := by
      rw [← reached]
      decide +kernel
    have second : (registry.channels.lookup 2).map Channel.routeSlug = some "u1" := by
      rw [← reached]
      decide +kernel
    obtain ⟨one, foundOne, slugOne⟩ := Option.map_eq_some_iff.mp first
    obtain ⟨two, foundTwo, slugTwo⟩ := Option.map_eq_some_iff.mp second
    obtain ⟨storedOne, idOne⟩ := Table.lookup_eq_some.mp foundOne
    obtain ⟨storedTwo, idTwo⟩ := Table.lookup_eq_some.mp foundTwo
    have same := slugged.distinct one storedOne two storedTwo (by simp) (by simp) (by rw [slugOne]; decide)
      (by rw [slugTwo]; decide) (by rw [slugOne, slugTwo])
    rw [idOne, idTwo] at same
    exact absurd same (by decide)
  · intro holds
    refine holds plainServices plainImporting [.insert (namedChannel 10 "a"), .insert (namedChannel 35 "b")] ?_
      (namedChannel 0 "c") rfl (eq_of_refusal? (by decide +kernel))
    intro event among
    rcases List.mem_cons.mp among with rfl | among
    · exact rfl
    · rw [List.mem_singleton.mp among]
      exact rfl

end TokenFactory.Channels
