import TokenFactory.Channels.Operations
import TokenFactory.Distributor.Routes
import TokenFactory.Supplier.Isolation

namespace TokenFactory.Channels

open Data Go Supplier
open Relay (isValidRouteSlug isBase62 isBase62_not_space isChannelNo)

/-! Route slugs: a name that leads a request to one channel. -/

section DefaultSlugs

theorem encodeLoop_eq {fuel number : Nat} (buf : List Char) (enough : number ≤ fuel) :
    encodeLoop fuel number buf = ((Nat.digits 62 number).map base62Char).reverse ++ buf := by
  induction fuel generalizing number buf with
  | zero =>
    obtain rfl : number = 0 := by omega
    rfl
  | succ fuel ih =>
    unfold encodeLoop
    split
    · rename_i zero
      rw [zero]
      rfl
    · rename_i positive
      rw [ih _ (by omega), Nat.digits_def' (by decide) (Nat.pos_of_ne_zero positive)]
      simp

theorem idxOf_base62Char : ∀ digit < 62, base62Chars.toList.idxOf (base62Char digit) = digit := by
  decide +kernel

theorem map_idxOf_base62Char (number : Nat) :
    ((Nat.digits 62 number).map base62Char).map base62Chars.toList.idxOf = Nat.digits 62 number := by
  rw [List.map_map]
  calc (Nat.digits 62 number).map (base62Chars.toList.idxOf ∘ base62Char)
      = (Nat.digits 62 number).map id := List.map_congr_left fun digit among =>
          idxOf_base62Char digit (Nat.digits_lt_base (by decide) among)
    _ = Nat.digits 62 number := List.map_id _

theorem isBase62_base62Char : ∀ digit < 62, isBase62 (base62Char digit) = true := by
  decide +kernel

variable {id : Int}

theorem defaultRouteSlug_chars (positive : 0 < id) :
    (defaultRouteSlugFromChannelID id).toList = 'u' :: ((Nat.digits 62 id.toNat).map base62Char).reverse := by
  unfold defaultRouteSlugFromChannelID encodeBase62
  rw [if_neg (by omega), encodeLoop_eq [] le_rfl, List.append_nil, String.toList_append, String.toList_ofList,
    String.toList_ofList]
  rfl

theorem defaultRouteSlug_injective {first second : Int} (left : 0 < first) (right : 0 < second)
    (same : defaultRouteSlugFromChannelID first = defaultRouteSlugFromChannelID second) : first = second := by
  have chars := congrArg String.toList same
  rw [defaultRouteSlug_chars left, defaultRouteSlug_chars right] at chars
  have digits := List.reverse_injective (List.cons.inj chars).2
  have numbers : Nat.digits 62 first.toNat = Nat.digits 62 second.toNat := by
    rw [← map_idxOf_base62Char first.toNat, digits, map_idxOf_base62Char]
  have equal := Nat.digits_inj_iff.mp numbers
  omega

theorem defaultRouteSlug_base62 (positive : 0 < id) {char : Char}
    (member : char ∈ (defaultRouteSlugFromChannelID id).toList) : isBase62 char = true := by
  rw [defaultRouteSlug_chars positive] at member
  rcases List.mem_cons.mp member with rfl | member
  · rfl
  · obtain ⟨digit, among, rfl⟩ := List.mem_map.mp (List.mem_reverse.mp member)
    exact isBase62_base62Char digit (Nat.digits_lt_base (by decide) among)

theorem trimSpace_defaultRouteSlug (positive : 0 < id) :
    trimSpace (defaultRouteSlugFromChannelID id) = defaultRouteSlugFromChannelID id :=
  trimSpace_eq_self
    (fun _ first => isBase62_not_space (defaultRouteSlug_base62 positive (List.mem_of_mem_head? first)))
    fun _ last => isBase62_not_space (defaultRouteSlug_base62 positive (List.mem_of_mem_getLast? last))

theorem defaultRouteSlug_ne_empty (positive : 0 < id) : defaultRouteSlugFromChannelID id ≠ "" := by
  intro empty
  have chars := defaultRouteSlug_chars positive
  rw [empty] at chars
  cases chars

theorem defaultRouteSlug_valid (positive : 0 < id) (fits : id < 2 ^ 63) :
    isValidRouteSlug (defaultRouteSlugFromChannelID id) = true := by
  have base : ∀ char ∈ (defaultRouteSlugFromChannelID id).toList, isBase62 char = true := fun char =>
    defaultRouteSlug_base62 positive
  have clean := trimSpace_defaultRouteSlug positive
  have short : (Nat.digits 62 id.toNat).length ≤ 11 := by
    rw [Nat.digits_length_le_iff (by decide)]
    omega
  have long : 0 < (Nat.digits 62 id.toNat).length :=
    List.length_pos_of_ne_nil (Nat.digits_ne_nil_iff_ne_zero.mpr (by omega))
  have letter : isChannelNo (defaultRouteSlugFromChannelID id) = false := by
    unfold isChannelNo
    rw [defaultRouteSlug_chars positive]
    rfl
  have size : (defaultRouteSlugFromChannelID id).toList.length = (Nat.digits 62 id.toNat).length + 1 := by
    rw [defaultRouteSlug_chars positive]
    simp
  unfold isValidRouteSlug
  simp only [clean, letter, size, List.all_eq_true.mpr base, Bool.and_true, Bool.not_false, Bool.and_eq_true,
    decide_eq_true_eq]
  omega

end DefaultSlugs

namespace Registry

variable (collate : String → String) (services : Services) (importing : ImportServices)

/-- `First` takes the row with the least id. -/
def resolveChannelIDByRouteSlugAndModel (registry : Registry) (slug modelName : String) : Int :=
  let slug := trimSpace slug
  if slug = "" ∨ ¬ isValidRouteSlug slug then 0
  else
    match ((registry.channels.rows.filter fun channel => collate channel.routeSlug = collate slug).insertionSort
      fun first second => first.id ≤ second.id).head? with
    | none => 0
    | some channel =>
      if channel.status ≠ .enabled then 0
      else if ¬ Distributor.ChannelStore.channelModelsRawContains channel.models modelName then 0
      else channel.id

/-- The count of `UpdateChannel`, which is reached with a valid slug that is not the stored one. -/
def sentSlugTaken (registry : Registry) (caller : Caller) (patch : PatchChannel) : Bool :=
  match registry.channels.lookup patch.channel.id with
  | none => false
  | some origin =>
    let slug := trimSpace patch.channel.routeSlug
    0 < patch.channel.id && validateSupplierChannelOwnershipForUpdate caller origin && slug ≠ "" &&
      slug ≠ origin.routeSlug && isValidRouteSlug slug && registry.slugTaken collate slug patch.channel.id

/-- `UpdateChannel` on a database that compares by `collate`. -/
def updateChannelCollated (registry : Registry) (caller : Caller) (body : Except Refusal PatchChannel) :
    Except Refusal String × Registry :=
  match body with
  | .error _ => registry.updateChannel services caller body
  | .ok patch =>
    if registry.sentSlugTaken collate caller patch then (.error "route_slug 已被其他渠道占用", registry)
    else registry.updateChannel services caller body

end Registry

inductive SlugEvent where
  | insert (channel : Channel)
  | batchInsertChannels (channels : List Channel)
  | updateChannel (caller : Caller) (body : Except Refusal PatchChannel)
  | importChannels (siteBuilderApiKey : String) (items : List Fields)

def Registry.write (collate : String → String) (services : Services) (importing : ImportServices)
    (registry : Registry) : SlugEvent → Registry
  | .insert channel => registry.orRolledBack (registry.insert collate channel)
  | .batchInsertChannels channels => registry.orRolledBack (registry.batchInsertChannels collate channels)
  | .updateChannel caller body => (registry.updateChannelCollated collate services caller body).2
  | .importChannels siteBuilderApiKey items =>
    (registry.importChannels collate importing siteBuilderApiKey items).2

/-- Every row of the id has the slug, and the others are rows from before. -/
def WritesSlug (before after : Table Supplier.Channel.id) (id : Int) (slug : String) : Prop :=
  ∀ channel ∈ after, channel ∈ before ∧ channel.id ≠ id ∨ channel.id = id ∧ channel.routeSlug = slug

namespace WritesSlug

variable {before middle after : Table Supplier.Channel.id} {id : Int} {slug other : String}

theorem save (table : Table Supplier.Channel.id) (row : Channel) :
    WritesSlug table (table.save row) row.id row.routeSlug := by
  intro channel stored
  rcases Table.mem_save.mp stored with ⟨rfl, _⟩ | ⟨present, apart⟩
  · exact .inr ⟨rfl, rfl⟩
  · exact .inl ⟨present, apart⟩

theorem modify (table : Table Supplier.Channel.id) (id : Int) (slug : String) :
    WritesSlug table (table.modify id (fun row => { row with routeSlug := slug }) (withSlug_id slug)) id slug := by
  intro channel stored
  rw [Table.mem_modify] at stored
  obtain ⟨old, present, rfl⟩ := stored
  split
  · rename_i same
    exact .inr ⟨same, rfl⟩
  · rename_i apart
    exact .inl ⟨present, apart⟩

theorem trans (first : WritesSlug before middle id other) (second : WritesSlug middle after id slug) :
    WritesSlug before after id slug := by
  intro channel stored
  rcases second channel stored with ⟨present, apart⟩ | written
  · rcases first channel present with old | ⟨same, _⟩
    · exact .inl old
    · exact absurd same apart
  · exact .inr written

end WritesSlug

section UpdateChannel

variable {services : Services} {caller : Caller} {catalogue : Catalogue} {origin : Channel}
  {patch checked : PatchChannel}

theorem withRouteSlug_slug (done : patch.withRouteSlug catalogue origin = .ok checked) :
    trimSpace patch.channel.routeSlug = "" ∧ checked.channel.routeSlug = origin.routeSlug ∨
      trimSpace patch.channel.routeSlug ≠ "" ∧ checked.channel.routeSlug = trimSpace patch.channel.routeSlug ∧
        (trimSpace patch.channel.routeSlug ≠ origin.routeSlug →
          isValidRouteSlug (trimSpace patch.channel.routeSlug) = true) := by
  unfold PatchChannel.withRouteSlug at done
  dsimp only at done
  split at done
  · rename_i blank
    cases done
    exact .inl ⟨blank, rfl⟩
  · rename_i asked
    split at done
    · cases done
    · rename_i fits
      split at done
      · cases done
      · cases done
        exact .inr ⟨asked, rfl, fun other => by simpa using not_and.mp fits other⟩

theorem withSupplierType_slug (patch : PatchChannel) (catalogue : Catalogue) (origin : Channel) :
    (patch.withSupplierType catalogue origin).channel.routeSlug = patch.channel.routeSlug := by
  unfold PatchChannel.withSupplierType
  rfl

theorem withOrigin_slug (patch : PatchChannel) (role : Int) (origin : Channel) :
    (patch.withOrigin role origin).channel.routeSlug = patch.channel.routeSlug := by
  unfold PatchChannel.withOrigin
  dsimp only
  split <;> rfl

theorem withOrigin_id (patch : PatchChannel) (role : Int) (origin : Channel) :
    (patch.withOrigin role origin).channel.id = patch.channel.id := by
  unfold PatchChannel.withOrigin
  dsimp only
  split <;> rfl

theorem withKeys_slug (done : patch.withKeys services origin = .ok checked) :
    checked.channel.routeSlug = patch.channel.routeSlug := by
  unfold PatchChannel.withKeys at done
  split at done
  · dsimp only at done
    generalize appended : PatchChannel.appendedKeys .. = keys at done
    cases keys with
    | error refusal => cases done
    | ok key =>
      cases done
      split <;> rfl
  · cases done
    rfl

theorem recounted_slug (services : Services) (sent stored : Channel) :
    (sent.recounted services stored).routeSlug = sent.routeSlug := by
  unfold Channel.recounted
  split <;> rfl

theorem update_writes {stored sent : Channel} (services : Services)
    (empty : sent.routeSlug = "" → stored.routeSlug = "") :
    WritesSlug catalogue.channels (catalogue.update services stored sent).channels stored.id sent.routeSlug := by
  have slug : (stored.updated (sent.recounted services stored)).routeSlug = sent.routeSlug := by
    change Channel.nonZero "" (sent.recounted services stored).routeSlug stored.routeSlug = _
    rw [recounted_slug]
    unfold Channel.nonZero
    split
    · rename_i unnamed
      rw [unnamed, empty unnamed]
    · rfl
  have saved := WritesSlug.save catalogue.channels (stored.updated (sent.recounted services stored))
  rw [slug] at saved
  exact saved

theorem applyPatch_writes (found : catalogue.channels.lookup origin.id = some origin)
    (named : patch.channel.id = origin.id) (empty : patch.channel.routeSlug = "" → origin.routeSlug = "") :
    (catalogue.applyPatch services patch origin).2.channels = catalogue.channels ∨
      WritesSlug catalogue.channels (catalogue.applyPatch services patch origin).2.channels origin.id
        patch.channel.routeSlug := by
  -- the catalogue after the settings were read, and the row that it holds for the channel
  have read : (catalogue.readSettings services patch origin).channels = catalogue.channels ∨
      WritesSlug catalogue.channels (catalogue.readSettings services patch origin).channels origin.id
        patch.channel.routeSlug := by
    unfold Catalogue.readSettings
    split
    · rw [← named]
      exact .inr (WritesSlug.save catalogue.channels patch.emptied.channel)
    · exact .inl rfl
  unfold Catalogue.applyPatch
  dsimp only
  cases done : patch.withKeys services origin with
  | error refusal => exact read
  | ok checked =>
    cases held : (catalogue.readSettings services patch origin).channels.lookup origin.id with
    | none => exact read
    | some stored =>
      obtain ⟨present, same⟩ := Table.lookup_eq_some.mp held
      have slug := withKeys_slug done
      have kept : patch.channel.routeSlug = "" → stored.routeSlug = "" := by
        intro unnamed
        rcases read with unread | written
        · rw [unread, found] at held
          rw [← Option.some.inj held]
          exact empty unnamed
        · rcases written stored present with ⟨_, apart⟩ | ⟨_, slug⟩
          · exact absurd same apart
          · exact slug.trans unnamed
      have updated := @update_writes (catalogue.readSettings services patch origin) stored checked.channel
        services (by rwa [slug])
      rw [same, slug] at updated
      refine .inr ?_
      rcases read with unread | written
      · rwa [unread] at updated
      · exact written.trans updated

theorem catalogueUpdate_writes {body : Except Refusal PatchChannel} :
    (catalogue.updateChannel services caller body).2.channels = catalogue.channels ∨
      ∃ patch origin checked, body = .ok patch ∧ 0 < patch.channel.id ∧
        catalogue.channels.lookup patch.channel.id = some origin ∧
        validateSupplierChannelOwnershipForUpdate caller origin = true ∧
        (patch.withSupplierType catalogue origin).withRouteSlug catalogue origin = .ok checked ∧
        WritesSlug catalogue.channels (catalogue.updateChannel services caller body).2.channels origin.id
          checked.channel.routeSlug := by
  unfold Catalogue.updateChannel
  cases body with
  | error refusal => exact .inl rfl
  | ok patch =>
    dsimp only
    split
    · exact .inl rfl
    · cases found : catalogue.channels.lookup patch.channel.id with
      | none => exact .inl rfl
      | some origin =>
        dsimp only
        split
        · exact .inl rfl
        · rename_i allowed
          cases slugged : (patch.withSupplierType catalogue origin).withRouteSlug catalogue origin with
          | error refusal => exact .inl rfl
          | ok checked =>
            dsimp only
            split
            · exact .inl rfl
            · obtain ⟨stored, same⟩ := Table.lookup_eq_some.mp found
              have named : checked.channel.id = origin.id := by
                rw [Catalogue.withRouteSlug_id slugged, Catalogue.withSupplierType_id, same]
              have empty : checked.channel.routeSlug = "" → origin.routeSlug = "" := by
                intro unnamed
                rcases withRouteSlug_slug slugged with ⟨_, kept⟩ | ⟨asked, sent, _⟩
                · rw [← kept, unnamed]
                · exact absurd (sent.symm.trans unnamed) asked
              generalize sending : PatchChannel.withOrigin _ caller.role origin = sent
              have slug : sent.channel.routeSlug = checked.channel.routeSlug := by
                rw [← sending, withOrigin_slug]
                rfl
              have id : sent.channel.id = origin.id := by
                rw [← sending, withOrigin_id]
                exact named
              have writes := @applyPatch_writes services catalogue origin sent (same ▸ found) id
                (by rwa [slug])
              rw [slug] at writes
              exact writes.imp_right fun writes =>
                ⟨patch, origin, checked, rfl, by omega, found, by simpa using allowed, slugged, writes⟩

end UpdateChannel

/-- A slug that a channel may have: none, or a valid one that no other channel has. -/
def Registry.Free (collate : String → String) (registry : Registry) (id : Int) (slug : String) : Prop :=
  slug ≠ "" → isValidRouteSlug slug = true ∧ ∀ other ∈ registry.channels, other.routeSlug ≠ "" →
    collate other.routeSlug = collate slug → other.id = id

/-- The slugs of the channels that are not `pending` are valid and distinct. -/
structure Registry.SluggedBut (collate : String → String) (pending : List Int) (registry : Registry) : Prop where
  valid : ∀ channel ∈ registry.channels, channel.id ∉ pending → channel.routeSlug ≠ "" →
    isValidRouteSlug channel.routeSlug = true
  distinct : ∀ channel ∈ registry.channels, ∀ other ∈ registry.channels, channel.id ∉ pending →
    other.id ∉ pending → channel.routeSlug ≠ "" → other.routeSlug ≠ "" →
      collate channel.routeSlug = collate other.routeSlug → channel.id = other.id

abbrev Registry.Slugged (collate : String → String) (registry : Registry) : Prop :=
  registry.SluggedBut collate []

namespace Registry.SluggedBut

variable {collate : String → String} {registry before after : Registry} {pending : List Int}

variable {id : Int} {slug : String}

theorem slugTaken_eq_false : registry.slugTaken collate slug id = false ↔
    ∀ channel ∈ registry.channels, collate channel.routeSlug = collate slug → channel.id = id := by
  unfold slugTaken
  rw [List.any_eq_false]
  refine forall₂_congr fun channel stored => ?_
  simp

theorem free_of_not_taken (valid : isValidRouteSlug slug = true)
    (free : registry.slugTaken collate slug id = false) : registry.Free collate id slug :=
  fun _ => ⟨valid, fun other stored _ => slugTaken_eq_false.mp free other stored⟩

theorem free (slugged : registry.Slugged collate) {channel : Channel} (stored : channel ∈ registry.channels) :
    registry.Free collate channel.id channel.routeSlug := by
  intro named
  refine ⟨slugged.valid channel stored (by simp) named, fun other present used same => ?_⟩
  exact slugged.distinct other present channel stored (by simp) (by simp) used named same

theorem mono {more : List Int} (slugged : registry.SluggedBut collate pending) (within : pending ⊆ more) :
    registry.SluggedBut collate more where
  valid channel stored apart := slugged.valid channel stored fun member => apart (within member)
  distinct channel stored other present left right :=
    slugged.distinct channel stored other present (fun member => left (within member)) fun member =>
      right (within member)

theorem written (slugged : before.SluggedBut collate (id :: pending))
    (free : before.Free collate id slug) (writes : WritesSlug before.channels after.channels id slug) :
    after.SluggedBut collate pending := by
  constructor
  · intro channel stored settled named
    rcases writes channel stored with ⟨present, apart⟩ | ⟨_, same⟩
    · exact slugged.valid channel present (List.not_mem_cons_of_ne_of_not_mem apart settled) named
    · rw [same] at named ⊢
      exact (free named).1
  · intro channel stored other also left right named someOther same
    rcases writes channel stored with ⟨present, apart⟩ | ⟨self, slug⟩ <;>
      rcases writes other also with ⟨presentToo, apartToo⟩ | ⟨selfToo, slugToo⟩
    · exact slugged.distinct channel present other presentToo (List.not_mem_cons_of_ne_of_not_mem apart left)
        (List.not_mem_cons_of_ne_of_not_mem apartToo right) named someOther same
    · rw [slugToo] at same someOther
      exact absurd ((free someOther).2 channel present named same) apart
    · rw [slug] at same named
      exact absurd ((free named).2 other presentToo someOther same.symm) apartToo
    · exact self.trans selfToo.symm

theorem create_spec {channel row : Channel} (done : registry.create channel = .ok (row, after)) :
    row = registry.created channel ∧ row.id < 2 ^ 63 ∧
      after.nextId = max registry.nextId (row.id + 1) ∧
      ∀ other ∈ after.channels, other ∈ registry.channels ∨ other = row := by
  obtain ⟨_, fits, done⟩ := bind_ok.mp done
  obtain ⟨_, unused, ⟨⟩⟩ := bind_ok.mp done
  exact ⟨rfl, by simpa using refuseIf_ok.mp fits, rfl, fun other => Table.mem_of_mem_insert⟩

theorem create {channel row : Channel} (slugged : registry.SluggedBut collate pending)
    (done : registry.create channel = .ok (row, after)) : after.SluggedBut collate (row.id :: pending) := by
  obtain ⟨_, _, _, channels⟩ := create_spec done
  have old : ∀ other ∈ after.channels, other.id ∉ row.id :: pending →
      other ∈ registry.channels ∧ other.id ∉ pending := by
    intro other stored settled
    rw [List.mem_cons, not_or] at settled
    rcases channels other stored with present | rfl
    · exact ⟨present, settled.2⟩
    · exact absurd rfl settled.1
  constructor
  · intro other stored settled
    obtain ⟨present, settled⟩ := old other stored settled
    exact slugged.valid other present settled
  · intro other stored another also left right
    obtain ⟨present, left⟩ := old other stored left
    obtain ⟨presentToo, right⟩ := old another also right
    exact slugged.distinct other present another presentToo left right

theorem assign_spec {requested slug : String} (positive : 0 < id)
    (done : registry.assignRouteSlugInTx collate id requested = .ok (slug, after)) :
    slug = (if trimSpace requested = "" then defaultRouteSlugFromChannelID id else trimSpace requested) ∧
      (trimSpace requested ≠ "" → isValidRouteSlug slug = true) ∧
      registry.slugTaken collate slug id = false ∧ after.nextId = registry.nextId ∧
      WritesSlug registry.channels after.channels id slug := by
  unfold Registry.assignRouteSlugInTx at done
  rw [if_neg (by omega)] at done
  obtain ⟨_, fits, done⟩ := bind_ok.mp done
  obtain ⟨_, free, done⟩ := bind_ok.mp done
  obtain ⟨named, rfl⟩ := Prod.mk.inj (Except.ok.inj done)
  rw [named] at fits free
  have valid := refuseIf_ok.mp fits
  refine ⟨named.symm, fun asked => ?_, by simpa using refuseIf_ok.mp free, rfl, ?_⟩
  · by_contra invalid
    exact valid ⟨asked, invalid⟩
  · rw [← named]
    exact WritesSlug.modify registry.channels id _

theorem assign {requested slug : String} (slugged : registry.SluggedBut collate (id :: pending))
    (positive : 0 < id) (fits : id < 2 ^ 63)
    (done : registry.assignRouteSlugInTx collate id requested = .ok (slug, after)) :
    after.SluggedBut collate pending := by
  obtain ⟨named, asked, free, _, writes⟩ := assign_spec positive done
  have valid : isValidRouteSlug slug = true := by
    by_cases blank : trimSpace requested = ""
    · rw [named, if_pos blank]
      exact defaultRouteSlug_valid positive fits
    · exact asked blank
  exact slugged.written (free_of_not_taken valid free) writes

theorem idFor_pos {channel : Channel} (counter : 0 < registry.nextId) (given : 0 ≤ channel.id) :
    0 < registry.idFor channel := by
  unfold idFor
  split <;> omega

theorem createAll {channels rows : List Channel} (slugged : registry.SluggedBut collate pending)
    (counter : 0 < registry.nextId) (given : ∀ channel ∈ channels, 0 ≤ channel.id)
    (done : Registry.createAll channels registry = .ok (rows, after)) :
    after.SluggedBut collate (rows.map Channel.id ++ pending) ∧ 0 < after.nextId ∧
      ∀ row ∈ rows, 0 < row.id ∧ row.id < 2 ^ 63 := by
  induction channels generalizing registry rows pending with
  | nil =>
    cases done
    exact ⟨slugged, counter, by simp⟩
  | cons channel rest ih =>
    obtain ⟨⟨row, created⟩, creating, done⟩ := bind_ok.mp done
    obtain ⟨⟨others, grown⟩, growing, ⟨⟩⟩ := bind_ok.mp done
    obtain ⟨rfl, fits, next, _⟩ := create_spec creating
    have positive : 0 < registry.idFor channel := idFor_pos counter (given channel (.head _))
    obtain ⟨all, still, ids⟩ := ih (slugged.create creating) (by omega)
      (fun other member => given other (.tail _ member)) growing
    refine ⟨all.mono ?_, still, List.forall_mem_cons.mpr ⟨⟨positive, fits⟩, ids⟩⟩
    intro id member
    simp only [List.map_cons, List.cons_append, List.mem_append, List.mem_cons] at member ⊢
    tauto

theorem assignAll {rows : List Channel} (slugged : registry.SluggedBut collate (rows.map Channel.id))
    (ids : ∀ row ∈ rows, 0 < row.id ∧ row.id < 2 ^ 63)
    (done : Registry.assignAll collate rows registry = .ok after) :
    after.Slugged collate ∧ after.nextId = registry.nextId := by
  induction rows generalizing registry with
  | nil =>
    cases done
    exact ⟨slugged, rfl⟩
  | cons row rest ih =>
    obtain ⟨⟨slug, assigned⟩, assigning, done⟩ := bind_ok.mp done
    obtain ⟨⟨positive, fits⟩, later⟩ := List.forall_mem_cons.mp ids
    obtain ⟨_, _, _, counter, _⟩ := assign_spec positive assigning
    obtain ⟨named, same⟩ := ih (slugged.assign positive fits assigning) later done
    exact ⟨named, same.trans counter⟩

end Registry.SluggedBut

end TokenFactory.Channels
