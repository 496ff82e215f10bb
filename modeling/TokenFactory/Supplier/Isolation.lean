import TokenFactory.Data.Run
import TokenFactory.Supplier.Channels

namespace TokenFactory.Supplier

open Data Go Relay Distributor

/-! What the requests of one supplier leave alone: the channels of others. -/

namespace Catalogue

def owns (catalogue : Catalogue) (owner id : Int) : Bool :=
  (catalogue.channels.lookup id).any fun channel => channel.ownerUserID = owner

/-- Channels of the owner keep their owner and their application, and nothing is written or
waits to be written about the others. -/
structure Leaves (owner : Int) (before after : Catalogue) : Prop where
  channels : ∀ id, before.owns owner id = false → after.channels.lookup id = before.channels.lookup id
  testResults : ∀ id, before.owns owner id = false →
    ∀ model, after.testResults.lookup (id, model) = before.testResults.lookup (id, model)
  heats : ∀ id, before.owns owner id = false →
    ∀ model, after.heats.lookup (id, model) = before.heats.lookup (id, model)
  own : ∀ id channel, before.channels.lookup id = some channel → channel.ownerUserID = owner →
    ∃ changed, after.channels.lookup id = some changed ∧ changed.ownerUserID = owner ∧
      changed.supplierApplicationID = channel.supplierApplicationID
  tests : ∀ write ∈ after.pending, write ∈ before.pending ∨ before.owns owner write.channelId = true

section
variable {owner : Int} {before after final : Catalogue}

theorem owns_iff {id : Int} : before.owns owner id = true ↔
      ∃ channel, before.channels.lookup id = some channel ∧ channel.ownerUserID = owner := by
  unfold owns
  cases before.channels.lookup id <;> simp

theorem Leaves.refl (catalogue : Catalogue) : Leaves owner catalogue catalogue :=
  ⟨fun _ _ => rfl, fun _ _ _ => rfl, fun _ _ _ => rfl, fun _ channel found own => ⟨channel, found, own, rfl⟩,
    fun _ => .inl⟩

theorem Leaves.owned (leaves : Leaves owner before after) {id : Int} (own : before.owns owner id = true) :
    after.owns owner id = true := by
  obtain ⟨channel, found, named⟩ := owns_iff.mp own
  obtain ⟨changed, kept, still, _⟩ := leaves.own id channel found named
  exact owns_iff.mpr ⟨changed, kept, still⟩

theorem Leaves.foreign (leaves : Leaves owner before after) {id : Int} (other : before.owns owner id = false) :
    after.owns owner id = false := by
  unfold owns at other ⊢
  rw [leaves.channels id other]
  exact other

theorem Leaves.trans (first : Leaves owner before after) (second : Leaves owner after final) :
    Leaves owner before final where
  channels := fun id other => (second.channels id (first.foreign other)).trans (first.channels id other)
  testResults := fun id other model =>
    (second.testResults id (first.foreign other) model).trans (first.testResults id other model)
  heats := fun id other model => (second.heats id (first.foreign other) model).trans (first.heats id other model)
  own := by
    intro id channel found named
    obtain ⟨changed, kept, still, same⟩ := first.own id channel found named
    obtain ⟨last, keptToo, stillToo, sameToo⟩ := second.own id changed kept still
    exact ⟨last, keptToo, stillToo, sameToo.trans same⟩
  tests := by
    intro write member
    rcases second.tests write member with earlier | mine
    · exact first.tests write earlier
    · refine .inr ?_
      by_contra other
      rw [first.foreign (Bool.eq_false_iff.mpr other)] at mine
      cases mine

theorem leaves_save {origin changed : Channel} {abilities : List Ability}
    (found : before.channels.lookup changed.id = some origin) (own : origin.ownerUserID = owner)
    (still : changed.ownerUserID = owner)
    (same : changed.supplierApplicationID = origin.supplierApplicationID) :
    Leaves owner before { before with channels := before.channels.save changed, abilities } where
  channels := by
    intro id other
    refine Table.lookup_save_other ?_
    rintro rfl
    rw [owns_iff.mpr ⟨origin, found, own⟩] at other
    cases other
  testResults := fun _ _ _ => rfl
  heats := fun _ _ _ => rfl
  own := by
    intro id channel held named
    by_cases self : id = changed.id
    · subst self
      cases found.symm.trans held
      exact ⟨changed, Table.lookup_save_self found rfl, still, same⟩
    · exact ⟨channel, (Table.lookup_save_other self).trans held, named, rfl⟩
  tests := fun _ => .inl

theorem leaves_heats {heats : Table Heat.key} (others : ∀ id, before.owns owner id = false →
      ∀ model, heats.lookup (id, model) = before.heats.lookup (id, model)) :
    Leaves owner before { before with heats } :=
  ⟨fun _ _ => rfl, fun _ _ _ => rfl, others, fun _ channel found named => ⟨channel, found, named, rfl⟩,
    fun _ => .inl⟩

theorem leaves_saveHeat {heat : Heat} (own : before.owns owner heat.channelID = true) :
    Leaves owner before (before.saveHeat heat) := by
  have apart {id : Int} (other : before.owns owner id = false) (model : String) :
      (id, model) ≠ heat.key := by
    intro same
    have named : id = heat.channelID := congrArg Prod.fst same
    rw [named, own] at other
    cases other
  unfold saveHeat
  cases before.heats.lookup heat.key with
  | none => exact leaves_heats fun id other model => Table.lookup_insert_other (apart other model)
  | some held => exact leaves_heats fun id other model => Table.lookup_save_other (apart other model)

theorem leaves_saveHeats {heats : List Heat} (own : ∀ heat ∈ heats, before.owns owner heat.channelID = true) :
    Leaves owner before (heats.foldl saveHeat before) := by
  induction heats generalizing before with
  | nil => exact .refl before
  | cons heat rest ih =>
    obtain ⟨first, later⟩ := List.forall_mem_cons.mp own
    have left := leaves_saveHeat first
    exact left.trans (ih fun other member => left.owned (later other member))

theorem leaves_deleteHeat {id : Int} {modelName : String} (own : before.owns owner id = true) :
    Leaves owner before
      { before with heats := before.heats.restrict fun heat => heat.key ≠ (id, modelName) } := by
  refine leaves_heats fun other foreign model => Table.lookup_restrict_other fun same => ?_
  have named : other = id := congrArg Prod.fst same
  rw [named, own] at foreign
  cases foreign

theorem leaves_persist {services : Services} {index : Nat}
    (own : ∀ write ∈ before.pending, before.owns owner write.channelId = true) :
    Leaves owner before (before.persist services index) := by
  unfold persist
  cases found : before.pending[index]? with
  | none => exact .refl before
  | some write =>
    have mine := own write (List.mem_of_getElem? found)
    have apart {id : Int} (other : before.owns owner id = false) : id ≠ write.channelId := by
      rintro rfl
      rw [mine] at other
      cases other
    refine ⟨fun id other => ?_, fun id other model => ?_, fun _ _ _ => rfl, fun id channel held named => ?_,
      fun other member => .inl (List.mem_of_mem_eraseIdx member)⟩
    · rw [Table.lookup_modify, if_neg (apart other)]
    · dsimp only
      split
      · rfl
      · have key : (id, model) ≠ TestResult.key (countedResult services write
            (before.testResults.lookup (write.channelId, write.modelName))) := by
          exact fun same => apart other (congrArg Prod.fst same)
        exact (Table.lookup_insert_other key).trans (Table.lookup_save_other key)
    · rw [Table.lookup_modify]
      split
      · exact ⟨testedChannel services write channel, by rw [held]; rfl, named, rfl⟩
      · exact ⟨channel, held, named, rfl⟩

end

/-- The body is for the channel `origin`, with its owner and its application. -/
structure Bound (origin : Channel) (patch : PatchChannel) : Prop where
  id : patch.channel.id = origin.id
  owner : patch.channel.ownerUserID = origin.ownerUserID
  application : patch.channel.supplierApplicationID = origin.supplierApplicationID

section
variable {services : Services} {caller : Caller} {catalogue : Catalogue} {origin : Channel}
  {patch checked : PatchChannel}

theorem withSupplierType_id : (patch.withSupplierType catalogue origin).channel.id = patch.channel.id := by
  unfold PatchChannel.withSupplierType
  rfl

theorem withRouteSlug_id (done : patch.withRouteSlug catalogue origin = .ok checked) :
    checked.channel.id = patch.channel.id := by
  unfold PatchChannel.withRouteSlug at done
  dsimp only at done
  split at done
  · cases done
    rfl
  split at done
  · cases done
  split at done
  · cases done
  · cases done
    rfl

theorem withOrigin_bound (supplier : caller.role < Auth.Role.adminUser) (same : patch.channel.id = origin.id) :
    Bound origin (patch.withOrigin caller.role origin) := by
  unfold PatchChannel.withOrigin
  dsimp only
  rw [if_pos supplier]
  exact ⟨same, rfl, rfl⟩

theorem withKeys_bound (bound : Bound origin patch) (done : patch.withKeys services origin = .ok checked) :
    Bound origin checked := by
  unfold PatchChannel.withKeys at done
  split at done
  · dsimp only at done
    generalize appended : PatchChannel.appendedKeys .. = keys at done
    cases keys with
    | error refusal => cases done
    | ok key =>
      cases done
      split <;> exact ⟨bound.id, bound.owner, bound.application⟩
  · cases done
    exact bound

theorem nonZero_same {Value : Type} [DecidableEq Value] (zero stored : Value) :
    Channel.nonZero zero stored stored = stored := by
  unfold Channel.nonZero
  split <;> rfl

theorem recounted_bound (services : Services) (bound : Bound origin patch) (stored : Channel) :
    (patch.channel.recounted services stored).ownerUserID = origin.ownerUserID ∧
      (patch.channel.recounted services stored).supplierApplicationID = origin.supplierApplicationID := by
  unfold Channel.recounted
  split <;> exact ⟨bound.owner, bound.application⟩

theorem update_leaves {stored : Channel} (bound : Bound origin patch)
    (found : catalogue.channels.lookup origin.id = some stored) (owner : stored.ownerUserID = origin.ownerUserID)
    (application : stored.supplierApplicationID = origin.supplierApplicationID) :
    Leaves origin.ownerUserID catalogue (catalogue.update services stored patch.channel) := by
  have kept := recounted_bound services bound stored
  have named : stored.id = origin.id := Table.key_of_lookup found
  have held : catalogue.channels.lookup
      (stored.updated (patch.channel.recounted services stored)).id = some stored := by
    rw [Channel.updated_id, named]
    exact found
  refine leaves_save held owner ?_ ?_
  · change Channel.nonZero 0 _ stored.ownerUserID = _
    rw [kept.1, owner, nonZero_same]
  · change Channel.nonZero 0 _ stored.supplierApplicationID = _
    rw [kept.2, ← application, nonZero_same]

theorem readSettings_leaves (services : Services) (bound : Bound origin patch)
    (found : catalogue.channels.lookup origin.id = some origin) :
    Leaves origin.ownerUserID catalogue (catalogue.readSettings services patch origin) := by
  unfold readSettings
  split
  · have named : patch.emptied.channel.id = origin.id := bound.id
    exact leaves_save (named ▸ found) rfl bound.owner bound.application
  · exact .refl catalogue

theorem applyPatch_leaves (bound : Bound origin patch)
    (found : catalogue.channels.lookup origin.id = some origin) :
    Leaves origin.ownerUserID catalogue (catalogue.applyPatch services patch origin).2 := by
  have read := readSettings_leaves services bound found
  unfold applyPatch
  dsimp only
  cases done : patch.withKeys services origin with
  | error refusal => exact read
  | ok checked =>
    obtain ⟨stored, held, owner, application⟩ := read.own origin.id origin found rfl
    rw [held]
    exact read.trans (update_leaves (withKeys_bound bound done) held owner application)

theorem updateChannel_leaves (supplier : caller.role < Auth.Role.adminUser)
    (body : Except Refusal PatchChannel) :
    Leaves caller.id catalogue (catalogue.updateChannel services caller body).2 := by
  unfold updateChannel
  cases body with
  | error refusal => exact .refl catalogue
  | ok patch =>
    dsimp only
    split
    · exact .refl catalogue
    cases found : catalogue.channels.lookup patch.channel.id with
    | none => exact .refl catalogue
    | some origin =>
      dsimp only
      split
      · exact .refl catalogue
      case isFalse allowed =>
        have own : origin.ownerUserID = caller.id := by
          simpa [validateSupplierChannelOwnershipForUpdate, not_le.mpr supplier] using allowed
        cases slugged : (patch.withSupplierType catalogue origin).withRouteSlug catalogue origin with
        | error refusal => exact .refl catalogue
        | ok checked =>
          dsimp only
          split
          · exact .refl catalogue
          · have named : origin.id = patch.channel.id := Table.key_of_lookup found
            have same : checked.channel.id = origin.id := by
              rw [withRouteSlug_id slugged, withSupplierType_id, named]
            rw [← own]
            rw [← named] at found
            exact applyPatch_leaves (withOrigin_bound supplier same) found

theorem updateChannelModels_leaves (supplier : caller.role < Auth.Role.adminUser) (id : String)
    (models : Except Refusal (List String)) :
    Leaves caller.id catalogue (catalogue.updateChannelModels services caller id models).2 := by
  unfold updateChannelModels
  cases atoi id with
  | none => exact .refl catalogue
  | some id =>
    cases models with
    | error reason => exact .refl catalogue
    | ok models =>
      dsimp only
      cases found : catalogue.channels.lookup id with
      | none => exact .refl catalogue
      | some channel =>
        dsimp only
        split
        · exact .refl catalogue
        case isFalse allowed =>
          have own : channel.ownerUserID = caller.id := by
            by_contra other
            exact allowed ⟨supplier, other⟩
          have named : channel.id = id := Table.key_of_lookup found
          rw [← named] at found
          exact leaves_save found own own rfl

end

/-- The tests and the heats that a request is about are those of channels of the caller. -/
def namesOwn (owner : Int) (catalogue : Catalogue) : Event → Bool
  | .request _ (.bulkTestChannelModels id _) | .request _ (.deleteChannelModelHeat id _) =>
    (atoi id).all (catalogue.owns owner)
  | .request _ (.saveChannelModelHeat (.ok heat)) => catalogue.owns owner heat.channelID
  | .request _ (.batchSaveChannelModelHeats (.ok heats)) =>
    heats.all fun heat => catalogue.owns owner heat.channelID
  | _ => true

section
variable {services : Services} {caller : Caller} {catalogue : Catalogue}

theorem bulkTestChannelModels_leaves {id : String} {models : Except Refusal (List String)}
    (named : (atoi id).all (catalogue.owns caller.id) = true) :
    Leaves caller.id catalogue (catalogue.bulkTestChannelModels services id models).2 := by
  unfold bulkTestChannelModels
  cases parsed : atoi id with
  | none => exact .refl catalogue
  | some target =>
    rw [parsed, Option.all_some] at named
    dsimp only
    cases found : catalogue.channels.lookup target with
    | none => exact .refl catalogue
    | some channel =>
      cases models with
      | error reason => exact .refl catalogue
      | ok models =>
        dsimp only
        generalize (if models = [] then channel.getModels else models) = targets
        split
        · exact .refl catalogue
        · refine ⟨fun _ _ => rfl, fun _ _ _ => rfl, fun _ _ _ => rfl,
            fun _ channel found own => ⟨channel, found, own, rfl⟩, fun write member => ?_⟩
          refine (List.mem_append.mp member).imp_right fun added => ?_
          obtain ⟨modelName, _, rfl⟩ := List.mem_map.mp added
          rw [← Table.key_of_lookup found] at named
          exact named

theorem handle_leaves (supplier : caller.role < Auth.Role.adminUser) {request : Request}
    (named : catalogue.namesOwn caller.id (.request services request) = true) :
    Leaves caller.id catalogue (catalogue.handle services caller request).2 := by
  unfold handle
  split
  · exact .refl catalogue
  cases request with
  | updateChannel body => exact updateChannel_leaves supplier body
  | updateChannelModels id models => exact updateChannelModels_leaves supplier id models
  | bulkTestChannelModels id models => exact bulkTestChannelModels_leaves named
  | saveChannelModelHeat body =>
    cases body with
    | error refusal => exact .refl catalogue
    | ok heat => exact leaves_saveHeat named
  | batchSaveChannelModelHeats body =>
    cases body with
    | error refusal => exact .refl catalogue
    | ok heats => exact leaves_saveHeats (List.all_eq_true.mp named)
  | deleteChannelModelHeat id modelName =>
    dsimp only [deleteChannelModelHeat]
    cases parsed : atoi id with
    | none => exact .refl catalogue
    | some target =>
      dsimp only [namesOwn] at named
      rw [parsed, Option.all_some] at named
      dsimp only
      split
      · exact .refl catalogue
      · exact leaves_deleteHeat named

theorem step_leaves {start : Catalogue} (supplier : caller.role < Auth.Role.adminUser)
    (quiet : start.pending = []) (leaves : Leaves caller.id start catalogue) {event : Event}
    (named : catalogue.namesOwn caller.id event = true) :
    Leaves caller.id start (catalogue.step caller event) := by
  cases event with
  | request services request => exact leaves.trans (handle_leaves supplier named)
  | persist services index =>
    refine leaves.trans (leaves_persist fun write member => leaves.owned ?_)
    rcases leaves.tests write member with earlier | mine
    · rw [quiet] at earlier
      cases earlier
    · exact mine

/-- In every sequence of requests of a supplier that test and heat only channels of their
own, together with the writes that the tests leave behind. -/
theorem suppliers_isolated (supplier : caller.role < Auth.Role.adminUser) {start : Catalogue}
    (quiet : start.pending = []) {events : List Event} (named : Guarded (step caller)
      (fun catalogue event => catalogue.namesOwn caller.id event = true) start events) :
    let final := run (step caller) start events
    (∀ id, (∀ channel, start.channels.lookup id = some channel → channel.ownerUserID ≠ caller.id) →
        final.channels.lookup id = start.channels.lookup id ∧
        (∀ model, final.testResults.lookup (id, model) = start.testResults.lookup (id, model)) ∧
        ∀ model, final.heats.lookup (id, model) = start.heats.lookup (id, model)) ∧
      ∀ id channel, start.channels.lookup id = some channel → channel.ownerUserID = caller.id →
        ∃ changed, final.channels.lookup id = some changed ∧ changed.ownerUserID = channel.ownerUserID ∧
          changed.supplierApplicationID = channel.supplierApplicationID := by
  have leaves : Leaves caller.id start (run (step caller) start events) :=
    Guarded.invariant (fun _ _ leaves named => step_leaves supplier quiet leaves named) (.refl start) named
  refine ⟨fun id foreign => ?_, fun id channel found own => ?_⟩
  · have other : start.owns caller.id id = false := by
      rw [← Bool.not_eq_true, owns_iff]
      rintro ⟨channel, found, own⟩
      exact foreign channel found own
    exact ⟨leaves.channels id other, leaves.testResults id other, leaves.heats id other⟩
  · rw [own]
    exact leaves.own id channel found own

end

def plainServices : Services where
  decodeArray := fun _ => none
  vertexArrayKeys := fun _ => .ok []
  vertexKeyType := fun _ => some ""
  settingsInvalid := fun _ => none
  decodeInfo := fun _ => []
  encodeInfo := fun _ => "tested"
  strToMap := fun _ => some []
  codexKey := fun _ => some []
  atoiError := fun _ => "invalid syntax"
  testChannel := fun _ _ => (false, 40, "quota exceeded")
  now := 1000

def channelOwnedBy (id ownerUserID : Int) : Channel where
  id
  type := 1
  companyLogoURL := ""
  supplierType := "AIDC"
  key := "sk-1"
  status := .enabled
  models := "gpt"
  group := "default"
  other := ""
  otherInfo := ""
  otherSettings := ""
  routeSlug := ""
  ownerUserID
  supplierApplicationID := ownerUserID
  priority := none
  weight := none
  priceDiscountPercent := none
  testTime := 0
  responseTime := 0
  isMultiKey := false
  multiKeySize := 0
  multiKeyStatusList := ∅
  multiKeyMode := ""
  columns := []

def twoSuppliers : Catalogue where
  channels := ⟨[channelOwnedBy 1 7, channelOwnedBy 2 8], by decide⟩
  abilities := []
  testResults := ⟨[], by decide⟩
  heats := ⟨[], by decide⟩
  applications := ⟨[⟨7, 7, true, "AIDC"⟩, ⟨8, 8, true, "AIDC"⟩], by decide⟩
  pending := []

def supplierSeven : Caller := ⟨7, Auth.Role.commonUser⟩

def onChannel (id : Int) (text : String) : List Event :=
  [.request plainServices (.bulkTestChannelModels text (.ok [])), .persist plainServices 0,
    .request plainServices (.saveChannelModelHeat (.ok ⟨id, "gpt", 2, 1, 0⟩)),
    .request plainServices (.updateChannel
      (.ok ⟨{ channelOwnedBy id 9 with models := "other" }, none, none⟩))]

theorem suppliers_isolated_ownChannel :
    let final := run (step supplierSeven) twoSuppliers (onChannel 1 "1")
    final.testResults.lookup (2, "gpt") = none ∧
      ∃ changed, final.channels.lookup 1 = some changed ∧ changed.ownerUserID = 7 ∧
        changed.supplierApplicationID = 7 := by
  have supplier : supplierSeven.role < Auth.Role.adminUser := by decide
  have isolated := @suppliers_isolated _ supplier twoSuppliers rfl (onChannel 1 "1") (by decide +kernel)
  have foreign : ∀ channel, twoSuppliers.channels.lookup 2 = some channel →
      channel.ownerUserID ≠ supplierSeven.id := by
    intro channel found
    have held : twoSuppliers.channels.lookup 2 = some (channelOwnedBy 2 8) := rfl
    cases held.symm.trans found
    decide
  exact ⟨((isolated.1 2 foreign).2.1 "gpt").trans rfl, isolated.2 1 (channelOwnedBy 1 7) rfl rfl⟩

/-- The test and the heat of a foreign channel are written; the change of its row is refused. -/
theorem suppliers_not_isolated :
    let final := run (step supplierSeven) twoSuppliers (onChannel 2 "2")
    (twoSuppliers.channels.lookup 2).map Channel.ownerUserID = some 8 ∧
      (final.channels.lookup 2).map Channel.testTime = some 1000 ∧
      (final.testResults.lookup (2, "gpt")).map TestResult.lastTestSuccess = some false ∧
      (final.heats.lookup (2, "gpt")).map Heat.modelSortWeight = some 2 ∧
      (final.channels.lookup 2).map Channel.models = some "gpt" := by
  decide +kernel

end Catalogue

end TokenFactory.Supplier
