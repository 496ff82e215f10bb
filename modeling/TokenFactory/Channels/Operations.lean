import TokenFactory.Channels.Registry
import TokenFactory.Data.Run

namespace TokenFactory.Channels

open Data Go Supplier
open Distributor (ChannelStatus)

/-! The operations of `model/channel.go` that change channels in other ways than
one by one: by status, by tag, in bulk, and by an import.

Every statement of the database succeeds; an operation that runs in a
transaction still reads through another connection where the source does. -/

section Status

variable (services : Services)

def getKeys (channel : Channel) : List String :=
  if channel.key = "" then []
  else
    let array :=
      if hasPrefix (trimSpace channel.key) "[" then services.decodeArray (trimSpace channel.key) else none
    array.getD (split '\n' (String.ofList (Distributor.ChannelRow.trimNewlines channel.key)))

def noteStatus (reason : String) (channel : Channel) : Channel :=
  let info := ((services.decodeInfo channel.otherInfo).set "status_reason" (.string reason)).set "status_time"
    (.number services.now)
  { channel with otherInfo := services.encodeInfo info }

structure StatusChange where
  channelId : Int
  usingKey : String
  status : ChannelStatus
  reason : String
deriving DecidableEq

section
variable (change : StatusChange)

def markedKeys (channel : Channel) : AList fun _ : Nat => ChannelStatus :=
  let index := ((getKeys services channel).idxOf? change.usingKey).getD 0
  if change.status = .enabled then channel.multiKeyStatusList.erase index
  else channel.multiKeyStatusList.insert index change.status

def allKeysDisabled (channel : Channel) : Bool :=
  ((markedKeys services change channel).entries.length : Int) ≥ channel.multiKeySize

def handlerMultiKeyUpdate (channel : Channel) : Channel :=
  if getKeys services channel = [] then { channel with status := change.status }
  else
    let marked := { channel with multiKeyStatusList := markedKeys services change channel }
    if allKeysDisabled services change channel then
      noteStatus services "All keys are disabled" { marked with status := .autoDisabled }
    else marked

def changedStatus (channel : Channel) : Channel :=
  if channel.isMultiKey then handlerMultiKeyUpdate services change channel
  else { noteStatus services change.reason channel with status := change.status }

/-- What the memory cache holds for the channel: `none` without the cache. The call is given
up when the channel is not cached, or is cached with the wanted status. -/
def givenUp (cached : Option (Option Channel)) : Bool :=
  match cached with
  | none => false
  | some none => true
  | some (some channel) => !channel.isMultiKey && channel.status = change.status

end

end Status

namespace Registry

variable (services : Services) (registry : Registry)

def updateAbilityStatus (channelId : Int) (enabled : Bool) : Registry :=
  { registry with
    abilities := registry.abilities.update
      (fun row => if row.channelId = channelId then { row with enabled } else row)
      fun row => by split <;> rfl }

def updateChannelStatus (cached : Option (Option Channel)) (change : StatusChange) : Bool × Registry :=
  if givenUp change cached then (false, registry)
  else
    match registry.channels.lookup change.channelId with
    | none => (false, registry)
    | some channel =>
      if channel.status = change.status then (false, registry)
      else
        let changed := changedStatus services change channel
        let saved := { registry with channels := registry.channels.save changed }
        -- with several keys the abilities are only written when the status of the channel has changed
        (true, if channel.isMultiKey ∧ changed.status = channel.status then saved
          else saved.updateAbilityStatus change.channelId (change.status = .enabled))

def updateTagged (tag : String) (change : Channel → Channel) (keeps : ∀ channel, (change channel).id = channel.id) :
    Registry :=
  { registry with
    channels := registry.channels.update
      (fun channel => if channel.tag = some tag then change channel else channel)
      fun channel => by
        split
        · exact keeps channel
        · rfl }

def updateAbilitiesTagged (tag : String) (change : AbilityRow → AbilityRow)
    (keeps : ∀ row, (change row).key = row.key) : Registry :=
  { registry with
    abilities := registry.abilities.update
      (fun row => if row.tag = some tag then change row else row)
      fun row => by
        split
        · exact keeps row
        · rfl }

def withStatus (status : ChannelStatus) (channel : Channel) : Channel := { channel with status }

def withEnabled (enabled : Bool) (row : AbilityRow) : AbilityRow := { row with enabled }

def setStatusByTag (tag : String) (status : ChannelStatus) (enabled : Bool) : Registry :=
  (registry.updateTagged tag (withStatus status) fun _ => rfl).updateAbilitiesTagged tag (withEnabled enabled)
    fun _ => rfl

def enableChannelByTag (tag : String) : Registry := registry.setStatusByTag tag .enabled true

def disableChannelByTag (tag : String) : Registry := registry.setStatusByTag tag .manuallyDisabled false

end Registry

structure TagEdit where
  newTag : Option String := none
  modelMapping : Option String := none
  models : Option String := none
  group : Option String := none
  priority : Option Int := none
  weight : Option Nat := none
  paramOverride : Option String := none
  headerOverride : Option String := none
deriving DecidableEq

namespace TagEdit

variable (edit : TagEdit)

def updatedTag (tag : String) : String := edit.newTag.getD tag

def sent (text : Option String) : Option String := text.filter (· ≠ "")

def shouldReCreateAbilities : Bool := (sent edit.models).isSome || (sent edit.group).isSome

def setColumn (column : String) (text : Option String) (channel : Channel) : Channel :=
  match text with
  | none => channel
  | some text => { channel with columns := channel.columns.set column (.string text) }

/-- `Updates` with what was sent. A tag that stays is not sent. -/
def applyTo (tag : String) (channel : Channel) : Channel :=
  let row := setColumn "header_override" edit.headerOverride (setColumn "param_override" edit.paramOverride
    (setColumn "model_mapping" (sent edit.modelMapping) channel))
  let row := { row with
    models := (sent edit.models).getD row.models
    group := (sent edit.group).getD row.group
    priority := edit.priority.or row.priority
    weight := edit.weight.or row.weight }
  if edit.updatedTag tag = tag then row else row.withTag (some (edit.updatedTag tag))

/-- `UpdateAbilityByTag`: a weight of zero is a zero field and is not written. -/
def applyToAbility (row : AbilityRow) : AbilityRow :=
  { row with
    tag := edit.newTag.or row.tag
    priority := edit.priority.getD row.priority
    weight := (edit.weight.filter (· ≠ 0)).getD row.weight }

theorem setColumn_id (column : String) (text : Option String) (channel : Channel) :
    (setColumn column text channel).id = channel.id := by
  cases text <;> rfl

theorem applyTo_id (tag : String) (channel : Channel) : (edit.applyTo tag channel).id = channel.id := by
  unfold applyTo
  split <;> simp only [Channel.withTag, setColumn_id]

end TagEdit

namespace Registry

variable (registry : Registry)

def taggedChannels (tag : String) : List Channel :=
  registry.channels.rows.filter fun channel => channel.tag = some tag

def editChannelByTag (tag : String) (edit : TagEdit) : Registry :=
  let edited := registry.updateTagged tag (edit.applyTo tag) (edit.applyTo_id tag)
  if edit.shouldReCreateAbilities then
    (edited.taggedChannels (edit.updatedTag tag)).foldl updateAbilities edited
  else edited.updateAbilitiesTagged tag edit.applyToAbility fun _ => rfl

def setTag (ids : List Int) (tag : Option String) : Registry :=
  { registry with
    channels := registry.channels.update
      (fun channel => if channel.id ∈ ids then channel.withTag tag else channel)
      fun channel => by split <;> rfl }

/-- The channels are read outside the transaction that has written their tag, so the abilities
are made from the rows before. -/
def batchSetChannelTag (ids : List Int) (tag : Option String) : Registry :=
  (registry.channels.rows.filter fun channel => channel.id ∈ ids).foldl updateAbilities (registry.setTag ids tag)

def batchDeleteChannels (ids : List Int) : Registry :=
  { registry with channels := registry.channels.restrict fun channel => channel.id ∉ ids }.deleteAbilities ids

/-- The abilities of the channels stay. -/
def deleteChannelByStatus (status : ChannelStatus) : Registry :=
  { registry with channels := registry.channels.restrict fun channel => channel.status ≠ status }

def deleteDisabledChannel : Registry :=
  { registry with
    channels := registry.channels.restrict fun channel =>
      channel.status ≠ .autoDisabled && channel.status ≠ .manuallyDisabled }

end Registry

/-- What an import takes from the standard library: `strconv.ParseFloat` (zero for a text that
is no number) and the encoding of an object. -/
structure ImportServices where
  parseFloat : String → Rat
  marshal : Fields → String

namespace ImportServices

variable (importing : ImportServices)

def chGetStr (item : Fields) (key : String) : Option String := (item.get? key).bind Json.text?

def chToFloat64 : Json → Rat
  | .number value => value
  | .string text => importing.parseFloat text
  | _ => 0

def chToInt (value : Json) : Int := Int.tdiv (importing.chToFloat64 value).num (importing.chToFloat64 value).den

end ImportServices

def isArray : Json → Bool
  | .array _ => true
  | _ => false

def isObject : Json → Bool
  | .object _ => true
  | _ => false

def fieldFits (item : Fields) (key : String) (kind : Json → Bool) : Bool :=
  match item.get? key with
  | none | some .null => true
  | some value => kind value

def chValidateItem (item : Fields) : Except Refusal Unit := do
  refuseIf (¬ fieldFits item "models" isArray) "models 字段必须为数组"
  refuseIf (¬ fieldFits item "groups" isArray) "groups 字段必须为数组"
  refuseIf (¬ fieldFits item "modelRedirect" isObject) "modelRedirect 字段必须为对象"
  refuseIf (¬ fieldFits item "otherInfo" isObject) "otherInfo 字段必须为对象"

/-- The texts of an array that are not blank, trimmed and joined by commas. -/
def chJoin (items : List Json) : String :=
  join ',' (((items.filterMap Json.text?).map trimSpace).filter (· ≠ ""))

def chRedirect (fields : Fields) : Fields :=
  fields.filter fun field => field.2.text?.isSome

namespace ImportServices

variable (importing : ImportServices)

/-- One field of an item: `read` gives the write of its column, unless the field is missing or
of another kind. -/
def chSet (item : Fields) (key : String) (read : Json → Option (Channel → Channel)) (channel : Channel) :
    Channel :=
  match (item.get? key).bind read with
  | none => channel
  | some write => write channel

def chText (write : String → Channel → Channel) (value : Json) : Option (Channel → Channel) :=
  value.text?.map write

def setColumn (column : String) (value : Json) (channel : Channel) : Channel :=
  { channel with columns := channel.columns.set column value }

/-- The key of an item. In a site builder's import an empty key stands for the common one. -/
def chKey (siteBuilderApiKey : String) (type : Int) (text : String) : String :=
  if trimSpace text = "" ∧ siteBuilderApiKey ≠ "" ∧ type = typeTokenFactoryOpen then trimSpace siteBuilderApiKey
  else text

/-- The columns that both kinds of import write in the same way. -/
def chCommon (item : Fields) (siteBuilderApiKey : String) (type : Int) (channel : Channel) : Channel :=
  chSet item "otherInfo"
      (fun value => value.object?.map fun fields channel => { channel with otherInfo := importing.marshal fields })
    <| chSet item "routeSlug" (chText fun text channel => { channel with routeSlug := text })
    <| chSet item "quota" (fun value => some (setColumn "balance" (.number (importing.chToFloat64 value))))
    <| chSet item "modelRedirect" (fun value => value.object?.map fun fields =>
        setColumn "model_mapping" (.string (importing.marshal (chRedirect fields))))
    <| chSet item "apiBaseUrl" (chText fun text => setColumn "base_url" (.string text))
    <| chSet item "apiKey"
        (chText fun text channel => { channel with key := chKey siteBuilderApiKey type text })
    <| chSet item "providerType" (chText fun text channel => { channel with supplierType := text })
    <| chSet item "logo" (chText fun text channel => { channel with companyLogoURL := text })
    <| chSet item "type" (fun value => some fun channel => { channel with type := importing.chToInt value })
    <| chSet item "markupDiscountRate" (fun value =>
        some (setColumn "markup_discount_rate" (.number (importing.chToFloat64 value))))
    <| chSet item "discountRate" (fun value => some fun channel =>
        { channel with priceDiscountPercent := some (importing.chToFloat64 value) }) channel

def chStatus (value : Json) : Option (Channel → Channel) :=
  value.bool?.map fun disabled channel =>
    { channel with status := if disabled then .manuallyDisabled else .enabled }

def chModels : Json → Option (Channel → Channel)
  | .array items => some fun channel => { channel with models := chJoin items }
  | _ => none

def chGroups : Json → Option (Channel → Channel)
  | .array items => some fun channel => { channel with group := chJoin items }
  | _ => none

def chType (item : Fields) (stored : Int) : Int := ((item.get? "type").map importing.chToInt).getD stored

/-- The fields of the item are written to their columns and nothing else, the abilities included. -/
def chApplyToExisting (item : Fields) (siteBuilderApiKey : String) (channel : Channel) : Channel :=
  chSet item "groups" chGroups
    <| chSet item "models" chModels
    <| chSet item "disabled" chStatus
    <| importing.chCommon item siteBuilderApiKey (importing.chType item channel.type) channel

def blankChannel (name : String) : Channel where
  id := 0
  type := 0
  companyLogoURL := ""
  supplierType := ""
  key := ""
  status := .unknown
  models := ""
  group := ""
  other := ""
  otherInfo := ""
  otherSettings := ""
  routeSlug := ""
  ownerUserID := 0
  supplierApplicationID := 0
  priority := none
  weight := none
  priceDiscountPercent := none
  testTime := 0
  responseTime := 0
  isMultiKey := false
  multiKeySize := 0
  multiKeyStatusList := ∅
  multiKeyMode := ""
  columns := [("name", .string name)]

/-- A channel without groups gets the default one; an empty list of groups is left to the
default of the column. -/
def chApplyToNew (item : Fields) (siteBuilderApiKey name : String) : Channel :=
  let common := importing.chCommon item siteBuilderApiKey (importing.chType item 0) (blankChannel name)
  chSet item "groups" chGroups <| chSet item "models" chModels
    { common with
      status := if item.flag "disabled" then .manuallyDisabled else .enabled
      group := if (item.get? "groups").isSome then common.group else "default" }

theorem chSet_keeps {Value : Type} (view : Channel → Value) {item : Fields} {key : String}
    {read : Json → Option (Channel → Channel)}
    (keeps : ∀ value write, read value = some write → ∀ channel, view (write channel) = view channel)
    (channel : Channel) : view (chSet item key read channel) = view channel := by
  unfold chSet
  cases found : (item.get? key).bind read with
  | none => rfl
  | some write =>
    obtain ⟨value, _, reads⟩ := Option.bind_eq_some_iff.mp found
    exact keeps value write reads channel

theorem chText_keeps {Value : Type} (view : Channel → Value) {write : String → Channel → Channel}
    (keeps : ∀ text channel, view (write text channel) = view channel) (value : Json) (read : Channel → Channel)
    (reads : chText write value = some read) (channel : Channel) : view (read channel) = view channel := by
  obtain ⟨text, _, rfl⟩ := Option.map_eq_some_iff.mp reads
  exact keeps text channel

/-- A view that shows none of the columns that an import writes, the slug apart. -/
theorem chCommon_keeps {Value : Type} (view : Channel → Value) {item : Fields} {siteBuilderApiKey : String} {type : Int}
    (fields : ∀ (channel : Channel) otherInfo key supplierType companyLogoURL type priceDiscountPercent,
      view { channel with otherInfo, key, supplierType, companyLogoURL, type, priceDiscountPercent } = view channel)
    (columns : ∀ {column}, column ≠ "tag" → ∀ value channel, view (setColumn column value channel) = view channel)
    (channel : Channel) : ∃ inner, view inner = view channel ∧
      view (importing.chCommon item siteBuilderApiKey type channel) =
        view (chSet item "routeSlug" (chText fun text channel => { channel with routeSlug := text }) inner) := by
  refine ⟨_, ?_, chSet_keeps view ?otherInfo _⟩
  case otherInfo =>
    intro value write reads channel
    obtain ⟨written, _, rfl⟩ := Option.map_eq_some_iff.mp reads
    exact fields channel _ _ _ _ _ _
  refine (chSet_keeps view ?quota _).trans <| (chSet_keeps view ?modelRedirect _).trans <|
    (chSet_keeps view (chText_keeps view fun _ => columns (by decide) _) _).trans <|
    (chSet_keeps view (chText_keeps view fun _ channel => fields channel _ _ _ _ _ _) _).trans <|
    (chSet_keeps view (chText_keeps view fun _ channel => fields channel _ _ _ _ _ _) _).trans <|
    (chSet_keeps view (chText_keeps view fun _ channel => fields channel _ _ _ _ _ _) _).trans <|
    (chSet_keeps view ?type _).trans <| (chSet_keeps view ?markupDiscountRate _).trans <|
    chSet_keeps view ?discountRate _
  case modelRedirect =>
    intro value write reads channel
    obtain ⟨written, _, rfl⟩ := Option.map_eq_some_iff.mp reads
    exact columns (by decide) _ channel
  case quota | markupDiscountRate =>
    rintro value _ ⟨⟩ channel
    exact columns (by decide) _ channel
  case type | discountRate =>
    rintro value _ ⟨⟩ channel
    exact fields channel _ _ _ _ _ _

end ImportServices

inductive ImportOutcome where
  | added
  | updated
  | failed (name reason : String)
deriving DecidableEq

namespace Registry

variable (collate : String → String) (importing : ImportServices) (siteBuilderApiKey : String)

/-- `GetChannelByName`: the first row of the name by id. -/
def getChannelByName (registry : Registry) (name : String) : Option Channel :=
  ((registry.channels.rows.filter fun channel => collate channel.name = collate name).insertionSort
    fun first second => first.id ≤ second.id).head?

def importItem (registry : Registry) (item : Fields) : ImportOutcome × Registry :=
  let name := trimSpace ((ImportServices.chGetStr item "name").getD "")
  if name = "" then (.failed "(未知)" "缺少或无效的 name 字段", registry)
  else
    match chValidateItem item with
    | .error reason => (.failed name reason, registry)
    | .ok () =>
      match registry.getChannelByName collate name with
      | some existing =>
        (.updated, { registry with
          channels := registry.channels.save (importing.chApplyToExisting item siteBuilderApiKey existing) })
      | none =>
        match registry.insert collate (importing.chApplyToNew item siteBuilderApiKey name) with
        | .error reason => (.failed name ("创建渠道失败: " ++ reason), registry)
        | .ok after => (.added, after)

theorem importItem_cases (registry : Registry) (item : Fields) :
    let name := trimSpace ((ImportServices.chGetStr item "name").getD "")
    let after := (registry.importItem collate importing siteBuilderApiKey item).2
    after = registry ∨ registry.insert collate (importing.chApplyToNew item siteBuilderApiKey name) = .ok after ∨
      ∃ existing ∈ registry.channels, registry.getChannelByName collate name = some existing ∧
        after = { registry with
          channels := registry.channels.save (importing.chApplyToExisting item siteBuilderApiKey existing) } := by
  unfold importItem
  dsimp only
  split
  · exact .inl rfl
  cases chValidateItem item with
  | error reason => exact .inl rfl
  | ok _ =>
    cases found : registry.getChannelByName collate (trimSpace ((ImportServices.chGetStr item "name").getD "")) with
    | none =>
      cases done : registry.insert collate (importing.chApplyToNew item siteBuilderApiKey _) with
      | error refusal => exact .inl rfl
      | ok after => exact .inr (.inl rfl)
    | some existing =>
      have among := List.mem_of_mem_head? found
      exact .inr (.inr ⟨existing, (List.mem_filter.mp ((List.mem_insertionSort _).mp among)).1, rfl, rfl⟩)

/-- The items are imported one after the other; an item that fails is passed over. -/
def importChannels (registry : Registry) : List Fields → List ImportOutcome × Registry
  | [] => ([], registry)
  | item :: rest =>
    let first := registry.importItem collate importing siteBuilderApiKey item
    let later := first.2.importChannels rest
    (first.1 :: later.1, later.2)

theorem importChannels_run (registry : Registry) (items : List Fields) :
    (registry.importChannels collate importing siteBuilderApiKey items).2 =
      run (fun registry item => (registry.importItem collate importing siteBuilderApiKey item).2) registry items := by
  induction items generalizing registry with
  | nil => rfl
  | cons item rest ih =>
    rw [importChannels, run_cons, ← ih]

end Registry

inductive Operation where
  | insert (channel : Channel)
  | batchInsertChannels (channels : List Channel)
  | update (sent : Channel)
  | updateChannelStatus (cached : Option (Option Channel)) (change : StatusChange)
  | enableChannelByTag (tag : String)
  | disableChannelByTag (tag : String)
  | editChannelByTag (tag : String) (edit : TagEdit)
  | batchSetChannelTag (ids : List Int) (tag : Option String)
  | batchDeleteChannels (ids : List Int)
  | deleteChannelByStatus (status : ChannelStatus)
  | deleteDisabledChannel
  | importChannels (siteBuilderApiKey : String) (items : List Fields)

/-- The registry after an attempt that may have been refused and rolled back. -/
def Registry.orRolledBack (registry : Registry) : Except Refusal Registry → Registry
  | .ok after => after
  | .error _ => registry

theorem Registry.orRolledBack_keeps {Holds : Registry → Prop} {registry : Registry} {attempt : Except Refusal Registry}
    (before : Holds registry) (success : ∀ after, attempt = .ok after → Holds after) :
    Holds (registry.orRolledBack attempt) := by
  cases attempt with
  | error refusal => exact before
  | ok after => exact success after rfl

def Registry.perform (services : Services) (importing : ImportServices) (registry : Registry) :
    Operation → Registry
  | .insert channel => registry.orRolledBack (registry.insert id channel)
  | .batchInsertChannels channels => registry.orRolledBack (registry.batchInsertChannels id channels)
  | .update sent => registry.orRolledBack (registry.update services sent)
  | .updateChannelStatus cached change => (registry.updateChannelStatus services cached change).2
  | .enableChannelByTag tag => registry.enableChannelByTag tag
  | .disableChannelByTag tag => registry.disableChannelByTag tag
  | .editChannelByTag tag edit => registry.editChannelByTag tag edit
  | .batchSetChannelTag ids tag => registry.batchSetChannelTag ids tag
  | .batchDeleteChannels ids => registry.batchDeleteChannels ids
  | .deleteChannelByStatus status => registry.deleteChannelByStatus status
  | .deleteDisabledChannel => registry.deleteDisabledChannel
  | .importChannels siteBuilderApiKey items => (registry.importChannels id importing siteBuilderApiKey items).2

end TokenFactory.Channels
