import TokenFactory.Auth.Accounts
import TokenFactory.Distributor.Status

namespace TokenFactory.Supplier

open Data Go Relay Distributor

/-! The channels of the suppliers, and the requests that change them: `UpdateChannel` of
`controller/channel.go`, and those of `controller/channel_onboard.go` and
`controller/channel_model_heat.go` that write.

A request is handled in one step; only the results of a test are written later. -/

structure Channel where
  id : Int
  type : Int
  companyLogoURL : String
  supplierType : String
  key : String
  status : ChannelStatus
  models : String
  group : String
  other : String
  otherInfo : String
  otherSettings : String
  routeSlug : String
  ownerUserID : Int
  supplierApplicationID : Int
  priority : Option Int
  weight : Option Nat
  priceDiscountPercent : Option Rat
  testTime : Int
  responseTime : Int
  isMultiKey : Bool
  multiKeySize : Int
  multiKeyStatusList : AList fun _ : Nat => ChannelStatus
  multiKeyMode : String
  /-- The columns that are only stored, as far as they are not zero. -/
  columns : Fields

/-- The latest test of a model on a channel, and how many there were. -/
structure TestResult where
  channelId : Int
  modelName : String
  lastTestSuccess : Bool
  lastTestTime : Int
  lastResponseTime : Int
  lastTestMessage : String
  testCountSuccess : Int
  testCountFail : Int
  manualDisplayResponseTime : Int
  manualStabilityGrade : Int
deriving DecidableEq

def TestResult.key (result : TestResult) : Int × String := (result.channelId, result.modelName)

structure Heat where
  channelID : Int
  modelName : String
  modelSortWeight : Rat
  channelSortWeight : Rat
  manualBaseReqCount : Int
deriving DecidableEq

def Heat.key (heat : Heat) : Int × String := (heat.channelID, heat.modelName)

structure Application where
  id : Int
  applicantUserID : Int
  approved : Bool
  supplierType : String
deriving DecidableEq

structure TestWrite where
  channelId : Int
  modelName : String
  success : Bool
  responseTime : Int
  message : String
deriving DecidableEq

structure Catalogue where
  channels : Table Channel.id
  abilities : List Ability
  testResults : Table TestResult.key
  heats : Table Heat.key
  applications : Table Application.id
  pending : List TestWrite

structure Caller where
  id : Int
  role : Int
deriving DecidableEq

abbrev Refusal := String

/-- What other parts answer: Go's JSON decoding, the parts of the validation that depend on
it, and the upstream of a test. -/
structure Services where
  decodeArray : String → Option (List String)
  vertexArrayKeys : String → Except Refusal (List String)
  /-- The key type in the settings of a channel, if they can be read. -/
  vertexKeyType : String → Option String
  settingsInvalid : Channel → Option Refusal
  decodeInfo : String → Fields
  encodeInfo : Fields → String
  strToMap : String → Option Fields
  codexKey : String → Option Fields
  atoiError : String → Refusal
  testChannel : Channel → String → Bool × Int × String
  now : Int

/-- The body of `UpdateChannel`: a channel whose absent fields are zero, and the two fields
for its keys. -/
structure PatchChannel where
  channel : Channel
  multiKeyMode : Option String
  keyMode : Option String

abbrev Outcome := Except Refusal String × Catalogue

def Catalogue.refuse (catalogue : Catalogue) (refusal : Refusal) : Outcome := (.error refusal, catalogue)

def channelAllowedSupplierTypes : List String := ["公有云", "AIDC", "企业中转站", "个人中转站"]

def defaultChannelSupplierType : String := "公有云"

def typeTokenFactoryOpen : Int := 60

def typeCodex : Int := 57

namespace Channel

def validateVertex (services : Services) (channel : Channel) : Option Refusal :=
  if channel.type ≠ ChannelType.vertexAi then none
  else if channel.other = "" then some "部署地区不能为空"
  else
    match services.strToMap channel.other with
    | none =>
      some "部署地区必须是标准的Json格式，例如\x7b\"default\": \"us-central1\", \"region2\": \"us-east1\"\x7d"
    | some regions =>
      match regions.get? "default" with
      | none | some .null => some "部署地区必须包含default字段"
      | some _ => none

/-- A field that is missing, null or a blank text. -/
def blank (fields : Fields) (key : String) : Bool :=
  match fields.get? key with
  | none | some .null => true
  | some (.string text) => trimSpace text = ""
  | some _ => false

def validateCodex (services : Services) (channel : Channel) : Option Refusal :=
  let key := trimSpace channel.key
  if channel.type ≠ typeCodex ∨ key = "" then none
  else if ¬ hasPrefix key "\x7b" then some "Codex key must be a valid JSON object"
  else
    match services.codexKey key with
    | none => some "Codex key must be a valid JSON object"
    | some fields =>
      if blank fields "access_token" then some "Codex key JSON must include access_token"
      else if blank fields "account_id" then some "Codex key JSON must include account_id"
      else none

def trimmed (channel : Channel) : Channel :=
  { channel with
    companyLogoURL := trimSpace channel.companyLogoURL
    supplierType := trimSpace channel.supplierType }

/-- The checks on a channel whose texts are trimmed, for a change. -/
def validateChannel (services : Services) (channel : Channel) : Option Refusal :=
  if channel.supplierType = "" ∧ channel.type ≠ typeTokenFactoryOpen then some "供应商类型不能为空"
  else if channel.supplierType ≠ "" ∧ channel.supplierType ∉ channelAllowedSupplierTypes then
    some "供应商类型无效"
  else
    match services.settingsInvalid channel with
    | some reason => some ("渠道额外设置[channel setting] 格式错误：" ++ reason)
    | none =>
      match channel.validateVertex services with
      | some refusal => some refusal
      | none =>
        match channel.validateCodex services with
        | some refusal => some refusal
        | none =>
          if channel.priceDiscountPercent.any fun percent => percent < 0 || 1000 < percent then
            some "价格折扣（百分比）须介于 0 与 1000 之间，100 表示无折扣，60 表示按原价 60% 计费"
          else if trimSpace channel.routeSlug ≠ "" ∧ ¬ isValidRouteSlug (trimSpace channel.routeSlug) then
            some "route_slug 格式无效（2～32 位字母数字，且不能为 c 加纯数字）"
          else none

/-- A struct update of the database skips the fields that are zero. -/
def nonZero {Value : Type} [DecidableEq Value] (zero sent stored : Value) : Value :=
  if sent = zero then stored else sent

/-- `DB.Updates` of the row with what was sent. -/
def updated (row sent : Channel) : Channel where
  id := row.id
  type := nonZero 0 sent.type row.type
  companyLogoURL := nonZero "" sent.companyLogoURL row.companyLogoURL
  supplierType := nonZero "" sent.supplierType row.supplierType
  key := nonZero "" sent.key row.key
  status := nonZero .unknown sent.status row.status
  models := nonZero "" sent.models row.models
  group := nonZero "" sent.group row.group
  other := nonZero "" sent.other row.other
  otherInfo := nonZero "" sent.otherInfo row.otherInfo
  otherSettings := nonZero "" sent.otherSettings row.otherSettings
  routeSlug := nonZero "" sent.routeSlug row.routeSlug
  ownerUserID := nonZero 0 sent.ownerUserID row.ownerUserID
  supplierApplicationID := nonZero 0 sent.supplierApplicationID row.supplierApplicationID
  priority := sent.priority.or row.priority
  weight := sent.weight.or row.weight
  priceDiscountPercent := sent.priceDiscountPercent.or row.priceDiscountPercent
  testTime := nonZero 0 sent.testTime row.testTime
  responseTime := nonZero 0 sent.responseTime row.responseTime
  isMultiKey := sent.isMultiKey
  multiKeySize := sent.multiKeySize
  multiKeyStatusList := sent.multiKeyStatusList
  multiKeyMode := sent.multiKeyMode
  columns := sent.columns.foldl (fun columns column => columns.set column.1 column.2) row.columns

theorem updated_id (sent row : Channel) : (row.updated sent).id = row.id := rfl

def getModels (channel : Channel) : List String :=
  if channel.models = "" then []
  else
    let chars := channel.models.toList.dropWhile (· = ',')
    split ',' (String.ofList (chars.reverse.dropWhile (· = ',')).reverse)

/-- The keys in a column of keys: the elements of a JSON array, or else the lines. -/
def countedKeys (services : Services) (key : String) : List String :=
  if key = "" then []
  else
    let array := if hasPrefix (trimSpace key) "[" then (services.decodeArray (trimSpace key)).getD [] else []
    if array = [] then split '\n' (String.ofList (ChannelRow.trimNewlines key)) else array

/-- The number of keys, and the states of the keys that are left. -/
def recounted (services : Services) (sent stored : Channel) : Channel :=
  if sent.isMultiKey then
    let size := (countedKeys services (if sent.key ≠ "" then sent.key else stored.key)).length
    { sent with
      multiKeySize := size
      multiKeyStatusList := (sent.multiKeyStatusList.keys.filter (size ≤ ·)).foldl
        (fun states index => states.erase index) sent.multiKeyStatusList }
  else sent

/-- `UpdateAbilities`: one ability for each group and model, none twice. -/
def abilities (channel : Channel) : List Ability :=
  let pairs := (split ',' channel.models).flatMap fun model =>
    (split ',' channel.group).map fun group => (group, model)
  pairs.dedup.map fun pair =>
    { group := pair.1
      model := pair.2
      channelId := channel.id
      enabled := channel.status = .enabled
      priority := channel.priority.getD 0
      weight := channel.weight.getD 0 }

end Channel

namespace Catalogue

variable (services : Services) (catalogue : Catalogue)

def store (channel : Channel) : Catalogue :=
  { catalogue with
    channels := catalogue.channels.save channel
    abilities := (catalogue.abilities.filter fun ability => ability.channelId ≠ channel.id) ++ channel.abilities }

def update (stored sent : Channel) : Catalogue :=
  catalogue.store (stored.updated (sent.recounted services stored))

end Catalogue

namespace PatchChannel

variable (services : Services) (catalogue : Catalogue)

/-- Without a supplier type the stored one is kept, or that of the supplier. -/
def withSupplierType (patch : PatchChannel) (origin : Channel) : PatchChannel :=
  let kept := if trimSpace patch.channel.supplierType = "" then trimSpace origin.supplierType
    else patch.channel.supplierType
  let inherited :=
    if trimSpace kept = "" ∧ origin.supplierApplicationID > 0 then
      match catalogue.applications.lookup origin.supplierApplicationID with
      | some application => trimSpace application.supplierType
      | none => kept
    else kept
  let supplierType := if trimSpace inherited = "" then defaultChannelSupplierType else inherited
  { patch with channel := { patch.channel with supplierType } }

/-- An empty slug keeps the stored one; a new slug must be free. -/
def withRouteSlug (patch : PatchChannel) (origin : Channel) : Except Refusal PatchChannel :=
  if trimSpace patch.channel.routeSlug = "" then
    .ok { patch with channel := { patch.channel with routeSlug := origin.routeSlug } }
  else
    let routeSlug := trimSpace patch.channel.routeSlug
    if routeSlug ≠ origin.routeSlug ∧ ¬ isValidRouteSlug routeSlug then
      .error "route_slug 格式无效（2～32 位字母数字，且不能为 c 加纯数字）"
    else if routeSlug ≠ origin.routeSlug ∧ catalogue.channels.rows.any fun channel =>
        channel.routeSlug = routeSlug && channel.id ≠ patch.channel.id then
      .error "route_slug 已被其他渠道占用"
    else .ok { patch with channel := { patch.channel with routeSlug } }

/-- A supplier keeps the owner and the application of the channel; the state of its keys is
kept for everybody. -/
def withOrigin (patch : PatchChannel) (role : Int) (origin : Channel) : PatchChannel :=
  let channel := { patch.channel with
    isMultiKey := origin.isMultiKey
    multiKeySize := origin.multiKeySize
    multiKeyStatusList := origin.multiKeyStatusList
    multiKeyMode := if (patch.multiKeyMode.getD "") = "" then origin.multiKeyMode else patch.multiKeyMode.getD "" }
  { patch with
    channel :=
      if role < Auth.Role.adminUser then
        { channel with
          ownerUserID := origin.ownerUserID
          supplierApplicationID := origin.supplierApplicationID }
      else channel }

def newKeys (patch : PatchChannel) (vertexJson : Bool) : Except Refusal (List String) :=
  if vertexJson then
    if hasPrefix (trimSpace patch.channel.key) "[" then
      (services.vertexArrayKeys patch.channel.key).mapError ("追加密钥解析失败: " ++ ·)
    else .ok [patch.channel.key]
  else .ok (((split '\n' patch.channel.key).map trimSpace).filter (· ≠ ""))

def addedKeys : List String → List String → List String
  | _, [] => []
  | seen, key :: rest =>
    if trimSpace key = "" ∨ trimSpace key ∈ seen then addedKeys seen rest
    else trimSpace key :: addedKeys (trimSpace key :: seen) rest

def existingKeys (key : String) : List String :=
  if hasPrefix (trimSpace key) "[" then (services.decodeArray (trimSpace key)).getD []
  else split '\n' (String.ofList (ChannelRow.trimNewlines key))

section
variable (patch : PatchChannel)

def appendedKeys (vertexJson : Bool) (origin : Channel) : Except Refusal String :=
  match patch.newKeys services vertexJson with
  | .error refusal => .error refusal
  | .ok newKeys =>
    let existing := existingKeys services origin.key
    .ok (join '\n' (existing ++ addedKeys ((existing.map trimSpace).filter (· ≠ "")) newKeys))

def appends (origin : Channel) : Bool :=
  patch.keyMode = some "append" && patch.channel.isMultiKey && origin.key ≠ ""

def unreadable : Bool :=
  patch.channel.type = ChannelType.vertexAi && patch.channel.otherSettings ≠ "" &&
    (services.vertexKeyType patch.channel.otherSettings).isNone

def emptied : PatchChannel :=
  { patch with channel := { patch.channel with otherSettings := "\x7b\x7d" } }

def withKeys (origin : Channel) : Except Refusal PatchChannel :=
  if patch.appends origin then
    let vertexJson := patch.channel.type = ChannelType.vertexAi ∧
      services.vertexKeyType patch.channel.otherSettings ≠ some "api_key"
    let patch := if patch.unreadable services then patch.emptied else patch
    (patch.appendedKeys services vertexJson origin).map fun key =>
      { patch with channel := { patch.channel with key } }
  else .ok patch

end

end PatchChannel

/-- The caller of a request about a channel may change it. -/
def validateSupplierChannelOwnershipForUpdate (caller : Caller) (origin : Channel) : Bool :=
  caller.role ≥ Auth.Role.adminUser || origin.ownerUserID = caller.id

namespace Catalogue

variable (services : Services) (catalogue : Catalogue)

/-- Reading the settings saves the body as a whole row if they cannot be read. -/
def readSettings (patch : PatchChannel) (origin : Channel) : Catalogue :=
  if patch.appends origin ∧ patch.unreadable services then
    { catalogue with channels := catalogue.channels.save patch.emptied.channel }
  else catalogue

/-- The end of `UpdateChannel`, from the checked body on. -/
def applyPatch (patch : PatchChannel) (origin : Channel) : Outcome :=
  let catalogue := catalogue.readSettings services patch origin
  match patch.withKeys services origin with
  | .error refusal => catalogue.refuse refusal
  | .ok patch =>
    match catalogue.channels.lookup origin.id with
    | none => catalogue.refuse "record not found"
    | some stored => (.ok "", catalogue.update services stored patch.channel)

def updateChannel (caller : Caller) (body : Except Refusal PatchChannel) : Outcome :=
  match body with
  | .error refusal => catalogue.refuse refusal
  | .ok patch =>
    if patch.channel.id ≤ 0 then catalogue.refuse "渠道ID无效"
    else
      match catalogue.channels.lookup patch.channel.id with
      | none => catalogue.refuse "record not found"
      | some origin =>
        if ¬ validateSupplierChannelOwnershipForUpdate caller origin then
          catalogue.refuse "无权修改其他供应商渠道"
        else
          match (patch.withSupplierType catalogue origin).withRouteSlug catalogue origin with
          | .error refusal => catalogue.refuse refusal
          | .ok patch =>
            let patch := { patch with channel := patch.channel.trimmed }
            match patch.channel.validateChannel services with
            | some refusal => catalogue.refuse refusal
            | none => catalogue.applyPatch services (patch.withOrigin caller.role origin) origin

/-- The names of a list, trimmed, each once and none empty. -/
def cleanModels (models : List String) : List String :=
  models.foldl (fun clean model =>
    if trimSpace model = "" ∨ trimSpace model ∈ clean then clean else clean ++ [trimSpace model]) []

def updateChannelModels (caller : Caller) (id : String) (models : Except Refusal (List String)) : Outcome :=
  match atoi id with
  | none => catalogue.refuse (services.atoiError id)
  | some id =>
    match models with
    | .error reason => catalogue.refuse ("请求参数格式错误: " ++ reason)
    | .ok models =>
      match catalogue.channels.lookup id with
      | none => catalogue.refuse "record not found"
      | some channel =>
        if caller.role < Auth.Role.adminUser ∧ channel.ownerUserID ≠ caller.id then
          catalogue.refuse "无权修改其他供应商渠道"
        else (.ok "", catalogue.store { channel with models := join ',' (cleanModels models) })

/-- The owner of the channel is not looked at. The results are written in the background. -/
def bulkTestChannelModels (id : String) (models : Except Refusal (List String)) : Outcome :=
  match atoi id with
  | none => catalogue.refuse (services.atoiError id)
  | some id =>
    match catalogue.channels.lookup id with
    | none => catalogue.refuse "record not found"
    | some channel =>
      match models with
      | .error reason => catalogue.refuse reason
      | .ok models =>
        let targets := if models = [] then channel.getModels else models
        if targets = [] then catalogue.refuse "no models to test"
        else
          let results := ((targets.map trimSpace).filter (· ≠ "")).map fun modelName =>
            let tested := services.testChannel channel modelName
            (⟨channel.id, modelName, tested.1, tested.2.1, tested.2.2⟩ : TestWrite)
          (.ok "", { catalogue with pending := catalogue.pending ++ results })

/-- `UpdateTestResult` and `UpsertModelTestResult` for one tested model. -/
def testedChannel (write : TestWrite) (channel : Channel) : Channel :=
  let info := (((services.decodeInfo channel.otherInfo).set "last_test_success" (.bool write.success)).set
    "last_test_message" (.string write.message)).set "last_test_model" (.string write.modelName)
  { channel with
    otherInfo := services.encodeInfo (info.set "last_test_time" (.number services.now))
    testTime := services.now
    responseTime := write.responseTime }

theorem testedChannel_id (write : TestWrite) (channel : Channel) :
    (testedChannel services write channel).id = channel.id := rfl

def countedResult (write : TestWrite) (stored : Option TestResult) : TestResult :=
  let old := stored.getD ⟨write.channelId, write.modelName, false, 0, 0, "", 0, 0, 0, 0⟩
  { old with
    channelId := write.channelId
    modelName := write.modelName
    lastTestSuccess := write.success
    lastTestTime := services.now
    lastResponseTime := write.responseTime
    lastTestMessage := write.message
    testCountSuccess := old.testCountSuccess + if write.success then 1 else 0
    testCountFail := old.testCountFail + if write.success then 0 else 1 }

def persist (index : Nat) : Catalogue :=
  match catalogue.pending[index]? with
  | none => catalogue
  | some write =>
    let key := (write.channelId, write.modelName)
    let result := countedResult services write (catalogue.testResults.lookup key)
    { catalogue with
      channels := catalogue.channels.modify write.channelId (testedChannel services write)
        (testedChannel_id services write)
      testResults :=
        if write.channelId ≤ 0 ∨ write.modelName = "" then catalogue.testResults
        else (catalogue.testResults.save result).insert result
      pending := catalogue.pending.eraseIdx index }

/-- The weights of a new row that are zero are left to the default of their columns. -/
def created (heat : Heat) : Heat :=
  { heat with
    modelSortWeight := if heat.modelSortWeight = 0 then 1 else heat.modelSortWeight
    channelSortWeight := if heat.channelSortWeight = 0 then 1 else heat.channelSortWeight }

def saveHeat (heat : Heat) : Catalogue :=
  match catalogue.heats.lookup heat.key with
  | none => { catalogue with heats := catalogue.heats.insert (created heat) }
  | some _ => { catalogue with heats := catalogue.heats.save heat }

def saveChannelModelHeat (body : Except Refusal Heat) : Outcome :=
  match body with
  | .error refusal => catalogue.refuse refusal
  | .ok heat => (.ok "保存成功", catalogue.saveHeat heat)

def batchSaveChannelModelHeats (body : Except Refusal (List Heat)) : Outcome :=
  match body with
  | .error refusal => catalogue.refuse refusal
  | .ok heats => (.ok "批量保存成功", heats.foldl saveHeat catalogue)

def deleteChannelModelHeat (id modelName : String) : Outcome :=
  match atoi id with
  | none => catalogue.refuse "无效的渠道ID"
  | some id =>
    if modelName = "" then catalogue.refuse "模型名称不能为空"
    else
      (.ok "删除成功", { catalogue with heats := catalogue.heats.restrict fun heat => heat.key ≠ (id, modelName) })

inductive Request where
  | updateChannel (body : Except Refusal PatchChannel)
  | updateChannelModels (id : String) (models : Except Refusal (List String))
  | bulkTestChannelModels (id : String) (models : Except Refusal (List String))
  | saveChannelModelHeat (body : Except Refusal Heat)
  | batchSaveChannelModelHeats (body : Except Refusal (List Heat))
  | deleteChannelModelHeat (id modelName : String)

/-- `AdminOrApprovedSupplierAuth`. -/
def admits (caller : Caller) : Bool :=
  caller.role ≥ Auth.Role.adminUser || catalogue.applications.rows.any fun application =>
    application.applicantUserID = caller.id && application.approved

def handle (caller : Caller) (request : Request) : Outcome :=
  if ¬ catalogue.admits caller then catalogue.refuse "当前用户未通过供应商审核，无权访问该接口"
  else
    match request with
    | .updateChannel body => catalogue.updateChannel services caller body
    | .updateChannelModels id models => catalogue.updateChannelModels services caller id models
    | .bulkTestChannelModels id models => catalogue.bulkTestChannelModels services id models
    | .saveChannelModelHeat body => catalogue.saveChannelModelHeat body
    | .batchSaveChannelModelHeats body => catalogue.batchSaveChannelModelHeats body
    | .deleteChannelModelHeat id modelName => catalogue.deleteChannelModelHeat id modelName

/-- What happens next: a request, or the write of a test result. What other parts answer
comes with it. -/
inductive Event where
  | request (services : Services) (request : Request)
  | persist (services : Services) (index : Nat)

def step (caller : Caller) (catalogue : Catalogue) : Event → Catalogue
  | .request services request => (catalogue.handle services caller request).2
  | .persist services index => catalogue.persist services index

end Catalogue

end TokenFactory.Supplier
