import TokenFactory.Relay.Context

namespace TokenFactory.Relay

open Go

/-! `resolveRelayPriceData` and the price helpers behind it.

The price tables are functions of what they are looked up with; in particular
the scoped ones take the channel id that the helpers read from the
`ChannelMeta`. -/

structure ImageEstimate where
  mode : ImageMode
  width : Int
  height : Int
  count : Int
deriving DecidableEq

structure PriceRequest where
  promptTokens : Int
  maxTokens : Int
  imagePriceRatio : Rat := 0
  image : ImageEstimate := ⟨.textToImage, 0, 0, 1⟩
deriving DecidableEq

structure PriceTables where
  preConsumedQuota : Int
  quotaPerUnit : Rat
  enableFreeModelPreConsume : Bool
  supplierOfChannel : Int → Int
  groupRatio : String → Rat
  groupGroupRatio : String → String → Option Rat
  scopedFixedModelPrice : Int → Int → String → Rat × Bool
  groupModelPrice : String → String → Option Rat
  scopedModelRatio : Int → Int → String → Rat × Bool × String
  groupModelRatio : String → String → Option Rat
  scopedCompletionRatio : Int → Int → String → Rat
  scopedCacheRatios : Int → Int → String → Rat × Rat
  scopedImageRatio : Int → Int → String → Rat
  scopedAudioRatio : Int → Int → String → Rat
  scopedAudioCompletionRatio : Int → Int → String → Rat
  videoRatio : String → Rat
  videoCompletionRatio : String → Rat
  channelVideoRatio : Int → String → Option Rat
  channelVideoCompletionRatio : Int → String → Option Rat
  channelPriceDiscountPercent : Int → Rat
  markupDiscountPercent : Int → Int → String → Rat
  modelRatio : String → Rat
  modelPrice : String → Rat
  completionRatio : String → Rat
  cacheRatio : String → Option Rat
  createCacheRatio : String → Option Rat
  modelTier : Int → String → Option (Rat → Rat)
  formatMatchingModelName : String → String
  imagePerImageTable : Int → List String → Bool
  channelImagePrice : Int → String → Option Rat
  imagePrice : String → Option Rat
  channelImageUsd : Int → List String → ImageEstimate → Option Rat
  globalImageUsd : List String → ImageEstimate → Option Rat

/-- Go's conversion of a float to an int. -/
def truncate (value : Rat) : Int := if 0 ≤ value then value.floor else value.ceil

/-- `math.Round`: halves go away from zero. -/
def round (value : Rat) : Int :=
  if 0 ≤ value then (value + 1 / 2).floor else (value - 1 / 2).ceil

def effectiveModelPrice (channelPrice globalPrice costPercent markupPercent : Rat) : Rat :=
  channelPrice * (costPercent / 100) + globalPrice * (markupPercent / 100)

def effectiveInputRate (channelRatio globalRatio costPercent markupPercent : Rat) : Rat :=
  effectiveModelPrice channelRatio globalRatio costPercent markupPercent

def effectiveOutputRate (channelRatio completionRatio globalRatio globalCompletionRatio costPercent
    markupPercent : Rat) : Rat :=
  effectiveModelPrice (channelRatio * completionRatio) (globalRatio * globalCompletionRatio) costPercent
    markupPercent

def effectiveRuleUnitPrice (channelUsd globalUsd costPercent markupPercent : Rat) : Rat :=
  effectiveModelPrice channelUsd (if globalUsd ≤ 0 then channelUsd else globalUsd) costPercent
    markupPercent

variable (tables : PriceTables) (request : PriceRequest) (ctx : Context) (info : RelayInfo)

def useAutoGroup : RelayInfo :=
  match ctx.autoGroup with
  | none => info
  | some group => { info with usingGroup := group }

/-- The ratio of the group, after the group found by an automatic selection has
become the group in use. -/
def handleGroupRatio : GroupRatioInfo × RelayInfo :=
  let used := useAutoGroup ctx info
  match tables.groupGroupRatio used.userGroup used.usingGroup with
  | some ratio => (⟨ratio, ratio, true⟩, used)
  | none => (⟨tables.groupRatio used.usingGroup, -1, false⟩, used)

def resolveSupplierIdByChannel : Int :=
  if info.channelId ≤ 0 then 0 else tables.supplierOfChannel info.channelId

theorem handleGroupRatio_info : (handleGroupRatio tables ctx info).2 = useAutoGroup ctx info := by
  unfold handleGroupRatio
  dsimp only
  split <;> rfl

theorem useAutoGroup_kept :
    (useAutoGroup ctx info).userId = info.userId ∧ (useAutoGroup ctx info).userGroup = info.userGroup ∧
      (useAutoGroup ctx info).relayMode = info.relayMode ∧ (useAutoGroup ctx info).channelId = info.channelId := by
  unfold useAutoGroup
  split <;> exact ⟨rfl, rfl, rfl, rfl⟩

theorem useAutoGroup_origin : (useAutoGroup ctx info).originModelName = info.originModelName := by
  unfold useAutoGroup
  split <;> rfl

/-- The fixed price of the model and whether there is one; a supplier's price is
not replaced by the price of the group. -/
def fixedModelPrice : Rat × Bool :=
  let supplierId := resolveSupplierIdByChannel tables info
  let supplied := tables.scopedFixedModelPrice info.channelId supplierId info.originModelName
  if supplierId ≤ 0 then
    match tables.groupModelPrice info.usingGroup info.originModelName with
    | some price => (price, true)
    | none => supplied
  else supplied

def inputModelRatio : Except String Rat :=
  let supplierId := resolveSupplierIdByChannel tables info
  let (ratio, found, matchName) :=
    tables.scopedModelRatio info.channelId supplierId info.originModelName
  let group := if supplierId ≤ 0
    then tables.groupModelRatio info.usingGroup info.originModelName else none
  match group with
  | some groupRatio => .ok groupRatio
  | none =>
    if found ∨ info.acceptUnsetRatioModel then .ok ratio
    else .error ("模型 " ++ matchName ++ " 倍率或价格未配置，请联系管理员设置或开始自用模式；Model " ++
      matchName ++ " ratio or price not set, please set or start self-use mode")

def costPercent : Rat := tables.channelPriceDiscountPercent info.channelId

def markupPercent : Rat :=
  tables.markupDiscountPercent info.userId info.channelId info.originModelName

def basePriceData (group : GroupRatioInfo) : PriceData where
  groupRatioInfo := group
  channelPriceDiscount := some (costPercent tables info)
  costDiscountPercent := costPercent tables info
  markupDiscountPercent := markupPercent tables info
  globalModelRatio := tables.modelRatio info.originModelName
  globalModelPrice := tables.modelPrice info.originModelName
  globalCompletionRatio := tables.completionRatio info.originModelName
  globalCacheRatio := (tables.cacheRatio info.originModelName).getD 1
  globalCreateCacheRatio := (tables.createCacheRatio info.originModelName).getD (5 / 4)

def preConsumedTokens : Rat :=
  let tokens := max request.promptTokens tables.preConsumedQuota + request.maxTokens
  match tables.modelTier info.channelId info.originModelName with
  | some tier => tier tokens
  | none => tokens

/-- Priced by tokens. The one-hour cache costs 6 / 3.75 of the five-minute one. -/
def ratioPriceData (group : GroupRatioInfo) (modelRatio : Rat) : PriceData :=
  let supplierId := resolveSupplierIdByChannel tables info
  let name := info.originModelName
  let cacheRatios := tables.scopedCacheRatios info.channelId supplierId name
  let rate := effectiveInputRate modelRatio (tables.modelRatio name) (costPercent tables info)
    (markupPercent tables info) * group.groupRatio
  { basePriceData tables info group with
    modelPrice := (fixedModelPrice tables info).1
    modelRatio
    completionRatio := tables.scopedCompletionRatio info.channelId supplierId name
    cacheRatio := cacheRatios.1
    cacheCreationRatio := cacheRatios.2
    cacheCreation5mRatio := cacheRatios.2
    cacheCreation1hRatio := cacheRatios.2 * (6 / (15 / 4))
    imageRatio := tables.scopedImageRatio info.channelId supplierId name
    audioRatio := tables.scopedAudioRatio info.channelId supplierId name
    audioCompletionRatio := tables.scopedAudioCompletionRatio info.channelId supplierId name
    videoRatio := (tables.channelVideoRatio info.channelId name).getD (tables.videoRatio name)
    videoCompletionRatio :=
      (tables.channelVideoCompletionRatio info.channelId name).getD (tables.videoCompletionRatio name)
    quotaToPreConsume := round (preConsumedTokens tables request info * rate) }

def fixedPriceData (group : GroupRatioInfo) (price : Rat) : PriceData :=
  let scale := if request.imagePriceRatio ≠ 0 then request.imagePriceRatio else 1
  let effective := effectiveModelPrice price (tables.modelPrice info.originModelName)
    (costPercent tables info) (markupPercent tables info) * scale
  { basePriceData tables info group with
    modelPrice := price * scale
    usePrice := true
    quotaToPreConsume := truncate (effective * tables.quotaPerUnit * group.groupRatio) }

/-- A free model pre-consumes nothing, unless the setting asks for it. -/
def markFree (price : PriceData) : PriceData :=
  if ¬ tables.enableFreeModelPreConsume ∧ (price.groupRatioInfo.groupRatio = 0 ∨
      (if price.usePrice then price.modelPrice else price.modelRatio) = 0) then
    { price with quotaToPreConsume := 0, freeModel := true }
  else price

theorem markFree_kept (price : PriceData) :
    (markFree tables price).usePrice = price.usePrice ∧ (markFree tables price).modelPrice = price.modelPrice ∧
      (markFree tables price).modelRatio = price.modelRatio ∧
      (markFree tables price).groupRatioInfo = price.groupRatioInfo := by
  unfold markFree
  split_ifs <;> exact ⟨rfl, rfl, rfl, rfl⟩

def modelPriceData (group : GroupRatioInfo) : Except String PriceData :=
  match fixedModelPrice tables info with
  | (price, true) => .ok (markFree tables (fixedPriceData tables request info group price))
  | (_, false) =>
    match inputModelRatio tables info with
    | .error reason => .error reason
    | .ok ratio => .ok (markFree tables (ratioPriceData tables request info group ratio))

def RelayInfo.hold (info : RelayInfo) : Except String PriceData → RelayInfo
  | .error _ => info
  | .ok data => { info with priceData := data }

def modelPriceHelper : Except String PriceData × RelayInfo :=
  let group := handleGroupRatio tables ctx info
  let priced := modelPriceData tables request group.2 group.1
  (priced, group.2.hold priced)

def imageModelNameCandidates (modelName : String) : List String :=
  let name := tables.formatMatchingModelName (trimSpace modelName)
  if name = "" then [] else [name]

/-- The names of the requested and of the upstream model, without repetition. -/
def imageModelNameCandidatesFromInfo : List String :=
  let upstream := match info.channelMeta with
    | none => ""
    | some channelMeta => channelMeta.upstreamModelName
  let candidate (name : String) : List String :=
    if trimSpace name = "" then [] else imageModelNameCandidates tables name
  (candidate info.originModelName ++ candidate upstream).eraseDups

def hasImagePerImageTablePricing : Bool :=
  tables.imagePerImageTable info.channelId (imageModelNameCandidates tables info.originModelName) ||
    tables.imagePerImageTable info.channelId (imageModelNameCandidatesFromInfo tables info)

def hasImageGenerationPricing (names : List String) : Bool :=
  tables.imagePerImageTable info.channelId names ||
    names.any fun name =>
      (tables.imagePrice name).isSome || (tables.channelImagePrice info.channelId name).isSome

def imagePriceNotSet (modelName : String) : String :=
  let formatted := tables.formatMatchingModelName modelName
  let matchName := if formatted = "" then modelName else formatted
  "图片模型 " ++ matchName ++ " 未设置按张价格，请配置文生图/图生图分辨率价格或兜底每张价格；Image model " ++
    matchName ++ " per-image price not set"

/-- A price that a rule table gives counts only when it is positive. -/
def positive (price : Option Rat) : Option Rat := price.filter fun usd => usd > 0

def buildImagePerImagePriceData (group : GroupRatioInfo) (channelUsd globalUsd : Option Rat)
    (unit : Rat) : PriceData × ImageBillingSnapshot :=
  let freeModel : Bool := ¬ tables.enableFreeModelPreConsume ∧ group.groupRatio = 0
  let count := if request.image.count ≤ 0 then 1 else request.image.count
  let channelRuleUsd := (positive channelUsd).getD unit
  let globalRuleUsd := (positive globalUsd).getD 0
  let effective := effectiveRuleUnitPrice channelRuleUsd globalRuleUsd (costPercent tables info)
    (markupPercent tables info)
  let raw := effective * count * tables.quotaPerUnit * group.groupRatio
  let quota :=
    if freeModel then 0
    else if round raw ≤ 0 ∧ raw > 0 ∧ group.groupRatio > 0 then 1
    else round raw
  ({ freeModel
     modelPrice := channelRuleUsd
     groupRatioInfo := group
     usePrice := true
     quota
     quotaToPreConsume := quota
     channelPriceDiscount := some (costPercent tables info)
     costDiscountPercent := costPercent tables info
     markupDiscountPercent := markupPercent tables info
     globalModelPrice := globalRuleUsd
     otherRatios := [("n", (count : Rat))] },
   ⟨effective, request.image.width, request.image.height, count, request.image.mode⟩)

/-- The price of one image, and what the tables of the channel and the global
ones gave. `none`: the model is not priced per image. -/
def imageUnitPrice : Except String (Option (Option Rat × Option Rat × Rat)) :=
  let own := imageModelNameCandidates tables info.originModelName
  let names := imageModelNameCandidatesFromInfo tables info
  if !hasImageGenerationPricing tables info own && !hasImageGenerationPricing tables info names then
    .ok none
  else
    let names := if names = [] then own else names
    let channelUsd := tables.channelImageUsd info.channelId names request.image
    let globalUsd := tables.globalImageUsd names request.image
    match (positive channelUsd).orElse fun _ => positive globalUsd with
    | none => .error (imagePriceNotSet tables info.originModelName)
    | some unit => .ok (some (channelUsd, globalUsd, unit))

def tryModelPriceHelperImage : Except String (Option PriceData) × RelayInfo :=
  match imageUnitPrice tables request info with
  | .error reason => (.error reason, info)
  | .ok none => (.ok none, info)
  | .ok (some (channelUsd, globalUsd, unit)) =>
    let group := handleGroupRatio tables ctx info
    let built := buildImagePerImagePriceData tables request group.2 group.1 channelUsd globalUsd unit
    (.ok (some built.1), { group.2 with priceData := built.1, imageBilling := some built.2 })

def imageTableNotMatched (matchName : String) : String :=
  "图片模型 " ++ matchName ++
    " 已配置按张分辨率价格，但未能匹配有效价格，请检查文生图/图生图规则或兜底每张价；Image model " ++
    matchName ++ " per-image pricing configured but no price matched"

/-- A table that exists has priced the request or refused it before the fallback
of the source looks for the table again. -/
def resolveRelayPriceData : Except String PriceData × RelayInfo :=
  if info.relayMode.isImages then
    match tryModelPriceHelperImage tables request ctx info with
    | (.error reason, info) => (.error reason, info)
    | (.ok (some data), info) => (.ok data, info)
    | (.ok none, info) =>
      if hasImagePerImageTablePricing tables info then (.error (imageTableNotMatched info.originModelName), info)
      else modelPriceHelper tables request ctx info
  else modelPriceHelper tables request ctx info

section Results

variable {tables request ctx info} {data : PriceData}

theorem modelPriceHelper_ok (priced : (modelPriceHelper tables request ctx info).1 = .ok data) :
    (modelPriceHelper tables request ctx info).2.priceData = data := by
  simp only [modelPriceHelper] at priced ⊢
  rw [priced]
  rfl

theorem resolveRelayPriceData_ok
    (priced : (resolveRelayPriceData tables request ctx info).1 = .ok data) :
    (resolveRelayPriceData tables request ctx info).2.priceData = data := by
  simp only [resolveRelayPriceData, tryModelPriceHelperImage] at priced ⊢
  by_cases images : info.relayMode.isImages = true
  case neg =>
    rw [if_neg images] at priced ⊢
    exact modelPriceHelper_ok priced
  case pos =>
    rw [if_pos images] at priced ⊢
    cases unit : imageUnitPrice tables request info with
    | error reason =>
      rw [unit] at priced
      cases priced
    | ok found =>
      rw [unit] at priced
      cases found with
      | some prices => exact Except.ok.inj priced
      | none =>
        simp only at priced ⊢
        by_cases table : hasImagePerImageTablePricing tables info = true
        · rw [if_pos table] at priced
          cases priced
        · rw [if_neg table] at priced ⊢
          exact modelPriceHelper_ok priced

/-- Everything of the info that a price is computed from. The upstream model
name counts for images only. -/
structure PricedAlike (tables : PriceTables) (first second : RelayInfo) : Prop where
  userId : first.userId = second.userId
  userGroup : first.userGroup = second.userGroup
  usingGroup : first.usingGroup = second.usingGroup
  originModelName : first.originModelName = second.originModelName
  accept : first.acceptUnsetRatioModel = second.acceptUnsetRatioModel
  relayMode : first.relayMode = second.relayMode
  channelId : first.channelId = second.channelId
  names : first.relayMode.isImages = true →
    imageModelNameCandidatesFromInfo tables first = imageModelNameCandidatesFromInfo tables second

variable {first second : RelayInfo}

section Alike

variable (alike : PricedAlike tables first second)
include alike

theorem PricedAlike.useAutoGroup (ctx : Context) :
    PricedAlike tables (useAutoGroup ctx first) (useAutoGroup ctx second) := by
  unfold Relay.useAutoGroup
  split
  · exact alike
  · exact { alike with usingGroup := rfl }

theorem PricedAlike.groupRatio (ctx : Context) :
    (handleGroupRatio tables ctx first).1 = (handleGroupRatio tables ctx second).1 := by
  have used := alike.useAutoGroup ctx
  simp only [handleGroupRatio, used.userGroup, used.usingGroup]
  split <;> rfl

theorem PricedAlike.handleGroupRatio (ctx : Context) :
    PricedAlike tables (handleGroupRatio tables ctx first).2 (handleGroupRatio tables ctx second).2 := by
  simp only [Relay.handleGroupRatio]
  split <;> split <;> exact alike.useAutoGroup ctx

theorem PricedAlike.costPercent : costPercent tables first = costPercent tables second := by
  simp only [Relay.costPercent, alike.channelId]

theorem PricedAlike.markupPercent : markupPercent tables first = markupPercent tables second := by
  simp only [Relay.markupPercent, alike.channelId, alike.userId, alike.originModelName]

theorem modelPriceData_alike (group : GroupRatioInfo) :
    modelPriceData tables request first group = modelPriceData tables request second group := by
  have supplier : resolveSupplierIdByChannel tables first = resolveSupplierIdByChannel tables second := by
    simp only [resolveSupplierIdByChannel, alike.channelId]
  have fixed : fixedModelPrice tables first = fixedModelPrice tables second := by
    simp only [fixedModelPrice, supplier, alike.channelId, alike.originModelName, alike.usingGroup]
  have ratio : inputModelRatio tables first = inputModelRatio tables second := by
    simp only [inputModelRatio, supplier, alike.channelId, alike.originModelName, alike.usingGroup,
      alike.accept]
  simp only [modelPriceData, fixed, ratio, fixedPriceData, ratioPriceData, basePriceData,
    preConsumedTokens, alike.costPercent, alike.markupPercent, supplier, alike.channelId,
    alike.originModelName]

theorem modelPriceHelper_alike :
    (modelPriceHelper tables request ctx first).1 = (modelPriceHelper tables request ctx second).1 := by
  simp only [modelPriceHelper, alike.groupRatio ctx, modelPriceData_alike (alike.handleGroupRatio ctx)]

theorem imageUnitPrice_alike (image : first.relayMode.isImages = true) :
    imageUnitPrice tables request first = imageUnitPrice tables request second := by
  have generation (names : List String) :
      hasImageGenerationPricing tables first names = hasImageGenerationPricing tables second names := by
    rw [hasImageGenerationPricing, hasImageGenerationPricing, alike.channelId]
  rw [imageUnitPrice, imageUnitPrice, alike.names image, alike.channelId, alike.originModelName,
    generation, generation]

theorem buildImagePerImagePriceData_alike (group : GroupRatioInfo) (channelUsd globalUsd : Option Rat)
    (unit : Rat) :
    buildImagePerImagePriceData tables request first group channelUsd globalUsd unit =
      buildImagePerImagePriceData tables request second group channelUsd globalUsd unit := by
  simp only [buildImagePerImagePriceData, alike.costPercent, alike.markupPercent]

theorem resolveRelayPriceData_alike : (resolveRelayPriceData tables request ctx first).1 =
      (resolveRelayPriceData tables request ctx second).1 := by
  by_cases images : first.relayMode.isImages = true
  case neg =>
    rw [resolveRelayPriceData, resolveRelayPriceData, ← alike.relayMode, if_neg images, if_neg images]
    exact modelPriceHelper_alike alike
  case pos =>
    have table : hasImagePerImageTablePricing tables first = hasImagePerImageTablePricing tables second := by
      simp only [hasImagePerImageTablePricing, alike.names images, alike.channelId, alike.originModelName]
    rw [resolveRelayPriceData, resolveRelayPriceData, ← alike.relayMode, if_pos images, if_pos images,
      tryModelPriceHelperImage, tryModelPriceHelperImage, imageUnitPrice_alike alike images]
    match imageUnitPrice tables request second with
    | .error _ => rfl
    | .ok (some (channelUsd, globalUsd, unit)) =>
      simp only [alike.groupRatio ctx, buildImagePerImagePriceData_alike (alike.handleGroupRatio ctx)]
    | .ok none =>
      simp only [table]
      split
      · rw [alike.originModelName]
      · exact modelPriceHelper_alike alike

end Alike

end Results

theorem handleGroupRatio_kept : RelayInfo.Kept info (handleGroupRatio tables ctx info).2 := by
  simp only [handleGroupRatio, useAutoGroup]
  split <;> split <;> exact ⟨fun _ => rfl, rfl, rfl⟩

theorem modelPriceHelper_kept : RelayInfo.Kept info (modelPriceHelper tables request ctx info).2 := by
  have group := handleGroupRatio_kept tables ctx info
  simp only [modelPriceHelper, RelayInfo.hold]
  split <;> exact ⟨group.channelMeta, group.runtime, group.flag⟩

variable {tables request ctx info} in
theorem resolveRelayPriceData_kept {price : Except String PriceData} {after : RelayInfo}
    (computed : resolveRelayPriceData tables request ctx info = (price, after)) :
    RelayInfo.Kept info after := by
  obtain rfl : _ = after := congrArg Prod.snd computed
  have group := handleGroupRatio_kept tables ctx info
  have helper := modelPriceHelper_kept tables request ctx info
  simp only [resolveRelayPriceData, tryModelPriceHelperImage]
  by_cases images : info.relayMode.isImages = true
  case neg =>
    rw [if_neg images]
    exact helper
  case pos =>
    rw [if_pos images]
    match imageUnitPrice tables request info with
    | .error _ => exact .refl info
    | .ok (some _) => exact ⟨group.channelMeta, group.runtime, group.flag⟩
    | .ok none =>
      simp only
      split
      · exact .refl info
      · exact helper

end TokenFactory.Relay
