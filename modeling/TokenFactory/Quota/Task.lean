import TokenFactory.Polling.Data
import TokenFactory.Quota.Text
import TokenFactory.Quota.Video

namespace TokenFactory.Quota

open Go Relay

/-! What a task costs: when it is submitted, from the answer of the upstream, and when it
is finished, from the tokens or from the video that was made.

A group ratio that is not positive counts as one in three of these computations. -/

/-- The prices and ratios that the settings hold; `modelRatio` has no value for a model
without a ratio. -/
structure TaskTables where
  quotaPerUnit : Rat
  modelRatio : String → Option Rat
  groupRatio : String → Rat
  groupGroupRatio : String → String → Option Rat
  channelPriceDiscountPercent : Int → Rat
  markupDiscountPercent : Int → Int → String → Rat
  channelVideoPricingRules : Int → String → Option VideoPricingRules
  videoPricingRules : String → Option VideoPricingRules
  lookupGlobalVideoPerSecondUSD : String → VideoMode → String → Bool → Bool → Rat

section Video
variable (tables : TaskTables)

def effectiveVideoPerSecondUSD (channelPerSec globalPerSec costPercent markupPercent : Rat) : Rat :=
  effectiveRuleUnitPrice channelPerSec globalPerSec (if costPercent ≤ 0 then 100 else costPercent)
    markupPercent

def globalVideoPerSecondUSD (modelName : String) (mode : VideoMode) (width height : Int) (hasAudio : Bool) :
    Rat :=
  if trimSpace modelName = "" then 0
  else
    match (tables.videoPricingRules (trimSpace modelName)).bind fun rules =>
        matchPerSecondPriceDetail rules mode width height hasAudio with
    | none => 0
    | some matched => matched.pricePerSecond

/-- The global price of the row that the channel's table has matched, or else of the row
that fits the sides of that row. -/
def globalVideoPerSecondUSDForChannelTier (modelName : String) (mode : VideoMode) (hasAudio : Bool)
    (matched : VideoMatch) : Rat :=
  let resolution := trimSpace matched.resolution
  let named :=
    if resolution = "" ∧ matched.ruleWidth > 0 ∧ matched.ruleHeight > 0 then
      toString matched.ruleWidth ++ "x" ++ toString matched.ruleHeight
    else resolution
  let price := tables.lookupGlobalVideoPerSecondUSD modelName mode named hasAudio matched.unifiedAudio
  if price > 0 then price
  else globalVideoPerSecondUSD tables modelName mode matched.ruleWidth matched.ruleHeight hasAudio

def pricedMatch (rules : VideoPricingRules) (mode : VideoMode) (video : VideoMetadata) : Option VideoMatch :=
  (matchPerSecondPriceDetail rules mode video.width video.height video.hasAudio).filter fun matched =>
    matched.pricePerSecond > 0

def effectiveVideoPerSecondUSDForDimensions (channelId : Int) (modelName : String) (mode : VideoMode)
    (video : VideoMetadata) (costPercent markupPercent : Rat) : Option Rat :=
  let modelName := trimSpace modelName
  if modelName = "" ∨ channelId ≤ 0 then none
  else
    (tables.channelVideoPricingRules channelId modelName).bind fun rules =>
      (pricedMatch rules mode video).map fun matched =>
        effectiveVideoPerSecondUSD matched.pricePerSecond
          (globalVideoPerSecondUSDForChannelTier tables modelName mode video.hasAudio matched)
          costPercent markupPercent

/-- A video that costs anything costs at least one unit. -/
def perSecondQuota (seconds : Int) (pricePerSecond groupRatio : Rat) : Int :=
  let raw := seconds * pricePerSecond * tables.quotaPerUnit * groupRatio
  if mathRound raw ≤ 0 ∧ raw > 0 then 1 else mathRound raw

end Video

/-- The ratio of the group where a computation does not accept a free one. -/
def positiveGroupRatio (groupRatio : Rat) : Rat := if groupRatio ≤ 0 then 1 else groupRatio

structure SubmitInfo where
  originModelName : String
  channelId : Int
  channelType : Int
  priceData : PriceData
  mode : VideoMode

/-- What the answer of the upstream says; no token count is zero. -/
structure SubmitAnswer where
  totalTokens : Int
  metadata : Option VideoMetadata
deriving DecidableEq

section Submit
variable (tables : TaskTables) (info : SubmitInfo)

def submitCostPercent : Rat :=
  if info.priceData.costDiscountPercent = 0 then tables.channelPriceDiscountPercent info.channelId
  else info.priceData.costDiscountPercent

def calcQuotaByUpstreamTokensWithMarkup (totalTokens : Int) (markupPercent : Rat) : Int :=
  let price := info.priceData
  if totalTokens ≤ 0 ∨ price.modelRatio ≤ 0 then 0
  else
    mathRound (totalTokens * effectiveInputRate price.modelRatio price.globalModelRatio
      (submitCostPercent tables info) markupPercent * positiveGroupRatio price.groupRatioInfo.groupRatio)

def calcQuotaByUpstreamTokens (totalTokens : Int) : Int :=
  calcQuotaByUpstreamTokensWithMarkup tables info totalTokens info.priceData.markupDiscountPercent

def calcVideoPerSecondQuotaByTaskData (metadata : Option VideoMetadata) : Int :=
  let price := info.priceData
  match metadata with
  | none => 0
  | some video =>
    if trimSpace info.originModelName = "" ∨ video.durationSec.ceil ≤ 0 then 0
    else
      match effectiveVideoPerSecondUSDForDimensions tables info.channelId info.originModelName info.mode
          video (submitCostPercent tables info) price.markupDiscountPercent with
      | none => 0
      | some pricePerSecond =>
        if pricePerSecond ≤ 0 then 0
        else perSecondQuota tables video.durationSec.ceil pricePerSecond
          (positiveGroupRatio price.groupRatioInfo.groupRatio)

/-- By tokens, or else by the video, or else the estimate. -/
def resolveActualTaskQuotaOnSubmit (answer : SubmitAnswer) (estimatedQuota : Int) : Int :=
  let byTokens := calcQuotaByUpstreamTokens tables info answer.totalTokens
  let byVideo := calcVideoPerSecondQuotaByTaskData tables info answer.metadata
  if answer.totalTokens > 0 ∧ byTokens > 0 then byTokens
  else if ChannelType.isVideoTask info.channelType ∧ byVideo > 0 then byVideo
  else estimatedQuota

end Submit

/-- A finished task as the recalculation reads it: what the probe of the video and the
data of the task say, the seconds that were estimated, and the group ratio that the
request was priced with, if the task has kept it. -/
structure FinishedTask where
  succeeded : Bool
  userId : Int
  channelId : Int
  modelName : String
  group : String
  userGroup : Option String
  groupRatio : Option Rat
  mode : VideoMode
  probed : Option VideoMetadata
  data : Option VideoMetadata
  estimatedSeconds : Int
deriving DecidableEq

section Finished
variable (tables : TaskTables) (task : FinishedTask)

def FinishedTask.metadata : Option VideoMetadata :=
  task.probed.orElse fun _ => task.data.orElse fun _ =>
    if task.estimatedSeconds > 0 then some ⟨task.estimatedSeconds, 1280, 720, false⟩ else none

def channelRules? (channelId : Int) (modelName : String) : Option VideoPricingRules :=
  (tables.channelVideoPricingRules channelId modelName).filter hasUsableVideoPerSecondRules

def recalcVideoPerSecondQuotaOnComplete : Int :=
  if ¬ task.succeeded ∨ trimSpace task.modelName = "" then 0
  else
    match channelRules? tables task.channelId task.modelName, task.metadata with
    | some rules, some video =>
      match pricedMatch rules task.mode video with
      | none => 0
      | some matched =>
        if video.durationSec ≤ 0 ∨ video.durationSec.ceil ≤ 0 then 0
        else
          let pricePerSecond := effectiveVideoPerSecondUSD matched.pricePerSecond
            (globalVideoPerSecondUSDForChannelTier tables task.modelName task.mode video.hasAudio matched)
            (tables.channelPriceDiscountPercent task.channelId)
            (tables.markupDiscountPercent task.userId task.channelId task.modelName)
          perSecondQuota tables video.durationSec.ceil pricePerSecond
            (positiveGroupRatio (task.groupRatio.getD 1))
    | _, _ => 0

def FinishedTask.billedGroup : String :=
  if task.group = "" then task.userGroup.getD "" else task.group

/-- The ratio of the task's group for users of that same group. -/
def tokenGroupRatio (group : String) : Rat :=
  (tables.groupGroupRatio group group).getD (tables.groupRatio group)

def recalculateTaskQuotaByTokens (totalTokens : Int) : Option Int :=
  match (tables.modelRatio task.modelName).filter (fun ratio => ratio > 0) with
  | none => none
  | some modelRatio =>
    if totalTokens ≤ 0 ∨ task.billedGroup = "" then none
    else some (mathRound (totalTokens * effectiveInputRate modelRatio modelRatio
      (tables.channelPriceDiscountPercent task.channelId)
      (tables.markupDiscountPercent task.userId task.channelId task.modelName) *
        tokenGroupRatio tables task.billedGroup))

end Finished

end TokenFactory.Quota
