import TokenFactory.Go.Number
import TokenFactory.Relay.Price

namespace TokenFactory.Quota

open Go Relay

/-! `calculateTextQuotaSummary`: what a text request costs.

Every class of tokens has its own rate, tier tables bend the numbers of tokens, tools
cost extra, and a request that used tokens of a priced model costs at least one unit.
Decimals are exact rationals. -/

structure PromptTokensDetails where
  cachedTokens : Int := 0
  cachedCreationTokens : Int := 0
  imageTokens : Int := 0
  audioTokens : Int := 0
deriving DecidableEq

/-- `cost` is the amount that the upstream reports, if it is a number. -/
structure Usage where
  promptTokens : Int := 0
  completionTokens : Int := 0
  promptTokensDetails : PromptTokensDetails := {}
  claudeCacheCreation5mTokens : Int := 0
  claudeCacheCreation1hTokens : Int := 0
  usageSemantic : String := ""
  cost : Option Rat := none
deriving DecidableEq

/-- A segment without an upper end takes what is left. -/
structure TierSegment where
  upTo : Int
  ratio : Rat
deriving DecidableEq

inductive TierKind where
  | model
  | completion
  | cache
  | createCache
deriving DecidableEq

structure TextTables where
  quotaPerUnit : Rat
  defaultModelRatio : String → Option Rat
  webSearchPricePerThousand : String → String → Rat
  claudeWebSearchPricePerThousand : Rat
  fileSearchPricePerThousand : Rat
  gptImage1PriceOnceCall : String → String → Rat
  geminiInputAudioPricePerMillionTokens : String → Rat
  channelTier : TierKind → Int → String → Option (List TierSegment)
  tier : TierKind → String → Option (List TierSegment)

structure WebSearchTool where
  callCount : Int
  searchContextSize : String
deriving DecidableEq

/-- The built-in tools of a request in the responses format, with their calls. -/
structure ResponsesUsageInfo where
  webSearch : Option WebSearchTool := none
  fileSearchCallCount : Int := 0
deriving DecidableEq

structure TextChannel where
  channelId : Int
  channelType : Int
deriving DecidableEq

/-- What the price of a request depends on besides the usage; `imageGenerationCall` is
the quality and the size of an image that a tool has made. -/
structure TextRequest where
  originModelName : String
  priceData : PriceData
  channel : Option TextChannel
  isClaudeFormat : Bool
  estimatePromptTokens : Int
  responsesUsageInfo : Option ResponsesUsageInfo
  webSearchContextSize : String
  claudeWebSearchRequests : Int
  imageGenerationCall : Option (String × String)

def effectiveCacheReadRate (channelRatio cacheRatio globalRatio globalCacheRatio costPercent
    markupPercent : Rat) : Rat :=
  effectiveOutputRate channelRatio cacheRatio globalRatio globalCacheRatio costPercent markupPercent

def effectiveCacheCreationRate (channelRatio createCacheRatio globalRatio globalCreateCacheRatio costPercent
    markupPercent : Rat) : Rat :=
  effectiveOutputRate channelRatio createCacheRatio globalRatio globalCreateCacheRatio costPercent
    markupPercent

structure TextRates where
  input : Rat
  output : Rat
  cacheRead : Rat
  cacheCreate5m : Rat
  cacheCreate1h : Rat
deriving DecidableEq

/-- A discount that was not set counts as none. -/
def costDiscount (price : PriceData) : Rat :=
  if price.costDiscountPercent = 0 then 100 else price.costDiscountPercent

def textRates (price : PriceData) : TextRates :=
  let cost := costDiscount price
  let markup := price.markupDiscountPercent
  let ratio := price.modelRatio
  let global := price.globalModelRatio
  { input := effectiveInputRate ratio global cost markup
    output := effectiveOutputRate ratio price.completionRatio global price.globalCompletionRatio cost markup
    cacheRead := effectiveCacheReadRate ratio price.cacheRatio global price.globalCacheRatio cost markup
    cacheCreate5m := effectiveCacheCreationRate ratio price.cacheCreation5mRatio global
      price.globalCreateCacheRatio cost markup
    cacheCreate1h := effectiveCacheCreationRate ratio price.cacheCreation1hRatio global
      (price.globalCreateCacheRatio * (6 / (15 / 4))) cost markup }

/-- The loop over the segments: what is left, where the last segment ended, and the sum. -/
def tierLoop (remaining previous result : Rat) : List TierSegment → Rat
  | [] => if remaining > 0 then result + remaining else result
  | segment :: rest =>
    if remaining ≤ 0 then result
    else if segment.upTo = 0 then
      tierLoop (remaining - remaining) (previous + remaining) (result + remaining * segment.ratio) rest
    else if (segment.upTo : Rat) ≤ previous then tierLoop remaining previous result rest
    else
      let size := min remaining (segment.upTo - previous)
      tierLoop (remaining - size) segment.upTo (result + size * segment.ratio) rest

def applyTierSegmentsForType (tokens : Rat) (segments : List TierSegment) : Rat :=
  if tokens ≤ 0 ∨ segments = [] then tokens else tierLoop tokens 0 0 segments

/-- The tier of the channel goes before the global one. -/
def resolveTierRatio (tables : TextTables) (kind : TierKind) (channelId : Int) (model : String) :
    Option (List TierSegment) :=
  (tables.channelTier kind channelId model).orElse fun _ => tables.tier kind model

def TextRequest.channelId (request : TextRequest) : Int :=
  match request.channel with
  | none => 0
  | some channel => channel.channelId

def tiered (tables : TextTables) (request : TextRequest) (kind : TierKind) (tokens : Rat) : Rat :=
  match resolveTierRatio tables kind request.channelId request.originModelName with
  | none => tokens
  | some segments => applyTierSegmentsForType tokens segments

def toLower (text : String) : String := String.ofList (text.toList.map Char.toLower)

def usageSemanticFromUsage (request : TextRequest) (usage : Option Usage) : String :=
  match usage.filter fun usage => usage.usageSemantic ≠ "" with
  | some usage => usage.usageSemantic
  | none => if request.isClaudeFormat then "anthropic" else "openai"

def isLegacyClaudeDerivedOpenAIUsage (request : TextRequest) (usage : Usage) : Bool :=
  !request.isClaudeFormat && toLower usage.usageSemantic ≠ "anthropic" &&
    (contains (toLower request.originModelName) "claude" || usage.claudeCacheCreation5mTokens > 0 ||
      usage.claudeCacheCreation1hTokens > 0)

def hasCustomModelRatio (tables : TextTables) (modelName : String) (currentRatio : Rat) : Bool :=
  match tables.defaultModelRatio modelName with
  | none => true
  | some ratio => currentRatio ≠ ratio

/-- The number of tokens that were written to the cache, from the cost that the upstream
reports. -/
def calcOpenRouterCacheCreateTokens (tables : TextTables) (usage : Usage) (price : PriceData) : Int :=
  if price.cacheCreationRatio = 1 then 0
  else
    let quotaPrice := price.modelRatio / tables.quotaPerUnit
    let createPrice := quotaPrice * price.cacheCreationRatio
    let readPrice := quotaPrice * price.cacheRatio
    let completionPrice := quotaPrice * price.completionRatio
    mathRound ((usage.cost.getD 0 - usage.promptTokens * quotaPrice +
      usage.promptTokensDetails.cachedTokens * (quotaPrice - readPrice) -
      usage.completionTokens * completionPrice) / (createPrice - quotaPrice))

structure TextQuotaSummary where
  promptTokens : Int
  completionTokens : Int
  totalTokens : Int
  cacheTokens : Int
  cacheCreationTokens : Int
  cacheCreationTokens5m : Int
  cacheCreationTokens1h : Int
  imageTokens : Int
  audioTokens : Int
  isClaudeUsageSemantic : Bool
  legacyClaudeDerived : Bool
  quota : Int := 0
deriving DecidableEq

def openRouterType : Int := 20

/-- The counts as the usage gives them. On OpenRouter the prompt of a Claude model
contains the cached tokens. -/
def textTokens (tables : TextTables) (request : TextRequest) (usage : Option Usage) : TextQuotaSummary :=
  let isClaude := usageSemanticFromUsage request usage = "anthropic"
  let used := usage.getD { promptTokens := request.estimatePromptTokens }
  let details := used.promptTokensDetails
  let summary : TextQuotaSummary :=
    { promptTokens := used.promptTokens
      completionTokens := used.completionTokens
      totalTokens := used.promptTokens + used.completionTokens
      cacheTokens := details.cachedTokens
      cacheCreationTokens := details.cachedCreationTokens
      cacheCreationTokens5m := used.claudeCacheCreation5mTokens
      cacheCreationTokens1h := used.claudeCacheCreation1hTokens
      imageTokens := details.imageTokens
      audioTokens := details.audioTokens
      isClaudeUsageSemantic := isClaude
      legacyClaudeDerived := isLegacyClaudeDerivedOpenAIUsage request used }
  if (request.channel.map TextChannel.channelType) = some openRouterType ∧ isClaude then
    let prompt := used.promptTokens - details.cachedTokens
    let custom := request.priceData.usePrice ||
      hasCustomModelRatio tables request.originModelName request.priceData.modelRatio
    let maybe := calcOpenRouterCacheCreateTokens tables used request.priceData
    -- The cost is compared with an integer and so differs from it whatever it is.
    let creation :=
      if details.cachedCreationTokens = 0 ∧ request.priceData.cacheCreationRatio ≠ 1 ∧ ¬ custom ∧
          maybe ≥ 0 ∧ prompt ≥ maybe then maybe
      else details.cachedCreationTokens
    { summary with promptTokens := prompt - creation, cacheCreationTokens := creation }
  else summary

namespace TextRequest

variable (tables : TextTables) (request : TextRequest) (summary : TextQuotaSummary)

def groupRatio : Rat := request.priceData.groupRatioInfo.groupRatio

/-- Models for searching pay for one search even when no tool was called. -/
def webSearchQuota : Rat :=
  match request.responsesUsageInfo with
  | some used =>
    match used.webSearch.filter fun tool => tool.callCount > 0 with
    | none => 0
    | some tool =>
      tables.webSearchPricePerThousand request.originModelName tool.searchContextSize * tool.callCount /
        1000 * request.groupRatio * tables.quotaPerUnit
  | none =>
    if hasSuffix request.originModelName "search-preview" then
      let size := if request.webSearchContextSize = "" then "medium" else request.webSearchContextSize
      tables.webSearchPricePerThousand request.originModelName size / 1000 * request.groupRatio *
        tables.quotaPerUnit
    else 0

def claudeWebSearchQuota : Rat :=
  if request.claudeWebSearchRequests > 0 then
    tables.claudeWebSearchPricePerThousand / 1000 * request.groupRatio * tables.quotaPerUnit *
      request.claudeWebSearchRequests
  else 0

def fileSearchQuota : Rat :=
  match request.responsesUsageInfo.filter fun used => used.fileSearchCallCount > 0 with
  | none => 0
  | some used =>
    tables.fileSearchPricePerThousand * used.fileSearchCallCount / 1000 * request.groupRatio *
      tables.quotaPerUnit

def imageGenerationCallQuota : Rat :=
  match request.imageGenerationCall with
  | none => 0
  | some (quality, size) => tables.gptImage1PriceOnceCall quality size * request.groupRatio * tables.quotaPerUnit

/-- Audio in the prompt has a price of its own for some models. -/
def audioInputPrice : Rat :=
  if summary.audioTokens ≠ 0 then tables.geminiInputAudioPricePerMillionTokens request.originModelName else 0

def audioInputQuota : Rat :=
  if audioInputPrice tables request summary > 0 then
    audioInputPrice tables request summary / 1000000 * summary.audioTokens * request.groupRatio *
      tables.quotaPerUnit
  else 0

/-- The prompt without the tokens that are counted elsewhere. With Claude's counts the
cached tokens are no part of the prompt. -/
def baseTokens : Rat :=
  let claudeCounts := summary.isClaudeUsageSemantic || summary.legacyClaudeDerived
  let cached := if claudeCounts then 0 else summary.cacheTokens + summary.cacheCreationTokens
  let audio := if audioInputPrice tables request summary > 0 then summary.audioTokens else 0
  (summary.promptTokens - cached - summary.imageTokens - audio : Int)

def inputSideTotal (rates : TextRates) : Rat :=
  (tiered tables request .model (request.baseTokens tables summary) +
    summary.imageTokens * request.priceData.imageRatio) * rates.input * request.groupRatio

def cacheReadSideTotal (rates : TextRates) : Rat :=
  if summary.cacheTokens = 0 then 0
  else tiered tables request .cache summary.cacheTokens * rates.cacheRead * request.groupRatio

/-- With Claude's counts the written tokens are paid as part of the prompt, and only the
difference is added. -/
def cacheWriteSideTotal (rates : TextRates) : Rat :=
  let paid := if summary.isClaudeUsageSemantic || summary.legacyClaudeDerived then rates.input else 0
  let rate5m := rates.cacheCreate5m - paid
  let rate1h := rates.cacheCreate1h - paid
  if summary.cacheCreationTokens5m > 0 ∨ summary.cacheCreationTokens1h > 0 then
    let remaining := max 0
      (summary.cacheCreationTokens - summary.cacheCreationTokens5m - summary.cacheCreationTokens1h)
    (remaining * rate5m + summary.cacheCreationTokens5m * rate5m + summary.cacheCreationTokens1h * rate1h) *
      request.groupRatio
  else if summary.cacheCreationTokens = 0 then 0
  else tiered tables request .createCache summary.cacheCreationTokens * rate5m * request.groupRatio

def outputSideTotal (rates : TextRates) : Rat :=
  tiered tables request .completion summary.completionTokens * rates.output * request.groupRatio

def toolQuota : Rat :=
  request.webSearchQuota tables + request.claudeWebSearchQuota tables + request.fileSearchQuota tables +
    request.imageGenerationCallQuota tables

def otherRatio : Rat := (request.priceData.otherRatios.map Prod.snd).prod

/-- A model with a positive rate costs at least one unit here. -/
def ratioQuota : Int :=
  let rates := textRates request.priceData
  let quota := (request.inputSideTotal tables summary rates + request.cacheReadSideTotal tables summary rates +
    request.cacheWriteSideTotal tables summary rates + request.outputSideTotal tables summary rates +
    request.toolQuota tables + request.audioInputQuota tables summary) * request.otherRatio
  mathRound (if rates.input > 0 ∧ quota ≤ 0 then 1 else quota)

/-- Audio in the prompt of a model with a fixed price costs nothing extra. -/
def fixedQuota : Int :=
  let price := request.priceData
  mathRound ((effectiveModelPrice price.modelPrice price.globalModelPrice (costDiscount price)
    price.markupDiscountPercent * tables.quotaPerUnit * request.groupRatio + request.toolQuota tables) *
      request.otherRatio)

end TextRequest

def calculateTextQuotaSummary (tables : TextTables) (request : TextRequest) (usage : Option Usage) :
    TextQuotaSummary :=
  let summary := textTokens tables request usage
  let price := request.priceData
  let quota := if price.usePrice then request.fixedQuota tables else request.ratioQuota tables summary
  { summary with
    quota :=
      if summary.totalTokens = 0 then 0
      else if quota = 0 ∧ (price.modelRatio > 0 ∨ price.modelPrice > 0) then 1
      else quota }

end TokenFactory.Quota
