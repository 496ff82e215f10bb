import TokenFactory.Quota.Discount

namespace TokenFactory.Quota

open Go Relay

/-! A text request in Claude's counts, where the prompt is without the tokens that were read from the
cache or written to it. -/

namespace Usage

variable (usage : Usage) (price : PriceData)

def remaining : Int :=
  max 0 (usage.promptTokensDetails.cachedCreationTokens - usage.claudeCacheCreation5mTokens -
    usage.claudeCacheCreation1hTokens)

/-- The tokens of every class at its ratio. -/
def classTokens : Rat :=
  usage.promptTokens + usage.promptTokensDetails.cachedTokens * price.cacheRatio +
    usage.remaining * price.cacheCreationRatio + usage.claudeCacheCreation5mTokens * price.cacheCreation5mRatio +
    usage.claudeCacheCreation1hTokens * price.cacheCreation1hRatio + usage.completionTokens * price.completionRatio

/-- What the quota leaves out: a written token pays the difference to one of the prompt, which does not
contain it, and one without a time pays the ratio of five minutes. -/
def unpaidTokens : Rat :=
  usage.remaining * (price.cacheCreationRatio - price.cacheCreation5mRatio + 1) +
    usage.claudeCacheCreation5mTokens + usage.claudeCacheCreation1hTokens

end Usage

/-- Only the classes of tokens have a part in the quota, at undiscounted ratios. -/
structure ClaudeCounted (tables : TextTables) (request : TextRequest) (usage : Usage) : Prop where
  semantic : usageSemanticFromUsage request (some usage) = "anthropic"
  channel : request.channel.map TextChannel.channelType ≠ some openRouterType
  untiered : ∀ kind tokens, tiered tables request kind tokens = tokens
  toolless : request.toolQuota tables = 0
  textOnly : usage.promptTokensDetails.imageTokens = 0 ∧ usage.promptTokensDetails.audioTokens = 0
  undiscounted : costDiscount request.priceData = 100 ∧ request.priceData.markupDiscountPercent = 0
  byRatio : request.priceData.usePrice = false
  written : 0 ≤ usage.promptTokensDetails.cachedCreationTokens ∧ 0 ≤ usage.claudeCacheCreation5mTokens ∧
    0 ≤ usage.claudeCacheCreation1hTokens
  priced : 0 ≤ request.priceData.modelRatio ∧ 0 ≤ request.groupRatio ∧ 0 ≤ usage.classTokens request.priceData

/-- The sum over the classes. -/
def TextRequest.classQuota (request : TextRequest) (usage : Usage) : Int :=
  let price := request.priceData
  let quota := mathRound (request.groupRatio * price.modelRatio * usage.classTokens price)
  if quota = 0 ∧ price.modelRatio > 0 then 1 else quota

section
variable {tables : TextTables} {request : TextRequest} {usage : Usage}

theorem textRates_full {price : PriceData} (full : costDiscount price = 100 ∧ price.markupDiscountPercent = 0) :
    textRates price = ⟨price.modelRatio, price.modelRatio * price.completionRatio,
      price.modelRatio * price.cacheRatio, price.modelRatio * price.cacheCreation5mRatio,
      price.modelRatio * price.cacheCreation1hRatio⟩ := by
  simp [textRates, full, effectiveInputRate, effectiveOutputRate, effectiveCacheReadRate, effectiveCacheCreationRate]

theorem ClaudeCounted.ratioQuota (counted : ClaudeCounted tables request usage) :
    let price := request.priceData
    let quota := request.groupRatio * price.modelRatio *
      ((usage.classTokens price - usage.unpaidTokens price) * request.otherRatio)
    request.ratioQuota tables (textTokens tables request (some usage)) =
      mathRound (if price.modelRatio > 0 ∧ quota ≤ 0 then 1 else quota) := by
  obtain ⟨total, short, long⟩ := counted.written
  have unused (tokens : Int) (rate ratio : Rat) :
      (if tokens = 0 then 0 else tokens * rate * ratio) = tokens * rate * ratio := by
    simp +contextual
  simp only [TextRequest.ratioQuota, textTokens, counted.semantic, counted.channel, counted.untiered,
    counted.toolless, textRates_full counted.undiscounted, TextRequest.inputSideTotal, TextRequest.baseTokens,
    TextRequest.cacheReadSideTotal, TextRequest.cacheWriteSideTotal, TextRequest.outputSideTotal,
    TextRequest.audioInputQuota, TextRequest.audioInputPrice, unused, Usage.classTokens, Usage.unpaidTokens,
    Usage.remaining]
  refine congrArg (fun quota : Rat =>
    mathRound (if request.priceData.modelRatio > 0 ∧ quota ≤ 0 then 1 else quota)) ?_
  -- Without a split the written tokens are all of the five minutes' kind.
  by_cases timed : usage.claudeCacheCreation5mTokens > 0 ∨ usage.claudeCacheCreation1hTokens > 0
  · simp [timed, counted.textOnly]
    ring
  · have untimed : usage.claudeCacheCreation5mTokens = 0 ∧ usage.claudeCacheCreation1hTokens = 0 := by omega
    simp [untimed, total, counted.textOnly]
    ring

theorem raised_eq_max (quota : Rat) :
    (let rounded := mathRound (if quota ≤ 0 then 1 else quota)
    if rounded = 0 then 1 else rounded) = max 1 (mathRound quota) := by
  have one : mathRound 1 = 1 := by decide +kernel
  have positive := @mathRound_pos_iff quota
  by_cases low : quota ≤ 0
  · have : ¬ 0 < mathRound quota := fun above => by linarith [positive.mp above]
    simp only [low, if_true, one]
    omega
  · have := mathRound_nonneg (not_le.mp low).le
    simp only [low, if_false]
    omega

end

def claudeRequest : TextRequest :=
  { staffRequest 1 with
    isClaudeFormat := true
    priceData :=
      { staffPrice 1 with
        groupRatioInfo := ⟨1, 0, false⟩
        cacheCreationRatio := 1
        cacheCreation5mRatio := 2
        cacheCreation1hRatio := 3 } }

theorem claudeRequest_counted (short long total : Nat) : ClaudeCounted plainTextTables claudeRequest
    { promptTokens := 100
      promptTokensDetails := { cachedCreationTokens := total }
      claudeCacheCreation5mTokens := short
      claudeCacheCreation1hTokens := long } where
  semantic := rfl
  channel := by decide
  untiered := fun _ _ => rfl
  toolless := by decide +kernel
  textOnly := ⟨rfl, rfl⟩
  undiscounted := by decide +kernel
  byRatio := rfl
  written := ⟨total.cast_nonneg, short.cast_nonneg, long.cast_nonneg⟩
  priced := by
    refine ⟨by decide +kernel, by decide +kernel, ?_⟩
    norm_num [Usage.classTokens, Usage.remaining, claudeRequest, staffPrice]
    positivity

end TokenFactory.Quota
