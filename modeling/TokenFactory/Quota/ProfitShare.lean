import TokenFactory.Affiliate.Withdrawals
import TokenFactory.Quota.Free

namespace TokenFactory.Quota

open Go Relay

/-! The sign of a text quota, and the share of it that goes to the inviter. -/

/-- What is known of the user and of the inviter: whether the inviter's row is one of a distributor,
and the commission rate that applies to the two. -/
structure ShareTerms where
  profitShareMode : Bool
  billingSource : String
  userId : Int
  inviterId : Option Int
  inviterIsDistributor : Bool
  commissionBps : Int
deriving DecidableEq

def textQuotaSummaryWithMarkupOverride (tables : TextTables) (request : TextRequest) (usage : Option Usage)
    (markupPercent : Rat) : TextQuotaSummary :=
  calculateTextQuotaSummary tables
    { request with priceData := { request.priceData with markupDiscountPercent := markupPercent } } usage

def maxAffBps : Int := 10000

/-- The call that credits the inviter, if there is one. -/
def tryPostWalletProfitShareCredit (tables : TextTables) (request : TextRequest) (usage : Option Usage)
    (terms : ShareTerms) (summary : TextQuotaSummary) : Option Affiliate.Call :=
  let source := trimSpace terms.billingSource
  if ¬ terms.profitShareMode then none
  else if source ≠ "" ∧ source ≠ "wallet" then none
  else if summary.quota ≤ 0 then none
  else if summary.totalTokens = 0 ∧ ¬ request.priceData.usePrice then none
  else
    match terms.inviterId.filter fun inviter => inviter > 0 with
    | none => none
    | some inviter =>
      if ¬ terms.inviterIsDistributor then none
      else
        let slice := summary.quota - (textQuotaSummaryWithMarkupOverride tables request usage 0).quota
        let bps := min terms.commissionBps maxAffBps
        let reward := (slice * bps).tdiv maxAffBps
        if slice ≤ 0 ∨ terms.commissionBps ≤ 0 ∨ reward ≤ 0 then none
        else
          some (.creditDistributorProfitShare inviter terms.userId request.channelId
            (trimSpace request.originModelName) summary.quota slice reward bps)

/-- No price and no ratio that the sum depends on is negative. -/
structure NonnegativePrices (tables : TextTables) (request : TextRequest) : Prop where
  quotaPerUnit : 0 ≤ tables.quotaPerUnit
  webSearch : ∀ name size, 0 ≤ tables.webSearchPricePerThousand name size
  claudeWebSearch : 0 ≤ tables.claudeWebSearchPricePerThousand
  fileSearch : 0 ≤ tables.fileSearchPricePerThousand
  imageGeneration : ∀ quality size, 0 ≤ tables.gptImage1PriceOnceCall quality size
  groupRatio : 0 ≤ request.groupRatio
  modelRatio : 0 ≤ request.priceData.modelRatio
  globalModelRatio : 0 ≤ request.priceData.globalModelRatio
  modelPrice : 0 ≤ request.priceData.modelPrice
  globalModelPrice : 0 ≤ request.priceData.globalModelPrice
  costDiscountPercent : 0 ≤ request.priceData.costDiscountPercent
  markupDiscountPercent : 0 ≤ request.priceData.markupDiscountPercent
  otherRatios : ∀ entry ∈ request.priceData.otherRatios, 0 < entry.2

section
variable {tables : TextTables} {request : TextRequest} {usage : Option Usage} {summary : TextQuotaSummary}

theorem costDiscount_pos {price : PriceData} (nonnegative : 0 ≤ price.costDiscountPercent) :
    0 < costDiscount price := by
  unfold costDiscount
  split
  · norm_num
  · next unset => exact lt_of_le_of_ne nonnegative (Ne.symm unset)

theorem textRates_zero {price : PriceData} (ratio : 0 ≤ price.modelRatio) (global : 0 ≤ price.globalModelRatio)
    (cost : 0 ≤ price.costDiscountPercent) (markup : 0 ≤ price.markupDiscountPercent)
    (free : ¬ (textRates price).input > 0) : textRates price = ⟨0, 0, 0, 0, 0⟩ := by
  have discount := costDiscount_pos cost
  have own : 0 ≤ price.modelRatio * (costDiscount price / 100) := by positivity
  have platform : 0 ≤ price.globalModelRatio * (price.markupDiscountPercent / 100) := by positivity
  have sum : price.modelRatio * (costDiscount price / 100) +
      price.globalModelRatio * (price.markupDiscountPercent / 100) ≤ 0 := not_lt.mp free
  have ownZero : price.modelRatio = 0 := by
    have product : price.modelRatio * (costDiscount price / 100) = 0 := by linarith
    rcases mul_eq_zero.mp product with zero | zero
    · exact zero
    · exact absurd zero (by positivity)
  have platformZero : price.globalModelRatio = 0 ∨ price.markupDiscountPercent = 0 := by
    have product : price.globalModelRatio * (price.markupDiscountPercent / 100) = 0 := by linarith
    rcases mul_eq_zero.mp product with zero | zero
    · exact .inl zero
    · exact .inr (by simpa using zero)
  rcases platformZero with zero | zero <;>
    simp [textRates, effectiveInputRate, effectiveOutputRate, effectiveCacheReadRate, effectiveCacheCreationRate,
      effectiveModelPrice, ownZero, zero]

section
variable (prices : NonnegativePrices tables request)
include prices

theorem otherRatio_pos : 0 < request.otherRatio := by
  refine List.prod_pos fun ratio member => ?_
  obtain ⟨entry, listed, rfl⟩ := List.mem_map.mp member
  exact prices.otherRatios entry listed

theorem webSearchQuota_nonneg : 0 ≤ request.webSearchQuota tables := by
  have group := prices.groupRatio
  have unit := prices.quotaPerUnit
  unfold TextRequest.webSearchQuota
  cases request.responsesUsageInfo with
  | none =>
    dsimp only
    split
    · have price := prices.webSearch request.originModelName
        (if request.webSearchContextSize = "" then "medium" else request.webSearchContextSize)
      positivity
    · exact le_refl 0
  | some used =>
    cases called : used.webSearch.filter fun tool => tool.callCount > 0 with
    | none => simp only [called, le_refl]
    | some tool =>
      have calls : (0 : Rat) < tool.callCount := by
        exact_mod_cast of_decide_eq_true (Option.filter_eq_some_iff.mp called).2
      have price := prices.webSearch request.originModelName tool.searchContextSize
      simp only [called]
      positivity

theorem claudeWebSearchQuota_nonneg : 0 ≤ request.claudeWebSearchQuota tables := by
  have group := prices.groupRatio
  have unit := prices.quotaPerUnit
  have price := prices.claudeWebSearch
  unfold TextRequest.claudeWebSearchQuota
  split
  · next calls =>
      positivity
  · exact le_refl 0

theorem fileSearchQuota_nonneg : 0 ≤ request.fileSearchQuota tables := by
  have group := prices.groupRatio
  have unit := prices.quotaPerUnit
  have price := prices.fileSearch
  unfold TextRequest.fileSearchQuota
  cases called : request.responsesUsageInfo.filter fun used => used.fileSearchCallCount > 0 with
  | none => simp only [le_refl]
  | some used =>
    have calls : (0 : Rat) < used.fileSearchCallCount := by
      exact_mod_cast of_decide_eq_true (Option.filter_eq_some_iff.mp called).2
    positivity

theorem imageGenerationCallQuota_nonneg : 0 ≤ request.imageGenerationCallQuota tables := by
  have group := prices.groupRatio
  have unit := prices.quotaPerUnit
  unfold TextRequest.imageGenerationCallQuota
  cases request.imageGenerationCall with
  | none => exact le_refl 0
  | some call =>
    have price := prices.imageGeneration call.1 call.2
    positivity

theorem toolQuota_nonneg : 0 ≤ request.toolQuota tables := by
  have web := webSearchQuota_nonneg prices
  have claude := claudeWebSearchQuota_nonneg prices
  have file := fileSearchQuota_nonneg prices
  have image := imageGenerationCallQuota_nonneg prices
  unfold TextRequest.toolQuota
  linarith

theorem audioInputQuota_nonneg (audio : 0 ≤ summary.audioTokens) :
    0 ≤ request.audioInputQuota tables summary := by
  have group := prices.groupRatio
  have unit := prices.quotaPerUnit
  unfold TextRequest.audioInputQuota
  split
  · next price =>
      positivity
  · exact le_refl 0

theorem ratioQuota_nonneg (audio : 0 ≤ summary.audioTokens) :
    0 ≤ request.ratioQuota tables summary := by
  apply mathRound_nonneg
  by_cases paid : (textRates request.priceData).input > 0
  · split_ifs with raised
    · norm_num
    · exact (not_le.mp fun low => raised ⟨paid, low⟩).le
  · have tools := toolQuota_nonneg prices
    have sound := audioInputQuota_nonneg prices audio
    have others := otherRatio_pos prices
    have zero := textRates_zero prices.modelRatio prices.globalModelRatio prices.costDiscountPercent
      prices.markupDiscountPercent paid
    rw [if_neg fun raised => paid raised.1, zero]
    simp only [TextRequest.inputSideTotal, TextRequest.cacheReadSideTotal, TextRequest.cacheWriteSideTotal,
      TextRequest.outputSideTotal, mul_zero, zero_mul, ite_self, sub_self, add_zero, zero_add]
    positivity

theorem fixedQuota_nonneg : 0 ≤ request.fixedQuota tables := by
  have tools := toolQuota_nonneg prices
  have others := otherRatio_pos prices
  have price := prices.modelPrice
  have global := prices.globalModelPrice
  have markup := prices.markupDiscountPercent
  have unit := prices.quotaPerUnit
  have group := prices.groupRatio
  have discount := costDiscount_pos prices.costDiscountPercent
  unfold TextRequest.fixedQuota effectiveModelPrice
  apply mathRound_nonneg
  positivity

end

theorem textTokens_audio (heard : ∀ used ∈ usage, 0 ≤ used.promptTokensDetails.audioTokens) :
    0 ≤ (textTokens tables request usage).audioTokens := by
  have count : (textTokens tables request usage).audioTokens =
      (usage.getD { promptTokens := request.estimatePromptTokens }).promptTokensDetails.audioTokens := by
    unfold textTokens
    dsimp only
    split <;> rfl
  rw [count]
  cases usage with
  | none => exact le_refl 0
  | some used => exact heard used rfl

section
variable (prices : NonnegativePrices tables request)
include prices

theorem textQuota_nonneg (heard : ∀ used ∈ usage, 0 ≤ used.promptTokensDetails.audioTokens) :
    0 ≤ (calculateTextQuotaSummary tables request usage).quota := by
  have fixed := fixedQuota_nonneg prices
  have ratio : 0 ≤ request.ratioQuota tables (textTokens tables request usage) :=
    ratioQuota_nonneg prices (textTokens_audio heard)
  simp only [calculateTextQuotaSummary]
  split_ifs <;> omega

theorem textQuota_pos (heard : ∀ used ∈ usage, 0 ≤ used.promptTokensDetails.audioTokens)
    (tokens : (calculateTextQuotaSummary tables request usage).totalTokens ≠ 0)
    (byRatio : request.priceData.usePrice = false) (priced : 0 < request.priceData.modelRatio) :
    1 ≤ (calculateTextQuotaSummary tables request usage).quota := by
  have ratio : 0 ≤ request.ratioQuota tables (textTokens tables request usage) :=
    ratioQuota_nonneg prices (textTokens_audio heard)
  simp only [calculateTextQuotaSummary] at tokens ⊢
  simp only [byRatio, Bool.false_eq_true, if_false, if_neg tokens, priced, true_or, and_true]
  split_ifs <;> omega

theorem NonnegativePrices.withoutMarkup : NonnegativePrices tables
      { request with priceData := { request.priceData with markupDiscountPercent := 0 } } :=
  { prices with markupDiscountPercent := le_refl 0 }

end

end

theorem reward_bounds {slice bps : Int} (shared : 0 < slice) (rate : 0 < bps) :
    0 ≤ (slice * min bps maxAffBps).tdiv maxAffBps ∧ (slice * min bps maxAffBps).tdiv maxAffBps ≤ slice := by
  have low : 0 ≤ slice * min bps maxAffBps :=
    Int.mul_nonneg shared.le (le_min rate.le (by decide))
  have high : slice * min bps maxAffBps ≤ slice * maxAffBps :=
    Int.mul_le_mul_of_nonneg_left (min_le_right _ _) shared.le
  rw [Int.tdiv_eq_ediv_of_nonneg low]
  refine ⟨Int.ediv_nonneg low (by decide), ?_⟩
  calc slice * min bps maxAffBps / maxAffBps
      ≤ slice * maxAffBps / maxAffBps := Int.ediv_le_ediv (by decide) high
    _ = slice := Int.mul_ediv_cancel slice (by decide)

theorem tryPostWalletProfitShareCredit_some {tables : TextTables} {request : TextRequest} {usage : Option Usage}
    {terms : ShareTerms} {summary : TextQuotaSummary} {call : Affiliate.Call}
    (credited : tryPostWalletProfitShareCredit tables request usage terms summary = some call) :
    let slice := summary.quota - (textQuotaSummaryWithMarkupOverride tables request usage 0).quota
    let bps := min terms.commissionBps maxAffBps
    0 < slice ∧ 0 < terms.commissionBps ∧ ∃ inviter, call =
      .creditDistributorProfitShare inviter terms.userId request.channelId (trimSpace request.originModelName)
        summary.quota slice ((slice * bps).tdiv maxAffBps) bps := by
  cases found : terms.inviterId.filter fun inviter => inviter > 0 with
  | none => simp [tryPostWalletProfitShareCredit, found] at credited
  | some inviter =>
    simp only [tryPostWalletProfitShareCredit, found] at credited
    split_ifs at credited with _ _ _ _ _ refused
    simp only [not_or, not_le] at refused
    exact ⟨refused.1, refused.2.1, inviter, (Option.some.inj credited).symm⟩

/-- A quota is not negative, and positive for a model with a ratio; the reward of the inviter is a part
of what the markup adds to it. -/
theorem text_quota_nonneg_and_share_bounded (tables : TextTables) (request : TextRequest) (usage : Option Usage)
    (terms : ShareTerms) (prices : NonnegativePrices tables request)
    (heard : ∀ used ∈ usage, 0 ≤ used.promptTokensDetails.audioTokens) :
    let summary := calculateTextQuotaSummary tables request usage
    0 ≤ summary.quota ∧
      (summary.totalTokens ≠ 0 → request.priceData.usePrice = false → 0 < request.priceData.modelRatio →
        1 ≤ summary.quota) ∧
      ∀ inviter invitee channel model charged slice reward bps,
        tryPostWalletProfitShareCredit tables request usage terms summary =
            some (.creditDistributorProfitShare inviter invitee channel model charged slice reward bps) →
          charged = summary.quota ∧
            slice = summary.quota - (textQuotaSummaryWithMarkupOverride tables request usage 0).quota ∧
            0 ≤ reward ∧ reward ≤ slice ∧ slice ≤ summary.quota := by
  intro summary
  refine ⟨textQuota_nonneg prices heard, textQuota_pos prices heard, ?_⟩
  intro inviter invitee channel model charged slice reward bps credited
  have rest : 0 ≤ (textQuotaSummaryWithMarkupOverride tables request usage 0).quota :=
    textQuota_nonneg prices.withoutMarkup heard
  obtain ⟨paid, rate, known, call⟩ := tryPostWalletProfitShareCredit_some credited
  obtain ⟨_, _, _, _, rfl, rfl, rfl, _⟩ := call
  obtain ⟨low, high⟩ := reward_bounds paid rate
  exact ⟨rfl, rfl, low, high, by omega⟩

def markedUpRequest : TextRequest :=
  { staffRequest 1 with
    priceData :=
      { staffPrice 1 with groupRatioInfo := ⟨1, -1, false⟩, globalModelRatio := 1, markupDiscountPercent := 10 } }

theorem markedUpRequest_prices : NonnegativePrices plainTextTables markedUpRequest where
  quotaPerUnit := by decide +kernel
  webSearch := fun _ _ => by norm_num [plainTextTables]
  claudeWebSearch := by decide +kernel
  fileSearch := by decide +kernel
  imageGeneration := fun _ _ => le_refl 0
  groupRatio := by decide +kernel
  modelRatio := by decide +kernel
  globalModelRatio := by decide +kernel
  modelPrice := by decide +kernel
  globalModelPrice := by decide +kernel
  costDiscountPercent := by decide +kernel
  markupDiscountPercent := by decide +kernel
  otherRatios := by decide +kernel

theorem text_quota_nonneg_and_share_bounded_tenPercent :
    let usage : Option Usage := some { promptTokens := 1000 }
    let summary := calculateTextQuotaSummary plainTextTables markedUpRequest usage
    tryPostWalletProfitShareCredit plainTextTables markedUpRequest usage ⟨true, "", 3, some 2, true, 2000⟩ summary =
        some (.creditDistributorProfitShare 2 3 7 "chat" 1100 100 20 2000) ∧
      (1 : Int) ≤ summary.quota ∧ (0 : Int) ≤ 20 ∧ (20 : Int) ≤ 100 ∧ 100 ≤ summary.quota := by
  intro usage summary
  obtain ⟨_, positive, shared⟩ := text_quota_nonneg_and_share_bounded plainTextTables markedUpRequest usage
    ⟨true, "", 3, some 2, true, 2000⟩ markedUpRequest_prices (by decide +kernel)
  have credited : tryPostWalletProfitShareCredit plainTextTables markedUpRequest usage
      ⟨true, "", 3, some 2, true, 2000⟩ summary =
        some (.creditDistributorProfitShare 2 3 7 "chat" 1100 100 20 2000) := by
    have whole : summary.quota = 1100 := by decide +kernel
    have rest : (textQuotaSummaryWithMarkupOverride plainTextTables markedUpRequest usage 0).quota = 1000 := by
      decide +kernel
    unfold tryPostWalletProfitShareCredit
    rw [whole, rest]
    rfl
  obtain ⟨_, _, low, high, bound⟩ := shared 2 3 7 "chat" 1100 100 20 2000 credited
  exact ⟨credited, positive (by decide +kernel) rfl (by decide +kernel), low, high, bound⟩

end TokenFactory.Quota
