import TokenFactory.Quota.Free
import TokenFactory.Realtime.Usage
import TokenFactory.Relay.Attempts

namespace TokenFactory.Quota

open Go Relay Realtime

/-! A channel whose price discount is zero, which is to say free. -/

@[simp] theorem effectiveModelPrice_full (channelPrice globalPrice : Rat) :
    effectiveModelPrice channelPrice globalPrice 100 0 = channelPrice := by
  norm_num [effectiveModelPrice]

/-- The tokens of a turn, in units of the input price. -/
def audioUnits (tables : RatioTables) (info : QuotaInfo) : Rat :=
  let audioRatio := tables.audioRatio info.modelName
  info.inputDetails.textTokens + info.outputDetails.textTokens * tables.completionRatio info.modelName +
    info.inputDetails.audioTokens * audioRatio +
    info.outputDetails.audioTokens * audioRatio * tables.audioCompletionRatio info.modelName

theorem calculateAudioQuota_zero_iff (tables : RatioTables) {info : QuotaInfo} (free : info.costDiscountPercent = 0)
    (unmarked : info.markupDiscountPercent = 0) : calculateAudioQuota tables info = 0 ↔
      if info.usePrice then |info.modelPrice * tables.quotaPerUnit * info.groupRatio| < 1
      else
        let quota := info.modelRatio * audioUnits tables info * info.groupRatio
        |quota| < 1 / 2 ∧ (0 < info.modelRatio → 0 < quota) := by
  unfold calculateAudioQuota
  simp only [free, unmarked, if_true, effectiveInputRate, effectiveOutputRate, effectiveModelPrice_full]
  by_cases fixed : info.usePrice = true
  · simpa only [if_pos fixed] using intPart_eq_zero _
  · have units : (info.inputDetails.textTokens * info.modelRatio +
        info.outputDetails.textTokens * (info.modelRatio * tables.completionRatio info.modelName) +
        info.inputDetails.audioTokens * tables.audioRatio info.modelName * info.modelRatio +
        info.outputDetails.audioTokens * tables.audioRatio info.modelName *
          tables.audioCompletionRatio info.modelName * info.modelRatio) * info.groupRatio =
        info.modelRatio * audioUnits tables info * info.groupRatio := by
      unfold audioUnits
      ring
    simp only [if_neg fixed, units, mathRound_eq_zero]
    split_ifs with minimum
    · norm_num [minimum.1, minimum.2]
    · exact ⟨fun small => ⟨small, fun rated => not_le.mp fun low => minimum ⟨rated, low⟩⟩, And.left⟩

theorem perSecondQuota_zero_iff (tables : TaskTables) (seconds : Int) (channelPerSec globalPerSec groupRatio : Rat) :
    perSecondQuota tables seconds (effectiveVideoPerSecondUSD channelPerSec globalPerSec 0 0) groupRatio = 0 ↔
      let raw := seconds * channelPerSec * tables.quotaPerUnit * groupRatio
      raw ≤ 0 ∧ -1 / 2 < raw := by
  simp only [effectiveVideoPerSecondUSD, effectiveRuleUnitPrice, le_refl, if_true, effectiveModelPrice_full,
    perSecondQuota]
  generalize seconds * channelPerSec * tables.quotaPerUnit * groupRatio = raw
  have := mathRound_eq_zero raw
  rcases le_or_gt raw 0 with low | positive
  · rw [if_neg fun minimum => low.not_gt minimum.2, this, abs_of_nonpos low]
    constructor
    · intro small
      exact ⟨low, by linarith⟩
    · intro small
      linarith [small.2]
  · refine iff_of_false ?_ fun small => small.1.not_gt positive
    split_ifs <;> grind

theorem modelPriceHelper_free {tables : PriceTables} {request : PriceRequest} {ctx : Context} {info : RelayInfo}
    {data : PriceData} (priced : (modelPriceHelper tables request ctx info).1 = .ok data)
    (free : tables.channelPriceDiscountPercent info.channelId = 0)
    (unmarked : tables.markupDiscountPercent info.userId info.channelId info.originModelName = 0) :
    data.quotaToPreConsume = 0 ∧ data.costDiscountPercent = 0 ∧ data.markupDiscountPercent = 0 := by
  have marked (price : PriceData) (zero : price.quotaToPreConsume = 0) :
      (markFree tables price).quotaToPreConsume = 0 ∧
        (markFree tables price).costDiscountPercent = price.costDiscountPercent ∧
        (markFree tables price).markupDiscountPercent = price.markupDiscountPercent := by
    unfold markFree
    split_ifs <;> simp [zero]
  have kept := useAutoGroup_kept ctx info
  have cost : costPercent tables (useAutoGroup ctx info) = 0 := by rw [costPercent, kept.2.2.2, free]
  have markup : markupPercent tables (useAutoGroup ctx info) = 0 := by
    rw [markupPercent, kept.1, kept.2.2.2, useAutoGroup_origin, unmarked]
  simp only [modelPriceHelper, handleGroupRatio_info, modelPriceData] at priced
  split at priced
  next price _ =>
    cases priced
    obtain ⟨zero, rate, rest⟩ := marked (fixedPriceData tables request (useAutoGroup ctx info) _ price) (by
      simp only [fixedPriceData, cost, markup, effectiveModelPrice, zero_div, mul_zero, add_zero, zero_mul]
      decide +kernel)
    exact ⟨zero, rate.trans cost, rest.trans markup⟩
  next =>
    split at priced
    next => cases priced
    next ratio _ =>
      cases priced
      obtain ⟨zero, rate, rest⟩ := marked (ratioPriceData tables request (useAutoGroup ctx info) _ ratio) (by
        simp only [ratioPriceData, cost, markup, effectiveInputRate, effectiveModelPrice, zero_div, mul_zero, add_zero,
          zero_mul]
        decide +kernel)
      exact ⟨zero, rate.trans cost, rest.trans markup⟩

/-- The request on a channel without a discount. -/
def TextRequest.atFullPrice (request : TextRequest) : TextRequest :=
  { request with priceData := { request.priceData with costDiscountPercent := 100 } }

theorem TextRequest.atFullPrice_eq (tables : TextTables) {request : TextRequest}
    (free : request.priceData.costDiscountPercent = 0) (summary : TextQuotaSummary) :
    request.atFullPrice.fixedQuota tables = request.fixedQuota tables ∧
      request.atFullPrice.ratioQuota tables summary = request.ratioQuota tables summary := by
  have full : costDiscount request.atFullPrice.priceData = costDiscount request.priceData := by
    norm_num [costDiscount, atFullPrice, free]
  have rates : textRates request.atFullPrice.priceData = textRates request.priceData := by
    simp only [textRates, full]
    rfl
  simp only [fixedQuota, ratioQuota, rates, full]
  exact ⟨rfl, rfl⟩

def freeTables : PriceTables := { discountTables with channelPriceDiscountPercent := fun _ => 0 }

end TokenFactory.Quota
