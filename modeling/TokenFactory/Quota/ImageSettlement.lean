import TokenFactory.Quota.Free
import TokenFactory.Quota.ImageBilling

namespace TokenFactory.Quota

open Go Relay Options

/-! What is settled for images is what was taken in advance. -/

/-- The prices of an image that the tables have for the channel and for the platform, under the names of
the model that are known now. -/
def imagePrices (tables : PriceTables) (info : RelayInfo) (estimate : ImageEstimate) : Option Rat × Option Rat :=
  (tables.channelImageUsd info.channelId (candidateNames tables info) estimate,
    tables.globalImageUsd (candidateNames tables info) estimate)

def unitPrice (prices : Option Rat × Option Rat) : Option Rat :=
  (positive prices.1).orElse fun _ => positive prices.2

section
variable (tables : PriceTables) (ctx : Context) (info : RelayInfo) (request : ImageRequest)

/-- The prices that are settled: those found with the answer, if there are any and the requested model has
a price under its own name, and otherwise the first ones. -/
def settlementPrices (later : Option ChannelMeta) : Option Rat × Option Rat :=
  let answered := answeredInfo tables ctx info request later
  let found := imagePrices tables answered (imagePricing info request).image
  if shouldCaptureImageResponse answered ∧
      hasImageGenerationPricing tables answered (imageModelNameCandidates tables info.originModelName) ∧
      (unitPrice found).isSome then found
  else imagePrices tables info (imagePricing info request).image

/-- The price data that these prices of an image give. -/
def PricedAt (prices : Option Rat × Option Rat) (data : PriceData) : Prop :=
  ∃ unit, unitPrice prices = some unit ∧ data = (buildImagePerImagePriceData tables (imagePricing info request)
    (useAutoGroup ctx info) (handleGroupRatio tables ctx info).1 prices.1 prices.2 unit).1

def imageAmount (unit : Rat) : Rat :=
  unit * (imagePricing info request).image.count * tables.quotaPerUnit * (handleGroupRatio tables ctx info).1.groupRatio

/-- The amount that is taken in advance, before it is rounded. -/
def advanceAmount : Rat :=
  let prices := imagePrices tables info (imagePricing info request).image
  imageAmount tables ctx info request (effectiveRuleUnitPrice ((unitPrice prices).getD 0) ((positive prices.2).getD 0)
    (costPercent tables info) (markupPercent tables info))

/-- The amount that is settled, before it is rounded. -/
def settlementAmount (later : Option ChannelMeta) : Rat :=
  let prices := settlementPrices tables ctx info request later
  imageAmount tables ctx info request (effectiveModelPrice ((unitPrice prices).getD 0) ((positive prices.2).getD 0)
    (costPercent tables info) (markupPercent tables info))

end

section
variable {tables : PriceTables} {ctx : Context} {info : RelayInfo} {request : ImageRequest} {data : PriceData}
  {channelUsd globalUsd : Option Rat} {unit : Rat} {reader : ImageReader} {body : String}

/-- A request for a stated number of images of a stated size, answered with as many. -/
structure Fulfilled (reader : ImageReader) (request : ImageRequest) (body : String) : Prop where
  sized : (parseResolutionFlexible request.size).isSome = true
  stated : request.n = some (reader.countImagesInResponseBody body)
  delivered : 0 < reader.countImagesInResponseBody body

theorem Fulfilled.count (fulfilled : Fulfilled reader request body) :
    request.count = some (reader.countImagesInResponseBody body) := by
  rw [ImageRequest.count, fulfilled.stated]
  exact Option.filter_some_pos (decide_eq_true fulfilled.delivered)

theorem Fulfilled.estimate (fulfilled : Fulfilled reader request body) {answered : RelayInfo}
    (mode : answered.relayMode = info.relayMode) :
    actualEstimate answered reader request body = (imagePricing info request).image := by
  obtain ⟨sides, parsed⟩ := Option.isSome_iff_exists.mp fulfilled.sized
  have count : actualCount answered reader request body = (request.count.getD 1 : Nat) := by
    rw [actualCount_delivered rfl fulfilled.delivered, fulfilled.count, Option.getD_some]
  have found : reader.resolveImageDimensions request body = some sides := by
    rw [ImageReader.resolveImageDimensions, parsed]
    rfl
  simp only [actualEstimate, count, found, Option.getD_some, imagePricing, estimateImageRequestContext, mode, parsed]

theorem groupRatio_again {answered : RelayInfo} (user : answered.userGroup = info.userGroup)
    (group : answered.usingGroup = (useAutoGroup ctx info).usingGroup) :
    (handleGroupRatio tables ctx answered).1 = (handleGroupRatio tables ctx info).1 := by
  unfold handleGroupRatio useAutoGroup at *
  cases found : ctx.autoGroup with
  | none =>
    simp only [found] at group ⊢
    simp only [user, group]
    split <;> rfl
  | some auto =>
    simp only [user]
    split <;> rfl

theorem useAutoGroup_percents (tables : PriceTables) (ctx : Context) (info : RelayInfo) :
    costPercent tables (useAutoGroup ctx info) = costPercent tables info ∧
      markupPercent tables (useAutoGroup ctx info) = markupPercent tables info := by
  obtain ⟨userId, _, _, channelId⟩ := useAutoGroup_kept ctx info
  constructor
  · rw [costPercent, channelId, costPercent]
  · rw [markupPercent, userId, channelId, useAutoGroup_origin, markupPercent]

theorem build_congr {price : PriceRequest} {group : GroupRatioInfo} {first second : RelayInfo}
    (user : first.userId = second.userId) (channel : first.channelId = second.channelId)
    (origin : first.originModelName = second.originModelName) :
    buildImagePerImagePriceData tables price first group channelUsd globalUsd unit =
      buildImagePerImagePriceData tables price second group channelUsd globalUsd unit := by
  have cost : costPercent tables first = costPercent tables second := by rw [costPercent, channel, costPercent]
  have markup : markupPercent tables first = markupPercent tables second := by
    rw [markupPercent, user, channel, origin, markupPercent]
  simp only [buildImagePerImagePriceData, cost, markup]

namespace PricedImages

variable (price : PricedImages tables (imagePricing info request) ctx info data channelUsd globalUsd unit)
  {later : Option ChannelMeta}

include price

theorem first : PricedAt tables ctx info request (imagePrices tables info (imagePricing info request).image) data := by
  have prices : imagePrices tables info (imagePricing info request).image = (channelUsd, globalUsd) :=
    Prod.ext price.channel.symm price.platform.symm
  rw [prices]
  exact ⟨unit, price.chosen, price.built⟩

theorem answered : answeredInfo tables ctx info request later =
    { useAutoGroup ctx info with
      priceData := data
      imageBilling := some (buildImagePerImagePriceData tables (imagePricing info request) (useAutoGroup ctx info)
        (handleGroupRatio tables ctx info).1 channelUsd globalUsd unit).2
      channelMeta := later } := by
  rw [answeredInfo, price.held]

theorem estimated (fulfilled : Fulfilled reader request body) :
    actualEstimate (answeredInfo tables ctx info request later) reader request body =
      (imagePricing info request).image := by
  obtain ⟨_, _, mode, _⟩ := useAutoGroup_kept ctx info
  exact fulfilled.estimate (by rw [price.answered]; exact mode)

/-- The number of images that was asked for is noted already. -/
theorem counted_again : addOtherRatio data "n" (imagePricing info request).image.count = data := by
  have asked := asked_pos info request
  have ratio : ¬ ((imagePricing info request).image.count : Rat) ≤ 0 := not_le.mpr (Int.cast_pos.mpr asked)
  rw [price.built]
  simp [addOtherRatio, ratio, buildImagePerImagePriceData, not_le.mpr asked]

theorem synced (channel : (answeredInfo tables ctx info request later).channelId = info.channelId)
    (fulfilled : Fulfilled reader request body) :
    let found := imagePrices tables (answeredInfo tables ctx info request later) (imagePricing info request).image
    (syncImagePerImagePriceData tables ctx (answeredInfo tables ctx info request later)
        (actualEstimate (answeredInfo tables ctx info request later) reader request body)).map RelayInfo.priceData =
      (unitPrice found).map fun unit => (buildImagePerImagePriceData tables (imagePricing info request)
        (useAutoGroup ctx info) (handleGroupRatio tables ctx info).1 found.1 found.2 unit).1 := by
  intro found
  obtain ⟨userId, userGroup, _, channelId⟩ := useAutoGroup_kept ctx info
  have group : (handleGroupRatio tables ctx (answeredInfo tables ctx info request later)).1 =
      (handleGroupRatio tables ctx info).1 :=
    groupRatio_again (by rw [price.answered]; exact userGroup) (by rw [price.answered])
  obtain ⟨userId', _, _, channelId'⟩ := useAutoGroup_kept ctx (answeredInfo tables ctx info request later)
  have rebuilt (unit : Rat) : buildImagePerImagePriceData tables (imagePricing info request)
      (useAutoGroup ctx (answeredInfo tables ctx info request later)) (handleGroupRatio tables ctx info).1 found.1
        found.2 unit =
      buildImagePerImagePriceData tables (imagePricing info request) (useAutoGroup ctx info)
        (handleGroupRatio tables ctx info).1 found.1 found.2 unit := by
    apply build_congr
    · rw [userId', price.answered]
    · rw [channelId', channel, channelId]
    · rw [useAutoGroup_origin, useAutoGroup_origin, price.answered_origin]
  simp only [syncImagePerImagePriceData, price.answered_priceData, price.usePrice, not_true, if_false,
    price.estimated fulfilled, Option.map_map, handleGroupRatio_info, group, ← rebuilt]
  rfl

theorem billed (channel : (answeredInfo tables ctx info request later).channelId = info.channelId)
    (fulfilled : Fulfilled reader request body) :
    PricedAt tables ctx info request (settlementPrices tables ctx info request later)
      (billImages tables ctx (answeredInfo tables ctx info request later) reader request body).priceData := by
  have held := price.answered_priceData later
  have origin := price.answered_origin later
  have estimated : actualEstimate (answeredInfo tables ctx info request later) reader request body =
      (imagePricing info request).image := price.estimated fulfilled
  have synced := price.synced channel fulfilled
  obtain ⟨billing, noted, _⟩ := price.answered_billing later
  unfold settlementPrices
  generalize answeredInfo tables ctx info request later = answered at *
  dsimp only at synced ⊢
  have present : (findOtherRatio answered.priceData "n").isNone = false := by
    rw [held, price.asked]
    rfl
  by_cases captured : shouldCaptureImageResponse answered = true
  case neg =>
    have kept : (billImages tables ctx answered reader request body).priceData = data := by
      rw [billImages, if_neg captured, present]
      exact held
    rw [kept, if_neg fun conditions => captured conditions.1]
    exact price.first
  by_cases named : hasImageGenerationPricing tables answered
      (imageModelNameCandidates tables info.originModelName) = true
  case neg =>
    rw [billImages, if_pos captured, finalize_unnamed (by rw [origin]; exact named), held,
      if_neg fun conditions => named conditions.2.1]
    exact price.first
  have finalized : (billImages tables ctx answered reader request body).priceData =
      ((syncImagePerImagePriceData tables ctx answered
        (actualEstimate answered reader request body)).map RelayInfo.priceData).getD data := by
    rw [billImages, if_pos captured]
    simp only [finalizeImagePerImageBilling, noted, held, price.usePrice, origin, named, not_true, if_false]
    cases syncImagePerImagePriceData tables ctx answered (actualEstimate answered reader request body) with
    | some renewed => rfl
    | none =>
      rw [Option.getD_none, estimated]
      exact price.counted_again
  rw [synced] at finalized
  cases found : unitPrice (imagePrices tables answered (imagePricing info request).image) with
  | none =>
    rw [found] at finalized
    rw [finalized, if_neg fun conditions => by cases conditions.2.2]
    exact price.first
  | some renewed =>
    rw [found] at finalized
    rw [if_pos ⟨captured, named, rfl⟩]
    exact ⟨renewed, found, finalized⟩

end PricedImages

end

theorem round_eq_mathRound (value : Rat) : Relay.round value = mathRound value := by
  unfold Relay.round mathRound intPart
  split
  case isTrue nonnegative =>
    rw [if_pos (by linarith)]
  case isFalse negative =>
    rw [if_neg (by linarith)]

/-- A positive amount is rounded, and is at least one unit. -/
def atLeastOne (amount : Rat) : Int := if mathRound amount = 0 then 1 else mathRound amount

theorem atLeastOne_ne_zero (amount : Rat) : atLeastOne amount ≠ 0 := by
  unfold atLeastOne
  split
  · decide
  · assumption

/-- What is taken in advance: a positive amount is at least one unit, any other is rounded. -/
theorem build_quota {tables : PriceTables} {price : PriceRequest} {info : RelayInfo} {group : GroupRatioInfo}
    {channelUsd globalUsd : Option Rat} {unit amount : Rat} (asked : 0 < price.image.count)
    (same : amount = effectiveRuleUnitPrice ((positive channelUsd).getD unit) ((positive globalUsd).getD 0)
      (costPercent tables info) (markupPercent tables info) * price.image.count * tables.quotaPerUnit *
        group.groupRatio) :
    (buildImagePerImagePriceData tables price info group channelUsd globalUsd unit).1.quotaToPreConsume =
      if 0 < amount ∧ 0 < group.groupRatio ∨ mathRound amount ≠ 0 then atLeastOne amount else 0 := by
  simp only [buildImagePerImagePriceData, if_neg (not_le.mpr asked), ← same, round_eq_mathRound]
  by_cases free : ¬ tables.enableFreeModelPreConsume = true ∧ group.groupRatio = 0
  · have zero : amount = 0 := by rw [same, free.2, mul_zero]
    have untaken : ¬ (0 < amount ∧ 0 < group.groupRatio ∨ mathRound amount ≠ 0) := by
      rw [zero]
      simp [mathRound_zero]
    rw [if_pos (decide_eq_true free), if_neg untaken]
  rw [if_neg (by simpa using free)]
  by_cases paid : 0 < amount ∧ 0 < group.groupRatio
  · have rounded := mathRound_nonneg paid.1.le
    have taken : 0 < amount ∧ 0 < group.groupRatio ∨ mathRound amount ≠ 0 := .inl paid
    rw [if_pos taken, atLeastOne]
    exact if_congr ⟨fun small => le_antisymm small.1 rounded, fun small => ⟨small.le, paid⟩⟩ rfl rfl
  · rw [if_neg fun small => paid small.2]
    by_cases small : mathRound amount = 0
    · simp [paid, small]
    · simp [small, atLeastOne]

theorem settled_quota (text : TextTables) (rest : TextRequest) {billed : RelayInfo} {usage : Usage}
    (toolless : { rest with priceData := billed.priceData }.toolQuota text = 0)
    (tokens : (countedUsage usage).promptTokens + (countedUsage usage).completionTokens ≠ 0)
    (fixed : billed.priceData.usePrice = true) (priced : 0 < billed.priceData.modelPrice) :
    settledImageQuota text rest billed usage =
      atLeastOne (effectiveModelPrice billed.priceData.modelPrice billed.priceData.globalModelPrice
        (costDiscount billed.priceData) billed.priceData.markupDiscountPercent * text.quotaPerUnit *
          billed.priceData.groupRatioInfo.groupRatio * (billed.priceData.otherRatios.map Prod.snd).prod) := by
  have total : (textTokens text { rest with priceData := billed.priceData } (some (countedUsage usage))).totalTokens =
      (countedUsage usage).promptTokens + (countedUsage usage).completionTokens := by
    simp only [textTokens, Option.getD_some]
    split <;> rfl
  simp only [settledImageQuota, calculateTextQuotaSummary, fixed, if_true, total, if_neg tokens, priced, or_true,
    and_true, TextRequest.fixedQuota, toolless, add_zero, TextRequest.otherRatio, TextRequest.groupRatio, atLeastOne]

theorem positive_pos {usd : Option Rat} {value : Rat} (found : positive usd = some value) : 0 < value := by
  obtain ⟨_, kept⟩ := Option.filter_eq_some_iff.mp found
  exact of_decide_eq_true kept

theorem chosen_unit {channelUsd globalUsd : Option Rat} {unit : Rat}
    (chosen : ((positive channelUsd).orElse fun _ => positive globalUsd) = some unit) :
    (positive channelUsd).getD unit = unit ∧ 0 < unit := by
  cases own : positive channelUsd with
  | none =>
    rw [own] at chosen
    exact ⟨rfl, positive_pos chosen⟩
  | some usd =>
    rw [own] at chosen
    cases chosen
    exact ⟨rfl, positive_pos own⟩

theorem effective_agree {channelUsd globalUsd costPercent markupPercent : Rat}
    (platform : 0 < globalUsd ∨ markupPercent = 0) :
    effectiveRuleUnitPrice channelUsd globalUsd costPercent markupPercent =
      effectiveModelPrice channelUsd globalUsd costPercent markupPercent := by
  rcases platform with known | rfl
  · rw [effectiveRuleUnitPrice, if_neg (not_le.mpr known)]
  · simp [effectiveRuleUnitPrice, effectiveModelPrice]

namespace PricedAt

variable {tables : PriceTables} {ctx : Context} {info : RelayInfo} {request : ImageRequest}
  {prices : Option Rat × Option Rat} {data : PriceData}

theorem advance (priced : PricedAt tables ctx info request prices data) :
    let amount := imageAmount tables ctx info request (effectiveRuleUnitPrice ((unitPrice prices).getD 0)
      ((positive prices.2).getD 0) (costPercent tables info) (markupPercent tables info))
    data.quotaToPreConsume = if 0 < amount ∧ 0 < (handleGroupRatio tables ctx info).1.groupRatio ∨
      mathRound amount ≠ 0 then atLeastOne amount else 0 := by
  obtain ⟨unit, chosen, rfl⟩ := priced
  obtain ⟨own, _⟩ := chosen_unit chosen
  obtain ⟨costs, markups⟩ := useAutoGroup_percents tables ctx info
  refine build_quota (asked_pos info request) ?_
  rw [imageAmount, chosen, Option.getD_some, own, costs, markups]

theorem settled (priced : PricedAt tables ctx info request prices data) (text : TextTables) (rest : TextRequest)
    {billed : RelayInfo} (same : billed.priceData = data) {usage : Usage}
    (quotaPerUnit : text.quotaPerUnit = tables.quotaPerUnit)
    (toolless : ∀ priceData, { rest with priceData }.toolQuota text = 0)
    (tokens : (countedUsage usage).promptTokens + (countedUsage usage).completionTokens ≠ 0)
    (cost : 0 < costPercent tables info) :
    settledImageQuota text rest billed usage = atLeastOne (imageAmount tables ctx info request
      (effectiveModelPrice ((unitPrice prices).getD 0) ((positive prices.2).getD 0) (costPercent tables info)
        (markupPercent tables info))) := by
  obtain ⟨unit, chosen, rfl⟩ := priced
  obtain ⟨own, paid⟩ := chosen_unit chosen
  obtain ⟨costs, markups⟩ := useAutoGroup_percents tables ctx info
  have asked := asked_pos info request
  have price : 0 < billed.priceData.modelPrice := by
    rw [same]
    exact paid.trans_eq own.symm
  rw [settled_quota text rest (toolless _) tokens (by rw [same]; rfl) price, same, quotaPerUnit, chosen]
  simp only [costDiscount, buildImagePerImagePriceData, own, costs, markups, cost.ne', if_neg (not_le.mpr asked),
    if_false, List.map_singleton, List.prod_singleton, imageAmount, Option.getD_some]
  ring_nf

end PricedAt

/-- With the same prices, and with a price of the platform or without a markup, the amounts agree. -/
theorem settlementAmount_eq_advance {tables : PriceTables} {ctx : Context} {info : RelayInfo} {request : ImageRequest}
    {later : Option ChannelMeta}
    (found : settlementPrices tables ctx info request later = imagePrices tables info (imagePricing info request).image)
    (platform : 0 < (positive (imagePrices tables info (imagePricing info request).image).2).getD 0 ∨
      markupPercent tables info = 0) :
    settlementAmount tables ctx info request later = advanceAmount tables ctx info request := by
  rw [settlementAmount, found, advanceAmount, effective_agree platform]

def markupTables (groupRatio : Rat) : PriceTables :=
  { discountTables with markupDiscountPercent := fun _ _ _ => 10, groupRatio := fun _ => groupRatio }

def channelFluxPrices : ImageTables :=
  { fluxPrices with
    imagePricingRules := fun _ => none
    channelImagePrice := fun _ name => if name = "flux" then some (1 / 25) else none }

def settledPair (images : ImageTables) (groupRatio : Rat) : Int :=
  settledImageQuota plainTextTables (staffRequest 0)
    (billImages (images.settings (markupTables groupRatio)) {}
      (answeredInfo (images.settings (markupTables groupRatio)) {} (pictureInfo "flux") (pictureRequest (some 2))
        (some fluxChannel)) pairReader (pictureRequest (some 2)) "answer") {}

def pairData (images : ImageTables) (groupRatio : Rat) : PriceData :=
  (tryModelPriceHelperImage (images.settings (markupTables groupRatio))
    (imagePricing (pictureInfo "flux") (pictureRequest (some 2))) {} (pictureInfo "flux")).2.priceData

end TokenFactory.Quota
