import TokenFactory.Quota.ImageRules
import TokenFactory.Relay.Attempts

namespace TokenFactory.Quota

open Go Relay Options

/-! What a request for images costs: before it is sent, from the request, and after the
answer, from the images that came.

The price is looked up again with the number of images in the answer, but only if the
requested model has a price for images under its own name. -/

structure ImageData where
  url : String
  b64Json : String
deriving DecidableEq

/-- Go's reading of the answer, of the input images and of the images themselves. -/
structure ImageReader where
  decodeResponse : String → Option (List ImageData)
  extractImageInputURLs : String → List String
  urlDimensions : String → Option (Int × Int)
  base64Dimensions : String → Option (Int × Int)

def ImageData.delivered (item : ImageData) : Bool := trimSpace item.url ≠ "" || trimSpace item.b64Json ≠ ""

namespace ImageReader

variable (reader : ImageReader)

def items (body : String) : List ImageData :=
  if trimSpace body = "" then [] else (reader.decodeResponse (trimSpace body)).getD []

def countImagesInResponseBody (body : String) : Nat := ((reader.items body).filter ImageData.delivered).length

/-- An item with an address is not decoded in any other way. -/
def dimensionsFromImageData (item : ImageData) : Option (Int × Int) :=
  if trimSpace item.url ≠ "" then reader.urlDimensions (trimSpace item.url)
  else if trimSpace item.b64Json ≠ "" then reader.base64Dimensions (trimSpace item.b64Json)
  else none

def resolveImageDimensions (request : ImageRequest) (body : String) : Option (Int × Int) :=
  (parseResolutionFlexible request.size).orElse fun _ =>
    ((reader.items body).findSome? reader.dimensionsFromImageData).orElse fun _ =>
      (reader.extractImageInputURLs request.image).findSome? reader.urlDimensions

end ImageReader

/-- A ratio that is not positive is not noted. -/
def addOtherRatio (price : PriceData) (key : String) (ratio : Rat) : PriceData :=
  if ratio ≤ 0 then price
  else { price with otherRatios := (price.otherRatios.filter fun entry => entry.1 ≠ key) ++ [(key, ratio)] }

def findOtherRatio (price : PriceData) (key : String) : Option Rat :=
  (price.otherRatios.find? fun entry => entry.1 = key).map Prod.snd

section
variable (tables : PriceTables) (ctx : Context) (info : RelayInfo)

def candidateNames : List String :=
  let names := imageModelNameCandidatesFromInfo tables info
  if names = [] then imageModelNameCandidates tables info.originModelName else names

/-- The price of an image with these properties replaces the one of the request. -/
def syncImagePerImagePriceData (estimate : ImageEstimate) : Option RelayInfo :=
  if ¬ info.priceData.usePrice then none
  else
    let names := candidateNames tables info
    let channelUsd := tables.channelImageUsd info.channelId names estimate
    let globalUsd := tables.globalImageUsd names estimate
    ((positive channelUsd).orElse fun _ => positive globalUsd).map fun unit =>
      let group := handleGroupRatio tables ctx info
      let built := buildImagePerImagePriceData tables ⟨0, 0, 0, estimate⟩ group.2 group.1 channelUsd globalUsd unit
      { group.2 with priceData := built.1, imageBilling := some built.2 }

variable (reader : ImageReader) (request : ImageRequest) (body : String)

/-- The images that came; if none can be counted, those that were asked for. -/
def actualCount : Int :=
  let counted := reader.countImagesInResponseBody body
  if counted ≠ 0 then counted
  else
    match request.count with
    | some n => n
    | none =>
      match (findOtherRatio info.priceData "n").filter fun n => n > 0 with
      | some n => mathRound n
      | none => 1

def actualEstimate : ImageEstimate :=
  let estimate := estimateImageRequestContext info.relayMode request
  let sides := (reader.resolveImageDimensions request body).getD (estimate.width, estimate.height)
  ⟨estimate.mode, sides.1, sides.2, actualCount info reader request body⟩

theorem actualEstimate_count :
    (actualEstimate info reader request body).count = actualCount info reader request body := by
  simp only [actualEstimate]

def finalizeImagePerImageBilling : RelayInfo :=
  match info.imageBilling with
  | none => info
  | some billing =>
    if ¬ info.priceData.usePrice then info
    else if ¬ hasImageGenerationPricing tables info (imageModelNameCandidates tables info.originModelName) then info
    else
      let estimate := actualEstimate info reader request body
      (syncImagePerImagePriceData tables ctx info estimate).getD
        { info with
          priceData := addOtherRatio info.priceData "n" estimate.count
          imageBilling := some ⟨billing.usdPerImage, estimate.width, estimate.height, estimate.count, estimate.mode⟩ }

def shouldCaptureImageResponse : Bool :=
  info.imageBilling.isSome && info.priceData.usePrice && info.relayMode = .imagesGenerations ||
    info.imageBilling.isSome && info.priceData.usePrice && info.relayMode = .imagesEdits

/-- `ImageHelper` between the answer and the settlement. -/
def billImages : RelayInfo :=
  if shouldCaptureImageResponse info then finalizeImagePerImageBilling tables ctx info reader request body
  else if (findOtherRatio info.priceData "n").isNone then
    { info with priceData := addOtherRatio info.priceData "n" (request.n.getD 1 : Nat) }
  else info

end

/-- An answer without a number of tokens counts as one token. -/
def countedUsage (usage : Usage) : Usage :=
  if usage.promptTokens = 0 then { usage with promptTokens := 1 } else usage

/-- What `PostTextConsumeQuota` settles for the images; `rest` is the request apart from its price. -/
def settledImageQuota (text : TextTables) (rest : TextRequest) (billed : RelayInfo) (usage : Usage) : Int :=
  (calculateTextQuotaSummary text { rest with priceData := billed.priceData } (some (countedUsage usage))).quota

def imagePricing (info : RelayInfo) (request : ImageRequest) : PriceRequest :=
  ⟨0, 0, 0, estimateImageRequestContext info.relayMode request⟩

section
variable {tables : PriceTables} {ctx : Context} {info : RelayInfo} {price : PriceRequest} {data : PriceData}

structure PricedImages (tables : PriceTables) (price : PriceRequest) (ctx : Context) (info : RelayInfo)
    (data : PriceData) (channelUsd globalUsd : Option Rat) (unit : Rat) : Prop where
  channel : channelUsd = tables.channelImageUsd info.channelId (candidateNames tables info) price.image
  platform : globalUsd = tables.globalImageUsd (candidateNames tables info) price.image
  chosen : ((positive channelUsd).orElse fun _ => positive globalUsd) = some unit
  built : data = (buildImagePerImagePriceData tables price (useAutoGroup ctx info) (handleGroupRatio tables ctx info).1
    channelUsd globalUsd unit).1
  held : (tryModelPriceHelperImage tables price ctx info).2 =
    { useAutoGroup ctx info with
      priceData := data
      imageBilling := some (buildImagePerImagePriceData tables price (useAutoGroup ctx info)
        (handleGroupRatio tables ctx info).1 channelUsd globalUsd unit).2 }

theorem pricedImages (priced : (tryModelPriceHelperImage tables price ctx info).1 = .ok (some data)) :
    ∃ channelUsd globalUsd unit, PricedImages tables price ctx info data channelUsd globalUsd unit := by
  cases found : imageUnitPrice tables price info with
  | error reason => simp [tryModelPriceHelperImage, found] at priced
  | ok outcome =>
    cases outcome with
    | none => simp [tryModelPriceHelperImage, found] at priced
    | some prices =>
      obtain ⟨channelUsd, globalUsd, unit⟩ := prices
      have given := found
      unfold imageUnitPrice at given
      dsimp only at given
      split at given
      · cases given
      · split at given
        · cases given
        case h_2 whole positive =>
          cases given
          refine ⟨_, _, _, rfl, rfl, positive, ?_, ?_⟩
          · simp only [tryModelPriceHelperImage, found, handleGroupRatio_info, Except.ok.injEq,
              Option.some.injEq] at priced
            exact priced.symm
          · simp only [tryModelPriceHelperImage, found, handleGroupRatio_info, Except.ok.injEq,
              Option.some.injEq] at priced ⊢
            rw [priced]
            rfl

theorem build_count (tables : PriceTables) (price : PriceRequest) (info : RelayInfo) (group : GroupRatioInfo)
    (channelUsd globalUsd : Option Rat) (unit : Rat) (asked : 0 < price.image.count) :
    findOtherRatio (buildImagePerImagePriceData tables price info group channelUsd globalUsd unit).1 "n" =
        some (price.image.count : Rat) ∧
      (buildImagePerImagePriceData tables price info group channelUsd globalUsd unit).2.count = price.image.count := by
  simp [buildImagePerImagePriceData, findOtherRatio, not_le.mpr asked]

theorem findOtherRatio_add (data : PriceData) (key : String) {ratio : Rat} (positive : 0 < ratio) :
    findOtherRatio (addOtherRatio data key ratio) key = some ratio := by
  have absent : (data.otherRatios.filter fun entry => entry.1 ≠ key).find? (fun entry => entry.1 = key) = none := by
    simp [List.find?_eq_none]
  rw [addOtherRatio, if_neg (not_le.mpr positive), findOtherRatio]
  simp only [List.find?_append, absent, Option.none_or]
  simp

end

section
variable {tables : PriceTables} {ctx : Context} {info : RelayInfo} {reader : ImageReader} {request : ImageRequest}
  {body : String}

theorem actualCount_delivered {delivered : Nat} (counted : reader.countImagesInResponseBody body = delivered)
    (any : 0 < delivered) : actualCount info reader request body = delivered := by
  unfold actualCount
  rw [counted]
  exact if_pos (Nat.pos_iff_ne_zero.mp any)

theorem finalize_unnamed
    (unnamed : ¬ hasImageGenerationPricing tables info (imageModelNameCandidates tables info.originModelName) = true) :
    finalizeImagePerImageBilling tables ctx info reader request body = info := by
  unfold finalizeImagePerImageBilling
  split
  · rfl
  · rw [if_pos unnamed, ite_self]

theorem finalize_count {delivered : Nat} (counted : reader.countImagesInResponseBody body = delivered)
    (any : 0 < delivered) (captured : info.imageBilling.isSome = true) (fixed : info.priceData.usePrice = true)
    (named : hasImageGenerationPricing tables info (imageModelNameCandidates tables info.originModelName) = true) :
    findOtherRatio (finalizeImagePerImageBilling tables ctx info reader request body).priceData "n" =
        some (delivered : Rat) ∧
      (finalizeImagePerImageBilling tables ctx info reader request body).imageBilling.map ImageBillingSnapshot.count =
        some (delivered : Int) := by
  have count : (actualEstimate info reader request body).count = delivered := by
    rw [actualEstimate_count, actualCount_delivered counted any]
  obtain ⟨billing, present⟩ := Option.isSome_iff_exists.mp captured
  simp only [finalizeImagePerImageBilling, present, fixed, not_true, if_false, named]
  generalize actualEstimate info reader request body = estimate at count
  have positive : 0 < estimate.count := by omega
  have positive' : (0 : Rat) < estimate.count := Int.cast_pos.mpr positive
  cases synced : syncImagePerImagePriceData tables ctx info estimate with
  | none =>
    refine ⟨?_, by simp [count]⟩
    rw [Option.getD_none, findOtherRatio_add _ _ positive', count, Int.cast_natCast]
  | some renewed =>
    simp only [syncImagePerImagePriceData, fixed, not_true, if_false, Option.map_eq_some_iff] at synced
    obtain ⟨unit, _, rfl⟩ := synced
    have built := build_count tables ⟨0, 0, 0, estimate⟩ (handleGroupRatio tables ctx info).2
      (handleGroupRatio tables ctx info).1 (tables.channelImageUsd info.channelId (candidateNames tables info) estimate)
      (tables.globalImageUsd (candidateNames tables info) estimate) unit positive
    rw [Option.getD_some, built.1, Option.map_some, built.2, count, Int.cast_natCast]
    exact ⟨rfl, rfl⟩

end

/-- The info of a priced request when its answer comes. `later` is the channel by then: the name of
the model has been mapped. -/
def answeredInfo (tables : PriceTables) (ctx : Context) (info : RelayInfo) (request : ImageRequest)
    (later : Option ChannelMeta) : RelayInfo :=
  { (tryModelPriceHelperImage tables (imagePricing info request) ctx info).2 with channelMeta := later }

section
variable {tables : PriceTables} {ctx : Context} {info : RelayInfo} {request : ImageRequest} {data : PriceData}
  {channelUsd globalUsd : Option Rat} {unit : Rat}

theorem asked_pos (info : RelayInfo) (request : ImageRequest) : 0 < (imagePricing info request).image.count := by
  unfold imagePricing estimateImageRequestContext ImageRequest.count
  cases stated : request.n.filter fun n => 0 < n with
  | none => simp
  | some n =>
    obtain ⟨_, positive⟩ := Option.filter_eq_some_iff.mp stated
    simpa using positive

theorem asked_eq (info : RelayInfo) (request : ImageRequest) :
    (imagePricing info request).image.count = (request.count.getD 1 : Nat) := by
  simp only [imagePricing, estimateImageRequestContext]

namespace PricedImages

variable (price : PricedImages tables (imagePricing info request) ctx info data channelUsd globalUsd unit)
  (later : Option ChannelMeta)

include price

theorem usePrice : data.usePrice = true := by
  rw [price.built]
  rfl

theorem asked : findOtherRatio data "n" = some ((request.count.getD 1 : Nat) : Rat) := by
  obtain ⟨ratio, _⟩ := build_count tables (imagePricing info request) (useAutoGroup ctx info)
    (handleGroupRatio tables ctx info).1 channelUsd globalUsd unit (asked_pos info request)
  rw [price.built, ratio, asked_eq, Int.cast_natCast]

theorem answered_priceData : (answeredInfo tables ctx info request later).priceData = data := by
  rw [answeredInfo, price.held]

theorem answered_origin :
    (answeredInfo tables ctx info request later).originModelName = info.originModelName := by
  rw [answeredInfo, price.held]
  exact useAutoGroup_origin ctx info

theorem answered_billing :
    ∃ billing, (answeredInfo tables ctx info request later).imageBilling = some billing ∧
      billing.count = (request.count.getD 1 : Nat) := by
  obtain ⟨_, count⟩ := build_count tables (imagePricing info request) (useAutoGroup ctx info)
    (handleGroupRatio tables ctx info).1 channelUsd globalUsd unit (asked_pos info request)
  rw [answeredInfo, price.held]
  exact ⟨_, rfl, count.trans (asked_eq info request)⟩

end PricedImages

end

/-- The images of the answer are billed exactly if the requested model has a price under its own
name, or there are as many as were asked for. -/
theorem delivered_images_billed_iff (tables : PriceTables) (ctx : Context) (info : RelayInfo) (request : ImageRequest)
    (later : Option ChannelMeta) (reader : ImageReader) (body : String) (delivered : Nat) {data : PriceData}
    (priced : (tryModelPriceHelperImage tables (imagePricing info request) ctx info).1 = .ok (some data))
    (counted : reader.countImagesInResponseBody body = delivered) (any : 1 ≤ delivered) :
    (findOtherRatio (finalizeImagePerImageBilling tables ctx (answeredInfo tables ctx info request later) reader
        request body).priceData "n" = some (delivered : Rat) ∧
      (finalizeImagePerImageBilling tables ctx (answeredInfo tables ctx info request later) reader request
        body).imageBilling.map ImageBillingSnapshot.count = some (delivered : Int)) ↔
      hasImageGenerationPricing tables (answeredInfo tables ctx info request later)
        (imageModelNameCandidates tables info.originModelName) = true ∨ request.count.getD 1 = delivered := by
  obtain ⟨channelUsd, globalUsd, unit, price⟩ := pricedImages priced
  obtain ⟨billing, captured, count⟩ := price.answered_billing later
  have fixed : (answeredInfo tables ctx info request later).priceData.usePrice = true := by
    rw [price.answered_priceData, price.usePrice]
  by_cases own : hasImageGenerationPricing tables (answeredInfo tables ctx info request later)
      (imageModelNameCandidates tables info.originModelName) = true
  · refine iff_of_true ?_ (.inl own)
    rw [← price.answered_origin later] at own
    exact finalize_count counted any (by rw [captured]; rfl) fixed own
  · -- the price stays the one of the request
    rw [or_iff_right own]
    rw [← price.answered_origin later] at own
    rw [finalize_unnamed own, price.answered_priceData, price.asked, captured, Option.map_some, count,
      Option.some_inj, Option.some_inj, Nat.cast_inj, Nat.cast_inj, and_self]

/-! The only price is the one of `flux`, to which the channel maps the name of the model. A retry finds
the request in this state: the channel of the attempt before it is still noted. -/

def fluxPrices : ImageTables where
  channelImagePricingRules := fun _ _ => none
  imagePricingRules := fun name =>
    if name = "flux" then some { textToImagePerImage := [⟨"1024x1024", 1 / 25⟩] } else none
  channelImagePrice := fun _ _ => none
  imagePrice := fun _ => none

def fluxChannel : ChannelMeta where
  channelType := 1
  channelId := 1
  channelIsMultiKey := false
  channelMultiKeyIndex := 0
  channelBaseUrl := ""
  apiVersion := ""
  apiKey := "key"
  organization := ""
  channelCreateTime := 0
  paramOverride := []
  headersOverride := []
  upstreamModelName := "flux"
  isModelMapped := true

def pictureInfo (modelName : String) : RelayInfo :=
  { chatInfo with originModelName := modelName, relayMode := .imagesGenerations, channelMeta := some fluxChannel }

def pairReader : ImageReader where
  decodeResponse := fun _ => some [⟨"/images/1.png", ""⟩, ⟨"", "aW1hZ2U="⟩]
  extractImageInputURLs := fun _ => []
  urlDimensions := fun _ => none
  base64Dimensions := fun _ => none

def pictureRequest (n : Option Nat) : ImageRequest := ⟨n, "1024x1024", ""⟩

def pictureData (images : ImageTables) (modelName : String) (n : Option Nat) : PriceData :=
  (tryModelPriceHelperImage (images.settings discountTables)
    (imagePricing (pictureInfo modelName) (pictureRequest n)) {} (pictureInfo modelName)).2.priceData

theorem delivered_images_billed_pair :
    findOtherRatio (finalizeImagePerImageBilling (fluxPrices.settings discountTables) {}
        (answeredInfo (fluxPrices.settings discountTables) {} (pictureInfo "flux") (pictureRequest none)
          (some fluxChannel)) pairReader (pictureRequest none) "answer").priceData "n" = some 2 ∧
      (finalizeImagePerImageBilling (fluxPrices.settings discountTables) {}
        (answeredInfo (fluxPrices.settings discountTables) {} (pictureInfo "flux") (pictureRequest none)
          (some fluxChannel)) pairReader (pictureRequest none) "answer").imageBilling.map
            ImageBillingSnapshot.count = some 2 := by
  exact (delivered_images_billed_iff (fluxPrices.settings discountTables) {} (pictureInfo "flux") (pictureRequest none)
    (some fluxChannel) pairReader "answer" 2
    (show _ = Except.ok (some (pictureData fluxPrices "flux" none)) by decide +kernel) (by decide +kernel)
    (by decide)).mpr (.inl (by decide +kernel))

/-- Two images of `picture` are billed as one. -/
theorem delivered_images_not_billed : (tryModelPriceHelperImage (fluxPrices.settings discountTables)
      (imagePricing (pictureInfo "picture") (pictureRequest none)) {} (pictureInfo "picture")).1 =
        .ok (some (pictureData fluxPrices "picture" none)) ∧
      pairReader.countImagesInResponseBody "answer" = 2 ∧
      findOtherRatio (finalizeImagePerImageBilling (fluxPrices.settings discountTables) {}
        (answeredInfo (fluxPrices.settings discountTables) {} (pictureInfo "picture") (pictureRequest none)
          (some fluxChannel)) pairReader (pictureRequest none) "answer").priceData "n" = some 1 ∧
      (finalizeImagePerImageBilling (fluxPrices.settings discountTables) {}
        (answeredInfo (fluxPrices.settings discountTables) {} (pictureInfo "picture") (pictureRequest none)
          (some fluxChannel)) pairReader (pictureRequest none) "answer").imageBilling.map
            ImageBillingSnapshot.count = some 1 := by
  decide +kernel

end TokenFactory.Quota
