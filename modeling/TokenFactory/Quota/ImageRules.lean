import TokenFactory.Options.Rules

namespace TokenFactory.Quota

open Go Relay Options

/-! Prices of one image.

The channel and the platform each have a table by resolution and a price for all other
images. The row for an image is the one with the closest number of pixels, if it is close
enough. -/

structure ImageTables where
  channelImagePricingRules : Int → String → Option ImagePricingRules
  imagePricingRules : String → Option ImagePricingRules
  channelImagePrice : Int → String → Option Rat
  imagePrice : String → Option Rat

def hasUsableImagePerImageRules (rules : ImagePricingRules) : Bool :=
  (rules.textToImagePerImage ++ rules.imageToImagePerImage).any fun row => row.imagePrice > 0

def resolutionKey (row : ImageResolutionPerImageRule) : String := toLower (trimSpace row.resolution)

/-- A row replaces the one for the same resolution. -/
def mergeImagePerImageRow (rows : List ImageResolutionPerImageRule) (row : ImageResolutionPerImageRule) :
    List ImageResolutionPerImageRule :=
  if resolutionKey row = "" ∨ row.imagePrice ≤ 0 then rows
  else if rows.any fun other => resolutionKey other = resolutionKey row then
    rows.map fun other => if resolutionKey other = resolutionKey row then row else other
  else rows ++ [row]

def mergeImagePerImageRows (rows added : List ImageResolutionPerImageRule) : List ImageResolutionPerImageRule :=
  added.foldl mergeImagePerImageRow rows

def mergeImagePricingRules (rules added : ImagePricingRules) : ImagePricingRules where
  similarityThreshold :=
    if rules.similarityThreshold ≤ 0 ∧ added.similarityThreshold > 0 then added.similarityThreshold
    else rules.similarityThreshold
  priceUnit := if rules.priceUnit = "" ∧ added.priceUnit ≠ "" then added.priceUnit else rules.priceUnit
  textToImagePerImage := mergeImagePerImageRows rules.textToImagePerImage added.textToImagePerImage
  imageToImagePerImage := mergeImagePerImageRows rules.imageToImagePerImage added.imageToImagePerImage

def normalizeMergedImageRules (rules : ImagePricingRules) : ImagePricingRules :=
  { rules with similarityThreshold := positiveOr (7 / 20) rules.similarityThreshold }

namespace ImageTables

variable (images : ImageTables)

/-- The tables of the names, the one of the channel before the one of the platform. -/
def tablesOf (channelId : Int) (names : List String) : List ImagePricingRules :=
  (names.filter fun name => name ≠ "").flatMap fun name =>
    (images.channelImagePricingRules channelId name).toList ++ (images.imagePricingRules name).toList

def resolveImagePricingRulesForNames (channelId : Int) (names : List String) : Option ImagePricingRules :=
  let tables := images.tablesOf channelId names
  let merged := tables.foldl mergeImagePricingRules {}
  if ¬ tables.any hasUsableImagePerImageRules ∨ ¬ hasUsableImagePerImageRules merged then none
  else some (normalizeMergedImageRules merged)

def resolveChannelOnlyImagePricingRules (channelId : Int) (names : List String) : Option ImagePricingRules :=
  (names.filter fun name => name ≠ "").findSome? fun name =>
    (images.channelImagePricingRules channelId name).filter hasUsableImagePerImageRules

def resolveGlobalOnlyImagePricingRules (names : List String) : Option ImagePricingRules :=
  (names.filter fun name => name ≠ "").findSome? fun name =>
    (images.imagePricingRules name).filter hasUsableImagePerImageRules

def resolveChannelImageFlatUSD (channelId : Int) (names : List String) : Option Rat :=
  names.findSome? fun name => positive (images.channelImagePrice channelId name)

def resolveGlobalImageFlatUSD (names : List String) : Option Rat :=
  names.findSome? fun name => positive (images.imagePrice name)

end ImageTables

/-- The relative difference in pixels between an image and a row; the row must have a price. -/
def pixelDifference (estimate : ImageEstimate) (rule : ImageResolutionPerImageRule) : Option Rat :=
  if rule.imagePrice ≤ 0 then none
  else
    (parseResolution rule.resolution).map fun sides =>
      |((estimate.width * estimate.height - sides.1 * sides.2 : Int) : Rat)| / ((sides.1 * sides.2 : Int) : Rat)

/-- The first of the closest rows so far. -/
def considerImageRule (estimate : ImageEstimate) (best : Option (Rat × Rat)) (rule : ImageResolutionPerImageRule) :
    Option (Rat × Rat) :=
  match pixelDifference estimate rule with
  | none => best
  | some difference =>
    if best.all fun closest => difference < closest.1 then some (difference, rule.imagePrice) else best

def matchPerImageRulesByPixels (estimate : ImageEstimate) (rules : List ImageResolutionPerImageRule)
    (threshold : Rat) (fallback : Option Rat) : Option Rat :=
  if rules = [] ∨ estimate.width ≤ 0 ∨ estimate.height ≤ 0 then positive fallback
  else
    match rules.foldl (considerImageRule estimate) none with
    | none => positive fallback
    | some closest => if closest.1 > threshold then positive fallback else some closest.2

def matchFlatPerImageUSDRules (estimate : ImageEstimate) (rules : Option ImagePricingRules)
    (fallback : Option Rat) : Option Rat :=
  let matched := rules.bind fun rules =>
    let rows := match estimate.mode with
      | .imageToImage => rules.imageToImagePerImage
      | .textToImage => rules.textToImagePerImage
    matchPerImageRulesByPixels estimate rows (positiveOr (7 / 20) rules.similarityThreshold) fallback
  matched.orElse fun _ => positive fallback

namespace ImageTables

variable (images : ImageTables)

def channelImageUsd (channelId : Int) (names : List String) (estimate : ImageEstimate) : Option Rat :=
  matchFlatPerImageUSDRules estimate (images.resolveChannelOnlyImagePricingRules channelId names)
    (images.resolveChannelImageFlatUSD channelId names)

def globalImageUsd (names : List String) (estimate : ImageEstimate) : Option Rat :=
  matchFlatPerImageUSDRules estimate (images.resolveGlobalOnlyImagePricingRules names)
    (images.resolveGlobalImageFlatUSD names)

def settings (rest : PriceTables) : PriceTables :=
  { rest with
    imagePerImageTable := fun channelId names => (images.resolveImagePricingRulesForNames channelId names).isSome
    channelImagePrice := images.channelImagePrice
    imagePrice := images.imagePrice
    channelImageUsd := images.channelImageUsd
    globalImageUsd := images.globalImageUsd }

end ImageTables

/-- Some names stand for a resolution. -/
def namedResolution (name : String) : Option (Int × Int) :=
  if name = "480p" then some (854, 480)
  else if name = "540p" then some (960, 540)
  else if name = "720p" then some (1280, 720)
  else if name = "1080p" then some (1920, 1080)
  else if name = "2k" then some (2560, 1440)
  else if name = "4k" then some (3840, 2160)
  else none

def parseResolutionFlexible (size : String) : Option (Int × Int) :=
  (parseResolution size).orElse fun _ => namedResolution (toLower (trimSpace size))

/-- What of the request the price depends on; `image` is the raw JSON of the input images. -/
structure ImageRequest where
  n : Option Nat
  size : String
  image : String
deriving DecidableEq

def hasImageInputInRequest (request : ImageRequest) : Bool :=
  trimSpace request.image ≠ "" && trimSpace request.image ≠ "null"

def ImageRequest.count (request : ImageRequest) : Option Nat := request.n.filter fun n => 0 < n

def estimateImageRequestContext (relayMode : RelayMode) (request : ImageRequest) : ImageEstimate where
  mode := if relayMode = .imagesEdits ∨ hasImageInputInRequest request then .imageToImage else .textToImage
  width := ((parseResolutionFlexible request.size).getD (0, 0)).1
  height := ((parseResolutionFlexible request.size).getD (0, 0)).2
  count := (request.count.getD 1 : Nat)

end TokenFactory.Quota
