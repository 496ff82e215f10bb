import TokenFactory.Go.Map
import TokenFactory.Quota.Text
import TokenFactory.Quota.Video

namespace TokenFactory.Options

open Go Relay Quota

/-! Price rules as the options hold them: what a decoded rule becomes before it is used. -/

/-- The order of the tiers: the open one is the last. -/
def TierSegment.before (first second : TierSegment) : Bool :=
  if first.upTo = 0 then false else if second.upTo = 0 then true else first.upTo < second.upTo

def normalizeRequestTierSegments (segments : List TierSegment) : List TierSegment :=
  (segments.filter fun segment => 0 ≤ segment.ratio).insertionSort fun first second =>
    ¬ TierSegment.before second first

def validateTiersFrom (name : String) (index : Nat) (previous : Int) : List TierSegment → Option String
  | [] => none
  | segment :: rest =>
    if segment.ratio < 0 then some (name ++ " 第 " ++ toString (index + 1) ++ " 档 ratio 不能小于 0")
    else if segment.upTo = 0 then
      if rest ≠ [] then some (name ++ " 只有最后一档 up_to 可以为 0")
      else validateTiersFrom name (index + 1) previous rest
    else if segment.upTo ≤ previous then
      some (name ++ " 第 " ++ toString (index + 1) ++ " 档 up_to 必须递增")
    else validateTiersFrom name (index + 1) segment.upTo rest

def validateRequestTierSegments (name : String) (segments : List TierSegment) : Option String :=
  validateTiersFrom name 0 0 segments

/-- The name under which the rules of a model are kept; rules without a name are dropped. -/
def ruleName (model : String) : String := formatMatchingModelName (trimSpace model)

def normalizeTierSegmentsMap (source : List (String × List TierSegment)) :
    Except String (GoMap (List TierSegment)) :=
  source.foldlM (fun target entry =>
    let name := ruleName entry.1
    if name = "" then .ok target
    else
      let segments := normalizeRequestTierSegments entry.2
      match validateRequestTierSegments "segments" segments with
      | some reason => .error (name ++ ": " ++ reason)
      | none => .ok (target.set name segments)) .empty

def normalizeChannelID (channelId : Int) : String := if channelId ≤ 0 then "" else toString channelId

/-- A key that is not the number of a channel is skipped. -/
def normalizeChannelTiers (visit : Visit) (source : List (String × List (String × List TierSegment))) :
    Except String (GoMap (GoMap (List TierSegment))) :=
  source.foldlM (fun target entry =>
    match atoi (trimSpace entry.1) with
    | none => .ok target
    | some channelId =>
      let key := normalizeChannelID channelId
      if key = "" then .ok target
      else (normalizeTierSegmentsMap (visit.order entry.2)).map (target.set key)) .empty

structure VideoResolutionPriceRule where
  resolution : String
  tokenPrice : Rat
  pixelCompression : Rat
deriving DecidableEq

structure VideoResolutionPerVideoRule where
  resolution : String
  videoPrice : Rat
deriving DecidableEq

structure VideoImagePriceRule where
  tokenPrice : Rat
  pixelCompression : Rat
deriving DecidableEq

/-- All the tables of a model, those by the second included. -/
structure VideoRules extends VideoPricingRules where
  textToVideo : List VideoResolutionPriceRule := []
  imageToVideo : Option VideoImagePriceRule := none
  imageToVideoRules : List VideoResolutionPriceRule := []
  videoToVideo : List VideoResolutionPriceRule := []
  videoToVideoInput : List VideoResolutionPriceRule := []
  videoToVideoOutput : List VideoResolutionPriceRule := []
  similarityThreshold : Rat := 0
  textToVideoPerVideo : List VideoResolutionPerVideoRule := []
  imageToVideoPerVideo : List VideoResolutionPerVideoRule := []
  videoToVideoInputPerVideo : List VideoResolutionPerVideoRule := []
  videoToVideoOutputPerVideo : List VideoResolutionPerVideoRule := []
  textToVideoPerItem : List VideoRule := []
  imageToVideoPerItem : List VideoRule := []
  videoToVideoPerItem : List VideoRule := []
deriving DecidableEq

def positiveOr (fallback value : Rat) : Rat := if value ≤ 0 then fallback else value

def VideoResolutionPriceRule.normalize (rule : VideoResolutionPriceRule) : VideoResolutionPriceRule :=
  { rule with pixelCompression := positiveOr 1024 rule.pixelCompression }

def VideoResolutionPerVideoRule.normalize (rule : VideoResolutionPerVideoRule) : VideoResolutionPerVideoRule :=
  { rule with resolution := trimSpace rule.resolution }

def VideoImagePriceRule.normalize (rule : VideoImagePriceRule) : VideoImagePriceRule :=
  { rule with pixelCompression := positiveOr 1024 rule.pixelCompression }

def normalizeAudioRule (rule : VideoRule) : VideoRule :=
  { rule with resolution := trimSpace rule.resolution }

def normalizeVideoRules (rules : VideoRules) : VideoRules where
  similarityThreshold := positiveOr (7 / 20) rules.similarityThreshold
  textToVideo := rules.textToVideo.map VideoResolutionPriceRule.normalize
  videoToVideo := rules.videoToVideo.map VideoResolutionPriceRule.normalize
  imageToVideoRules := rules.imageToVideoRules.map VideoResolutionPriceRule.normalize
  videoToVideoInput := rules.videoToVideoInput.map VideoResolutionPriceRule.normalize
  videoToVideoOutput := rules.videoToVideoOutput.map VideoResolutionPriceRule.normalize
  imageToVideo := rules.imageToVideo.map VideoImagePriceRule.normalize
  textToVideoPerVideo := rules.textToVideoPerVideo.map VideoResolutionPerVideoRule.normalize
  imageToVideoPerVideo := rules.imageToVideoPerVideo.map VideoResolutionPerVideoRule.normalize
  videoToVideoInputPerVideo := rules.videoToVideoInputPerVideo.map VideoResolutionPerVideoRule.normalize
  videoToVideoOutputPerVideo := rules.videoToVideoOutputPerVideo.map VideoResolutionPerVideoRule.normalize
  textToVideoPerSecond := rules.textToVideoPerSecond.map normalizeAudioRule
  imageToVideoPerSecond := rules.imageToVideoPerSecond.map normalizeAudioRule
  videoToVideoPerSecond := rules.videoToVideoPerSecond.map normalizeAudioRule
  textToVideoPerItem := rules.textToVideoPerItem.map normalizeAudioRule
  imageToVideoPerItem := rules.imageToVideoPerItem.map normalizeAudioRule
  videoToVideoPerItem := rules.videoToVideoPerItem.map normalizeAudioRule

structure ImageResolutionPerImageRule where
  resolution : String
  imagePrice : Rat
deriving DecidableEq

structure ImagePricingRules where
  textToImagePerImage : List ImageResolutionPerImageRule := []
  imageToImagePerImage : List ImageResolutionPerImageRule := []
  similarityThreshold : Rat := 0
  priceUnit : String := ""
deriving DecidableEq

def ImageResolutionPerImageRule.normalize (rule : ImageResolutionPerImageRule) : ImageResolutionPerImageRule :=
  { rule with resolution := trimSpace rule.resolution }

def normalizeImageRules (rules : ImagePricingRules) : ImagePricingRules :=
  { rules with
    similarityThreshold := positiveOr (7 / 20) rules.similarityThreshold
    textToImagePerImage := rules.textToImagePerImage.map ImageResolutionPerImageRule.normalize
    imageToImagePerImage := rules.imageToImagePerImage.map ImageResolutionPerImageRule.normalize }

def normalizeRulesMap {Rules : Type} (normalize : Rules → Rules) (source : List (String × Rules)) : GoMap Rules :=
  source.foldl (fun target entry =>
    let name := ruleName entry.1
    if name = "" then target else target.set name (normalize entry.2)) .empty

def normalizeVideoRulesMap : List (String × VideoRules) → GoMap VideoRules :=
  normalizeRulesMap normalizeVideoRules

def normalizeImageRulesMap : List (String × ImagePricingRules) → GoMap ImagePricingRules :=
  normalizeRulesMap normalizeImageRules

/-- The rules of the channels: a key that is not a number is skipped, every other key is kept as it is. -/
def normalizeChannelRules {Rules : Type} (visit : Visit) (normalizeMap : List (String × Rules) → GoMap Rules)
    (source : List (String × List (String × Rules))) : GoMap (GoMap Rules) :=
  source.foldl (fun target entry =>
    if (atoi entry.1).isNone then target
    else target.set entry.1 (normalizeMap (visit.order entry.2))) .empty

end TokenFactory.Options
