import TokenFactory.Options.Rules

namespace TokenFactory.Options

open Go Quota

/-! The options that hold prices and ratios, and their loaders.

The loader of a flat table of numbers parses first and then replaces the map. The loader
of a table by channel, group or supplier puts a new map in place and decodes into it. The
loader of rules parses, normalises, and then replaces. -/

inductive Scale where
  | modelPrice | modelRatio | completionRatio | cacheRatio | createCacheRatio
  | imageRatio | audioRatio | audioCompletionRatio
  | videoRatio | videoCompletionRatio | videoPrice | imagePrice | groupRatio
deriving DecidableEq

inductive Nested where
  | groupGroupRatio | groupModelPrice | groupModelRatio
  | channelModelPrice | channelModelRatio | channelCompletionRatio | channelCacheRatio
  | channelCreateCacheRatio | channelImageRatio | channelAudioRatio | channelAudioCompletionRatio
  | channelVideoRatio | channelVideoCompletionRatio | channelVideoPrice | channelImagePrice
  | supplierModelPrice | supplierModelRatio
deriving DecidableEq

/-- The maps that billing reads; each is filled from the option of its name. -/
inductive Rates where
  | scale (table : Scale)
  | nested (table : Nested)
  | topupGroupRatio
  | tier (kind : TierKind)
  | channelTier (kind : TierKind)
  | videoPricingRules
  | channelVideoPricingRules
  | imagePricingRules
  | channelImagePricingRules
deriving DecidableEq

def Rates.Content : Rates → Type
  | .scale _ | .topupGroupRatio => GoMap Rat
  | .nested _ => GoMap (GoMap Rat)
  | .tier _ => GoMap (List TierSegment)
  | .channelTier _ => GoMap (GoMap (List TierSegment))
  | .videoPricingRules => GoMap VideoRules
  | .channelVideoPricingRules => GoMap (GoMap VideoRules)
  | .imagePricingRules => GoMap ImagePricingRules
  | .channelImagePricingRules => GoMap (GoMap ImagePricingRules)

/-- `encoding/json` and `fmt`, at the types that the options use. A decoder into a new map
gives what the map holds afterwards, also when it fails. -/
structure Codec where
  valid : String → Bool
  floats : String → List (String × Rat) × Option String
  nested : String → List (String × List (String × Rat)) × Option String
  messages : String → Except String (List (String × String))
  float : String → Except String Rat
  wrapped : String → Except String (Option Rat)
  tiers : String → Except String (List (String × List TierSegment))
  channelTiers : String → Except String (List (String × List (String × List TierSegment)))
  videoRules : String → Except String (List (String × VideoRules))
  channelVideoRules : String → Except String (List (String × List (String × VideoRules)))
  imageRules : String → Except String (List (String × ImagePricingRules))
  channelImageRules : String → Except String (List (String × List (String × ImagePricingRules)))
  /-- Decoding into a `map[string]any`; the text `null` gives the nil map. -/
  fields : String → Except String (Option Fields)
  marshal : Option Fields → String
  quote : String → String
  formatFloat : Rat → String
  sprint : Json → String
  /-- What decodes as a map of numbers has a number under every key. -/
  messages_of_floats : ∀ text, (floats text).2 = none →
    ∃ entries, messages (trimSpace text) = .ok entries ∧ ∀ entry ∈ entries, ∃ value, float entry.2 = .ok value

section
variable (codec : Codec) (visit : Visit)

/-- A number, or an object with a number under `ratio`. -/
def flexibleEntry (entry : String × String) : Except String (String × Rat) :=
  match codec.float entry.2 with
  | .ok value => .ok (entry.1, value)
  | .error _ =>
    match codec.wrapped entry.2 with
    | .error reason => .error (codec.quote entry.1 ++ ": " ++ reason)
    | .ok (some ratio) => .ok (entry.1, ratio)
    | .ok none =>
      .error (codec.quote entry.1 ++ ": expected number or object with numeric \"ratio\"")

def parseStringFloat64MapFlexible (text : String) : Except String (List (String × Rat)) :=
  let text := trimSpace text
  if text = "" ∨ text = "null" then .ok []
  else
    match codec.messages text with
    | .error reason => .error reason
    | .ok entries => (visit.order entries).mapM (flexibleEntry codec)

def parseRules {Parsed Content : Type} (unmarshal : String → Except String Parsed)
    (normalize : Parsed → Except String Content) (blank : Content) (text : String) : Except String Content :=
  let trimmed := trimSpace text
  if trimmed = "" then .ok blank
  else (unmarshal trimmed).bind normalize

/-- What the loader of a map makes of a text: the new content and the error. -/
def Rates.read : (rates : Rates) → String → rates.Content × Option String
  | .scale _, text =>
    match parseStringFloat64MapFlexible codec visit text with
    | .ok entries => (GoMap.ofEntries entries, none)
    | .error reason => (GoMap.empty, some reason)
  | .topupGroupRatio, text => ((GoMap.ofEntries (codec.floats text).1 : GoMap Rat), (codec.floats text).2)
  | .nested _, text =>
    let (entries, reason) := codec.nested text
    (GoMap.ofEntries (entries.map fun entry => (entry.1, GoMap.ofEntries entry.2)), reason)
  | .tier _, text =>
    parsed (parseRules codec.tiers (fun source => normalizeTierSegmentsMap (visit.order source)) GoMap.empty text)
  | .channelTier _, text =>
    parsed (parseRules codec.channelTiers (fun source => normalizeChannelTiers visit (visit.order source))
      GoMap.empty text)
  | .videoPricingRules, text =>
    parsed (parseRules codec.videoRules (fun source => .ok (normalizeVideoRulesMap (visit.order source)))
      GoMap.empty text)
  | .channelVideoPricingRules, text =>
    parsed (parseRules codec.channelVideoRules
      (fun source => .ok (normalizeChannelRules visit normalizeVideoRulesMap (visit.order source)))
      GoMap.empty text)
  | .imagePricingRules, text =>
    parsed (parseRules codec.imageRules (fun source => .ok (normalizeImageRulesMap (visit.order source)))
      GoMap.empty text)
  | .channelImagePricingRules, text =>
    parsed (parseRules codec.channelImageRules
      (fun source => .ok (normalizeChannelRules visit normalizeImageRulesMap (visit.order source)))
      GoMap.empty text)
where
  parsed {Value : Type} : Except String (GoMap Value) → GoMap Value × Option String
    | .ok content => (content, none)
    | .error reason => (GoMap.empty, some reason)

/-- The loaders that put a new map in place before they decode. -/
def Rates.replacedFirst : Rates → Bool
  | .nested _ | .topupGroupRatio => true
  | _ => false

end

abbrev Maps := (rates : Rates) → rates.Content

/-- `Update…ByJSONString` of a map. -/
def Maps.load (maps : Maps) (codec : Codec) (visit : Visit) (rates : Rates) (text : String) :
    Option String × Maps :=
  let (content, failure) := rates.read codec visit text
  if failure.isNone ∨ rates.replacedFirst then (failure, Function.update maps rates content)
  else (failure, maps)

end TokenFactory.Options
