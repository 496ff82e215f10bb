import TokenFactory.Go.Json
import TokenFactory.Relay.Names

namespace TokenFactory.Relay

open Go

/-! What one relayed request carries from attempt to attempt: the keys of the gin
context, which channel selection writes, and the `RelayInfo`, which holds a copy
of the selected channel in its `ChannelMeta`. Prices are exact rationals. -/

structure TokenFactoryError where
  statusCode : Int
  message : String
  errorCode : String
  errorType : String
  skipRetry : Bool
deriving DecidableEq

/-- `types.NewError`, with or without `ErrOptionWithSkipRetry`. -/
def newError (message errorCode : String) (skipRetry : Bool) : TokenFactoryError :=
  ⟨500, message, errorCode, "token_factory_error", skipRetry⟩

structure Channel where
  id : Int
  type : Int
  name : String
  enabled : Bool
  createdTime : Int
  organization : String
  other : String
  baseUrl : String
  isMultiKey : Bool
  supplierApplicationId : Int
  paramOverride : Fields
  headerOverride : Fields
  modelMapping : String := ""
  otherInfo : Fields := []
  models : String := ""
  channelNo : String := ""
  routeSlug : String := ""
  priority : Int := 0
  weight : Nat := 0
deriving DecidableEq

namespace ChannelType

def azure : Int := 3
def xunfei : Int := 18
def gemini : Int := 24
def cloudflare : Int := 39
def vertexAi : Int := 41
def mokaAI : Int := 44
def doubaoVideo : Int := 54
def sora : Int := 55
def openAIVideo : Int := 58
def videoGenerator : Int := 59
def tokenFactoryOpen : Int := 60
def tencentCloudVideo : Int := 61
def aliVideo : Int := 63
def seedance : Int := 65

def isVideoTask (type : Int) : Bool :=
  type ∈ [sora, openAIVideo, videoGenerator, tencentCloudVideo, aliVideo, doubaoVideo, seedance]

end ChannelType

/-- The keys that the `ChannelMeta` and the prices are read from. A key that was
never set reads as the default. -/
structure Context where
  originalModel : String := ""
  channelId : Int := 0
  channelType : Int := 0
  channelCreateTime : Int := 0
  paramOverride : Fields := []
  headerOverride : Fields := []
  organization : String := ""
  isMultiKey : Bool := false
  multiKeyIndex : Int := 0
  channelKey : String := ""
  baseUrl : String := ""
  apiVersion : String := ""
  region : String := ""
  queryApiVersion : String := ""
  autoGroup : Option String := none
  autoGroupIndex : Option Nat := none
  modelMapping : String := ""
  tfOpenUpstreamChannelRoute : String := ""
  tfOpenUpstreamChannelNoOverride : String := ""
deriving DecidableEq

/-- The `other` column goes to a key that depends on the type of the channel. -/
def Context.setOther (ctx : Context) (channel : Channel) : Context :=
  if channel.type = ChannelType.vertexAi then { ctx with region := channel.other }
  else if channel.type ∈ [ChannelType.azure, ChannelType.xunfei, ChannelType.gemini,
      ChannelType.cloudflare, ChannelType.mokaAI] then { ctx with apiVersion := channel.other }
  else ctx

theorem Context.setOther_eq (ctx : Context) (channel : Channel) : ctx.setOther channel = { ctx with
      region := if channel.type = ChannelType.vertexAi then channel.other else ctx.region
      apiVersion := if channel.type ∈ [ChannelType.azure, ChannelType.xunfei, ChannelType.gemini,
        ChannelType.cloudflare, ChannelType.mokaAI] then channel.other else ctx.apiVersion } := by
  unfold Context.setOther
  by_cases vertex : channel.type = ChannelType.vertexAi
  · rw [vertex]
    rfl
  · simp only [vertex, ↓reduceIte]
    split <;> rfl

/-- What surrounds a selection: the template of the channel affinity rule, merged
into the parameter override, the key that the channel gives out, and Go's text for a
number, an array or an object. -/
structure Selecting where
  affinity : Fields → Fields
  nextKey : Channel → Except TokenFactoryError (String × Int)
  formatValue : Json → String := fun _ => ""

def Selecting.interface2String (selecting : Selecting) : Option Json → String
  | none | some .null => ""
  | some (.string text) => text
  | some (.bool value) => if value then "true" else "false"
  | some value => selecting.formatValue value

/-- The route that a channel synchronised from another platform asks for there: its
route slug, or else the supplier alias and the channel number. -/
def upstreamRoute? (selecting : Selecting) (channelNoOverride : String) (channel : Channel) :
    Option String :=
  let text key := trimSpace (selecting.interface2String (channel.otherInfo.get? key))
  if channel.otherInfo.text "source" ≠ "tokenfactory_open" then none
  else if text "upstream_route_slug" ≠ "" ∧ isValidRouteSlug (text "upstream_route_slug") then
    some (text "upstream_route_slug")
  else
    let supplierAlias :=
      if text "upstream_supplier_alias" = "" ∧ text "upstream_supplier_app_id" = "0" then "P0"
      else text "upstream_supplier_alias"
    let channelNo :=
      if trimSpace channelNoOverride ≠ "" then trimSpace channelNoOverride else text "upstream_channel_no"
    if supplierAlias ≠ "" ∧ channelNo ≠ "" then some ("legacy|" ++ supplierAlias ++ "|" ++ channelNo)
    else none

/-- The key keeps its value when the channel asks for no route. -/
def Context.setUpstreamRoute (ctx : Context) (selecting : Selecting) (channel : Channel) : Context :=
  match upstreamRoute? selecting ctx.tfOpenUpstreamChannelNoOverride channel with
  | none => ctx
  | some route => { ctx with tfOpenUpstreamChannelRoute := route }

theorem Context.setUpstreamRoute_eq (ctx : Context) (selecting : Selecting) (channel : Channel) :
    ctx.setUpstreamRoute selecting channel = { ctx with
      tfOpenUpstreamChannelRoute :=
        (upstreamRoute? selecting ctx.tfOpenUpstreamChannelNoOverride channel).getD
          ctx.tfOpenUpstreamChannelRoute } := by
  unfold Context.setUpstreamRoute
  split
  · rename_i unrouted
    rw [unrouted]
    rfl
  · rename_i routed
    rw [routed]
    rfl

/-- A channel without a usable key fails after its first keys are set. -/
def setupContextForSelectedChannel (selecting : Selecting) (ctx : Context) (channel : Channel)
    (modelName : String) : Except TokenFactoryError Unit × Context :=
  let selected := { ctx with
    originalModel := modelName
    channelId := channel.id
    channelType := channel.type
    channelCreateTime := channel.createdTime
    paramOverride := selecting.affinity channel.paramOverride
    headerOverride := channel.headerOverride
    organization := if channel.organization ≠ "" then channel.organization else ctx.organization
    modelMapping := channel.modelMapping }
  match selecting.nextKey channel with
  | .error reason => (.error reason, selected)
  | .ok (key, index) =>
    (.ok (), { selected with
      isMultiKey := channel.isMultiKey
      multiKeyIndex := if channel.isMultiKey then index else selected.multiKeyIndex
      channelKey := key
      baseUrl := channel.baseUrl }.setOther channel |>.setUpstreamRoute selecting channel)

structure ChannelMeta where
  channelType : Int
  channelId : Int
  channelIsMultiKey : Bool
  channelMultiKeyIndex : Int
  channelBaseUrl : String
  apiVersion : String
  apiKey : String
  organization : String
  channelCreateTime : Int
  paramOverride : Fields
  headersOverride : Fields
  upstreamModelName : String
  isModelMapped : Bool := false
deriving DecidableEq

def Context.getAPIVersion (ctx : Context) : String :=
  if ctx.queryApiVersion = "" then ctx.apiVersion else ctx.queryApiVersion

def Context.channelMeta (ctx : Context) : ChannelMeta where
  channelType := ctx.channelType
  channelId := ctx.channelId
  channelIsMultiKey := ctx.isMultiKey
  channelMultiKeyIndex := ctx.multiKeyIndex
  channelBaseUrl := ctx.baseUrl
  apiVersion :=
    if ctx.channelType = ChannelType.azure then ctx.getAPIVersion
    else if ctx.channelType = ChannelType.vertexAi then ctx.region
    else ctx.apiVersion
  apiKey := ctx.channelKey
  organization := ctx.organization
  channelCreateTime := ctx.channelCreateTime
  paramOverride := ctx.paramOverride
  headersOverride := ctx.headerOverride
  upstreamModelName := ctx.originalModel

structure GroupRatioInfo where
  groupRatio : Rat
  groupSpecialRatio : Rat
  hasSpecialRatio : Bool
deriving DecidableEq

structure PriceData where
  freeModel : Bool := false
  modelPrice : Rat := 0
  modelRatio : Rat := 0
  completionRatio : Rat := 0
  cacheRatio : Rat := 0
  cacheCreationRatio : Rat := 0
  cacheCreation5mRatio : Rat := 0
  cacheCreation1hRatio : Rat := 0
  imageRatio : Rat := 0
  audioRatio : Rat := 0
  audioCompletionRatio : Rat := 0
  videoRatio : Rat := 0
  videoCompletionRatio : Rat := 0
  otherRatios : List (String × Rat) := []
  usePrice : Bool := false
  channelPriceDiscount : Option Rat := none
  quota : Int := 0
  quotaToPreConsume : Int := 0
  groupRatioInfo : GroupRatioInfo := ⟨0, 0, false⟩
  costDiscountPercent : Rat := 0
  markupDiscountPercent : Rat := 0
  globalModelRatio : Rat := 0
  globalModelPrice : Rat := 0
  globalCompletionRatio : Rat := 0
  globalCacheRatio : Rat := 0
  globalCreateCacheRatio : Rat := 0
deriving DecidableEq

inductive ImageMode where
  | textToImage
  | imageToImage
deriving DecidableEq

structure ImageBillingSnapshot where
  usdPerImage : Rat
  width : Int
  height : Int
  count : Int
  mode : ImageMode
deriving DecidableEq

inductive RelayMode where
  | imagesGenerations
  | imagesEdits
  | responsesCompact
  | other
deriving DecidableEq

def RelayMode.isImages : RelayMode → Bool
  | .imagesGenerations | .imagesEdits => true
  | .responsesCompact | .other => false

structure RelayInfo where
  userId : Int
  userGroup : String
  usingGroup : String
  originModelName : String
  relayMode : RelayMode
  acceptUnsetRatioModel : Bool
  requestUrlPath : String
  requestHeaders : List (String × String)
  isChannelTest : Bool
  retryIndex : Nat := 0
  lastError : Option TokenFactoryError := none
  channelMeta : Option ChannelMeta := none
  priceData : PriceData := {}
  imageBilling : Option ImageBillingSnapshot := none
  runtimeHeadersOverride : List (String × String) := []
  useRuntimeHeadersOverride : Bool := false
  tfOpenUpstreamRouteApplied : Bool := false
deriving DecidableEq

def RelayInfo.initChannelMeta (info : RelayInfo) (ctx : Context) : RelayInfo :=
  { info with channelMeta := some ctx.channelMeta }

def RelayInfo.channelId (info : RelayInfo) : Int :=
  match info.channelMeta with
  | none => 0
  | some channelMeta => channelMeta.channelId

/-- What selection and pricing leave alone: a `ChannelMeta` that is there, and the
header override that an earlier handler has left. -/
structure RelayInfo.Kept (before after : RelayInfo) : Prop where
  channelMeta : before.channelMeta.isSome → after.channelMeta = before.channelMeta
  runtime : after.runtimeHeadersOverride = before.runtimeHeadersOverride
  flag : after.useRuntimeHeadersOverride = before.useRuntimeHeadersOverride

theorem RelayInfo.Kept.refl (info : RelayInfo) : Kept info info := ⟨fun _ => rfl, rfl, rfl⟩

theorem RelayInfo.Kept.trans {before middle after : RelayInfo} (first : Kept before middle)
    (second : Kept middle after) : Kept before after where
  channelMeta present := by
    have held := first.channelMeta present
    rw [second.channelMeta (held ▸ present), held]
  runtime := second.runtime.trans first.runtime
  flag := second.flag.trans first.flag

theorem RelayInfo.Kept.isSome {before after : RelayInfo} (kept : Kept before after)
    (present : before.channelMeta.isSome) : after.channelMeta.isSome :=
  (kept.channelMeta present).symm ▸ present

end TokenFactory.Relay
