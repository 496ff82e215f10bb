import TokenFactory.Distributor.Routes
import TokenFactory.Distributor.SmartRouter

namespace TokenFactory.Distributor

open Data Go Relay

/-! `Distribute`: the middleware that selects the channel of a request before it is
relayed. -/

structure Abort where
  statusCode : Int
  message : String
  code : String := ""
deriving DecidableEq

/-- What is read of the body. Only a request of the playground has a group and a channel
there. -/
structure ModelRequest where
  model : String
  specificChannelId : Option Int := none
deriving DecidableEq

/-- What the distributor is given: the request, the keys that the authentication of its
token has set, and what other parts of the program answer. -/
structure Incoming where
  modelRequest : Except String ModelRequest
  shouldSelectChannel : Bool
  isPlayground : Bool
  playgroundGroup : Except String String
  /-- Only the token of an administrator names a channel. -/
  tokenSpecificChannelId : Option String
  /-- The models of a token with a model limit; `some none` if they are missing. -/
  tokenModelLimit : Option (Option (List String))
  usingGroup : String
  ctx : Context
  request : Request
  settings : Settings
  translate : String → List (String × String) → String
  rewriteBody : String → Except String Unit
  groupInUserUsableGroups : String → String → Bool
  preferredByAffinity : String → String → Option Int
  skipRetryAfterAffinityFailure : Bool
  draw : Nat → Nat
  selecting : Selecting

structure Keys where
  model : String
  usingGroup : String
  ctx : Context
  specificChannelId : Option String := none
  forcedChannelId : Option Int := none
  forcedSupplierId : Option Int := none
  smartRouteOrder : List Int := []

structure Distributed where
  channel : Option Channel
  keys : Keys

/-- The channels as the relay finds them, for one model. -/
def ChannelStore.routing (store : ChannelStore) (draw : Nat → Nat) (selecting : Selecting) (model : String) :
    Routing where
  cacheGetChannel := store.cacheGetChannel
  getRandomSatisfiedChannel := fun group retry => store.getRandomSatisfiedChannel draw group model retry
  selecting

def isAllDigits (text : String) : Bool :=
  text ≠ "" && text.toList.all fun char => '0' ≤ char && char ≤ '9'

def parsePlaygroundTFOpenUpstreamRoute (rawModel : String) : Option (String × String) :=
  match cutLast '/' (trimSpace rawModel) with
  | none => none
  | some (front, back) =>
    if front = "" ∨ back = "" then none
    else if trimSpace front = "" ∨ ¬ isAllDigits (trimSpace back) then none
    else some (trimSpace front, "c" ++ trimSpace back)

namespace Incoming

variable (incoming : Incoming) (store : ChannelStore) (router : Router)

def abort (statusCode : Int) (key : String) (args : List (String × String) := []) (code : String := "") :
    Except Abort Answer :=
  .error ⟨statusCode, incoming.translate key args, code⟩

def invalidRequest (reason : String) : Except Abort Answer :=
  incoming.abort 400 "distributor.invalid_request" [("Error", reason)]

/-- The end of `getModelRequest`: a channel in the body of a playground request becomes
a key, as if it came with the token. -/
def getModelRequest : Except String (ModelRequest × Option String) :=
  match incoming.modelRequest with
  | .error reason => .error reason
  | .ok request =>
    match request.specificChannelId with
    | some id =>
      if ¬ incoming.isPlayground then .ok (request, incoming.tokenSpecificChannelId)
      else if id ≤ 0 then
        .error (incoming.translate "distributor.invalid_playground_request"
          [("Error", "specific_channel_id 必须大于 0")])
      else .ok (request, some (toString id))
    | none => .ok (request, incoming.tokenSpecificChannelId)

/-- The route in the model name, and the keys it sets. -/
def routeKeys (request : ModelRequest) (specificChannelId : Option String) : Except Abort Keys :=
  let keys : Keys :=
    { model := request.model, usingGroup := incoming.usingGroup, ctx := incoming.ctx, specificChannelId }
  let rewritten modelName (keys : Keys) : Except Abort Keys :=
    match incoming.rewriteBody modelName with
    | .error reason => incoming.invalidRequest reason
    | .ok () => .ok { keys with model := modelName }
  if ¬ incoming.shouldSelectChannel then .ok keys
  else
    match store.parseRoute request.model with
    | .error reason => incoming.invalidRequest reason
    | .ok .plain => .ok keys
    | .ok (.channel modelName id) => rewritten modelName { keys with forcedChannelId := some id }
    | .ok (.supplier modelName id) => rewritten modelName { keys with forcedSupplierId := some id }

section
variable (keys : Keys)

/-- The channel of `specific_channel_id`. A playground request to a synchronised channel
may end in the number of a channel of that platform. -/
def chooseSpecific (specificChannelId : String) : Except Abort Distributed :=
  match (atoi specificChannelId).bind store.channels.lookup with
  | none => incoming.abort 400 "distributor.invalid_channel_id"
  | some channel =>
    if ¬ channel.enabled then incoming.abort 403 "distributor.channel_disabled"
    else if incoming.isPlayground ∧ keys.forcedChannelId = none ∧
        channel.otherInfo.text "source" = "tokenfactory_open" then
      match parsePlaygroundTFOpenUpstreamRoute keys.model with
      | none => .ok ⟨some channel, keys⟩
      | some (parsedModel, upstreamChannelNo) =>
        .ok ⟨some channel, { keys with
          model := parsedModel
          ctx := { keys.ctx with tfOpenUpstreamChannelNoOverride := upstreamChannelNo } }⟩
    else .ok ⟨some channel, keys⟩

def checkModelLimit : Except Abort Unit :=
  match incoming.tokenModelLimit with
  | none => .ok ()
  | some none => incoming.abort 403 "distributor.token_no_model_access"
  | some (some models) =>
    if formatMatchingModelName keys.model ∈ models then .ok ()
    else incoming.abort 403 "distributor.token_model_forbidden" [("Model", keys.model)]

/-- The channel of a route in the model name; the key that ends retries is set. -/
def chooseForced (forcedId : Int) : Except Abort Distributed :=
  match store.cacheGetChannel forcedId with
  | none => incoming.abort 400 "distributor.invalid_channel_id"
  | some channel =>
    if ¬ channel.enabled then incoming.abort 403 "distributor.channel_disabled"
    else .ok ⟨some channel, { keys with specificChannelId := some (toString forcedId) }⟩

/-- A playground request may name another group that the user may use. -/
def chooseGroup : Except Abort Keys :=
  if ¬ incoming.isPlayground then .ok keys
  else
    match incoming.playgroundGroup with
    | .error reason => incoming.abort 400 "distributor.invalid_playground_request" [("Error", reason)]
    | .ok group =>
      if group = "" then .ok keys
      else if ¬ incoming.groupInUserUsableGroups keys.usingGroup group ∧ group ≠ keys.usingGroup then
        incoming.abort 403 "distributor.group_access_denied"
      else .ok { keys with usingGroup := group }

def noAvailableChannel : Except Abort Answer :=
  incoming.abort 503 "distributor.no_available_channel" [("Group", keys.usingGroup), ("Model", keys.model)]
    "model_not_found"

def chooseFromSupplier (supplierApplicationId : Int) : Except Abort Distributed :=
  match store.trySupplierRouteChannel router keys.usingGroup incoming.request.userAutoGroups keys.model
      supplierApplicationId with
  | none => incoming.noAvailableChannel keys
  | some choice =>
    .ok ⟨some choice.channel, { keys with
      smartRouteOrder := choice.order
      ctx := if keys.usingGroup = "auto" then { keys.ctx with autoGroup := some choice.selectGroup }
        else keys.ctx }⟩

/-- The channel that served the user last, if it may still be used. -/
def chooseByAffinity : Except Abort (Option Distributed) :=
  match (incoming.preferredByAffinity keys.model keys.usingGroup).bind store.cacheGetChannel with
  | none => .ok none
  | some preferred =>
    if ¬ preferred.enabled then
      if incoming.skipRetryAfterAffinityFailure then incoming.abort 403 "distributor.channel_disabled"
      else .ok none
    else if keys.usingGroup = "auto" then
      match incoming.request.userAutoGroups.find? fun group =>
          store.isChannelEnabledForGroupModel group keys.model preferred.id with
      | none => .ok none
      | some group => .ok (some ⟨some preferred, { keys with ctx := { keys.ctx with autoGroup := some group } }⟩)
    else if store.isChannelEnabledForGroupModel keys.usingGroup keys.model preferred.id then
      .ok (some ⟨some preferred, keys⟩)
    else .ok none

def chooseRandom : Except Abort Distributed :=
  let random := cacheGetRandomSatisfiedChannel incoming.settings
    { incoming.request with tokenGroup := keys.usingGroup }
    (store.routing incoming.draw incoming.selecting keys.model) keys.ctx ⟨0, false⟩
  match random.answer with
  | .error reason =>
    let showGroup :=
      if keys.usingGroup = "auto" then "auto(" ++ random.selectGroup ++ ")" else keys.usingGroup
    incoming.abort 503 "distributor.get_channel_failed"
      [("Group", showGroup), ("Model", keys.model), ("Error", reason)] "model_not_found"
  | .ok none => incoming.noAvailableChannel keys
  | .ok (some channel) => .ok ⟨some channel, { keys with ctx := random.ctx }⟩

def chooseRouted : Except Abort Distributed :=
  match store.trySmartRouteChannel router keys.usingGroup incoming.request.userAutoGroups keys.model with
  | (some choice, order) =>
    .ok ⟨some choice.channel, { keys with
      smartRouteOrder := order
      ctx := if keys.usingGroup = "auto" then { keys.ctx with autoGroup := some choice.selectGroup }
        else keys.ctx }⟩
  | (none, order) => incoming.chooseRandom store { keys with smartRouteOrder := order }

/-- The ways to a channel, for a request that names no channel. -/
def chooseInGroup : Except Abort Distributed :=
  match incoming.chooseGroup keys with
  | .error abort => .error abort
  | .ok keys =>
    match keys.forcedSupplierId with
    | some supplierApplicationId => incoming.chooseFromSupplier store router keys supplierApplicationId
    | none =>
      match incoming.chooseByAffinity store keys with
      | .error abort => .error abort
      | .ok (some chosen) => .ok chosen
      | .ok none => incoming.chooseRouted store router keys

def choose : Except Abort Distributed :=
  match keys.specificChannelId with
  | some specificChannelId => incoming.chooseSpecific store keys specificChannelId
  | none =>
    match incoming.checkModelLimit keys with
    | .error abort => .error abort
    | .ok () =>
      if ¬ incoming.shouldSelectChannel then .ok ⟨none, keys⟩
      else if keys.model = "" then incoming.abort 400 "distributor.model_name_required"
      else
        match keys.forcedChannelId with
        | some forcedId =>
          if forcedId > 0 then incoming.chooseForced store keys forcedId
          else incoming.chooseInGroup store router keys
        | none => incoming.chooseInGroup store router keys

end

def setup (chosen : Distributed) : Distributed :=
  { chosen with
    keys := { chosen.keys with
      ctx :=
        match chosen.channel with
        | none => { chosen.keys.ctx with originalModel := chosen.keys.model }
        | some channel =>
          (setupContextForSelectedChannel incoming.selecting chosen.keys.ctx channel chosen.keys.model).2 } }

def distribute : Except Abort Distributed :=
  match incoming.getModelRequest with
  | .error reason => incoming.invalidRequest reason
  | .ok (request, specificChannelId) =>
    match incoming.routeKeys store request specificChannelId with
    | .error abort => .error abort
    | .ok keys => (incoming.choose store router keys).map incoming.setup

end Incoming

end TokenFactory.Distributor
