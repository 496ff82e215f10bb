import TokenFactory.Distributor.Channels

namespace TokenFactory.Distributor

open Data Go Relay

/-! The route that the model name of a request asks for: one channel
(`alias/model/channel_no` or `model/route_slug`) or one supplier (`alias/model`). -/

structure ForcedChannelRoute where
  supplierAlias : String
  modelName : String
  channelNo : String
  channelId : Int
deriving DecidableEq

structure ForcedSupplierRoute where
  supplierAlias : String
  modelName : String
  supplierApplicationId : Int
deriving DecidableEq

namespace ChannelStore

variable (store : ChannelStore)

def resolveSupplierApplicationIDByAlias (supplierAlias : String) : Except String Int :=
  let aliasTrim := trimSpace supplierAlias
  if aliasTrim = "" then .error "alias 不能为空"
  else if aliasTrim ∈ ["P0", "p0"] then .ok 0
  else
    match store.suppliers.find? fun supplier => supplier.1 = aliasTrim with
    | none => .error ("供应商别名未找到: " ++ aliasTrim)
    | some supplier => .ok supplier.2

def findChannelIDBySupplierAliasAndNo (supplierAlias channelNo : String) : Except String Int :=
  let noTrim := trimSpace channelNo
  if noTrim = "" then .error "channel_no 不能为空"
  else
    match store.resolveSupplierApplicationIDByAlias supplierAlias with
    | .error reason => .error reason
    | .ok supplierApplicationId =>
      let subject := trimSpace supplierAlias ++ "/" ++ noTrim
      match store.channels.rows.find? fun channel =>
          channel.supplierApplicationId = supplierApplicationId ∧ channel.channelNo = noTrim with
      | none => .error ("未找到渠道: " ++ subject)
      | some channel => if channel.enabled then .ok channel.id else .error ("渠道已禁用: " ++ subject)

def channelModelsRawContains (modelsRaw modelName : String) : Bool :=
  if trimSpace modelsRaw = "" ∨ trimSpace modelName = "" then false
  else (split ',' modelsRaw).any fun name => trimSpace name = modelName

def resolveChannelIDByRouteSlugAndModel (slug modelName : String) : Int :=
  let slug := trimSpace slug
  if slug = "" ∨ ¬ isValidRouteSlug slug then 0
  else
    match store.channels.rows.find? fun channel => channel.routeSlug = slug with
    | none => 0
    | some channel =>
      if channel.enabled ∧ channelModelsRawContains channel.models modelName then channel.id else 0

/-- `none` for a name of another form, and an error for a name of this form whose channel
cannot be used. -/
def parseForcedChannelModelName (raw : String) : Option (Except String ForcedChannelRoute) :=
  let parts := split '/' (trimSpace raw)
  let supplierAlias := parts.headD ""
  let channelNo := parts.getLastD ""
  let modelName := join '/' parts.tail.dropLast
  if parts.length < 3 ∨ ¬ isSupplierAlias supplierAlias ∨ ¬ isChannelNo channelNo ∨ modelName = "" then none
  else some ((store.findChannelIDBySupplierAliasAndNo supplierAlias channelNo).map fun channelId =>
    ⟨supplierAlias, modelName, channelNo, channelId⟩)

/-- An alias of no supplier is part of the model name. -/
def parseForcedSupplierModelName (raw : String) : Option ForcedSupplierRoute :=
  match split '/' (trimSpace raw) with
  | [supplierAlias, rest] =>
    let modelName := trimSpace rest
    if ¬ isSupplierAlias supplierAlias ∨ modelName = "" ∨ isChannelNo modelName then none
    else
      match store.resolveSupplierApplicationIDByAlias supplierAlias with
      | .error _ => none
      | .ok supplierApplicationId => some ⟨supplierAlias, modelName, supplierApplicationId⟩
  | _ => none

end ChannelStore

inductive Route where
  | plain
  | channel (modelName : String) (channelId : Int)
  | supplier (modelName : String) (supplierApplicationId : Int)
deriving DecidableEq

/-- The forms in the order in which the distributor tries them. -/
def ChannelStore.parseRoute (store : ChannelStore) (model : String) : Except String Route :=
  if ¬ contains model "/" then .ok .plain
  else
    match store.parseForcedChannelModelName model with
    | some (.error reason) => .error reason
    | some (.ok route) => .ok (.channel route.modelName route.channelId)
    | none =>
      match parseModelRouteIndex store.resolveChannelIDByRouteSlugAndModel model with
      | some route => .ok (.channel route.modelName route.channelId)
      | none =>
        match store.parseForcedSupplierModelName model with
        | some route => .ok (.supplier route.modelName route.supplierApplicationId)
        | none => .ok .plain

end TokenFactory.Distributor
