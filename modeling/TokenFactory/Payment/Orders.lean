import TokenFactory.Go.Errors
import TokenFactory.Payment.Notify

namespace TokenFactory.Payment

open Data Go

/-! Top-up orders: the requests that place them (`controller/topup*.go`) and the functions that
complete them (`model/topup.go`, and `EpayNotify` for the two gateways of the first request).

An order has an amount and a sum of money. What one unit of either is worth depends on who placed
the order. -/

structure CreemProduct where
  productId : String
  name : String
  price : Rat
  currency : String
  quota : Int
deriving DecidableEq

structure Shop extends Gateway where
  displaysTokens : Bool
  price : Rat
  topupGroupRatio : String → Option Rat
  amountDiscount : Int → Option Rat
  minTopUp : Int
  payMethods : List String
  payMethodMaxTopup : String → Int
  stripeMinTopUp : Int
  trustsRedirectURL : String → Bool
  waffoEnabled : Bool
  waffoMinTopUp : Int
  waffoUnitPrice : Rat
  waffoPayMethods : List (String × String)
  creemProducts : Option (List CreemProduct)

/-- What a request meets: the user, a new trade number, the clock, the answer of the payment
provider, and that of the database to the new order. -/
structure Placing where
  userId : Int
  userFound : Bool
  userGroup : Except String String
  tradeNo : String
  now : Int
  provider : Except String Unit
  inserted : Except String Int
  named : tradeNo ≠ ""

abbrev Placed := Except String Unit × Option TopUp

namespace Shop
variable (shop : Shop)

/-- A ratio of zero counts as one, as does a group without a ratio. -/
def groupRatio (group : String) : Rat :=
  let ratio := (shop.topupGroupRatio group).getD 1
  if ratio = 0 then 1 else ratio

def discount (amount : Int) : Rat := ((shop.amountDiscount amount).filter fun share => 0 < share).getD 1

/-- An amount in units of money; it may have been given in tokens. -/
def inUnits (amount : Rat) : Rat := if shop.displaysTokens then amount / shop.quotaPerUnit else amount

def getPayMoney (amount : Int) (group : String) : Rat :=
  shop.inUnits amount * shop.price * shop.groupRatio group * shop.discount amount

def getMinTopup : Int :=
  if shop.displaysTokens then intPart (shop.minTopUp * shop.quotaPerUnit) else shop.minTopUp

/-- Zero for a payment method without a limit. -/
def getMaxTopup (paymentMethod : String) : Int :=
  let maxTopup := shop.payMethodMaxTopup paymentMethod
  if maxTopup ≤ 0 then 0
  else if shop.displaysTokens then intPart (maxTopup * shop.quotaPerUnit)
  else maxTopup

def getStripeMinTopup : Int :=
  if shop.displaysTokens then shop.stripeMinTopUp * intPart shop.quotaPerUnit else shop.stripeMinTopUp

def getChargedAmount (count : Rat) (group : String) : Rat := count * shop.groupRatio group

def getWaffoPayMoney (amount : Int) (group : String) : Rat :=
  shop.inUnits amount * shop.waffoUnitPrice * shop.groupRatio group * shop.discount amount

end Shop

inductive PayRequest where
  | epay (amount : Int) (paymentMethod : String)
  | stripe (amount : Int) (paymentMethod successURL cancelURL : String)
  | waffo (amount : Int) (payMethodIndex : Option Int) (payMethodType payMethodName : String)
  | creem (productId paymentMethod : String)
deriving DecidableEq

def Placing.order (placing : Placing) (id amount : Int) (money : Rat) (paymentMethod : String)
    (status : TopUpStatus) : TopUp where
  id
  userId := placing.userId
  amount
  money
  tradeNo := placing.tradeNo
  paymentMethod
  createTime := placing.now
  completeTime := 0
  status

section Requests
variable (shop : Shop) (placing : Placing)

def tooSmall (minimum : Int) : String := "充值数量不能小于 " ++ toString minimum

/-- The checks of `RequestEpay`; the money that is to be paid. -/
def checkEpay (amount : Int) (paymentMethod : String) : Except String Rat := do
  refuseIf (amount < shop.getMinTopup) (tooSmall shop.getMinTopup)
  refuseIf (shop.getMaxTopup paymentMethod > 0 ∧ amount > shop.getMaxTopup paymentMethod)
    ("充值数量不能大于 " ++ toString (shop.getMaxTopup paymentMethod))
  let group ← placing.userGroup.mapError fun _ => "获取用户分组失败"
  refuseIf (shop.getPayMoney amount group < 1 / 100) "充值金额过低"
  refuseIf (paymentMethod ∉ shop.payMethods) "支付方式不存在"
  return shop.getPayMoney amount group

/-- The order is stored after the gateway has accepted it. -/
def requestEpay (amount : Int) (paymentMethod : String) : Placed :=
  match (do
    let payMoney ← checkEpay shop placing amount paymentMethod
    placing.provider
    let id ← placing.inserted.mapError fun _ => "创建订单失败"
    return (id, payMoney)) with
  | .error reason => (.error reason, none)
  | .ok (id, payMoney) =>
    (.ok (), some (placing.order id (intPart (shop.inUnits amount)) payMoney paymentMethod .pending))

def checkStripe (amount : Int) (paymentMethod successURL cancelURL : String) : Except String Unit := do
  refuseIf (paymentMethod ≠ "stripe") "不支持的支付渠道"
  refuseIf (amount < shop.getStripeMinTopup) (tooSmall shop.getStripeMinTopup)
  refuseIf (amount > 10000) "充值数量不能大于 10000"
  refuseIf (successURL ≠ "" ∧ ¬ shop.trustsRedirectURL successURL) "支付成功重定向URL不在可信任域名列表中"
  refuseIf (cancelURL ≠ "" ∧ ¬ shop.trustsRedirectURL cancelURL) "支付取消重定向URL不在可信任域名列表中"

/-- The money is the amount times the ratio of the user's group. -/
def requestStripe (amount : Int) (paymentMethod successURL cancelURL : String) : Placed :=
  match (do
    checkStripe shop amount paymentMethod successURL cancelURL
    placing.provider.mapError fun _ => "拉起支付失败"
    placing.inserted.mapError fun _ => "创建订单失败") with
  | .error reason => (.error reason, none)
  | .ok id =>
    let money := shop.getChargedAmount amount (placing.userGroup.toOption.getD "")
    (.ok (), some (placing.order id amount money "stripe" .pending))

/-- An index, or the older fields, must name a configured method; without both the provider
chooses one. -/
def checkWaffoMethod (payMethodIndex : Option Int) (payMethodType payMethodName : String) : Except String Unit :=
  match payMethodIndex with
  | some index => refuseIf (index < 0 ∨ index ≥ shop.waffoPayMethods.length) "不支持的支付方式"
  | none =>
    refuseIf (payMethodType ≠ "" ∧ (payMethodType, payMethodName) ∉ shop.waffoPayMethods) "不支持的支付方式"

def checkWaffo (amount : Int) (payMethodIndex : Option Int) (payMethodType payMethodName : String) :
    Except String Rat := do
  refuseIf (¬ shop.waffoEnabled) "Waffo 支付未启用"
  refuseIf (amount < shop.waffoMinTopUp) (tooSmall shop.waffoMinTopUp)
  refuseIf (¬ placing.userFound) "用户不存在"
  checkWaffoMethod shop payMethodIndex payMethodType payMethodName
  let payMoney := shop.getWaffoPayMoney amount (placing.userGroup.toOption.getD "")
  refuseIf (payMoney < 1 / 100) "充值金额过低"
  return payMoney

/-- The order is stored first, and is marked as failed when the provider refuses it. -/
def requestWaffo (amount : Int) (payMethodIndex : Option Int) (payMethodType payMethodName : String) : Placed :=
  match (do
    let payMoney ← checkWaffo shop placing amount payMethodIndex payMethodType payMethodName
    let id ← placing.inserted.mapError fun _ => "创建订单失败"
    return (id, payMoney)) with
  | .error reason => (.error reason, none)
  | .ok (id, payMoney) =>
    let units := if shop.displaysTokens then max (intPart (amount / shop.quotaPerUnit)) 1 else amount
    match placing.provider with
    | .error reason => (.error reason, some (placing.order id units payMoney "waffo" .failed))
    | .ok () => (.ok (), some (placing.order id units payMoney "waffo" .pending))

def checkCreem (productId paymentMethod : String) : Except String CreemProduct := do
  refuseIf (paymentMethod ≠ "creem") "不支持的支付渠道"
  refuseIf (productId = "") "请选择产品"
  match shop.creemProducts with
  | none => .error "产品配置错误"
  | some products =>
    match products.find? fun product => product.productId = productId with
    | none => .error "产品不存在"
    | some product => .ok product

/-- The amount is the quota of the product, and the order names no payment method. It stays
pending when the provider gives no link. -/
def requestCreem (productId paymentMethod : String) : Placed :=
  match (do
    let product ← checkCreem shop productId paymentMethod
    let id ← placing.inserted.mapError fun _ => "创建订单失败"
    return (id, product)) with
  | .error reason => (.error reason, none)
  | .ok (id, product) =>
    (placing.provider.mapError fun _ => "拉起支付失败",
      some (placing.order id product.quota product.price "" .pending))

def place : PayRequest → Placed
  | .epay amount paymentMethod => requestEpay shop placing amount paymentMethod
  | .stripe amount paymentMethod successURL cancelURL =>
    requestStripe shop placing amount paymentMethod successURL cancelURL
  | .waffo amount index methodType methodName => requestWaffo shop placing amount index methodType methodName
  | .creem productId paymentMethod => requestCreem shop placing productId paymentMethod

end Requests

structure Payer where
  id : Int
  quota : Int
  email : String
  stripeCustomer : String
deriving DecidableEq

structure TopUpStore where
  orders : Table TopUp.tradeNo
  users : Table Payer.id

/-- How the database puts a float into an integer column; an integral one stays what it is. -/
structure Dialect where
  toColumn : Rat → Int
  integral : ∀ value : Int, toColumn value = value

namespace Payer

def credit (quota : Int) (payer : Payer) : Payer := { payer with quota := payer.quota + quota }

def creditMoney (dialect : Dialect) (customerId : String) (quota : Rat) (payer : Payer) : Payer :=
  { payer with stripeCustomer := customerId, quota := dialect.toColumn (payer.quota + quota) }

/-- The address of the customer is kept only where the user has none. -/
def creditAndFillEmail (customerEmail : String) (quota : Int) (payer : Payer) : Payer :=
  { payer with
    quota := payer.quota + quota
    email := if customerEmail ≠ "" ∧ payer.email = "" then customerEmail else payer.email }

def withQuota (quota : Int → Int) (payer : Payer) : Payer := { payer with quota := quota payer.id }

theorem credit_id (quota : Int) (payer : Payer) : (payer.credit quota).id = payer.id := rfl

theorem creditMoney_id (dialect : Dialect) (customerId : String) (quota : Rat) (payer : Payer) :
    (payer.creditMoney dialect customerId quota).id = payer.id := rfl

theorem creditAndFillEmail_id (customerEmail : String) (quota : Int) (payer : Payer) :
    (payer.creditAndFillEmail customerEmail quota).id = payer.id := rfl

theorem withQuota_id (quota : Int → Int) (payer : Payer) : (payer.withQuota quota).id = payer.id := rfl

end Payer

namespace TopUpStore
variable (store : TopUpStore)

def quotaOf (userId : Int) : Int := ((store.users.lookup userId).map Payer.quota).getD 0

def findOrder (tradeNo : String) : Except String TopUp :=
  match store.orders.lookup tradeNo with
  | none => .error "充值订单不存在"
  | some topUp => .ok topUp

def complete (topUp : TopUp) (now : Int) (change : Payer → Payer) (keeps : ∀ payer, (change payer).id = payer.id) :
    TopUpStore where
  orders := store.orders.save { topUp with completeTime := now, status := .success }
  users := store.users.modify topUp.userId change keeps

/-- An error inside the transaction rolls it back; the caller is told another text. -/
def orFailed (body : Except String TopUpStore) : Except String Unit × TopUpStore :=
  match body with
  | .error _ => (.error "充值失败，请稍后重试", store)
  | .ok after => (.ok (), after)

variable (shop : Shop) (now : Int)

/-- A cent of difference in the money is accepted. -/
def rechargeStripe (dialect : Dialect) (referenceId customerId : String) (paidMoney : Rat) (currency : String) :
    Except String Unit × TopUpStore :=
  if referenceId = "" then (.error "未提供支付单号", store)
  else if paidMoney ≤ 0 then (.error "无效的支付金额", store)
  else if (trimSpace currency).toUpper ≠ "USD" then (.error "不支持的支付币种", store)
  else store.orFailed do
    let topUp ← store.findOrder referenceId
    refuseIf (topUp.status ≠ .pending) "充值订单状态错误"
    refuseIf (topUp.paymentMethod ≠ "stripe") ("支付渠道不匹配: expect stripe, got " ++ topUp.paymentMethod)
    refuseIf (|topUp.money - paidMoney| > 1 / 100) "支付金额不匹配"
    return store.complete topUp now (Payer.creditMoney dialect customerId (topUp.money * shop.quotaPerUnit))
      (Payer.creditMoney_id dialect customerId (topUp.money * shop.quotaPerUnit))

def rechargeCreem (referenceId customerEmail : String) : Except String Unit × TopUpStore :=
  if referenceId = "" then (.error "未提供支付单号", store)
  else store.orFailed do
    let topUp ← store.findOrder referenceId
    refuseIf (topUp.status ≠ .pending) "充值订单状态错误"
    refuseIf (customerEmail ≠ "" ∧ store.users.lookup topUp.userId = none) "record not found"
    return store.complete topUp now (Payer.creditAndFillEmail customerEmail topUp.amount)
      (Payer.creditAndFillEmail_id customerEmail topUp.amount)

/-- An order that is paid already is left alone, without an error. -/
def rechargeWaffo (tradeNo : String) : Except String Unit × TopUpStore :=
  if tradeNo = "" then (.error "未提供支付单号", store)
  else store.orFailed do
    let topUp ← store.findOrder tradeNo
    if topUp.status = .success then return store
    else
      refuseIf (topUp.status ≠ .pending) "充值订单状态错误"
      refuseIf (shop.quotaToAdd topUp ≤ 0) "无效的充值额度"
      return store.complete topUp now (Payer.credit (shop.quotaToAdd topUp)) (Payer.credit_id (shop.quotaToAdd topUp))

/-- The money of a Stripe order, and the amount of any other, times the quota of a unit. -/
def manualQuota (topUp : TopUp) : Int :=
  if topUp.paymentMethod = "stripe" then intPart (topUp.money * shop.quotaPerUnit) else shop.quotaToAdd topUp

def manualTransaction (tradeNo : String) : Except String TopUpStore := do
  let topUp ← store.findOrder tradeNo
  if topUp.status = .success then return store
  else
    refuseIf (topUp.status ≠ .pending) "订单状态不是待支付，无法补单"
    refuseIf (manualQuota shop topUp ≤ 0) "无效的充值额度"
    return store.complete topUp now (Payer.credit (manualQuota shop topUp)) (Payer.credit_id (manualQuota shop topUp))

def manualCompleteTopUp (tradeNo : String) : Except String Unit × TopUpStore :=
  if tradeNo = "" then (.error "未提供订单号", store)
  else
    match store.manualTransaction shop now tradeNo with
    | .error reason => (.error reason, store)
    | .ok after => (.ok (), after)

def view : PaymentStore := .start store.orders store.quotaOf

def epayNotify (params : Params) : String × TopUpStore :=
  let (answer, after) := notify shop.toGateway store.view { params := some params }
  (answer, ⟨after.orders, store.users.update (Payer.withQuota after.quota) (Payer.withQuota_id after.quota)⟩)

end TopUpStore

inductive Report where
  | epay (params : Params)
  | stripe (customerId : String) (paidMoney : Rat) (currency : String)
  | waffo
  | creem (customerEmail : String)

/-- The report is for the provider that the order was placed with. -/
def Report.answers : Report → PayRequest → Bool
  | .epay _, .epay _ _ => true
  | .stripe _ _ _, .stripe _ _ _ _ => true
  | .waffo, .waffo _ _ _ _ => true
  | .creem _, .creem _ _ => true
  | _, _ => false

def TopUpStore.report (shop : Shop) (dialect : Dialect) (now : Int) (store : TopUpStore) (tradeNo : String) :
    Report → TopUpStore
  | .epay params => (store.epayNotify shop params).2
  | .stripe customerId paidMoney currency =>
    (store.rechargeStripe shop now dialect tradeNo customerId paidMoney currency).2
  | .waffo => (store.rechargeWaffo shop now tradeNo).2
  | .creem customerEmail => (store.rechargeCreem now tradeNo customerEmail).2

end TokenFactory.Payment
