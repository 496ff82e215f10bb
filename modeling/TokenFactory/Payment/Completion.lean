import TokenFactory.Payment.Orders

namespace TokenFactory.Payment

open Data Go

/-! The credit for an order by its provider's completion and by `ManualCompleteTopUp`. -/

section Placed
variable {shop : Shop} {placing : Placing} {topUp : TopUp}

theorem requestEpay_order {amount : Int} {method : String}
    (placed : (requestEpay shop placing amount method).2 = some topUp) : topUp.tradeNo = placing.tradeNo := by
  unfold requestEpay at placed
  split at placed
  · cases placed
  · cases placed
    rfl

theorem requestStripe_order {amount : Int} {method successURL cancelURL : String}
    (placed : (requestStripe shop placing amount method successURL cancelURL).2 = some topUp) :
    topUp.tradeNo = placing.tradeNo ∧ topUp.paymentMethod = "stripe" := by
  unfold requestStripe at placed
  split at placed
  · cases placed
  · cases placed
    exact ⟨rfl, rfl⟩

theorem requestWaffo_order {amount : Int} {index : Option Int} {methodType methodName : String}
    (placed : (requestWaffo shop placing amount index methodType methodName).2 = some topUp) :
    topUp.tradeNo = placing.tradeNo ∧ topUp.paymentMethod = "waffo" := by
  unfold requestWaffo at placed
  split at placed
  · cases placed
  · dsimp only at placed
    split at placed
    · cases placed
      exact ⟨rfl, rfl⟩
    · cases placed
      exact ⟨rfl, rfl⟩

theorem requestCreem_order {productId method : String}
    (placed : (requestCreem shop placing productId method).2 = some topUp) :
    topUp.tradeNo = placing.tradeNo ∧ topUp.paymentMethod = "" := by
  unfold requestCreem at placed
  split at placed
  · cases placed
  · cases placed
    exact ⟨rfl, rfl⟩

end Placed

namespace TopUpStore
variable {shop : Shop} {now : Int} {store : TopUpStore} {topUp : TopUp}

/-- The quota that a completion has added to a user. -/
def added (before after : TopUpStore) (userId : Int) : Int := after.quotaOf userId - before.quotaOf userId

def payout (store : TopUpStore) (userId : Int) (amount : Payer → Int) : Int :=
  ((store.users.lookup userId).map amount).getD 0

theorem payout_eq_iff {userId : Int} {first second : Payer → Int} :
    store.payout userId first = store.payout userId second ↔
      ∀ payer ∈ store.users.lookup userId, first payer = second payer := by
  unfold payout
  cases store.users.lookup userId <;> simp

theorem added_self (userId : Int) : store.added store userId = 0 := sub_self _

theorem added_complete {change : Payer → Payer} {keeps : ∀ payer, (change payer).id = payer.id} {amount : Payer → Int}
    (adds : ∀ payer, (change payer).quota = payer.quota + amount payer) :
    store.added (store.complete topUp now change keeps) topUp.userId = store.payout topUp.userId amount := by
  unfold added quotaOf complete payout
  rw [Table.lookup_modify, if_pos rfl]
  cases store.users.lookup topUp.userId with
  | none => simp
  | some payer => simp [adds]

theorem findOrder_ok (found : store.orders.lookup topUp.tradeNo = some topUp) :
    store.findOrder topUp.tradeNo = .ok topUp := by
  unfold findOrder
  rw [found]

theorem manual_added (found : store.orders.lookup topUp.tradeNo = some topUp) (pending : topUp.status = .pending)
    (named : topUp.tradeNo ≠ "") :
    store.added (store.manualCompleteTopUp shop now topUp.tradeNo).2 topUp.userId =
      store.payout topUp.userId fun _ => max (manualQuota shop topUp) 0 := by
  have unpaid : ¬ topUp.status = .success := by simp [pending]
  have waiting : ¬ topUp.status ≠ .pending := not_not.mpr pending
  unfold manualCompleteTopUp manualTransaction
  rw [if_neg named, findOrder_ok found, ok_bind, if_neg unpaid, refuseIf_neg waiting, ok_bind]
  by_cases refused : manualQuota shop topUp ≤ 0
  · rw [refuseIf_pos refused, max_eq_right refused]
    have nothing : store.payout topUp.userId (fun _ => 0) = 0 := by
      unfold payout
      cases store.users.lookup topUp.userId <;> rfl
    simp only [error_bind, added_self, nothing]
  · rw [refuseIf_neg refused, max_eq_left (by omega)]
    exact added_complete fun _ => rfl

def Completed (before after : TopUpStore) (topUp : TopUp) : Prop :=
  before.orders.lookup topUp.tradeNo = some topUp ∧
    (after.orders.lookup topUp.tradeNo).map TopUp.status = some .success

section
variable (pending : topUp.status = .pending)
include pending

theorem not_completed_self : ¬ Completed store store topUp := by
  rintro ⟨found, paid⟩
  rw [found, Option.map_some, pending] at paid
  cases paid

theorem orFailed_completed {body : Except String TopUpStore}
    (completed : Completed store (store.orFailed body).2 topUp) :
    ∃ after, body = .ok after ∧ (store.orFailed body).2 = after := by
  cases body with
  | error reason => exact absurd completed (not_completed_self pending)
  | ok after => exact ⟨after, rfl, rfl⟩

theorem stripe_added {dialect : Dialect} {customerId currency : String} {paidMoney : Rat}
    (completed : Completed store
      (store.rechargeStripe shop now dialect topUp.tradeNo customerId paidMoney currency).2 topUp) :
    store.added (store.rechargeStripe shop now dialect topUp.tradeNo customerId paidMoney currency).2
      topUp.userId = store.payout topUp.userId fun payer =>
        dialect.toColumn (payer.quota + topUp.money * shop.quotaPerUnit) - payer.quota := by
  revert completed
  unfold rechargeStripe
  split_ifs
  · exact fun completed => absurd completed (not_completed_self pending)
  · exact fun completed => absurd completed (not_completed_self pending)
  · exact fun completed => absurd completed (not_completed_self pending)
  intro completed
  obtain ⟨after, body, same⟩ := orFailed_completed pending completed
  rw [same]
  rw [findOrder_ok completed.1] at body
  simp only [bind_ok, refuseIf_ok, ok_bind] at body
  obtain ⟨_, _, _, _, _, _, result⟩ := body
  rw [← Except.ok.inj result]
  refine added_complete fun payer => ?_
  simp only [Payer.creditMoney, add_sub_cancel]

theorem creem_added {customerEmail : String}
    (completed : Completed store (store.rechargeCreem now topUp.tradeNo customerEmail).2 topUp) :
    store.added (store.rechargeCreem now topUp.tradeNo customerEmail).2 topUp.userId =
      store.payout topUp.userId fun _ => topUp.amount := by
  revert completed
  unfold rechargeCreem
  split_ifs
  · exact fun completed => absurd completed (not_completed_self pending)
  intro completed
  obtain ⟨after, body, same⟩ := orFailed_completed pending completed
  rw [same]
  rw [findOrder_ok completed.1] at body
  simp only [bind_ok, refuseIf_ok, ok_bind] at body
  obtain ⟨_, _, _, _, result⟩ := body
  rw [← Except.ok.inj result]
  exact added_complete fun _ => rfl

theorem waffo_added
    (completed : Completed store (store.rechargeWaffo shop now topUp.tradeNo).2 topUp) :
    store.added (store.rechargeWaffo shop now topUp.tradeNo).2 topUp.userId =
      store.payout topUp.userId fun _ => max (shop.quotaToAdd topUp) 0 := by
  revert completed
  unfold rechargeWaffo
  split_ifs
  · exact fun completed => absurd completed (not_completed_self pending)
  intro completed
  obtain ⟨after, body, same⟩ := orFailed_completed pending completed
  rw [same]
  have unpaid : ¬ topUp.status = .success := by simp [pending]
  rw [findOrder_ok completed.1, ok_bind, if_neg unpaid] at body
  simp only [bind_ok, refuseIf_ok, not_le] at body
  obtain ⟨_, _, _, positive, result⟩ := body
  rw [← Except.ok.inj result, max_eq_left positive.le]
  exact added_complete fun _ => rfl

end

theorem quotaOf_epayNotify (params : Params) (userId : Int) :
    (store.epayNotify shop params).2.quotaOf userId =
      store.payout userId fun _ => (store.view.step shop.toGateway { params := some params }).quota userId := by
  unfold epayNotify quotaOf payout PaymentStore.step
  rw [Table.lookup_update]
  cases found : store.users.lookup userId with
  | none => rfl
  | some payer =>
    have named := Table.key_of_lookup found
    simp only [Option.map_some, Option.getD_some, Payer.withQuota, named]

theorem payout_sub {userId quota : Int} (amount : Int) (grown : quota = store.quotaOf userId + amount) :
    (store.payout userId fun _ => quota) - store.quotaOf userId = store.payout userId fun _ => amount := by
  subst grown
  unfold payout quotaOf
  cases store.users.lookup userId with
  | none => rfl
  | some payer => simp

theorem epay_added {params : Params} (pending : topUp.status = .pending)
    (completed : Completed store (store.epayNotify shop params).2 topUp) :
    store.added (store.epayNotify shop params).2 topUp.userId =
      store.payout topUp.userId fun _ => max (shop.quotaToAdd topUp) 0 := by
  have orders : (store.epayNotify shop params).2.orders =
      (store.view.step shop.toGateway { params := some params }).orders := rfl
  have stays : ∀ after : PaymentStore,
      after.orders.lookup topUp.tradeNo = store.orders.lookup topUp.tradeNo →
      store.view.step shop.toGateway { params := some params } = after → False := by
    intro after same step
    have paid := completed.2
    rw [orders, step, same, completed.1, Option.map_some, pending] at paid
    cases paid
  rw [added, quotaOf_epayNotify]
  rcases step_cases shop.toGateway store.view { params := some params } with same | ⟨tradeNo, made⟩
  · exact absurd same fun same => stays _ rfl same
  rcases creditOrder_cases shop.toGateway { params := some params } store.view tradeNo with
    same | ⟨settled, settles, outcome⟩
  · exact absurd (made.trans same) fun same => stays _ rfl same
  by_cases own : topUp.tradeNo = settled.tradeNo
  · obtain rfl : settled = topUp := by
      have found : store.orders.lookup settled.tradeNo = some settled := settles.found
      rw [← own, completed.1] at found
      exact (Option.some.inj found).symm
    rw [made]
    rcases outcome with ⟨kept, _, refused⟩ | ⟨payable, moved, _⟩
    · have negative : shop.quotaToAdd settled < 0 := refused rfl
      rw [kept, max_eq_right negative.le]
      exact payout_sub 0 (add_zero _).symm
    · rw [moved, max_eq_left payable]
      exact payout_sub (shop.quotaToAdd settled) (if_pos rfl)
  · exact absurd made fun made => stays _ (settles.lookup_other own) made

end TopUpStore

/-- The amount that the provider's completion adds and the one that the manual completion takes the
order to be worth are the same. Nothing is asked of Waffo orders. -/
def Shop.creditsAgree (shop : Shop) (dialect : Dialect) (topUp : TopUp) (payer : Payer) : PayRequest → Prop
  | .epay _ _ => topUp.paymentMethod ≠ "stripe" ∨
    max (intPart (topUp.amount * shop.quotaPerUnit)) 0 = max (intPart (topUp.money * shop.quotaPerUnit)) 0
  -- the provider's completion leaves it to the database to cut off what is no whole unit
  | .stripe _ _ _ _ => dialect.toColumn (payer.quota + topUp.money * shop.quotaPerUnit) =
    payer.quota + max (intPart (topUp.money * shop.quotaPerUnit)) 0
  | .waffo _ _ _ _ => True
  -- a Creem order counts in quota, and the manual completion in units
  | .creem _ _ => topUp.amount = max (intPart (topUp.amount * shop.quotaPerUnit)) 0

section
variable {shop : Shop} {placing : Placing} {request : PayRequest} {topUp : TopUp} {report : Report}
  {dialect : Dialect} {now later : Int} {store : TopUpStore}

theorem placed_tradeNo (placed : (place shop placing request).2 = some topUp) : topUp.tradeNo ≠ "" := by
  have same : topUp.tradeNo = placing.tradeNo := by
    cases request with
    | epay => exact requestEpay_order placed
    | stripe => exact (requestStripe_order placed).1
    | waffo => exact (requestWaffo_order placed).1
    | creem => exact (requestCreem_order placed).1
  rw [same]
  exact placing.named

end

def smallShop : Shop where
  toGateway := openGateway "epay"
  displaysTokens := false
  price := 7
  topupGroupRatio := fun _ => none
  amountDiscount := fun _ => none
  minTopUp := 1
  payMethods := ["alipay"]
  payMethodMaxTopup := fun _ => 0
  stripeMinTopUp := 1
  trustsRedirectURL := fun _ => true
  waffoEnabled := false
  waffoMinTopUp := 1
  waffoUnitPrice := 1
  waffoPayMethods := []
  creemProducts := some [⟨"small", "Small", 5, "USD", 500000⟩]

theorem order_named : "order" ≠ "" := by decide

def smallPlacing : Placing := ⟨7, true, .ok "default", "order", 1000, .ok (), .ok 1, order_named⟩

def truncating : Dialect := ⟨intPart, intPart_intCast⟩

def payer : Payer := ⟨7, 0, "", ""⟩

theorem singleton_tradeNo (topUp : TopUp) : ([topUp].map TopUp.tradeNo).Nodup := List.nodup_singleton _

theorem payer_unique : ([payer].map Payer.id).Nodup := List.nodup_singleton 7

def storeOf (topUp : TopUp) : TopUpStore := ⟨⟨[topUp], singleton_tradeNo topUp⟩, ⟨[payer], payer_unique⟩⟩

def stripeOrder : TopUp := smallPlacing.order 1 3 3 "stripe" .pending

def creemOrder : TopUp := smallPlacing.order 1 500000 5 "" .pending

end TokenFactory.Payment
