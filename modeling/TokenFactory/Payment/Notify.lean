import TokenFactory.Data.Run
import TokenFactory.Data.Table
import TokenFactory.Go.Number
import TokenFactory.Go.Text

namespace TokenFactory.Payment

open Data Go

/-! `EpayNotify` of `controller/topup.go`: the payment gateway reports a paid order.

The order is handled under a lock of its trade number, so the callbacks of one
order follow each other. Its status and the user's quota are written by two
statements outside a transaction, and either of them may fail. -/

inductive TopUpStatus where
  | pending
  | success
  | failed
  | expired
deriving DecidableEq

structure TopUp where
  id : Int
  userId : Int
  amount : Int
  money : Rat
  tradeNo : String
  paymentMethod : String
  createTime : Int
  completeTime : Int
  status : TopUpStatus
deriving DecidableEq

structure Credit where
  tradeNo : String
  userId : Int
  quota : Int
deriving DecidableEq

/-- `credits` is the history of what `quota` was increased by. -/
structure PaymentStore where
  orders : Table TopUp.tradeNo
  quota : Int → Int
  credits : List Credit

abbrev Params := List (String × String)

def param (params : Params) (name : String) : String := (params.lookup name).getD ""

/-- The answer of the gateway library about the parameters of a callback. -/
structure VerifyInfo where
  verifyStatus : Bool
  tradeSuccess : Bool
  serviceTradeNo : String
deriving DecidableEq

/-- The configuration, and the signature checks of the two gateways. There is no
client where the gateway is not configured. -/
structure Gateway where
  onlinePayProvider : String
  quotaPerUnit : Rat
  verifyYipayNotify : Params → Bool
  epayClient : Option (Params → Except String VerifyInfo)

/-- One callback: its parameters, unless the body could not be parsed, and the
database statements that fail while it is handled. -/
structure Callback where
  params : Option Params
  lookup : Bool := true
  update : Option String := none
  increase : Option String := none

def Gateway.quotaToAdd (gateway : Gateway) (topUp : TopUp) : Int :=
  intPart (topUp.amount * gateway.quotaPerUnit)

/-- `IncreaseUserQuota` refuses a negative quota. -/
def PaymentStore.increaseUserQuota (store : PaymentStore) (fault : Option String) (credit : Credit) :
    Except String Unit × PaymentStore :=
  if credit.quota < 0 then (.error "quota 不能为负数！", store)
  else
    match fault with
    | some text => (.error text, store)
    | none => (.ok (), { store with
        quota := fun id => if id = credit.userId then store.quota id + credit.quota else store.quota id
        credits := store.credits ++ [credit] })

/-- How the part under the order lock ends. -/
inductive Handled where
  | notFound
  | updateFailed
  | userFailed
  | done
deriving DecidableEq

variable (gateway : Gateway)

/-- The statements both gateways make for a paid order. -/
def creditOrder (callback : Callback) (store : PaymentStore) (tradeNo : String) : Handled × PaymentStore :=
  match if callback.lookup then store.orders.lookup tradeNo else none with
  | none => (.notFound, store)
  | some topUp =>
    if topUp.status = .pending then
      match callback.update with
      | some _ => (.updateFailed, store)
      | none =>
        let saved := { store with orders := store.orders.save { topUp with status := .success } }
        match saved.increaseUserQuota callback.increase
            ⟨topUp.tradeNo, topUp.userId, gateway.quotaToAdd topUp⟩ with
        | (.error _, after) => (.userFailed, after)
        | (.ok (), after) => (.done, after)
    else (.done, store)

def yipayNotify (callback : Callback) (store : PaymentStore) (params : Params) : String × PaymentStore :=
  if !gateway.verifyYipayNotify params then ("fail", store)
  else if trimSpace (param params "mchOrderNo") = "" then ("fail", store)
  else if trimSpace (param params "state") ≠ "2" then ("success", store)
  else
    let handled := creditOrder gateway callback store (trimSpace (param params "mchOrderNo"))
    (if handled.1 = .done then "success" else "fail", handled.2)

/-- The answer is written before the order is touched. -/
def epayNotify (callback : Callback) (store : PaymentStore) (params : Params) : String × PaymentStore :=
  match gateway.epayClient with
  | none => ("fail", store)
  | some verify =>
    match verify params with
    | .error _ => ("fail", store)
    | .ok info =>
      if !info.verifyStatus then ("fail", store)
      else if info.tradeSuccess then
        ("success", (creditOrder gateway callback store info.serviceTradeNo).2)
      else ("success", store)

def notify (store : PaymentStore) (callback : Callback) : String × PaymentStore :=
  match callback.params with
  | none | some [] => ("fail", store)
  | some params =>
    if gateway.onlinePayProvider = "yipay" then yipayNotify gateway callback store params
    else epayNotify gateway callback store params

def PaymentStore.step (store : PaymentStore) (callback : Callback) : PaymentStore :=
  (notify gateway store callback).2

def Gateway.credit (topUp : TopUp) : Credit := ⟨topUp.tradeNo, topUp.userId, gateway.quotaToAdd topUp⟩

theorem credit_tradeNo (topUp : TopUp) : (gateway.credit topUp).tradeNo = topUp.tradeNo := rfl

/-- The order was pending and has been saved as paid; no other order has changed. -/
structure Settles (callback : Callback) (topUp : TopUp) (before after : PaymentStore) : Prop where
  found : before.orders.lookup topUp.tradeNo = some topUp
  pending : topUp.status = .pending
  updated : callback.update = none
  saved : after.orders = before.orders.save { topUp with status := .success }

section Steps

variable {gateway} {callback : Callback} {store after : PaymentStore} {credit : Credit} {tradeNo : String}

theorem increaseUserQuota_cases (answer : Except String Unit)
    (done : store.increaseUserQuota callback.increase credit = (answer, after)) :
    (after = store ∧ (callback.increase = none → credit.quota < 0)) ∨
      0 ≤ credit.quota ∧ after = { store with
        quota := fun id => if id = credit.userId then store.quota id + credit.quota else store.quota id
        credits := store.credits ++ [credit] } := by
  unfold PaymentStore.increaseUserQuota at done
  split at done
  · rename_i negative
    cases done
    exact .inl ⟨rfl, fun _ => negative⟩
  · rename_i payable
    cases fault : callback.increase with
    | some text =>
      rw [fault] at done
      cases done
      exact .inl ⟨rfl, fun absent => by cases absent⟩
    | none =>
      rw [fault] at done
      cases done
      exact .inr ⟨not_lt.mp payable, rfl⟩

theorem creditOrder_cases (gateway : Gateway) (callback : Callback) (store : PaymentStore) (tradeNo : String) :
    let after := (creditOrder gateway callback store tradeNo).2
    after = store ∨ ∃ topUp, Settles callback topUp store after ∧
      ((after.quota = store.quota ∧ after.credits = store.credits ∧
          (callback.increase = none → gateway.quotaToAdd topUp < 0)) ∨
        (0 ≤ gateway.quotaToAdd topUp ∧ after.quota = (fun id =>
            if id = topUp.userId then store.quota id + gateway.quotaToAdd topUp else store.quota id) ∧
          after.credits = store.credits ++ [gateway.credit topUp])) := by
  unfold creditOrder
  cases read : callback.lookup with
  | false => exact .inl rfl
  | true =>
    cases found : store.orders.lookup tradeNo with
    | none => exact .inl rfl
    | some topUp =>
      obtain rfl : topUp.tradeNo = tradeNo := Table.key_of_lookup found
      simp only [↓reduceIte]
      split
      · rename_i pending
        cases update : callback.update with
        | some text => exact .inl rfl
        | none =>
          refine .inr ⟨topUp, ?_⟩
          cases done : PaymentStore.increaseUserQuota
              { store with orders := store.orders.save { topUp with status := .success } }
              callback.increase ⟨topUp.tradeNo, topUp.userId, gateway.quotaToAdd topUp⟩ with
          | mk answer after =>
            rcases increaseUserQuota_cases answer done with ⟨rfl, refused⟩ | ⟨payable, rfl⟩
            · cases answer <;> exact ⟨⟨found, pending, update, rfl⟩, .inl ⟨rfl, rfl, refused⟩⟩
            · cases answer <;> exact ⟨⟨found, pending, update, rfl⟩, .inr ⟨payable, rfl, rfl⟩⟩
      · exact .inl rfl

theorem step_cases (gateway : Gateway) (store : PaymentStore) (callback : Callback) :
    store.step gateway callback = store ∨
      ∃ tradeNo, store.step gateway callback = (creditOrder gateway callback store tradeNo).2 := by
  unfold PaymentStore.step notify
  split
  · exact .inl rfl
  · exact .inl rfl
  split
  · unfold yipayNotify
    split_ifs
    · exact .inl rfl
    · exact .inl rfl
    · exact .inl rfl
    · exact .inr ⟨_, rfl⟩
  · unfold epayNotify
    split
    · exact .inl rfl
    split
    · exact .inl rfl
    split_ifs
    · exact .inl rfl
    · exact .inr ⟨_, rfl⟩
    · exact .inl rfl

end Steps

namespace PaymentStore

def start (orders : Table TopUp.tradeNo) (quota : Int → Int) : PaymentStore := ⟨orders, quota, []⟩

def creditsOf (store : PaymentStore) (tradeNo : String) : List Credit :=
  store.credits.filter fun credit => credit.tradeNo = tradeNo

def received (store : PaymentStore) (userId : Int) : Int :=
  ((store.credits.filter fun credit => credit.userId = userId).map Credit.quota).sum

def Follows (quota : Int → Int) (store : PaymentStore) : Prop :=
  ∀ user, store.quota user = quota user + store.received user

end PaymentStore

/-- Where the order `topUp` stands. `short` is an order that was marked as paid by a
callback that did not increase the quota, which only happens when there is a
`lapse`. -/
inductive Stage (lapse : Prop) (topUp : TopUp) (store : PaymentStore) : Prop where
  | pending (found : store.orders.lookup topUp.tradeNo = some topUp)
      (uncredited : store.creditsOf topUp.tradeNo = [])
  | paid (found : store.orders.lookup topUp.tradeNo = some { topUp with status := .success })
      (credited : store.creditsOf topUp.tradeNo = [gateway.credit topUp])
  | short (found : store.orders.lookup topUp.tradeNo = some { topUp with status := .success })
      (uncredited : store.creditsOf topUp.tradeNo = []) (lapsed : lapse)

/-- A callback that, once it has marked the order, does not fail to increase the quota. -/
def Callback.Completes (callback : Callback) : Prop := callback.update = none → callback.increase = none

instance (callback : Callback) : Decidable callback.Completes := inferInstanceAs (Decidable (_ → _))

section Runs

variable {gateway} {lapse : Prop} {topUp settled : TopUp} {store after : PaymentStore} {callback : Callback}

theorem Stage.congr (stage : Stage gateway lapse topUp store)
    (order : after.orders.lookup topUp.tradeNo = store.orders.lookup topUp.tradeNo)
    (credits : after.creditsOf topUp.tradeNo = store.creditsOf topUp.tradeNo) :
    Stage gateway lapse topUp after := by
  cases stage with
  | pending found uncredited => exact .pending (order.trans found) (credits.trans uncredited)
  | paid found credited => exact .paid (order.trans found) (credits.trans credited)
  | short found uncredited lapsed => exact .short (order.trans found) (credits.trans uncredited) lapsed

theorem Stage.of_settles (stage : Stage gateway lapse topUp store)
    (settles : Settles callback settled store after) (same : settled.tradeNo = topUp.tradeNo) :
    settled = topUp ∧ store.creditsOf topUp.tradeNo = [] := by
  have found := same ▸ settles.found
  have pending := settles.pending
  cases stage with
  | pending own uncredited =>
    cases own.symm.trans found
    exact ⟨rfl, uncredited⟩
  | paid own _ | short own _ _ =>
    cases own.symm.trans found
    cases pending

theorem Settles.lookup_self (settles : Settles callback topUp store after) :
    after.orders.lookup topUp.tradeNo = some { topUp with status := .success } := by
  rw [settles.saved]
  exact Table.lookup_save_self settles.found rfl

theorem Settles.lookup_other (settles : Settles callback settled store after)
    (other : topUp.tradeNo ≠ settled.tradeNo) :
    after.orders.lookup topUp.tradeNo = store.orders.lookup topUp.tradeNo := by
  rw [settles.saved]
  exact Table.lookup_save_other other

theorem creditsOf_append {credit : Credit} (appended : after.credits = store.credits ++ [credit])
    (tradeNo : String) :
    after.creditsOf tradeNo = store.creditsOf tradeNo ++ if credit.tradeNo = tradeNo then [credit] else [] := by
  simp only [PaymentStore.creditsOf, appended, List.filter_append]
  by_cases own : credit.tradeNo = tradeNo <;> simp [own]

theorem step_preserves_stage (stage : Stage gateway lapse topUp store)
    (careful : lapse ∨ (callback.Completes ∧ 0 ≤ gateway.quotaToAdd topUp)) :
    Stage gateway lapse topUp (store.step gateway callback) := by
  rcases step_cases gateway store callback with same | ⟨tradeNo, made⟩
  · exact same.symm ▸ stage
  rw [made]
  rcases creditOrder_cases gateway callback store tradeNo with same | ⟨settled, settles, outcome⟩
  · exact same.symm ▸ stage
  generalize (creditOrder gateway callback store tradeNo).2 = after at settles outcome
  by_cases own : settled.tradeNo = topUp.tradeNo
  · obtain ⟨rfl, uncredited⟩ := stage.of_settles settles own
    rcases outcome with ⟨_, kept, refused⟩ | ⟨_, _, credited⟩
    · have same : after.creditsOf settled.tradeNo = [] := by
        rw [← uncredited, PaymentStore.creditsOf, kept, PaymentStore.creditsOf]
      refine .short settles.lookup_self same ?_
      rcases careful with lapsed | ⟨completes, payable⟩
      · exact lapsed
      · have negative := refused (completes settles.updated)
        omega
    · have entry := creditsOf_append credited settled.tradeNo
      rw [uncredited, List.nil_append, credit_tradeNo, if_pos rfl] at entry
      exact .paid settles.lookup_self entry
  · apply stage.congr (settles.lookup_other (Ne.symm own))
    rcases outcome with ⟨_, kept, _⟩ | ⟨_, _, credited⟩
    · rw [PaymentStore.creditsOf, kept, PaymentStore.creditsOf]
    · rw [creditsOf_append credited, credit_tradeNo, if_neg own, List.append_nil]

theorem step_preserves_received {quota : Int → Int} (callback : Callback)
    (follows : store.Follows quota) : (store.step gateway callback).Follows quota := by
  intro user
  rcases step_cases gateway store callback with same | ⟨tradeNo, made⟩
  · rw [same]
    exact follows user
  rw [made]
  rcases creditOrder_cases gateway callback store tradeNo with same | ⟨settled, settles, outcome⟩
  · rw [same]
    exact follows user
  rcases outcome with ⟨sameQuota, kept, _⟩ | ⟨_, moved, credited⟩
  · rw [sameQuota, PaymentStore.received, kept]
    exact follows user
  · have before := follows user
    simp only [moved, PaymentStore.received, credited, List.filter_append, List.map_append, List.sum_append,
      before, Gateway.credit]
    by_cases own : user = settled.userId
    · simp [own, Int.add_assoc]
    · simp [own, Ne.symm own]

end Runs

/-- However often the gateway reports a pending order and whatever fails, the order
is credited at most once. An order that is stored as paid has been credited, as
long as no callback marks it and then fails to increase the quota. -/
theorem paid_order_credited_once (orders : Table TopUp.tradeNo) (quota : Int → Int) (topUp : TopUp)
    (found : orders.lookup topUp.tradeNo = some topUp) (pending : topUp.status = .pending)
    (callbacks : List Callback) :
    let final := run (PaymentStore.step gateway) (.start orders quota) callbacks
    (final.creditsOf topUp.tradeNo).length ≤ 1 ∧
      final.Follows quota ∧
      (0 ≤ gateway.quotaToAdd topUp → (∀ callback ∈ callbacks, callback.Completes) →
        ∀ order, final.orders.lookup topUp.tradeNo = some order → order.status = .success →
          final.creditsOf topUp.tradeNo = [⟨topUp.tradeNo, topUp.userId, gateway.quotaToAdd topUp⟩]) := by
  intro final
  refine ⟨?_, ?_, ?_⟩
  · have stage : Stage gateway True topUp final :=
      run_invariant (fun _ _ stage => step_preserves_stage stage (.inl trivial)) (.pending found rfl) callbacks
    cases stage with
    | pending _ uncredited | short _ uncredited _ => simp [uncredited]
    | paid _ credited => simp [credited]
  · have kept : ∀ (store : PaymentStore) (callback : Callback), store.Follows quota →
        (store.step gateway callback).Follows quota :=
      fun _ callback follows => step_preserves_received callback follows
    exact run_invariant kept (fun _ => (Int.add_zero _).symm) callbacks
  · intro payable complete order stored paid
    have guarded : Guarded (PaymentStore.step gateway) (fun _ callback => callback.Completes)
        (.start orders quota) callbacks := Guarded.of_forall complete
    have stage : Stage gateway False topUp final :=
      Guarded.invariant (fun _ _ stage completes => step_preserves_stage stage (.inr ⟨completes, payable⟩))
        (.pending found rfl) guarded
    cases stage with
    | pending own _ =>
      cases own.symm.trans stored
      cases pending.symm.trans paid
    | paid _ credited => exact credited
    | short _ _ lapsed => exact lapsed.elim

/-! One order, reported by a gateway whose signatures all verify. -/

def openGateway (onlinePayProvider : String) : Gateway where
  onlinePayProvider
  quotaPerUnit := 500000
  verifyYipayNotify _ := true
  epayClient := some fun params => .ok ⟨true, true, param params "out_trade_no"⟩

def pendingOrder : TopUp where
  id := 1
  userId := 7
  amount := 2
  money := 14
  tradeNo := "order"
  paymentMethod := "alipay"
  createTime := 1000
  completeTime := 0
  status := .pending

def onlyOrder : Table TopUp.tradeNo := ⟨[pendingOrder], by decide⟩

def yipaySuccess : Callback := { params := some [("mchOrderNo", "order"), ("state", "2")] }

theorem paid_order_credited_once_repeated :
    let final := run (PaymentStore.step (openGateway "yipay")) (.start onlyOrder fun _ => 0)
      [{ yipaySuccess with update := some "timeout" }, yipaySuccess, yipaySuccess]
    final.creditsOf "order" = [⟨"order", 7, 1000000⟩] := by
  have amount : (openGateway "yipay").quotaToAdd pendingOrder = 1000000 := by decide +kernel
  have credited := (paid_order_credited_once (openGateway "yipay") onlyOrder (fun _ => 0) pendingOrder
    (by decide +kernel) rfl
    [{ yipaySuccess with update := some "timeout" }, yipaySuccess, yipaySuccess]).2.2 (by decide +kernel)
    (by decide +kernel) { pendingOrder with status := .success } (by decide +kernel) rfl
  rw [amount] at credited
  exact credited

/-- The first callback marks the order and then fails to reach the user row; the
gateway's repetition finds the order paid. -/
theorem paid_order_never_credited :
    let final := run (PaymentStore.step (openGateway "yipay")) (.start onlyOrder fun _ => 0)
      [{ yipaySuccess with increase := some "timeout" }, yipaySuccess]
    (final.orders.lookup "order").map TopUp.status = some .success ∧ final.creditsOf "order" = [] ∧
      final.quota 7 = 0 := by
  decide +kernel

end TokenFactory.Payment
