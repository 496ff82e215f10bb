import TokenFactory.Go.Errors
import TokenFactory.Payment.Notify
import TokenFactory.Subscription.Transactions

namespace TokenFactory.Subscription

open Data Go Payment

/-! Subscription orders: a payment callback completes a pending order and buys
its subscription in the same transaction, or the order expires; an administrator
binds a subscription without an order. -/

structure SubscriptionOrder where
  id : Int
  userId : Int
  planId : Int
  money : Rat
  tradeNo : String
  paymentMethod : String
  status : TopUpStatus
  createTime : Int
  completeTime : Int
  providerPayload : String
deriving DecidableEq

/-- Where a transaction fails: a statement of it, or the commit at its end. -/
structure OrderFaults where
  lookup : Option String := none
  plan : Option String := none
  create : Option String := none
  topUp : Option String := none
  save : Option String := none
  commit : Option String := none
deriving DecidableEq

/-- What one attempt at a transaction finds: the clock, the zone, the plans in
the plan table or its cache, the id of a new top-up row, and its faults. -/
structure Attempt where
  now : Int
  location : Location
  plans : Table SubscriptionPlan.id
  topUpId : Int
  faults : OrderFaults

def Attempt.env (attempt : Attempt) : Env := ⟨attempt.now, attempt.location, attempt.plans.lookup⟩

/-- No column links an order and the subscription that its completion created. -/
structure OrderBook where
  db : Database
  orders : Table SubscriptionOrder.tradeNo
  topUps : Table TopUp.tradeNo

def refuseFault : Option String → Except TxError Unit
  | none => .ok ()
  | some text => .error (.message text)

def Database.held (db : Database) (userId planId : Int) : Nat :=
  (db.subscriptions.rows.filter fun sub => sub.userId = userId && sub.planId = planId).length

namespace OrderBook

variable (attempt : Attempt) (book : OrderBook)

/-- Any failure of the read is reported as a missing order. -/
def findOrder (tradeNo : String) : Except TxError SubscriptionOrder :=
  match attempt.faults.lookup, book.orders.lookup tradeNo with
  | none, some order => .ok order
  | _, _ => .error (.message "subscription order not found")

def getSubscriptionPlanById (id : Int) : Except TxError SubscriptionPlan := do
  refuseIf (id ≤ 0) (.message "invalid plan id")
  refuseFault attempt.faults.plan
  match attempt.plans.lookup id with
  | none => .error (.message "record not found")
  | some plan => .ok plan

/-- `CreateUserSubscriptionFromPlanTx` inside a transaction that may fail in it. -/
def createSubscription (userId : Int) (plan : SubscriptionPlan) (source : String) :
    Except TxError (UserSubscription × Database) := do
  refuseFault attempt.faults.create
  match createUserSubscriptionFromPlanTx attempt.env book.db userId plan source with
  | (.error reason, _) => .error reason
  | (.ok sub, db) => .ok (sub, db)

def upsertSubscriptionTopUpTx (order : SubscriptionOrder) : Except TxError (Table TopUp.tradeNo) := do
  refuseFault attempt.faults.topUp
  match book.topUps.lookup order.tradeNo with
  | none => .ok (book.topUps.insert {
      id := attempt.topUpId
      userId := order.userId
      amount := 0
      money := order.money
      tradeNo := order.tradeNo
      paymentMethod := order.paymentMethod
      createTime := order.createTime
      completeTime := attempt.now
      status := .success })
  | some topUp => .ok (book.topUps.save { topUp with
      money := order.money
      paymentMethod := if topUp.paymentMethod = "" then order.paymentMethod else topUp.paymentMethod
      createTime := if topUp.createTime = 0 then order.createTime else topUp.createTime
      completeTime := attempt.now
      status := .success })

def completedOrder (order : SubscriptionOrder) (providerPayload : String) : SubscriptionOrder :=
  { order with
    status := .success
    completeTime := attempt.now
    providerPayload := if providerPayload ≠ "" then providerPayload else order.providerPayload }

def completeSubscriptionOrder (tradeNo providerPayload : String) : Except TxError OrderBook := do
  refuseIf (tradeNo = "") (.message "tradeNo is empty")
  let order ← book.findOrder attempt tradeNo
  if order.status = .success then
    refuseFault attempt.faults.commit
    return book
  refuseIf (order.status ≠ .pending) (.message "subscription order status invalid")
  -- a plan that was disabled after the payment is still delivered
  let plan ← getSubscriptionPlanById attempt order.planId
  let (_, db) ← book.createSubscription attempt order.userId plan "order"
  let topUps ← book.upsertSubscriptionTopUpTx attempt order
  refuseFault attempt.faults.save
  refuseFault attempt.faults.commit
  return {
    db
    orders := book.orders.save (completedOrder attempt order providerPayload)
    topUps }

def expireSubscriptionOrder (tradeNo : String) : Except TxError OrderBook := do
  refuseIf (tradeNo = "") (.message "tradeNo is empty")
  let order ← book.findOrder attempt tradeNo
  if order.status ≠ .pending then
    refuseFault attempt.faults.commit
    return book
  refuseFault attempt.faults.save
  refuseFault attempt.faults.commit
  return { book with orders := book.orders.save { order with
    status := .expired
    completeTime := attempt.now } }

/-- The answer is the text for the administrator. The source does not read its
note argument. -/
def adminBindSubscription (userId planId : Int) : Except TxError (String × OrderBook) := do
  refuseIf (userId ≤ 0 ∨ planId ≤ 0) (.message "invalid userId or planId")
  let plan ← getSubscriptionPlanById attempt planId
  let (_, db) ← book.createSubscription attempt userId plan "admin"
  refuseFault attempt.faults.commit
  let answer := if trimSpace plan.upgradeGroup ≠ "" then "用户分组将升级到 " ++ plan.upgradeGroup else ""
  return (answer, { book with db })

end OrderBook

inductive OrderCall where
  | completeSubscriptionOrder (tradeNo providerPayload : String)
  | expireSubscriptionOrder (tradeNo : String)
  | adminBindSubscription (userId planId : Int)
deriving DecidableEq

structure OrderTransaction where
  attempt : Attempt
  call : OrderCall

namespace OrderBook

def perform (book : OrderBook) (attempt : Attempt) : OrderCall → Except TxError OrderBook
  | .completeSubscriptionOrder tradeNo providerPayload =>
    book.completeSubscriptionOrder attempt tradeNo providerPayload
  | .expireSubscriptionOrder tradeNo => book.expireSubscriptionOrder attempt tradeNo
  | .adminBindSubscription userId planId => (book.adminBindSubscription attempt userId planId).map Prod.snd

/-- A transaction that fails is rolled back. -/
def transact (book : OrderBook) (transaction : OrderTransaction) : OrderBook :=
  match book.perform transaction.attempt transaction.call with
  | .ok after => after
  | .error _ => book

end OrderBook

/-- A subscription was bought: its row is appended, within the limit of its plan. -/
structure Bought (plans : Table SubscriptionPlan.id) (db : Database) (userId planId : Int)
    (source : String) (sub : UserSubscription) (after : Database) : Prop where
  owner : sub.userId = userId
  bought : sub.planId = planId
  origin : sub.source = source
  rows : after.subscriptions.rows = db.subscriptions.rows ++ [sub]
  limited : ∃ plan ∈ plans, plan.id = planId ∧
    (0 < plan.maxPurchasePerUser → db.held userId planId < plan.maxPurchasePerUser)

/-- The columns of an order that no transaction writes. -/
def SubscriptionOrder.SameOrder (later order : SubscriptionOrder) : Prop :=
  later.tradeNo = order.tradeNo ∧ later.userId = order.userId ∧ later.planId = order.planId

/-- Everything that a transaction can make of the book. -/
inductive OrderChange (plans : Table SubscriptionPlan.id) (book : OrderBook) : OrderBook → Prop where
  | none : OrderChange plans book book
  | completed {order saved : SubscriptionOrder} {sub : UserSubscription} {db : Database}
      {topUps : Table TopUp.tradeNo} (found : order ∈ book.orders) (pending : order.status = .pending)
      (bought : Bought plans book.db order.userId order.planId "order" sub db)
      (same : saved.SameOrder order)
      (status : saved.status = .success) :
      OrderChange plans book {
        db
        orders := book.orders.save saved
        topUps }
  | expired {order saved : SubscriptionOrder} (found : order ∈ book.orders)
      (pending : order.status = .pending)
      (same : saved.SameOrder order)
      (status : saved.status = .expired) :
      OrderChange plans book { book with orders := book.orders.save saved }
  | bound {userId planId : Int} {sub : UserSubscription} {db : Database}
      (bought : Bought plans book.db userId planId "admin" sub db) :
      OrderChange plans book { book with db }

section Inversion

variable {env : Env} {db after : Database} {plan : SubscriptionPlan} {source : String}
  {userId planId : Int} {sub : UserSubscription}

theorem createUserSubscription_bought {plans : Table SubscriptionPlan.id} (listed : plan ∈ plans)
    (done : createUserSubscriptionFromPlanTx env db userId plan source = (.ok sub, after)) :
    Bought plans db userId plan.id source sub after := by
  unfold createUserSubscriptionFromPlanTx at done
  split at done
  · cases (Prod.mk.inj done).1
  split at done
  · cases (Prod.mk.inj done).1
  split at done
  · cases (Prod.mk.inj done).1
  rename_i room
  cases ends : calcPlanEndTime env.location env.now plan with
  | error reason =>
    rw [ends] at done
    cases (Prod.mk.inj done).1
  | ok endUnix =>
    rw [ends] at done
    obtain ⟨answer, stored⟩ := Prod.mk.inj done
    obtain rfl := Except.ok.inj answer
    generalize moved : (if displaces db userId plan then
      db.setGroup userId (trimSpace plan.upgradeGroup) else db) = between at stored
    have kept : between.subscriptions = db.subscriptions := by
      rw [← moved]
      split <;> rfl
    refine ⟨rfl, rfl, rfl, ?rows, ?limited⟩
    case rows =>
      rw [← stored, ← kept]
      exact Database.createSubscription_rows
    case limited =>
      refine ⟨plan, listed, rfl, fun positive => ?_⟩
      by_contra full
      exact room ⟨positive, not_lt.mp full⟩

variable {attempt : Attempt} {book : OrderBook} {order : SubscriptionOrder} {tradeNo : String}

theorem findOrder_ok (found : book.findOrder attempt tradeNo = .ok order) :
    order ∈ book.orders ∧ order.tradeNo = tradeNo := by
  unfold OrderBook.findOrder at found
  split at found
  · rename_i stored
    cases found
    exact Table.lookup_eq_some.mp stored
  · cases found

theorem getSubscriptionPlanById_ok {id : Int}
    (found : OrderBook.getSubscriptionPlanById attempt id = .ok plan) :
    plan ∈ attempt.plans ∧ plan.id = id := by
  simp only [OrderBook.getSubscriptionPlanById, bind_ok] at found
  obtain ⟨_, _, _, _, found⟩ := found
  split at found
  · cases found
  rename_i row stored
  cases found
  exact Table.lookup_eq_some.mp stored

theorem createSubscription_bought (listed : plan ∈ attempt.plans)
    (done : book.createSubscription attempt userId plan source = .ok (sub, after)) :
    Bought attempt.plans book.db userId plan.id source sub after := by
  simp only [OrderBook.createSubscription, bind_ok] at done
  obtain ⟨_, _, done⟩ := done
  split at done
  · cases done
  · rename_i bought
    cases done
    exact createUserSubscription_bought listed bought

end Inversion

section Steps

variable {attempt : Attempt} {book after : OrderBook}

theorem completeSubscriptionOrder_change {tradeNo providerPayload : String}
    (done : book.completeSubscriptionOrder attempt tradeNo providerPayload = .ok after) :
    OrderChange attempt.plans book after := by
  simp only [OrderBook.completeSubscriptionOrder, bind_ok] at done
  obtain ⟨_, _, order, found, done⟩ := done
  split at done
  · obtain ⟨_, _, done⟩ := bind_ok.mp done
    cases done
    exact .none
  · simp only [bind_ok, refuseIf_ok, not_not] at done
    obtain ⟨_, pending, plan, listed, ⟨sub, db⟩, bought, topUps, _, _, _, _, _, done⟩ := done
    cases done
    obtain ⟨among, named⟩ := getSubscriptionPlanById_ok listed
    have purchase := createSubscription_bought among bought
    rw [named] at purchase
    exact .completed (findOrder_ok found).1 pending purchase ⟨rfl, rfl, rfl⟩ rfl

theorem expireSubscriptionOrder_change {tradeNo : String}
    (done : book.expireSubscriptionOrder attempt tradeNo = .ok after) :
    OrderChange attempt.plans book after := by
  simp only [OrderBook.expireSubscriptionOrder, bind_ok] at done
  obtain ⟨_, _, order, found, done⟩ := done
  split at done
  · obtain ⟨_, _, done⟩ := bind_ok.mp done
    cases done
    exact .none
  · rename_i pending
    obtain ⟨_, _, done⟩ := bind_ok.mp done
    obtain ⟨_, _, done⟩ := bind_ok.mp done
    cases done
    exact .expired (findOrder_ok found).1 (not_not.mp pending) ⟨rfl, rfl, rfl⟩ rfl

theorem adminBindSubscription_change {userId planId : Int} {answer : String}
    (done : book.adminBindSubscription attempt userId planId = .ok (answer, after)) :
    OrderChange attempt.plans book after := by
  simp only [OrderBook.adminBindSubscription, bind_ok] at done
  obtain ⟨_, _, plan, listed, ⟨sub, db⟩, bought, _, _, done⟩ := done
  obtain ⟨_, rfl⟩ := Prod.mk.inj (Except.ok.inj done)
  exact .bound (createSubscription_bought (getSubscriptionPlanById_ok listed).1 bought)

theorem transact_change (book : OrderBook) (transaction : OrderTransaction) :
    OrderChange transaction.attempt.plans book (book.transact transaction) := by
  unfold OrderBook.transact
  cases performed : book.perform transaction.attempt transaction.call with
  | error reason => exact .none
  | ok after =>
    cases called : transaction.call with
    | completeSubscriptionOrder tradeNo providerPayload =>
      rw [called] at performed
      exact completeSubscriptionOrder_change performed
    | expireSubscriptionOrder tradeNo =>
      rw [called] at performed
      exact expireSubscriptionOrder_change performed
    | adminBindSubscription userId planId =>
      rw [called, OrderBook.perform] at performed
      cases bound : book.adminBindSubscription transaction.attempt userId planId with
      | error reason =>
        rw [bound] at performed
        cases performed
      | ok pair =>
        rw [bound] at performed
        obtain rfl : pair.2 = after := Except.ok.inj performed
        exact adminBindSubscription_change bound

end Steps

/-- The subscriptions of a plan that orders delivered to a user. -/
def Database.delivered (db : Database) (userId planId : Int) : Int :=
  db.subscriptions.sum fun sub =>
    if sub.userId = userId ∧ sub.planId = planId ∧ sub.source = "order" then 1 else 0

/-- The orders of a user for a plan that have turned to success since `start`. -/
def OrderBook.turned (book start : OrderBook) (userId planId : Int) : Int :=
  book.orders.sum fun order =>
    if order.userId = userId ∧ order.planId = planId ∧ order.status = .success ∧ order ∉ start.orders.rows
    then 1 else 0

section Runs

variable {plans : Table SubscriptionPlan.id} {book after : OrderBook} {db : Database}
  {userId planId : Int} {source : String} {sub : UserSubscription} {order saved : SubscriptionOrder}

section
variable {before : Database} (bought : Bought plans before userId planId source sub db)
include bought

theorem Bought.held (holder plan : Int) : db.held holder plan =
      before.held holder plan + if holder = userId ∧ plan = planId then 1 else 0 := by
  unfold Database.held
  rw [bought.rows, List.filter_append, List.length_append]
  by_cases same : holder = userId ∧ plan = planId
  · simp [bought.owner, bought.bought, same]
  · have apart : ¬ (sub.userId = holder ∧ sub.planId = plan) := by
      rw [bought.owner, bought.bought]
      exact fun equal => same ⟨equal.1.symm, equal.2.symm⟩
    rw [if_neg same, List.filter_cons_of_neg (by simpa using apart), List.filter_nil, List.length_nil]

theorem Bought.delivered (holder plan : Int) : db.delivered holder plan = before.delivered holder plan +
      if userId = holder ∧ planId = plan ∧ source = "order" then 1 else 0 := by
  simp only [Database.delivered, Table.sum, bought.rows, List.map_append, List.sum_append, List.map_singleton,
    List.sum_singleton, bought.owner, bought.bought, bought.origin]

end

theorem settled_order_kept (change : OrderChange plans book after) (among : order ∈ book.orders)
    (settled : order.status ≠ .pending) : order ∈ after.orders := by
  have untouched : ∀ {written saved : SubscriptionOrder}, written ∈ book.orders →
      written.status = .pending → saved.tradeNo = written.tradeNo → order ∈ book.orders.save saved := by
    intro written saved found pending same
    refine Table.mem_save.mpr (.inr ⟨among, fun equal => settled ?_⟩)
    rw [book.orders.eq_of_key among found (equal.trans same), pending]
  cases change with
  | none => exact among
  | completed found pending _ same _ => exact untouched found pending same.1
  | expired found pending same _ => exact untouched found pending same.1
  | bound _ => exact among

/-- A transaction delivers one subscription with each order that it turns to success, and no other.
What was settled at the start is still there, so an order that turns is not one of the start. -/
theorem delivered_change {start : OrderBook} (change : OrderChange plans book after)
    (kept : ∀ order ∈ start.orders, order.status ≠ .pending → order ∈ book.orders) :
    after.db.delivered userId planId - book.db.delivered userId planId =
      after.turned start userId planId - book.turned start userId planId := by
  cases change with
  | none => simp
  | @completed order saved sub db topUps found pending bought same status =>
    have new : saved ∉ start.orders.rows := by
      intro old
      have present := kept saved old (by simp [status])
      rw [book.orders.eq_of_key present found same.1, pending] at status
      cases status
    rw [bought.delivered, OrderBook.turned, OrderBook.turned,
      Table.sum_save (Table.lookup_eq_some.mpr ⟨found, same.1.symm⟩)]
    simp [pending, status, same.2.1, same.2.2, new]
  | expired found pending same status =>
    rw [OrderBook.turned, OrderBook.turned, Table.sum_save (Table.lookup_eq_some.mpr ⟨found, same.1.symm⟩)]
    simp [pending, status]
  | bound bought =>
    rw [bought.delivered]
    simp [OrderBook.turned]

theorem held_change {limit : Int} (change : OrderChange plans book after)
    (fixed : ∀ plan ∈ plans, plan.id = planId → plan.maxPurchasePerUser = limit) (positive : 0 < limit)
    (within : book.db.held userId planId ≤ limit) : after.db.held userId planId ≤ limit := by
  have purchase : ∀ {owner boughtPlan : Int} {source : String} {sub : UserSubscription} {db : Database},
      Bought plans book.db owner boughtPlan source sub db → db.held userId planId ≤ limit := by
    intro owner boughtPlan source sub db bought
    rw [bought.held]
    split
    · rename_i same
      obtain ⟨rfl, rfl⟩ := same
      obtain ⟨plan, listed, named, room⟩ := bought.limited
      rw [fixed plan listed named] at room
      omega
    · exact within
  cases change with
  | none => exact within
  | completed _ _ bought _ _ => exact purchase bought
  | expired _ _ _ _ => exact within
  | bound bought => exact purchase bought

theorem run_settled_order_kept {start : OrderBook} (transactions : List OrderTransaction)
    (among : order ∈ start.orders) (settled : order.status ≠ .pending) :
    order ∈ (run OrderBook.transact start transactions).orders :=
  @run_invariant _ _ OrderBook.transact (fun book => order ∈ book.orders) start
    (fun book transaction present => settled_order_kept (transact_change book transaction) present settled)
    among transactions

theorem run_delivered (start : OrderBook) (transactions : List OrderTransaction) (userId planId : Int) :
    let final := run OrderBook.transact start transactions
    final.db.delivered userId planId = start.db.delivered userId planId + final.turned start userId planId := by
  intro final
  have invariant := @run_invariant _ _ OrderBook.transact
    (fun book => (∀ order ∈ start.orders, order.status ≠ .pending → order ∈ book.orders) ∧
      book.db.delivered userId planId = start.db.delivered userId planId + book.turned start userId planId) start
    (fun book transaction ⟨kept, delivered⟩ => by
      have change := transact_change book transaction
      refine ⟨fun order among settled => settled_order_kept change (kept order among settled) settled, ?_⟩
      have := @delivered_change _ _ _ userId planId _ change kept
      omega)
    ⟨fun _ among _ => among, by
      rw [OrderBook.turned, Table.sum_eq_zero fun order among => if_neg fun turned => turned.2.2.2 among, add_zero]⟩
    transactions
  exact invariant.2

theorem run_held {start : OrderBook} {limit : Int} {transactions : List OrderTransaction}
    (fixed : ∀ transaction ∈ transactions, ∀ plan ∈ transaction.attempt.plans,
      plan.id = planId → plan.maxPurchasePerUser = limit)
    (positive : 0 < limit) (within : start.db.held userId planId ≤ limit) :
    (run OrderBook.transact start transactions).db.held userId planId ≤ limit := by
  induction transactions generalizing start with
  | nil => exact within
  | cons transaction rest ih =>
    refine ih (fun other member => fixed other (.tail _ member)) ?_
    exact held_change (transact_change start transaction) (fixed transaction (.head _)) positive within

end Runs

/-- Whatever callbacks, expiries and bindings follow each other, failing or repeated: every order
that turns to success has delivered one subscription, of its user and plan, and no other order has
delivered any; an order that was settled stays as it is, and the purchase limit of a plan holds for
every user. -/
theorem subscription_orders_settle_once (start : OrderBook)
    (planId limit : Int) (positive : 0 < limit)
    (within : ∀ userId, start.db.held userId planId ≤ limit) (earlier later : List OrderTransaction)
    (fixed : ∀ transaction ∈ earlier ++ later, ∀ plan ∈ transaction.attempt.plans,
      plan.id = planId → plan.maxPurchasePerUser = limit) :
    let reached := run OrderBook.transact start earlier
    let final := run OrderBook.transact start (earlier ++ later)
    (∀ userId planId, final.db.delivered userId planId =
      start.db.delivered userId planId + final.turned start userId planId) ∧
      (∀ order ∈ reached.orders, order.status = .success ∨ order.status = .expired →
        order ∈ final.orders) ∧
      ∀ userId, final.db.held userId planId ≤ limit := by
  intro reached final
  refine ⟨run_delivered start (earlier ++ later), fun order among settled => ?_,
    fun userId => run_held fixed positive (within userId)⟩
  have left : order.status ≠ .pending := by
    rcases settled with done | done <;> simp [done]
  change order ∈ (run OrderBook.transact start (earlier ++ later)).orders
  rw [run_append]
  exact run_settled_order_kept later among left

/-! A plan that may be bought once, and an order for it. -/

def onceOnly : SubscriptionPlan where
  id := 1
  durationUnit := .day
  durationValue := 30
  customSeconds := 0
  maxPurchasePerUser := 1
  upgradeGroup := ""
  totalAmount := 100
  quotaResetPeriod := "never"
  quotaResetCustomSeconds := 0

def attemptAt (now : Int) (faults : OrderFaults) : Attempt where
  now
  location := .fixed 0
  plans := Table.empty.insert onceOnly
  topUpId := 1
  faults

def paidOrder : SubscriptionOrder where
  id := 1
  userId := 7
  planId := 1
  money := 5
  tradeNo := "SUB1"
  paymentMethod := "stripe"
  status := .pending
  createTime := 900
  completeTime := 0
  providerPayload := ""

def openingBook : OrderBook where
  db := .empty fun _ => some "default"
  orders := Table.empty.insert paidOrder
  topUps := .empty

/-- A failed callback, its retry and a repetition; then a binding over the limit. -/
theorem subscription_orders_settle_once_retried :
    let callback := OrderCall.completeSubscriptionOrder "SUB1" "paid"
    let calls : List OrderTransaction :=
      [⟨attemptAt 1000 { save := some "connection lost" }, callback⟩, ⟨attemptAt 1001 {}, callback⟩]
    let later : List OrderTransaction :=
      [⟨attemptAt 1002 {}, callback⟩, ⟨attemptAt 1003 {}, .adminBindSubscription 7 1⟩]
    let final := run OrderBook.transact openingBook (calls ++ later)
    final.db.delivered 7 1 = 1 ∧ final.turned openingBook 7 1 = 1 ∧ final.db.held 7 1 ≤ (1 : Int) := by
  intro callback calls later final
  have fixed : ∀ transaction ∈ calls ++ later, ∀ plan ∈ transaction.attempt.plans,
      plan.id = 1 → plan.maxPurchasePerUser = 1 := by
    intro transaction member plan listed _
    have plans : transaction.attempt.plans = Table.empty.insert onceOnly := by
      simp only [calls, later, List.cons_append, List.nil_append, List.mem_cons, List.not_mem_nil, or_false]
        at member
      rcases member with rfl | rfl | rfl | rfl <;> rfl
    rw [plans] at listed
    rcases Table.mem_of_mem_insert listed with nowhere | rfl
    · exact absurd nowhere Table.not_mem_empty
    · rfl
  have kept := subscription_orders_settle_once openingBook 1 1 (by decide)
    (fun userId => by simp [openingBook, Database.held, Database.empty, Table.empty]) calls later fixed
  have delivered : final.db.delivered 7 1 = 1 := by decide +kernel
  have opening : openingBook.db.delivered 7 1 = 0 := by decide
  have total : final.db.delivered 7 1 = openingBook.db.delivered 7 1 + final.turned openingBook 7 1 := kept.1 7 1
  exact ⟨delivered, by omega, kept.2.2 7⟩

end TokenFactory.Subscription
