import TokenFactory.Subscription.Period

namespace TokenFactory.Subscription

open Data Go

/-! The transactions of `model/subscription.go`, one function per transaction.

Each takes the database before and returns its answer with the database after;
an error leaves the database as it was, which is the rollback. `fault` makes a
statement inside the transaction fail with that text. -/

abbrev Tx (α : Type) := Except TxError α × Database

def activeAt (now : Int) (sub : UserSubscription) : Bool :=
  sub.status = .active ∧ sub.endTime > now

def byEndTime (left right : UserSubscription) : Prop :=
  left.endTime < right.endTime ∨ (left.endTime = right.endTime ∧ left.id ≤ right.id)

instance (left right : UserSubscription) : Decidable (byEndTime left right) :=
  inferInstanceAs (Decidable (_ ∨ _))

def hasActiveUserSubscription (db : Database) (now userId : Int) : Bool :=
  db.subscriptions.rows.any fun sub => sub.userId = userId && activeAt now sub

def getUserGroupByIdTx (db : Database) (userId : Int) : String := (db.group userId).getD ""

/-- The group a downgrade answers with, empty when the user keeps theirs. -/
def downgradeUserGroupForSubscriptionTx (db : Database) (sub : UserSubscription) (now : Int) :
    String × Database :=
  let upgradeGroup := trimSpace sub.upgradeGroup
  let currentGroup := getUserGroupByIdTx db sub.userId
  let prevGroup := trimSpace sub.prevUserGroup
  if upgradeGroup = "" then ("", db)
  else if currentGroup ≠ upgradeGroup then ("", db)
  else if db.subscriptions.rows.any fun other =>
      other.userId = sub.userId && activeAt now other && other.id ≠ sub.id &&
        other.upgradeGroup ≠ "" then ("", db)
  else if prevGroup = "" ∨ prevGroup = currentGroup then ("", db)
  else (prevGroup, db.setGroup sub.userId prevGroup)

def displaces (db : Database) (userId : Int) (plan : SubscriptionPlan) : Bool :=
  trimSpace plan.upgradeGroup ≠ "" ∧ getUserGroupByIdTx db userId ≠ trimSpace plan.upgradeGroup

def purchasedRow (env : Env) (db : Database) (userId : Int) (plan : SubscriptionPlan)
    (source : String) (endUnix id : Int) : UserSubscription :=
  let nextReset := calcNextResetTime env.location env.now plan endUnix
  { id
    userId
    planId := plan.id
    amountTotal := plan.totalAmount
    amountUsed := 0
    startTime := env.now
    endTime := endUnix
    status := .active
    source
    lastResetTime := if nextReset > 0 then env.now else 0
    nextResetTime := nextReset
    upgradeGroup := trimSpace plan.upgradeGroup
    prevUserGroup := if displaces db userId plan then getUserGroupByIdTx db userId else "" }

def createUserSubscriptionFromPlanTx (env : Env) (db : Database) (userId : Int)
    (plan : SubscriptionPlan) (source : String) : Tx UserSubscription :=
  if plan.id = 0 then (.error (.message "invalid plan"), db)
  else if userId ≤ 0 then (.error (.message "invalid user id"), db)
  else if plan.maxPurchasePerUser > 0 ∧ plan.maxPurchasePerUser ≤
      (db.subscriptions.rows.filter fun sub => sub.userId = userId && sub.planId = plan.id).length then
    (.error (.message "已达到该套餐购买上限"), db)
  else
    match calcPlanEndTime env.location env.now plan with
    | .error reason => (.error reason, db)
    | .ok endUnix =>
      let moved :=
        if displaces db userId plan then db.setGroup userId (trimSpace plan.upgradeGroup) else db
      (.ok (purchasedRow env db userId plan source endUnix moved.nextId),
        moved.createSubscription (purchasedRow env db userId plan source endUnix) fun _ => rfl)

def adminInvalidateUserSubscription (env : Env) (db : Database) (id : Int) : Tx String :=
  if id ≤ 0 then (.error (.message "invalid userSubscriptionId"), db)
  else
    match db.subscription? id with
    | none => (.error (.message "record not found"), db)
    | some found =>
      let sub := { found with status := .cancelled, endTime := env.now }
      let downgraded :=
        downgradeUserGroupForSubscriptionTx (db.saveSubscription sub) sub env.now
      (.ok downgraded.1, downgraded.2)

def adminDeleteUserSubscription (env : Env) (db : Database) (id : Int) : Tx String :=
  if id ≤ 0 then (.error (.message "invalid userSubscriptionId"), db)
  else
    match db.subscription? id with
    | none => (.error (.message "record not found"), db)
    | some sub =>
      let downgraded := downgradeUserGroupForSubscriptionTx db sub env.now
      (.ok downgraded.1, downgraded.2.deleteSubscription id)

def expiryDue (now : Int) (sub : UserSubscription) : Bool :=
  sub.status = .active ∧ sub.endTime > 0 ∧ sub.endTime ≤ now

def expireRow (now userId : Int) (sub : UserSubscription) : UserSubscription :=
  if sub.userId = userId ∧ expiryDue now sub then { sub with status := .expired } else sub

theorem expireRow_id (now userId : Int) (sub : UserSubscription) :
    (expireRow now userId sub).id = sub.id := by
  unfold expireRow
  split <;> rfl

def lastExpired (db : Database) (userId : Int) : Option UserSubscription :=
  ((db.subscriptions.rows.filter fun sub =>
    sub.userId = userId && sub.status = .expired && sub.upgradeGroup ≠ "").insertionSort
      fun left right => byEndTime right left).head?

def markExpired (now userId : Int) (db : Database) : Database :=
  db.updateSubscriptions (expireRow now userId) (expireRow_id now userId)

/-- The transaction of one user inside `ExpireDueSubscriptions`. -/
def expireUserTx (now : Int) (db : Database) (userId : Int) : Database :=
  let after := markExpired now userId db
  if after.subscriptions.rows.any fun sub =>
      sub.userId = userId && activeAt now sub && sub.upgradeGroup ≠ "" then after
  else
    match lastExpired after userId with
    | none => after
    | some last =>
      let upgradeGroup := trimSpace last.upgradeGroup
      let prevGroup := trimSpace last.prevUserGroup
      let currentGroup := getUserGroupByIdTx after userId
      if upgradeGroup = "" ∨ prevGroup = "" then after
      else if currentGroup ≠ upgradeGroup ∨ currentGroup = prevGroup then after
      else after.setGroup userId prevGroup

def batchSize (limit : Int) : Nat := if limit ≤ 0 then 200 else limit.toNat

/-- The users whose due rows are in the batch; the source keeps them in a map,
so their order is free, and each transaction only touches its own user. -/
def dueUsers (now : Int) (db : Database) (limit : Int) : List Int :=
  ((((db.subscriptions.rows.filter (expiryDue now)).insertionSort byEndTime).take
    (batchSize limit)).map UserSubscription.userId).dedup.filter fun userId => userId > 0

def expireDueSubscriptions (env : Env) (db : Database) (limit : Int) : Database :=
  (dueUsers env.now db limit).foldl (expireUserTx env.now) db

structure SubscriptionPreConsumeResult where
  userSubscriptionId : Int
  preConsumed : Int
  amountTotal : Int
  amountUsedBefore : Int
  amountUsedAfter : Int
deriving DecidableEq

def lacksQuota (amount : Int) (sub : UserSubscription) : Bool :=
  sub.amountTotal > 0 ∧ sub.amountTotal - sub.amountUsed < amount

/-- The candidate loop: the rows that were checked for a reset and passed over,
then the row that has room for the amount. -/
def selectCandidate (env : Env) (amount : Int) :
    List UserSubscription → Except TxError (List ResetCheck × ResetCheck)
  | [] => .error (.message ("subscription quota insufficient, need=" ++ toString amount))
  | candidate :: rest =>
    match env.plan candidate.planId with
    | none => .error (.message "record not found")
    | some plan =>
      match maybeResetUserSubscriptionWithPlanTx env candidate plan with
      | none => .error .diverges
      | some check =>
        if lacksQuota amount check.sub then
          match selectCandidate env amount rest with
          | .error reason => .error reason
          | .ok (passed, chosen) => .ok (check :: passed, chosen)
        else .ok ([], check)

def candidates (env : Env) (db : Database) (userId : Int) : List UserSubscription :=
  (db.subscriptions.rows.filter fun sub => sub.userId = userId && activeAt env.now sub).insertionSort
    byEndTime

def Database.saveChecks (db : Database) (checks : List ResetCheck) : Database :=
  checks.foldl (fun db check => db.saveSubscription check.sub) db

def preConsumeUserSubscription (env : Env) (fault : Option String) (db : Database)
    (requestId : String) (userId amount : Int) : Tx SubscriptionPreConsumeResult :=
  if userId ≤ 0 then (.error (.message "invalid userId"), db)
  else if trimSpace requestId = "" then (.error (.message "requestId is empty"), db)
  else if checked : amount ≤ 0 then (.error (.message "amount must be > 0"), db)
  else
    match fault with
    | some text => (.error (.message text), db)
    | none =>
      match db.record? requestId with
      | some existing =>
        if existing.status = .refunded then
          (.error (.message "subscription pre-consume already refunded"), db)
        else
          match db.subscription? existing.userSubscriptionId with
          | none => (.error (.message "record not found"), db)
          | some sub => (.ok {
              userSubscriptionId := sub.id
              preConsumed := existing.preConsumed
              amountTotal := sub.amountTotal
              amountUsedBefore := sub.amountUsed
              amountUsedAfter := sub.amountUsed }, db)
      | none =>
        if (candidates env db userId).isEmpty then
          (.error (.message "no active subscription"), db)
        else
          match selectCandidate env amount (candidates env db userId) with
          | .error reason => (.error reason, db)
          | .ok (passed, chosen) =>
            let charged := { chosen.sub with amountUsed := chosen.sub.amountUsed + amount }
            let after := (db.saveChecks passed).saveSubscription charged
            (.ok {
              userSubscriptionId := charged.id
              preConsumed := amount
              amountTotal := charged.amountTotal
              amountUsedBefore := chosen.sub.amountUsed
              amountUsedAfter := charged.amountUsed },
            after.createRecord {
              requestId
              userId
              userSubscriptionId := charged.id
              preConsumed := amount
              status := .consumed
              positive := Int.not_le.mp checked })

/-- The usage after a delta, or `none` when it would pass the total. -/
def usedAfter (sub : UserSubscription) (delta : Int) : Option Int :=
  let newUsed := max (sub.amountUsed + delta) 0
  if sub.amountTotal > 0 ∧ newUsed > sub.amountTotal then none else some newUsed

def postConsumeUserSubscriptionDelta (fault : Option String) (db : Database) (id delta : Int) :
    Tx Unit :=
  if id ≤ 0 then (.error (.message "invalid userSubscriptionId"), db)
  else if delta = 0 then (.ok (), db)
  else
    match fault with
    | some text => (.error (.message text), db)
    | none =>
      match db.subscription? id with
      | none => (.error (.message "record not found"), db)
      | some sub =>
        match usedAfter sub delta with
        | none => (.error (.message ("subscription used exceeds total, used=" ++
            toString (max (sub.amountUsed + delta) 0) ++ " total=" ++
            toString sub.amountTotal)), db)
        | some newUsed => (.ok (), db.saveSubscription { sub with amountUsed := newUsed })

/-- Where a call of `RefundSubscriptionPreConsume` fails. The delta runs in a
transaction of its own, which is committed before the record is saved. -/
structure RefundFaults where
  lookup : Option String := none
  delta : Option String := none
  save : Option String := none
deriving DecidableEq

def refundDelta (faults : RefundFaults) (db : Database) (record : SubscriptionPreConsumeRecord) :
    Tx Unit :=
  if record.preConsumed ≤ 0 then (.ok (), db)
  else postConsumeUserSubscriptionDelta faults.delta db record.userSubscriptionId
    (-record.preConsumed)

def refundSubscriptionPreConsume (faults : RefundFaults) (db : Database) (requestId : String) :
    Tx Unit :=
  if trimSpace requestId = "" then (.error (.message "requestId is empty"), db)
  else
    match faults.lookup with
    | some text => (.error (.message text), db)
    | none =>
      match db.record? requestId with
      | none => (.error (.message "record not found"), db)
      | some record =>
        if record.status = .refunded then (.ok (), db)
        else
          match refundDelta faults db record with
          | (.error reason, after) => (.error reason, after)
          | (.ok (), after) =>
            match faults.save with
            | some text => (.error (.message text), after)
            | none => (.ok (), after.saveRecord { record with status := .refunded })

def resetDue (now : Int) (sub : UserSubscription) : Bool :=
  sub.nextResetTime > 0 ∧ sub.nextResetTime ≤ now

/-- The transaction of one row inside `ResetDueSubscriptions`: the row is read
again by id, and a row that is no longer due is left alone. -/
def resetOneTx (env : Env) (db : Database) (id : Int) (plan : SubscriptionPlan) :
    Except TxError (Option ResetCheck) :=
  match (db.subscription? id).filter (resetDue env.now) with
  | none => .ok none
  | some locked =>
    match maybeResetUserSubscriptionWithPlanTx env locked plan with
    | none => .error .diverges
    | some check => .ok (some check)

/-- The checks that were committed, in order; a reset that does not return ends
the loop. -/
def resetRows (env : Env) (db : Database) : List UserSubscription → List ResetCheck × Database
  | [] => ([], db)
  | sub :: rest =>
    match env.plan sub.planId with
    | none => resetRows env db rest
    | some plan =>
      match resetOneTx env db sub.id plan with
      | .error _ => ([], db)
      | .ok none => resetRows env db rest
      | .ok (some check) =>
        let later := resetRows env (db.saveSubscription check.sub) rest
        (check :: later.1, later.2)

def dueRows (env : Env) (db : Database) (limit : Int) : List UserSubscription :=
  ((db.subscriptions.rows.filter fun sub => resetDue env.now sub && sub.status = .active).insertionSort
    fun left right => left.nextResetTime ≤ right.nextResetTime).take (batchSize limit)

def resetDueSubscriptions (env : Env) (db : Database) (limit : Int) : List ResetCheck × Database :=
  resetRows env db (dueRows env db limit)

end TokenFactory.Subscription
