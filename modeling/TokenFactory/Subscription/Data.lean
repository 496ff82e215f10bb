import TokenFactory.Data.Table
import TokenFactory.Go.Text
import TokenFactory.Go.Time

namespace TokenFactory.Subscription

open Data Go

inductive DurationUnit where
  | year
  | month
  | day
  | hour
  | custom
  | invalid (text : String)
deriving DecidableEq

inductive ResetPeriod where
  | never
  | daily
  | weekly
  | monthly
  | custom
deriving DecidableEq

/-- The columns of a plan that its subscriptions are computed from. -/
structure SubscriptionPlan where
  id : Int
  durationUnit : DurationUnit
  durationValue : Int
  customSeconds : Int
  maxPurchasePerUser : Int
  upgradeGroup : String
  totalAmount : Int
  quotaResetPeriod : String
  quotaResetCustomSeconds : Int
deriving DecidableEq

inductive SubscriptionStatus where
  | active
  | expired
  | cancelled
deriving DecidableEq

structure UserSubscription where
  id : Int
  userId : Int
  planId : Int
  amountTotal : Int
  amountUsed : Int
  startTime : Int
  endTime : Int
  status : SubscriptionStatus
  source : String
  lastResetTime : Int
  nextResetTime : Int
  upgradeGroup : String
  prevUserGroup : String
deriving DecidableEq

inductive RecordStatus where
  | consumed
  | refunded
deriving DecidableEq

/-- One idempotent pre-consume operation; the request id is its unique index.
Only `PreConsumeUserSubscription` inserts one, for an amount it has checked. -/
structure SubscriptionPreConsumeRecord where
  requestId : String
  userId : Int
  userSubscriptionId : Int
  preConsumed : Int
  status : RecordStatus
  positive : 0 < preConsumed
deriving DecidableEq

/-- The tables the subscription code reads and writes. A user without a row has
no group; ids come from the auto-increment counter `nextId`. -/
structure Database where
  subscriptions : Table UserSubscription.id
  records : Table SubscriptionPreConsumeRecord.requestId
  group : Int → Option String
  nextId : Int
  started : 0 < nextId
  assigned : ∀ sub ∈ subscriptions, 0 < sub.id ∧ sub.id < nextId

namespace Database

def empty (group : Int → Option String) : Database where
  subscriptions := .empty
  records := .empty
  group
  nextId := 1
  started := by decide
  assigned := fun _ member => absurd member Table.not_mem_empty

section
variable (db : Database)

def subscription? (id : Int) : Option UserSubscription :=
  db.subscriptions.lookup id

def record? (requestId : String) : Option SubscriptionPreConsumeRecord :=
  db.records.lookup requestId

def saveSubscription (sub : UserSubscription) : Database :=
  { db with
    subscriptions := db.subscriptions.save sub
    assigned := fun row member => by
      rcases Table.mem_save.mp member with ⟨rfl, old, present, same⟩ | ⟨present, _⟩
      · exact same ▸ db.assigned old present
      · exact db.assigned row present }

def updateSubscriptions (change : UserSubscription → UserSubscription)
    (keeps : ∀ sub, (change sub).id = sub.id) : Database :=
  { db with
    subscriptions := db.subscriptions.update change keeps
    assigned := fun row member => by
      obtain ⟨old, present, rfl⟩ := Table.mem_update.mp member
      exact keeps old ▸ db.assigned old present }

def deleteSubscription (id : Int) : Database :=
  { db with
    subscriptions := db.subscriptions.restrict fun sub => sub.id ≠ id
    assigned := fun row member => db.assigned row (Table.mem_restrict.mp member).1 }

/-- The new row takes its id from the counter. -/
def createSubscription (row : Int → UserSubscription)
    (numbered : ∀ id, (row id).id = id) : Database :=
  { db with
    subscriptions := db.subscriptions.insert (row db.nextId)
    nextId := db.nextId + 1
    started := by have := db.started; omega
    assigned := fun sub member => by
      have := db.started
      rcases Table.mem_of_mem_insert member with present | rfl
      · have := db.assigned sub present
        omega
      · rw [numbered]
        omega }

def createRecord (record : SubscriptionPreConsumeRecord) : Database :=
  { db with records := db.records.insert record }

def saveRecord (record : SubscriptionPreConsumeRecord) : Database :=
  { db with records := db.records.save record }

def setGroup (userId : Int) (group : String) : Database :=
  { db with group := fun id => if id = userId then (db.group id).map fun _ => group else db.group id }

end

section Frame

variable (db : Database) (sub : UserSubscription) (record : SubscriptionPreConsumeRecord)

@[simp] theorem saveSubscription_subscriptions :
    (db.saveSubscription sub).subscriptions = db.subscriptions.save sub := rfl

@[simp] theorem createRecord_subscriptions :
    (db.createRecord record).subscriptions = db.subscriptions := rfl

end Frame

theorem mem_deleteSubscription {db : Database} {id : Int} {sub : UserSubscription} :
    sub ∈ (db.deleteSubscription id).subscriptions ↔ sub ∈ db.subscriptions ∧ sub.id ≠ id := by
  rw [deleteSubscription, Table.mem_restrict, decide_eq_true_eq]

@[simp] theorem deleteSubscription_group (db : Database) (id : Int) :
    (db.deleteSubscription id).group = db.group := rfl

section

variable {db : Database} {row : Int → UserSubscription} {numbered : ∀ id, (row id).id = id}

theorem createSubscription_rows :
    (db.createSubscription row numbered).subscriptions.rows = db.subscriptions.rows ++ [row db.nextId] := by
  have free : db.subscriptions.lookup (row db.nextId).id = none := by
    rw [numbered]
    refine Table.lookup_eq_none.mpr fun other member => ?_
    have := db.assigned other member
    omega
  change (db.subscriptions.insert (row db.nextId)).rows = _
  rw [Table.insert, dif_pos free]

theorem mem_createSubscription {sub : UserSubscription} :
    sub ∈ (db.createSubscription row numbered).subscriptions ↔
      sub ∈ db.subscriptions ∨ sub = row db.nextId := by
  rw [← Table.mem_rows, createSubscription_rows, List.mem_append, List.mem_singleton, Table.mem_rows]

end

end Database

/-- What a transaction reports when it is rolled back. A call whose reset loop
never ends does not return; it commits nothing either. -/
inductive TxError where
  | message (text : String)
  | diverges
deriving DecidableEq

/-- What the code sees around a transaction: the clock, the zone of the process
and the plans it finds in the plan table or its cache. -/
structure Env where
  now : Int
  location : Location
  plan : Int → Option SubscriptionPlan

end TokenFactory.Subscription
