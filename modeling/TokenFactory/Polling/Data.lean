import TokenFactory.Billing.Funding

namespace TokenFactory.Polling

open Go Subscription Billing

/-! The task row of `model/task.go`, what upstream reports about a task, and the
decisions that are taken on a copy of the row before it is written back. -/

def listedStatuses : List String :=
  ["NOT_START", "SUBMITTED", "QUEUED", "IN_PROGRESS", "FAILURE", "SUCCESS", "UNKNOWN"]

/-- The column is a string: upstream answers are stored as they come. -/
inductive TaskStatus where
  | notStart
  | submitted
  | queued
  | inProgress
  | failure
  | success
  | unknown
  | other (text : String) (unlisted : text ∉ listedStatuses)
deriving DecidableEq

namespace TaskStatus

def text : TaskStatus → String
  | .notStart => "NOT_START"
  | .submitted => "SUBMITTED"
  | .queued => "QUEUED"
  | .inProgress => "IN_PROGRESS"
  | .failure => "FAILURE"
  | .success => "SUCCESS"
  | .unknown => "UNKNOWN"
  | .other text _ => text

def ofText (text : String) : TaskStatus :=
  if notStart : text = "NOT_START" then .notStart
  else if submitted : text = "SUBMITTED" then .submitted
  else if queued : text = "QUEUED" then .queued
  else if inProgress : text = "IN_PROGRESS" then .inProgress
  else if failure : text = "FAILURE" then .failure
  else if success : text = "SUCCESS" then .success
  else if unknown : text = "UNKNOWN" then .unknown
  else .other text (by simp [listedStatuses, *])

def terminal (status : TaskStatus) : Bool := status = .failure ∨ status = .success

end TaskStatus

/-- Platforms other than the two named ones are channel types. -/
inductive TaskPlatform where
  | suno
  | midjourney
  | channel (type : Int)
deriving DecidableEq

structure TaskPrivateData where
  upstreamTaskId : String
  resultUrl : String
  billingSource : String
  subscriptionId : Int
  tokenId : Int
  perCallBilling : Bool
deriving DecidableEq

structure Task where
  id : Int
  taskId : String
  platform : TaskPlatform
  userId : Int
  quota : Int
  status : TaskStatus
  failReason : String
  submitTime : Int
  startTime : Int
  finishTime : Int
  progress : String
  privateData : TaskPrivateData
  data : String
deriving DecidableEq

structure TaskSnapshot where
  status : TaskStatus
  progress : String
  startTime : Int
  finishTime : Int
  failReason : String
  resultUrl : String
  data : String
deriving DecidableEq

namespace Task

def getUpstreamTaskId (task : Task) : String :=
  if task.privateData.upstreamTaskId ≠ "" then task.privateData.upstreamTaskId else task.taskId

def snapshot (task : Task) : TaskSnapshot where
  status := task.status
  progress := task.progress
  startTime := task.startTime
  finishTime := task.finishTime
  failReason := task.failReason
  resultUrl := task.privateData.resultUrl
  data := task.data

def setResultUrl (task : Task) (url : String) : Task :=
  { task with privateData := { task.privateData with resultUrl := url } }

@[simp] theorem setResultUrl_status (task : Task) (url : String) :
    (task.setResultUrl url).status = task.status := rfl

/-- The condition of the query that every background actor reads the row with. -/
def unfinished (task : Task) : Bool := task.progress ≠ "100%" ∧ ¬ task.status.terminal

theorem status_eq_of_snapshot {task other : Task} (equal : task.snapshot = other.snapshot) :
    task.status = other.status :=
  congrArg TaskSnapshot.status equal

end Task

def taskIsSubscription (task : Task) : Bool :=
  task.privateData.billingSource = "subscription" ∧ task.privateData.subscriptionId > 0

/-- A positive delta is charged, a negative one is given back. -/
def taskAdjustFunding (fault : Option String) (store : Store) (task : Task) (delta : Int) :
    Effect Unit :=
  if taskIsSubscription task then
    store.onSubscriptions (postConsumeUserSubscriptionDelta fault store.subscriptions
      task.privateData.subscriptionId delta)
  else if delta > 0 then store.decreaseUserQuota fault task.userId delta
  else store.increaseUserQuota fault task.userId (-delta)

/-- A failure is only logged; a key that cannot be resolved counts as one. -/
def taskAdjustTokenQuota (fault : Option String) (store : Store) (task : Task) (delta : Int) : Store :=
  if task.privateData.tokenId ≤ 0 ∨ delta = 0 then store
  else if delta > 0 then (store.decreaseTokenQuota fault task.privateData.tokenId delta).2
  else (store.increaseTokenQuota fault task.privateData.tokenId (-delta)).2

structure TaskInfo where
  status : String
  reason : String := ""
  url : String := ""
  progress : String := ""
  totalTokens : Int := 0
deriving DecidableEq

def failTaskInfo (reason : String) : TaskInfo := { status := "FAILURE", reason }

/-- What the price tables, the probe of the finished video and the adaptor say
about the task when it is settled. `byTokens` has no value where the model has
no token ratio. -/
structure Pricing where
  preferVideoPerSecond : Bool
  byTokens : Int → Option Int
  perSecond : TaskInfo → Int
  adjustBillingOnComplete : TaskInfo → Int

/-- The rules the poller and a fetch share, in the order they are tried. -/
def sharedQuota (pricing : Pricing) (result : TaskInfo) : Option Int :=
  match if result.totalTokens > 0 ∧ ¬ pricing.preferVideoPerSecond
      then pricing.byTokens result.totalTokens else none with
  | some actual => some actual
  | none => if pricing.perSecond result > 0 then some (pricing.perSecond result) else none

/-- The quota that is handed to `RecalculateTaskQuota`, if any. -/
def settleTaskBillingOnComplete (pricing : Pricing) (task : Task) (result : TaskInfo) : Option Int :=
  if task.privateData.perCallBilling then none
  else
    match sharedQuota pricing result with
    | some actual => some actual
    | none =>
      if pricing.adjustBillingOnComplete result > 0 then
        some (pricing.adjustBillingOnComplete result)
      else none

def settleTaskBillingOnFetch (pricing : Pricing) (task : Task) (result : TaskInfo) : Option Int :=
  if task.privateData.perCallBilling then none else sharedQuota pricing result

/-- The delta `RecalculateTaskQuota` moves; it moves nothing for a quota that
is not positive or that was pre-consumed exactly. -/
def recalculateTaskQuota (task : Task) (actual : Int) : Option Int :=
  if actual ≤ 0 then none
  else if actual - task.quota = 0 then none
  else some (actual - task.quota)

inductive Bill where
  | nothing
  | refund
  | settleOnComplete (result : TaskInfo)
  | settleOnFetch (result : TaskInfo)
deriving DecidableEq

/-- A payment that `RefundTaskQuota` or `RecalculateTaskQuota` makes. -/
inductive Movement where
  | refund (quota : Int)
  | settlement (actual delta : Int)
deriving DecidableEq

def Movement.delta : Movement → Int
  | .refund quota => -quota
  | .settlement _ delta => delta

def settlement? (task : Task) (actual : Option Int) : Option Movement :=
  actual.bind fun actual => (recalculateTaskQuota task actual).map (.settlement actual)

def Bill.movement (pricing : Pricing) (task : Task) : Bill → Option Movement
  | .nothing => none
  | .refund => if task.quota = 0 then none else some (.refund task.quota)
  | .settleOnComplete result => settlement? task (settleTaskBillingOnComplete pricing task result)
  | .settleOnFetch result => settlement? task (settleTaskBillingOnFetch pricing task result)

end TokenFactory.Polling
