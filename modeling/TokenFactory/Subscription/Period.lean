import TokenFactory.Subscription.Data

namespace TokenFactory.Subscription

open Go

def calcPlanEndTime (location : Location) (start : Int) (plan : SubscriptionPlan) :
    Except TxError Int :=
  if plan.durationValue ≤ 0 ∧ plan.durationUnit ≠ .custom then
    .error (.message "duration_value must be > 0")
  else
    match plan.durationUnit with
    | .year => .ok (location.addDate start plan.durationValue 0 0)
    | .month => .ok (location.addDate start 0 plan.durationValue 0)
    | .day => .ok (addDuration start (Int.bmod (duration plan.durationValue 24 * hour) (2 ^ 64)))
    | .hour => .ok (addDuration start (duration plan.durationValue hour))
    | .custom =>
      if plan.customSeconds ≤ 0 then .error (.message "custom_seconds must be > 0")
      else .ok (addDuration start (duration plan.customSeconds second))
    | .invalid text => .error (.message ("invalid duration_unit: " ++ text))

def normalizeResetPeriod (period : String) : ResetPeriod :=
  if trimSpace period = "daily" then .daily
  else if trimSpace period = "weekly" then .weekly
  else if trimSpace period = "monthly" then .monthly
  else if trimSpace period = "custom" then .custom
  else .never

/-- The instant at which the period that `base` lies in ends. -/
def nextReset (location : Location) (base : Int) (plan : SubscriptionPlan) : ResetPeriod → Option Int
  | .never => none
  | .daily =>
    let civil := location.civil base
    some (location.addDate (location.date civil.year civil.month civil.day 0) 0 0 1)
  | .weekly =>
    let civil := location.civil base
    let weekday := if location.weekday base = 0 then 7 else location.weekday base
    some (location.addDate (location.date civil.year civil.month civil.day 0) 0 0 (8 - weekday))
  | .monthly =>
    let civil := location.civil base
    some (location.addDate (location.date civil.year civil.month 1 0) 0 1 0)
  | .custom =>
    if plan.quotaResetCustomSeconds ≤ 0 then none
    else some (addDuration base (duration plan.quotaResetCustomSeconds second))

/-- Zero stands for "no further reset", as it does in the column. -/
def calcNextResetTime (location : Location) (base : Int) (plan : SubscriptionPlan) (endUnix : Int) :
    Int :=
  match nextReset location base plan (normalizeResetPeriod plan.quotaResetPeriod) with
  | none => 0
  | some next => if endUnix > 0 ∧ next > endUnix then 0 else next

/-- The catch-up loop of a reset: the base moves to the last reset that is due.
The result also says whether it moved. Due times are positive and not after
`now`, so a period that moves forward ends the loop within `now` rounds; `none`
is a loop that is still running then. -/
def advanceReset (location : Location) (plan : SubscriptionPlan) (endTime now : Int) :
    Nat → Bool → Int → Int → Option (Bool × Int × Int)
  | fuel, advanced, base, next =>
    if next > 0 ∧ next ≤ now then
      match fuel with
      | 0 => none
      | fuel + 1 =>
        advanceReset location plan endTime now fuel true next
          (calcNextResetTime location next plan endTime)
    else some (advanced, base, next)

/-- A subscription row after a reset check, and whether its usage was reset. -/
structure ResetCheck where
  sub : UserSubscription
  advanced : Bool
deriving DecidableEq

def maybeResetUserSubscriptionWithPlanTx (env : Env) (sub : UserSubscription)
    (plan : SubscriptionPlan) : Option ResetCheck :=
  if sub.nextResetTime > 0 ∧ sub.nextResetTime > env.now then some ⟨sub, false⟩
  else if normalizeResetPeriod plan.quotaResetPeriod = .never then some ⟨sub, false⟩
  else
    let baseUnix := if sub.lastResetTime ≤ 0 then sub.startTime else sub.lastResetTime
    let next := calcNextResetTime env.location baseUnix plan sub.endTime
    match advanceReset env.location plan sub.endTime env.now env.now.toNat false baseUnix next with
    | none => none
    | some (false, base, next) =>
      if sub.nextResetTime = 0 ∧ next > 0 then
        some ⟨{ sub with nextResetTime := next, lastResetTime := base }, false⟩
      else some ⟨sub, false⟩
    | some (true, base, next) =>
      some ⟨{ sub with amountUsed := 0, lastResetTime := base, nextResetTime := next }, true⟩

end TokenFactory.Subscription
