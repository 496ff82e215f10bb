import TokenFactory.Billing.Settlement
import TokenFactory.Polling.Actors

namespace TokenFactory.Polling

open Data Go Subscription Billing

/-! Submission of a task: `RelayTask` of `controller/relay.go` with the billing of
`RelayTaskSubmit`, and the refund of a task that fails later. -/

/-- One round of the retry loop: the price data of its channel, what
`PreConsumeBilling` meets, and whether upstream takes the task. -/
structure SubmitRound where
  freeModel : Bool
  quota : Int
  attempts : Attempts
  accepted : Bool

inductive RoundOutcome where
  | diverges
  | rejected
  | accepted
deriving DecidableEq

structure Submission where
  store : Store
  paying : BillingInfo := {}

structure Submitted where
  task : Task
  answer : Except TxError Unit
  paying : BillingInfo
  store : Store

section Submitting

variable (settings : Settings) (env : Env) (info : RelayInfo)

/-- Only the first round that is not free pre-consumes, and it does so without trust. -/
def relayTaskSubmit (state : Submission) (round : SubmitRound) : RoundOutcome × Submission :=
  let preConsumed : Except ApiError BillingInfo × Store :=
    if state.paying.billing.isNone && !round.freeModel then
      preConsumeBilling settings env { info with forcePreConsume := true } round.attempts state.store
        round.quota
    else (.ok state.paying, state.store)
  match preConsumed with
  | (.error .diverges, after) => (.diverges, { state with store := after })
  | (.error (.failed _ _), after) => (.rejected, { state with store := after })
  | (.ok paying, after) => (if round.accepted then .accepted else .rejected, ⟨after, paying⟩)

/-- The rounds end with the first one that is not retried. -/
def submitRounds (state : Submission) : List SubmitRound → RoundOutcome × Submission
  | [] => (.rejected, state)
  | round :: rest =>
    match relayTaskSubmit settings env info state round with
    | (.rejected, after) => submitRounds after rest
    | outcome => outcome

/-- The quota of the row is the amount that was to be settled; an error of the
settlement is only logged. `draft` holds the fields that have no part in billing. -/
def relayTask (start : Store) (rounds : List SubmitRound) (actualQuota : Int) (faults : SettleFaults)
    (draft : Task) : Option Submitted :=
  match submitRounds settings env info ⟨start, {}⟩ rounds with
  | (.accepted, state) =>
    let settled := settleBilling info state.paying faults state.store actualQuota
    some {
      task := { draft with
        userId := info.userId
        quota := actualQuota
        privateData := { draft.privateData with
          billingSource := state.paying.billingSource
          subscriptionId := state.paying.subscriptionId
          tokenId := info.tokenId } }
      answer := settled.1
      paying := settled.2.1
      store := settled.2.2 }
  | _ => none

end Submitting

def refundTaskQuota (funding token : Option String) (store : Store) (task : Task) : Store :=
  if task.quota = 0 then store
  else
    match taskAdjustFunding funding store task (-task.quota) with
    | (.error _, after) => after
    | (.ok (), after) => taskAdjustTokenQuota token after task (-task.quota)

theorem refundTaskQuota_turns (first second : Attempt) (row : Task) (store : Store) (task : Task) :
    let turn := Phase.advance first row store (.bill task .refund)
    (Phase.advance second turn.row turn.store turn.next).store =
      refundTaskQuota first.fault second.fault store task := by
  simp only [Phase.advance, pay, Bill.movement, refundTaskQuota]
  by_cases zero : task.quota = 0
  · simp only [zero, ↓reduceIte, afterBill]
  simp only [zero, ↓reduceIte, Movement.delta]
  cases taskAdjustFunding first.fault store task (-task.quota) with
  | mk answer after =>
    cases answer with
    | error reason => simp only [afterBill]
    | ok _ => simp only [afterBill]

def fundingSource (info : RelayInfo) (paying : BillingInfo) : FundingSource :=
  match paying.billing with
  | some session => session.funding
  | none => .wallet { userId := info.userId }

/-- The account can take the settlement: no fault meets it, and the amount fits the
allowance. -/
def TakesSettlement (env : Env) (start : Store) (funding : FundingSource) (faults : SettleFaults)
    (actualQuota : Int) : Prop :=
  faults.funding = none ∧
    (0 < allowance start funding → takenBefore env start funding + actualQuota ≤ allowance start funding)

instance (env : Env) (start : Store) (funding : FundingSource) (faults : SettleFaults) (actualQuota : Int) :
    Decidable (TakesSettlement env start funding faults actualQuota) :=
  inferInstanceAs (Decidable (_ ∧ _))

/-- The usage of a subscription is cut off at 0. -/
def cutOff (amount : Int) : FundingSource → Int
  | .wallet _ => amount
  | .subscription _ => max amount 0

variable {settings : Settings} {env : Env} {info : RelayInfo} {start store after : Store} {task : Task}
  {funding : FundingSource} {base amount level quota actual : Int} {refundable : Bool}

/-- The task is refunded to the account it was paid from. -/
def Task.PaidFrom (task : Task) : FundingSource → Prop
  | .wallet wallet => task.userId = wallet.userId ∧ task.privateData.billingSource ≠ "subscription"
  | .subscription subscription =>
    task.privateData.billingSource = "subscription" ∧
      task.privateData.subscriptionId = subscription.subscriptionId

theorem taskAdjustFunding_settle {fault : Option String} {delta : Int} (paidFrom : task.PaidFrom funding)
    (account : AccountLevel base amount level refundable store funding) (moves : delta ≠ 0) :
    taskAdjustFunding fault store task delta = funding.settle fault store delta := by
  cases account with
  | wallet held =>
    obtain ⟨same, other⟩ := paidFrom
    simp [taskAdjustFunding, taskIsSubscription, FundingSource.settle, other, same, moves]
  | subscription _ held =>
    obtain ⟨source, same⟩ := paidFrom
    obtain ⟨member, keyed⟩ := Table.lookup_eq_some.mp held
    have positive := (store.subscriptions.assigned _ member).1
    rw [keyed] at positive
    simp [taskAdjustFunding, taskIsSubscription, FundingSource.settle, source, same, moves, positive]

theorem settle_gives_back (account : AccountLevel base amount level refundable store funding)
    (positive : 0 < quota) : ∃ after, funding.settle none store (-quota) = (.ok (), after) ∧
      taken after funding = cutOff (base + level - quota) funding := by
  have moves : ¬ -quota = 0 := by omega
  cases account with
  | wallet held =>
    simp only [FundingSource.settle, moves, ↓reduceIte, userStage_eq]
    refine ⟨_, rfl, ?_⟩
    simp only [taken, Store.addQuota, ↓reduceIte, cutOff]
    omega
  | @subscription funding sub record preConsumed held used nonneg bounded named found recorded status =>
    obtain ⟨member, keyed⟩ := Table.lookup_eq_some.mp held
    have valid : ¬ funding.subscriptionId ≤ 0 := by
      have := (store.subscriptions.assigned _ member).1
      omega
    have room : usedAfter sub (-quota) = some (max (sub.amountUsed + -quota) 0) := by
      refine usedAfter_eq_some.mpr ⟨rfl, fun limited => ?_⟩
      omega
    simp only [FundingSource.settle, Store.onSubscriptions, postConsumeUserSubscriptionDelta, valid, moves, held,
      room, ↓reduceIte]
    refine ⟨_, rfl, ?_⟩
    have saved : (store.subscriptions.saveSubscription
        { sub with amountUsed := max (sub.amountUsed + -quota) 0 }).subscription? funding.subscriptionId = some _ :=
      Table.lookup_save_self held keyed
    simp only [taken, saved, cutOff]
    omega

theorem taskAdjustTokenQuota_sameAccounts {fault : Option String} {delta : Int} :
    (taskAdjustTokenQuota fault store task delta).SameAccounts store := by
  simp only [taskAdjustTokenQuota]
  split
  · exact ⟨rfl, rfl⟩
  split <;> exact guarded_accounts

theorem refundTaskQuota_taken (paidFrom : task.PaidFrom funding) (nonneg : 0 ≤ level ∧ 0 ≤ task.quota)
    (account : AccountLevel base amount level refundable store funding) :
    taken (refundTaskQuota none none store task) funding =
      cutOff (base + level - task.quota) funding := by
  simp only [refundTaskQuota]
  by_cases zero : task.quota = 0
  · have held := account.taken
    simp only [zero, ↓reduceIte, held, Int.sub_zero]
    cases account with
    | wallet _ => rfl
    | subscription _ _ _ started =>
      simp only [cutOff]
      omega
  simp only [zero, ↓reduceIte]
  rw [taskAdjustFunding_settle paidFrom account (by omega)]
  obtain ⟨after, done, back⟩ := settle_gives_back account (show 0 < task.quota by omega)
  have same : (taskAdjustTokenQuota none after task (-task.quota)).SameAccounts after :=
    taskAdjustTokenQuota_sameAccounts
  simp only [done]
  rw [taken_congr same, back]

/-- A refund from another level than the quota of the task restores the account only
where the cut-off hides the difference. -/
theorem cutOff_eq_base_iff {quota : Int} (account : AccountLevel base amount level refundable store funding) :
    cutOff (base + level - quota) funding = base ↔
      level = quota ∨ (funding.source = "subscription" ∧ base = 0 ∧ level ≤ quota) := by
  cases account with
  | wallet _ =>
    have other : ¬ "wallet" = "subscription" := by decide
    simp only [cutOff, FundingSource.source, other, false_and, or_false]
    omega
  | subscription _ _ _ started =>
    simp only [cutOff, FundingSource.source, true_and]
    omega

/-- Before the pre-consume the accounts are as at the start; after it one account
stands at the amount that was pre-consumed. -/
inductive Submission.Stands (env : Env) (info : RelayInfo) (start : Store) (state : Submission) : Prop where
  | unpaid (unopened : state.paying = {}) (same : state.store.SameAccounts start)
  | opened {session : BillingSession} (synced : state.paying = session.syncRelayInfo)
      (owner : ∀ wallet, session.funding = .wallet wallet → wallet.userId = info.userId)
      (unsettled : session.settled = false ∧ session.fundingSettled = false)
      (nonneg : 0 ≤ session.preConsumedQuota)
      (bound : allowance state.store session.funding = allowance start session.funding)
      (account : AccountLevel (takenBefore env start session.funding) session.preConsumedQuota
        session.preConsumedQuota true state.store session.funding)

variable {state : Submission} {round : SubmitRound} {rounds : List SubmitRound} {outcome : RoundOutcome}
  {next : Submission}

theorem preConsumeBilling_stands {paying : BillingInfo} {attempts : Attempts} {quota : Int}
    (fresh : start.subscriptions.record? info.requestId = none)
    (used : ∀ sub ∈ start.subscriptions.subscriptions, 0 ≤ sub.amountUsed) (nonneg : 0 ≤ quota)
    (same : store.SameAccounts start)
    (done : preConsumeBilling settings env { info with forcePreConsume := true } attempts store quota =
      (.ok paying, after)) : Submission.Stands env info start ⟨after, paying⟩ := by
  unfold preConsumeBilling at done
  cases opened : newBillingSession settings env { info with forcePreConsume := true } attempts store quota with
  | mk answer changed =>
    cases answer with
    | error reason => simp [opened] at done
    | ok session =>
      simp only [opened, Prod.mk.injEq, Except.ok.injEq] at done
      obtain ⟨rfl, rfl⟩ := done
      obtain ⟨between, kept, charge⟩ := newBillingSession_charge nonneg (same.2 ▸ fresh) opened
      have accounts : between.SameAccounts start := ⟨kept.1.trans same.1, kept.2.trans same.2⟩
      have level := opened_level charge (accounts.2 ▸ used)
      rw [takenBefore_congr accounts] at level
      have bound := (opened_allowance charge).trans (allowance_congr accounts)
      refine .opened rfl ?_ charge.unsettled charge.nonneg bound level
      intro wallet paidFrom
      have funded := charge.funding
      rw [paidFrom] at funded
      cases funded
      rfl

theorem relayTaskSubmit_preserves_stands (fresh : start.subscriptions.record? info.requestId = none)
    (used : ∀ sub ∈ start.subscriptions.subscriptions, 0 ≤ sub.amountUsed) (nonneg : 0 ≤ round.quota)
    (stands : state.Stands env info start)
    (done : relayTaskSubmit settings env info state round = (outcome, next)) (returns : outcome ≠ .diverges) :
    next.Stands env info start := by
  unfold relayTaskSubmit at done
  cases stands with
  | @opened session synced owner unsettled nonneg bound account =>
    simp only [synced, BillingSession.syncRelayInfo, Option.isNone_some, Bool.false_and, Bool.false_eq_true,
      ↓reduceIte] at done
    obtain ⟨_, rfl⟩ := Prod.mk.inj done
    exact .opened rfl owner unsettled nonneg bound account
  | unpaid unopened same =>
    cases free : round.freeModel with
    | true =>
      simp only [free, Bool.not_true, Bool.and_false, Bool.false_eq_true, ↓reduceIte] at done
      obtain ⟨_, rfl⟩ := Prod.mk.inj done
      exact .unpaid unopened same
    | false =>
      simp only [unopened, free, Option.isNone_none, Bool.not_false, Bool.and_self, ↓reduceIte] at done
      cases paid : preConsumeBilling settings env { info with forcePreConsume := true } round.attempts
          state.store round.quota with
      | mk answer after =>
        simp only [paid] at done
        cases answer with
        | ok paying =>
          obtain ⟨_, rfl⟩ := Prod.mk.inj done
          exact preConsumeBilling_stands fresh used nonneg same paid
        | error reason =>
          cases reason with
          | diverges => exact absurd (Prod.mk.inj done).1.symm returns
          | failed code text =>
            obtain ⟨_, rfl⟩ := Prod.mk.inj done
            have kept := preConsumeBilling_error_accounts paid
            exact .unpaid rfl ⟨kept.1.trans same.1, kept.2.trans same.2⟩

theorem submitRounds_preserves_stands (fresh : start.subscriptions.record? info.requestId = none)
    (used : ∀ sub ∈ start.subscriptions.subscriptions, 0 ≤ sub.amountUsed)
    (nonneg : ∀ round ∈ rounds, 0 ≤ round.quota) (stands : state.Stands env info start)
    (done : submitRounds settings env info state rounds = (.accepted, next)) :
    next.Stands env info start := by
  induction rounds generalizing state with
  | nil => cases done
  | cons round rest ih =>
    have first := nonneg round List.mem_cons_self
    have later : ∀ round ∈ rest, 0 ≤ round.quota := fun other member =>
      nonneg other (List.mem_cons_of_mem _ member)
    simp only [submitRounds] at done
    cases submitted : relayTaskSubmit settings env info state round with
    | mk outcome after =>
      rw [submitted] at done
      cases outcome with
      | diverges => cases done
      | accepted =>
        cases done
        exact relayTaskSubmit_preserves_stands fresh used first stands submitted (by decide)
      | rejected =>
        have kept := relayTaskSubmit_preserves_stands fresh used first stands submitted (by decide)
        exact ih later kept done

theorem settleBilling_level (faults : SettleFaults) (stands : state.Stands env info start)
    (nonneg : 0 ≤ actual) :
    let settlement := settleBilling info state.paying faults state.store actual
    let funding := fundingSource info state.paying
    fundingSource info settlement.2.1 = funding ∧
      settlement.2.1.finalPreConsumedQuota = state.paying.finalPreConsumedQuota ∧
      0 ≤ state.paying.finalPreConsumedQuota ∧
      ∃ amount, AccountLevel (takenBefore env start funding) amount
        (if TakesSettlement env start funding faults actual then actual else state.paying.finalPreConsumedQuota)
        true settlement.2.2 funding := by
  cases stands with
  | @opened session synced owner unsettled held bound account =>
    rw [synced]
    simp only [settleBilling, fundingSource, BillingSession.syncRelayInfo, TakesSettlement, ← bound]
    exact ⟨settle_funding, trivial, held, _, session_settle_level unsettled account nonneg⟩
  | unpaid unopened same =>
    rw [unopened]
    have before : takenBefore env start (.wallet { userId := info.userId }) =
        -state.store.quota info.userId := by
      rw [← takenBefore_congr same]
      rfl
    simp only [settleBilling, fundingSource, Int.sub_zero, TakesSettlement, allowance, Int.lt_irrefl,
      false_implies, and_true, before]
    by_cases zero : actual = 0
    · simp only [zero, ↓reduceIte, ite_self]
      exact ⟨trivial, trivial, le_rfl, 0, .wallet (by omega)⟩
    simp only [zero, ↓reduceIte]
    have moved := @postConsumeQuota_wallet_quota info state.store actual {} faults (by decide)
    refine ⟨trivial, trivial, le_rfl, 0, .wallet ?_⟩
    rw [moved]
    split
    · simp only [Store.addQuota, ↓reduceIte]
      omega
    · omega

theorem relayTask_paidFrom {draft : Task} (stands : state.Stands env info start) :
    Task.PaidFrom { draft with
      userId := info.userId
      quota := actual
      privateData := { draft.privateData with
        billingSource := state.paying.billingSource
        subscriptionId := state.paying.subscriptionId
        tokenId := info.tokenId } } (fundingSource info state.paying) := by
  cases stands with
  | unpaid unopened _ =>
    rw [unopened]
    exact ⟨rfl, show "" ≠ "subscription" by decide⟩
  | @opened session synced owner =>
    rw [synced]
    cases funding : session.funding with
    | wallet wallet =>
      simp only [fundingSource, BillingSession.syncRelayInfo, funding, FundingSource.source, Task.PaidFrom]
      exact ⟨(owner wallet funding).symm, by decide⟩
    | subscription subscription =>
      simp only [fundingSource, BillingSession.syncRelayInfo, funding, FundingSource.source, Task.PaidFrom]
      exact ⟨trivial, trivial⟩

/-- A failed task is refunded exactly what it was charged where the account could take
the settlement, where there was nothing to settle, and where the usage of a
subscription that was unused before is cut off at 0. The request id is new: the
server draws it per request. -/
theorem failed_task_refunded_exactly_iff (settings : Settings) (env : Env) (info : RelayInfo) (start : Store)
    (rounds : List SubmitRound) (actualQuota : Int) (faults : SettleFaults) (draft : Task)
    (fresh : start.subscriptions.record? info.requestId = none)
    (used : ∀ sub ∈ start.subscriptions.subscriptions, 0 ≤ sub.amountUsed)
    (estimated : ∀ round ∈ rounds, 0 ≤ round.quota) (nonneg : 0 ≤ actualQuota) (submitted : Submitted)
    (accepted : relayTask settings env info start rounds actualQuota faults draft = some submitted) :
    let funding := fundingSource info submitted.paying
    let preConsumed := submitted.paying.finalPreConsumedQuota
    taken (refundTaskQuota none none submitted.store submitted.task) funding = takenBefore env start funding ↔
      TakesSettlement env start funding faults actualQuota ∨ preConsumed = actualQuota ∨
        (funding.source = "subscription" ∧ takenBefore env start funding = 0 ∧ preConsumed ≤ actualQuota) := by
  unfold relayTask at accepted
  cases done : submitRounds settings env info ⟨start, {}⟩ rounds with
  | mk outcome state =>
    rw [done] at accepted
    cases outcome with
    | diverges | rejected => cases accepted
    | accepted =>
      simp only [Option.some.injEq] at accepted
      subst accepted
      have stands : state.Stands env info start :=
        submitRounds_preserves_stands fresh used estimated (.unpaid rfl ⟨rfl, rfl⟩) done
      obtain ⟨same, kept, held, amount, account⟩ := settleBilling_level faults stands nonneg
      simp only [same, kept]
      rw [refundTaskQuota_taken (relayTask_paidFrom stands) ⟨by split <;> omega, nonneg⟩ account,
        cutOff_eq_base_iff account]
      by_cases takes : TakesSettlement env start (fundingSource info state.paying) faults actualQuota
      · simp only [takes, ↓reduceIte, true_or]
      · simp only [takes, ↓reduceIte, false_or]

def nearlyUsedUp : Store :=
  let plan := thirtyDays "" "never"
  let bought := run commit (.empty fun _ => some "default")
    [.createUserSubscriptionFromPlan (utcAt 1000 plan) 7 plan "order"]
  { walletStore with subscriptions := (preConsumeUserSubscription anyTime none bought "earlier" 7 90).2 }

def videoTask : Task where
  id := 1
  taskId := "task_1"
  platform := .channel 1
  userId := 7
  quota := 0
  status := .notStart
  failReason := ""
  submitTime := 1000
  startTime := 0
  finishTime := 0
  progress := "0%"
  privateData := ⟨"upstream-1", "", "", 0, 0, false⟩
  data := ""

def secondRound : List SubmitRound :=
  [⟨false, 5, ⟨plainAttempt, plainAttempt, none⟩, false⟩, ⟨false, 6, ⟨plainAttempt, plainAttempt, none⟩, true⟩]

def submittedFor (actualQuota : Int) : Option Submitted :=
  relayTask plainSettings anyTime (caller "subscription_only") nearlyUsedUp secondRound actualQuota {} videoTask

def submittedWithinTotal : Submitted := (submittedFor 8).get (by decide +kernel)

theorem failed_task_refunded_within_total :
    taken submittedWithinTotal.store (fundingSource (caller "subscription_only") submittedWithinTotal.paying) =
      98 ∧ taken (refundTaskQuota none none submittedWithinTotal.store submittedWithinTotal.task)
      (fundingSource (caller "subscription_only") submittedWithinTotal.paying) = 90 := by
  have refunded := (failed_task_refunded_exactly_iff plainSettings anyTime (caller "subscription_only") nearlyUsedUp
    secondRound 8 {} videoTask (by decide +kernel) (by decide +kernel) (by decide) (by decide)
    submittedWithinTotal (Option.some_get _).symm).mpr (.inl (by decide +kernel))
  refine ⟨by decide +kernel, ?_⟩
  decide +kernel

/-- The subscription has no room for the actual amount and stays at the estimate; the
refund gives back the actual amount. -/
theorem failed_task_refunded_too_much : ∃ submitted ∈ submittedFor 20,
      submitted.answer = .error (.message "subscription used exceeds total, used=110 total=100") ∧
      takenBefore anyTime nearlyUsedUp (fundingSource (caller "subscription_only") submitted.paying) = 90 ∧
      taken submitted.store (fundingSource (caller "subscription_only") submitted.paying) = 95 ∧
      taken (refundTaskQuota none none submitted.store submitted.task)
        (fundingSource (caller "subscription_only") submitted.paying) = 75 := by
  decide +kernel

end TokenFactory.Polling
