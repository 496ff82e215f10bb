import TokenFactory.Billing.Conservation

namespace TokenFactory.Billing

open Data Go Subscription

/-! `PreConsumeBilling` and `SettleBilling` of `service/billing.go`, and
`PostConsumeQuota` of `service/quota.go`. A request without a session is settled
by `PostConsumeQuota`. -/

/-- `relayInfo.Billing` and what `syncRelayInfo` writes beside it. -/
structure BillingInfo where
  billing : Option BillingSession := none
  finalPreConsumedQuota : Int := 0
  billingSource : String := ""
  subscriptionId : Int := 0
deriving DecidableEq

def FundingSource.source : FundingSource → String
  | .wallet _ => "wallet"
  | .subscription _ => "subscription"

def BillingSession.syncRelayInfo (session : BillingSession) : BillingInfo where
  billing := some session
  finalPreConsumedQuota := session.preConsumedQuota
  billingSource := session.funding.source
  subscriptionId :=
    match session.funding with
    | .wallet _ => 0
    | .subscription funding => funding.subscriptionId

def preConsumeBilling (settings : Settings) (env : Env) (info : RelayInfo) (attempts : Attempts)
    (store : Store) (preConsumedQuota : Int) : Except ApiError BillingInfo × Store :=
  match newBillingSession settings env info attempts store preConsumedQuota with
  | (.error reason, after) => (.error reason, after)
  | (.ok session, after) => (.ok session.syncRelayInfo, after)

def postConsumeQuota (info : RelayInfo) (paying : BillingInfo) (faults : SettleFaults) (store : Store)
    (quota : Int) : Effect Unit :=
  let funded : Effect Unit :=
    if paying.billingSource = "subscription" then
      if paying.subscriptionId = 0 then (.error (.message "subscription id is missing"), store)
      else if quota = 0 then (.ok (), store)
      else store.onSubscriptions
        (postConsumeUserSubscriptionDelta faults.funding store.subscriptions paying.subscriptionId quota)
    else if quota > 0 then store.decreaseUserQuota faults.funding info.userId quota
    else store.increaseUserQuota faults.funding info.userId (-quota)
  match funded with
  | (.error reason, after) => (.error reason, after)
  | (.ok (), after) =>
    if info.isPlayground then (.ok (), after)
    else if quota > 0 then after.decreaseTokenQuota faults.token info.tokenId quota
    else after.increaseTokenQuota faults.token info.tokenId (-quota)

def settleBilling (info : RelayInfo) (paying : BillingInfo) (faults : SettleFaults) (store : Store)
    (actualQuota : Int) : Except TxError Unit × BillingInfo × Store :=
  match paying.billing with
  | some session =>
    let outcome := session.settle info faults store actualQuota
    (outcome.1, { paying with billing := some outcome.2.1 }, outcome.2.2)
  | none =>
    let quotaDelta := actualQuota - paying.finalPreConsumedQuota
    if quotaDelta = 0 then (.ok (), paying, store)
    else
      let outcome := postConsumeQuota info paying faults store quotaDelta
      (outcome.1, paying, outcome.2)

variable {env : Env} {info : RelayInfo} {store after : Store} {base amount level delta quota actual : Int}
  {funding : FundingSource} {session : BillingSession} {paying : BillingInfo} {fault : Option String}
  {faults : SettleFaults} {refundable : Bool}

theorem guarded_accounts {tokenId : Int} :
    (Store.guarded store (store.addToken tokenId amount) fault quota).2.quota = store.quota ∧
      (Store.guarded store (store.addToken tokenId amount) fault quota).2.subscriptions =
        store.subscriptions := by
  cases done : Store.guarded store (store.addToken tokenId amount) fault quota with
  | mk answer changed =>
    cases answer with
    | ok _ => rw [(Store.guarded_ok done).1]; exact ⟨rfl, rfl⟩
    | error reason => rw [(Store.guarded_error done).1]; exact ⟨rfl, rfl⟩

theorem tokenStage_accounts {tokens : Effect Unit}
    (stage : tokens = if info.isPlayground then (.ok (), store)
      else if delta > 0 then store.decreaseTokenQuota fault info.tokenId delta
      else store.increaseTokenQuota fault info.tokenId (-delta)) :
    tokens.2.quota = store.quota ∧ tokens.2.subscriptions = store.subscriptions := by
  subst stage
  split
  · exact ⟨rfl, rfl⟩
  split <;> exact guarded_accounts

theorem userStage_eq {userId : Int} :
    (if quota > 0 then store.decreaseUserQuota fault userId quota
      else store.increaseUserQuota fault userId (-quota)) =
    match fault with
    | some text => (.error (.message text), store)
    | none => (.ok (), store.addQuota userId (-quota)) := by
  split
  · have valid : ¬ quota < 0 := by omega
    exact if_neg valid
  · have valid : ¬ -quota < 0 := by omega
    exact if_neg valid

theorem settle_funding : (session.settle info faults store actual).2.1.funding = session.funding := by
  simp only [BillingSession.settle]
  split
  · rfl
  split
  · rfl
  split <;> rfl

/-- What the account holds at most; 0 stands for no bound, as with a wallet. -/
def allowance (store : Store) : FundingSource → Int
  | .wallet _ => 0
  | .subscription funding =>
    match store.subscriptions.subscription? funding.subscriptionId with
    | none => 0
    | some sub => sub.amountTotal

theorem settle_ok_iff (account : AccountLevel base amount level refundable store funding)
    (moves : delta ≠ 0) :
    (funding.settle fault store delta).1 = .ok () ↔
      fault = none ∧ (0 < allowance store funding → base + (level + delta) ≤ allowance store funding) := by
  cases account with
  | wallet held =>
    simp only [FundingSource.settle, moves, ↓reduceIte, userStage_eq, allowance, Int.lt_irrefl, false_implies,
      and_true]
    cases fault with
    | none => simp only
    | some text => simp only [reduceCtorEq]
  | @subscription funding sub record preConsumed held used positive bounded named found recorded status =>
    obtain ⟨member, keyed⟩ := Table.lookup_eq_some.mp held
    have valid : ¬ funding.subscriptionId ≤ 0 := by
      have := (store.subscriptions.assigned _ member).1
      omega
    simp only [FundingSource.settle, moves, ↓reduceIte, allowance, held, Store.onSubscriptions,
      postConsumeUserSubscriptionDelta, valid]
    cases fault with
    | some text => simp
    | none =>
      cases room : usedAfter sub delta with
      | some newUsed =>
        have fits := (usedAfter_eq_some.mp room).2
        have same := (usedAfter_eq_some.mp room).1
        simp only [true_and, true_iff]
        omega
      | none =>
        simp only [usedAfter, ite_eq_left_iff, reduceCtorEq, imp_false, not_not] at room
        simp only [true_and, reduceCtorEq, false_iff]
        omega

/-- The account stands at the actual amount where the settlement reached it and at
the estimate where it did not, whatever the token did. -/
theorem session_settle_level (unsettled : session.settled = false ∧ session.fundingSettled = false)
    (account : AccountLevel base session.preConsumedQuota session.preConsumedQuota true store session.funding)
    (nonneg : 0 ≤ actual) :
    AccountLevel base session.preConsumedQuota
      (if faults.funding = none ∧
          (0 < allowance store session.funding → base + actual ≤ allowance store session.funding)
        then actual else session.preConsumedQuota)
      true (session.settle info faults store actual).2.2 session.funding := by
  have total : session.preConsumedQuota + (actual - session.preConsumedQuota) = actual := by omega
  simp only [BillingSession.settle, unsettled.1, unsettled.2, Bool.false_eq_true, ↓reduceIte]
  by_cases zero : actual - session.preConsumedQuota = 0
  · have same : session.preConsumedQuota = actual := by omega
    rw [if_pos zero, ← same, ite_self]
    exact account
  have takes := @settle_ok_iff _ _ _ _ _ _ faults.funding _ account zero
  rw [total] at takes
  rw [if_neg zero]
  simp only [← takes]
  cases paid : session.funding.settle faults.funding store (actual - session.preConsumedQuota) with
  | mk answer changed =>
    cases answer with
    | error reason =>
      simp only [reduceCtorEq, ↓reduceIte, settle_error paid]
      exact account
    | ok _ =>
      have moved := (settle_moves_level account (by omega) paid).1
      rw [total] at moved
      exact moved.congr (tokenStage_accounts rfl).1 (tokenStage_accounts rfl).2

theorem postConsumeQuota_wallet (wallet : paying.billingSource ≠ "subscription") :
    postConsumeQuota info paying {} store quota =
      (.ok (), (store.addQuota info.userId (-quota)).chargeToken info quota) := by
  simp only [postConsumeQuota, wallet, ↓reduceIte, Store.chargeToken]
  by_cases more : quota > 0
  · have valid : ¬ quota < 0 := by omega
    simp only [more, ↓reduceIte, Store.decreaseUserQuota, Store.decreaseTokenQuota, Store.guarded, valid]
    split <;> rfl
  · have valid : ¬ -quota < 0 := by omega
    simp only [more, ↓reduceIte, Store.increaseUserQuota, Store.increaseTokenQuota, Store.guarded, valid]
    split <;> rfl

theorem postConsumeQuota_wallet_quota (wallet : paying.billingSource ≠ "subscription") :
    (postConsumeQuota info paying faults store quota).2.quota =
      if faults.funding = none then (store.addQuota info.userId (-quota)).quota else store.quota := by
  simp only [postConsumeQuota, wallet, ↓reduceIte, userStage_eq]
  cases faults.funding with
  | some text => simp only [reduceCtorEq, ↓reduceIte]
  | none =>
    exact (tokenStage_accounts rfl).1

variable {settings : Settings} {attempt : Attempt} {userQuota : Int} {code : ErrorCode} {text : String}

/-! A rollback that fails leaves the token charged, and only the token. -/

def Store.SameAccounts (first second : Store) : Prop :=
  first.quota = second.quota ∧ first.subscriptions = second.subscriptions

theorem chargeToken_sameAccounts : (store.chargeToken info amount).SameAccounts store :=
  ⟨chargeToken_quota, chargeToken_subscriptions⟩

theorem rolledBack_sameAccounts : (store.rolledBack info attempt amount).SameAccounts store := by
  unfold Store.rolledBack
  split_ifs
  · exact ⟨guarded_accounts.1.trans chargeToken_quota, guarded_accounts.2.trans chargeToken_subscriptions⟩
  · exact chargeToken_sameAccounts

theorem takenBefore_congr {between : Store} (same : between.SameAccounts store) :
    takenBefore env between funding = takenBefore env store funding := by
  cases funding with
  | wallet wallet => simp only [takenBefore, same.1]
  | subscription subscription => simp only [takenBefore, same.2]

theorem taken_congr (same : after.SameAccounts store) : taken after funding = taken store funding := by
  cases funding with
  | wallet wallet => simp only [taken, same.1]
  | subscription subscription => simp only [taken, same.2]

theorem allowance_congr (same : after.SameAccounts store) :
    allowance after funding = allowance store funding := by
  cases funding with
  | wallet wallet => rfl
  | subscription subscription => simp only [allowance, same.2]

/-- Opening a session resets and charges the row; its total stays. -/
theorem opened_allowance (charge : SessionCharge env info store session after) :
    allowance after session.funding = allowance store session.funding := by
  have funded := charge.funding
  revert funded
  generalize session.funding = funding
  intro funded
  cases funded with
  | wallet quota subscriptions => rfl
  | @subscription passed row chosen fresh quota =>
    have source : store.subscriptions.subscription? row.id = some row :=
      Table.lookup_eq_some.mpr ⟨fresh.member, rfl⟩
    obtain ⟨last, next, same⟩ := checkRow_of fresh.checked
    simp only [allowance, fresh.charged, source, ResetCheck.charge, same]

theorem preConsume_error_accounts
    (failed : BillingSession.preConsume { funding } settings env info attempt userQuota store quota =
      (.error (.failed code text), after)) : after.SameAccounts store := by
  obtain ⟨effective, -, ⟨_, ⟨⟩, outcome⟩ | ⟨_, _, ⟨⟩⟩⟩ := preConsume_cases failed
  rcases outcome with ⟨⟨⟩⟩ | rfl | rfl
  · exact ⟨rfl, rfl⟩
  · exact rolledBack_sameAccounts

theorem tryWallet_error_accounts
    (failed : tryWallet settings env info attempt store quota = (.error (.failed code text), after)) :
    after.SameAccounts store := by
  obtain ⟨_, _, rfl⟩ | ⟨userQuota, opened⟩ := tryWallet_cases failed
  · exact ⟨rfl, rfl⟩
  · exact preConsume_error_accounts opened

theorem newBillingSession_error_accounts {attempts : Attempts}
    (failed : newBillingSession settings env info attempts store quota = (.error (.failed code text), after)) :
    after.SameAccounts store := by
  obtain ⟨_, _, rfl⟩ | wallet | subscription | ⟨_, between, first, second⟩ | ⟨_, between, first, second⟩ :=
    newBillingSession_cases failed
  · exact ⟨rfl, rfl⟩
  · exact tryWallet_error_accounts wallet
  · exact preConsume_error_accounts subscription
  · have kept := tryWallet_error_accounts first
    have same := preConsume_error_accounts second
    exact ⟨same.1.trans kept.1, same.2.trans kept.2⟩
  · have kept := preConsume_error_accounts first
    have same := tryWallet_error_accounts second
    exact ⟨same.1.trans kept.1, same.2.trans kept.2⟩

theorem preConsumeBilling_error_accounts {attempts : Attempts}
    (failed : preConsumeBilling settings env info attempts store quota = (.error (.failed code text), after)) :
    after.SameAccounts store := by
  unfold preConsumeBilling at failed
  cases opened : newBillingSession settings env info attempts store quota with
  | mk answer changed =>
    cases answer with
    | ok session => simp [opened] at failed
    | error reason =>
      simp only [opened] at failed
      cases failed
      exact newBillingSession_error_accounts opened

/-- A session is opened on the accounts of the call, with the token as an attempt
before it may have left it. -/
theorem newBillingSession_charge {attempts : Attempts} (nonneg : 0 ≤ quota)
    (fresh : store.subscriptions.record? info.requestId = none)
    (done : newBillingSession settings env info attempts store quota = (.ok session, after)) :
    ∃ between : Store, between.SameAccounts store ∧ SessionCharge env info between session after := by
  obtain ⟨_, ⟨⟩, _⟩ | wallet | subscription | ⟨_, between, first, second⟩ | ⟨_, between, first, second⟩ :=
    newBillingSession_cases done
  · exact ⟨store, ⟨rfl, rfl⟩, tryWallet_ok nonneg wallet⟩
  · exact ⟨store, ⟨rfl, rfl⟩, trySubscription_ok fresh subscription⟩
  · have same := tryWallet_error_accounts first
    exact ⟨between, same, trySubscription_ok (same.2 ▸ fresh) second⟩
  · exact ⟨between, preConsume_error_accounts first, tryWallet_ok nonneg second⟩

/-- The wallet and the token have both given `level`. -/
structure Store.Charged (info : RelayInfo) (start : Store) (level : Int) (store : Store) : Prop where
  quota : store.quota = (start.addQuota info.userId (-level)).quota
  token : store.token = (start.chargeToken info level).token

theorem Store.Charged.refl : Store.Charged info store 0 store where
  quota := by rw [Int.neg_zero, Store.addQuota_zero]
  token := by rw [chargeToken_zero]

theorem Store.Charged.charge {start : Store} (charged : Store.Charged info start level store) (quota : Int) :
    Store.Charged info start (level + quota) ((store.addQuota info.userId (-quota)).chargeToken info quota) where
  quota := by
    rw [chargeToken_quota]
    funext id
    by_cases own : id = info.userId
    · simp only [Store.addQuota, charged.quota, own, ↓reduceIte]
      omega
    · simp only [Store.addQuota, charged.quota, own, ↓reduceIte]
  token := by
    have moved : (store.addQuota info.userId (-quota)).token = (start.chargeToken info level).token :=
      charged.token
    cases playground : info.isPlayground with
    | true =>
      rw [Store.chargeToken, playground]
      exact chargeToken_playground moved playground (level + quota)
    | false =>
      rw [Store.chargeToken, playground]
      exact chargeToken_adjust moved playground quota

theorem preConsume_stages
    (done : BillingSession.preConsume { funding } settings env info attempt userQuota store quota =
      (.ok session, after)) :
    funding.preConsume env attempt.funding (store.chargeToken info (max session.preConsumedQuota 0))
      session.preConsumedQuota = (.ok session.funding, after) := by
  obtain ⟨effective, -, ⟨_, ⟨⟩, _⟩ | ⟨paidFrom, paid, ⟨⟩⟩⟩ := preConsume_cases done
  exact paid

theorem tryWallet_charged (done : tryWallet settings env info attempt store quota = (.ok session, after)) :
    Store.Charged info store (max session.preConsumedQuota 0) after := by
  obtain ⟨_, ⟨⟩, _⟩ | ⟨userQuota, opened⟩ := tryWallet_cases done
  obtain ⟨_, ⟨⟩, _⟩ | ⟨_, rfl⟩ := wallet_preConsume_cases (preConsume_stages opened)
  refine ⟨?_, rfl⟩
  simp only [Store.addQuota, chargeToken_quota]

theorem trySubscription_funding
    (done : trySubscription settings env info attempt store quota = (.ok session, after)) :
    session.funding.source = "subscription" := by
  have paid := preConsume_stages done
  simp only [FundingSource.preConsume, Store.onSubscriptions] at paid
  split at paid
  · cases paid
  · obtain ⟨same, _⟩ := Prod.mk.inj paid
    rw [← Except.ok.inj same]
    rfl

/-- A session on the wallet has charged the wallet and the token, and nothing else
has, provided that a failed look at a subscription was rolled back. -/
theorem newBillingSession_wallet {attempts : Attempts}
    (subscriptionRollback : attempts.subscription.rollbackToken = none)
    (done : newBillingSession settings env info attempts store quota = (.ok session, after))
    (wallet : session.funding.source ≠ "subscription") :
    Store.Charged info store (max session.preConsumedQuota 0) after := by
  obtain ⟨_, ⟨⟩, _⟩ | opened | subscription | ⟨_, between, first, second⟩ | ⟨_, between, first, second⟩ :=
    newBillingSession_cases done
  · exact tryWallet_charged opened
  · exact absurd (trySubscription_funding subscription) wallet
  · exact absurd (trySubscription_funding second) wallet
  · obtain rfl := preConsume_error subscriptionRollback first
    exact tryWallet_charged second

end TokenFactory.Billing
