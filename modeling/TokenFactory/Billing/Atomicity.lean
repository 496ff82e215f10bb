import TokenFactory.Billing.Session

namespace TokenFactory.Billing

open Data Go Subscription

/-! Opening a session charges everything or nothing. -/

variable {settings : Settings} {env : Env} {info : RelayInfo} {attempt : Attempt} {store after : Store}
  {session : BillingSession} {userQuota quota amount : Int} {fault : Option String}

/-- What a session takes from the token; the playground has none. -/
def Store.chargeToken (store : Store) (info : RelayInfo) (amount : Int) : Store :=
  if info.isPlayground then store else store.addToken info.tokenId (-amount)

@[simp] theorem chargeToken_quota : (store.chargeToken info amount).quota = store.quota := by
  simp only [Store.chargeToken]
  split <;> rfl

@[simp] theorem chargeToken_subscriptions :
    (store.chargeToken info amount).subscriptions = store.subscriptions := by
  simp only [Store.chargeToken]
  split <;> rfl

theorem chargeToken_zero : store.chargeToken info 0 = store := by
  simp only [Store.chargeToken, Int.neg_zero, Store.addToken_zero]
  split <;> rfl

theorem preConsumeTokenQuota_cases {answer : Except TxError Unit}
    (done : preConsumeTokenQuota settings info attempt store amount = (answer, after)) :
    (∃ text, answer = .error (.message text) ∧ after = store) ∨
      (answer = .ok () ∧ after = store.chargeToken info amount) := by
  simp only [preConsumeTokenQuota] at done
  split at done
  · cases done; exact .inl ⟨_, rfl, rfl⟩
  split at done
  · rename_i playground
    cases done
    exact .inr ⟨rfl, by simp [Store.chargeToken, playground]⟩
  rename_i outside
  cases found : attempt.token with
  | error text => simp only [found] at done; cases done; exact .inl ⟨_, rfl, rfl⟩
  | ok remainQuota =>
    simp only [found] at done
    split at done
    · cases done; exact .inl ⟨_, rfl, rfl⟩
    · cases answer with
      | ok _ =>
        obtain ⟨rfl, _⟩ := Store.guarded_ok done
        exact .inr ⟨rfl, by simp [Store.chargeToken, outside]⟩
      | error reason =>
        obtain ⟨rfl, converges⟩ := Store.guarded_error done
        cases reason with
        | message text => exact .inl ⟨text, rfl, rfl⟩
        | diverges => exact absurd rfl converges

variable {funding : FundingSource}

theorem wallet_preConsume_cases {wallet : WalletFunding} {answer : Except TxError FundingSource}
    (done : FundingSource.preConsume env fault store amount (.wallet wallet) = (answer, after)) :
    (∃ reason, answer = .error reason ∧ after = store) ∨
      (answer = .ok (.wallet (if amount ≤ 0 then wallet else { wallet with consumed := amount })) ∧
        after = store.addQuota wallet.userId (-max amount 0)) := by
  simp only [FundingSource.preConsume] at done
  split at done
  · rename_i free
    cases done
    rw [if_pos free, max_eq_right free, Int.neg_zero, Store.addQuota_zero]
    exact .inr ⟨rfl, rfl⟩
  · rename_i due
    split at done <;> rename_i charged <;> cases done
    · exact .inl ⟨_, rfl, (Store.guarded_error charged).1⟩
    · rw [if_neg due, max_eq_left (by omega)]
      exact .inr ⟨rfl, (Store.guarded_ok charged).1⟩

theorem funding_preConsume_error {reason : TxError}
    (failed : funding.preConsume env fault store amount = (.error reason, after)) : after = store := by
  cases funding with
  | wallet wallet =>
    obtain ⟨_, _, same⟩ | ⟨⟨⟩, _⟩ := wallet_preConsume_cases failed
    exact same
  | subscription subscription =>
    simp only [FundingSource.preConsume, Store.onSubscriptions] at failed
    cases paid : preConsumeUserSubscription env fault store.subscriptions subscription.requestId
        subscription.userId subscription.amount with
    | mk answer changed =>
      cases answer with
      | ok result => simp [paid] at failed
      | error cause =>
        simp only [paid, Prod.mk.injEq, Except.error.injEq] at failed
        rw [← failed.2, preConsume_error paid]

/-- The account that a session is paid from, and what was taken. -/
inductive FundingCharge (env : Env) (info : RelayInfo) (store : Store) (amount : Int) (after : Store) :
    FundingSource → Prop where
  | wallet (quota : after.quota = (store.addQuota info.userId (-amount)).quota)
      (subscriptions : after.subscriptions = store.subscriptions) :
      FundingCharge env info store amount after (.wallet { userId := info.userId, consumed := amount })
  | subscription {passed : List ResetCheck} {row : UserSubscription} {chosen : ResetCheck}
      (charge : FreshCharge env store.subscriptions info.requestId info.userId amount passed row chosen
        after.subscriptions)
      (quota : after.quota = store.quota) :
      FundingCharge env info store amount after (.subscription {
        requestId := info.requestId
        userId := info.userId
        amount
        subscriptionId := row.id
        preConsumed := amount })

theorem FundingCharge.of_chargeToken
    (charge : FundingCharge env info (store.chargeToken info quota) amount after funding) :
    FundingCharge env info store amount after funding := by
  cases charge with
  | wallet quota subscriptions =>
    refine .wallet ?_ (subscriptions.trans chargeToken_subscriptions)
    rw [quota]
    simp only [Store.addQuota, chargeToken_quota]
  | subscription charge quota =>
    rw [chargeToken_subscriptions] at charge
    exact .subscription charge (quota.trans chargeToken_quota)

theorem wallet_preConsume_ok (nonneg : 0 ≤ amount)
    (paid : FundingSource.preConsume env fault store amount (.wallet { userId := info.userId }) =
      (.ok funding, after)) :
    after.token = store.token ∧ FundingCharge env info store amount after funding := by
  obtain ⟨_, ⟨⟩, _⟩ | ⟨⟨⟩, rfl⟩ := wallet_preConsume_cases paid
  have consumed : (if amount ≤ 0 then { userId := info.userId }
      else { userId := info.userId, consumed := amount } : WalletFunding) =
      { userId := info.userId, consumed := amount } := by
    grind
  rw [max_eq_left nonneg, consumed]
  exact ⟨rfl, .wallet rfl rfl⟩

theorem subscription_preConsume_ok (fresh : store.subscriptions.record? info.requestId = none)
    (paid : FundingSource.preConsume env fault store quota
      (.subscription { requestId := info.requestId, userId := info.userId, amount }) = (.ok funding, after)) :
    after.token = store.token ∧ FundingCharge env info store amount after funding := by
  simp only [FundingSource.preConsume, Store.onSubscriptions] at paid
  cases charged : preConsumeUserSubscription env fault store.subscriptions info.requestId info.userId
      amount with
  | mk answer changed =>
    cases answer with
    | error reason => simp [charged] at paid
    | ok result =>
      simp only [charged] at paid
      cases paid
      obtain ⟨passed, row, chosen, charge, own, same⟩ := preConsume_fresh fresh charged
      rw [own, same]
      exact ⟨rfl, .subscription charge rfl⟩

/-- The effect of a session that was opened: one account and, outside the
playground, the token were charged with `preConsumedQuota`. -/
structure SessionCharge (env : Env) (info : RelayInfo) (store : Store) (session : BillingSession)
    (after : Store) : Prop where
  nonneg : 0 ≤ session.preConsumedQuota
  consumed : session.tokenConsumed = session.preConsumedQuota
  unsettled : session.settled = false ∧ session.fundingSettled = false
  unrefunded : session.refunded = false
  token : after.token = (store.chargeToken info session.preConsumedQuota).token
  funding : FundingCharge env info store session.preConsumedQuota after session.funding

theorem token_stage {effectiveQuota : Int} {answer : Except TxError Unit}
    (charged : (if effectiveQuota > 0 then preConsumeTokenQuota settings info attempt store effectiveQuota
      else (.ok (), store)) = (answer, after)) :
    (∃ text, answer = .error (.message text) ∧ after = store) ∨
      (answer = .ok () ∧ after = store.chargeToken info (if effectiveQuota > 0 then effectiveQuota else 0)) := by
  by_cases positive : effectiveQuota > 0
  · simp only [positive, ↓reduceIte] at charged ⊢
    exact preConsumeTokenQuota_cases charged
  · simp only [positive, ↓reduceIte] at charged ⊢
    cases charged
    exact .inr ⟨rfl, chargeToken_zero.symm⟩

theorem rollback_chargeToken (positive : 0 < amount) (outside : info.isPlayground = false) :
    ((store.chargeToken info amount).increaseTokenQuota none info.tokenId amount).2 = store := by
  have nonneg : ¬ amount < 0 := by omega
  simp only [Store.increaseTokenQuota, Store.guarded, nonneg, ↓reduceIte, Store.chargeToken, outside,
    Bool.false_eq_true, Store.addToken_addToken]
  rw [Int.add_comm, Int.add_right_neg, Store.addToken_zero]

/-- The token after its charge was given back, as far as the rollback succeeds. -/
def Store.rolledBack (store : Store) (info : RelayInfo) (attempt : Attempt) (consumed : Int) : Store :=
  if consumed > 0 ∧ !info.isPlayground then
    ((store.chargeToken info consumed).increaseTokenQuota attempt.rollbackToken info.tokenId consumed).2
  else store.chargeToken info consumed

theorem rolledBack_eq (rollback : attempt.rollbackToken = none) {consumed : Int} (nonneg : 0 ≤ consumed) :
    store.rolledBack info attempt consumed = store := by
  unfold Store.rolledBack
  split_ifs with rolls
  · rw [rollback]
    exact rollback_chargeToken rolls.1 (by simpa using rolls.2)
  · cases playground : info.isPlayground with
    | true => simp [Store.chargeToken, playground]
    | false =>
      have zero : consumed = 0 := by
        have : ¬ consumed > 0 := fun positive => rolls ⟨positive, by simp [playground]⟩
        omega
      rw [zero, chargeToken_zero]

variable {answer : Except ApiError BillingSession}

/-- Every outcome of a pre-consume: the token is charged first, and is given back if the account could
not be charged. -/
theorem preConsume_cases
    (done : BillingSession.preConsume { funding } settings env info attempt userQuota store quota = (answer, after)) :
    ∃ effective : Int, effective = (if shouldTrust settings info attempt userQuota funding then 0 else quota) ∧
      ((∃ reason, answer = .error reason ∧
          (reason = .diverges ∨ after = store ∨ after = store.rolledBack info attempt (max effective 0))) ∨
        ∃ paidFrom, funding.preConsume env attempt.funding (store.chargeToken info (max effective 0)) effective =
            (.ok paidFrom, after) ∧
          answer = .ok { funding := paidFrom, tokenConsumed := max effective 0, preConsumedQuota := effective }) := by
  simp only [BillingSession.preConsume] at done
  generalize (if shouldTrust settings info attempt userQuota funding then 0 else quota) = effective at done ⊢
  refine ⟨effective, rfl, ?_⟩
  cases charged : (if effective > 0 then preConsumeTokenQuota settings info attempt store effective
      else (.ok (), store)) with
  | mk tokens between =>
    have level : (if effective > 0 then effective else 0) = max effective 0 := by split <;> omega
    rw [charged, level] at done
    rcases token_stage charged with ⟨reason, rfl, rfl⟩ | ⟨rfl, rfl⟩
    · cases done
      exact .inl ⟨_, rfl, .inr (.inl rfl)⟩
    rw [level] at done
    cases paid : funding.preConsume env attempt.funding (store.chargeToken info (max effective 0)) effective with
    | mk outcome changed =>
      simp only [paid] at done
      cases outcome with
      | ok paidFrom =>
        cases done
        exact .inr ⟨paidFrom, rfl, rfl⟩
      | error reason =>
        obtain rfl := funding_preConsume_error paid
        cases reason with
        | diverges =>
          cases done
          exact .inl ⟨_, rfl, .inl rfl⟩
        | message text =>
          simp only at done
          split at done
          next rolls =>
            cases done
            exact .inl ⟨_, rfl, .inr (.inr (if_pos rolls).symm)⟩
          next keeps =>
            cases done
            exact .inl ⟨_, rfl, .inr (.inr (if_neg keeps).symm)⟩

theorem preConsume_error (rollback : attempt.rollbackToken = none)
    {code : ErrorCode} {text : String}
    (failed : BillingSession.preConsume { funding } settings env info attempt userQuota store quota =
      (.error (.failed code text), after)) : after = store := by
  obtain ⟨effective, -, ⟨reason, eq, outcome⟩ | ⟨_, _, ⟨⟩⟩⟩ := preConsume_cases failed
  cases eq
  rcases outcome with diverges | rfl | rfl
  · cases diverges
  · rfl
  · exact rolledBack_eq rollback (Int.le_max_right effective 0)

theorem preConsume_ok
    (paysExactly : ∀ amount between paidFrom, 0 ≤ amount → between.subscriptions = store.subscriptions →
      (shouldTrust settings info attempt userQuota funding = false → amount = quota) →
      funding.preConsume env attempt.funding between amount = (.ok paidFrom, after) →
      after.token = between.token ∧ FundingCharge env info between amount after paidFrom)
    (nonneg : 0 ≤ quota)
    (done : BillingSession.preConsume { funding } settings env info attempt userQuota store quota =
      (.ok session, after)) : SessionCharge env info store session after := by
  obtain ⟨effective, eq, ⟨_, ⟨⟩, _⟩ | ⟨paidFrom, paid, answer⟩⟩ := preConsume_cases done
  cases answer
  have exactly : shouldTrust settings info attempt userQuota funding = false → effective = quota := by
    intro untrusted
    rw [eq, untrusted]
    rfl
  have effective_nonneg : 0 ≤ effective := by
    rw [eq]
    split <;> omega
  rw [Int.max_eq_left effective_nonneg] at paid ⊢
  obtain ⟨token, charge⟩ := paysExactly _ _ _ effective_nonneg chargeToken_subscriptions exactly paid
  exact {
    nonneg := effective_nonneg
    consumed := rfl
    unsettled := ⟨rfl, rfl⟩
    unrefunded := rfl
    token
    funding := charge.of_chargeToken }

theorem tryWallet_cases (done : tryWallet settings env info attempt store quota = (answer, after)) :
    (∃ reason, answer = .error reason ∧ after = store) ∨
      ∃ userQuota, BillingSession.preConsume { funding := .wallet { userId := info.userId } } settings env info attempt
        userQuota store quota = (answer, after) := by
  simp only [tryWallet] at done
  cases found : attempt.userQuota with
  | error text =>
    simp only [found] at done
    cases done
    exact .inl ⟨_, rfl, rfl⟩
  | ok userQuota =>
    simp only [found] at done
    split_ifs at done
    · cases done; exact .inl ⟨_, rfl, rfl⟩
    · cases done; exact .inl ⟨_, rfl, rfl⟩
    · exact .inr ⟨userQuota, done⟩

theorem tryWallet_ok (nonneg : 0 ≤ quota)
    (done : tryWallet settings env info attempt store quota = (.ok session, after)) :
    SessionCharge env info store session after := by
  obtain ⟨_, ⟨⟩, _⟩ | ⟨userQuota, opened⟩ := tryWallet_cases done
  refine preConsume_ok ?_ nonneg opened
  intro amount between paidFrom positive _ _ paid
  exact wallet_preConsume_ok positive paid

theorem tryWallet_error (rollback : attempt.rollbackToken = none) {code : ErrorCode} {text : String}
    (failed : tryWallet settings env info attempt store quota = (.error (.failed code text), after)) :
    after = store := by
  obtain ⟨_, _, same⟩ | ⟨userQuota, opened⟩ := tryWallet_cases failed
  · exact same
  · exact preConsume_error rollback opened

theorem trySubscription_ok (fresh : store.subscriptions.record? info.requestId = none)
    (done : trySubscription settings env info attempt store quota = (.ok session, after)) :
    SessionCharge env info store session after := by
  have nonneg : 0 ≤ (if quota ≤ 0 then 1 else quota) := by split <;> omega
  refine preConsume_ok ?_ nonneg done
  intro amount between paidFrom _ same effective paid
  obtain rfl := effective rfl
  exact subscription_preConsume_ok (same ▸ fresh) paid

theorem orElse_cases {first : Except ApiError BillingSession × Store}
    {second : Store → Except ApiError BillingSession × Store}
    (done : orElse first second = (answer, after)) : first = (answer, after) ∨ ∃ text between,
      first = (.error (.failed .insufficientUserQuota text), between) ∧ second between = (answer, after) := by
  simp only [orElse] at done
  split at done
  · exact .inr ⟨_, _, rfl, done⟩
  · exact .inl done

/-- A call tries one account, or the other one after the first had too little. -/
theorem newBillingSession_cases {attempts : Attempts}
    (done : newBillingSession settings env info attempts store quota = (answer, after)) :
    (∃ reason, answer = .error reason ∧ after = store) ∨
      tryWallet settings env info attempts.wallet store quota = (answer, after) ∨
      trySubscription settings env info attempts.subscription store quota = (answer, after) ∨
      (∃ text between,
        tryWallet settings env info attempts.wallet store quota =
          (.error (.failed .insufficientUserQuota text), between) ∧
        trySubscription settings env info attempts.subscription between quota = (answer, after)) ∨
      ∃ text between, trySubscription settings env info attempts.subscription store quota =
          (.error (.failed .insufficientUserQuota text), between) ∧
        tryWallet settings env info attempts.wallet between quota = (answer, after) := by
  simp only [newBillingSession] at done
  split at done
  · exact .inr (.inr (.inl done))
  · exact .inr (.inl done)
  · rcases orElse_cases done with first | second
    · exact .inr (.inl first)
    · exact .inr (.inr (.inr (.inl second)))
  · split at done
    · cases done; exact .inl ⟨_, rfl, rfl⟩
    split at done
    · cases done; exact .inl ⟨_, rfl, rfl⟩
    split at done
    · rcases orElse_cases done with first | second
      · exact .inr (.inr (.inl first))
      · exact .inr (.inr (.inr (.inr second)))
    · exact .inr (.inl done)

section Opening

variable {attempts : Attempts} (walletRollback : attempts.wallet.rollbackToken = none)
  (subscriptionRollback : attempts.subscription.rollbackToken = none)

include walletRollback subscriptionRollback

theorem newBillingSession_error {code : ErrorCode} {text : String}
    (failed : newBillingSession settings env info attempts store quota = (.error (.failed code text), after)) :
    after = store := by
  obtain ⟨_, _, same⟩ | wallet | subscription | ⟨_, between, first, second⟩ | ⟨_, between, first, second⟩ :=
    newBillingSession_cases failed
  · exact same
  · exact tryWallet_error walletRollback wallet
  · exact preConsume_error subscriptionRollback subscription
  · obtain rfl := tryWallet_error walletRollback first
    exact preConsume_error subscriptionRollback second
  · obtain rfl := preConsume_error subscriptionRollback first
    exact tryWallet_error walletRollback second

theorem newBillingSession_ok (nonneg : 0 ≤ quota)
    (fresh : store.subscriptions.record? info.requestId = none)
    (done : newBillingSession settings env info attempts store quota = (.ok session, after)) :
    SessionCharge env info store session after := by
  obtain ⟨_, ⟨⟩, _⟩ | wallet | subscription | ⟨_, between, first, second⟩ | ⟨_, between, first, second⟩ :=
    newBillingSession_cases done
  · exact tryWallet_ok nonneg wallet
  · exact trySubscription_ok fresh subscription
  · obtain rfl := tryWallet_error walletRollback first
    exact trySubscription_ok fresh second
  · obtain rfl := preConsume_error subscriptionRollback first
    exact tryWallet_ok nonneg second

end Opening

/-- Exactly the account of the funding source is charged: the wallet, or one
subscription of the user on top of its reset check. -/
def ChargesOnly (env : Env) (info : RelayInfo) (store after : Store) (amount : Int) : FundingSource → Prop
  | .wallet _ =>
    after.quota = (store.addQuota info.userId (-amount)).quota ∧ after.subscriptions = store.subscriptions
  | .subscription _ =>
    after.quota = store.quota ∧
    ∃ sub ∈ store.subscriptions.subscriptions, ∃ check, sub.userId = info.userId ∧
      checkRow env sub = some check ∧
      after.subscriptions.subscription? sub.id =
        some { check.sub with amountUsed := check.sub.amountUsed + amount } ∧
      ∀ other ∈ store.subscriptions.subscriptions, other.id ≠ sub.id →
        after.subscriptions.subscription? other.id = some other ∨
        ∃ passed, checkRow env other = some passed ∧
          after.subscriptions.subscription? other.id = some passed.sub

/-- An error leaves the store as it was; a session has charged one account and,
outside the playground, the token with what it reports. A call that never
returns does neither. The request id is new: the server draws it per request. -/
theorem new_billing_session_all_or_nothing (settings : Settings) (env : Env) (info : RelayInfo)
    (attempts : Attempts) (store : Store) (preConsumedQuota : Int) (nonneg : 0 ≤ preConsumedQuota)
    (fresh : store.subscriptions.record? info.requestId = none)
    (walletRollback : attempts.wallet.rollbackToken = none)
    (subscriptionRollback : attempts.subscription.rollbackToken = none) :
    match newBillingSession settings env info attempts store preConsumedQuota with
    | (.error .diverges, _) => True
    | (.error (.failed _ _), after) => after = store
    | (.ok session, after) =>
      ChargesOnly env info store after session.preConsumedQuota session.funding ∧ after.token =
        if info.isPlayground then store.token
        else (store.addToken info.tokenId (-session.preConsumedQuota)).token := by
  cases done : newBillingSession settings env info attempts store preConsumedQuota with
  | mk answer after =>
    cases answer with
    | error reason =>
      cases reason with
      | diverges => trivial
      | failed code text => exact newBillingSession_error walletRollback subscriptionRollback done
    | ok session =>
      have charge := newBillingSession_ok walletRollback subscriptionRollback nonneg fresh done
      refine ⟨?_, ?_⟩
      · cases shape : session.funding with
        | wallet funding =>
          have funded := charge.funding
          rw [shape] at funded
          cases funded with
          | wallet quota subscriptions => exact ⟨quota, subscriptions⟩
        | subscription funding =>
          have funded := charge.funding
          rw [shape] at funded
          cases funded with
          | @subscription passed row chosen fresh quota =>
            exact ⟨quota, row, fresh.member, chosen, fresh.owner, fresh.checked, fresh.charged,
              fun other member apart => fresh.others member apart⟩
      · cases playground : info.isPlayground <;> simp [charge.token, Store.chargeToken, playground]

/-! A concrete account, for runs on fixed inputs. -/

def plainSettings : Settings := ⟨0, fun quota => toString quota⟩

def caller (billingPreference : String) : RelayInfo where
  userId := 7
  tokenId := 1
  requestId := "request"
  isPlayground := false
  tokenUnlimited := false
  forcePreConsume := false
  billingPreference

/-- 100 units in the wallet and on the token, and no subscription. -/
def walletStore : Store where
  quota _ := 100
  token _ := ⟨100, 0⟩
  subscriptions := .empty fun _ => some "default"

def plainAttempt : Attempt := { userQuota := .ok 100, token := .ok 100, tokenQuota := 100 }

def anyTime : Env := utcAt 1000 (thirtyDays "" "never")

theorem new_billing_session_all_or_nothing_by_wallet :
    let opened := newBillingSession plainSettings anyTime (caller "wallet_first")
      ⟨plainAttempt, plainAttempt, none⟩ walletStore 10
    opened.2.quota = (walletStore.addQuota 7 (-10)).quota ∧
      opened.2.token = (walletStore.addToken 1 (-10)).token := by
  intro opened
  have holds := new_billing_session_all_or_nothing plainSettings anyTime (caller "wallet_first")
    ⟨plainAttempt, plainAttempt, none⟩ walletStore 10 (by decide) rfl rfl rfl
  exact ⟨holds.1.1, holds.2⟩

end TokenFactory.Billing
