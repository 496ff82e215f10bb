import TokenFactory.Billing.Funding

namespace TokenFactory.Billing

open Go Subscription

/-! `service/billing_session.go`: one session pays for one request. -/

inductive ErrorCode where
  | queryDataError
  | insufficientUserQuota
  | preConsumeTokenQuotaFailed
  | updateDataError
deriving DecidableEq

inductive ApiError where
  | failed (code : ErrorCode) (text : String)
  | diverges
deriving DecidableEq

structure RelayInfo where
  userId : Int
  tokenId : Int
  requestId : String
  isPlayground : Bool
  tokenUnlimited : Bool
  forcePreConsume : Bool
  billingPreference : String
deriving DecidableEq

structure Settings where
  trustQuota : Int
  formatQuota : Int → String

/-- One attempt to pay: what it reads, from a cache or the database, and the
statements that fail in it. `tokenQuota` is the value in the gin context. -/
structure Attempt where
  userQuota : Except String Int
  token : Except String Int
  tokenQuota : Int
  decreaseToken : Option String := none
  funding : Option String := none
  rollbackToken : Option String := none

structure BillingSession where
  funding : FundingSource
  preConsumedQuota : Int := 0
  tokenConsumed : Int := 0
  fundingSettled : Bool := false
  settled : Bool := false
  refunded : Bool := false
deriving DecidableEq

def preConsumeTokenQuota (settings : Settings) (info : RelayInfo) (attempt : Attempt) (store : Store)
    (quota : Int) : Effect Unit :=
  if quota < 0 then (.error (.message "quota 不能为负数！"), store)
  else if info.isPlayground then (.ok (), store)
  else
    match attempt.token with
    | .error text => (.error (.message text), store)
    | .ok remainQuota =>
      if !info.tokenUnlimited ∧ remainQuota < quota then
        (.error (.message ("token quota is not enough, token remain quota: " ++
          settings.formatQuota remainQuota ++ ", need quota: " ++ settings.formatQuota quota)), store)
      else store.decreaseTokenQuota attempt.decreaseToken info.tokenId quota

def shouldTrust (settings : Settings) (info : RelayInfo) (attempt : Attempt) (userQuota : Int) :
    FundingSource → Bool
  | .wallet _ =>
    !info.forcePreConsume && settings.trustQuota > 0 &&
      (info.tokenUnlimited || attempt.tokenQuota > settings.trustQuota) &&
      userQuota > settings.trustQuota
  | .subscription _ => false

def fundingError (text : String) : ApiError :=
  if contains text "no active subscription" || contains text "subscription quota insufficient" then
    .failed .insufficientUserQuota ("订阅额度不足或未配置订阅: " ++ text)
  else .failed .updateDataError text

def BillingSession.preConsume (session : BillingSession) (settings : Settings) (env : Env)
    (info : RelayInfo) (attempt : Attempt) (userQuota : Int) (store : Store) (quota : Int) :
    Except ApiError BillingSession × Store :=
  let effectiveQuota := if shouldTrust settings info attempt userQuota session.funding then 0 else quota
  let charged : Effect Unit :=
    if effectiveQuota > 0 then preConsumeTokenQuota settings info attempt store effectiveQuota
    else (.ok (), store)
  match charged with
  | (.error .diverges, after) => (.error .diverges, after)
  | (.error (.message text), after) => (.error (.failed .preConsumeTokenQuotaFailed text), after)
  | (.ok (), after) =>
    let tokenConsumed := if effectiveQuota > 0 then effectiveQuota else session.tokenConsumed
    match session.funding.preConsume env attempt.funding after effectiveQuota with
    | (.error .diverges, after) => (.error .diverges, after)
    | (.error (.message text), after) =>
      if tokenConsumed > 0 ∧ !info.isPlayground then
        (.error (fundingError text),
          (after.increaseTokenQuota attempt.rollbackToken info.tokenId tokenConsumed).2)
      else (.error (fundingError text), after)
    | (.ok funding, after) =>
      (.ok { session with funding, tokenConsumed, preConsumedQuota := effectiveQuota }, after)

inductive BillingPreference where
  | subscriptionFirst
  | walletFirst
  | subscriptionOnly
  | walletOnly
deriving DecidableEq

def normalizeBillingPreference (preference : String) : BillingPreference :=
  if trimSpace preference = "wallet_first" then .walletFirst
  else if trimSpace preference = "subscription_only" then .subscriptionOnly
  else if trimSpace preference = "wallet_only" then .walletOnly
  else .subscriptionFirst

/-- Both attempts a call may make, and the error of the look for an active
subscription that comes before them. -/
structure Attempts where
  wallet : Attempt
  subscription : Attempt
  activeSubscription : Option String := none

section Opening

variable (settings : Settings) (env : Env) (info : RelayInfo)

def tryWallet (attempt : Attempt) (store : Store) (preConsumedQuota : Int) :
    Except ApiError BillingSession × Store :=
  match attempt.userQuota with
  | .error text => (.error (.failed .queryDataError text), store)
  | .ok userQuota =>
    if userQuota ≤ 0 then
      (.error (.failed .insufficientUserQuota
        ("用户额度不足, 剩余额度: " ++ settings.formatQuota userQuota)), store)
    else if userQuota - preConsumedQuota < 0 then
      (.error (.failed .insufficientUserQuota
        ("预扣费额度失败, 用户剩余额度: " ++ settings.formatQuota userQuota ++ ", 需要预扣费额度: " ++
          settings.formatQuota preConsumedQuota)), store)
    else
      BillingSession.preConsume { funding := .wallet { userId := info.userId } } settings env info
        attempt userQuota store preConsumedQuota

def trySubscription (attempt : Attempt) (store : Store) (preConsumedQuota : Int) :
    Except ApiError BillingSession × Store :=
  let subConsume := if preConsumedQuota ≤ 0 then 1 else preConsumedQuota
  BillingSession.preConsume
    { funding := .subscription { requestId := info.requestId, userId := info.userId, amount := subConsume } }
    settings env info attempt 0 store subConsume

def orElse (first : Except ApiError BillingSession × Store)
    (second : Store → Except ApiError BillingSession × Store) : Except ApiError BillingSession × Store :=
  match first with
  | (.error (.failed .insufficientUserQuota _), after) => second after
  | outcome => outcome

def newBillingSession (attempts : Attempts) (store : Store) (preConsumedQuota : Int) :
    Except ApiError BillingSession × Store :=
  match normalizeBillingPreference info.billingPreference with
  | .subscriptionOnly => trySubscription settings env info attempts.subscription store preConsumedQuota
  | .walletOnly => tryWallet settings env info attempts.wallet store preConsumedQuota
  | .walletFirst =>
    orElse (tryWallet settings env info attempts.wallet store preConsumedQuota) fun after =>
      trySubscription settings env info attempts.subscription after preConsumedQuota
  | .subscriptionFirst =>
    if info.userId ≤ 0 then (.error (.failed .queryDataError "invalid userId"), store)
    else
      match attempts.activeSubscription with
      | some text => (.error (.failed .queryDataError text), store)
      | none =>
        if hasActiveUserSubscription store.subscriptions env.now info.userId then
          orElse (trySubscription settings env info attempts.subscription store preConsumedQuota)
            fun after => tryWallet settings env info attempts.wallet after preConsumedQuota
        else tryWallet settings env info attempts.wallet store preConsumedQuota

end Opening

structure SettleFaults where
  funding : Option String := none
  token : Option String := none

def BillingSession.settle (session : BillingSession) (info : RelayInfo) (faults : SettleFaults)
    (store : Store) (actualQuota : Int) : Except TxError Unit × BillingSession × Store :=
  if session.settled then (.ok (), session, store)
  else
    let delta := actualQuota - session.preConsumedQuota
    if delta = 0 then (.ok (), { session with settled := true }, store)
    else
      let funded := if session.fundingSettled then (.ok (), store)
        else session.funding.settle faults.funding store delta
      match funded with
      | (.error reason, after) => (.error reason, session, after)
      | (.ok (), after) =>
        let adjusted : Effect Unit :=
          if info.isPlayground then (.ok (), after)
          else if delta > 0 then after.decreaseTokenQuota faults.token info.tokenId delta
          else after.increaseTokenQuota faults.token info.tokenId (-delta)
        (adjusted.1, { session with fundingSettled := true, settled := true }, adjusted.2)

def BillingSession.needsRefund (session : BillingSession) : Bool :=
  if session.settled || session.refunded || session.fundingSettled then false
  else if session.tokenConsumed > 0 then true
  else
    match session.funding with
    | .subscription funding => funding.preConsumed > 0
    | .wallet _ => false

/-- `Refund` only marks the session; `true` starts the background job. -/
def BillingSession.refund (session : BillingSession) : BillingSession × Bool :=
  if session.settled || session.refunded || !session.needsRefund then (session, false)
  else ({ session with refunded := true }, true)

structure RefundJobFaults where
  funding : FundingSource.RefundAttempts := {}
  token : Option String := none

/-- The job gives back the funding and then, whatever came of it, the token. -/
def BillingSession.refundJob (session : BillingSession) (info : RelayInfo) (faults : RefundJobFaults)
    (store : Store) : Store :=
  let after := (session.funding.refund faults.funding store).2
  if session.tokenConsumed > 0 ∧ !info.isPlayground then
    (after.increaseTokenQuota faults.token info.tokenId session.tokenConsumed).2
  else after

end TokenFactory.Billing
