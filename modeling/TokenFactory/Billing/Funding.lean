import TokenFactory.Subscription.Refund

namespace TokenFactory.Billing

open Go Subscription

/-! The accounts a request is paid from, and `service/funding_source.go`.

A statement that fails is given by its error text and leaves the store alone;
an update through the batch queue counts as applied. -/

structure TokenQuota where
  remainQuota : Int
  usedQuota : Int
deriving DecidableEq

structure Store where
  quota : Int → Int
  token : Int → TokenQuota
  subscriptions : Database

abbrev Effect (α : Type) := Except TxError α × Store

namespace Store

def addQuota (store : Store) (userId amount : Int) : Store :=
  { store with quota := fun id => if id = userId then store.quota id + amount else store.quota id }

def addToken (store : Store) (tokenId amount : Int) : Store :=
  { store with token := fun id =>
      if id = tokenId then
        { remainQuota := (store.token id).remainQuota + amount
          usedQuota := (store.token id).usedQuota - amount }
      else store.token id }

/-- The four quota functions of the model package: a negative amount is refused. -/
def guarded (store after : Store) (fault : Option String) (quota : Int) : Effect Unit :=
  if quota < 0 then (.error (.message "quota 不能为负数！"), store)
  else
    match fault with
    | some text => (.error (.message text), store)
    | none => (.ok (), after)

def increaseUserQuota (store : Store) (fault : Option String) (id quota : Int) : Effect Unit :=
  guarded store (store.addQuota id quota) fault quota

def decreaseUserQuota (store : Store) (fault : Option String) (id quota : Int) : Effect Unit :=
  guarded store (store.addQuota id (-quota)) fault quota

def increaseTokenQuota (store : Store) (fault : Option String) (id quota : Int) : Effect Unit :=
  guarded store (store.addToken id quota) fault quota

def decreaseTokenQuota (store : Store) (fault : Option String) (id quota : Int) : Effect Unit :=
  guarded store (store.addToken id (-quota)) fault quota

def onSubscriptions (store : Store) (outcome : Tx α) : Effect α :=
  (outcome.1, { store with subscriptions := outcome.2 })

section Lemmas

variable {store after : Store} {amount : Int} {fault : Option String}

@[simp] theorem addToken_quota (store : Store) (tokenId amount : Int) :
    (store.addToken tokenId amount).quota = store.quota := rfl

theorem addToken_addToken (store : Store) (tokenId first second : Int) :
    (store.addToken tokenId first).addToken tokenId second = store.addToken tokenId (first + second) := by
  simp only [addToken, mk.injEq, and_true, true_and]
  funext id
  by_cases own : id = tokenId
  · simp only [own, ↓reduceIte, TokenQuota.mk.injEq]
    omega
  · simp only [own, ↓reduceIte]

theorem addToken_zero (store : Store) (tokenId : Int) : store.addToken tokenId 0 = store := by
  have same : (store.addToken tokenId 0).token = store.token := by
    funext id
    simp [addToken]
  simp only [addToken] at same ⊢
  rw [same]

theorem addQuota_zero (store : Store) (userId : Int) : store.addQuota userId 0 = store := by
  have same : (store.addQuota userId 0).quota = store.quota := by
    funext id
    simp [addQuota]
  simp only [addQuota] at same ⊢
  rw [same]

theorem guarded_error {target : Store} {reason : TxError}
    (failed : guarded store target fault amount = (.error reason, after)) :
    after = store ∧ reason ≠ .diverges := by
  simp only [guarded] at failed
  split at failed
  · cases failed; exact ⟨rfl, nofun⟩
  · cases fault with
    | some text => cases failed; exact ⟨rfl, nofun⟩
    | none => cases failed

theorem guarded_ok {target : Store} (done : guarded store target fault amount = (.ok (), after)) :
    after = target ∧ 0 ≤ amount := by
  simp only [guarded] at done
  split at done
  · cases done
  · cases fault with
    | some text => cases done
    | none => cases done; exact ⟨rfl, by omega⟩

end Lemmas

end Store

structure WalletFunding where
  userId : Int
  consumed : Int := 0
deriving DecidableEq

structure SubscriptionFunding where
  requestId : String
  userId : Int
  amount : Int
  subscriptionId : Int := 0
  preConsumed : Int := 0
deriving DecidableEq

inductive FundingSource where
  | wallet (funding : WalletFunding)
  | subscription (funding : SubscriptionFunding)
deriving DecidableEq

namespace FundingSource

/-- A subscription ignores the amount and charges the one it was built with. -/
def preConsume (env : Env) (fault : Option String) (store : Store) (amount : Int) :
    FundingSource → Effect FundingSource
  | .wallet funding =>
    if amount ≤ 0 then (.ok (.wallet funding), store)
    else
      match store.decreaseUserQuota fault funding.userId amount with
      | (.error reason, after) => (.error reason, after)
      | (.ok (), after) => (.ok (.wallet { funding with consumed := amount }), after)
  | .subscription funding =>
    match store.onSubscriptions (preConsumeUserSubscription env fault store.subscriptions
        funding.requestId funding.userId funding.amount) with
    | (.error reason, after) => (.error reason, after)
    | (.ok result, after) => (.ok (.subscription { funding with
        subscriptionId := result.userSubscriptionId
        preConsumed := result.preConsumed }), after)

def settle (fault : Option String) (store : Store) (delta : Int) : FundingSource → Effect Unit
  | .wallet funding =>
    if delta = 0 then (.ok (), store)
    else if delta > 0 then store.decreaseUserQuota fault funding.userId delta
    else store.increaseUserQuota fault funding.userId (-delta)
  | .subscription funding =>
    if delta = 0 then (.ok (), store)
    else store.onSubscriptions (postConsumeUserSubscriptionDelta fault store.subscriptions
      funding.subscriptionId delta)

/-- What fails in a refund: the one statement of a wallet, or the three attempts
of a subscription. -/
structure RefundAttempts where
  wallet : Option String := none
  first : RefundFaults := {}
  second : RefundFaults := {}
  third : RefundFaults := {}

def refund (faults : RefundAttempts) (store : Store) : FundingSource → Effect Unit
  | .wallet funding =>
    if funding.consumed ≤ 0 then (.ok (), store)
    else store.increaseUserQuota faults.wallet funding.userId funding.consumed
  | .subscription funding =>
    if funding.preConsumed ≤ 0 then (.ok (), store)
    else store.onSubscriptions (refundWithRetry funding.requestId
      [faults.first, faults.second, faults.third] (.ok ()) store.subscriptions)

end FundingSource

end TokenFactory.Billing
