import TokenFactory.Billing.Atomicity

namespace TokenFactory.Billing

open Data Go Subscription

/-! What a session takes in total. -/

inductive SessionEvent where
  | settle (actual : Int)
  | refund
  | background
deriving DecidableEq

inductive Ending where
  | settled (actual : Int)
  | refunded
deriving DecidableEq

/-- `pending` is a refund job that has not run; `first` is the first call that
took effect. -/
structure SessionRun where
  store : Store
  session : BillingSession
  pending : Bool
  first : Option Ending

namespace SessionRun

def opening (session : BillingSession) (store : Store) : SessionRun := ⟨store, session, false, none⟩

def step (info : RelayInfo) (state : SessionRun) : SessionEvent → SessionRun
  | .settle actual =>
    let outcome := state.session.settle info {} state.store actual
    { state with
      store := outcome.2.2
      session := outcome.2.1
      first := match state.first, outcome.1 with
        | none, .ok () => some (.settled actual)
        | first, _ => first }
  | .refund =>
    let outcome := state.session.refund
    { state with
      session := outcome.1
      pending := state.pending || outcome.2
      first := if outcome.2 ∧ state.first = none then some .refunded else state.first }
  | .background =>
    if state.pending then
      { state with store := state.session.refundJob info {} state.store, pending := false }
    else state

/-- A session that has not been settled is settled with a non-negative amount,
and after a refund only with what was pre-consumed. -/
def Orderly (state : SessionRun) : SessionEvent → Prop
  | .settle actual => state.session.settled = true ∨
      (0 ≤ actual ∧ (state.session.refunded = true → actual = state.session.preConsumedQuota))
  | _ => True

instance (state : SessionRun) : (event : SessionEvent) → Decidable (state.Orderly event)
  | .settle _ => inferInstanceAs (Decidable (_ ∨ _))
  | .refund | .background => .isTrue trivial

end SessionRun

/-- What is taken from the account: the wallet counts down, the usage up. -/
def taken (store : Store) : FundingSource → Int
  | .wallet funding => -store.quota funding.userId
  | .subscription funding =>
    match store.subscriptions.subscription? funding.subscriptionId with
    | none => 0
    | some sub => sub.amountUsed

/-- The same before the session; a reset that is due comes first. -/
def takenBefore (env : Env) (store : Store) : FundingSource → Int
  | .wallet funding => -store.quota funding.userId
  | .subscription funding =>
    match (store.subscriptions.subscription? funding.subscriptionId).bind (checkRow env) with
    | none => 0
    | some check => check.sub.amountUsed

variable {env : Env} {info : RelayInfo} {start store after : Store} {amount level base delta : Int}
  {funding : FundingSource}

/-- The account holds `base` and `level` on top of it, and can give back `amount`
while the record is still consumed. -/
inductive AccountLevel (base amount level : Int) (refundable : Bool) (store : Store) :
    FundingSource → Prop where
  | wallet {userId : Int} (held : -store.quota userId = base + level) :
      AccountLevel base amount level refundable store (.wallet { userId, consumed := amount })
  | subscription {funding : SubscriptionFunding} {sub : UserSubscription}
      {record : SubscriptionPreConsumeRecord}
      (preConsumed : funding.preConsumed = amount)
      (held : store.subscriptions.subscription? funding.subscriptionId = some sub)
      (used : sub.amountUsed = base + level) (nonneg : 0 ≤ base)
      (bounded : 0 < sub.amountTotal → sub.amountUsed ≤ sub.amountTotal)
      (named : trimSpace funding.requestId ≠ "")
      (found : store.subscriptions.record? funding.requestId = some record)
      (recorded : record.preConsumed = amount ∧ record.userSubscriptionId = funding.subscriptionId)
      (status : refundable = true → record.status = .consumed) :
      AccountLevel base amount level refundable store (.subscription funding)

variable {refundable : Bool}

section
variable (account : AccountLevel base amount level refundable store funding)
include account

theorem AccountLevel.taken : taken store funding = base + level := by
  cases account with
  | wallet held => exact held
  | subscription _ held used => simp only [Billing.taken, held, used]

theorem AccountLevel.congr (quota : after.quota = store.quota)
    (subscriptions : after.subscriptions = store.subscriptions) :
    AccountLevel base amount level refundable after funding := by
  cases account with
  | wallet held => exact .wallet (by rw [quota]; exact held)
  | subscription preConsumed held used nonneg bounded named found recorded status =>
    exact .subscription preConsumed (by rw [subscriptions]; exact held) used nonneg bounded named
      (by rw [subscriptions]; exact found) recorded status

end

theorem settle_error {fault : Option String} {reason : TxError}
    (failed : funding.settle fault store delta = (.error reason, after)) : after = store := by
  cases funding with
  | wallet wallet =>
    simp only [FundingSource.settle] at failed
    split at failed
    · cases failed
    split at failed <;> exact (Store.guarded_error failed).1
  | subscription subscription =>
    simp only [FundingSource.settle, Store.onSubscriptions] at failed
    split at failed
    · cases failed
    cases paid : postConsumeUserSubscriptionDelta fault store.subscriptions subscription.subscriptionId
        delta with
    | mk answer changed =>
      simp only [paid] at failed
      cases failed
      rw [postConsume_error paid]

theorem settle_moves_level {fault : Option String}
    (account : AccountLevel base amount level refundable store funding) (nonneg : 0 ≤ level + delta)
    (done : funding.settle fault store delta = (.ok (), after)) :
    AccountLevel base amount (level + delta) refundable after funding ∧ after.token = store.token := by
  cases account with
  | @wallet userId held =>
    have moved : ∀ change, after = store.addQuota userId change → change = -delta →
        AccountLevel base amount (level + delta) refundable after
          (.wallet { userId, consumed := amount }) ∧ after.token = store.token := by
      intro change same opposite
      subst same opposite
      refine ⟨.wallet ?_, rfl⟩
      simp only [Store.addQuota, ↓reduceIte]
      omega
    simp only [FundingSource.settle] at done
    split at done
    · cases done
      exact moved 0 (Store.addQuota_zero _ _).symm (by omega)
    split at done <;> exact moved _ (Store.guarded_ok done).1 rfl
  | @subscription funding sub record preConsumed held used positive bounded named found recorded status =>
    simp only [FundingSource.settle, Store.onSubscriptions] at done
    split at done
    · cases done
      refine ⟨.subscription preConsumed held ?_ positive bounded named found recorded status, rfl⟩
      omega
    rename_i moves
    cases paid : postConsumeUserSubscriptionDelta fault store.subscriptions funding.subscriptionId delta with
    | mk answer changed =>
      simp only [paid] at done
      cases done
      rcases postConsume_cases paid with ⟨_, zero⟩ | ⟨other, newUsed, present, accepted, _, rfl⟩
      · exact absurd (zero rfl) moves
      · obtain rfl : sub = other := by simpa [held] using present
        obtain ⟨rfl, fits⟩ := usedAfter_eq_some.mp accepted
        have keyed := Table.key_of_lookup held
        refine ⟨.subscription preConsumed (Table.lookup_save_self held keyed) ?_ positive fits named found recorded
          status, rfl⟩
        dsimp only
        omega

theorem refund_clears_level (account : AccountLevel base amount amount true store funding)
    (nonneg : 0 ≤ amount) : AccountLevel base amount 0 false (funding.refund {} store).2 funding ∧
      (funding.refund {} store).2.token = store.token := by
  cases account with
  | @wallet userId held =>
    simp only [FundingSource.refund]
    split
    · refine ⟨.wallet ?_, rfl⟩
      dsimp only
      omega
    · have valid : ¬ amount < 0 := by omega
      simp only [Store.increaseUserQuota, Store.guarded, valid, ↓reduceIte]
      refine ⟨.wallet ?_, rfl⟩
      simp only [Store.addQuota, ↓reduceIte]
      omega
  | @subscription funding sub record preConsumed held used nonnegative bounded named found recorded status =>
    have positive := record.positive
    have moves : ¬ funding.preConsumed ≤ 0 := by omega
    have refundable : Refundable store.subscriptions funding.requestId record sub := {
      named
      found
      consumed := status rfl
      held := by rw [recorded.2]; exact held
      accepted := by
        refine usedAfter_eq_some.mpr ⟨?_, ?_⟩
        · simp only [UserSubscription.refunded, Int.sub_eq_add_neg]
        · intro limited
          simp only [UserSubscription.refunded]
          omega }
    have called := refundable.call (show ({} : RefundFaults).reaches = true from rfl)
    simp only [FundingSource.refund, moves, ↓reduceIte, Store.onSubscriptions, refundWithRetry, called]
    have back := refundable.held_after
    rw [recorded.2] at back
    have stored := refundable.found_after
    refine ⟨.subscription preConsumed back ?_ nonnegative ?_ named stored recorded Bool.false_ne_true.elim, trivial⟩
    · simp only [UserSubscription.refunded]
      omega
    · intro limited
      have := bounded limited
      simp only [UserSubscription.refunded]
      omega

variable {session : BillingSession}

theorem opened_level (charge : SessionCharge env info start session store)
    (nonneg : ∀ sub ∈ start.subscriptions.subscriptions, 0 ≤ sub.amountUsed) :
    AccountLevel (takenBefore env start session.funding) session.preConsumedQuota session.preConsumedQuota
      true store session.funding := by
  have funded := charge.funding
  revert funded
  generalize session.funding = funding
  intro funded
  cases funded with
  | wallet quota subscriptions =>
    refine .wallet ?_
    simp only [takenBefore, quota, Store.addQuota, ↓reduceIte]
    omega
  | @subscription passed row chosen fresh quota =>
    obtain ⟨record, found, on, amount, consumed⟩ := fresh.recorded
    have source : start.subscriptions.subscription? row.id = some row :=
      Table.lookup_eq_some.mpr ⟨fresh.member, rfl⟩
    have before : takenBefore env start (.subscription {
        requestId := info.requestId, userId := info.userId, amount := session.preConsumedQuota,
        subscriptionId := row.id, preConsumed := session.preConsumedQuota }) = chosen.sub.amountUsed := by
      simp only [takenBefore, source, Option.bind_some, fresh.checked]
    have unused : 0 ≤ chosen.sub.amountUsed := by
      have := nonneg row fresh.member
      obtain ⟨last, next, same⟩ := checkRow_of fresh.checked
      rw [same]
      dsimp only
      split <;> omega
    rw [before]
    exact .subscription rfl fresh.charged rfl unused (lacksQuota_eq_false.mp fresh.room) fresh.named found
      ⟨amount, on⟩ fun _ => consumed

structure Level (info : RelayInfo) (start : Store) (base amount level : Int) (refundable : Bool)
    (funding : FundingSource) (store : Store) : Prop where
  account : AccountLevel base amount level refundable store funding
  token : store.token = (start.chargeToken info level).token

theorem Level.taken (held : Level info start base amount level refundable funding store) :
    taken store funding - base = level := by
  have := held.account.taken
  omega

/-- Where a session stands: nothing has taken effect, it was settled, or it was
refunded and the job is still to run or has run. -/
inductive Phase (info : RelayInfo) (start : Store) (base amount : Int) (funding : FundingSource)
    (state : SessionRun) : Prop where
  | opened (first : state.first = none)
      (unsettled : state.session.settled = false ∧ state.session.fundingSettled = false)
      (unrefunded : state.session.refunded = false) (idle : state.pending = false)
      (level : Level info start base amount amount true funding state.store)
  | settled {actual : Int} (first : state.first = some (.settled actual))
      (settled : state.session.settled = true) (idle : state.pending = false) (nonneg : 0 ≤ actual)
      (level : Level info start base amount actual true funding state.store)
  | refunding (first : state.first = some .refunded) (refunded : state.session.refunded = true)
      (pending : state.pending = true)
      (level : Level info start base amount amount true funding state.store)
  | refunded (first : state.first = some .refunded) (refunded : state.session.refunded = true)
      (idle : state.pending = false) (level : Level info start base amount 0 false funding state.store)

structure Balanced (info : RelayInfo) (start : Store) (base amount : Int) (funding : FundingSource)
    (state : SessionRun) : Prop where
  paidFrom : state.session.funding = funding
  preConsumed : state.session.preConsumedQuota = amount
  consumed : state.session.tokenConsumed = amount
  phase : Phase info start base amount funding state

theorem chargeToken_adjust (moved : store.token = (start.chargeToken info level).token)
    (outside : info.isPlayground = false) (change : Int) :
    (store.addToken info.tokenId (-change)).token = (start.chargeToken info (level + change)).token := by
  simp only [Store.chargeToken, outside, Bool.false_eq_true, ↓reduceIte] at moved ⊢
  funext id
  by_cases own : id = info.tokenId
  · simp only [Store.addToken, moved, own, ↓reduceIte, TokenQuota.mk.injEq]
    omega
  · simp only [Store.addToken, moved, own, ↓reduceIte]

theorem chargeToken_playground (moved : store.token = (start.chargeToken info level).token)
    (playground : info.isPlayground = true) (other : Int) :
    store.token = (start.chargeToken info other).token := by
  rw [moved, Store.chargeToken, Store.chargeToken, playground]
  rfl

variable {actual : Int}

/-- The first settlement of an open session: either the account refuses it and
nothing changes, or it moves the level to the actual amount. -/
theorem settle_open
    (unsettled : session.settled = false ∧ session.fundingSettled = false) (nonneg : 0 ≤ actual)
    (level : Level info start base session.preConsumedQuota session.preConsumedQuota true session.funding
      store) : (∃ reason, session.settle info {} store actual = (.error reason, session, store)) ∨
    ∃ fundingSettled changed,
      session.settle info {} store actual = (.ok (), { session with settled := true, fundingSettled }, changed) ∧
      Level info start base session.preConsumedQuota actual true session.funding changed := by
  simp only [BillingSession.settle, unsettled.1, Bool.false_eq_true, ↓reduceIte]
  by_cases zero : actual - session.preConsumedQuota = 0
  · have same : session.preConsumedQuota = actual := by omega
    simp only [zero, ↓reduceIte]
    exact .inr ⟨session.fundingSettled, store, rfl, same ▸ level⟩
  simp only [zero, unsettled.2, Bool.false_eq_true, ↓reduceIte]
  cases paid : session.funding.settle none store (actual - session.preConsumedQuota) with
  | mk answer changed =>
    cases answer with
    | error reason =>
      rw [settle_error paid]
      exact .inl ⟨reason, rfl⟩
    | ok _ =>
      have reaches : session.preConsumedQuota + (actual - session.preConsumedQuota) = actual := by omega
      obtain ⟨account, token⟩ := settle_moves_level level.account (by omega) paid
      rw [reaches] at account
      have moved := token.trans level.token
      cases playground : info.isPlayground with
      | true =>
        exact .inr ⟨true, changed, rfl, account, chargeToken_playground moved playground actual⟩
      | false =>
        have adjusted := chargeToken_adjust moved playground (actual - session.preConsumedQuota)
        rw [reaches] at adjusted
        have rests : AccountLevel base session.preConsumedQuota actual true
            (changed.addToken info.tokenId (-(actual - session.preConsumedQuota))) session.funding :=
          account.congr rfl rfl
        simp only [Bool.false_eq_true, ↓reduceIte]
        split
        · have valid : ¬ actual - session.preConsumedQuota < 0 := by omega
          simp only [Store.decreaseTokenQuota, Store.guarded, valid, ↓reduceIte]
          exact .inr ⟨true, _, rfl, rests, adjusted⟩
        · have valid : ¬ -(actual - session.preConsumedQuota) < 0 := by omega
          simp only [Store.increaseTokenQuota, Store.guarded, valid, ↓reduceIte]
          exact .inr ⟨true, _, rfl, rests, adjusted⟩

theorem refundJob_level (nonneg : 0 ≤ session.tokenConsumed)
    (level : Level info start base session.tokenConsumed session.tokenConsumed true session.funding store) :
    Level info start base session.tokenConsumed 0 false session.funding
      (session.refundJob info {} store) := by
  obtain ⟨account, token⟩ := refund_clears_level level.account nonneg
  have moved := token.trans level.token
  simp only [BillingSession.refundJob]
  cases playground : info.isPlayground with
  | true =>
    simp only [Bool.not_true, Bool.false_eq_true, and_false, ↓reduceIte]
    exact ⟨account, chargeToken_playground moved playground 0⟩
  | false =>
    have adjusted := chargeToken_adjust moved playground (-session.tokenConsumed)
    rw [Int.neg_neg, Int.add_right_neg] at adjusted
    simp only [Bool.not_false, and_true]
    split
    · have valid : ¬ session.tokenConsumed < 0 := by omega
      simp only [Store.increaseTokenQuota, Store.guarded, valid, ↓reduceIte]
      exact ⟨account.congr rfl rfl, adjusted⟩
    · have zero : session.tokenConsumed = 0 := by omega
      rw [zero, Store.addToken_zero] at adjusted
      exact ⟨account, adjusted⟩

variable {state : SessionRun}

/-- What is to be taken in total, given the first call that took effect. -/
def SessionRun.due (state : SessionRun) : Int :=
  match state.first with
  | none => state.session.preConsumedQuota
  | some (.settled actual) => actual
  | some .refunded => if state.pending then state.session.preConsumedQuota else 0

theorem settle_marks {ending : Ending} (first : state.first = some ending)
    (idle : state.session.settled = true ∨ actual = state.session.preConsumedQuota) :
    state.step info (.settle actual) = { state with session := { state.session with settled := true } } := by
  have marked : state.session.settle info {} state.store actual =
      (.ok (), { state.session with settled := true }, state.store) := by
    cases settled : state.session.settled with
    | true =>
      simp only [BillingSession.settle, settled, ↓reduceIte]
      rw [← settled]
    | false =>
      have same : actual = state.session.preConsumedQuota := by simpa [settled] using idle
      simp [BillingSession.settle, settled, same]
  simp only [SessionRun.step, marked, first]

section
variable (balanced : Balanced info start base amount funding state)
include balanced

theorem settle_preserves_balanced (orderly : state.Orderly (.settle actual)) :
    Balanced info start base amount funding (state.step info (.settle actual)) := by
  obtain ⟨rfl, rfl, consumed, phase⟩ := balanced
  cases phase with
  | opened first unsettled unrefunded idle level =>
    have nonneg : 0 ≤ actual := by
      rcases orderly with settled | ⟨nonneg, _⟩
      · rw [unsettled.1] at settled
        cases settled
      · exact nonneg
    rcases settle_open unsettled nonneg level with ⟨reason, refused⟩ | ⟨fundingSettled, changed, done, moved⟩
    · have same : state.step info (.settle actual) = state := by
        simp only [SessionRun.step, refused, first]
        rw [← first]
      rw [same]
      exact ⟨rfl, rfl, consumed, .opened first unsettled unrefunded idle level⟩
    · simp only [SessionRun.step, done, first]
      exact ⟨rfl, rfl, consumed, .settled rfl rfl idle nonneg moved⟩
  | settled first settled idle nonneg level =>
    rw [settle_marks first (.inl settled)]
    exact ⟨rfl, rfl, consumed, .settled first rfl idle nonneg level⟩
  | refunding first refunded pending level =>
    rw [settle_marks first (orderly.imp id fun limited => limited.2 refunded)]
    exact ⟨rfl, rfl, consumed, .refunding first refunded pending level⟩
  | refunded first refunded idle level =>
    rw [settle_marks first (orderly.imp id fun limited => limited.2 refunded)]
    exact ⟨rfl, rfl, consumed, .refunded first refunded idle level⟩

theorem refund_preserves_balanced : Balanced info start base amount funding (state.step info .refund) := by
  have ignored : state.session.refund = (state.session, false) →
      Balanced info start base amount funding (state.step info .refund) := by
    intro idle
    simpa [SessionRun.step, idle] using balanced
  obtain ⟨rfl, rfl, consumed, phase⟩ := balanced
  cases phase with
  | opened first unsettled unrefunded idle level =>
    cases needs : state.session.needsRefund with
    | false => exact ignored (by simp [BillingSession.refund, needs])
    | true =>
      simp only [SessionRun.step, BillingSession.refund, unsettled.1, unrefunded, needs, Bool.not_true,
        Bool.or_self, Bool.false_eq_true, ↓reduceIte, Bool.or_true, first, and_self]
      exact ⟨rfl, rfl, consumed, .refunding rfl rfl rfl level⟩
  | settled first settled idle nonneg level => exact ignored (by simp [BillingSession.refund, settled])
  | refunding first refunded | refunded first refunded => exact ignored (by simp [BillingSession.refund, refunded])

variable (nonneg : 0 ≤ amount)
include nonneg

theorem background_preserves_balanced :
    Balanced info start base amount funding (state.step info .background) := by
  have ignored : state.pending = false → Balanced info start base amount funding (state.step info .background) := by
    intro idle
    simpa [SessionRun.step, idle] using balanced
  obtain ⟨rfl, rfl, consumed, phase⟩ := balanced
  cases phase with
  | opened first unsettled unrefunded idle => exact ignored idle
  | settled first settled idle | refunded first refunded idle => exact ignored idle
  | refunding first refunded pending level =>
    rw [← consumed] at level nonneg
    have cleared := refundJob_level nonneg level
    rw [consumed] at cleared
    simp only [SessionRun.step, pending, ↓reduceIte]
    exact ⟨rfl, rfl, consumed, .refunded first refunded rfl cleared⟩

theorem Balanced.due : taken state.store funding - base = state.due ∧ 0 ≤ state.due ∧
      state.store.token = (start.chargeToken info state.due).token := by
  obtain ⟨rfl, rfl, _, phase⟩ := balanced
  cases phase with
  | opened first _ _ _ level =>
    simp only [SessionRun.due, first]
    exact ⟨level.taken, nonneg, level.token⟩
  | settled first _ _ positive level =>
    simp only [SessionRun.due, first]
    exact ⟨level.taken, positive, level.token⟩
  | refunding first _ pending level =>
    simp only [SessionRun.due, first, pending, ↓reduceIte]
    exact ⟨level.taken, nonneg, level.token⟩
  | refunded first _ idle level =>
    simp only [SessionRun.due, first, idle, Bool.false_eq_true, ↓reduceIte]
    exact ⟨level.taken, Int.le_refl 0, level.token⟩

end

theorem step_preserves_balanced (nonneg : 0 ≤ amount) (state : SessionRun) (event : SessionEvent)
    (balanced : Balanced info start base amount funding state) (orderly : state.Orderly event) :
    Balanced info start base amount funding (state.step info event) := by
  cases event with
  | settle actual => exact settle_preserves_balanced balanced orderly
  | refund => exact refund_preserves_balanced balanced
  | background => exact background_preserves_balanced balanced nonneg

theorem opening_balanced (charge : SessionCharge env info start session store)
    (nonneg : ∀ sub ∈ start.subscriptions.subscriptions, 0 ≤ sub.amountUsed) :
    Balanced info start (takenBefore env start session.funding) session.preConsumedQuota session.funding
      (.opening session store) :=
  ⟨rfl, rfl, charge.consumed, .opened rfl charge.unsettled charge.unrefunded rfl
    ⟨opened_level charge nonneg, charge.token⟩⟩

/-- Whatever the order of the calls, a session that is settled with non-negative
amounts, and after a refund only with what was pre-consumed, takes the amount of
its first settlement, or nothing once its refund has run, or what it
pre-consumed as long as nothing has taken effect. The token follows. -/
theorem billing_session_conservation (settings : Settings) (env : Env) (info : RelayInfo)
    (attempts : Attempts) (start : Store) (preConsumedQuota : Int) (nonneg : 0 ≤ preConsumedQuota)
    (fresh : start.subscriptions.record? info.requestId = none)
    (used : ∀ sub ∈ start.subscriptions.subscriptions, 0 ≤ sub.amountUsed)
    (walletRollback : attempts.wallet.rollbackToken = none)
    (subscriptionRollback : attempts.subscription.rollbackToken = none)
    (session : BillingSession) (store : Store)
    (opened : newBillingSession settings env info attempts start preConsumedQuota = (.ok session, store))
    (events : List SessionEvent)
    (orderly : Guarded (SessionRun.step info) SessionRun.Orderly (.opening session store) events) :
    let final := run (SessionRun.step info) (.opening session store) events
    let net := taken final.store session.funding - takenBefore env start session.funding
    0 ≤ net ∧
      (∀ actual, final.first = some (.settled actual) → net = actual) ∧
      (final.first = some .refunded → final.pending = false → net = 0) ∧
      (final.first = none ∨ final.pending = true → net = session.preConsumedQuota) ∧
      final.store.token = (start.chargeToken info net).token := by
  intro final net
  have charge := newBillingSession_ok walletRollback subscriptionRollback nonneg fresh opened
  have balanced := Guarded.invariant (step_preserves_balanced charge.nonneg) (opening_balanced charge used)
    orderly
  obtain ⟨due, positive, token⟩ := balanced.due charge.nonneg
  rw [show net = final.due from due]
  refine ⟨positive, ?_, ?_, ?_, token⟩
  · intro actual first
    simp only [SessionRun.due, first]
  · intro first idle
    simp [SessionRun.due, first, idle]
  · intro waiting
    have preConsumed : final.session.preConsumedQuota = session.preConsumedQuota := balanced.preConsumed
    rcases waiting with first | pending
    · simp only [SessionRun.due, first, preConsumed]
    · cases balanced.phase with
      | opened _ _ _ idle _ | settled _ _ idle _ _ | refunded _ _ idle _ =>
        rw [show final.pending = false from idle] at pending
        cases pending
      | refunding first _ _ _ =>
        simp only [SessionRun.due, show final.first = some .refunded from first, pending, ↓reduceIte,
          preConsumed]

def walletSession : BillingSession where
  funding := .wallet ⟨7, 10⟩
  preConsumedQuota := 10
  tokenConsumed := 10

def openedStore : Store :=
  (newBillingSession plainSettings anyTime (caller "wallet_only") ⟨plainAttempt, plainAttempt, none⟩ walletStore
    10).2

theorem billing_session_conservation_settled_first :
    let final := run (SessionRun.step (caller "wallet_only")) (.opening walletSession openedStore)
      [.settle 4, .refund, .background]
    taken final.store walletSession.funding - takenBefore anyTime walletStore walletSession.funding = 4 := by
  have answered : (newBillingSession plainSettings anyTime (caller "wallet_only")
      ⟨plainAttempt, plainAttempt, none⟩ walletStore 10).1 = .ok walletSession := by decide +kernel
  have opened : newBillingSession plainSettings anyTime (caller "wallet_only")
      ⟨plainAttempt, plainAttempt, none⟩ walletStore 10 = (.ok walletSession, openedStore) := by
    rw [← answered, openedStore]
  exact (billing_session_conservation plainSettings anyTime (caller "wallet_only")
    ⟨plainAttempt, plainAttempt, none⟩ walletStore 10 (by decide) rfl
    (fun _ member => absurd member Table.not_mem_empty) rfl rfl walletSession openedStore opened
    [.settle 4, .refund, .background] (by decide +kernel)).2.1 4 (by decide +kernel)

/-- A settlement after the refund compares with an amount that was already given
back, and pays the difference out. -/
theorem settle_after_refund_pays_out :
    let opened := newBillingSession plainSettings anyTime (caller "wallet_only")
      ⟨plainAttempt, plainAttempt, none⟩ walletStore 10
    let final := run (SessionRun.step (caller "wallet_only")) (.opening walletSession opened.2)
      [.refund, .background, .settle 4]
    opened.1 = .ok walletSession ∧ final.first = some .refunded ∧ final.pending = false ∧
      taken final.store walletSession.funding - takenBefore anyTime walletStore walletSession.funding = -6 := by
  decide +kernel

end TokenFactory.Billing
