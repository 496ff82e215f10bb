import TokenFactory.Realtime.Usage

namespace TokenFactory.Realtime

open Data Go Subscription Billing

/-! A realtime request from the pre-consume to the end of `Relay`.

`OpenaiRealtimeHandler` reads both connections in goroutines of their own and goes on when
one of them ends, so the other may go on charging after the handler has returned.
`charged` keeps what `PreWssConsumeQuota` has charged for. -/

structure Turn where
  tables : RatioTables
  quotaInfo : QuotaInfo

def Turn.quota (turn : Turn) : Int := calculateAudioQuota turn.tables turn.quotaInfo

/-- How far the handler itself has come: it waits, has charged what upstream
reported, or has charged what was counted here and returned. -/
inductive Progress where
  | waiting
  | reported
  | returned
deriving DecidableEq

structure WssSession where
  store : Store
  usage : RealtimeUsage := {}
  localUsage : RealtimeUsage := {}
  sumUsage : RealtimeUsage := {}
  clientOpen : Bool := true
  targetOpen : Bool := true
  progress : Progress := .waiting
  charged : List Turn := []

/-- `delivered` says that the message could be passed on; a goroutine ends when it
could not. An end covers closed connections and events that cannot be read. -/
inductive WssEvent where
  | client (count : TokenCount) (delivered : Bool)
  | clientEnds
  | responseDone (usage : RealtimeUsage) (charging : Charging) (delivered : Bool)
  | responseDoneWithoutUsage (count : TokenCount) (charging : Charging) (delivered : Bool)
  | sessionUpdated (delivered : Bool)
  | targetOther (count : TokenCount) (delivered : Bool)
  | targetEnds
  | finishUsage (charging : Charging)
  | finishLocalUsage (charging : Charging)

namespace WssSession

variable (settings : Settings) (info : RelayInfo) (request : WssRequest) (paying : BillingInfo)

section
variable (state : WssSession)

/-- The sum grows even where the charge fails. -/
def preConsumeUsage (charging : Charging) (usage : RealtimeUsage) :
    Bool × WssSession :=
  match preWssConsumeQuota settings info request paying charging state.store usage with
  | (.error _, after) => (false, { state with sumUsage := state.sumUsage.add usage, store := after })
  | (.ok (), after) =>
    (true, { state with
      sumUsage := state.sumUsage.add usage
      store := after
      charged :=
        if request.usePrice then state.charged
        else state.charged ++ [⟨charging.tables, wssQuotaInfo charging.tables request usage⟩] })

def clientEvent (count : TokenCount) (delivered : Bool) : WssSession :=
  { state with localUsage := state.localUsage.add count.asInput, clientOpen := delivered }

/-- A charge that fails ends the goroutine with the usage still in place. -/
def responseDone (usage : RealtimeUsage) (charging : Charging) (delivered : Bool) :
    WssSession :=
  let state := { state with usage := state.usage.add usage }
  match state.preConsumeUsage settings info request paying charging state.usage with
  | (false, after) => { after with targetOpen := false }
  | (true, after) => { after with usage := {}, localUsage := {}, targetOpen := delivered }

def responseDoneWithoutUsage (count : TokenCount) (charging : Charging)
    (delivered : Bool) : WssSession :=
  let state := { state with localUsage := state.localUsage.add count.asInput }
  match state.preConsumeUsage settings info request paying charging state.localUsage with
  | (false, after) => { after with targetOpen := false }
  | (true, after) => { after with localUsage := {}, targetOpen := delivered }

/-- The handler's last two charges; their errors are dropped. -/
def finish (usage : RealtimeUsage) (charging : Charging) : WssSession :=
  if usage.totalTokens ≠ 0 then
    (state.preConsumeUsage settings info request paying charging usage).2
  else state

def step : WssEvent → WssSession
  | .client count delivered => if state.clientOpen then state.clientEvent count delivered else state
  | .clientEnds => { state with clientOpen := false }
  | .responseDone usage charging delivered =>
    if state.targetOpen then state.responseDone settings info request paying usage charging delivered
    else state
  | .responseDoneWithoutUsage count charging delivered =>
    if state.targetOpen then
      state.responseDoneWithoutUsage settings info request paying count charging delivered
    else state
  | .sessionUpdated delivered => if state.targetOpen then { state with targetOpen := delivered } else state
  | .targetOther count delivered =>
    if state.targetOpen then
      { state with localUsage := state.localUsage.add count.asOutput, targetOpen := delivered }
    else state
  | .targetEnds => { state with targetOpen := false }
  | .finishUsage charging =>
    if state.progress = .waiting then
      { state.finish settings info request paying state.usage charging with progress := .reported }
    else state
  | .finishLocalUsage charging =>
    if state.progress = .reported then
      { state.finish settings info request paying state.localUsage charging with progress := .returned }
    else state

end

end WssSession

/-- The charge an event may make. -/
def WssEvent.charging? : WssEvent → Option Charging
  | .responseDone _ charging _ | .responseDoneWithoutUsage _ charging _ => some charging
  | .finishUsage charging | .finishLocalUsage charging => some charging
  | _ => none

def WssEvent.Succeeds (event : WssEvent) : Prop := ∀ charging ∈ event.charging?, charging.Succeeds

/-- `Relay` up to the handler: a free model has no session. -/
def openRealtime (settings : Settings) (env : Env) (info : RelayInfo) (attempts : Attempts) (start : Store)
    (freeModel : Bool) (quotaToPreConsume : Int) : Except ApiError BillingInfo × Store :=
  if freeModel then (.ok {}, start)
  else preConsumeBilling settings env info attempts start quotaToPreConsume

variable {settings : Settings} {env : Env} {info : RelayInfo} {request : WssRequest} {paying : BillingInfo}
  {start store : Store} {state : WssSession} {charging : Charging} {level : Int}

def total (turns : List Turn) : Int := (turns.map Turn.quota).sum

@[simp] theorem total_nil : total [] = 0 := rfl

@[simp] theorem total_append (turns : List Turn) (turn : Turn) :
    total (turns ++ [turn]) = total turns + turn.quota := by
  simp [total]

/-- The wallet and the token have given `level` and the price of every charged turn. -/
def WssSession.Balanced (info : RelayInfo) (start : Store) (level : Int) (state : WssSession) : Prop :=
  Store.Charged info start (level + total state.charged) state.store

section Steps

variable (settings request) (wallet : paying.billingSource ≠ "subscription")

include wallet

theorem preConsumeUsage_preserves_balanced {usage : RealtimeUsage} {passed : Bool} {next : WssSession}
    (succeeds : charging.Succeeds) (balanced : state.Balanced info start level)
    (charged : state.preConsumeUsage settings info request paying charging usage = (passed, next)) :
    next.Balanced info start level := by
  obtain rfl := (congrArg Prod.snd charged).symm
  simp only [WssSession.preConsumeUsage]
  cases done : preWssConsumeQuota settings info request paying charging state.store usage with
  | mk answer after =>
    rcases preWssConsumeQuota_cases wallet succeeds done with ⟨rfl, priced⟩ | ⟨metered, rfl, rfl⟩
    · cases answer with
      | error reason => exact balanced
      | ok _ =>
        simp only [priced rfl, ↓reduceIte]
        exact balanced
    · simp only [metered, Bool.false_eq_true, ↓reduceIte, WssSession.Balanced, total_append, Turn.quota,
        ← Int.add_assoc]
      exact balanced.charge _

theorem responseDone_preserves_balanced (usage : RealtimeUsage) (delivered : Bool)
    (succeeds : charging.Succeeds) (balanced : state.Balanced info start level) :
    (state.responseDone settings info request paying usage charging delivered).Balanced info start level := by
  have counted : { state with usage := state.usage.add usage }.Balanced info start level := balanced
  simp only [WssSession.responseDone]
  split
  case h_1 charged | h_2 charged =>
    have kept := preConsumeUsage_preserves_balanced settings request wallet succeeds counted charged
    exact kept

theorem responseDoneWithoutUsage_preserves_balanced (count : TokenCount) (delivered : Bool)
    (succeeds : charging.Succeeds) (balanced : state.Balanced info start level) :
    (state.responseDoneWithoutUsage settings info request paying count charging delivered).Balanced info start
      level := by
  have counted : { state with localUsage := state.localUsage.add count.asInput }.Balanced info start level :=
    balanced
  simp only [WssSession.responseDoneWithoutUsage]
  split
  case h_1 charged | h_2 charged =>
    have kept := preConsumeUsage_preserves_balanced settings request wallet succeeds counted charged
    exact kept

theorem finish_preserves_balanced (usage : RealtimeUsage) (succeeds : charging.Succeeds)
    (balanced : state.Balanced info start level) :
    (state.finish settings info request paying usage charging).Balanced info start level := by
  simp only [WssSession.finish]
  split
  · exact preConsumeUsage_preserves_balanced settings request wallet succeeds balanced rfl
  · exact balanced

theorem step_preserves_balanced {event : WssEvent} (succeeds : event.Succeeds)
    (balanced : state.Balanced info start level) :
    (state.step settings info request paying event).Balanced info start level := by
  cases event with
  | client count delivered =>
    simp only [WssSession.step]
    split <;> exact balanced
  | clientEnds | targetEnds => exact balanced
  | sessionUpdated delivered =>
    simp only [WssSession.step]
    split <;> exact balanced
  | targetOther count delivered =>
    simp only [WssSession.step]
    split <;> exact balanced
  | responseDone usage charging delivered =>
    simp only [WssSession.step]
    split
    · exact responseDone_preserves_balanced settings request wallet usage delivered
        (succeeds charging rfl) balanced
    · exact balanced
  | responseDoneWithoutUsage count charging delivered =>
    simp only [WssSession.step]
    split
    · exact responseDoneWithoutUsage_preserves_balanced settings request wallet count delivered
        (succeeds charging rfl) balanced
    · exact balanced
  | finishUsage charging =>
    simp only [WssSession.step]
    split
    · exact finish_preserves_balanced settings request wallet state.usage (succeeds charging rfl) balanced
    · exact balanced
  | finishLocalUsage charging =>
    simp only [WssSession.step]
    split
    · exact finish_preserves_balanced settings request wallet state.localUsage (succeeds charging rfl)
        balanced
    · exact balanced

end Steps

theorem openRealtime_charged {attempts : Attempts} {freeModel : Bool} {quotaToPreConsume : Int}
    (subscriptionRollback : attempts.subscription.rollbackToken = none)
    (opened : openRealtime settings env info attempts start freeModel quotaToPreConsume = (.ok paying, store))
    (wallet : paying.billingSource ≠ "subscription") :
    Store.Charged info start (max paying.finalPreConsumedQuota 0) store := by
  simp only [openRealtime] at opened
  split at opened
  · cases opened
    exact .refl
  simp only [preConsumeBilling] at opened
  cases done : newBillingSession settings env info attempts start quotaToPreConsume with
  | mk answer after =>
    cases answer with
    | error reason => simp [done] at opened
    | ok session =>
      simp only [done, Prod.mk.injEq, Except.ok.injEq] at opened
      obtain ⟨rfl, rfl⟩ := opened
      exact newBillingSession_wallet subscriptionRollback done wallet

/-- Nothing settles or refunds the session when the handler has returned: the
pre-consumed amount stays taken, and every charged turn comes on top. -/
theorem realtime_session_total {attempts : Attempts} {freeModel : Bool} {quotaToPreConsume : Int}
    (subscriptionRollback : attempts.subscription.rollbackToken = none)
    (opened : openRealtime settings env info attempts start freeModel quotaToPreConsume = (.ok paying, store))
    (wallet : paying.billingSource ≠ "subscription") {events : List WssEvent}
    (succeed : ∀ event ∈ events, event.Succeeds) :
    (run (WssSession.step settings info request paying) { store } events).Balanced info start
      (max paying.finalPreConsumedQuota 0) := by
  have initial : ({ store } : WssSession).Balanced info start (max paying.finalPreConsumedQuota 0) := by
    simp only [WssSession.Balanced, total_nil, Int.add_zero]
    exact openRealtime_charged subscriptionRollback opened wallet
  have kept : ∀ (state : WssSession) event, state.Balanced info start (max paying.finalPreConsumedQuota 0) →
      event.Succeeds → (state.step settings info request paying event).Balanced info start
        (max paying.finalPreConsumedQuota 0) :=
    fun _ _ balanced succeeds => step_preserves_balanced settings request wallet succeeds balanced
  exact Guarded.invariant kept initial (Guarded.of_forall succeed)

/-- A realtime request on the wallet that has pre-consumed nothing takes exactly the
price of its charged turns, from the wallet and from the token. -/
theorem realtime_session_conservation (settings : Settings) (env : Env) (info : RelayInfo)
    (request : WssRequest) (attempts : Attempts) (start : Store) (freeModel : Bool) (quotaToPreConsume : Int)
    (subscriptionRollback : attempts.subscription.rollbackToken = none) (paying : BillingInfo) (store : Store)
    (opened : openRealtime settings env info attempts start freeModel quotaToPreConsume = (.ok paying, store))
    (wallet : paying.billingSource ≠ "subscription") (nothing : paying.finalPreConsumedQuota ≤ 0)
    (events : List WssEvent) (succeed : ∀ event ∈ events, event.Succeeds) :
    let final := run (WssSession.step settings info request paying) { store } events
    final.store.quota info.userId = start.quota info.userId - total final.charged ∧
      final.store.token = (start.chargeToken info (total final.charged)).token := by
  intro final
  have balanced : final.Balanced info start (max paying.finalPreConsumedQuota 0) :=
    realtime_session_total subscriptionRollback opened wallet succeed
  rw [WssSession.Balanced, show max paying.finalPreConsumedQuota 0 = 0 by omega, Int.zero_add] at balanced
  refine ⟨?_, balanced.token⟩
  rw [balanced.quota]
  simp only [Store.addQuota, ↓reduceIte]
  omega

/-! One unit a token, in every group. -/

def unitTables : RatioTables where
  quotaPerUnit := 500000
  modelRatio _ := 1
  completionRatio _ := 1
  audioRatio _ := 1
  audioCompletionRatio _ := 1
  groupRatio _ := 1
  groupGroupRatio _ _ := none
  channelPriceDiscountPercent _ := 100
  channelMarkupDiscountRate _ := 0

def plainCharging : Charging := { tables := unitTables, userQuota := .ok 100, token := .ok (false, 100) }

def talk : WssRequest := ⟨"gpt-realtime", "default", "default", none, 1, false⟩

def threeTokens : RealtimeUsage where
  totalTokens := 3
  inputTokenDetails := { textTokens := 2 }
  outputTokenDetails := { textTokens := 1 }

/-- Upstream reports one turn; two more tokens are counted before the client leaves. -/
def shortTalk : List WssEvent :=
  [.client ⟨2, 0⟩ true, .responseDone threeTokens plainCharging true, .client ⟨2, 0⟩ true, .clientEnds,
    .finishUsage plainCharging, .finishLocalUsage plainCharging]

def openTalk (quotaToPreConsume : Int) : Except ApiError BillingInfo × Store :=
  openRealtime plainSettings anyTime (caller "wallet_only") ⟨plainAttempt, plainAttempt, none⟩ walletStore false
    quotaToPreConsume

def paidByWallet (quota : Int) : BillingInfo :=
  BillingSession.syncRelayInfo
    { funding := .wallet ⟨7, quota⟩, preConsumedQuota := quota, tokenConsumed := quota }

def afterTalk (quotaToPreConsume : Int) : WssSession :=
  let opened := openTalk quotaToPreConsume
  run (WssSession.step plainSettings (caller "wallet_only") talk (paidByWallet quotaToPreConsume))
    { store := opened.2 } shortTalk

theorem realtime_session_conservation_short_talk :
    (afterTalk 0).progress = .returned ∧ (afterTalk 0).store.quota 7 = 100 - total (afterTalk 0).charged ∧
      (afterTalk 0).charged.map Turn.quota = [3, 2] := by
  have answered : (openTalk 0).1 = .ok (paidByWallet 0) := by decide +kernel
  have opened : openTalk 0 = (.ok (paidByWallet 0), (openTalk 0).2) := by rw [← answered]
  have succeed : ∀ event ∈ shortTalk, event.Succeeds := by
    simp [shortTalk, WssEvent.Succeeds, WssEvent.charging?, Charging.Succeeds, plainCharging]
  have conserved := realtime_session_conservation plainSettings anyTime (caller "wallet_only") talk
    ⟨plainAttempt, plainAttempt, none⟩ walletStore false 0 rfl (paidByWallet 0) (openTalk 0).2 opened
    (by decide) (by decide) shortTalk succeed
  exact ⟨by decide +kernel, conserved.1, by decide +kernel⟩

/-- The turns cost 5 units; the 10 units of the pre-consume are never given back. -/
theorem realtime_session_keeps_pre_consume :
    (openTalk 10).1 = .ok (paidByWallet 10) ∧ (afterTalk 10).progress = .returned ∧
      total (afterTalk 10).charged = 5 ∧ (afterTalk 10).store.quota 7 = walletStore.quota 7 - 15 ∧
      ((afterTalk 10).store.token 1).remainQuota = (walletStore.token 1).remainQuota - 15 := by
  decide +kernel

end TokenFactory.Realtime
