import TokenFactory.Go.Number
import TokenFactory.Relay.Price
import TokenFactory.Billing.Settlement

namespace TokenFactory.Realtime

open Go Subscription Billing

/-! Token usage of a realtime session and its price: `calculateAudioQuota` and
`PreWssConsumeQuota` of `service/quota.go`. -/

structure InputTokenDetails where
  cachedTokens : Int := 0
  textTokens : Int := 0
  audioTokens : Int := 0
deriving DecidableEq

structure OutputTokenDetails where
  textTokens : Int := 0
  audioTokens : Int := 0
deriving DecidableEq

structure RealtimeUsage where
  totalTokens : Int := 0
  inputTokens : Int := 0
  outputTokens : Int := 0
  inputTokenDetails : InputTokenDetails := {}
  outputTokenDetails : OutputTokenDetails := {}
deriving DecidableEq

def RealtimeUsage.add (usage other : RealtimeUsage) : RealtimeUsage where
  totalTokens := usage.totalTokens + other.totalTokens
  inputTokens := usage.inputTokens + other.inputTokens
  outputTokens := usage.outputTokens + other.outputTokens
  inputTokenDetails := {
    cachedTokens := usage.inputTokenDetails.cachedTokens + other.inputTokenDetails.cachedTokens
    textTokens := usage.inputTokenDetails.textTokens + other.inputTokenDetails.textTokens
    audioTokens := usage.inputTokenDetails.audioTokens + other.inputTokenDetails.audioTokens }
  outputTokenDetails := {
    textTokens := usage.outputTokenDetails.textTokens + other.outputTokenDetails.textTokens
    audioTokens := usage.outputTokenDetails.audioTokens + other.outputTokenDetails.audioTokens }

structure TokenCount where
  textToken : Int := 0
  audioToken : Int := 0
deriving DecidableEq

def TokenCount.asInput (count : TokenCount) : RealtimeUsage where
  totalTokens := count.textToken + count.audioToken
  inputTokens := count.textToken + count.audioToken
  inputTokenDetails := { textTokens := count.textToken, audioTokens := count.audioToken }

def TokenCount.asOutput (count : TokenCount) : RealtimeUsage where
  totalTokens := count.textToken + count.audioToken
  outputTokens := count.textToken + count.audioToken
  outputTokenDetails := { textTokens := count.textToken, audioTokens := count.audioToken }

structure TokenDetails where
  textTokens : Int
  audioTokens : Int
deriving DecidableEq

structure QuotaInfo where
  inputDetails : TokenDetails
  outputDetails : TokenDetails
  modelName : String
  usePrice : Bool
  modelPrice : Rat := 0
  modelRatio : Rat
  groupRatio : Rat
  costDiscountPercent : Rat
  markupDiscountPercent : Rat
  globalModelRatio : Rat
  globalModelPrice : Rat := 0
deriving DecidableEq

/-- The ratio settings as they are when a turn is charged. -/
structure RatioTables where
  quotaPerUnit : Rat
  modelRatio : String → Rat
  completionRatio : String → Rat
  audioRatio : String → Rat
  audioCompletionRatio : String → Rat
  groupRatio : String → Rat
  groupGroupRatio : String → String → Option Rat
  channelPriceDiscountPercent : Int → Rat
  channelMarkupDiscountRate : Int → Rat

def calculateAudioQuota (tables : RatioTables) (info : QuotaInfo) : Int :=
  let costDisc := if info.costDiscountPercent = 0 then 100 else info.costDiscountPercent
  let markupDisc := info.markupDiscountPercent
  if info.usePrice then
    intPart (Relay.effectiveModelPrice info.modelPrice info.globalModelPrice costDisc markupDisc *
      tables.quotaPerUnit * info.groupRatio)
  else
    let completionRatio := tables.completionRatio info.modelName
    let audioRatio := tables.audioRatio info.modelName
    let audioCompletionRatio := tables.audioCompletionRatio info.modelName
    let effInputRate := Relay.effectiveInputRate info.modelRatio info.globalModelRatio costDisc markupDisc
    -- the global completion ratio is the one of the channel
    let effOutputRate := Relay.effectiveOutputRate info.modelRatio completionRatio info.globalModelRatio
      completionRatio costDisc markupDisc
    let quota := (info.inputDetails.textTokens * effInputRate + info.outputDetails.textTokens * effOutputRate +
      info.inputDetails.audioTokens * audioRatio * effInputRate +
      info.outputDetails.audioTokens * audioRatio * audioCompletionRatio * effInputRate) * info.groupRatio
    mathRound (if effInputRate > 0 ∧ quota ≤ 0 then 1 else quota)

/-- What `PreWssConsumeQuota` reads of the request; `autoGroup` is the context key. -/
structure WssRequest where
  originModelName : String
  usingGroup : String
  userGroup : String
  autoGroup : Option String
  channelId : Int
  usePrice : Bool
deriving DecidableEq

def WssRequest.groupRatio (request : WssRequest) (tables : RatioTables) : Rat :=
  let usingGroup := request.autoGroup.getD request.usingGroup
  match tables.groupGroupRatio request.userGroup usingGroup with
  | some ratio => ratio
  | none => tables.groupRatio usingGroup

def wssQuotaInfo (tables : RatioTables) (request : WssRequest) (usage : RealtimeUsage) : QuotaInfo where
  inputDetails := ⟨usage.inputTokenDetails.textTokens, usage.inputTokenDetails.audioTokens⟩
  outputDetails := ⟨usage.outputTokenDetails.textTokens, usage.outputTokenDetails.audioTokens⟩
  modelName := request.originModelName
  usePrice := request.usePrice
  modelRatio := tables.modelRatio request.originModelName
  groupRatio := request.groupRatio tables
  costDiscountPercent := tables.channelPriceDiscountPercent request.channelId
  markupDiscountPercent := tables.channelMarkupDiscountRate request.channelId
  globalModelRatio := tables.modelRatio request.originModelName

/-- One charge: the settings at that moment, the quotas it reads from a cache or the
database, and the statements that fail in it. -/
structure Charging where
  tables : RatioTables
  userQuota : Except String Int
  token : Except String (Bool × Int)
  faults : SettleFaults := {}

def Charging.Succeeds (charging : Charging) : Prop := charging.faults = {}

def preWssConsumeQuota (settings : Settings) (info : RelayInfo) (request : WssRequest) (paying : BillingInfo)
    (charging : Charging) (store : Store) (usage : RealtimeUsage) : Effect Unit :=
  if request.usePrice then (.ok (), store)
  else
    match charging.userQuota, charging.token with
    | .error text, _ => (.error (.message text), store)
    | .ok _, .error text => (.error (.message text), store)
    | .ok userQuota, .ok (unlimitedQuota, remainQuota) =>
      let quota := calculateAudioQuota charging.tables (wssQuotaInfo charging.tables request usage)
      if userQuota < quota then
        (.error (.message ("user quota is not enough, user quota: " ++ settings.formatQuota userQuota ++
          ", need quota: " ++ settings.formatQuota quota)), store)
      else if !unlimitedQuota ∧ remainQuota < quota then
        (.error (.message ("token quota is not enough, token remain quota: " ++
          settings.formatQuota remainQuota ++ ", need quota: " ++ settings.formatQuota quota)), store)
      else postConsumeQuota info paying charging.faults store quota

variable {settings : Settings} {info : RelayInfo} {request : WssRequest} {paying : BillingInfo}
  {charging : Charging} {store after : Store} {usage : RealtimeUsage}

/-- A charge either leaves the accounts alone, with an error or for a model with a
fixed price, or takes the price of the usage from the wallet and the token. -/
theorem preWssConsumeQuota_cases {answer : Except TxError Unit}
    (wallet : paying.billingSource ≠ "subscription") (succeeds : charging.Succeeds)
    (done : preWssConsumeQuota settings info request paying charging store usage = (answer, after)) :
    (after = store ∧ (answer = .ok () → request.usePrice = true)) ∨
      (request.usePrice = false ∧ answer = .ok () ∧
        let quota := calculateAudioQuota charging.tables (wssQuotaInfo charging.tables request usage)
        after = (store.addQuota info.userId (-quota)).chargeToken info quota) := by
  simp only [preWssConsumeQuota] at done
  split at done
  · rename_i priced
    cases done
    exact .inl ⟨rfl, fun _ => priced⟩
  rename_i metered
  split at done
  · cases done
    exact .inl ⟨rfl, fun failed => by cases failed⟩
  · cases done
    exact .inl ⟨rfl, fun failed => by cases failed⟩
  · split at done
    · cases done
      exact .inl ⟨rfl, fun failed => by cases failed⟩
    split at done
    · cases done
      exact .inl ⟨rfl, fun failed => by cases failed⟩
    rw [show charging.faults = {} from succeeds, postConsumeQuota_wallet wallet] at done
    obtain ⟨rfl, rfl⟩ := Prod.mk.inj done
    exact .inr ⟨by simpa using metered, rfl, rfl⟩

end TokenFactory.Realtime
