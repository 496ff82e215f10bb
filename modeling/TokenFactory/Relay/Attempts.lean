import TokenFactory.Data.Run
import TokenFactory.Relay.Override
import TokenFactory.Relay.Selection

namespace TokenFactory.Relay

open Data Go

/-! `Relay`: the attempts of one request.

One step of the system is one round of the retry loop. What differs between the
rounds (the channels in the cache, the answer of the upstream) comes with the
round; the context and the info are carried along. -/

/-- What `ModelMappedHelper` writes; a compact request also renames the model it
was made for. -/
structure Mapping where
  originModelName : String
  upstreamModelName : String
  isModelMapped : Bool
deriving DecidableEq

def RelayInfo.mapped (info : RelayInfo) (mapping : Mapping) : RelayInfo :=
  { info with
    originModelName := mapping.originModelName
    channelMeta := info.channelMeta.map fun channelMeta => { channelMeta with
      upstreamModelName := mapping.upstreamModelName
      isModelMapped := mapping.isModelMapped } }

/-- One round. `converted` is the body that the handler overrides; it is absent
where the body is passed through or the handler has no override. -/
structure Attempt where
  routing : Routing
  affinityFailed : Bool
  bodyStorage : Option TokenFactoryError
  mapping : Except TokenFactoryError Mapping
  converted : Option Json
  answer : Option TokenFactoryError

/-- The info inside a handler, before and after the parameter override, and what
the handler returns. -/
structure Handled where
  prepared : RelayInfo
  applied : RelayInfo
  error : Option TokenFactoryError

/-- Every handler starts with the `ChannelMeta` of the channel in the context. -/
def Attempt.prepare (attempt : Attempt) (ctx : Context) (info : RelayInfo) : RelayInfo :=
  match attempt.mapping with
  | .error _ => info.initChannelMeta ctx
  | .ok mapping => (info.initChannelMeta ctx).mapped mapping

def Attempt.override (engine : Engine) (attempt : Attempt) (prepared : RelayInfo) :
    Except TokenFactoryError RelayInfo :=
  match attempt.mapping, attempt.converted with
  | .error error, _ => .error error
  | .ok _, none => .ok prepared
  | .ok _, some body =>
    match applyParamOverrideWithRelayInfo engine body prepared with
    | .error error => .error error.toTokenFactoryError
    | .ok (_, applied) => .ok applied

/-- A refused override ends the handler with its error; the info stays prepared. -/
def handle (engine : Engine) (attempt : Attempt) (ctx : Context) (info : RelayInfo) : Handled where
  prepared := attempt.prepare ctx info
  applied := (attempt.override engine (attempt.prepare ctx info)).toOption.getD (attempt.prepare ctx info)
  error := match attempt.override engine (attempt.prepare ctx info) with
    | .error error => some error
    | .ok _ => attempt.answer

/-- A round that reached its handler: the context and the info its price was
computed from, the price the info held when the handler was called, and the
handler's own view. -/
structure Served where
  ctx : Context
  pricedFrom : RelayInfo
  price : PriceData
  handled : Handled

structure RelayState where
  ctx : Context
  info : RelayInfo
  param : RetryParam
  firstChannel : Channel
  failure : Option TokenFactoryError
  finished : Bool
  served : List Served

variable (engine : Engine) (settings : Settings) (request : Request)

def errVideoTaskChannelOnNonTaskRelay (channel : Channel) : Option TokenFactoryError :=
  if request.taskFormat ∨ ¬ ChannelType.isVideoTask channel.type then none
  else some ⟨400, "当前模型命中渠道「" ++ channel.name ++ "」(type=" ++ toString channel.type ++
    ") 为视频任务渠道，仅支持视频任务接口（如 POST /v1/videos 或操练场 POST /api/playground/videos），" ++
    "不能使用聊天补全、嵌入、图生等非任务接口，否则会按文本 token 误计费；请改用视频任务 API 或为该模型配置文本类渠道",
    "invalid_request", "token_factory_error", true⟩

/-- `GenRelayInfo` fills in the request and leaves these fields at their zero
values. -/
def genRelayInfo (info : RelayInfo) : RelayInfo :=
  { info with
    retryIndex := 0
    lastError := none
    channelMeta := none
    priceData := {}
    imageBilling := none
    runtimeHeadersOverride := []
    useRuntimeHeadersOverride := false }

namespace RelayState

/-- Before the loop: the first channel, its price and the pre-consumed quota. -/
def begin (routing : Routing) (preConsumeBilling : Int → Option TokenFactoryError)
    (ctx : Context) (info : RelayInfo) : Except TokenFactoryError RelayState :=
  let start := getChannel settings request routing ctx (genRelayInfo info) ⟨0, false⟩
  match start.answer with
  | .error error => .error error
  | .ok channel =>
    match errVideoTaskChannelOnNonTaskRelay request channel with
    | some error => .error error
    | none =>
      let info := start.info.ensureChannelMeta start.ctx
      match resolveRelayPriceData settings.tables request.price start.ctx info with
      | (.error reason, _) => .error (newError reason "model_price_error" false)
      | (.ok price, info) =>
        match if price.freeModel then none else preConsumeBilling price.quotaToPreConsume with
        | some error => .error error
        | none => .ok ⟨start.ctx, info, start.param, channel, none, false, []⟩

section
variable (state : RelayState)

/-- The channel of this round: the first channel when the counter is zero, which
is also the case after the counter was reset. -/
def choose (attempt : Attempt) : Selection :=
  let info := { state.info with retryIndex := state.param.retry }
  if state.param.retry > 0 then
    getChannel settings request attempt.routing state.ctx info state.param
  else ⟨.ok state.firstChannel, state.ctx, info, state.param⟩

def stop (failure : Option TokenFactoryError) : RelayState :=
  { state with failure, finished := true }

/-- The round up to the point where its price is computed. A round that does not
get there ends the loop. -/
def arrive (attempt : Attempt) : Except RelayState Selection :=
  if state.finished then .error state
  else if (state.param.retry : Int) > settings.retryTimes then .error (state.stop state.failure)
  else
    let chosen := state.choose settings request attempt
    let reached := { state with ctx := chosen.ctx, info := chosen.info, param := chosen.param }
    match chosen.answer with
    | .error error => .error (reached.stop (some error))
    | .ok channel =>
      match errVideoTaskChannelOnNonTaskRelay request channel with
      | some error =>
        .error ({ reached with info.lastError := some error }.stop (some error))
      | none => .ok { chosen with info := chosen.info.ensureChannelMeta chosen.ctx }

/-- A failed round is followed by another one or ends the loop. -/
def fail (attempt : Attempt) (error : TokenFactoryError) : RelayState :=
  let failed := { state with info.lastError := some error, failure := some error }
  if shouldRetry settings request attempt.affinityFailed error (settings.retryTimes - state.param.retry) then
    { failed with param := state.param.increaseRetry }
  else failed.stop (some error)

def conclude (attempt : Attempt) : Option TokenFactoryError → RelayState
  | none => { state with info.lastError := none }.stop none
  | some error => state.fail settings request attempt (settings.normalizeViolationFeeError error)

end

def attempt (state : RelayState) (attempt : Attempt) (selected : Selection) : RelayState :=
  let reached := { state with ctx := selected.ctx, param := selected.param }
  match resolveRelayPriceData settings.tables request.price selected.ctx selected.info with
  | (.error reason, info) =>
    { reached with info }.fail settings request attempt (newError reason "model_price_error" false)
  | (.ok _, info) =>
    match attempt.bodyStorage with
    | some error => { reached with info }.stop (some error)
    | none =>
      let handled := handle engine attempt selected.ctx info
      { reached with
        info := handled.applied
        served := ⟨selected.ctx, selected.info, info.priceData, handled⟩ :: state.served
      }.conclude settings request attempt handled.error

def step (state : RelayState) (round : Attempt) : RelayState :=
  match state.arrive settings request round with
  | .error stopped => stopped
  | .ok selected => state.attempt engine settings request round selected

def serving (state : RelayState) (round : Attempt) : Option Served :=
  let after := state.step engine settings request round
  if after.served.length = state.served.length then none else after.served.head?

end RelayState

theorem prepare_info (round : Attempt) (ctx : Context) (info : RelayInfo) :
    (round.prepare ctx info).channelMeta.isSome ∧ (round.prepare ctx info).channelId = ctx.channelId ∧
      getParamOverrideMap (round.prepare ctx info) = ctx.paramOverride ∧
      (round.prepare ctx info).runtimeHeadersOverride = info.runtimeHeadersOverride ∧
      (round.prepare ctx info).useRuntimeHeadersOverride = info.useRuntimeHeadersOverride := by
  unfold Attempt.prepare
  cases round.mapping <;> exact ⟨rfl, rfl, rfl, rfl, rfl⟩

/-- What a handler leaves is what it prepared, or its channel has an override that
was applied. -/
theorem handle_applied (engine : Engine) (round : Attempt) (ctx : Context) (info : RelayInfo) :
    (handle engine round ctx info).applied = round.prepare ctx info ∨
      round.converted.isSome ∧ ctx.paramOverride ≠ [] ∧ ∃ context,
        (handle engine round ctx info).applied =
          syncRuntimeHeaderOverrideFromContext engine (round.prepare ctx info) context := by
  have params := (prepare_info round ctx info).2.2.1
  simp only [handle, Attempt.override]
  cases round.mapping with
  | error error => exact .inl rfl
  | ok mapping =>
    cases round.converted with
    | none => exact .inl rfl
    | some body =>
      simp only
      generalize round.prepare ctx info = prepared at params ⊢
      cases done : applyParamOverrideWithRelayInfo engine body prepared with
      | error error => exact .inl rfl
      | ok result =>
        rcases applyParamOverrideWithRelayInfo_ok done with ⟨_, same⟩ | ⟨given, context, written⟩
        · exact .inl same
        · exact .inr ⟨rfl, params ▸ given, context, written⟩

namespace RelayState

section Rounds

variable {engine settings request} {state stopped : RelayState} {round : Attempt} {selected : Selection}

section
variable {routing : Routing} {preConsumeBilling : Int → Option TokenFactoryError} {ctx : Context} {info : RelayInfo}
  (started : begin settings request routing preConsumeBilling ctx info = .ok state)
include started

theorem begin_selected : let start := getChannel settings request routing ctx (genRelayInfo info) ⟨0, false⟩
    ∃ channel data after, start.answer = .ok channel ∧ errVideoTaskChannelOnNonTaskRelay request channel = none ∧
      resolveRelayPriceData settings.tables request.price start.ctx (start.info.ensureChannelMeta start.ctx) =
        (.ok data, after) ∧ state = ⟨start.ctx, after, start.param, channel, none, false, []⟩ := by
  unfold begin at started
  dsimp only at started ⊢
  generalize getChannel settings request routing ctx (genRelayInfo info) ⟨0, false⟩ = start at started ⊢
  cases answered : start.answer with
  | error error => simp [answered] at started
  | ok channel =>
    simp only [answered] at started
    split at started
    · cases started
    rename_i suited
    split at started
    · cases started
    rename_i data after computed
    split at started
    · cases started
    · cases started
      exact ⟨channel, data, after, rfl, suited, computed, rfl⟩

theorem begin_ok :
    state.info.channelMeta.isSome ∧ state.info.useRuntimeHeadersOverride = false ∧ state.served = [] := by
  have chosen := getChannel_kept settings request routing ctx (genRelayInfo info) ⟨0, false⟩
  obtain ⟨channel, data, after, _, _, computed, rfl⟩ := begin_selected started
  generalize getChannel settings request routing ctx (genRelayInfo info) ⟨0, false⟩ = start at chosen computed
  have priced := resolveRelayPriceData_kept computed
  have kept := chosen.trans ((ensureChannelMeta_kept start.info start.ctx).trans priced)
  exact ⟨priced.isSome (ensureChannelMeta_isSome start.info start.ctx), kept.flag, rfl⟩

end

variable (engine settings request state round)

theorem choose_kept : RelayInfo.Kept state.info (state.choose settings request round).info := by
  unfold choose
  split
  · have kept := getChannel_kept settings request round.routing state.ctx
      { state.info with retryIndex := state.param.retry } state.param
    exact ⟨kept.channelMeta, kept.runtime, kept.flag⟩
  · exact ⟨fun _ => rfl, rfl, rfl⟩

theorem fail_kept (error : TokenFactoryError) :
    RelayInfo.Kept state.info (state.fail settings request round error).info ∧
      (state.fail settings request round error).served = state.served := by
  unfold fail
  split <;> exact ⟨⟨fun _ => rfl, rfl, rfl⟩, rfl⟩

theorem conclude_kept (returned : Option TokenFactoryError) :
    RelayInfo.Kept state.info (state.conclude settings request round returned).info ∧
      (state.conclude settings request round returned).served = state.served := by
  cases returned with
  | none => exact ⟨⟨fun _ => rfl, rfl, rfl⟩, rfl⟩
  | some error => exact fail_kept settings request state round _

theorem attempt_cases (selected : Selection) :
    let after := state.attempt engine settings request round selected
    (RelayInfo.Kept selected.info after.info ∧ after.served = state.served) ∨
    ∃ data info,
      resolveRelayPriceData settings.tables request.price selected.ctx selected.info = (.ok data, info) ∧
      RelayInfo.Kept (handle engine round selected.ctx info).applied after.info ∧
      after.served = ⟨selected.ctx, selected.info, info.priceData, handle engine round selected.ctx info⟩ ::
        state.served := by
  unfold attempt
  cases computed : resolveRelayPriceData settings.tables request.price selected.ctx selected.info with
  | mk price info =>
    have priced := resolveRelayPriceData_kept computed
    cases price with
    | error reason =>
      have failed := fail_kept settings request
        { state with ctx := selected.ctx, param := selected.param, info } round
        (newError reason "model_price_error" false)
      exact .inl ⟨priced.trans failed.1, failed.2⟩
    | ok data =>
      cases round.bodyStorage with
      | some error => exact .inl ⟨priced, rfl⟩
      | none =>
        have concluded := conclude_kept settings request
          { state with
            ctx := selected.ctx
            param := selected.param
            info := (handle engine round selected.ctx info).applied
            served := ⟨selected.ctx, selected.info, info.priceData,
              handle engine round selected.ctx info⟩ :: state.served }
          round (handle engine round selected.ctx info).error
        exact .inr ⟨data, info, rfl, concluded⟩

variable {engine settings request state round}

theorem arrive_ok_cases (arrived : state.arrive settings request round = .ok selected) :
    let chosen := state.choose settings request round
    state.finished = false ∧ (state.param.retry : Int) ≤ settings.retryTimes ∧
      (∃ channel, chosen.answer = .ok channel) ∧
      selected = { chosen with info := chosen.info.ensureChannelMeta chosen.ctx } := by
  unfold arrive at arrived
  split at arrived
  · cases arrived
  rename_i running
  split at arrived
  · cases arrived
  rename_i within
  dsimp only at arrived
  split at arrived
  · cases arrived
  rename_i channel chosen
  split at arrived
  · cases arrived
  · cases arrived
    exact ⟨Bool.eq_false_iff.mpr running, not_lt.mp within, ⟨channel, chosen⟩, rfl⟩

theorem arrive_ok (arrived : state.arrive settings request round = .ok selected) :
    RelayInfo.Kept state.info selected.info ∧ selected.info.channelMeta.isSome := by
  have kept := choose_kept settings request state round
  obtain ⟨_, _, _, rfl⟩ := arrive_ok_cases arrived
  exact ⟨kept.trans (ensureChannelMeta_kept _ _), ensureChannelMeta_isSome _ _⟩

theorem arrive_error (arrived : state.arrive settings request round = .error stopped) :
    RelayInfo.Kept state.info stopped.info ∧ stopped.served = state.served ∧ stopped.finished = true := by
  have kept := choose_kept settings request state round
  unfold arrive at arrived
  split at arrived
  · rename_i ended
    cases arrived
    exact ⟨.refl _, rfl, ended⟩
  split at arrived
  · cases arrived
    exact ⟨.refl _, rfl, rfl⟩
  dsimp only at arrived
  split at arrived
  · cases arrived
    exact ⟨kept, rfl, rfl⟩
  split at arrived
  · cases arrived
    exact ⟨⟨kept.channelMeta, kept.runtime, kept.flag⟩, rfl, rfl⟩
  · cases arrived

variable (engine settings request state round) in
/-- A round leaves the info alone, or it is served: its price was computed, and
the info goes through its handler. -/
theorem step_cases :
    let after := state.step engine settings request round
    (RelayInfo.Kept state.info after.info ∧ after.served = state.served) ∨
    ∃ selected data info, state.arrive settings request round = .ok selected ∧
      resolveRelayPriceData settings.tables request.price selected.ctx selected.info = (.ok data, info) ∧
      RelayInfo.Kept (handle engine round selected.ctx info).applied after.info ∧
      after.served = ⟨selected.ctx, selected.info, info.priceData, handle engine round selected.ctx info⟩ ::
        state.served := by
  unfold step
  cases arrived : state.arrive settings request round with
  | error stopped =>
    obtain ⟨kept, unserved, _⟩ := arrive_error arrived
    exact .inl ⟨kept, unserved⟩
  | ok selected =>
    have kept := (arrive_ok arrived).1
    rcases attempt_cases engine settings request state round selected with
      ⟨after, unserved⟩ | ⟨data, info, computed, after, served⟩
    · exact .inl ⟨kept.trans after, unserved⟩
    · exact .inr ⟨selected, data, info, rfl, computed, after, served⟩

theorem step_of_serving {served : Served}
    (added : state.serving engine settings request round = some served) :
    ∃ selected data info, state.arrive settings request round = .ok selected ∧
      resolveRelayPriceData settings.tables request.price selected.ctx selected.info = (.ok data, info) ∧
      served = ⟨selected.ctx, selected.info, info.priceData, handle engine round selected.ctx info⟩ := by
  unfold serving at added
  rcases step_cases engine settings request state round with
    ⟨_, unserved⟩ | ⟨selected, data, info, arrived, computed, _, entry⟩
  · simp [unserved] at added
  · simp only [entry, List.length_cons, Nat.add_eq_left, one_ne_zero, if_false, List.head?_cons,
      Option.some.injEq] at added
    exact ⟨selected, data, info, arrived, computed, added.symm⟩

end Rounds

end RelayState

/-! One retry after the status 503, and two channels that differ in their discount
and whatever a run gives them. -/

def discountTables : PriceTables where
  preConsumedQuota := 500
  quotaPerUnit := 500000
  enableFreeModelPreConsume := false
  supplierOfChannel := fun _ => 0
  groupRatio := fun _ => 1
  groupGroupRatio := fun _ _ => none
  scopedFixedModelPrice := fun _ _ _ => (0, false)
  groupModelPrice := fun _ _ => none
  scopedModelRatio := fun _ _ name => (1, true, name)
  groupModelRatio := fun _ _ => none
  scopedCompletionRatio := fun _ _ _ => 1
  scopedCacheRatios := fun _ _ _ => (1, 1)
  scopedImageRatio := fun _ _ _ => 1
  scopedAudioRatio := fun _ _ _ => 1
  scopedAudioCompletionRatio := fun _ _ _ => 1
  videoRatio := fun _ => 1
  videoCompletionRatio := fun _ => 1
  channelVideoRatio := fun _ _ => none
  channelVideoCompletionRatio := fun _ _ => none
  channelPriceDiscountPercent := fun channelId => if channelId = 1 then 100 else 50
  markupDiscountPercent := fun _ _ _ => 0
  modelRatio := fun _ => 1
  modelPrice := fun _ => 0
  completionRatio := fun _ => 1
  cacheRatio := fun _ => none
  createCacheRatio := fun _ => none
  modelTier := fun _ _ => none
  formatMatchingModelName := fun name => name
  imagePerImageTable := fun _ _ => false
  channelImagePrice := fun _ _ => none
  imagePrice := fun _ => none
  channelImageUsd := fun _ _ _ => none
  globalImageUsd := fun _ _ => none

def plainEngine : Engine where
  toLower := fun text => String.ofList (text.toList.map Char.toLower)
  equalFold := fun first second => first.toList.map Char.toLower = second.toList.map Char.toLower
  format := fun _ => ""
  unmarshal := fun _ => none
  unmarshal_weight := nofun
  checkConditions := fun _ _ _ _ => .ok true
  paths := fun _ path => .ok [path]
  operate := fun _ _ body _ => .ok body
  applyOperationsLegacy := fun body _ => .ok body
  get := fun _ _ => none
  set := fun body _ _ => .ok body

def oneRetry : Settings where
  retryTimes := 1
  tables := discountTables
  autoGroupsEnabled := false
  isAlwaysSkipRetryCode := fun _ => false
  shouldRetryByStatusCode := fun code => code = 503
  normalizeViolationFeeError := fun error => error

def chatRequest : Request where
  price := { promptTokens := 1000, maxTokens := 0 }
  taskFormat := false
  tokenGroup := "default"
  userAutoGroups := []
  crossGroupRetry := false
  specificChannel := false
  forcedChannel := false
  forcedSupplier := false
  smartRouteOrder := []

def channelOf (id : Int) (paramOverride headerOverride : Fields) : Channel where
  id
  type := 1
  name := "upstream"
  enabled := true
  createdTime := 0
  organization := ""
  other := ""
  baseUrl := ""
  isMultiKey := false
  supplierApplicationId := 0
  paramOverride
  headerOverride

def routingTo (channel : Channel) : Routing where
  cacheGetChannel := fun id => if id = channel.id then some channel else none
  getRandomSatisfiedChannel := fun _ _ => .ok (some channel)
  selecting := { affinity := fun fields => fields, nextKey := fun _ => .ok ("key", 0) }

def busy : TokenFactoryError := ⟨503, "overloaded", "bad_response_status_code", "openai_error", false⟩

def chatRound (channel : Channel) (answer : Option TokenFactoryError) : Attempt where
  routing := routingTo channel
  affinityFailed := false
  bodyStorage := none
  mapping := .ok ⟨"gpt", "gpt", false⟩
  converted := some (.object [])
  answer

def chatInfo : RelayInfo where
  userId := 1
  userGroup := "default"
  usingGroup := "default"
  originModelName := "gpt"
  relayMode := .other
  acceptUnsetRatioModel := false
  requestUrlPath := "/v1/chat/completions"
  requestHeaders := []
  isChannelTest := false

def contextOf (channel : Channel) : Context :=
  (setupContextForSelectedChannel (routingTo channel).selecting {} channel "gpt").2

def beginOn (channel : Channel) : Except TokenFactoryError RelayState :=
  RelayState.begin oneRetry chatRequest (routingTo channel) (fun _ => none) (contextOf channel) chatInfo

def startOn (channel : Channel) : RelayState :=
  match beginOn channel with
  | .ok start => start
  | .error error => ⟨contextOf channel, chatInfo, ⟨0, false⟩, channel, some error, true, []⟩

theorem begin_startOn (paramOverride headerOverride : Fields) :
    beginOn (channelOf 1 paramOverride headerOverride) =
      .ok (startOn (channelOf 1 paramOverride headerOverride)) := rfl

end TokenFactory.Relay
