import TokenFactory.Relay.Price

namespace TokenFactory.Relay

open Go

/-! `getChannel`: the channel of one attempt, and what choosing it writes.

Selection writes the keys of the context. It writes the `ChannelMeta` of the
info only when there is none yet, and then before anything is selected. -/

structure RetryParam where
  retry : Nat
  resetNextTry : Bool
deriving DecidableEq

def RetryParam.increaseRetry (param : RetryParam) : RetryParam :=
  if param.resetNextTry then { param with resetNextTry := false }
  else { param with retry := param.retry + 1 }

structure Settings where
  retryTimes : Int
  tables : PriceTables
  autoGroupsEnabled : Bool
  isAlwaysSkipRetryCode : String → Bool
  shouldRetryByStatusCode : Int → Bool
  normalizeViolationFeeError : TokenFactoryError → TokenFactoryError

/-- What the request fixes. The flags say which routing keys the distributor has
set; an order that was not computed is empty. -/
structure Request where
  price : PriceRequest
  taskFormat : Bool
  tokenGroup : String
  userAutoGroups : List String
  crossGroupRetry : Bool
  specificChannel : Bool
  forcedChannel : Bool
  forcedSupplier : Bool
  smartRouteOrder : List Int

structure Routing where
  cacheGetChannel : Int → Option Channel
  getRandomSatisfiedChannel : String → Nat → Except String (Option Channel)
  selecting : Selecting

def Routing.enabledChannel (routing : Routing) (id : Int) : Option Channel :=
  (routing.cacheGetChannel id).filter Channel.enabled

variable (settings : Settings) (request : Request) (routing : Routing)

structure RandomChannel where
  answer : Except String (Option Channel)
  selectGroup : String
  ctx : Context
  param : RetryParam

/-- The loop over the automatic groups. A group without a channel restarts the
retry counter for the next one; with cross-group retries, a group that has used
up its retries hands over to the next group at the next attempt. -/
def searchAutoGroups (start : Nat) : Nat → List String → Context → RetryParam → RandomChannel
  | _, [], ctx, param => ⟨.ok none, request.tokenGroup, ctx, param⟩
  | index, group :: rest, ctx, param =>
    let priorityRetry := if index > start then 0 else param.retry
    match routing.getRandomSatisfiedChannel group priorityRetry with
    | .error _ | .ok none =>
      searchAutoGroups start (index + 1) rest { ctx with autoGroupIndex := some (index + 1) }
        { param with retry := 0 }
    | .ok (some channel) =>
      if request.crossGroupRetry ∧ (priorityRetry : Int) ≥ settings.retryTimes then
        ⟨.ok (some channel), group,
          { ctx with autoGroup := some group, autoGroupIndex := some (index + 1) },
          ⟨0, true⟩⟩
      else
        ⟨.ok (some channel), group,
          { ctx with autoGroup := some group, autoGroupIndex := some index }, param⟩

def cacheGetRandomSatisfiedChannel (ctx : Context) (param : RetryParam) : RandomChannel :=
  if request.tokenGroup = "auto" then
    if ¬ settings.autoGroupsEnabled then
      ⟨.error "auto groups is not enabled", request.tokenGroup, ctx, param⟩
    else
      let start := ctx.autoGroupIndex.getD 0
      searchAutoGroups settings request routing start start (request.userAutoGroups.drop start) ctx param
  else
    ⟨routing.getRandomSatisfiedChannel request.tokenGroup param.retry, request.tokenGroup, ctx, param⟩

/-- The counter after the groups in `passed` had no channel. -/
def RetryParam.past (param : RetryParam) (passed : List String) : RetryParam :=
  if passed = [] then param else { param with retry := 0 }

theorem RetryParam.past_restarted (param : RetryParam) (group : String) (passed : List String) :
    RetryParam.past { param with retry := 0 } passed = param.past (group :: passed) := by
  unfold RetryParam.past
  split <;> rfl

def land (index : Nat) (group : String) (ctx : Context) (param : RetryParam) (channel : Channel) :
    RandomChannel :=
  if request.crossGroupRetry ∧ (param.retry : Int) ≥ settings.retryTimes then
    ⟨.ok (some channel), group, { ctx with autoGroup := some group, autoGroupIndex := some (index + 1) },
      ⟨0, true⟩⟩
  else
    ⟨.ok (some channel), group, { ctx with autoGroup := some group, autoGroupIndex := some index }, param⟩

/-- The groups that a request may take a channel from: its own, or those of the user if
it leaves the choice to the platform. -/
def Grants (usingGroup : String) (userAutoGroups : List String) (group : String) : Prop :=
  if usingGroup = "auto" then group ∈ userAutoGroups else group = usingGroup

section
variable {settings request routing} {ctx : Context} {param : RetryParam} {channel : Channel}

/-- The search ends at the first group that gives a channel. Groups that were passed
have reset the counter. -/
theorem searchAutoGroups_landed {start index : Nat} {groups : List String} (reached : start ≤ index)
    (counted : start < index → param.retry = 0)
    (found : (searchAutoGroups settings request routing start index groups ctx param).answer =
      .ok (some channel)) : ∃ passed group rest, groups = passed ++ group :: rest ∧
      (∀ other ∈ passed, ∃ retry, ∀ held,
        routing.getRandomSatisfiedChannel other retry ≠ .ok (some held)) ∧
      routing.getRandomSatisfiedChannel group (param.past passed).retry = .ok (some channel) ∧
      searchAutoGroups settings request routing start index groups ctx param =
        land settings request (index + passed.length) group ctx (param.past passed) channel := by
  induction groups generalizing index ctx param with
  | nil => cases found
  | cons group rest ih =>
    unfold searchAutoGroups at found ⊢
    have counter : (if index > start then 0 else param.retry) = param.retry := by
      split
      case isTrue further => exact (counted further).symm
      case isFalse first => rfl
    dsimp only at found ⊢
    rw [counter] at found ⊢
    -- the groups after this one are searched from zero
    have later (missing : ∀ held, routing.getRandomSatisfiedChannel group param.retry ≠ .ok (some held))
        (skipped : (searchAutoGroups settings request routing start (index + 1) rest
          { ctx with autoGroupIndex := some (index + 1) } { param with retry := 0 }).answer =
        .ok (some channel)) :
        ∃ passed other rest', group :: rest = passed ++ other :: rest' ∧
          (∀ other ∈ passed, ∃ retry, ∀ held,
            routing.getRandomSatisfiedChannel other retry ≠ .ok (some held)) ∧
          routing.getRandomSatisfiedChannel other (param.past passed).retry = .ok (some channel) ∧
          searchAutoGroups settings request routing start (index + 1) rest
              { ctx with autoGroupIndex := some (index + 1) } { param with retry := 0 } =
            land settings request (index + passed.length) other ctx (param.past passed) channel := by
      obtain ⟨passed, other, rest', split, without, drawn, landed⟩ := ih (by omega) (fun _ => rfl) skipped
      refine ⟨group :: passed, other, rest', by rw [split]; rfl, ?_, ?_, ?_⟩
      · exact List.forall_mem_cons.mpr ⟨⟨param.retry, missing⟩, without⟩
      · rwa [RetryParam.past_restarted] at drawn
      · rw [landed, RetryParam.past_restarted, List.length_cons, Nat.add_right_comm, Nat.add_assoc]
        rfl
    cases drawn : routing.getRandomSatisfiedChannel group param.retry with
    | error reason =>
      rw [drawn] at found
      exact later (by simp [drawn]) found
    | ok answer =>
      rw [drawn] at found
      cases answer with
      | none => exact later (by simp [drawn]) found
      | some picked =>
        have same : picked = channel := by
          dsimp only at found
          split at found
          all_goals
            cases found
            rfl
        subst same
        exact ⟨[], group, rest, rfl, List.forall_mem_nil _, drawn, rfl⟩

theorem searchAutoGroups_found {start : Nat} {groups : List String}
    (found : (searchAutoGroups settings request routing start start groups ctx param).answer =
      .ok (some channel)) :
    ∃ group ∈ groups, ∃ retry, routing.getRandomSatisfiedChannel group retry = .ok (some channel) := by
  obtain ⟨passed, group, rest, split, _, drawn, _⟩ :=
    searchAutoGroups_landed le_rfl (fun further => absurd further (lt_irrefl start)) found
  exact ⟨group, by simp [split], _, drawn⟩

theorem cacheGetRandomSatisfiedChannel_found
    (found : (cacheGetRandomSatisfiedChannel settings request routing ctx param).answer =
      .ok (some channel)) : ∃ group, Grants request.tokenGroup request.userAutoGroups group ∧
      ∃ retry, routing.getRandomSatisfiedChannel group retry = .ok (some channel) := by
  unfold cacheGetRandomSatisfiedChannel at found
  split at found
  case isTrue auto =>
    split at found
    · cases found
    · obtain ⟨group, member, retry, drawn⟩ := searchAutoGroups_found found
      refine ⟨group, ?_, retry, drawn⟩
      rw [Grants, if_pos auto]
      exact List.mem_of_mem_drop member
  case isFalse explicit => exact ⟨request.tokenGroup, by rw [Grants, if_neg explicit], param.retry, found⟩

end

structure Selection where
  answer : Except TokenFactoryError Channel
  ctx : Context
  info : RelayInfo
  param : RetryParam

def getChannelFailed (message : String) : TokenFactoryError := newError message "get_channel_failed" true

def RelayInfo.ensureChannelMeta (info : RelayInfo) (ctx : Context) : RelayInfo :=
  if info.channelMeta.isNone then info.initChannelMeta ctx else info

def RelayInfo.refreshGroupRatio (info : RelayInfo) (ctx : Context) : RelayInfo :=
  let group := handleGroupRatio settings.tables ctx info
  { group.2 with priceData := { group.2.priceData with groupRatioInfo := group.1 } }

def select (ctx : Context) (info : RelayInfo) (param : RetryParam) (channel : Channel) : Selection :=
  match setupContextForSelectedChannel routing.selecting ctx channel info.originModelName with
  | (.error error, ctx) => ⟨.error error, ctx, info, param⟩
  | (.ok (), ctx) => ⟨.ok channel, ctx, info, param⟩

/-- The channel that the distributor has already put into the context. -/
def distributed (ctx : Context) (param : RetryParam) : Option Channel :=
  if param.retry = 0 ∧ ctx.channelId > 0 then routing.enabledChannel ctx.channelId else none

def smartRouted (param : RetryParam) : Option Channel :=
  request.smartRouteOrder[param.retry]?.bind routing.enabledChannel

def selectRandom (ctx : Context) (info : RelayInfo) (param : RetryParam) : Selection :=
  let random := cacheGetRandomSatisfiedChannel settings request routing ctx param
  let info := info.refreshGroupRatio settings random.ctx
  let subject := "分组 " ++ random.selectGroup ++ " 下模型 " ++ info.originModelName ++ " 的可用渠道"
  match random.answer with
  | .error reason =>
    ⟨.error (getChannelFailed ("获取" ++ subject ++ "失败（retry）: " ++ reason)), random.ctx, info,
      random.param⟩
  | .ok none =>
    ⟨.error (getChannelFailed (subject ++ "不存在（retry）")), random.ctx, info, random.param⟩
  | .ok (some channel) => select routing random.ctx info random.param channel

def getChannel (ctx : Context) (info : RelayInfo) (param : RetryParam) : Selection :=
  let info := info.ensureChannelMeta ctx
  match distributed routing ctx param with
  | some channel => ⟨.ok channel, ctx, info, param⟩
  | none =>
    if param.retry > 0 ∧ (request.specificChannel ∨ request.forcedChannel) then
      ⟨.error (getChannelFailed "已指定渠道，禁用重试切换渠道"), ctx, info, param⟩
    else
      match smartRouted request routing param with
      | some channel => select routing ctx (info.refreshGroupRatio settings ctx) param channel
      | none =>
        if request.forcedSupplier then
          ⟨.error (getChannelFailed ("分组 " ++ request.tokenGroup ++ " 下模型 " ++ info.originModelName ++
            " 在指定供应商内已无可用渠道（retry）")), ctx, info, param⟩
        else selectRandom settings request routing ctx info param

/-! What selecting a channel leaves alone. -/

theorem ensureChannelMeta_kept (info : RelayInfo) (ctx : Context) :
    RelayInfo.Kept info (info.ensureChannelMeta ctx) := by
  unfold RelayInfo.ensureChannelMeta
  split
  · rename_i missing
    rw [Option.isNone_iff_eq_none] at missing
    exact ⟨fun present => by simp [missing] at present, rfl, rfl⟩
  · exact .refl info

theorem ensureChannelMeta_isSome (info : RelayInfo) (ctx : Context) :
    (info.ensureChannelMeta ctx).channelMeta.isSome := by
  cases held : info.channelMeta with
  | none => simp [RelayInfo.ensureChannelMeta, held, RelayInfo.initChannelMeta]
  | some channelMeta => simp [RelayInfo.ensureChannelMeta, held]

theorem refreshGroupRatio_kept (ctx : Context) (info : RelayInfo) :
    RelayInfo.Kept info (info.refreshGroupRatio settings ctx) :=
  have group := handleGroupRatio_kept settings.tables ctx info
  ⟨group.channelMeta, group.runtime, group.flag⟩

theorem select_info (ctx : Context) (info : RelayInfo) (param : RetryParam) (channel : Channel) :
    (select routing ctx info param channel).info = info := by
  unfold select
  split <;> rfl

theorem selectRandom_kept (ctx : Context) (info : RelayInfo) (param : RetryParam) :
    RelayInfo.Kept info (selectRandom settings request routing ctx info param).info := by
  unfold selectRandom
  cases cacheGetRandomSatisfiedChannel settings request routing ctx param with
  | mk answer selectGroup after next =>
    have refreshed := refreshGroupRatio_kept settings after info
    match answer with
    | .error _ => exact refreshed
    | .ok none => exact refreshed
    | .ok (some channel) => exact (select_info routing _ _ _ channel).symm ▸ refreshed

theorem getChannel_kept (ctx : Context) (info : RelayInfo) (param : RetryParam) :
    RelayInfo.Kept info (getChannel settings request routing ctx info param).info := by
  refine (ensureChannelMeta_kept info ctx).trans ?_
  unfold getChannel
  generalize info.ensureChannelMeta ctx = info
  cases distributed routing ctx param with
  | some channel => exact .refl info
  | none =>
    simp only
    split
    · exact .refl info
    cases smartRouted request routing param with
    | some channel =>
      simp only [select_info]
      exact refreshGroupRatio_kept settings ctx info
    | none =>
      simp only
      split
      · exact .refl info
      · exact selectRandom_kept settings request routing ctx info param

theorem setupContextForSelectedChannel_channelId (selecting : Selecting) (ctx : Context) (channel : Channel)
    (modelName : String) :
    (setupContextForSelectedChannel selecting ctx channel modelName).2.channelId = channel.id := by
  unfold setupContextForSelectedChannel
  cases selecting.nextKey channel with
  | error error => rfl
  | ok next =>
    dsimp only
    rw [Context.setUpstreamRoute_eq, Context.setOther_eq]

def TokenFactoryError.isChannelError (error : TokenFactoryError) : Bool :=
  "channel:".toList.isPrefixOf error.errorCode.toList

/-- `affinityFailed`: the rule of the channel affinity forbids another attempt. -/
def shouldRetry (affinityFailed : Bool) (error : TokenFactoryError) (retryTimes : Int) : Bool :=
  if affinityFailed ∨ request.specificChannel ∨ request.forcedChannel then false
  else if error.isChannelError then true
  else if error.skipRetry ∨ retryTimes ≤ 0 then false
  else if 200 ≤ error.statusCode ∧ error.statusCode < 300 then false
  else if error.statusCode < 100 ∨ error.statusCode > 599 then true
  else if settings.isAlwaysSkipRetryCode error.errorCode then false
  else settings.shouldRetryByStatusCode error.statusCode

end TokenFactory.Relay
