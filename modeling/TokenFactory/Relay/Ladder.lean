import TokenFactory.Relay.Bounded

namespace TokenFactory.Relay

open Data Go

/-! The order in which the loop tries the channels of the automatic groups. -/

/-- A routing that finds the channels of each group by their priorities, which are given
from the greatest to the least. -/
structure Descends (priorities : String → List Int) (routing : Routing) : Prop where
  empty : ∀ group retry channel, priorities group = [] →
    routing.getRandomSatisfiedChannel group retry ≠ .ok (some channel)
  reaches : ∀ group retry priority,
    (priorities group)[min retry ((priorities group).length - 1)]? = some priority →
    ∃ channel, routing.getRandomSatisfiedChannel group retry = .ok (some channel) ∧
      channel.priority = priority

/-- The channels that a routing finds have a key, and the request may use them. -/
structure Ready (request : Request) (routing : Routing) : Prop where
  keyed : ∀ group retry channel, routing.getRandomSatisfiedChannel group retry = .ok (some channel) →
    ∃ next, routing.selecting.nextKey channel = .ok next
  suited : ∀ group retry channel, routing.getRandomSatisfiedChannel group retry = .ok (some channel) →
    errVideoTaskChannelOnNonTaskRelay request channel = none

/-- A request whose channels are taken from the automatic groups, one after the other. -/
structure Automatic (settings : Settings) (request : Request) : Prop where
  auto : request.tokenGroup = "auto"
  enabled : settings.autoGroupsEnabled = true
  cross : request.crossGroupRetry = true
  unspecified : request.specificChannel = false
  unforced : request.forcedChannel = false
  unbound : request.forcedSupplier = false
  unordered : request.smartRouteOrder = []

/-- The loop stands at the group `index`. Without retries the first selection has already
handed over to the next group. -/
structure Stands (settings : Settings) (index : Nat) (group : String) (ctx : Context) (param : RetryParam) :
    Prop where
  group : ctx.autoGroup = some group
  stays : 0 < settings.retryTimes → ctx.autoGroupIndex = some index ∧ param.resetNextTry = false

section
variable {settings : Settings} {request : Request} {routing : Routing} {ctx : Context} {info : RelayInfo}
  {param : RetryParam} {channel : Channel} {index : Nat} {group : String}

theorem setupContextForSelectedChannel_keyed {selecting : Selecting} {next : String × Int}
    (keyed : selecting.nextKey channel = .ok next) (ctx : Context) (modelName : String) :
    (setupContextForSelectedChannel selecting ctx channel modelName).1 = .ok () := by
  unfold setupContextForSelectedChannel
  rw [keyed]

theorem Stands.setup (stands : Stands settings index group ctx param) (selecting : Selecting)
    (channel : Channel) (modelName : String) :
    Stands settings index group (setupContextForSelectedChannel selecting ctx channel modelName).2 param := by
  have kept := setupContextForSelectedChannel_autoGroup selecting ctx channel modelName
  refine ⟨kept.1.trans stands.group, fun retries => ?_⟩
  rw [kept.2]
  exact stands.stays retries

theorem land_answer : (land settings request index group ctx param channel).answer = .ok (some channel) := by
  unfold land
  split <;> rfl

theorem land_group : (land settings request index group ctx param channel).ctx.autoGroup = some group := by
  unfold land
  split <;> rfl

theorem land_below (below : (param.retry : Int) < settings.retryTimes) :
    land settings request index group ctx param channel =
      ⟨.ok (some channel), group, { ctx with autoGroup := some group, autoGroupIndex := some index },
        param⟩ :=
  if_neg fun reached => absurd reached.2 (not_le.mpr below)

theorem land_counter (start : param.retry = 0) :
    (land settings request index group ctx param channel).param.retry = 0 := by
  unfold land
  split
  · rfl
  · exact start

theorem land_stands (start : param = ⟨0, false⟩) :
    Stands settings index group (land settings request index group ctx param channel).ctx
      (land settings request index group ctx param channel).param := by
  refine ⟨land_group, fun retries => ?_⟩
  subst start
  rw [land_below (by exact retries)]
  exact ⟨rfl, rfl⟩

theorem cacheGetRandomSatisfiedChannel_here (automatic : Automatic settings request)
    (here : ctx.autoGroupIndex = some index) (listed : request.userAutoGroups[index]? = some group)
    (drawn : routing.getRandomSatisfiedChannel group param.retry = .ok (some channel)) :
    cacheGetRandomSatisfiedChannel settings request routing ctx param =
      land settings request index group ctx param channel := by
  obtain ⟨inside, same⟩ := List.getElem?_eq_some_iff.mp listed
  unfold cacheGetRandomSatisfiedChannel
  rw [if_pos automatic.auto, if_neg (by simp [automatic.enabled]), here]
  dsimp only [Option.getD_some]
  rw [List.drop_eq_getElem_cons inside, same]
  unfold searchAutoGroups
  dsimp only
  rw [if_neg (lt_irrefl index), drawn]
  rfl

theorem cacheGetRandomSatisfiedChannel_first {priorities : String → List Int}
    (automatic : Automatic settings request) (descends : Descends priorities routing)
    (fresh : ctx.autoGroupIndex = none)
    (found : (cacheGetRandomSatisfiedChannel settings request routing ctx ⟨0, false⟩).answer =
      .ok (some channel)) : let drawn := cacheGetRandomSatisfiedChannel settings request routing ctx ⟨0, false⟩
    ∃ passed group rest, request.userAutoGroups = passed ++ group :: rest ∧
      (∀ other ∈ passed, priorities other = []) ∧ (priorities group)[0]? = some channel.priority ∧
      routing.getRandomSatisfiedChannel group 0 = .ok (some channel) ∧ drawn.param.retry = 0 ∧
      Stands settings passed.length group drawn.ctx drawn.param := by
  unfold cacheGetRandomSatisfiedChannel at found ⊢
  rw [if_pos automatic.auto, if_neg (by simp [automatic.enabled]), fresh] at found ⊢
  dsimp only [Option.getD_none, List.drop_zero] at found ⊢
  obtain ⟨passed, group, rest, split, without, drawn, landed⟩ :=
    searchAutoGroups_landed le_rfl (fun further => absurd further (lt_irrefl 0)) found
  have restarted : RetryParam.past ⟨0, false⟩ passed = ⟨0, false⟩ := by
    unfold RetryParam.past
    split <;> rfl
  rw [restarted] at drawn landed
  refine ⟨passed, group, rest, split, fun other member => ?_, ?_, drawn, ?_, ?_⟩
  · obtain ⟨retry, missing⟩ := without other member
    by_contra nonempty
    have inside : min retry ((priorities other).length - 1) < (priorities other).length := by
      have positive := List.length_pos_iff.mpr nonempty
      omega
    obtain ⟨held, reached, _⟩ := descends.reaches other retry _ (List.getElem?_eq_getElem inside)
    exact missing held reached
  · have nonempty : priorities group ≠ [] := fun empty => descends.empty group 0 channel empty drawn
    obtain ⟨priority, top⟩ : ∃ priority, (priorities group)[0]? = .some priority :=
      ⟨_, List.getElem?_eq_getElem (List.length_pos_iff.mpr nonempty)⟩
    obtain ⟨held, reached, same⟩ := descends.reaches group 0 priority (by rwa [Nat.zero_min])
    rw [drawn] at reached
    cases reached
    rw [top, same]
  · rw [landed]
    exact land_counter rfl
  · rw [landed, Nat.zero_add]
    exact land_stands rfl

theorem selectRandom_keyed
    (found : (cacheGetRandomSatisfiedChannel settings request routing ctx param).answer = .ok (some channel))
    {next : String × Int} (keyed : routing.selecting.nextKey channel = .ok next) (info : RelayInfo) :
    let random := cacheGetRandomSatisfiedChannel settings request routing ctx param
    let selection := selectRandom settings request routing ctx info param
    selection.answer = .ok channel ∧ selection.param = random.param ∧
      selection.ctx.autoGroup = random.ctx.autoGroup ∧
      selection.ctx.autoGroupIndex = random.ctx.autoGroupIndex := by
  unfold selectRandom
  dsimp only
  rw [found]
  dsimp only
  generalize cacheGetRandomSatisfiedChannel settings request routing ctx param = random
  generalize info.refreshGroupRatio settings random.ctx = info
  have done := setupContextForSelectedChannel_keyed keyed random.ctx info.originModelName
  have kept := setupContextForSelectedChannel_autoGroup routing.selecting random.ctx channel
    info.originModelName
  unfold select
  cases set : setupContextForSelectedChannel routing.selecting random.ctx channel info.originModelName with
  | mk outcome after =>
    rw [set] at done kept
    dsimp only at done kept
    rw [done]
    exact ⟨rfl, rfl, kept⟩

theorem getChannel_random (automatic : Automatic settings request)
    (unheld : distributed routing ctx param = none) (info : RelayInfo) :
    getChannel settings request routing ctx info param =
      selectRandom settings request routing ctx (info.ensureChannelMeta ctx) param := by
  unfold getChannel
  rw [unheld]
  have free : ¬ (param.retry > 0 ∧ (request.specificChannel ∨ request.forcedChannel)) := by
    simp [automatic.unspecified, automatic.unforced]
  have unrouted : smartRouted request routing param = none := by
    unfold smartRouted
    rw [automatic.unordered]
    rfl
  dsimp only
  rw [if_neg free, unrouted]
  rw [if_neg (by simp [automatic.unbound])]

end

namespace RelayState

variable (engine : Engine) (settings : Settings) (request : Request)

/-- The group and the priority of the channel that a round is about to use. -/
def trying (state : RelayState) (round : Attempt) : Option (String × Int) :=
  match state.arrive settings request round with
  | .error _ => none
  | .ok selected =>
    match selected.ctx.autoGroup, selected.answer with
    | some group, .ok channel => some (group, channel.priority)
    | _, _ => none

def tries : RelayState → List Attempt → List (String × Int)
  | _, [] => []
  | state, round :: rest =>
    (state.trying settings request round).toList ++ (state.step engine settings request round).tries rest

/-- An attempt of this round fails with an error after which the loop goes on. -/
def failsRetryably (state : RelayState) (round : Attempt) : Bool :=
  match state.arrive settings request round with
  | .error _ => true
  | .ok selected => !(state.attempt engine settings request round selected).finished

/-- Before the round of the rung `place`. The first rung is that of the channel which was
selected before the loop. -/
structure OnRung (priorities : String → List Int) (index : Nat) (group : String) (place : Nat)
    (state : RelayState) : Prop where
  running : state.finished = false
  counter : state.param.retry = place
  stands : Stands settings index group state.ctx state.param
  first : place = 0 → (priorities group)[0]? = some state.firstChannel.priority ∧
    errVideoTaskChannelOnNonTaskRelay request state.firstChannel = none

section
variable {engine settings request} {priorities : String → List Int} {index : Nat} {group : String} {place : Nat}
  {state start : RelayState} {round : Attempt} {priority : Int}

section
variable (automatic : Automatic settings request)
include automatic

section
variable (descends : Descends priorities round.routing)
  (ready : Ready request round.routing) (listed : request.userAutoGroups[index]? = some group)
  (within : (place : Int) ≤ settings.retryTimes)
  (onRung : OnRung settings request priorities index group place state)
  (rung : (priorities group)[min place ((priorities group).length - 1)]? = some priority)
include descends ready listed within onRung rung

theorem choose_rung : ∃ channel, (state.choose settings request round).answer = .ok channel ∧
      channel.priority = priority ∧
      errVideoTaskChannelOnNonTaskRelay request channel = none ∧
      (state.choose settings request round).ctx.autoGroup = some group ∧
      ((place : Int) < settings.retryTimes →
        (state.choose settings request round).ctx.autoGroupIndex = some index ∧
        (state.choose settings request round).param = ⟨place, false⟩) := by
  have counter := onRung.counter
  unfold choose
  by_cases retried : state.param.retry > 0
  · have retries : 0 < settings.retryTimes := by omega
    obtain ⟨here, unflagged⟩ := onRung.stands.stays retries
    rw [← counter] at rung
    obtain ⟨channel, drawn, same⟩ := descends.reaches group _ priority rung
    obtain ⟨next, keyed⟩ := ready.keyed group _ channel drawn
    have landed := cacheGetRandomSatisfiedChannel_here automatic here listed drawn
    have found : (cacheGetRandomSatisfiedChannel settings request round.routing state.ctx
        state.param).answer = .ok (some channel) := by
      rw [landed]
      exact land_answer
    have unheld : distributed round.routing state.ctx state.param = none :=
      if_neg fun held => absurd held.1 (Nat.pos_iff_ne_zero.mp retried)
    rw [if_pos retried, getChannel_random automatic unheld]
    obtain ⟨answered, param, inGroup, atIndex⟩ := selectRandom_keyed found keyed
      (RelayInfo.ensureChannelMeta { state.info with retryIndex := state.param.retry } state.ctx)
    rw [landed] at param inGroup atIndex
    refine ⟨channel, answered, same, ready.suited group _ channel drawn, inGroup.trans land_group, ?_⟩
    intro below
    rw [land_below (by omega)] at param atIndex
    refine ⟨atIndex, ?_⟩
    rw [param, ← counter, ← unflagged]
  · have zero : place = 0 := by omega
    obtain ⟨top, suited⟩ := onRung.first zero
    rw [zero, Nat.zero_min, top] at rung
    rw [if_neg retried]
    refine ⟨state.firstChannel, rfl, Option.some.inj rung, suited, onRung.stands.group, fun below => ?_⟩
    obtain ⟨here, unflagged⟩ := onRung.stands.stays (by omega)
    refine ⟨here, ?_⟩
    rw [← counter, ← unflagged]

theorem step_rung (fails : state.failsRetryably engine settings request round = true) :
    state.trying settings request round = some (group, priority) ∧
      ((place : Int) < settings.retryTimes →
        OnRung settings request priorities index group (place + 1)
          (state.step engine settings request round)) := by
  obtain ⟨channel, answered, same, suited, inGroup, later⟩ :=
    choose_rung automatic descends ready listed within onRung rung
  have arrived : ∃ selected, state.arrive settings request round = .ok selected ∧
      selected.answer = .ok channel ∧ selected.ctx = (state.choose settings request round).ctx ∧
      selected.param = (state.choose settings request round).param := by
    unfold arrive
    rw [if_neg (by simp [onRung.running]), if_neg (by rw [onRung.counter]; omega)]
    dsimp only
    rw [answered]
    dsimp only
    rw [suited]
    exact ⟨_, rfl, rfl, rfl, rfl⟩
  obtain ⟨selected, reached, chosen, ctx, param⟩ := arrived
  constructor
  · unfold trying
    rw [reached]
    dsimp only
    rw [ctx, inGroup, chosen, ← same]
  · intro below
    obtain ⟨atIndex, counted⟩ := later below
    unfold failsRetryably at fails
    rw [reached] at fails
    have running : (state.attempt engine settings request round selected).finished = false := by
      simpa using fails
    rcases attempt_ends engine settings request state round selected with ended | ⟨sameCtx, sameParam⟩
    · rw [running] at ended
      cases ended
    · rw [ctx] at sameCtx
      rw [param, counted] at sameParam
      unfold step
      rw [reached]
      refine ⟨running, ?_, ⟨?_, fun _ => ?_⟩, fun zero => absurd zero (Nat.succ_ne_zero place)⟩
      · rw [sameParam]
        rfl
      · rw [sameCtx]
        exact inGroup
      · rw [sameCtx, sameParam]
        exact ⟨atIndex, rfl⟩

end

/-- The whole loop, up to the limit: it goes down the ladder of one group and stays on the
last rung. -/
theorem tries_rung {rounds : List Attempt}
    (routed : ∀ round ∈ rounds, Descends priorities round.routing ∧ Ready request round.routing)
    (listed : request.userAutoGroups[index]? = some group)
    (onRung : OnRung settings request priorities index group place start)
    (fails : Guarded (step engine settings request)
      (fun state round => state.failsRetryably engine settings request round = true) start rounds)
    {position : Nat} (offered : position < rounds.length)
    (within : ((place + position : Nat) : Int) ≤ settings.retryTimes)
    (rung : (priorities group)[min (place + position) ((priorities group).length - 1)]? = some priority) :
    (start.tries engine settings request rounds)[position]? = some (group, priority) := by
  induction rounds generalizing start place position with
  | nil => cases offered
  | cons round rest ih =>
    obtain ⟨⟨descends, ready⟩, later⟩ := List.forall_mem_cons.mp routed
    have reached : ∃ held, (priorities group)[min place ((priorities group).length - 1)]? = some held := by
      have inside := (List.getElem?_eq_some_iff.mp rung).1
      exact ⟨_, List.getElem?_eq_getElem (by omega)⟩
    obtain ⟨held, here⟩ := reached
    obtain ⟨tried, onNext⟩ := step_rung automatic descends ready listed (by omega) onRung here fails.1
    rw [tries, tried]
    cases position with
    | zero =>
      rw [Nat.add_zero, here] at rung
      cases rung
      rfl
    | succ position =>
      have shifted : place + (position + 1) = place + 1 + position := by omega
      rw [shifted] at within rung
      exact ih later (onNext (by omega)) fails.2 (Nat.lt_of_succ_lt_succ offered) within rung

end

variable {preConsumeBilling : Int → Option TokenFactoryError} {routing : Routing} {info : RelayInfo} {ctx : Context}

theorem begin_held {channel : Channel} (held : distributed routing ctx ⟨0, false⟩ = some channel)
    (stands : Stands settings index group ctx ⟨0, false⟩)
    (top : (priorities group)[0]? = some channel.priority)
    (started : begin settings request routing preConsumeBilling ctx info = .ok start) :
    OnRung settings request priorities index group 0 start := by
  have same : getChannel settings request routing ctx (genRelayInfo info) ⟨0, false⟩ =
      ⟨.ok channel, ctx, (genRelayInfo info).ensureChannelMeta ctx, ⟨0, false⟩⟩ := by
    unfold getChannel
    rw [held]
  obtain ⟨_, _, _, answered, suited, _, rfl⟩ := begin_selected started
  rw [same] at answered ⊢
  cases answered
  exact ⟨rfl, rfl, stands, fun _ => ⟨top, suited⟩⟩

theorem begin_fresh
    (automatic : Automatic settings request) (descends : Descends priorities routing)
    (ready : Ready request routing) (unset : ctx.channelId ≤ 0) (fresh : ctx.autoGroupIndex = none)
    (started : begin settings request routing preConsumeBilling ctx info = .ok start) :
    ∃ passed group rest, request.userAutoGroups = passed ++ group :: rest ∧
      (∀ other ∈ passed, priorities other = []) ∧
      OnRung settings request priorities passed.length group 0 start := by
  have unheld : distributed routing ctx ⟨0, false⟩ = none := if_neg fun held => absurd held.2 (not_lt.mpr unset)
  obtain ⟨_, _, _, answered, suited, _, rfl⟩ := begin_selected started
  rw [getChannel_random automatic unheld] at answered ⊢
  cases random : (cacheGetRandomSatisfiedChannel settings request routing ctx ⟨0, false⟩).answer with
  | error reason =>
    unfold selectRandom at answered
    dsimp only at answered
    rw [random] at answered
    cases answered
  | ok answer =>
    cases answer with
    | none =>
      unfold selectRandom at answered
      dsimp only at answered
      rw [random] at answered
      cases answered
    | some channel =>
      obtain ⟨passed, group, rest, split, without, top, drawn, counter, stands⟩ :=
        cacheGetRandomSatisfiedChannel_first automatic descends fresh random
      obtain ⟨next, keyed⟩ := ready.keyed group 0 channel drawn
      obtain ⟨chosen, param, inGroup, atIndex⟩ := selectRandom_keyed random keyed
        ((genRelayInfo info).ensureChannelMeta ctx)
      rw [chosen] at answered
      cases answered
      refine ⟨passed, group, rest, split, without, rfl, ?_, ⟨inGroup.trans stands.group, fun retries => ?_⟩,
        fun _ => ⟨top, suited⟩⟩
      · rw [param, counter]
      · rw [atIndex, param]
        exact stands.stays retries

end

end RelayState

end TokenFactory.Relay
