import TokenFactory.Relay.Attempts

namespace TokenFactory.Relay

open Data Go

/-! The retry loop is bounded. -/

/-- The automatic groups that a request can go through. -/
def Request.autoGroupCount (request : Request) : Nat :=
  if request.tokenGroup = "auto" then request.userAutoGroups.length else 0

def Context.groupIndex (ctx : Context) : Nat := ctx.autoGroupIndex.getD 0

/-- The rounds that are left, when the loop stands at the group `index`. -/
def budget (limit groups index : Nat) (param : RetryParam) : Nat :=
  (groups - index) * (limit + 1) + (limit + 1 - param.retry) + if param.resetNextTry then 1 else 0

/-- What a selection may do to the index and the counter: nothing, go on to a later
group, or hand over to a later group at the next attempt. -/
inductive Moved (groups index : Nat) (param : RetryParam) : Nat → RetryParam → Prop where
  | stays : Moved groups index param index param
  | goesOn {later : Nat} (further : index < later) (inside : later < groups) :
      Moved groups index param later { param with retry := 0 }
  | handsOver {later : Nat} (further : index < later) (inside : later ≤ groups) :
      Moved groups index param later ⟨0, true⟩

section
variable {limit groups index later : Nat} {param next : RetryParam}

theorem budget_le (limit groups index : Nat) (param : RetryParam) :
    budget limit groups index param ≤ (limit + 2) * (groups + 1) := by
  have rounds : (groups - index) * (limit + 1) ≤ groups * (limit + 1) := Nat.mul_le_mul_right _ (by omega)
  have expanded : (limit + 2) * (groups + 1) = groups * (limit + 1) + groups + (limit + 1) + 1 := by ring
  unfold budget
  split <;> omega

theorem budget_increaseRetry (groups index : Nat) (within : param.retry ≤ limit) :
    budget limit groups index param.increaseRetry + 1 = budget limit groups index param := by
  unfold budget RetryParam.increaseRetry
  cases skips : param.resetNextTry with
  | true => simp
  | false =>
    simp only [Bool.false_eq_true, ↓reduceIte]
    omega

theorem budget_moved (within : param.retry ≤ limit) (moved : Moved groups index param later next) :
    budget limit groups later next.increaseRetry < budget limit groups index param := by
  have passed (further : index < later) (inside : later ≤ groups) :
      (groups - later) * (limit + 1) + (limit + 1) ≤ (groups - index) * (limit + 1) := by
    have fewer : groups - later + 1 ≤ groups - index := by omega
    have scaled := Nat.mul_le_mul_right (limit + 1) fewer
    rwa [Nat.succ_mul] at scaled
  cases moved with
  | stays =>
    have spent := budget_increaseRetry groups index within
    omega
  | goesOn further inside =>
    have restarted : ({ param with retry := 0 } : RetryParam).retry ≤ limit := Nat.zero_le limit
    have spent := budget_increaseRetry groups later restarted
    unfold budget at spent ⊢
    dsimp only at spent
    omega
  | handsOver further inside =>
    simp only [budget, RetryParam.increaseRetry, ↓reduceIte, Bool.false_eq_true]
    omega

end

section
variable {settings : Settings} {request : Request} {routing : Routing} {ctx : Context} {info : RelayInfo}
  {param : RetryParam} {channel : Channel}

theorem setupContextForSelectedChannel_autoGroup (selecting : Selecting) (ctx : Context) (channel : Channel)
    (modelName : String) :
    (setupContextForSelectedChannel selecting ctx channel modelName).2.autoGroup = ctx.autoGroup ∧
      (setupContextForSelectedChannel selecting ctx channel modelName).2.autoGroupIndex =
        ctx.autoGroupIndex := by
  unfold setupContextForSelectedChannel
  cases selecting.nextKey channel with
  | error error => exact ⟨rfl, rfl⟩
  | ok next =>
    dsimp only
    rw [Context.setUpstreamRoute_eq, Context.setOther_eq]
    exact ⟨rfl, rfl⟩

theorem select_groupIndex (routing : Routing) (ctx : Context) (info : RelayInfo) (param : RetryParam)
    (channel : Channel) : (select routing ctx info param channel).ctx.groupIndex = ctx.groupIndex ∧
      (select routing ctx info param channel).param = param := by
  have kept := congrArg (Option.getD · 0)
    (setupContextForSelectedChannel_autoGroup routing.selecting ctx channel info.originModelName).2
  unfold select
  cases set : setupContextForSelectedChannel routing.selecting ctx channel info.originModelName with
  | mk done after =>
    rw [set] at kept
    cases done <;> exact ⟨kept, rfl⟩

theorem land_moved {groups index reached : Nat} {group : String} {passed : List String}
    (further : reached = index + passed.length) (inside : reached < groups) :
    Moved groups index param
      (land settings request reached group ctx (param.past passed) channel).ctx.groupIndex
      (land settings request reached group ctx (param.past passed) channel).param := by
  unfold land
  split
  · have ahead : index < reached + 1 := by omega
    exact .handsOver ahead inside
  · cases passed with
    | nil =>
      subst further
      exact .stays
    | cons first others =>
      have ahead : index < reached := by
        rw [List.length_cons] at further
        omega
      exact .goesOn ahead inside

theorem cacheGetRandomSatisfiedChannel_moved
    (found : (cacheGetRandomSatisfiedChannel settings request routing ctx param).answer =
      .ok (some channel)) : Moved request.autoGroupCount ctx.groupIndex param
      (cacheGetRandomSatisfiedChannel settings request routing ctx param).ctx.groupIndex
      (cacheGetRandomSatisfiedChannel settings request routing ctx param).param := by
  unfold cacheGetRandomSatisfiedChannel at found ⊢
  unfold Request.autoGroupCount
  split at found
  case isTrue auto =>
    rw [if_pos auto, if_pos auto]
    split at found
    · cases found
    case isFalse enabled =>
      rw [if_neg enabled]
      obtain ⟨passed, group, rest, split, _, _, landed⟩ :=
        searchAutoGroups_landed le_rfl (fun further => absurd further (lt_irrefl _)) found
      rw [landed]
      refine land_moved rfl ?_
      have length := congrArg List.length split
      rw [List.length_drop, List.length_append, List.length_cons] at length
      omega
  case isFalse explicit =>
    rw [if_neg explicit, if_neg explicit]
    exact .stays

theorem selectRandom_moved
    (answered : (selectRandom settings request routing ctx info param).answer = .ok channel) :
    Moved request.autoGroupCount ctx.groupIndex param
      (selectRandom settings request routing ctx info param).ctx.groupIndex
      (selectRandom settings request routing ctx info param).param := by
  unfold selectRandom at answered ⊢
  dsimp only at answered ⊢
  cases drawn : (cacheGetRandomSatisfiedChannel settings request routing ctx param).answer with
  | error reason =>
    rw [drawn] at answered
    cases answered
  | ok answer =>
    rw [drawn] at answered
    cases answer with
    | none => cases answered
    | some picked =>
      have moved := cacheGetRandomSatisfiedChannel_moved drawn
      generalize cacheGetRandomSatisfiedChannel settings request routing ctx param = random at moved
      have kept := select_groupIndex routing random.ctx (info.refreshGroupRatio settings random.ctx) random.param picked
      rw [kept.1, kept.2]
      exact moved

theorem getChannel_moved
    (answered : (getChannel settings request routing ctx info param).answer = .ok channel) :
    Moved request.autoGroupCount ctx.groupIndex param
      (getChannel settings request routing ctx info param).ctx.groupIndex
      (getChannel settings request routing ctx info param).param := by
  unfold getChannel at answered ⊢
  cases reused : distributed routing ctx param with
  | some held => exact .stays
  | none =>
    rw [reused] at answered
    dsimp only at answered ⊢
    split at answered
    · cases answered
    case isFalse free =>
      rw [if_neg free]
      cases routed : smartRouted request routing param with
      | some held =>
        rw [(select_groupIndex routing ctx _ param held).1, (select_groupIndex routing ctx _ param held).2]
        exact .stays
      | none =>
        rw [routed] at answered
        dsimp only at answered ⊢
        split at answered
        · cases answered
        case isFalse unforced =>
          rw [if_neg unforced]
          exact selectRandom_moved answered

end

namespace RelayState

section
variable {engine : Engine} {settings : Settings} {request : Request} {state stopped : RelayState}
  {round : Attempt} {selected : Selection}

theorem choose_moved {channel : Channel}
    (answered : (state.choose settings request round).answer = .ok channel) :
    Moved request.autoGroupCount state.ctx.groupIndex state.param
      (state.choose settings request round).ctx.groupIndex (state.choose settings request round).param := by
  unfold choose at answered ⊢
  split at answered
  case isTrue retried =>
    rw [if_pos retried]
    exact getChannel_moved answered
  case isFalse first =>
    rw [if_neg first]
    exact .stays

theorem arrive_moved (arrived : state.arrive settings request round = .ok selected) :
    state.finished = false ∧ (state.param.retry : Int) ≤ settings.retryTimes ∧
      Moved request.autoGroupCount state.ctx.groupIndex state.param selected.ctx.groupIndex
        selected.param := by
  obtain ⟨running, within, ⟨channel, chosen⟩, rfl⟩ := arrive_ok_cases arrived
  exact ⟨running, within, choose_moved chosen⟩

variable (engine settings request state round)

theorem fail_ends (error : TokenFactoryError) : (state.fail settings request round error).finished = true ∨
      (state.fail settings request round error).ctx = state.ctx ∧
        (state.fail settings request round error).param = state.param.increaseRetry := by
  unfold fail
  split
  · exact .inr ⟨rfl, rfl⟩
  · exact .inl rfl

theorem conclude_ends (returned : Option TokenFactoryError) :
    (state.conclude settings request round returned).finished = true ∨
      (state.conclude settings request round returned).ctx = state.ctx ∧
        (state.conclude settings request round returned).param = state.param.increaseRetry := by
  cases returned with
  | none => exact .inl rfl
  | some error => exact fail_ends settings request state round _

theorem attempt_ends (selected : Selection) :
    (state.attempt engine settings request round selected).finished = true ∨
      (state.attempt engine settings request round selected).ctx = selected.ctx ∧
        (state.attempt engine settings request round selected).param = selected.param.increaseRetry := by
  unfold attempt
  cases resolveRelayPriceData settings.tables request.price selected.ctx selected.info with
  | mk price info =>
    cases price with
    | error reason => exact fail_ends settings request _ round _
    | ok data =>
      cases round.bodyStorage with
      | some error => exact .inl rfl
      | none => exact conclude_ends settings request _ round _

theorem attempt_served_length (selected : Selection) :
    (state.attempt engine settings request round selected).served.length ≤ state.served.length + 1 := by
  rcases attempt_cases engine settings request state round selected with ⟨_, same⟩ | ⟨_, _, _, _, added⟩
  · rw [same]
    exact Nat.le_succ _
  · rw [added, List.length_cons]

end

def left (limit : Nat) (request : Request) (state : RelayState) : Nat :=
  if state.finished then 0 else budget limit request.autoGroupCount state.ctx.groupIndex state.param

variable {limit : Nat} {request : Request} {state : RelayState}

theorem left_finished (ended : state.finished = true) : state.left limit request = 0 := if_pos ended

theorem left_running (running : state.finished = false) : state.left limit request =
      budget limit request.autoGroupCount state.ctx.groupIndex state.param :=
  if_neg (running ▸ Bool.false_ne_true)

/-- A round that does not end the loop uses up at least one of the rounds that are left,
and so does every attempt. -/
theorem step_left (engine : Engine) {settings : Settings} (request : Request) {limit : Nat}
    (limited : settings.retryTimes = limit) (state : RelayState) (round : Attempt) :
    let after := state.step engine settings request round
    (after.finished = true ∨ after.left limit request < state.left limit request) ∧
      after.served.length + after.left limit request ≤ state.served.length + state.left limit request := by
  unfold step
  cases arrived : state.arrive settings request round with
  | error stopped =>
    obtain ⟨_, unserved, ended⟩ := arrive_error arrived
    refine ⟨.inl ended, ?_⟩
    rw [unserved, left_finished ended]
    exact Nat.le_add_right _ _
  | ok selected =>
    obtain ⟨running, within, moved⟩ := arrive_moved arrived
    have counted : state.param.retry ≤ limit := by
      rw [limited] at within
      exact_mod_cast within
    have fewer := budget_moved counted moved
    have added := attempt_served_length engine settings request state round selected
    dsimp only
    rw [left_running running]
    by_cases ended : (state.attempt engine settings request round selected).finished = true
    · refine ⟨.inl ended, ?_⟩
      rw [left_finished ended]
      omega
    · obtain ⟨ctx, param⟩ :=
        (attempt_ends engine settings request state round selected).resolve_left ended
      rw [left_running (Bool.eq_false_iff.mpr ended), ctx, param]
      exact ⟨.inr fewer, by omega⟩

theorem step_finished (engine : Engine) (settings : Settings) (request : Request) {state : RelayState}
    (round : Attempt) (ended : state.finished = true) :
    state.step engine settings request round = state := by
  unfold step arrive
  rw [if_pos ended]

theorem run_finished (engine : Engine) (settings : Settings) (request : Request) {start : RelayState}
    (ended : start.finished = true) (rounds : List Attempt) :
    run (step engine settings request) start rounds = start := by
  induction rounds with
  | nil => rfl
  | cons round rest ih => rw [run_cons, step_finished engine settings request round ended, ih]

section
variable (engine : Engine) {settings : Settings} (request : Request) {limit : Nat}
  (limited : settings.retryTimes = limit)
include limited

theorem run_served_le (start : RelayState) (rounds : List Attempt) :
    (run (step engine settings request) start rounds).served.length ≤
      start.served.length + start.left limit request := by
  induction rounds generalizing start with
  | nil => exact Nat.le_add_right _ _
  | cons round rest ih =>
    exact (ih (start.step engine settings request round)).trans (step_left engine request limited start round).2

theorem run_left (start : RelayState) (rounds : List Attempt)
    (running : (run (step engine settings request) start rounds).finished = false) :
    rounds.length ≤ start.left limit request := by
  induction rounds generalizing start with
  | nil => exact Nat.zero_le _
  | cons round rest ih =>
    have later := ih (start.step engine settings request round) running
    rcases (step_left engine request limited start round).1 with ended | fewer
    · rw [run_cons, run_finished engine settings request ended, ended] at running
      cases running
    · rw [List.length_cons]
      omega

end

end RelayState

/-- The loop makes at most `(RetryTimes + 2) * (groups + 1)` attempts, and it has ended
once it was given more rounds than that. -/
theorem relay_attempts_bounded (engine : Engine) {settings : Settings} {request : Request} {limit : Nat}
    (limited : settings.retryTimes = limit) {routing : Routing}
    {preConsumeBilling : Int → Option TokenFactoryError} {ctx : Context} {info : RelayInfo}
    {start : RelayState}
    (started : RelayState.begin settings request routing preConsumeBilling ctx info = .ok start)
    (rounds : List Attempt) :
    let bound := (limit + 2) * (request.autoGroupCount + 1)
    (run (RelayState.step engine settings request) start rounds).served.length ≤ bound ∧
      (bound < rounds.length → (run (RelayState.step engine settings request) start rounds).finished = true) := by
  have within : start.left limit request ≤ (limit + 2) * (request.autoGroupCount + 1) := by
    unfold RelayState.left
    split
    · exact Nat.zero_le _
    · exact budget_le _ _ _ _
  have served := RelayState.run_served_le engine request limited start rounds
  rw [(RelayState.begin_ok started).2.2, List.length_nil, Nat.zero_add] at served
  refine ⟨served.trans within, fun many => ?_⟩
  by_contra running
  have used := RelayState.run_left engine request limited start rounds (Bool.eq_false_iff.mpr running)
  omega

theorem relay_attempts_bounded_busy :
    let rounds := List.replicate 4 (chatRound (channelOf 2 [] []) (some busy))
    let final := run (RelayState.step plainEngine oneRetry chatRequest) (startOn (channelOf 1 [] [])) rounds
    final.served.length = 2 ∧ final.finished = true := by
  have limited : oneRetry.retryTimes = (1 : Nat) := rfl
  have bounded := relay_attempts_bounded plainEngine limited (begin_startOn [] [])
    (List.replicate 4 (chatRound (channelOf 2 [] []) (some busy)))
  exact ⟨rfl, bounded.2 (by decide)⟩

end TokenFactory.Relay
