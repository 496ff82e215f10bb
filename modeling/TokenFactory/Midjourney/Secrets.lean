import TokenFactory.Midjourney.Submit

namespace TokenFactory.Midjourney

open Data Go Billing Distributor
open Relay (Context Selecting setupContextForSelectedChannel newError TokenFactoryError)

/-! Which key goes to which channel. -/

section Selection

variable (decodeArray : String → Option (List String))

def secretsOf (row : ChannelRow) : List String :=
  (if row.info.isMultiKey then row.getKeys decodeArray else [row.key]).map fun key => trimPrefix key "Bearer "

structure Selection (site : Site) where
  row : ChannelRow
  known : row ∈ site.channels
  modelName : String
  affinity : Fields → Fields
  formatValue : Json → String
  draw : Nat
  saved : Except String ChannelInfo

def nextKey (choice : KeyChoice) : Except TokenFactoryError (String × Int) :=
  match choice with
  | .error reason => .error (newError reason.message reason.code reason.skipRetry)
  | .ok (key, index) => .ok (key, index)

def Selection.selecting {site : Site} (selection : Selection site) : Selecting where
  affinity := selection.affinity
  nextKey _ := nextKey (selection.row.getNextEnabledKey decodeArray selection.draw selection.saved).1
  formatValue := selection.formatValue

def selectedContext {site : Site} : Option (Selection site) → Context
  | none => {}
  | some selection =>
    (setupContextForSelectedChannel (selection.selecting decodeArray) {} selection.row.view
      selection.modelName).2

variable {decodeArray} {row : ChannelRow} {site : Site} {key secret : String} {index : Nat}

theorem getNextEnabledKey_cases {draw : Nat} {saved : Except String ChannelInfo}
    (given : (row.getNextEnabledKey decodeArray draw saved).1 = .ok (key, index)) :
    (row.info.isMultiKey = false ∧ row.key = key) ∨
      (row.info.isMultiKey = true ∧ ∃ position, row.choose decodeArray position = .ok (key, index)) := by
  unfold ChannelRow.getNextEnabledKey ChannelRow.answerWithoutLock ChannelRow.answerWithoutPolling at given
  cases multi : row.info.isMultiKey with
  | false =>
    simp only [multi, Bool.false_eq_true, not_false_eq_true, ↓reduceIte, Except.ok.injEq, Prod.mk.injEq]
      at given
    exact .inl ⟨rfl, given.1⟩
  | true =>
    refine .inr ⟨rfl, ?_⟩
    simp only [multi, not_true_eq_false, ↓reduceIte] at given
    split at given
    · rename_i answer unlocked
      split at unlocked
      · cases unlocked
        cases given
      · cases unlocked
    · split at given
      · rename_i answer drawn
        split at drawn
        · cases drawn
          cases given
        · split at drawn
          · cases drawn
            exact ⟨_, given⟩
          · cases drawn
      · split at given
        · cases given
        · unfold ChannelRow.poll at given
          dsimp only at given
          split at given
          · exact ⟨_, given⟩
          · exact ⟨_, given⟩

theorem mem_secretsOf {draw : Nat} {saved : Except String ChannelInfo}
    (given : (row.getNextEnabledKey decodeArray draw saved).1 = .ok (key, index)) (nonempty : key ≠ "") :
    trimPrefix key "Bearer " ∈ secretsOf decodeArray row := by
  refine List.mem_map.mpr ⟨key, ?_, rfl⟩
  rcases getNextEnabledKey_cases given with ⟨single, same⟩ | ⟨multi, position, chosen⟩
  · rw [single, same]
    exact List.mem_singleton_self key
  · rw [multi]
    have same : (row.getKeys decodeArray).getD position "" = key :=
      congrArg Prod.fst (Except.ok.inj chosen)
    rw [List.getD_eq_getElem?_getD] at same
    cases found : (row.getKeys decodeArray)[position]? with
    | none => exact absurd (by rw [← same, found, Option.getD_none]) nonempty
    | some other =>
      rw [found, Option.getD_some] at same
      exact same ▸ List.mem_of_getElem? found

theorem selected_of_secret {selection : Option (Selection site)}
    (present : mjApiSecret (selectedContext decodeArray selection) = some secret) :
    ∃ row ∈ site.channels, (selectedContext decodeArray selection).channelId = row.id ∧
      (selectedContext decodeArray selection).baseUrl = row.channel.baseUrl ∧
      secret ∈ secretsOf decodeArray row := by
  cases selection with
  | none => cases present
  | some selection =>
    cases choice : (selection.row.getNextEnabledKey decodeArray selection.draw selection.saved).1 with
    | error reason =>
      simp only [selectedContext, setupContextForSelectedChannel, Selection.selecting, choice, nextKey,
        mjApiSecret, ↓reduceIte, reduceCtorEq] at present
    | ok chosen =>
      obtain ⟨key, index⟩ := chosen
      refine ⟨selection.row, selection.known, ?_⟩
      simp only [selectedContext, setupContextForSelectedChannel, Selection.selecting, choice, nextKey,
        Context.setUpstreamRoute_eq, Context.setOther_eq, mjApiSecret] at present ⊢
      split at present
      · cases present
      · rename_i nonempty
        obtain rfl := Option.some.inj present
        exact ⟨rfl, rfl, mem_secretsOf choice nonempty⟩

end Selection

def originTask? (tasks : Tasks) (userId : Int) (mode : RelayModeMidjourney) (body : MidjourneyRequest) :
    Option Task :=
  match normalize mode body with
  | .error _ => none
  | .ok (mode, request) =>
    if (freshRequest request mode).isSome ∨ request.taskId = "" then none
    else
      match followedTask mode request with
      | .error _ => none
      | .ok (mjId, _) => getByMJId tasks userId mjId

inductive MidjourneyCall where
  | submit (info : RelayInfo) (paying : BillingInfo) (submission : Submission) (store : Store)
  | imageSeed (userId : Int) (seed : SeedRequest)

namespace MidjourneyCall

def sent (site : Site) (tasks : Tasks) (ctx : Context) : MidjourneyCall → Option SentRequest
  | .submit info paying submission store =>
    (relayMidjourneySubmit site info paying ctx submission tasks store).sent
  | .imageSeed userId seed => (relayMidjourneyTaskImageSeed site tasks userId ctx seed).1

def originTask? (tasks : Tasks) : MidjourneyCall → Option Task
  | .submit info _ submission _ =>
    submission.body.bind fun body => Midjourney.originTask? tasks info.userId submission.mode body
  | .imageSeed userId seed => getByMJId tasks userId seed.taskId

end MidjourneyCall

/-- The channel of the context, and its base URL before the path. -/
def SentRequest.GoesTo (sent : SentRequest) (channel : ChannelRow) : Prop :=
  sent.channelId = channel.id ∧ ∃ path, sent.fullRequestURL = channel.channel.baseUrl ++ path

section Target

variable {site : Site} {tasks : Tasks} {userId : Int} {mode : RelayModeMidjourney} {ctx : Context}
  {request : MidjourneyRequest} {prepared : MidjourneyRequest × Context} {task : Task} {row : ChannelRow}

theorem enabledChannelOf_ok (done : enabledChannelOf site task = .ok row) :
    site.channels.lookup task.channelId = some row := by
  unfold enabledChannelOf at done
  split at done
  · cases done
  · rename_i channel found
    split at done
    · cases done
    · rw [found, Except.ok.inj done]

theorem redirect_ok (done : redirect site tasks userId mode ctx request = .ok prepared) :
    ∃ followed originTask channel, followedTask mode request = .ok followed ∧
      getByMJId tasks userId followed.1 = some originTask ∧
      site.channels.lookup originTask.channelId = some channel ∧
      prepared.2 = { ctx with baseUrl := channel.channel.baseUrl, channelId := originTask.channelId } := by
  obtain ⟨followed, first, rest⟩ := bind_ok.mp done
  cases found : getByMJId tasks userId followed.1 with
  | none =>
    simp only [found] at rest
    cases rest
  | some originTask =>
    simp only [found] at rest
    obtain ⟨_, -, later⟩ := bind_ok.mp rest
    obtain ⟨channel, enabled, last⟩ := bind_ok.mp later
    exact ⟨followed, originTask, channel, first, found, enabledChannelOf_ok enabled,
      (congrArg Prod.snd (Except.ok.inj last)).symm⟩

theorem prepare_ok (done : prepare site tasks userId mode ctx request = .ok prepared) :
    (originTask? tasks userId mode request = none ∧ prepared.2 = ctx) ∨
    (∃ originTask channel, originTask? tasks userId mode request = some originTask ∧
      site.channels.lookup originTask.channelId = some channel ∧
      prepared.2 = { ctx with baseUrl := channel.channel.baseUrl, channelId := originTask.channelId }) := by
  obtain ⟨⟨handled, normal⟩, first, rest⟩ := bind_ok.mp done
  unfold originTask?
  rw [first]
  dsimp only at rest ⊢
  cases fresh : freshRequest normal handled with
  | some outcome =>
    rw [fresh] at rest
    refine .inl ⟨if_pos (.inl rfl), ?_⟩
    cases outcome with
    | error stop => cases rest
    | ok made => exact (congrArg Prod.snd (Except.ok.inj rest)).symm
  | none =>
    rw [fresh] at rest
    by_cases alone : normal.taskId = ""
    · rw [if_neg (not_not.mpr alone)] at rest
      exact .inl ⟨if_pos (.inr alone), (congrArg Prod.snd (Except.ok.inj rest)).symm⟩
    · rw [if_pos alone] at rest
      obtain ⟨followed, originTask, channel, named, found, listed, context⟩ := redirect_ok rest
      refine .inr ⟨originTask, channel, ?_, listed, context⟩
      rw [if_neg (by simp [alone]), named]
      exact found

theorem doMidjourneyHttpRequest_sent {exchange : Exchange} {url : String} {sent : SentRequest}
    (sends : (doMidjourneyHttpRequest exchange ctx url).1 = some sent) : sent = sentRequest ctx url := by
  unfold doMidjourneyHttpRequest at sends
  split at sends
  · cases sends
  · dsimp only at sends
    split at sends <;> exact (Option.some.inj sends).symm

theorem admitSubmission_ok {submission : Submission} {admitted : Admitted}
    (done : admitSubmission site tasks userId ctx submission = .ok admitted) :
    ∃ body prepared, submission.body = some body ∧
      prepare site tasks userId submission.mode ctx body = .ok prepared ∧ admitted.ctx = prepared.2 := by
  unfold admitSubmission at done
  cases given : submission.body with
  | none =>
    rw [given] at done
    cases done
  | some body =>
    rw [given] at done
    obtain ⟨prepared, first, rest⟩ := bind_ok.mp done
    obtain ⟨quota, -, rest⟩ := bind_ok.mp rest
    obtain ⟨userQuota, -, rest⟩ := bind_ok.mp rest
    obtain ⟨_, -, rest⟩ := bind_ok.mp rest
    obtain rfl := Except.ok.inj rest
    exact ⟨body, prepared, rfl, first, rfl⟩

theorem relayMidjourneySubmit_sent {info : RelayInfo} {paying : BillingInfo} {submission : Submission}
    {store : Store} {sent : SentRequest}
    (sends : (relayMidjourneySubmit site info paying ctx submission tasks store).sent = some sent) :
    ∃ admitted path, admitSubmission site tasks info.userId ctx submission = .ok admitted ∧
      sent = sentRequest admitted.ctx (admitted.ctx.baseUrl ++ path) := by
  unfold relayMidjourneySubmit at sends
  cases entry : admitSubmission site tasks info.userId ctx submission with
  | error stop =>
    rw [entry] at sends
    cases sends
  | ok admitted =>
    refine ⟨admitted, getMjRequestPath submission.url, rfl, ?_⟩
    rw [entry] at sends
    dsimp only at sends
    split at sends <;> exact doMidjourneyHttpRequest_sent sends

variable {call : MidjourneyCall} {sent : SentRequest}

/-- A request carries the secret of the context. It goes to the channel of the context, or to
that of the task that it follows up on. -/
theorem MidjourneyCall.sent_cases (sends : call.sent site tasks ctx = some sent) :
    sent.secret = mjApiSecret ctx ∧
    ((call.originTask? tasks = none ∧ sent.channelId = ctx.channelId ∧
        ∃ path, sent.fullRequestURL = ctx.baseUrl ++ path) ∨
      (∃ originTask channel, call.originTask? tasks = some originTask ∧
        site.channels.lookup originTask.channelId = some channel ∧ sent.GoesTo channel)) := by
  cases call with
  | submit info paying submission store =>
    obtain ⟨admitted, path, entry, rfl⟩ := relayMidjourneySubmit_sent sends
    obtain ⟨body, prepared, given, ready, same⟩ := admitSubmission_ok entry
    have origin : (MidjourneyCall.submit info paying submission store).originTask? tasks =
        Midjourney.originTask? tasks info.userId submission.mode body := by
      rw [MidjourneyCall.originTask?, given, Option.bind_some]
    rw [origin, same]
    rcases prepare_ok ready with ⟨unfollowed, context⟩ | ⟨originTask, channel, follows, found, context⟩
    · rw [context]
      exact ⟨rfl, .inl ⟨unfollowed, rfl, path, rfl⟩⟩
    · rw [context]
      exact ⟨rfl, .inr ⟨originTask, channel, follows, found, (Table.key_of_lookup found).symm, path, rfl⟩⟩
  | imageSeed userId seed =>
    unfold MidjourneyCall.sent relayMidjourneyTaskImageSeed seedContext at sends
    cases named : getByMJId tasks userId seed.taskId with
    | none =>
      simp only [named] at sends
      cases sends
    | some originTask =>
      simp only [named] at sends
      cases enabled : enabledChannelOf site originTask with
      | error stop =>
        rw [enabled] at sends
        cases sends
      | ok channel =>
        rw [enabled] at sends
        obtain rfl := doMidjourneyHttpRequest_sent sends
        have found := enabledChannelOf_ok enabled
        exact ⟨rfl, .inr ⟨originTask, channel, named, found, (Table.key_of_lookup found).symm, _, rfl⟩⟩

end Target

/-- The secret of the request is a key of the channel that it goes to. -/
def SentRequest.OwnKey (decodeArray : String → Option (List String)) (site : Site) (sent : SentRequest) : Prop :=
  ∀ channel ∈ site.channels, sent.GoesTo channel → ∀ secret ∈ sent.secret, secret ∈ secretsOf decodeArray channel

/-- A request that follows up on a task finds in the context a key of the channel of that
task, or no key. -/
def MidjourneyCall.KeyFits (decodeArray : String → Option (List String)) (site : Site) (tasks : Tasks)
    (ctx : Context) (call : MidjourneyCall) : Prop :=
  ∀ originTask ∈ call.originTask? tasks, ∀ channel ∈ site.channels.lookup originTask.channelId,
    ∀ secret ∈ mjApiSecret ctx, secret ∈ secretsOf decodeArray channel

/-- The request that a handler sends carries a key of the channel that it goes to exactly if
the chosen channel shares the key with the channel of the task that is followed up on. -/
theorem sent_secret_is_own_key_iff (decodeArray : String → Option (List String)) (site : Site) (tasks : Tasks)
    (selection : Option (Selection site)) (call : MidjourneyCall) (sent : SentRequest)
    (sends : call.sent site tasks (selectedContext decodeArray selection) = some sent) :
    sent.OwnKey decodeArray site ↔
      call.KeyFits decodeArray site tasks (selectedContext decodeArray selection) := by
  obtain ⟨carries, target⟩ := MidjourneyCall.sent_cases sends
  constructor
  · intro own originTask origin channel found secret present
    rcases target with ⟨unfollowed, -⟩ | ⟨other, redirected, follows, listed, goes⟩
    · rw [unfollowed] at origin
      cases origin
    · obtain rfl := Option.some.inj (follows.symm.trans origin)
      obtain rfl := Option.some.inj (listed.symm.trans found)
      exact own redirected (Table.mem_of_lookup listed) goes secret (carries ▸ present)
  · intro fits channel member goes secret present
    rw [carries] at present
    rcases target with ⟨-, same, -⟩ | ⟨originTask, redirected, origin, listed, there⟩
    · -- The request has stayed with the channel that the key was taken from.
      obtain ⟨row, inside, chosen, -, ownKey⟩ := selected_of_secret present
      have equal : channel = row :=
        Table.eq_of_key member inside (goes.1.symm.trans (same.trans chosen))
      exact equal ▸ ownKey
    · have equal : channel = redirected :=
        Table.eq_of_key member (Table.mem_of_lookup listed) (goes.1.symm.trans there.1)
      exact equal ▸ fits originTask origin redirected listed secret present

/-! Two channels. The distributor has chosen the first. -/

def drawingChannel (id : Int) (key baseUrl : String) : ChannelRow where
  channel := {
    id, baseUrl
    type := 2
    name := "midjourney"
    enabled := true
    createdTime := 0
    organization := ""
    other := ""
    isMultiKey := false
    supplierApplicationId := 0
    paramOverride := []
    headerOverride := [] }
  status := .enabled
  group := "default"
  key := key

def twoChannels : Site where
  channels := ⟨[drawingChannel 1 "sk-one" "upstream-1", drawingChannel 2 "sk-two" "upstream-2"], by decide⟩
  autoBan _ := false
  mjActionCheckSuccessEnabled := true
  automaticDisableChannelEnabled := false

def firstChosen : Selection twoChannels where
  row := drawingChannel 1 "sk-one" "upstream-1"
  known := .head _
  modelName := "mj_modal"
  affinity fields := fields
  formatValue _ := ""
  draw := 0
  saved := .error ""

def tasksOn (channelId : Int) : Tasks :=
  ⟨[{ id := 1, code := 1, userId := 1, action := "IMAGINE", mjId := "earlier", prompt := "a cat",
      description := "", submitTime := 0, status := "SUCCESS", progress := "100%", channelId,
      quota := 10 }], List.nodup_singleton _⟩

def drawingUser : RelayInfo where
  userId := 1
  tokenId := 1
  requestId := ""
  isPlayground := false
  tokenUnlimited := false
  forcePreConsume := false
  billingPreference := ""

def freeSubmission (mode : RelayModeMidjourney) (body : MidjourneyRequest) : MidjourneyCall :=
  .submit drawingUser {}
    { mode, body := some body, url := "/mj/submit", priceData := .ok 0, userQuota := .ok 0,
      exchange := { unsent := none, answer := fun _ => .empty 200 }, clock := fun _ => 0 }
    { quota := fun _ => 0, token := fun _ => ⟨0, 0⟩, subscriptions := .empty fun _ => none }

/-- A new drawing, and a follow-up on a task of the chosen channel. -/
theorem new_drawing_carries_own_key :
    let send (call : MidjourneyCall) :=
      call.sent twoChannels (tasksOn 1) (selectedContext (fun _ => none) (some firstChosen))
    let sent : SentRequest := { fullRequestURL := "upstream-1/mj/submit", channelId := 1, secret := some "sk-one" }
    send (freeSubmission .imagine { prompt := "a dog" }) = some sent ∧
      send (freeSubmission .modal { taskId := "earlier" }) = some sent ∧ sent.OwnKey (fun _ => none) twoChannels :=
  ⟨by decide +kernel, by decide +kernel, (sent_secret_is_own_key_iff (fun _ => none) twoChannels (tasksOn 1)
    (some firstChosen) (freeSubmission .modal { taskId := "earlier" }) _ (by decide +kernel)).mpr (by
      unfold MidjourneyCall.KeyFits
      decide +kernel)⟩

/-- A follow-up goes to the second channel with the key of the first. -/
theorem follow_up_carries_foreign_key : ¬ ∀ sent,
    (freeSubmission .modal { taskId := "earlier" }).sent twoChannels (tasksOn 2)
      (selectedContext (fun _ => none) (some firstChosen)) = some sent →
    sent.OwnKey (fun _ => none) twoChannels := by
  intro own
  have leaked := own { fullRequestURL := "upstream-2/mj/submit", channelId := 2, secret := some "sk-one" }
    (by decide +kernel) (drawingChannel 2 "sk-two" "upstream-2") (.tail _ (.head _)) ⟨rfl, "/mj/submit", rfl⟩
    "sk-one" rfl
  revert leaked
  decide +kernel

end TokenFactory.Midjourney
