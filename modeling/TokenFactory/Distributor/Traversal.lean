import TokenFactory.Distributor.Distribute
import TokenFactory.Distributor.Weighted
import TokenFactory.Relay.Ladder

namespace TokenFactory.Distributor

open Data Go Relay

/-! The order of the automatic groups, with the channels of the store. -/

/-- The order that is documented for `CacheGetRandomSatisfiedChannel`. -/
def traversal (priorities : String → List Int) (groups : List String) : List (String × Int) :=
  groups.flatMap fun group => (priorities group).map fun priority => (group, priority)

/-- A draw as `rand.Intn` gives it. -/
def Bounded (draw : Nat → Nat) : Prop := ∀ total, 0 < total → draw total < total

namespace ChannelStore

variable (store : ChannelStore)

def candidatePriorities (group model : String) : List Int :=
  if store.memoryCacheEnabled then
    match store.cachedChannels (store.idsForGroupModel group model) with
    | .error _ => []
    | .ok channels => channels.map Channel.priority
  else
    (store.abilities.filter fun ability =>
      ability.group = group ∧ ability.model = model ∧ ability.enabled).map Ability.priority

def priorities (model group : String) : List Int := ranked (store.candidatePriorities group model)

/-- Without the cache, each ability has a channel and the priority of that channel. -/
def Synced : Prop :=
  store.memoryCacheEnabled = true ∨ ∀ ability ∈ store.abilities, ∃ channel,
    store.channels.lookup ability.channelId = some channel ∧ channel.priority = ability.priority

variable {store} {draw : Nat → Nat} {group model : String} {retry : Nat} {channel : Channel} {priority : Int}

theorem drawFromCache_error {ids : List Int} {reason : String}
    (missing : store.cachedChannels ids = .error reason) :
    store.drawFromCache draw group model retry ids ≠ .ok (some channel) := by
  cases ids with
  | nil => cases missing
  | cons first others =>
    cases others with
    | nil =>
      simp only [cachedChannels] at missing
      cases held : store.channelsIDM.lookup first with
      | none => simp [drawFromCache, held]
      | some head =>
        rw [held] at missing
        cases missing
    | cons second rest =>
      simp only [drawFromCache, missing]
      simp

theorem drawFromCache_single {ids : List Int} (listed : store.cachedChannels ids = .ok [channel]) :
    store.drawFromCache draw group model retry ids = .ok (some channel) := by
  have length := cachedChannels_length listed
  obtain ⟨id, rfl⟩ := List.length_eq_one_iff.mp length.symm
  simp only [cachedChannels] at listed
  split at listed
  · cases listed
  rename_i head held
  cases listed
  simp only [drawFromCache, held]

theorem priorities_eq_nil : store.priorities model group = [] ↔ store.candidatePriorities group model = [] := by
  rw [← List.length_eq_zero_iff, priorities, length_ranked, Finset.card_eq_zero, List.toFinset_eq_empty_iff]

theorem cached_empty (cache : store.memoryCacheEnabled = true) (empty : store.priorities model group = []) :
    store.getRandomSatisfiedChannel draw group model retry ≠ .ok (some channel) := by
  rw [priorities_eq_nil, candidatePriorities, if_pos cache] at empty
  rw [getRandomSatisfiedChannel, if_pos cache]
  cases listed : store.cachedChannels (store.idsForGroupModel group model) with
  | error reason => exact drawFromCache_error listed
  | ok channels =>
    rw [listed] at empty
    have empty' : channels = [] := List.map_eq_nil_iff.mp empty
    have length := cachedChannels_length listed
    rw [empty', List.length_nil] at length
    rw [List.length_eq_zero_iff.mp length.symm, drawFromCache]
    simp

theorem cached_reaches (cache : store.memoryCacheEnabled = true) (drawing : Bounded draw)
    (rung : (store.priorities model group)[min retry ((store.priorities model group).length - 1)]? =
      some priority) :
    ∃ channel, store.getRandomSatisfiedChannel draw group model retry = .ok (some channel) ∧
      channel.priority = priority := by
  have rank := hasRank_ranked rung
  unfold priorities at rank
  rw [length_ranked, candidatePriorities, if_pos cache] at rank
  cases listed : store.cachedChannels (store.idsForGroupModel group model) with
  | error reason =>
    rw [listed] at rank
    cases rank.1
  | ok channels =>
    rw [listed] at rank
    by_cases several : 2 ≤ channels.length
    · obtain ⟨found, same, nonempty, selects⟩ := getRandomSatisfiedChannel_drawn cache listed several retry
      obtain ⟨channel, member, drawn⟩ := drawChannel_below draw (drawing _ (totalWeight_pos nonempty))
      refine ⟨channel, selects draw channel drawn, ?_⟩
      rw [rank.unique same]
      exact of_decide_eq_true (List.mem_filter.mp member).2
    · have single : channels.length = 1 := by
        have positive := List.length_pos_of_mem rank.1
        rw [List.length_map] at positive
        omega
      obtain ⟨channel, rfl⟩ := List.length_eq_one_iff.mp single
      refine ⟨channel, ?_, (List.mem_singleton.mp rank.1).symm⟩
      rw [getRandomSatisfiedChannel, if_pos cache]
      exact drawFromCache_single listed

theorem stored_empty (database : ¬ store.memoryCacheEnabled = true) (empty : store.priorities model group = []) :
    store.getRandomSatisfiedChannel draw group model retry ≠ .ok (some channel) := by
  rw [priorities_eq_nil, candidatePriorities, if_neg database] at empty
  rw [getRandomSatisfiedChannel, if_neg database, getChannel]
  rw [empty]
  have unranked : priorityAt [] retry = none := rfl
  rw [unranked]
  dsimp only
  split <;> simp

theorem stored_reaches (database : ¬ store.memoryCacheEnabled = true) (synced : store.Synced)
    (drawing : Bounded draw)
    (rung : (store.priorities model group)[min retry ((store.priorities model group).length - 1)]? =
      some priority) :
    ∃ channel, store.getRandomSatisfiedChannel draw group model retry = .ok (some channel) ∧
      channel.priority = priority := by
  have agrees := synced.resolve_left database
  rw [getRandomSatisfiedChannel, if_neg database, getChannel]
  unfold priorities at rung
  rw [candidatePriorities, if_neg database] at rung
  have listed : ∀ ability ∈ store.abilities.filter fun ability =>
      ability.group = group ∧ ability.model = model ∧ ability.enabled, ability ∈ store.abilities :=
    fun ability member => List.mem_of_mem_filter member
  generalize (store.abilities.filter fun ability =>
    ability.group = group ∧ ability.model = model ∧ ability.enabled) = enabled at rung listed ⊢
  have reached : priorityAt (enabled.map Ability.priority) retry = some priority := rung
  rw [reached]
  dsimp only
  generalize sorted : (enabled.filter fun ability => ability.priority = priority).insertionSort
    (fun first second => first.weight ≥ second.weight) = abilities
  have among : ∀ ability ∈ abilities, ability ∈ enabled ∧ ability.priority = priority := by
    intro ability member
    rw [← sorted, List.mem_insertionSort, List.mem_filter, decide_eq_true_eq] at member
    exact member
  have positive : 0 < (abilities.map fun ability => ability.weight + 10).sum := by
    obtain ⟨ability, member, same⟩ := List.mem_map.mp (mem_ranked.mp (List.mem_of_getElem? rung))
    have member : ability ∈ abilities := by
      rw [← sorted, List.mem_insertionSort, List.mem_filter, decide_eq_true_eq]
      exact ⟨member, same⟩
    have share := List.le_sum_of_mem (List.mem_map_of_mem member (f := fun ability => ability.weight + 10))
    omega
  have negative : ∀ left < 0, decide (left ≤ (0 : Int)) = true := by
    intro left less
    simpa using less.le
  have found := drawWeighted_isSome (fun ability : Ability => ability.weight + 10) negative
    (Int.natCast_nonneg (draw (abilities.map fun ability => ability.weight + 10).sum))
    (Int.ofNat_lt.mpr (drawing _ positive))
  obtain ⟨ability, drawn⟩ := Option.isSome_iff_exists.mp found
  obtain ⟨member, same⟩ := among ability (drawWeighted_mem drawn)
  obtain ⟨channel, held, agreed⟩ := agrees ability (listed ability member)
  rw [drawn]
  dsimp only
  rw [held]
  exact ⟨channel, rfl, agreed.trans same⟩

theorem routing_descends (synced : store.Synced) (drawing : Bounded draw) (selecting : Selecting)
    (model : String) : Descends (store.priorities model) (store.routing draw selecting model) := by
  by_cases cache : store.memoryCacheEnabled = true
  · exact ⟨fun _ _ _ empty => cached_empty cache empty, fun _ _ _ rung => cached_reaches cache drawing rung⟩
  · exact ⟨fun _ _ _ empty => stored_empty cache empty,
      fun _ _ _ rung => stored_reaches cache synced drawing rung⟩

theorem getRandomSatisfiedChannel_held
    (drawn : store.getRandomSatisfiedChannel draw group model retry = .ok (some channel)) :
    store.cacheGetChannel channel.id = some channel ∧ 0 < channel.id := by
  unfold getRandomSatisfiedChannel at drawn
  unfold cacheGetChannel
  split at drawn
  case isTrue cache =>
    have held := (drawFromCache_mem drawn).2
    rw [if_pos cache]
    exact ⟨held, store.cached channel (Table.mem_of_lookup held)⟩
  case isFalse database =>
    obtain ⟨_, _, _, _, _, _, held⟩ := getChannel_ability drawn
    rw [if_neg database]
    exact ⟨held, store.stored channel (Table.mem_of_lookup held)⟩

end ChannelStore

/-- The context in which the relay starts: nothing is selected yet, or the distributor has
drawn a channel. -/
inductive Opened (settings : Settings) (request : Request) (store : ChannelStore) (model : String) :
    Context → Prop where
  | unselected {ctx : Context} (unset : ctx.channelId ≤ 0) (fresh : ctx.autoGroupIndex = none) :
      Opened settings request store model ctx
  | distributed {incoming : Incoming} {keys : Keys} {chosen : Distributed} {channel : Channel}
      (same : incoming.settings = settings)
      (asked : { incoming.request with tokenGroup := keys.usingGroup } = request) (named : keys.model = model)
      (drawing : Bounded incoming.draw) (fresh : keys.ctx.autoGroupIndex = none)
      (drawn : incoming.chooseRandom store keys = .ok chosen) (picked : chosen.channel = some channel)
      (enabled : channel.enabled = true) : Opened settings request store model (incoming.setup chosen).keys.ctx

section
variable {settings : Settings} {request : Request} {store : ChannelStore} {model : String} {draw : Nat → Nat}
  {selecting : Selecting} {preConsumeBilling : Int → Option TokenFactoryError} {ctx : Context} {info : RelayInfo}
  {start : RelayState}

theorem chooseRandom_drawn {incoming : Incoming} {keys : Keys} {chosen : Distributed} {channel : Channel}
    (drawn : incoming.chooseRandom store keys = .ok chosen) (picked : chosen.channel = some channel) :
    let random := cacheGetRandomSatisfiedChannel incoming.settings
      { incoming.request with tokenGroup := keys.usingGroup }
      (store.routing incoming.draw incoming.selecting keys.model) keys.ctx ⟨0, false⟩
    random.answer = .ok (some channel) ∧
      (incoming.setup chosen).keys.ctx =
        (setupContextForSelectedChannel incoming.selecting random.ctx channel keys.model).2 := by
  unfold Incoming.chooseRandom at drawn
  dsimp only at drawn ⊢
  split at drawn
  · cases drawn
  · cases drawn
  case h_3 found answered =>
    cases drawn
    cases picked
    exact ⟨answered, rfl⟩

theorem begin_rung (automatic : Automatic settings request) (synced : store.Synced) (drawing : Bounded draw)
    (ready : Ready request (store.routing draw selecting model)) (opened : Opened settings request store model ctx)
    (started : RelayState.begin settings request (store.routing draw selecting model) preConsumeBilling ctx info =
      .ok start) : ∃ passed group rest, request.userAutoGroups = passed ++ group :: rest ∧
      (∀ other ∈ passed, store.priorities model other = []) ∧
      RelayState.OnRung settings request (store.priorities model) passed.length group 0 start := by
  cases opened with
  | unselected unset fresh =>
    exact RelayState.begin_fresh automatic (ChannelStore.routing_descends synced drawing selecting model) ready
      unset fresh started
  | @distributed incoming keys chosen channel same asked named drawn' fresh drawn picked enabled =>
    subst same asked named
    obtain ⟨answered, context⟩ := chooseRandom_drawn drawn picked
    obtain ⟨passed, group, rest, split, without, top, reached, _, stands⟩ :=
      cacheGetRandomSatisfiedChannel_first automatic
        (ChannelStore.routing_descends synced drawn' incoming.selecting keys.model) fresh answered
    refine ⟨passed, group, rest, split, without, ?_⟩
    obtain ⟨held, positive⟩ := ChannelStore.getRandomSatisfiedChannel_held reached
    rw [context] at started
    have id := setupContextForSelectedChannel_channelId incoming.selecting
      (cacheGetRandomSatisfiedChannel incoming.settings { incoming.request with tokenGroup := keys.usingGroup }
        (store.routing incoming.draw incoming.selecting keys.model) keys.ctx ⟨0, false⟩).ctx channel keys.model
    refine RelayState.begin_held ?_ ?_ top started
    · unfold distributed
      rw [id, if_pos ⟨rfl, positive⟩]
      exact Option.filter_eq_some_iff.mpr ⟨held, enabled⟩
    · -- the relay starts with a counter of its own
      have restarted : Stands incoming.settings passed.length group _ ⟨0, false⟩ :=
        ⟨stands.group, fun retries => ⟨(stands.stays retries).1, rfl⟩⟩
      exact restarted.setup incoming.selecting channel keys.model

theorem traversal_passed {priorities : String → List Int} {passed : List String}
    (without : ∀ other ∈ passed, priorities other = []) (group : String) (rest : List String) :
    traversal priorities (passed ++ group :: rest) =
      (priorities group).map (fun priority => (group, priority)) ++ traversal priorities rest := by
  unfold traversal
  rw [List.flatMap_append, List.flatMap_cons]
  have nothing : passed.flatMap (fun group => (priorities group).map fun priority => (group, priority)) = [] :=
    List.flatMap_eq_nil_iff.mpr fun other member => by rw [without other member, List.map_nil]
  rw [nothing, List.nil_append]

/-- With at most one group that has channels, the loop tries the pairs of the documented
order, one after the other. -/
theorem cross_group_order (engine : Engine) (automatic : Automatic settings request) (synced : store.Synced)
    (drawing : Bounded draw) (ready : Ready request (store.routing draw selecting model))
    (opened : Opened settings request store model ctx)
    (started : RelayState.begin settings request (store.routing draw selecting model) preConsumeBilling ctx info =
      .ok start) {rounds : List Attempt}
    (routed : ∀ round ∈ rounds, ∃ draw selecting, Bounded draw ∧
      round.routing = store.routing draw selecting model ∧ Ready request round.routing)
    (fails : Guarded (RelayState.step engine settings request)
      (fun state round => state.failsRetryably engine settings request round = true) start rounds)
    (enough : ((traversal (store.priorities model) request.userAutoGroups).length : Int) ≤ settings.retryTimes + 1)
    (single : (request.userAutoGroups.filter fun group => store.priorities model group ≠ []).length ≤ 1)
    {position : Nat} (offered : position < rounds.length) {pair : String × Int}
    (documented : (traversal (store.priorities model) request.userAutoGroups)[position]? = some pair) :
    (start.tries engine settings request rounds)[position]? = some pair := by
  obtain ⟨passed, group, rest, split, without, onRung⟩ :=
    begin_rung automatic synced drawing ready opened started
  have top := (onRung.first rfl).1
  have usable : store.priorities model group ≠ [] := by
    intro empty
    rw [empty] at top
    cases top
  have others : traversal (store.priorities model) rest = [] := by
    refine List.flatMap_eq_nil_iff.mpr fun other member => List.map_eq_nil_iff.mpr ?_
    by_contra also
    have two : 0 < (rest.filter fun group => store.priorities model group ≠ []).length :=
      List.length_pos_of_mem (List.mem_filter.mpr ⟨member, decide_eq_true also⟩)
    rw [split, List.filter_append, List.filter_cons, if_pos (decide_eq_true usable), List.length_append,
      List.length_cons] at single
    omega
  have listed : request.userAutoGroups[passed.length]? = some group := by simp [split]
  have descends : ∀ round ∈ rounds,
      Descends (store.priorities model) round.routing ∧ Ready request round.routing := by
    intro round member
    obtain ⟨draw, selecting, bounded, same, ready⟩ := routed round member
    rw [same] at ready ⊢
    exact ⟨ChannelStore.routing_descends synced bounded selecting model, ready⟩
  rw [split, traversal_passed without, others, List.append_nil] at documented enough
  rw [List.length_map] at enough
  rw [List.getElem?_map, Option.map_eq_some_iff] at documented
  obtain ⟨priority, rung, rfl⟩ := documented
  have inside := (List.getElem?_eq_some_iff.mp rung).1
  refine RelayState.tries_rung automatic descends listed onRung fails offered (by omega) ?_
  rw [Nat.zero_add, min_eq_left (by omega)]
  exact rung

end

def equalChannels : Table Channel.id where
  rows := [ChannelStore.weighed 1 10 1, ChannelStore.weighed 2 5 1, ChannelStore.weighed 3 10 1,
    ChannelStore.weighed 4 5 1]
  unique := by decide

theorem equalChannels_positive : ∀ channel ∈ equalChannels, 0 < channel.id := by decide

theorem noAbilities_positive : ∀ ability ∈ ([] : List Ability), 0 < ability.channelId := by decide

def equalGroups : ChannelStore where
  memoryCacheEnabled := true
  channels := equalChannels
  abilities := []
  suppliers := []
  channelsIDM := equalChannels
  group2model2channels := [(("a", "gpt"), [1, 2]), (("b", "gpt"), [3, 4])]
  stored := equalChannels_positive
  cached := equalChannels_positive
  able := noAbilities_positive
  listed := by decide

def threeRetries : Settings := { oneRetry with retryTimes := 3, autoGroupsEnabled := true }

def autoRequest (groups : List String) : Request :=
  { chatRequest with tokenGroup := "auto", userAutoGroups := groups, crossGroupRetry := true }

def firstDraw : Routing :=
  equalGroups.routing (fun _ => 0) { affinity := fun fields => fields, nextKey := fun _ => .ok ("key", 0) } "gpt"

def busyRound : Attempt := { chatRound (ChannelStore.weighed 1 10 1) (some busy) with routing := firstDraw }

def opening (groups : List String) : RelayState :=
  match RelayState.begin threeRetries (autoRequest groups) firstDraw (fun _ => none) {} chatInfo with
  | .ok start => start
  | .error error => ⟨{}, chatInfo, ⟨0, false⟩, ChannelStore.weighed 0 0 0, some error, true, []⟩

theorem automatic_autoRequest (groups : List String) : Automatic threeRetries (autoRequest groups) :=
  ⟨rfl, rfl, rfl, rfl, rfl, rfl, rfl⟩

theorem bounded_zero : Bounded fun _ => 0 := fun _ positive => positive

theorem ready_firstDraw (groups : List String) : Ready (autoRequest groups) firstDraw where
  keyed := fun _ _ _ _ => ⟨_, rfl⟩
  suited := by
    intro group retry channel drawn
    have found : equalGroups.getRandomSatisfiedChannel (fun _ => 0) group "gpt" retry = .ok (some channel) := drawn
    have held := (ChannelStore.getRandomSatisfiedChannel_held found).1
    have all : ∀ channel ∈ equalGroups.channelsIDM, ChannelType.isVideoTask channel.type = false := by decide
    have text := all channel (Table.mem_of_lookup held)
    unfold errVideoTaskChannelOnNonTaskRelay
    rw [if_pos (.inr (by simp [text]))]

theorem cross_group_order_oneGroup :
    ((opening ["c", "a"]).tries plainEngine threeRetries (autoRequest ["c", "a"])
      (List.replicate 3 busyRound))[1]? = some ("a", 5) := by
  have started : RelayState.begin threeRetries (autoRequest ["c", "a"]) firstDraw (fun _ => none) {} chatInfo =
      .ok (opening ["c", "a"]) := rfl
  refine cross_group_order plainEngine (automatic_autoRequest _) (.inl rfl) bounded_zero (ready_firstDraw _)
    (.unselected le_rfl rfl) started ?_ ?_ ?_ ?_ ?_ ?_
  · intro round member
    rw [List.eq_of_mem_replicate member]
    exact ⟨_, _, bounded_zero, rfl, ready_firstDraw _⟩
  · decide +kernel
  · decide +kernel
  · decide +kernel
  · decide
  · decide +kernel

/-- After the last priority of the first group the loop stays on it, goes back to the first
channel, and enters the second group at its second priority. -/
theorem cross_group_order_repeated :
    traversal (equalGroups.priorities "gpt") ["a", "b"] = [("a", 10), ("a", 5), ("b", 10), ("b", 5)] ∧
      RelayState.begin threeRetries (autoRequest ["a", "b"]) firstDraw (fun _ => none) {} chatInfo =
        .ok (opening ["a", "b"]) ∧
      Guarded (RelayState.step plainEngine threeRetries (autoRequest ["a", "b"]))
        (fun state round => state.failsRetryably plainEngine threeRetries (autoRequest ["a", "b"]) round = true)
        (opening ["a", "b"]) (List.replicate 6 busyRound) ∧
      (opening ["a", "b"]).tries plainEngine threeRetries (autoRequest ["a", "b"])
          (List.replicate 6 busyRound) =
        [("a", 10), ("a", 5), ("a", 5), ("a", 5), ("a", 10), ("b", 5)] := by
  refine ⟨by decide +kernel, rfl, by decide +kernel, by decide +kernel⟩

end TokenFactory.Distributor
