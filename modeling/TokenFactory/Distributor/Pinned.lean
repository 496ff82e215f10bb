import TokenFactory.Distributor.Access

namespace TokenFactory.Distributor

open Data Go Relay

/-! Requests that are bound to one channel or to one supplier. -/

inductive Pin where
  | free
  | channel (id : Int)
  | supplier (supplierApplicationId : Int)
deriving DecidableEq

def Pin.Admits : Pin → Channel → Prop
  | .free, _ => True
  | .channel id, chosen => chosen.id = id
  | .supplier supplierApplicationId, chosen => chosen.supplierApplicationId = supplierApplicationId

/-- A route to a channel also sets the key of a specific channel. -/
def Distributed.pin (result : Distributed) : Pin :=
  match result.channel, result.keys.specificChannelId, result.keys.forcedSupplierId with
  | some channel, some _, _ => .channel channel.id
  | _, none, some supplierApplicationId => .supplier supplierApplicationId
  | _, _, _ => .free

def Distributed.request (result : Distributed) (request : Request) : Request :=
  { request with
    specificChannel := result.keys.specificChannelId.isSome
    forcedChannel := result.keys.forcedChannelId.isSome
    forcedSupplier := result.keys.forcedSupplierId.isSome
    smartRouteOrder := result.keys.smartRouteOrder }

structure PinnedAttempt where
  info : RelayInfo
  param : RetryParam
  model : String
  draw : Nat → Nat
  selecting : Selecting

inductive PinnedEvent where
  | cacheStatus (id : Int) (enabled : Bool)
  | status (id : Int) (enabled : Bool)
  | attempt (attempt : PinnedAttempt)

structure PinnedState where
  store : ChannelStore
  ctx : Context
  answers : List (Except TokenFactoryError Channel)

namespace PinnedState

variable (settings : Settings) (request : Request)

def select (state : PinnedState) (attempt : PinnedAttempt) : Selection :=
  getChannel settings request (state.store.routing attempt.draw attempt.selecting attempt.model) state.ctx
    attempt.info attempt.param

def step (state : PinnedState) : PinnedEvent → PinnedState
  | .cacheStatus id enabled => { state with store := state.store.cacheUpdateChannelStatus id enabled }
  | .status id enabled => { state with store := state.store.updateStatus id enabled }
  | .attempt attempt =>
    let selected := state.select settings request attempt
    { state with ctx := selected.ctx, answers := state.answers ++ [selected.answer] }

end PinnedState

/-- An attempt that may reuse the channel of the distributor finds it enabled. -/
def Pin.Reusable (pin : Pin) (state : PinnedState) : PinnedEvent → Prop
  | .attempt attempt =>
    match pin with
    | .channel id => attempt.param.retry = 0 → (state.store.enabledChannel id).isSome
    | _ => True
  | _ => True

instance (pin : Pin) (state : PinnedState) (event : PinnedEvent) : Decidable (pin.Reusable state event) :=
  match event with
  | .attempt _ =>
    match pin with
    | .channel _ => inferInstanceAs (Decidable (_ → _))
    | .supplier _ | .free => .isTrue trivial
  | .cacheStatus .. | .status .. => .isTrue trivial

theorem select_channel (routing : Routing) (ctx : Context) (info : RelayInfo) (param : RetryParam)
    (chosen : Channel) : (select routing ctx info param chosen).ctx.channelId = chosen.id ∧
      ∀ channel, (select routing ctx info param chosen).answer = .ok channel → channel = chosen := by
  have written := setupContextForSelectedChannel_channelId routing.selecting ctx chosen info.originModelName
  unfold select
  cases set : setupContextForSelectedChannel routing.selecting ctx chosen info.originModelName with
  | mk done after =>
    rw [set] at written
    cases done with
    | error error => exact ⟨written, fun _ failed => by cases failed⟩
    | ok nothing =>
      refine ⟨written, fun channel same => ?_⟩
      cases same
      rfl

theorem supplierOf_enabledChannel {store : ChannelStore} {id : Int} {channel : Channel}
    (found : store.enabledChannel id = some channel) :
    store.supplierOf id = some channel.supplierApplicationId := by
  rw [ChannelStore.supplierOf, (ChannelStore.enabledChannel_eq_some found).1]
  rfl

section
variable (settings : Settings) {request : Request} {state : PinnedState} {attempt : PinnedAttempt}

theorem select_specific (specific : request.specificChannel = true) (positive : 0 < state.ctx.channelId)
    (reusable : attempt.param.retry = 0 → (state.store.enabledChannel state.ctx.channelId).isSome) :
    (state.select settings request attempt).ctx = state.ctx ∧
      ∀ channel, (state.select settings request attempt).answer = .ok channel →
        channel.id = state.ctx.channelId := by
  unfold PinnedState.select getChannel
  generalize routed : state.store.routing attempt.draw attempt.selecting attempt.model = routing
  by_cases first : attempt.param.retry = 0
  · obtain ⟨held, found⟩ := Option.isSome_iff_exists.mp (reusable first)
    have reused : distributed routing state.ctx attempt.param = some held := by
      rw [distributed, if_pos ⟨first, positive⟩, ← routed]
      exact found
    simp only [reused, true_and]
    intro channel same
    cases same
    exact (ChannelStore.enabledChannel_eq_some found).2.1
  · have fresh : distributed routing state.ctx attempt.param = none := if_neg fun reuse => first reuse.1
    have later : attempt.param.retry > 0 ∧ (request.specificChannel = true ∨ request.forcedChannel = true) :=
      ⟨Nat.pos_of_ne_zero first, .inl specific⟩
    simp only [fresh, if_pos later, true_and]
    intro channel failed
    cases failed

theorem select_supplier {supplierApplicationId : Int} (forced : request.forcedSupplier = true)
    (current : state.store.supplierOf state.ctx.channelId = some supplierApplicationId)
    (ordered : ∀ id ∈ request.smartRouteOrder, state.store.supplierOf id = some supplierApplicationId) :
    state.store.supplierOf (state.select settings request attempt).ctx.channelId =
        some supplierApplicationId ∧
      ∀ channel, (state.select settings request attempt).answer = .ok channel →
        channel.supplierApplicationId = supplierApplicationId := by
  unfold PinnedState.select getChannel
  generalize attempt.info.ensureChannelMeta state.ctx = info
  generalize named : state.store.routing attempt.draw attempt.selecting attempt.model = routing
  have lookup : ∀ id, routing.enabledChannel id = state.store.enabledChannel id := by
    intro id
    rw [← named]
    rfl
  cases reused : distributed routing state.ctx attempt.param with
  | some held =>
    refine ⟨current, fun channel same => ?_⟩
    cases same
    have found := (Option.ite_none_right_eq_some.mp reused).2
    rw [lookup] at found
    rw [supplierOf_enabledChannel found] at current
    exact Option.some.inj current
  | none =>
    simp only
    split
    · exact ⟨current, fun _ failed => by cases failed⟩
    cases routed : smartRouted request routing attempt.param with
    | some held =>
      obtain ⟨id, listed, found⟩ := Option.bind_eq_some_iff.mp routed
      rw [lookup] at found
      have supplied := ordered id (List.mem_of_getElem? listed)
      obtain ⟨written, answered⟩ := select_channel routing state.ctx
        (info.refreshGroupRatio settings state.ctx) attempt.param held
      refine ⟨?_, fun channel same => ?_⟩
      · rw [written, (ChannelStore.enabledChannel_eq_some found).2.1]
        exact supplied
      · rw [answered channel same]
        rw [supplierOf_enabledChannel found] at supplied
        exact Option.some.inj supplied
    | none => exact ⟨current, fun _ failed => by cases failed⟩

end

/-- What ties the request to its channel or supplier, besides the status of a channel. -/
def Pin.Holds (pin : Pin) (request : Request) (state : PinnedState) : Prop :=
  match pin with
  | .free => True
  | .channel id => request.specificChannel = true ∧ 0 < id ∧ state.ctx.channelId = id
  | .supplier supplierApplicationId =>
    request.forcedSupplier = true ∧
      state.store.supplierOf state.ctx.channelId = some supplierApplicationId ∧
      ∀ id ∈ request.smartRouteOrder, state.store.supplierOf id = some supplierApplicationId

structure PinnedState.Kept (pin : Pin) (request : Request) (state : PinnedState) : Prop where
  holds : pin.Holds request state
  admitted : ∀ channel, .ok channel ∈ state.answers → pin.Admits channel

section
variable {request : Request} {pin : Pin} {state : PinnedState}

theorem Pin.Holds.store {store : ChannelStore} (held : pin.Holds request state)
    (same : ∀ id, store.supplierOf id = state.store.supplierOf id) :
    pin.Holds request { state with store } := by
  cases pin with
  | free => trivial
  | channel id => exact held
  | supplier supplierApplicationId =>
    exact ⟨held.1, (same _).trans held.2.1, fun id member => (same id).trans (held.2.2 id member)⟩

theorem PinnedState.select_kept (settings : Settings) {attempt : PinnedAttempt} (held : pin.Holds request state)
    (reusable : pin.Reusable state (.attempt attempt)) :
    pin.Holds request { state with ctx := (state.select settings request attempt).ctx } ∧
      ∀ channel, (state.select settings request attempt).answer = .ok channel → pin.Admits channel := by
  cases pin with
  | free => exact ⟨trivial, fun _ _ => trivial⟩
  | channel id =>
    obtain ⟨specific, positive, current⟩ := held
    obtain ⟨kept, answered⟩ := select_specific settings specific (current ▸ positive) (current ▸ reusable)
    refine ⟨⟨specific, positive, ?_⟩, fun channel same => ?_⟩
    · exact (congrArg Context.channelId kept).trans current
    · exact (answered channel same).trans current
  | supplier supplierApplicationId =>
    obtain ⟨forced, current, ordered⟩ := held
    obtain ⟨kept, answered⟩ := select_supplier settings forced current ordered
    exact ⟨⟨forced, kept, ordered⟩, answered⟩

theorem PinnedState.step_kept (settings : Settings) {event : PinnedEvent} (kept : state.Kept pin request)
    (reusable : pin.Reusable state event) : (state.step settings request event).Kept pin request := by
  cases event with
  | cacheStatus id enabled =>
    exact ⟨kept.holds.store (state.store.cacheUpdateChannelStatus_supplierOf id enabled), kept.admitted⟩
  | status id enabled =>
    exact ⟨kept.holds.store (state.store.updateStatus_supplierOf id enabled), kept.admitted⟩
  | attempt attempt =>
    obtain ⟨holds, answered⟩ := PinnedState.select_kept settings kept.holds reusable
    refine ⟨holds, fun channel member => ?_⟩
    rcases List.mem_append.mp member with before | last
    · exact kept.admitted channel before
    · exact answered channel (List.mem_singleton.mp last).symm

end

section
variable {incoming : Incoming} {store : ChannelStore} {router : Router} {keys : Keys} {chosen : Distributed}

theorem chooseSpecific_channel {specificChannelId : String}
    (succeeded : incoming.chooseSpecific store keys specificChannelId = .ok chosen) :
    chosen.keys.specificChannelId = keys.specificChannelId ∧
      ∃ channel, chosen.channel = some channel ∧ 0 < channel.id := by
  obtain ⟨channel, found, -, selected, kept, -⟩ := chooseSpecific_cases succeeded
  obtain ⟨id, -, lookup⟩ := Option.bind_eq_some_iff.mp found
  exact ⟨kept, channel, selected, store.stored channel (Table.mem_of_lookup lookup)⟩

theorem chooseRandom_keys (succeeded : incoming.chooseRandom store keys = .ok chosen) :
    chosen.keys.specificChannelId = keys.specificChannelId ∧
      chosen.keys.forcedSupplierId = keys.forcedSupplierId := by
  unfold Incoming.chooseRandom at succeeded
  dsimp only at succeeded
  split at succeeded
  · cases succeeded
  · cases succeeded
  · cases succeeded
    exact ⟨rfl, rfl⟩

theorem chooseByAffinity_keys (succeeded : incoming.chooseByAffinity store keys = .ok (some chosen)) :
    chosen.keys.specificChannelId = keys.specificChannelId ∧
      chosen.keys.forcedSupplierId = keys.forcedSupplierId := by
  unfold Incoming.chooseByAffinity at succeeded
  split at succeeded
  · cases succeeded
  split at succeeded
  · split at succeeded <;> cases succeeded
  split at succeeded
  · split at succeeded
    · cases succeeded
    · cases succeeded
      exact ⟨rfl, rfl⟩
  · split at succeeded
    · cases succeeded
      exact ⟨rfl, rfl⟩
    · cases succeeded

/-- Without a forced supplier the choice within the group sets no key that binds the
request. -/
theorem chooseInGroup_keys (unforced : keys.forcedSupplierId = none)
    (succeeded : incoming.chooseInGroup store router keys = .ok chosen) :
    chosen.keys.specificChannelId = keys.specificChannelId ∧ chosen.keys.forcedSupplierId = none := by
  obtain ⟨grouped, group, rest⟩ := chooseInGroup_cases succeeded
  obtain ⟨-, -, supplier, specific, -⟩ := chooseGroup_keys group
  rw [unforced] at supplier
  rw [← specific, ← supplier]
  rcases rest with ⟨_, forced, -⟩ | ⟨-, preferred | routed⟩
  · rw [supplier] at forced
    cases forced
  · exact chooseByAffinity_keys preferred
  · unfold Incoming.chooseRouted at routed
    split at routed
    · cases routed
      exact ⟨rfl, rfl⟩
    · have kept := chooseRandom_keys routed
      exact kept

theorem chooseInGroup_supplier {supplierApplicationId : Int} (only : router.OnlyCandidates)
    (forced : keys.forcedSupplierId = some supplierApplicationId)
    (succeeded : incoming.chooseInGroup store router keys = .ok chosen) :
    chosen.keys.specificChannelId = keys.specificChannelId ∧
      chosen.keys.forcedSupplierId = some supplierApplicationId ∧
      (∃ channel, chosen.channel = some channel ∧ channel.id ∈ chosen.keys.smartRouteOrder) ∧
      ∀ id ∈ chosen.keys.smartRouteOrder, store.supplierOf id = some supplierApplicationId := by
  obtain ⟨grouped, group, rest⟩ := chooseInGroup_cases succeeded
  obtain ⟨-, -, supplier, specific, -⟩ := chooseGroup_keys group
  rw [forced] at supplier
  rcases rest with ⟨_, same, supplied⟩ | ⟨unforced, -⟩
  · obtain rfl := Option.some.inj (supplier.symm.trans same)
    unfold Incoming.chooseFromSupplier at supplied
    split at supplied
    · cases supplied
    case h_2 choice routed =>
      cases supplied
      have cached := (ChannelStore.trySupplierRouteChannel_routed only routed).2
      refine ⟨specific, supplier, ⟨choice.channel, rfl, cached.chosen⟩, fun id member => ?_⟩
      obtain ⟨channel, held, same, -⟩ := cached.cached id member
      rw [ChannelStore.supplierOf, held, ← same]
      rfl
  · rw [supplier] at unforced
    cases unforced

theorem setup_channelId {channel : Channel} (selected : chosen.channel = some channel) :
    (incoming.setup chosen).keys.ctx.channelId = channel.id := by
  unfold Incoming.setup
  rw [selected]
  exact setupContextForSelectedChannel_channelId incoming.selecting chosen.keys.ctx channel chosen.keys.model

theorem choose_specific (only : router.OnlyCandidates)
    (succeeded : incoming.choose store router keys = .ok chosen)
    (specific : chosen.keys.specificChannelId.isSome) :
    ∃ channel, chosen.channel = some channel ∧ 0 < channel.id := by
  rcases choose_cases succeeded with ⟨id, -, done⟩ |
    ⟨unnamed, ⟨-, rfl⟩ | ⟨id, -, positive, done, -⟩ | ⟨-, -, done⟩⟩
  · exact (chooseSpecific_channel done).2
  · rw [unnamed] at specific
    cases specific
  · obtain ⟨channel, selected, same, -⟩ := (chooseForced_channel done).2
    exact ⟨channel, selected, same ▸ positive⟩
  · have kept : chosen.keys.specificChannelId = keys.specificChannelId := by
      cases supplier : keys.forcedSupplierId with
      | none => exact (chooseInGroup_keys supplier done).1
      | some supplierApplicationId => exact (chooseInGroup_supplier only supplier done).1
    rw [kept, unnamed] at specific
    cases specific

theorem choose_supplier {request : ModelRequest} {specificChannelId : Option String}
    {supplierApplicationId : Int} (only : router.OnlyCandidates)
    (routed : incoming.routeKeys store request specificChannelId = .ok keys)
    (succeeded : incoming.choose store router keys = .ok chosen)
    (unspecified : chosen.keys.specificChannelId = none)
    (forced : chosen.keys.forcedSupplierId = some supplierApplicationId) :
    (∃ channel, chosen.channel = some channel ∧ channel.id ∈ chosen.keys.smartRouteOrder) ∧
      ∀ id ∈ chosen.keys.smartRouteOrder, store.supplierOf id = some supplierApplicationId := by
  rcases choose_cases succeeded with
    ⟨text, specific, done⟩ | ⟨-, ⟨unselected, rfl⟩ | ⟨id, -, -, done, -⟩ | ⟨-, -, done⟩⟩
  · rw [(chooseSpecific_channel done).1, specific] at unspecified
    cases unspecified
  · rcases (routeKeys_cases routed).2.2 with plain | ⟨selects, -⟩
    · rw [show keys.forcedSupplierId = _ from plain.2.2] at forced
      cases forced
    · rw [unselected] at selects
      cases selects
  · rw [(chooseForced_channel done).1] at unspecified
    cases unspecified
  · cases supplier : keys.forcedSupplierId with
    | none =>
      rw [(chooseInGroup_keys supplier done).2] at forced
      cases forced
    | some named =>
      obtain ⟨-, same, selected, ordered⟩ := chooseInGroup_supplier only supplier done
      rw [same] at forced
      cases forced
      exact ⟨selected, ordered⟩

variable {result : Distributed}

theorem distribute_holds (only : router.OnlyCandidates)
    (distributed : incoming.distribute store router = .ok result) (request : Request) :
    result.pin.Holds (result.request request) ⟨store, result.keys.ctx, []⟩ := by
  obtain ⟨read, specificChannelId, keys, chosen, -, routed, done, rfl⟩ := distribute_ok distributed
  have specificKept : (incoming.setup chosen).keys.specificChannelId = chosen.keys.specificChannelId := rfl
  have supplierKept : (incoming.setup chosen).keys.forcedSupplierId = chosen.keys.forcedSupplierId := rfl
  have channelKept : (incoming.setup chosen).channel = chosen.channel := rfl
  unfold Distributed.pin
  rw [specificKept, supplierKept, channelKept]
  cases specific : chosen.keys.specificChannelId with
  | some text =>
    obtain ⟨channel, selected, positive⟩ := choose_specific only done (by rw [specific]; rfl)
    rw [selected]
    refine ⟨?_, positive, setup_channelId selected⟩
    change chosen.keys.specificChannelId.isSome = true
    rw [specific]
    rfl
  | none =>
    cases forced : chosen.keys.forcedSupplierId with
    | none => cases chosen.channel <;> trivial
    | some supplierApplicationId =>
      obtain ⟨⟨channel, selected, first⟩, ordered⟩ := choose_supplier only routed done specific forced
      rw [selected]
      refine ⟨?_, ?_, ordered⟩
      · change chosen.keys.forcedSupplierId.isSome = true
        rw [forced]
        rfl
      · rw [show (PinnedState.mk store (incoming.setup chosen).keys.ctx []).ctx.channelId = channel.id from
          setup_channelId selected]
        exact ordered _ first

/-- In every run of attempts and changes of status after the distributor, every channel
that `getChannel` returns is the one, or of the supplier, that the request is bound to. -/
theorem pinned_routing_kept (settings : Settings) (request : Request) (only : router.OnlyCandidates)
    (distributed : incoming.distribute store router = .ok result) {events : List PinnedEvent}
    (reusable : Guarded (PinnedState.step settings (result.request request)) result.pin.Reusable
      ⟨store, result.keys.ctx, []⟩ events) :
    ∀ channel, .ok channel ∈ (run (PinnedState.step settings (result.request request))
      ⟨store, result.keys.ctx, []⟩ events).answers → result.pin.Admits channel := by
  have initial : PinnedState.Kept result.pin (result.request request) ⟨store, result.keys.ctx, []⟩ :=
    ⟨distribute_holds only distributed request, fun _ member => by cases member⟩
  have kept := Guarded.invariant (fun state event held may => PinnedState.step_kept settings held may) initial
    reusable
  exact kept.admitted

end

def forcedResult : Distributed where
  channel := some { channelOf 2 [] [] with channelNo := "c2" }
  keys := {
    model := "gpt"
    usingGroup := "default"
    specificChannelId := some "2"
    forcedChannelId := some 2
    ctx := (setupContextForSelectedChannel (chatFor "gpt").selecting {}
      { channelOf 2 [] [] with channelNo := "c2" } "gpt").2 }

def chatAttempt (retry : Nat) : PinnedAttempt where
  info := chatInfo
  param := ⟨retry, false⟩
  model := "gpt"
  draw := fun _ => 0
  selecting := (chatFor "gpt").selecting

def answeredIds (events : List PinnedEvent) : List (Option Int) :=
  (run (PinnedState.step oneRetry (forcedResult.request chatRequest))
    ⟨twoGroups, forcedResult.keys.ctx, []⟩ events).answers.map fun answer => answer.toOption.map Channel.id

theorem pinned_routing_kept_retry : forcedResult.pin = .channel 2 ∧
      answeredIds [.attempt (chatAttempt 0), .cacheStatus 2 false, .attempt (chatAttempt 1)] = [some 2, none] ∧
      ∀ channel, .ok channel ∈ (run (PinnedState.step oneRetry (forcedResult.request chatRequest))
        ⟨twoGroups, forcedResult.keys.ctx, []⟩
        [.attempt (chatAttempt 0), .cacheStatus 2 false, .attempt (chatAttempt 1)]).answers →
          forcedResult.pin.Admits channel := by
  have distributed : (chatFor "P0/gpt/c2").distribute twoGroups noRouter = .ok forcedResult := rfl
  exact ⟨rfl, by decide +kernel,
    pinned_routing_kept oneRetry chatRequest noRouter_onlyCandidates distributed (by decide +kernel)⟩

/-- The channel is disabled before the first attempt, which then takes another one. -/
theorem pinned_routing_escaped :
    (chatFor "P0/gpt/c2").distribute twoGroups noRouter = .ok forcedResult ∧
      forcedResult.pin = .channel 2 ∧
      answeredIds [.cacheStatus 2 false, .attempt (chatAttempt 0)] = [some 1] :=
  ⟨rfl, rfl, by decide +kernel⟩

end TokenFactory.Distributor
