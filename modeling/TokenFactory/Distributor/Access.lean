import TokenFactory.Distributor.Distribute
import TokenFactory.Relay.Attempts

namespace TokenFactory.Distributor

open Data Go Relay

/-! Which channels a request may be given. -/

/-- The channel may be used for the model by a group that the request may use. -/
def Distributed.Allowed (store : ChannelStore) (userAutoGroups : List String) (chosen : Distributed) : Prop :=
  ∀ channel ∈ chosen.channel, ∃ group, Grants chosen.keys.usingGroup userAutoGroups group ∧
    (group ≠ "" → store.isChannelEnabledForGroupModel group chosen.keys.model channel.id = true)

section
variable {incoming : Incoming} {store : ChannelStore} {router : Router} {keys : Keys} {chosen : Distributed}

theorem chooseFromSupplier_allowed {supplierApplicationId : Int} (only : router.OnlyCandidates)
    (succeeded : incoming.chooseFromSupplier store router keys supplierApplicationId = .ok chosen) :
    chosen.Allowed store incoming.request.userAutoGroups := by
  unfold Incoming.chooseFromSupplier at succeeded
  split at succeeded
  · cases succeeded
  case h_2 choice routed =>
    cases succeeded
    obtain ⟨granted, supplied⟩ := ChannelStore.trySupplierRouteChannel_routed only routed
    intro channel selected
    cases selected
    obtain ⟨-, -, -, allowed⟩ := supplied.cached _ supplied.chosen
    exact ⟨choice.selectGroup, granted, fun _ => allowed⟩

theorem chooseByAffinity_allowed
    (succeeded : incoming.chooseByAffinity store keys = .ok (some chosen)) :
    chosen.Allowed store incoming.request.userAutoGroups := by
  unfold Incoming.chooseByAffinity at succeeded
  split at succeeded
  · cases succeeded
  case h_2 preferred found =>
    split at succeeded
    · split at succeeded <;> cases succeeded
    split at succeeded
    case isTrue auto =>
      split at succeeded
      · cases succeeded
      case h_2 group usable =>
        cases succeeded
        intro channel selected
        cases selected
        have passed := List.find?_some usable
        refine ⟨group, ?_, fun _ => passed⟩
        rw [Grants, if_pos auto]
        exact List.mem_of_find?_eq_some usable
    case isFalse explicit =>
      split at succeeded
      case isTrue usable =>
        cases succeeded
        intro channel selected
        cases selected
        exact ⟨keys.usingGroup, by rw [Grants, if_neg explicit], fun _ => usable⟩
      case isFalse => cases succeeded

theorem chooseRandom_allowed (named : keys.model ≠ "")
    (succeeded : incoming.chooseRandom store keys = .ok chosen) :
    chosen.Allowed store incoming.request.userAutoGroups := by
  unfold Incoming.chooseRandom at succeeded
  dsimp only at succeeded
  split at succeeded
  · cases succeeded
  · cases succeeded
  case h_3 channel found =>
    cases succeeded
    obtain ⟨group, granted, retry, drawn⟩ := cacheGetRandomSatisfiedChannel_found found
    intro selected same
    cases same
    exact ⟨group, granted, fun grouped =>
      ChannelStore.getRandomSatisfiedChannel_enabled grouped named drawn⟩

theorem chooseRouted_allowed (only : router.OnlyCandidates) (named : keys.model ≠ "")
    (succeeded : incoming.chooseRouted store router keys = .ok chosen) :
    chosen.Allowed store incoming.request.userAutoGroups := by
  unfold Incoming.chooseRouted at succeeded
  split at succeeded
  case h_1 choice order routed =>
    cases succeeded
    have first := congrArg Prod.fst routed
    obtain ⟨granted, allowed⟩ := ChannelStore.trySmartRouteChannel_enabled only first
    intro channel selected
    cases selected
    exact ⟨choice.selectGroup, granted, fun _ => allowed⟩
  case h_2 order unrouted =>
    refine chooseRandom_allowed ?_ succeeded
    exact named

theorem chooseGroup_keys {grouped : Keys} (succeeded : incoming.chooseGroup keys = .ok grouped) :
    grouped.model = keys.model ∧ grouped.forcedChannelId = keys.forcedChannelId ∧
      grouped.forcedSupplierId = keys.forcedSupplierId ∧
      grouped.specificChannelId = keys.specificChannelId ∧
      grouped.smartRouteOrder = keys.smartRouteOrder := by
  unfold Incoming.chooseGroup at succeeded
  split at succeeded
  · cases succeeded
    exact ⟨rfl, rfl, rfl, rfl, rfl⟩
  split at succeeded
  · cases succeeded
  split_ifs at succeeded
  all_goals cases succeeded
  all_goals exact ⟨rfl, rfl, rfl, rfl, rfl⟩

theorem chooseInGroup_cases (succeeded : incoming.chooseInGroup store router keys = .ok chosen) :
    ∃ grouped, incoming.chooseGroup keys = .ok grouped ∧
      ((∃ supplierApplicationId, grouped.forcedSupplierId = some supplierApplicationId ∧
          incoming.chooseFromSupplier store router grouped supplierApplicationId = .ok chosen) ∨
        grouped.forcedSupplierId = none ∧
          (incoming.chooseByAffinity store grouped = .ok (some chosen) ∨
            incoming.chooseRouted store router grouped = .ok chosen)) := by
  unfold Incoming.chooseInGroup at succeeded
  split at succeeded
  · cases succeeded
  case h_2 grouped group =>
    refine ⟨grouped, group, ?_⟩
    split at succeeded
    case h_1 supplierApplicationId supplier => exact .inl ⟨supplierApplicationId, supplier, succeeded⟩
    case h_2 supplier =>
      refine .inr ⟨supplier, ?_⟩
      split at succeeded
      · cases succeeded
      case h_2 affinity => exact .inl (affinity.trans (congrArg _ (congrArg _ (Except.ok.inj succeeded))))
      case h_3 => exact .inr succeeded

theorem chooseInGroup_allowed (only : router.OnlyCandidates) (named : keys.model ≠ "")
    (succeeded : incoming.chooseInGroup store router keys = .ok chosen) :
    chosen.Allowed store incoming.request.userAutoGroups := by
  obtain ⟨grouped, group, ⟨_, -, supplied⟩ | ⟨-, preferred | routed⟩⟩ := chooseInGroup_cases succeeded
  · exact chooseFromSupplier_allowed only supplied
  · exact chooseByAffinity_allowed preferred
  · have model : grouped.model ≠ "" := (chooseGroup_keys group).1 ▸ named
    exact chooseRouted_allowed only model routed

theorem chooseForced_eq_ok {forcedId : Int} : incoming.chooseForced store keys forcedId = .ok chosen ↔
    ∃ channel, store.cacheGetChannel forcedId = some channel ∧ channel.enabled = true ∧
      chosen = ⟨some channel, { keys with specificChannelId := some (toString forcedId) }⟩ := by
  unfold Incoming.chooseForced
  cases store.cacheGetChannel forcedId with
  | none => simp [Incoming.abort]
  | some channel =>
    cases enabled : channel.enabled with
    | false => simp [Incoming.abort, enabled]
    | true => simp [enabled, @eq_comm _ _ chosen]

theorem chooseForced_channel {forcedId : Int}
    (succeeded : incoming.chooseForced store keys forcedId = .ok chosen) :
    chosen.keys.specificChannelId = some (toString forcedId) ∧
      ∃ channel, chosen.channel = some channel ∧ channel.id = forcedId ∧ channel.enabled = true := by
  obtain ⟨channel, found, enabled, rfl⟩ := chooseForced_eq_ok.mp succeeded
  exact ⟨rfl, channel, rfl, ChannelStore.cacheGetChannel_id found, enabled⟩

theorem choose_cases (succeeded : incoming.choose store router keys = .ok chosen) :
    (∃ specificChannelId, keys.specificChannelId = some specificChannelId ∧
        incoming.chooseSpecific store keys specificChannelId = .ok chosen) ∨
      keys.specificChannelId = none ∧
        (incoming.shouldSelectChannel = false ∧ chosen = ⟨none, keys⟩ ∨
          (∃ forcedId, keys.forcedChannelId = some forcedId ∧ 0 < forcedId ∧
            incoming.chooseForced store keys forcedId = .ok chosen ∧
            incoming.checkModelLimit keys = .ok () ∧ keys.model ≠ "") ∨
          ((∀ forcedId, keys.forcedChannelId = some forcedId → forcedId ≤ 0) ∧ keys.model ≠ "" ∧
            incoming.chooseInGroup store router keys = .ok chosen)) := by
  unfold Incoming.choose at succeeded
  cases specific : keys.specificChannelId with
  | some specificChannelId =>
    rw [specific] at succeeded
    exact .inl ⟨specificChannelId, rfl, succeeded⟩
  | none =>
    rw [specific] at succeeded
    refine .inr ⟨rfl, ?_⟩
    cases limit : incoming.checkModelLimit keys with
    | error abort =>
      rw [limit] at succeeded
      cases succeeded
    | ok passed =>
      rw [limit] at succeeded
      dsimp only at succeeded
      split at succeeded
      case isTrue unselected =>
        cases succeeded
        exact .inl ⟨Bool.eq_false_iff.mpr unselected, rfl⟩
      split at succeeded
      · cases succeeded
      case isFalse named =>
        cases forced : keys.forcedChannelId with
        | none =>
          rw [forced] at succeeded
          refine .inr (.inr ⟨?_, named, succeeded⟩)
          intro forcedId held
          cases held
        | some forcedId =>
          rw [forced] at succeeded
          dsimp only at succeeded
          split at succeeded
          case isTrue positive => exact .inr (.inl ⟨forcedId, rfl, positive, succeeded, rfl, named⟩)
          case isFalse unforced =>
            refine .inr (.inr ⟨?_, named, succeeded⟩)
            intro other held
            cases held
            exact Int.not_lt.mp unforced

end

/-- The model that a channel named in the body is used for. -/
def Incoming.specificModel (incoming : Incoming) (keys : Keys) (channel : Channel) : String :=
  if incoming.isPlayground ∧ keys.forcedChannelId = none ∧
      channel.otherInfo.text "source" = "tokenfactory_open" then
    ((parsePlaygroundTFOpenUpstreamRoute keys.model).map Prod.fst).getD keys.model
  else keys.model

/-- The request gets an enabled channel that it names itself, for a model. -/
inductive Incoming.Names (incoming : Incoming) (store : ChannelStore) : Channel → String → Prop where
  /-- By its id in the body of a playground request, or with the token of an
  administrator. -/
  | body {request : ModelRequest} {specificChannelId : String} {keys : Keys} {channel : Channel}
      (read : incoming.getModelRequest = .ok (request, some specificChannelId))
      (routed : incoming.routeKeys store request (some specificChannelId) = .ok keys)
      (found : (atoi specificChannelId).bind store.channels.lookup = some channel)
      (enabled : channel.enabled = true) : Names incoming store channel (incoming.specificModel keys channel)
  /-- By a route in the model name, where the token may use the model. -/
  | route {request : ModelRequest} {forcedId : Int} {keys : Keys} {channel : Channel}
      (read : incoming.getModelRequest = .ok (request, none))
      (routed : incoming.routeKeys store request none = .ok keys)
      (forced : keys.forcedChannelId = some forcedId) (positive : 0 < forcedId)
      (limit : incoming.checkModelLimit keys = .ok ()) (named : keys.model ≠ "")
      (found : store.cacheGetChannel forcedId = some channel) (enabled : channel.enabled = true) :
      Names incoming store channel keys.model

/-- The channel may be used for the model by a group, if that is one group. -/
def ChannelStore.Permits (store : ChannelStore) (group model : String) (channel : Channel) : Prop :=
  group ≠ "auto" → group ≠ "" → store.isChannelEnabledForGroupModel group model channel.id = true

section
variable {incoming : Incoming} {store : ChannelStore}

theorem chooseSpecific_cases {keys : Keys} {specificChannelId : String} {chosen : Distributed}
    (succeeded : incoming.chooseSpecific store keys specificChannelId = .ok chosen) :
    ∃ channel, (atoi specificChannelId).bind store.channels.lookup = some channel ∧ channel.enabled = true ∧
      chosen.channel = some channel ∧ chosen.keys.specificChannelId = keys.specificChannelId ∧
      chosen.keys.usingGroup = keys.usingGroup ∧ chosen.keys.model = incoming.specificModel keys channel := by
  unfold Incoming.chooseSpecific at succeeded
  split at succeeded
  · cases succeeded
  rename_i channel found
  split at succeeded
  · cases succeeded
  rename_i enabled
  refine ⟨channel, found, not_not.mp enabled, ?_⟩
  unfold Incoming.specificModel
  split at succeeded
  case isTrue synchronised =>
    rw [if_pos synchronised]
    split at succeeded
    all_goals
      rename_i parsed
      cases succeeded
      exact ⟨rfl, rfl, rfl, by rw [parsed]; rfl⟩
  case isFalse other =>
    cases succeeded
    exact ⟨rfl, rfl, rfl, (if_neg other).symm⟩

theorem chooseSpecific_succeeds {keys : Keys} {specificChannelId : String} {channel : Channel}
    (found : (atoi specificChannelId).bind store.channels.lookup = some channel) (enabled : channel.enabled = true) :
    ∃ chosen, incoming.chooseSpecific store keys specificChannelId = .ok chosen := by
  simp only [Incoming.chooseSpecific, found, enabled, not_true_eq_false, ↓reduceIte]
  split
  · split <;> exact ⟨_, rfl⟩
  · exact ⟨_, rfl⟩

theorem routeKeys_usingGroup {request : ModelRequest} {specificChannelId : Option String} {keys : Keys}
    (routed : incoming.routeKeys store request specificChannelId = .ok keys) :
    keys.usingGroup = incoming.usingGroup := by
  unfold Incoming.routeKeys at routed
  split at routed
  · cases routed
    rfl
  split at routed
  · cases routed
  · cases routed
    rfl
  all_goals
    dsimp only at routed
    split at routed
    · cases routed
    · cases routed
      rfl

theorem routeKeys_cases {request : ModelRequest} {specificChannelId : Option String} {keys : Keys}
    (routed : incoming.routeKeys store request specificChannelId = .ok keys) :
    keys.specificChannelId = specificChannelId ∧ keys.smartRouteOrder = [] ∧
      ((incoming.shouldSelectChannel = false ∨ store.parseRoute request.model = .ok .plain) ∧
          keys.forcedChannelId = none ∧ keys.forcedSupplierId = none ∨
        incoming.shouldSelectChannel = true ∧
          ((∃ id, store.parseRoute request.model = .ok (.channel keys.model id) ∧
              keys.forcedChannelId = some id ∧ keys.forcedSupplierId = none) ∨
            ∃ id, store.parseRoute request.model = .ok (.supplier keys.model id) ∧
              keys.forcedChannelId = none ∧ keys.forcedSupplierId = some id)) := by
  unfold Incoming.routeKeys at routed
  split at routed
  case isTrue unselected =>
    cases routed
    exact ⟨rfl, rfl, .inl ⟨.inl (Bool.eq_false_iff.mpr unselected), rfl, rfl⟩⟩
  rename_i selects
  cases parsed : store.parseRoute request.model with
  | error reason =>
    rw [parsed] at routed
    cases routed
  | ok route =>
    rw [parsed] at routed
    cases route with
    | plain =>
      cases routed
      exact ⟨rfl, rfl, .inl ⟨.inr rfl, rfl, rfl⟩⟩
    | channel modelName id =>
      dsimp only at routed
      split at routed
      · cases routed
      · cases routed
        exact ⟨rfl, rfl, .inr ⟨not_not.mp selects, .inl ⟨id, rfl, rfl, rfl⟩⟩⟩
    | supplier modelName id =>
      dsimp only at routed
      split at routed
      · cases routed
      · cases routed
        exact ⟨rfl, rfl, .inr ⟨not_not.mp selects, .inr ⟨id, rfl, rfl, rfl⟩⟩⟩

variable {router : Router} {result : Distributed}

theorem distribute_ok (distributed : incoming.distribute store router = .ok result) :
    ∃ request specificChannelId keys chosen,
      incoming.getModelRequest = .ok (request, specificChannelId) ∧
      incoming.routeKeys store request specificChannelId = .ok keys ∧
      incoming.choose store router keys = .ok chosen ∧ result = incoming.setup chosen := by
  unfold Incoming.distribute at distributed
  cases read : incoming.getModelRequest with
  | error reason =>
    rw [read] at distributed
    cases distributed
  | ok read' =>
    obtain ⟨request, specificChannelId⟩ := read'
    rw [read] at distributed
    dsimp only at distributed
    split at distributed
    · cases distributed
    rename_i keys routed
    cases done : incoming.choose store router keys with
    | error abort =>
      rw [done] at distributed
      cases distributed
    | ok chosen =>
      rw [done] at distributed
      cases distributed
      exact ⟨request, specificChannelId, keys, chosen, rfl, routed, done, rfl⟩

theorem distribute_of_choose {request : ModelRequest} {specificChannelId : Option String} {keys : Keys}
    {chosen : Distributed} (read : incoming.getModelRequest = .ok (request, specificChannelId))
    (routed : incoming.routeKeys store request specificChannelId = .ok keys)
    (done : incoming.choose store router keys = .ok chosen) :
    incoming.distribute store router = .ok (incoming.setup chosen) := by
  simp only [Incoming.distribute, read, routed, done, Except.map]

theorem distribute_of_names {channel : Channel} {model : String} (named : incoming.Names store channel model) :
    ∃ result, incoming.distribute store router = .ok result ∧ result.channel = some channel ∧
      result.keys.usingGroup = incoming.usingGroup ∧ result.keys.model = model := by
  cases named with
  | @body request specificChannelId keys channel read routed found enabled =>
    obtain ⟨chosen, given⟩ := @chooseSpecific_succeeds incoming store keys _ _ found enabled
    have specific := (routeKeys_cases routed).1
    have done : incoming.choose store router keys = .ok chosen := by
      simp only [Incoming.choose, specific, given]
    obtain ⟨other, same, -, selected, -, group, model⟩ := chooseSpecific_cases given
    obtain rfl : channel = other := Option.some.inj (found.symm.trans same)
    exact ⟨_, distribute_of_choose read routed done, selected, group.trans (routeKeys_usingGroup routed), model⟩
  | @route request forcedId keys channel read routed forced positive limit named found enabled =>
    obtain ⟨specific, -, route⟩ := routeKeys_cases routed
    have selects : incoming.shouldSelectChannel = true := by
      rcases route with ⟨-, unforced, -⟩ | ⟨selects, -⟩
      · rw [forced] at unforced
        cases unforced
      · exact selects
    have given : incoming.chooseForced store keys forcedId = .ok _ :=
      chooseForced_eq_ok.mpr ⟨channel, found, enabled, rfl⟩
    have same : incoming.choose store router keys = incoming.chooseForced store keys forcedId := by
      simp only [Incoming.choose, specific, limit, selects, named, forced, positive, not_true_eq_false, ↓reduceIte]
    have group := routeKeys_usingGroup routed
    exact ⟨_, distribute_of_choose read routed (same.trans given), rfl, group, rfl⟩

theorem distribute_permits (only : router.OnlyCandidates)
    (permitted : ∀ channel model, incoming.Names store channel model →
      store.Permits incoming.usingGroup model channel)
    (distributed : incoming.distribute store router = .ok result) {channel : Channel}
    (selected : result.channel = some channel) :
    store.Permits result.keys.usingGroup result.keys.model channel := by
  obtain ⟨request, specificChannelId, keys, chosen, read, routed, done, rfl⟩ := distribute_ok distributed
  have group := routeKeys_usingGroup routed
  have specified := (routeKeys_cases routed).1
  rcases choose_cases done with ⟨id, specific, given⟩ |
    ⟨unspecified, ⟨-, rfl⟩ | ⟨id, forced, positive, given, limit, named⟩ | ⟨-, named, inGroup⟩⟩
  · obtain ⟨other, found, enabled, same, -, kept, model⟩ := chooseSpecific_cases given
    obtain rfl : other = channel := Option.some.inj (same.symm.trans selected)
    rw [specific] at specified
    subst specified
    have permits := permitted other _ (.body read routed found enabled)
    rw [← model, ← group, ← kept] at permits
    exact permits
  · cases selected
  · obtain ⟨other, found, enabled, rfl⟩ := chooseForced_eq_ok.mp given
    cases selected
    rw [unspecified] at specified
    subst specified
    have permits := permitted channel _ (.route read routed forced positive limit named found enabled)
    rw [← group] at permits
    exact permits
  · intro explicit grouped
    obtain ⟨granting, granted, enabled⟩ := chooseInGroup_allowed only named inGroup channel selected
    have same : granting = chosen.keys.usingGroup := by
      unfold Grants at granted
      split at granted
      · exact absurd ‹_› explicit
      · exact granted
    rw [same] at enabled
    exact enabled grouped

/-- A request is let through only with a channel that its group may use for its model,
exactly if that holds of the channel that the request names itself and then gets. -/
theorem distributed_channel_enabled_iff (incoming : Incoming) (store : ChannelStore) (router : Router)
    (only : router.OnlyCandidates) :
    (∀ result channel, incoming.distribute store router = .ok result → result.channel = some channel →
        store.Permits result.keys.usingGroup result.keys.model channel) ↔
      ∀ channel model, incoming.Names store channel model → store.Permits incoming.usingGroup model channel := by
  constructor
  · intro permitted channel model named
    obtain ⟨result, distributed, selected, group, same⟩ := @distribute_of_names _ _ router _ _ named
    have permits := permitted result channel distributed selected
    rw [group, same] at permits
    exact permits
  · intro permitted result channel distributed selected
    exact distribute_permits only permitted distributed selected

end

/-- Channel 1 serves the group `default`, channel 2 the group `vip`. -/
def twoGroups : ChannelStore where
  memoryCacheEnabled := true
  channels := ⟨[channelOf 1 [] [], { channelOf 2 [] [] with channelNo := "c2" }], by decide⟩
  abilities := [⟨"default", "gpt", 1, true, 0, 0⟩, ⟨"vip", "gpt", 2, true, 0, 0⟩]
  suppliers := []
  channelsIDM := ⟨[channelOf 1 [] [], { channelOf 2 [] [] with channelNo := "c2" }], by decide⟩
  group2model2channels := [(("default", "gpt"), [1]), (("vip", "gpt"), [2])]
  stored := by decide
  cached := by decide
  able := by decide
  listed := by decide

def noRouter : Router := ⟨false, fun _ _ => .ok []⟩

theorem noRouter_onlyCandidates : noRouter.OnlyCandidates := by
  intro candidates model order selected id member
  cases selected
  cases member

def chatFor (model : String) : Incoming where
  modelRequest := .ok { model }
  shouldSelectChannel := true
  isPlayground := false
  playgroundGroup := .ok ""
  tokenSpecificChannelId := none
  tokenModelLimit := none
  usingGroup := "default"
  ctx := {}
  request := chatRequest
  settings := oneRetry
  translate := fun key _ => key
  rewriteBody := fun _ => .ok ()
  groupInUserUsableGroups := fun _ _ => false
  preferredByAffinity := fun _ _ => none
  skipRetryAfterAffinityFailure := false
  draw := fun _ => 0
  selecting := { affinity := fun fields => fields, nextKey := fun _ => .ok ("key", 0) }

def Incoming.outcome (incoming : Incoming) (store : ChannelStore) : Option (Int × String × String) :=
  match incoming.distribute store noRouter with
  | .ok ⟨some channel, keys⟩ => some (channel.id, keys.usingGroup, keys.model)
  | _ => none

def plainResult : Distributed where
  channel := some (channelOf 1 [] [])
  keys := {
    model := "gpt"
    usingGroup := "default"
    ctx := (setupContextForSelectedChannel (chatFor "gpt").selecting {} (channelOf 1 [] []) "gpt").2 }

theorem distributed_channel_enabled_plain :
    (chatFor "gpt").distribute twoGroups noRouter = .ok plainResult ∧
      twoGroups.isChannelEnabledForGroupModel "default" "gpt" 1 = true := by
  have distributed : (chatFor "gpt").distribute twoGroups noRouter = .ok plainResult := rfl
  have nameless : ∀ channel model, (chatFor "gpt").Names twoGroups channel model →
      twoGroups.Permits "default" model channel := by
    intro channel model named
    cases named with
    | body read => cases read
    | route read routed forced =>
      cases read
      cases routed
      cases forced
  have permits := (distributed_channel_enabled_iff (chatFor "gpt") twoGroups noRouter
    noRouter_onlyCandidates).mpr nameless
  exact ⟨distributed, permits plainResult (channelOf 1 [] []) distributed rfl (by decide) (by decide)⟩

/-- The same user names the channel of the other group in the model name. -/
theorem distributed_channel_of_other_group :
    (chatFor "P0/gpt/c2").outcome twoGroups = some (2, "default", "gpt") ∧
      twoGroups.isChannelEnabledForGroupModel "default" "gpt" 2 = false ∧
      twoGroups.isChannelEnabledForGroupModel "vip" "gpt" 2 = true := by
  decide +kernel

end TokenFactory.Distributor
