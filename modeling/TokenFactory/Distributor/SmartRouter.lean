import TokenFactory.Distributor.Channels
import TokenFactory.Relay.Selection

namespace TokenFactory.Distributor

open Data Go Relay

/-! Channels in the order of the router.

The router is another program. It gets the candidates of a group and model and answers
with an order of channel ids. -/

/-- What the request says about providers, models and tools is fixed with the router. -/
structure Router where
  smartRouterEnabled : Bool
  selectProviders : List Channel → String → Except String (List Int)

def Router.OnlyCandidates (router : Router) : Prop :=
  ∀ candidates model order, router.selectProviders candidates model = .ok order →
    ∀ id ∈ order, ∃ channel ∈ candidates, channel.id = id

/-- A channel that was chosen, its group, and the order that retries follow. -/
structure RouteChoice where
  channel : Channel
  selectGroup : String
  order : List Int
deriving DecidableEq

namespace ChannelStore

variable (store : ChannelStore) (router : Router)

def buildRouterCandidatesFiltered (wanted : Channel → Bool) (group model : String) : List Channel :=
  (store.listChannelIDsForGroupModel group model).filterMap fun id =>
    (store.cacheGetChannel id).filter fun channel =>
      channel.enabled && store.isChannelEnabledForGroupModel group model channel.id && wanted channel

def enabledChannel (id : Int) : Option Channel := (store.cacheGetChannel id).filter Channel.enabled

def resolveSmartRouteGroup (usingGroup : String) (autoGroups : List String) (model : String) : String :=
  if usingGroup ≠ "auto" then usingGroup
  else (autoGroups.find? fun group => store.listChannelIDsForGroupModel group model ≠ []).getD ""

/-- The order is kept for retries even when its first channel cannot be used. -/
def trySmartRouteChannel (usingGroup : String) (autoGroups : List String) (model : String) :
    Option RouteChoice × List Int :=
  let selectGroup := store.resolveSmartRouteGroup usingGroup autoGroups model
  let candidates := store.buildRouterCandidatesFiltered (fun _ => true) selectGroup model
  if ¬ router.smartRouterEnabled ∨ selectGroup = "" ∨ candidates = [] then (none, [])
  else
    match router.selectProviders candidates model with
    | .error _ | .ok [] => (none, [])
    | .ok (firstId :: rest) =>
      ((store.enabledChannel firstId).map fun channel => ⟨channel, selectGroup, firstId :: rest⟩,
        firstId :: rest)

def suppliedBy (supplierApplicationId : Int) (channel : Channel) : Bool :=
  channel.supplierApplicationId = supplierApplicationId

/-- The order of the candidates of one supplier; the router's own order if it gives one. -/
def supplierOrder (candidates : List Channel) (model : String) : List Int :=
  if router.smartRouterEnabled then
    match router.selectProviders candidates model with
    | .error _ | .ok [] => candidates.map Channel.id
    | .ok (firstId :: rest) => firstId :: rest
  else candidates.map Channel.id

def trySupplierRouteChannel (usingGroup : String) (autoGroups : List String) (model : String)
    (supplierApplicationId : Int) : Option RouteChoice :=
  let candidatesOf group := store.buildRouterCandidatesFiltered (suppliedBy supplierApplicationId) group model
  let selectGroup? :=
    if usingGroup = "auto" then autoGroups.find? fun group => candidatesOf group ≠ [] else some usingGroup
  match selectGroup? with
  | none => none
  | some selectGroup =>
    if candidatesOf selectGroup = [] then none
    else
      let order := supplierOrder router (candidatesOf selectGroup) model
      (order.findSome? store.enabledChannel).map fun channel => ⟨channel, selectGroup, order⟩

section
variable {store : ChannelStore} {router : Router} {wanted : Channel → Bool} {group model : String}
  {channel : Channel} {choice : RouteChoice} {usingGroup : String} {autoGroups : List String}

theorem mem_buildRouterCandidatesFiltered
    (member : channel ∈ store.buildRouterCandidatesFiltered wanted group model) :
    store.cacheGetChannel channel.id = some channel ∧ channel.enabled = true ∧
      store.isChannelEnabledForGroupModel group model channel.id = true ∧ wanted channel = true := by
  obtain ⟨id, -, kept⟩ := List.mem_filterMap.mp member
  obtain ⟨found, passed⟩ := Option.filter_eq_some_iff.mp kept
  simp only [Bool.and_eq_true] at passed
  rw [cacheGetChannel_id found]
  exact ⟨found, passed.1.1, cacheGetChannel_id found ▸ passed.1.2, passed.2⟩

theorem enabledChannel_eq_some {id : Int} (found : store.enabledChannel id = some channel) :
    store.cacheGetChannel id = some channel ∧ channel.id = id ∧ channel.enabled = true := by
  obtain ⟨cached, enabled⟩ := Option.filter_eq_some_iff.mp found
  exact ⟨cached, cacheGetChannel_id cached, enabled⟩

theorem resolveSmartRouteGroup_grants
    (grouped : store.resolveSmartRouteGroup usingGroup autoGroups model ≠ "") :
    Grants usingGroup autoGroups (store.resolveSmartRouteGroup usingGroup autoGroups model) := by
  unfold resolveSmartRouteGroup at grouped ⊢
  unfold Grants
  by_cases auto : usingGroup = "auto"
  · simp only [auto, ne_eq, not_true_eq_false, ↓reduceIte] at grouped ⊢
    cases found : autoGroups.find? fun group => decide (¬ store.listChannelIDsForGroupModel group model = []) with
    | none =>
      rw [found] at grouped
      exact absurd rfl grouped
    | some group => exact List.mem_of_find?_eq_some found
  · simp only [auto, ne_eq, not_false_eq_true, ↓reduceIte]

theorem trySmartRouteChannel_enabled (only : router.OnlyCandidates)
    (routed : (store.trySmartRouteChannel router usingGroup autoGroups model).1 = some choice) :
    Grants usingGroup autoGroups choice.selectGroup ∧
      store.isChannelEnabledForGroupModel choice.selectGroup model choice.channel.id = true := by
  unfold trySmartRouteChannel at routed
  dsimp only at routed
  split at routed
  · cases routed
  case isFalse ready =>
    split at routed
    · cases routed
    · cases routed
    case h_3 firstId rest selected =>
      obtain ⟨channel, found, rfl⟩ := Option.map_eq_some_iff.mp routed
      obtain ⟨candidate, member, same⟩ := only _ _ _ selected firstId (.head _)
      refine ⟨resolveSmartRouteGroup_grants fun empty => ready (.inr (.inl empty)), ?_⟩
      rw [(enabledChannel_eq_some found).2.1, ← same]
      exact (mem_buildRouterCandidatesFiltered member).2.2.1

theorem supplierOrder_mem {candidates : List Channel} {id : Int} (only : router.OnlyCandidates)
    (member : id ∈ supplierOrder router candidates model) : ∃ channel ∈ candidates, channel.id = id := by
  unfold supplierOrder at member
  split at member
  · split at member
    · exact List.mem_map.mp member
    · exact List.mem_map.mp member
    case h_3 firstId rest selected => exact only _ _ _ selected id member
  · exact List.mem_map.mp member

/-- What a supplier route leaves behind: every id that a retry may follow is the one of
a channel of the supplier. -/
structure SupplierRouted (store : ChannelStore) (model : String) (supplierApplicationId : Int)
    (choice : RouteChoice) : Prop where
  chosen : choice.channel.id ∈ choice.order
  cached : ∀ id ∈ choice.order, ∃ channel, store.cacheGetChannel id = some channel ∧
    channel.supplierApplicationId = supplierApplicationId ∧
      store.isChannelEnabledForGroupModel choice.selectGroup model id = true

theorem trySupplierRouteChannel_routed {supplierApplicationId : Int} (only : router.OnlyCandidates)
    (routed : store.trySupplierRouteChannel router usingGroup autoGroups model supplierApplicationId =
      some choice) : Grants usingGroup autoGroups choice.selectGroup ∧
      SupplierRouted store model supplierApplicationId choice := by
  unfold trySupplierRouteChannel at routed
  dsimp only at routed
  split at routed
  · cases routed
  case h_2 selectGroup grouped =>
    split at routed
    · cases routed
    obtain ⟨channel, found, rfl⟩ := Option.map_eq_some_iff.mp routed
    obtain ⟨id, member, enabled⟩ := List.exists_of_findSome?_eq_some found
    refine ⟨?_, (enabledChannel_eq_some enabled).2.1 ▸ member, ?_⟩
    · unfold Grants
      split at grouped
      case isTrue auto =>
        rw [if_pos auto]
        exact List.mem_of_find?_eq_some grouped
      case isFalse explicit =>
        rw [if_neg explicit]
        exact (Option.some.inj grouped).symm
    · intro other listed
      obtain ⟨candidate, among, rfl⟩ := supplierOrder_mem only listed
      obtain ⟨cached, -, allowed, supplied⟩ := mem_buildRouterCandidatesFiltered among
      exact ⟨candidate, cached, of_decide_eq_true supplied, allowed⟩

end

end ChannelStore

end TokenFactory.Distributor
