import TokenFactory.Relay.Mapping

namespace TokenFactory.Relay

open Data Go

/-! One channel after the other on the same context. -/

structure ChannelSetup where
  channel : Channel
  selecting : Selecting
  calls : MappingCalls

def Context.after (ctx : Context) (setup : ChannelSetup) (modelName : String) : Context :=
  (setupContextForSelectedChannel setup.selecting ctx setup.channel modelName).2

structure SetupState where
  ctx : Context
  info : RelayInfo
  mapped : Except String Unit := .ok ()

def SetupState.step (state : SetupState) (setup : ChannelSetup) : SetupState :=
  let ctx := state.ctx.after setup state.info.originModelName
  let outcome := modelMappedHelper setup.calls ctx (state.info.initChannelMeta ctx)
  ⟨ctx, outcome.2, outcome.1⟩

structure ChannelView where
  organization : String
  apiVersion : String
  paramOverride : Fields
  headersOverride : Fields
  upstreamModelName : String
  isModelMapped : Bool
  upstreamRoute : String
  routeApplied : Bool
  mapped : Except String Unit

def SetupState.view (state : SetupState) : Option ChannelView :=
  state.info.channelMeta.map fun channelMeta => {
    organization := channelMeta.organization
    apiVersion := channelMeta.apiVersion
    paramOverride := channelMeta.paramOverride
    headersOverride := channelMeta.headersOverride
    upstreamModelName := channelMeta.upstreamModelName
    isModelMapped := channelMeta.isModelMapped
    upstreamRoute := state.ctx.tfOpenUpstreamChannelRoute
    routeApplied := state.info.tfOpenUpstreamRouteApplied
    mapped := state.mapped }

namespace ChannelSetup

variable (setup : ChannelSetup)

def hasKey : Bool := (setup.selecting.nextKey setup.channel).toBool

def writesOrganization : Prop := setup.channel.organization ≠ ""

def writesApiVersion : Prop :=
  setup.hasKey ∧ setup.channel.type ∈ [ChannelType.azure, ChannelType.xunfei, ChannelType.gemini,
    ChannelType.cloudflare, ChannelType.mokaAI]

def writesRegion : Prop := setup.hasKey ∧ setup.channel.type = ChannelType.vertexAi

def writesRoute (channelNoOverride : String) : Prop :=
  setup.hasKey ∧ (upstreamRoute? setup.selecting channelNoOverride setup.channel).isSome

/-- The api version comes from the region of a Vertex channel, and may come from the
query of a request to Azure. -/
def readsApiVersion (queryApiVersion : String) : Prop :=
  setup.channel.type ≠ ChannelType.vertexAi ∧
    (setup.channel.type = ChannelType.azure → queryApiVersion = "")

instance : Decidable setup.writesOrganization := inferInstanceAs (Decidable (_ ≠ _))
instance : Decidable setup.writesApiVersion := inferInstanceAs (Decidable (_ ∧ _))
instance : Decidable setup.writesRegion := inferInstanceAs (Decidable (_ ∧ _))
instance (channelNoOverride : String) : Decidable (setup.writesRoute channelNoOverride) :=
  inferInstanceAs (Decidable (_ ∧ _))
instance (queryApiVersion : String) : Decidable (setup.readsApiVersion queryApiVersion) :=
  inferInstanceAs (Decidable (_ ∧ _))

end ChannelSetup

/-- The keys that every channel writes, and those that no channel writes. -/
structure WrittenBy (ctx : Context) (setup : ChannelSetup) (modelName : String) (after : Context) : Prop where
  originalModel : after.originalModel = modelName
  channelType : after.channelType = setup.channel.type
  paramOverride : after.paramOverride = setup.selecting.affinity setup.channel.paramOverride
  headerOverride : after.headerOverride = setup.channel.headerOverride
  modelMapping : after.modelMapping = setup.channel.modelMapping
  queryApiVersion : after.queryApiVersion = ctx.queryApiVersion
  channelNoOverride : after.tfOpenUpstreamChannelNoOverride = ctx.tfOpenUpstreamChannelNoOverride
  organization : after.organization =
    if setup.writesOrganization then setup.channel.organization else ctx.organization
  apiVersion : after.apiVersion = if setup.writesApiVersion then setup.channel.other else ctx.apiVersion
  region : after.region = if setup.writesRegion then setup.channel.other else ctx.region
  route : after.tfOpenUpstreamChannelRoute =
    if setup.writesRoute ctx.tfOpenUpstreamChannelNoOverride then
      (upstreamRoute? setup.selecting ctx.tfOpenUpstreamChannelNoOverride setup.channel).getD ""
    else ctx.tfOpenUpstreamChannelRoute

theorem writtenBy_after (ctx : Context) (setup : ChannelSetup) (modelName : String) :
    WrittenBy ctx setup modelName (ctx.after setup modelName) := by
  unfold Context.after setupContextForSelectedChannel
  cases key : setup.selecting.nextKey setup.channel with
  | error reason =>
    have without : ¬ setup.hasKey = true := by simp [ChannelSetup.hasKey, key, Except.toBool]
    exact {
      originalModel := rfl
      channelType := rfl
      paramOverride := rfl
      headerOverride := rfl
      modelMapping := rfl
      queryApiVersion := rfl
      channelNoOverride := rfl
      organization := rfl
      apiVersion := (if_neg fun written => without written.1).symm
      region := (if_neg fun written => without written.1).symm
      route := (if_neg fun written => without written.1).symm }
  | ok next =>
    have given : setup.hasKey = true := by simp [ChannelSetup.hasKey, key, Except.toBool]
    simp only [Context.setUpstreamRoute_eq, Context.setOther_eq]
    exact {
      originalModel := rfl
      channelType := rfl
      paramOverride := rfl
      headerOverride := rfl
      modelMapping := rfl
      queryApiVersion := rfl
      channelNoOverride := rfl
      organization := rfl
      apiVersion := by simp only [ChannelSetup.writesApiVersion, given, true_and]
      region := by simp only [ChannelSetup.writesRegion, given, true_and]
      route := by
        simp only [ChannelSetup.writesRoute, given, true_and]
        cases upstreamRoute? setup.selecting ctx.tfOpenUpstreamChannelNoOverride setup.channel with
        | none => rfl
        | some route => rfl }

/-- The view, as it comes from the context of a channel and from the request. -/
def Context.viewFor (ctx : Context) (calls : MappingCalls) (originModelName : String)
    (relayMode : RelayMode) : ChannelView :=
  let unmapped : ModelNames := { originModelName, upstreamModelName := ctx.originalModel }
  let names := mapModelNames calls (ctx.mappingInput relayMode) unmapped
  let settled := names.toOption.getD unmapped
  { organization := ctx.organization
    apiVersion := ctx.channelMeta.apiVersion
    paramOverride := ctx.paramOverride
    headersOverride := ctx.headerOverride
    upstreamModelName := settled.upstreamModelName
    isModelMapped := settled.isModelMapped
    upstreamRoute := ctx.tfOpenUpstreamChannelRoute
    routeApplied := settled.routeApplied
    mapped := names.map fun _ => () }

theorem step_view (state : SetupState) (setup : ChannelSetup) :
    (state.step setup).view = some ((state.ctx.after setup state.info.originModelName).viewFor setup.calls
      state.info.originModelName state.info.relayMode) := by
  unfold SetupState.step modelMappedHelper Context.viewFor
  generalize state.ctx.after setup state.info.originModelName = ctx
  have names : (state.info.initChannelMeta ctx).modelNames =
      { originModelName := state.info.originModelName, upstreamModelName := ctx.originalModel } := rfl
  have mode : (state.info.initChannelMeta ctx).relayMode = state.info.relayMode := rfl
  simp only [names, mode]
  cases mapModelNames setup.calls (ctx.mappingInput state.info.relayMode)
      { originModelName := state.info.originModelName, upstreamModelName := ctx.originalModel } with
  | error reason => rfl
  | ok names => rfl

section
variable {first second : Context} {setup : ChannelSetup}

theorem after_apiVersion_congr (modelName : String)
    (query : first.queryApiVersion = second.queryApiVersion)
    (apiVersion : setup.readsApiVersion second.queryApiVersion →
      setup.writesApiVersion ∨ first.apiVersion = second.apiVersion)
    (region : setup.channel.type = ChannelType.vertexAi → setup.writesRegion ∨ first.region = second.region) :
    (first.after setup modelName).channelMeta.apiVersion =
      (second.after setup modelName).channelMeta.apiVersion := by
  have one := writtenBy_after first setup modelName
  have two := writtenBy_after second setup modelName
  simp only [Context.channelMeta, Context.getAPIVersion, one.channelType, two.channelType,
    one.queryApiVersion, two.queryApiVersion, one.apiVersion, two.apiVersion, one.region, two.region, query]
  by_cases vertex : setup.channel.type = ChannelType.vertexAi
  · have other : ¬ ChannelType.vertexAi = ChannelType.azure := by decide
    simp only [vertex, other, ↓reduceIte]
    rcases region vertex with written | same
    · simp only [written, ↓reduceIte]
    · rw [same]
  by_cases queried : setup.channel.type = ChannelType.azure ∧ second.queryApiVersion ≠ ""
  · simp only [queried.1, queried.2, ↓reduceIte]
  have reads : setup.readsApiVersion second.queryApiVersion :=
    ⟨vertex, fun azure => not_not.mp fun given => queried ⟨azure, given⟩⟩
  simp only [vertex, ↓reduceIte]
  rcases apiVersion reads with written | same
  · simp only [written, ↓reduceIte]
  · rw [same]

/-- Two contexts give a channel the same view if it writes each key itself or finds the
same value there. -/
theorem viewFor_congr (modelName : String) (relayMode : RelayMode)
    (query : first.queryApiVersion = second.queryApiVersion)
    (override : first.tfOpenUpstreamChannelNoOverride = second.tfOpenUpstreamChannelNoOverride)
    (organization : setup.writesOrganization ∨ first.organization = second.organization)
    (apiVersion : setup.readsApiVersion second.queryApiVersion →
      setup.writesApiVersion ∨ first.apiVersion = second.apiVersion)
    (region : setup.channel.type = ChannelType.vertexAi → setup.writesRegion ∨ first.region = second.region)
    (route : setup.writesRoute second.tfOpenUpstreamChannelNoOverride ∨
      first.tfOpenUpstreamChannelRoute = second.tfOpenUpstreamChannelRoute) :
    (first.after setup modelName).viewFor setup.calls modelName relayMode =
      (second.after setup modelName).viewFor setup.calls modelName relayMode := by
  have one := writtenBy_after first setup modelName
  have two := writtenBy_after second setup modelName
  have sameOrganization : (first.after setup modelName).organization =
      (second.after setup modelName).organization := by
    rw [one.organization, two.organization]
    rcases organization with written | same
    · simp only [written, ↓reduceIte]
    · rw [same]
  have sameRoute : (first.after setup modelName).tfOpenUpstreamChannelRoute =
      (second.after setup modelName).tfOpenUpstreamChannelRoute := by
    rw [one.route, two.route, override]
    rcases route with written | same
    · simp only [written, ↓reduceIte]
    · rw [same]
  have sameInput : (first.after setup modelName).mappingInput relayMode =
      (second.after setup modelName).mappingInput relayMode := by
    simp only [Context.mappingInput, one.channelType, two.channelType, one.modelMapping, two.modelMapping,
      sameRoute]
  simp only [Context.viewFor, sameOrganization, after_apiVersion_congr modelName query apiVersion region,
    sameRoute, sameInput, one.originalModel, two.originalModel, one.paramOverride, two.paramOverride,
    one.headerOverride, two.headerOverride]

end

theorem step_relayMode (state : SetupState) (setup : ChannelSetup) :
    (state.step setup).info.relayMode = state.info.relayMode := by
  unfold SetupState.step modelMappedHelper
  dsimp only
  split <;> rfl

theorem step_originModelName {state : SetupState} (setup : ChannelSetup)
    (plain : state.info.relayMode ≠ .responsesCompact) :
    (state.step setup).info.originModelName = state.info.originModelName := by
  unfold SetupState.step modelMappedHelper
  dsimp only
  split
  · rfl
  case h_2 names succeeded =>
    exact mapModelNames_originModelName (decide_eq_false plain) succeeded

variable {start : SetupState} {earlier : List ChannelSetup}

theorem run_originModelName (plain : start.info.relayMode ≠ .responsesCompact) :
    (run SetupState.step start earlier).info.originModelName = start.info.originModelName := by
  induction earlier generalizing start with
  | nil => rfl
  | cons setup rest ih =>
    have later : (start.step setup).info.relayMode ≠ .responsesCompact := by
      rw [step_relayMode]
      exact plain
    exact (ih later).trans (step_originModelName setup plain)

/-- The keys of the request, which no channel writes. -/
structure SameRequest (start state : SetupState) : Prop where
  relayMode : state.info.relayMode = start.info.relayMode
  queryApiVersion : state.ctx.queryApiVersion = start.ctx.queryApiVersion
  channelNoOverride : state.ctx.tfOpenUpstreamChannelNoOverride = start.ctx.tfOpenUpstreamChannelNoOverride

theorem SameRequest.step {state : SetupState} (same : SameRequest start state) (setup : ChannelSetup) :
    SameRequest start (state.step setup) where
  relayMode := (step_relayMode state setup).trans same.relayMode
  queryApiVersion := (writtenBy_after state.ctx setup _).queryApiVersion.trans same.queryApiVersion
  channelNoOverride := (writtenBy_after state.ctx setup _).channelNoOverride.trans same.channelNoOverride

theorem run_sameRequest (start : SetupState) (earlier : List ChannelSetup) :
    SameRequest start (run SetupState.step start earlier) :=
  run_invariant (fun _ setup same => same.step setup) ⟨rfl, rfl, rfl⟩ earlier

theorem run_organization (unwritten : ∀ setup ∈ earlier, ¬ setup.writesOrganization) :
    (run SetupState.step start earlier).ctx.organization = start.ctx.organization :=
  run_keeps (fun state : SetupState => state.ctx.organization)
    (fun state setup silent => (writtenBy_after state.ctx setup _).organization.trans (if_neg silent)) unwritten

theorem run_apiVersion (unwritten : ∀ setup ∈ earlier, ¬ setup.writesApiVersion) :
    (run SetupState.step start earlier).ctx.apiVersion = start.ctx.apiVersion :=
  run_keeps (fun state : SetupState => state.ctx.apiVersion)
    (fun state setup silent => (writtenBy_after state.ctx setup _).apiVersion.trans (if_neg silent)) unwritten

theorem run_region (unwritten : ∀ setup ∈ earlier, ¬ setup.writesRegion) :
    (run SetupState.step start earlier).ctx.region = start.ctx.region :=
  run_keeps (fun state : SetupState => state.ctx.region)
    (fun state setup silent => (writtenBy_after state.ctx setup _).region.trans (if_neg silent)) unwritten

theorem run_route
    (unwritten : ∀ setup ∈ earlier, ¬ setup.writesRoute start.ctx.tfOpenUpstreamChannelNoOverride) :
    (run SetupState.step start earlier).ctx.tfOpenUpstreamChannelRoute =
      start.ctx.tfOpenUpstreamChannelRoute := by
  induction earlier generalizing start with
  | nil => rfl
  | cons setup rest ih =>
    have written := writtenBy_after start.ctx setup start.info.originModelName
    -- The override is a key of the request: the rest of the run meets the same one.
    have later : ∀ other ∈ rest,
        ¬ other.writesRoute (start.step setup).ctx.tfOpenUpstreamChannelNoOverride := by
      intro other member
      rw [show (start.step setup).ctx.tfOpenUpstreamChannelNoOverride = _ from written.channelNoOverride]
      exact unwritten other (.tail _ member)
    exact (ih later).trans (written.route.trans (if_neg (unwritten setup (.head _))))

/-- No channel before the last one leaves a key behind that the last one reads and does
not write, and a compact request still has its own name. -/
structure Isolated (start : SetupState) (earlier : List ChannelSetup) (last : ChannelSetup) : Prop where
  organization : last.writesOrganization ∨ ∀ setup ∈ earlier, ¬ setup.writesOrganization
  apiVersion : last.readsApiVersion start.ctx.queryApiVersion →
    last.writesApiVersion ∨ ∀ setup ∈ earlier, ¬ setup.writesApiVersion
  region : last.channel.type = ChannelType.vertexAi →
    last.writesRegion ∨ ∀ setup ∈ earlier, ¬ setup.writesRegion
  route : last.writesRoute start.ctx.tfOpenUpstreamChannelNoOverride ∨
    ∀ setup ∈ earlier, ¬ setup.writesRoute start.ctx.tfOpenUpstreamChannelNoOverride
  name : start.info.relayMode = .responsesCompact →
    (run SetupState.step start earlier).info.originModelName = start.info.originModelName

/-- The handler of the last channel sees what it would see if that channel had been set
up alone. -/
theorem channel_setup_isolated {last : ChannelSetup} (isolated : Isolated start earlier last) :
    ((run SetupState.step start earlier).step last).view = (start.step last).view := by
  have request := run_sameRequest start earlier
  have name : (run SetupState.step start earlier).info.originModelName = start.info.originModelName := by
    by_cases compact : start.info.relayMode = .responsesCompact
    · exact isolated.name compact
    · exact run_originModelName compact
  rw [step_view, step_view, name, request.relayMode]
  refine congrArg some (viewFor_congr _ _ request.queryApiVersion request.channelNoOverride ?_ ?_ ?_ ?_)
  · exact isolated.organization.imp_right run_organization
  · exact fun reads => (isolated.apiVersion reads).imp_right run_apiVersion
  · exact fun vertex => (isolated.region vertex).imp_right run_region
  · exact isolated.route.imp_right run_route

def freshChat : SetupState := ⟨{}, chatInfo, .ok ()⟩

def setupOf (channel : Channel) : ChannelSetup where
  channel
  selecting := (routingTo channel).selecting
  calls := { unmarshal := fun _ => none, resolve := fun _ _ => 0 }

def organizationChannel (id : Int) (organization : String) : Channel :=
  { channelOf id [] [] with organization }

def synchronisedChannel : Channel :=
  { channelOf 1 [] [] with
    organization := "org-a"
    otherInfo := [("source", .string "tokenfactory_open"), ("upstream_route_slug", .string "Ab3x")] }

theorem channel_setup_isolated_organizations :
    Isolated freshChat [setupOf (organizationChannel 1 "org-a")] (setupOf (organizationChannel 2 "org-b")) ∧
      ((run SetupState.step freshChat [setupOf (organizationChannel 1 "org-a")]).step
        (setupOf (organizationChannel 2 "org-b"))).view =
          (freshChat.step (setupOf (organizationChannel 2 "org-b"))).view := by
  have isolated : Isolated freshChat [setupOf (organizationChannel 1 "org-a")]
      (setupOf (organizationChannel 2 "org-b")) := {
    organization := .inl (by decide)
    apiVersion := fun _ => .inr (by decide)
    region := fun vertex => absurd vertex (by decide)
    route := .inr (by decide)
    name := fun compact => absurd compact (by decide) }
  exact ⟨isolated, channel_setup_isolated isolated⟩

def ChannelView.routed (view : ChannelView) : String × String × String :=
  (view.organization, view.upstreamModelName, view.upstreamRoute)

/-- The second channel has no organization and no route of its own. It inherits both: the
model goes to it under the name that only the first channel's platform knows. -/
theorem channel_setup_inherits :
    ((run SetupState.step freshChat [setupOf synchronisedChannel]).step (setupOf (channelOf 2 [] []))).view ≠
        (freshChat.step (setupOf (channelOf 2 [] []))).view ∧
      ((run SetupState.step freshChat [setupOf synchronisedChannel]).step
        (setupOf (channelOf 2 [] []))).view.map ChannelView.routed = some ("org-a", "gpt/Ab3x", "Ab3x") ∧
      (freshChat.step (setupOf (channelOf 2 [] []))).view.map ChannelView.routed = some ("", "gpt", "") := by
  have inherited : ((run SetupState.step freshChat [setupOf synchronisedChannel]).step
      (setupOf (channelOf 2 [] []))).view.map ChannelView.routed = some ("org-a", "gpt/Ab3x", "Ab3x") := by
    decide +kernel
  have alone : (freshChat.step (setupOf (channelOf 2 [] []))).view.map ChannelView.routed =
      some ("", "gpt", "") := by
    decide +kernel
  refine ⟨fun same => ?_, inherited, alone⟩
  rw [same, alone] at inherited
  exact absurd inherited (by decide)

end TokenFactory.Relay
