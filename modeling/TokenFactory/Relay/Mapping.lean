import TokenFactory.Relay.Attempts

namespace TokenFactory.Relay

open Go

/-! `ModelMappedHelper`: the model name that an attempt sends upstream.

The helper follows the model mapping of the channel, renames a compact request, and
writes the route of a synchronised channel into the name. -/

/-- What the helper calls: `json.Unmarshal` into a map of strings, and
`ResolveChannelIDByRouteSlugAndModel`. -/
structure MappingCalls where
  unmarshal : String → Option (List (String × String))
  resolve : String → String → Int

/-- How a chain of redirections ends. `itself` is the request's own name that maps to
itself, for which the helper returns at once. -/
inductive Redirection where
  | ended (modelName : String) (isModelMapped : Bool)
  | itself
  | cycle
  | exhausted
deriving DecidableEq

def followMapping (modelMap : List (String × String)) (originModelName : String) :
    Nat → List String → String → Bool → Redirection
  | 0, _, _, _ => .exhausted
  | fuel + 1, visited, current, isModelMapped =>
    match modelMap.lookup current with
    | none => .ended current isModelMapped
    | some mapped =>
      if mapped = "" then .ended current isModelMapped
      else if mapped ∈ visited then
        if mapped = current then
          if current = originModelName then .itself else .ended current true
        else .cycle
      else followMapping modelMap originModelName fuel (mapped :: visited) mapped true

/-- Each round leaves a key of the mapping behind and comes to a new name. -/
theorem followMapping_ends {modelMap : List (String × String)} {origin current : String} {past : List String}
    {isModelMapped : Bool} {fuel : Nat} (distinct : (current :: past).Nodup) (keys : past ⊆ modelMap.map Prod.fst)
    (enough : modelMap.length < past.length + fuel) :
    followMapping modelMap origin fuel (current :: past) current isModelMapped ≠ .exhausted := by
  induction fuel generalizing current past isModelMapped with
  | zero =>
    have few := (List.subperm_of_subset distinct.of_cons keys).length_le
    rw [List.length_map] at few
    omega
  | succ fuel ih =>
    rw [followMapping]
    cases found : modelMap.lookup current with
    | none => simp
    | some target =>
      have key : current ∈ modelMap.map Prod.fst := by
        obtain ⟨before, after, rfl, _⟩ := List.lookup_eq_some_iff.mp found
        simp
      dsimp only
      split_ifs with blank visited
      any_goals simp
      exact ih (List.nodup_cons.mpr ⟨visited, distinct⟩) (List.cons_subset.mpr ⟨key, keys⟩)
        (by rw [List.length_cons]; omega)

/-- The rounds of `redirectModel` are enough. -/
theorem followMapping_enough (modelMap : List (String × String)) (origin current : String) (isModelMapped : Bool) :
    followMapping modelMap origin (modelMap.length + 1) [current] current isModelMapped ≠ .exhausted :=
  followMapping_ends (List.nodup_singleton current) (List.nil_subset _) (by simp)

structure ModelNames where
  originModelName : String
  upstreamModelName : String
  isModelMapped : Bool := false
  routeApplied : Bool := false
deriving DecidableEq

structure MappingInput where
  channelType : Int
  modelMapping : String
  upstreamRoute : String
  isResponsesCompact : Bool
deriving DecidableEq

def MappingInput.isTFOpenUpstream (input : MappingInput) : Bool :=
  input.channelType = ChannelType.tokenFactoryOpen

/-- A compact request is mapped under its name without the suffix. -/
def MappingInput.mappingModelName (input : MappingInput) (originModelName : String) : String :=
  if input.isResponsesCompact then trimSuffix originModelName compactModelSuffix else originModelName

/-- The redirection by the mapping of the channel; `false` means that the helper returns. -/
def redirectModel (calls : MappingCalls) (input : MappingInput) (names : ModelNames) :
    Except String (ModelNames × Bool) :=
  if input.modelMapping = "" ∨ input.modelMapping = "\x7b\x7d" ∨ input.isTFOpenUpstream then .ok (names, true)
  else
    match calls.unmarshal input.modelMapping with
    | none => .error "unmarshal_model_mapping_failed"
    | some modelMap =>
      let mappingModelName := input.mappingModelName names.originModelName
      let current := (routeBase? calls.resolve mappingModelName).getD mappingModelName
      match followMapping modelMap names.originModelName (modelMap.length + 1) [current] current
          names.isModelMapped with
      | .exhausted | .cycle => .error "model_mapping_contains_cycle"
      | .itself => .ok ({ names with isModelMapped := false }, false)
      | .ended modelName isModelMapped =>
        .ok ({ names with
          isModelMapped
          upstreamModelName := if isModelMapped then modelName else names.upstreamModelName }, true)

/-- A compact request takes the name it was mapped to as its own. -/
def renameCompact (input : MappingInput) (names : ModelNames) : ModelNames :=
  if input.isResponsesCompact then
    let upstreamModelName :=
      if names.isModelMapped ∧ names.upstreamModelName ≠ "" then names.upstreamModelName
      else input.mappingModelName names.originModelName
    { names with upstreamModelName, originModelName := withCompactModelSuffix upstreamModelName }
  else names

/-- The alias and the channel number of `legacy|alias|channel_no`. -/
def splitLegacyRoute (route : String) : Option (String × String) :=
  let rest := route.toList.drop "legacy|".length
  match rest.dropWhile (· ≠ '|') with
  | [] => none
  | _ :: channelNo =>
    let supplierAlias := rest.takeWhile (· ≠ '|')
    if supplierAlias ≠ [] ∧ channelNo ≠ [] then some (String.ofList supplierAlias, String.ofList channelNo)
    else none

/-- The model goes upstream under the request's own name, not under the mapped one. -/
def applyUpstreamRoute (input : MappingInput) (names : ModelNames) : ModelNames :=
  let modelForUpstream := input.mappingModelName names.originModelName
  let routed upstreamModelName := { names with upstreamModelName, isModelMapped := false, routeApplied := true }
  if input.upstreamRoute = "" then names
  else if hasPrefix input.upstreamRoute "legacy|" then
    match splitLegacyRoute input.upstreamRoute with
    | none => names
    | some (supplierAlias, channelNo) =>
      routed (supplierAlias ++ "/" ++ modelForUpstream ++ "/" ++ channelNo)
  else if trimSpace input.upstreamRoute ≠ "" then
    routed (modelForUpstream ++ "/" ++ trimSpace input.upstreamRoute)
  else names

/-- A route slug that nothing has used is cut off the name. -/
def stripUnusedRoute (calls : MappingCalls) (input : MappingInput) (mappingModelName : String)
    (names : ModelNames) : ModelNames :=
  if input.isTFOpenUpstream ∨ names.routeApplied ∨ names.isModelMapped then names
  else
    let upstream :=
      if trimSpace names.upstreamModelName = "" then trimSpace mappingModelName
      else trimSpace names.upstreamModelName
    match routeBase? calls.resolve upstream with
    | none => names
    | some base => { names with upstreamModelName := base }

def mapModelNames (calls : MappingCalls) (input : MappingInput) (names : ModelNames) :
    Except String ModelNames :=
  match redirectModel calls input names with
  | .error reason => .error reason
  | .ok (names, false) => .ok names
  | .ok (redirected, true) =>
    .ok (stripUnusedRoute calls input (input.mappingModelName names.originModelName)
      (applyUpstreamRoute input (renameCompact input redirected)))

section
variable {calls : MappingCalls} {input : MappingInput} {names : ModelNames}

theorem redirectModel_originModelName {redirected : ModelNames} {continues : Bool}
    (result : redirectModel calls input names = .ok (redirected, continues)) :
    redirected.originModelName = names.originModelName := by
  unfold redirectModel at result
  split at result
  · cases result; rfl
  split at result
  · cases result
  dsimp only at result
  split at result
  all_goals cases result
  all_goals rfl

theorem applyUpstreamRoute_originModelName :
    (applyUpstreamRoute input names).originModelName = names.originModelName := by
  unfold applyUpstreamRoute
  split_ifs
  · rfl
  · cases splitLegacyRoute input.upstreamRoute <;> rfl
  · rfl
  · rfl

theorem stripUnusedRoute_originModelName {mappingModelName : String} :
    (stripUnusedRoute calls input mappingModelName names).originModelName = names.originModelName := by
  unfold stripUnusedRoute
  dsimp only
  generalize (if trimSpace names.upstreamModelName = "" then trimSpace mappingModelName
    else trimSpace names.upstreamModelName) = upstream
  split
  · rfl
  · cases routeBase? calls.resolve upstream <;> rfl

theorem mapModelNames_originModelName {mapped : ModelNames} (plain : input.isResponsesCompact = false)
    (succeeded : mapModelNames calls input names = .ok mapped) :
    mapped.originModelName = names.originModelName := by
  unfold mapModelNames at succeeded
  split at succeeded
  · cases succeeded
  case h_2 redirected result =>
    cases succeeded
    exact redirectModel_originModelName result
  case h_3 redirected result =>
    cases succeeded
    rw [stripUnusedRoute_originModelName, applyUpstreamRoute_originModelName]
    simp only [renameCompact, plain, Bool.false_eq_true, ↓reduceIte]
    exact redirectModel_originModelName result

end

def Context.mappingInput (ctx : Context) (relayMode : RelayMode) : MappingInput where
  channelType := ctx.channelType
  modelMapping := ctx.modelMapping
  upstreamRoute := ctx.tfOpenUpstreamChannelRoute
  isResponsesCompact := relayMode = .responsesCompact

def RelayInfo.modelNames (info : RelayInfo) : ModelNames where
  originModelName := info.originModelName
  upstreamModelName := (info.channelMeta.map ChannelMeta.upstreamModelName).getD ""
  isModelMapped := (info.channelMeta.map ChannelMeta.isModelMapped).getD false

def ModelNames.mapping (names : ModelNames) : Mapping :=
  ⟨names.originModelName, names.upstreamModelName, names.isModelMapped⟩

/-- An error leaves the names as they were, up to the flag that says whether a
redirection was followed, which nothing reads before it is set again. -/
def modelMappedHelper (calls : MappingCalls) (ctx : Context) (info : RelayInfo) :
    Except String Unit × RelayInfo :=
  match mapModelNames calls (ctx.mappingInput info.relayMode) info.modelNames with
  | .error reason => (.error reason, { info with tfOpenUpstreamRouteApplied := false })
  | .ok names =>
    (.ok (), { info.mapped names.mapping with tfOpenUpstreamRouteApplied := names.routeApplied })

end TokenFactory.Relay
