import TokenFactory.Relay.Context

namespace TokenFactory.Relay

open Go

/-! The parameter override of a channel, as far as it touches the headers.

Its header operations rewrite a copy of the header override, which
`ApplyParamOverrideWithRelayInfo` stores in the info. What the operations do to the
body, and whether their conditions hold, goes through gjson and sjson and is a
parameter of the model. Maps are association lists, in the order in which they are
visited. -/

abbrev HeaderMap := List (String × String)

namespace HeaderMap

def get? (headers : HeaderMap) (name : String) : Option String := List.lookup name headers

def delete (headers : HeaderMap) (name : String) : HeaderMap :=
  headers.filter fun entry => entry.1 ≠ name

def set (headers : HeaderMap) (name value : String) : HeaderMap :=
  headers.delete name ++ [(name, value)]

end HeaderMap

inductive OperationMode where
  | delete
  | set
  | move
  | copy
  | prepend
  | append
  | trimPrefix
  | trimSuffix
  | ensurePrefix
  | ensureSuffix
  | trimSpace
  | toLower
  | toUpper
  | replace
  | regexReplace
  | returnError
  | pruneObjects
  | setHeader
  | deleteHeader
  | copyHeader
  | moveHeader
  | passHeaders
  | syncFields
  | unknown (text : String)
deriving DecidableEq

namespace OperationMode

def text : OperationMode → String
  | delete => "delete"
  | set => "set"
  | move => "move"
  | copy => "copy"
  | prepend => "prepend"
  | append => "append"
  | trimPrefix => "trim_prefix"
  | trimSuffix => "trim_suffix"
  | ensurePrefix => "ensure_prefix"
  | ensureSuffix => "ensure_suffix"
  | trimSpace => "trim_space"
  | toLower => "to_lower"
  | toUpper => "to_upper"
  | replace => "replace"
  | regexReplace => "regex_replace"
  | returnError => "return_error"
  | pruneObjects => "prune_objects"
  | setHeader => "set_header"
  | deleteHeader => "delete_header"
  | copyHeader => "copy_header"
  | moveHeader => "move_header"
  | passHeaders => "pass_headers"
  | syncFields => "sync_fields"
  | unknown text => text

def known : List OperationMode :=
  [delete, set, move, copy, prepend, append, trimPrefix, trimSuffix, ensurePrefix, ensureSuffix,
    trimSpace, toLower, toUpper, replace, regexReplace, returnError, pruneObjects, setHeader,
    deleteHeader, copyHeader, moveHeader, passHeaders, syncFields]

def ofText (text : String) : OperationMode :=
  (known.find? fun mode => mode.text = text).getD (unknown text)

end OperationMode

structure ConditionOperation where
  path : String
  mode : String
  value : Json := .null
  invert : Bool := false
  passMissingKey : Bool := false

structure ParamOperation where
  path : String
  mode : OperationMode
  value : Json
  keepOrigin : Bool
  source : String
  target : String
  conditions : List ConditionOperation
  logic : String

def parseCondition (fields : Fields) : Except String ConditionOperation :=
  if trimSpace (fields.text "path") = "" ∨ trimSpace (fields.text "mode") = "" then
    .error "condition path/mode is required"
  else
    .ok {
      path := fields.text "path"
      mode := fields.text "mode"
      value := (fields.get? "value").getD .null
      invert := fields.flag "invert"
      passMissingKey := fields.flag "pass_missing_key" }

def parseConditionOperations : Json → Except String (List ConditionOperation)
  | .object fields =>
    let conditions := fields.filterMap fun (key, value) =>
      if trimSpace key = "" then none
      else some { path := trimSpace key, mode := "full", value : ConditionOperation }
    if conditions = [] then .error "conditions object must contain at least one key" else .ok conditions
  | .array items =>
    items.mapM fun item =>
      match item with
      | .object fields => parseCondition fields
      | _ => .error "condition must be object"
  | _ => .error "conditions must be an array or object"

/-- Only the mode is required. -/
def parseOperation (fields : Fields) : Option ParamOperation := do
  let mode ← (← fields.get? "mode").text?
  let conditions ← match fields.get? "conditions" with
    | none => some []
    | some raw => (parseConditionOperations raw).toOption
  return {
    path := fields.text "path"
    mode := .ofText mode
    value := (fields.get? "value").getD .null
    keepOrigin := fields.flag "keep_origin"
    source := fields.text "from"
    target := fields.text "to"
    conditions
    logic := ((fields.get? "logic").bind Json.text?).getD "OR" }

def tryParseOperations (paramOverride : Fields) : Option (List ParamOperation) :=
  match paramOverride.get? "operations" with
  | some (.array items) => items.mapM fun item => item.object?.bind parseOperation
  | _ => none

/-- What the operations see besides the body. The retry flags and the fields of
the last error that the source spells out are functions of the two kept here. -/
structure OverrideContext where
  model : Option String
  upstreamModel : Option String
  originalModel : Option String
  requestPath : Option String
  requestHeaders : HeaderMap
  headerOverride : HeaderMap
  retryIndex : Nat
  lastError : Option TokenFactoryError
  isChannelTest : Bool

/-- Go's library and the JSON body behind gjson and sjson: `paths` resolves the
negative indexes and wildcards of a path, `operate` runs the operation of a body
mode at these paths. -/
structure Engine where
  toLower : String → String
  equalFold : String → String → Bool
  format : Json → String
  unmarshal : String → Option Json
  unmarshal_weight : ∀ text value, unmarshal text = some value → value.weight ≤ text.length
  checkConditions : Json → OverrideContext → List ConditionOperation → String → Except String Bool
  paths : Json → String → Except String (List String)
  operate : ParamOperation → List String → Json → OverrideContext → Except String Json
  applyOperationsLegacy : Json → Fields → Except String Json
  get : Json → String → Option Json
  set : Json → String → Json → Except String Json

variable (engine : Engine)

/-- `fmt.Sprintf` with the verb `%v`. -/
def sprint : Json → String
  | .string text => text
  | value => engine.format value

def normalizeHeaderContextKey (key : String) : String := trimSpace (engine.toLower key)

def isHeaderPassthroughRuleKeyForOverride (key : String) : Bool :=
  let key := trimSpace (engine.toLower key)
  key = "*" || "re:".toList.isPrefixOf key.toList || "regex:".toList.isPrefixOf key.toList

/-- One entry of `sanitizeHeaderOverrideMap`: an empty value is kept only where
the key is a rule. -/
def sanitizeEntry (target : HeaderMap) (entry : String × String) : HeaderMap :=
  let key := normalizeHeaderContextKey engine entry.1
  let value := trimSpace entry.2
  if key = "" then target
  else if value = "" then
    if isHeaderPassthroughRuleKeyForOverride engine key then target.set key "" else target
  else target.set key value

def sanitizeHeaderOverrideMap (headers : HeaderMap) : HeaderMap :=
  headers.foldl (sanitizeEntry engine) []

def getParamOverrideMap (info : RelayInfo) : Fields :=
  match info.channelMeta with
  | none => []
  | some channelMeta => channelMeta.paramOverride

def getHeaderOverrideMap (info : RelayInfo) : HeaderMap :=
  match info.channelMeta with
  | none => []
  | some channelMeta => channelMeta.headersOverride.map fun (key, value) => (key, sprint engine value)

def getEffectiveHeaderOverride (info : RelayInfo) : HeaderMap :=
  if info.useRuntimeHeadersOverride then sanitizeHeaderOverrideMap engine info.runtimeHeadersOverride
  else sanitizeHeaderOverrideMap engine (getHeaderOverrideMap engine info)

def buildRequestHeadersContext (headers : HeaderMap) : HeaderMap :=
  headers.foldl (fun target (key, value) =>
    let key := normalizeHeaderContextKey engine key
    let value := trimSpace value
    if key = "" ∨ value = "" then target else target.set key value) []

def nonempty (text : String) : Option String := if text = "" then none else some text

def buildParamOverrideContext (info : RelayInfo) : OverrideContext :=
  let upstream := info.channelMeta.bind fun channelMeta => nonempty channelMeta.upstreamModelName
  let origin := nonempty info.originModelName
  { model := upstream.orElse fun _ => origin
    upstreamModel := upstream
    originalModel := origin
    requestPath := nonempty info.requestUrlPath
    requestHeaders := buildRequestHeadersContext engine info.requestHeaders
    headerOverride := sanitizeHeaderOverrideMap engine (getEffectiveHeaderOverride engine info)
    retryIndex := info.retryIndex
    lastError := info.lastError
    isChannelTest := info.isChannelTest }

def getHeaderValueFromContext (context : OverrideContext) (headerName : String) : Option String :=
  let name := normalizeHeaderContextKey engine headerName
  let value (headers : HeaderMap) : Option String :=
    (headers.get? name).bind fun raw => nonempty (trimSpace raw)
  if name = "" then none
  else (value context.headerOverride).orElse fun _ => value context.requestHeaders

def splitHeaderListValue (raw : String) : List String :=
  (raw.toList.splitOn ',').filterMap fun item => nonempty (trimSpace (String.ofList item))

mutual

def parseHeaderReplacementTokens : Json → Except String (List String)
  | .null => .ok []
  | .string raw => .ok (splitHeaderListValue raw)
  | .array items => (parseItemTokens items).map List.eraseDups
  | .object _ => .error "header replacement value must be string, array or null"
  | value => .ok (nonempty (trimSpace (sprint engine value))).toList

def parseItemTokens : List Json → Except String (List String)
  | [] => .ok []
  | item :: rest => do
    let tokens ← parseHeaderReplacementTokens item
    let others ← parseItemTokens rest
    return tokens ++ others

end

def parseHeaderAppendTokens (mapping : Fields) : Except String (List String) :=
  match mapping.get? "$append" with
  | none => .ok []
  | some raw => parseHeaderReplacementTokens engine raw

/-- What one token of the current value becomes. -/
def replaceToken (mapping : Fields) (token : String) : Except String (List String) :=
  let keepOnlyDeclared := mapping.flag "$keep_only_declared"
  let wildcard := if keepOnlyDeclared then none else mapping.get? "*"
  match (mapping.get? token).orElse fun _ => wildcard with
  | some replacement => parseHeaderReplacementTokens engine replacement
  | none => .ok (if keepOnlyDeclared then [] else [token])

/-- `none`: the header has no value and is deleted. -/
def resolveHeaderOverrideValueByMapping (context : OverrideContext) (headerName : String)
    (mapping : Fields) : Except String (Option String) :=
  if mapping = [] then .error "header value mapping cannot be empty"
  else do
    let appended ← parseHeaderAppendTokens engine mapping
    let source := match getHeaderValueFromContext engine context headerName with
      | none => []
      | some value => splitHeaderListValue value
    let replaced ← source.mapM (replaceToken engine mapping)
    let tokens := (replaced.flatten ++ appended).eraseDups
    return if tokens = [] then none else some (",".intercalate tokens)

def resolveHeaderOverrideValue (context : OverrideContext) (headerName : String) :
    Json → Except String (Option String)
  | .null => .error "header value is required"
  | .object mapping => resolveHeaderOverrideValueByMapping engine context headerName mapping
  | value => .ok (nonempty (trimSpace (sprint engine value)))

/-- A missing source is not an error for the operations that copy. -/
inductive HeaderFailure where
  | sourceNotFound (name : String)
  | message (text : String)
deriving DecidableEq

section
variable (context : OverrideContext)

def setHeaderOverrideInContext (headerName : String) (value : Json)
    (keepOrigin : Bool) : Except String OverrideContext :=
  let name := normalizeHeaderContextKey engine headerName
  let kept := (context.headerOverride.get? name).bind fun raw => nonempty (trimSpace raw)
  if name = "" then .error "header name is required"
  else if keepOrigin ∧ kept.isSome then .ok context
  else
    match resolveHeaderOverrideValue engine context name value with
    | .error reason => .error reason
    | .ok none => .ok { context with headerOverride := context.headerOverride.delete name }
    | .ok (some text) => .ok { context with headerOverride := context.headerOverride.set name text }

def deleteHeaderOverrideInContext (headerName : String) :
    Except String OverrideContext :=
  let name := normalizeHeaderContextKey engine headerName
  if name = "" then .error "header name is required"
  else .ok { context with headerOverride := context.headerOverride.delete name }

def copyHeaderInContext (source target : String) (keepOrigin : Bool) :
    Except HeaderFailure OverrideContext :=
  let source := normalizeHeaderContextKey engine source
  let target := normalizeHeaderContextKey engine target
  if source = "" ∨ target = "" then .error (.message "copy_header from/to is required")
  else
    match getHeaderValueFromContext engine context source with
    | none => .error (.sourceNotFound source)
    | some value =>
      (setHeaderOverrideInContext engine context target (.string value) keepOrigin).mapError .message

def moveHeaderInContext (source target : String) (keepOrigin : Bool) :
    Except HeaderFailure OverrideContext :=
  let source := normalizeHeaderContextKey engine source
  let target := normalizeHeaderContextKey engine target
  if source = "" ∨ target = "" then .error (.message "move_header from/to is required")
  else
    match copyHeaderInContext engine context source target keepOrigin with
    | .error failure => .error failure
    | .ok copied =>
      if engine.equalFold source target then .ok copied
      else (deleteHeaderOverrideInContext engine copied source).mapError .message

/-- The context after a copy whose source may be missing. -/
def ignoreMissing :
    Except HeaderFailure OverrideContext → Except String OverrideContext
  | .ok after => .ok after
  | .error (.sourceNotFound _) => .ok context
  | .error (.message reason) => .error reason

end

def normalizeNames (names : List String) : List String :=
  (names.filterMap fun name => nonempty (normalizeHeaderContextKey engine name)).eraseDups

def someNames (names : List String) : Except String (List String) :=
  if names = [] then .error "pass_headers value is invalid" else .ok names

/-- A text that starts like an array or an object is tried as one. -/
def decodeNames : Json → Option Json
  | .string raw =>
    match (trimSpace raw).toList with
    | '[' :: _ | '\x7b' :: _ => engine.unmarshal (trimSpace raw)
    | _ => none
  | _ => none

theorem decodeNames_weight_lt {value parsed : Json} (decoded : decodeNames engine value = some parsed) :
    parsed.weight < value.weight := by
  cases value with
  | string raw =>
    have smaller : parsed.weight ≤ (trimSpace raw).length := by
      rw [decodeNames] at decoded
      split at decoded
      · exact engine.unmarshal_weight _ _ decoded
      · exact engine.unmarshal_weight _ _ decoded
      · cases decoded
    have shorter := length_trimSpace_le raw
    rw [Json.weight]
    omega
  | _ => cases decoded

-- the recursion below only needs that decoding makes the value smaller
attribute [irreducible] decodeNames

/-- The keys of an object are read one after the other; a key whose value is
refused adds nothing. -/
def parseHeaderPassThroughNames (value : Json) : Except String (List String) :=
  match decoded : decodeNames engine value with
  | some parsed =>
    have := decodeNames_weight_lt engine decoded
    parseHeaderPassThroughNames parsed
  | none =>
    let names (key : String) : List String := match found : value.field? key with
      | some inner =>
        have := Json.weight_lt_of_field? found
        (parseHeaderPassThroughNames inner).toOption.getD []
      | none => []
    match value with
    | .null => .error "pass_headers value is required"
    | .string raw =>
      if trimSpace raw = "" then .error "pass_headers value is required"
      else
        someNames (normalizeNames engine (((trimSpace raw).toList.splitOn ',').map String.ofList))
    | .array items => someNames (normalizeNames engine (items.map (sprint engine)))
    | .object _ => someNames (normalizeNames engine (names "headers" ++ names "names" ++ names "header"))
    | _ => .error "pass_headers value must be string, array or object"
termination_by value.weight

def passHeaders (keepOrigin : Bool) : OverrideContext → List String → Except String OverrideContext
  | context, [] => .ok context
  | context, name :: rest =>
    match ignoreMissing context (copyHeaderInContext engine context name name keepOrigin) with
    | .error reason => .error reason
    | .ok after => passHeaders keepOrigin after rest

inductive SyncTarget where
  | json (key : String)
  | header (key : String)
deriving DecidableEq

def parseSyncTarget (spec : String) : Except String SyncTarget :=
  let raw := trimSpace spec
  if raw = "" then .error "sync_fields target is required"
  else
    match raw.toList.span (· ≠ ':') with
    | (_, []) => .ok (.json raw)
    | (kind, _ :: rest) =>
      let kind := engine.toLower (trimSpace (String.ofList kind))
      let key := trimSpace (String.ofList rest)
      if key = "" then .error ("sync_fields target key is required: " ++ raw)
      else if kind = "json" ∨ kind = "body" then .ok (.json key)
      else if kind = "header" then .ok (.header key)
      else .error ("sync_fields target prefix is invalid: " ++ raw)

/-- A blank value counts as missing. -/
def readSyncTargetValue (body : Json) (context : OverrideContext) : SyncTarget → Option Json
  | .json key =>
    match engine.get body key with
    | none | some .null => none
    | some (.string text) => if trimSpace text = "" then none else some (.string text)
    | some value => some value
  | .header key => (getHeaderValueFromContext engine context key).map .string

def writeSyncTargetValue (body : Json) (context : OverrideContext) (value : Json) :
    SyncTarget → Except String (Json × OverrideContext)
  | .json key => (engine.set body key value).map fun written => (written, context)
  | .header key =>
    (setHeaderOverrideInContext engine context key value false).map fun written => (body, written)

def syncFieldsBetweenTargets (body : Json) (context : OverrideContext) (source target : String) :
    Except String (Json × OverrideContext) := do
  let source ← parseSyncTarget engine source
  let target ← parseSyncTarget engine target
  match readSyncTargetValue engine body context source, readSyncTargetValue engine body context target with
  | some value, none => writeSyncTargetValue engine body context value target
  | none, some value => writeSyncTargetValue engine body context value source
  | _, _ => .ok (body, context)

structure ParamOverrideReturnError where
  message : String
  statusCode : Int
  code : String
  type : String
  skipRetry : Bool
deriving DecidableEq

def parseOverrideInt : Json → Option Int
  | .number value => if value.isInt then some value.num else none
  | _ => none

def parseStatusCode (fields : Fields) : Except String Int :=
  match fields.get? "status_code", fields.get? "status" with
  | some raw, _ =>
    match parseOverrideInt raw with
    | some code => .ok code
    | none => .error "return_error status_code must be an integer"
  | none, some raw =>
    match parseOverrideInt raw with
    | some code => .ok code
    | none => .error "return_error status must be an integer"
  | none, none => .ok 400

def checkReturnError (error : ParamOverrideReturnError) : Except String ParamOverrideReturnError :=
  if error.message = "" then .error "return_error message is required"
  else if error.statusCode < 100 ∨ error.statusCode > 511 then
    .error ("return_error status code out of range: " ++ toString error.statusCode)
  else .ok error

def parseReturnErrorFields (fields : Fields) : Except String ParamOverrideReturnError := do
  let message := trimSpace (fields.text "message")
  let code := (fields.get? "code").bind fun raw => nonempty (trimSpace (sprint engine raw))
  let skipRetry := (fields.get? "skip_retry").bind Json.bool?
  let statusCode ← parseStatusCode fields
  checkReturnError {
    message := if message = "" then trimSpace (fields.text "msg") else message
    statusCode
    code := code.getD "invalid_request"
    type := (nonempty (trimSpace (fields.text "type"))).getD "invalid_request_error"
    skipRetry := skipRetry.getD true }

def parseParamOverrideReturnError : Json → Except String ParamOverrideReturnError
  | .null => .error "return_error value is required"
  | .string raw =>
    checkReturnError ⟨trimSpace raw, 400, "invalid_request", "invalid_request_error", true⟩
  | .object fields => parseReturnErrorFields engine fields
  | _ => .error "return_error value must be string or object"

inductive OverrideError where
  | returned (error : ParamOverrideReturnError)
  | message (text : String)
deriving DecidableEq

/-- The error as the handlers return it. A returned error was checked when it was
parsed, so its fields are not defaulted again. -/
def OverrideError.toTokenFactoryError : OverrideError → TokenFactoryError
  | .returned error =>
    ⟨error.statusCode, error.message, error.code, "openai_error", error.skipRetry⟩
  | .message text => newError text "channel:param_override_invalid" true

def failing (mode : OperationMode) {α : Type} : Except String α → Except OverrideError α
  | .ok value => .ok value
  | .error reason => .error (.message ("operation " ++ mode.text ++ " failed: " ++ reason))

/-- The source and the target of `copy_header` and `move_header`; the path stands
in for either. -/
def headerEnds (operation : ParamOperation) : String × String :=
  (if trimSpace operation.source = "" then trimSpace operation.path else trimSpace operation.source,
   if trimSpace operation.target = "" then trimSpace operation.path else trimSpace operation.target)

def applyHeaderOperation (operation : ParamOperation) (context : OverrideContext) :
    Except String OverrideContext :=
  let (source, target) := headerEnds operation
  match operation.mode with
  | .setHeader =>
    setHeaderOverrideInContext engine context operation.path operation.value operation.keepOrigin
  | .deleteHeader => deleteHeaderOverrideInContext engine context operation.path
  | .copyHeader =>
    ignoreMissing context (copyHeaderInContext engine context source target operation.keepOrigin)
  | .moveHeader =>
    ignoreMissing context (moveHeaderInContext engine context source target operation.keepOrigin)
  | _ => .ok context

def applyOperation (operation : ParamOperation) (body : Json) (context : OverrideContext) :
    Except OverrideError (Json × OverrideContext) :=
  let onBody (paths : List String) : Except OverrideError (Json × OverrideContext) :=
    failing operation.mode ((engine.operate operation paths body context).map fun after => (after, context))
  match operation.mode with
  | .unknown text => .error (.message ("unknown operation: " ++ text))
  | .returnError =>
    match parseParamOverrideReturnError engine operation.value with
    | .error reason => .error (.message reason)
    | .ok error => .error (.returned error)
  | .copy =>
    if operation.source = "" ∨ operation.target = "" then .error (.message "copy from/to is required")
    else onBody []
  | .move => onBody []
  | .setHeader | .deleteHeader | .copyHeader | .moveHeader =>
    failing operation.mode
      ((applyHeaderOperation engine operation context).map fun after => (body, after))
  | .passHeaders =>
    match parseHeaderPassThroughNames engine operation.value with
    | .error reason => .error (.message reason)
    | .ok names =>
      failing operation.mode
        ((passHeaders engine operation.keepOrigin context names).map fun after => (body, after))
  | .syncFields =>
    failing operation.mode
      (syncFieldsBetweenTargets engine body context operation.source operation.target)
  | _ =>
    -- every mode that is left works on the paths it resolves to
    match engine.paths body operation.path with
    | .error reason => .error (.message reason)
    | .ok [] => .ok (body, context)
    | .ok paths => onBody paths

def applyOperations : List ParamOperation → Json → OverrideContext →
    Except OverrideError (Json × OverrideContext)
  | [], body, context => .ok (body, context)
  | operation :: rest, body, context =>
    match engine.checkConditions body context operation.conditions operation.logic with
    | .error reason => .error (.message reason)
    | .ok false => applyOperations rest body context
    | .ok true =>
      match applyOperation engine operation body context with
      | .error error => .error error
      | .ok (body, context) => applyOperations rest body context

def buildLegacyParamOverride (paramOverride : Fields) : Fields :=
  paramOverride.filter fun entry => !engine.equalFold (trimSpace entry.1) "operations"

def applyLegacy (body : Json) (paramOverride : Fields) : Except OverrideError Json :=
  (engine.applyOperationsLegacy body paramOverride).mapError .message

/-- Plain keys are set before the operations run. -/
def applyParamOverride (body : Json) (paramOverride : Fields) (context : OverrideContext) :
    Except OverrideError (Json × OverrideContext) :=
  if paramOverride = [] then .ok (body, context)
  else
    match tryParseOperations paramOverride with
    | none => (applyLegacy engine body paramOverride).map fun after => (after, context)
    | some operations =>
      match buildLegacyParamOverride engine paramOverride with
      | [] => applyOperations engine operations body context
      | legacy =>
        match applyLegacy engine body legacy with
        | .error error => .error error
        | .ok body => applyOperations engine operations body context

def syncRuntimeHeaderOverrideFromContext (info : RelayInfo) (context : OverrideContext) : RelayInfo :=
  { info with
    runtimeHeadersOverride := sanitizeHeaderOverrideMap engine context.headerOverride
    useRuntimeHeadersOverride := true }

def applyParamOverrideWithRelayInfo (body : Json) (info : RelayInfo) :
    Except OverrideError (Json × RelayInfo) :=
  if getParamOverrideMap info = [] then .ok (body, info)
  else
    match applyParamOverride engine body (getParamOverrideMap info)
        (buildParamOverrideContext engine info) with
    | .error error => .error error
    | .ok (body, context) => .ok (body, syncRuntimeHeaderOverrideFromContext engine info context)

/-- What an override sees of an info besides the runtime headers: the request, the
retry and the configuration of the channel. -/
structure OverrideView where
  originModelName : String
  requestUrlPath : String
  requestHeaders : HeaderMap
  isChannelTest : Bool
  retryIndex : Nat
  lastError : Option TokenFactoryError
  upstreamModelName : Option String
  paramOverride : Option Fields
  headersOverride : Option Fields
deriving DecidableEq

def RelayInfo.overrideView (info : RelayInfo) : OverrideView where
  originModelName := info.originModelName
  requestUrlPath := info.requestUrlPath
  requestHeaders := info.requestHeaders
  isChannelTest := info.isChannelTest
  retryIndex := info.retryIndex
  lastError := info.lastError
  upstreamModelName := info.channelMeta.map ChannelMeta.upstreamModelName
  paramOverride := info.channelMeta.map ChannelMeta.paramOverride
  headersOverride := info.channelMeta.map ChannelMeta.headersOverride

theorem getParamOverrideMap_view (info : RelayInfo) :
    getParamOverrideMap info = info.overrideView.paramOverride.getD [] := by
  unfold getParamOverrideMap RelayInfo.overrideView
  cases info.channelMeta <;> rfl

theorem getHeaderOverrideMap_view (info : RelayInfo) : getHeaderOverrideMap engine info =
      (info.overrideView.headersOverride.getD []).map fun (key, value) => (key, sprint engine value) := by
  unfold getHeaderOverrideMap RelayInfo.overrideView
  cases info.channelMeta <;> rfl

section SameView

variable {first second : RelayInfo} (same : first.overrideView = second.overrideView)
  (unset : first.useRuntimeHeadersOverride = false) (also : second.useRuntimeHeadersOverride = false)
include same unset also

theorem getEffectiveHeaderOverride_eq :
    getEffectiveHeaderOverride engine first = getEffectiveHeaderOverride engine second := by
  simp only [getEffectiveHeaderOverride, unset, also, getHeaderOverrideMap_view, same,
    Bool.false_eq_true, if_false]

theorem buildParamOverrideContext_eq :
    buildParamOverrideContext engine first = buildParamOverrideContext engine second := by
  have headers := getEffectiveHeaderOverride_eq engine same unset also
  have upstream (info : RelayInfo) :
      (info.channelMeta.bind fun channelMeta => nonempty channelMeta.upstreamModelName) =
        info.overrideView.upstreamModelName.bind nonempty := by
    unfold RelayInfo.overrideView
    cases info.channelMeta <;> rfl
  have origin : first.originModelName = second.originModelName :=
    congrArg OverrideView.originModelName same
  have path : first.requestUrlPath = second.requestUrlPath := congrArg OverrideView.requestUrlPath same
  have received : first.requestHeaders = second.requestHeaders :=
    congrArg OverrideView.requestHeaders same
  have retry : first.retryIndex = second.retryIndex := congrArg OverrideView.retryIndex same
  have failure : first.lastError = second.lastError := congrArg OverrideView.lastError same
  have test : first.isChannelTest = second.isChannelTest := congrArg OverrideView.isChannelTest same
  simp only [buildParamOverrideContext, upstream, same, origin, path, received, headers, retry, failure, test]

theorem applyParamOverrideWithRelayInfo_eq (body : Json) :
    (applyParamOverrideWithRelayInfo engine body first).map
        (fun result => getEffectiveHeaderOverride engine result.2) =
      (applyParamOverrideWithRelayInfo engine body second).map
        (fun result => getEffectiveHeaderOverride engine result.2) := by
  unfold applyParamOverrideWithRelayInfo
  rw [getParamOverrideMap_view first, same, ← getParamOverrideMap_view second,
    buildParamOverrideContext_eq engine same unset also]
  by_cases empty : getParamOverrideMap second = []
  · rw [if_pos empty, if_pos empty]
    exact congrArg Except.ok (getEffectiveHeaderOverride_eq engine same unset also)
  · rw [if_neg empty, if_neg empty]
    cases applyParamOverride engine body (getParamOverrideMap second)
        (buildParamOverrideContext engine second) with
    | error error => rfl
    | ok result => rfl

end SameView

/-- An override that was applied leaves the info as it is, or it replaces the
runtime headers; nothing else is written. -/
theorem applyParamOverrideWithRelayInfo_ok {engine : Engine} {body : Json} {info : RelayInfo}
    {result : Json × RelayInfo} (done : applyParamOverrideWithRelayInfo engine body info = .ok result) :
    (getParamOverrideMap info = [] ∧ result.2 = info) ∨ getParamOverrideMap info ≠ [] ∧
        ∃ context, result.2 = syncRuntimeHeaderOverrideFromContext engine info context := by
  unfold applyParamOverrideWithRelayInfo at done
  split at done
  · rename_i empty
    cases done
    exact .inl ⟨empty, rfl⟩
  · rename_i nonempty
    split at done
    · cases done
    · rename_i context _
      cases done
      exact .inr ⟨nonempty, context, rfl⟩

end TokenFactory.Relay
