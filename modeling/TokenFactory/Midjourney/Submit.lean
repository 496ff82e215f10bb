import TokenFactory.Billing.Settlement
import TokenFactory.Distributor.Rotation
import TokenFactory.Go.Errors
import TokenFactory.Midjourney.Tasks

namespace TokenFactory.Midjourney

open Data Go Billing Distributor
open Relay (Context)

/-! `RelayMidjourneySubmit` and `RelayMidjourneyTaskImageSeed` of `relay/mjproxy_handler.go`,
and the functions of `service/midjourney.go` that they call.

A follow-up on an earlier task goes to the channel of that task. The distributor has put
another channel into the context by then. -/

inductive RelayModeMidjourney where
  | imagine
  | describe
  | blend
  | change
  | simpleChange
  | action
  | modal
  | shorten
  | upload
  | video
  | edits
  | other
deriving DecidableEq

structure MidjourneyRequest where
  prompt : String := ""
  customId : String := ""
  action : String := ""
  index : Int := 0
  taskId : String := ""
  content : String := ""
deriving DecidableEq

structure MidjourneyResponse where
  code : Int
  description : String := ""
  properties : Json := .null
  result : String := ""
deriving DecidableEq

/-- How a handler ends early: with an answer to the client, or with an index out of range or
a nil pointer. -/
inductive Stop where
  | reply (response : MidjourneyResponse)
  | panic
deriving DecidableEq

def midjourneyErrorWrapper (code : Int) (description : String) : MidjourneyResponse :=
  { code, description }

def mjErrorUnknown : Int := 5

def mjRequestError : Int := 4

def requestError (description : String) : Stop :=
  .reply (midjourneyErrorWrapper mjRequestError description)

/-- The action of a custom id such as `MJ::JOB::upsample::2::3dbbd469`. -/
def plusAction (splits : List String) : Except Stop String :=
  match splits[1]? with
  | none => .error .panic
  | some kind =>
    if kind = "JOB" then
      match splits[2]? with
      | none => .error .panic
      | some action => .ok action
    else .ok kind

def plusIndex (splits : List String) : Except Stop Int :=
  match splits[3]? with
  | none => .error .panic
  | some text =>
    match atoi text with
    | none => .error (requestError "index_parse_failed")
    | some index => .ok index

def coverPlusActionToNormalAction (request : MidjourneyRequest) : Except Stop MidjourneyRequest := do
  refuseIf (request.customId = "") (requestError "custom_id_is_required")
  let splits := splitAround "::" request.customId
  let action ← plusAction splits
  refuseIf (action = "") (requestError "unknown_action")
  if contains action "upsample" then
    let index ← plusIndex splits
    .ok { request with index, action := "UPSCALE" }
  else if contains action "variation" then
    if action = "variation" then
      let index ← plusIndex splits
      .ok { request with index, action := "VARIATION" }
    else if action = "low_variation" then .ok { request with index := 1, action := "LOW_VARIATION" }
    else if action = "high_variation" then .ok { request with index := 1, action := "HIGH_VARIATION" }
    else .ok { request with index := 1 }
  else if contains action "pan" then .ok { request with index := 1, action := "PAN" }
  else if contains action "reroll" then .ok { request with index := 1, action := "REROLL" }
  else if action = "Outpaint" then .ok { request with index := 1, action := "ZOOM" }
  else if action = "CustomZoom" then .ok { request with index := 1, action := "CUSTOM_ZOOM" }
  else if action = "Inpaint" then .ok { request with index := 1, action := "INPAINT" }
  else .error (requestError ("unknown_action:" ++ request.customId))

/-- The digit behind the letter of a simple change. -/
def changeIndex (params : MidjourneyRequest) : List Char → Except Stop (Option MidjourneyRequest)
  | [] => .error .panic
  | digit :: _ =>
    match atoi (String.singleton digit) with
    | none => .ok none
    | some index => if index < 1 ∨ index > 4 then .ok none else .ok (some { params with index })

def convertSimpleChangeParams (content : String) : Except Stop (Option MidjourneyRequest) :=
  match split ' ' content with
  | [taskId, word] =>
    match word.toList.map Char.toLower with
    | [] => .error .panic
    | 'u' :: rest => changeIndex { taskId, action := "UPSCALE" } rest
    | 'v' :: rest => changeIndex { taskId, action := "VARIATION" } rest
    | ['r'] => .ok (some { taskId, action := "REROLL" })
    | _ => .ok none
  | _ => .ok none

def getByMJId (tasks : Tasks) (userId : Int) (mjId : String) : Option Task :=
  ((tasks.rows.filter fun task => task.userId = userId ∧ task.mjId = mjId).insertionSort
    fun first second => first.id ≤ second.id).head?

/-- What the handlers read besides the request. -/
structure Site where
  channels : Table ChannelRow.id
  autoBan : Int → Bool
  mjActionCheckSuccessEnabled : Bool
  automaticDisableChannelEnabled : Bool

def enabledChannelOf (site : Site) (task : Task) : Except Stop ChannelRow :=
  match site.channels.lookup task.channelId with
  | none => .error (requestError "get_channel_info_failed")
  | some channel =>
    if channel.status ≠ .enabled then .error (requestError "该任务所属渠道已被禁用") else .ok channel

/-- The id of the earlier task, and the request with its action. -/
def followedTask (mode : RelayModeMidjourney) (request : MidjourneyRequest) :
    Except Stop (String × MidjourneyRequest) :=
  match mode with
  | .change => do
    refuseIf (request.taskId = "") (requestError "task_id_is_required")
    refuseIf (request.action = "") (requestError "action_is_required")
    refuseIf (request.index = 0) (requestError "index_is_required")
    .ok (request.taskId, request)
  | .simpleChange => do
    refuseIf (request.content = "") (requestError "content_is_required")
    match ← convertSimpleChangeParams request.content with
    | none => .error (requestError "content_parse_failed")
    | some params => .ok (params.taskId, { request with action := params.action })
  | .modal => .ok (request.taskId, { request with action := "MODAL" })
  | .video => .ok (request.taskId, { request with action := "VIDEO" })
  | _ => .ok ("", request)

/-- Only the base URL and the id of the channel are replaced in the context. -/
def redirect (site : Site) (tasks : Tasks) (userId : Int) (mode : RelayModeMidjourney) (ctx : Context)
    (request : MidjourneyRequest) : Except Stop (MidjourneyRequest × Context) := do
  let followed ← followedTask mode request
  match getByMJId tasks userId followed.1 with
  | none => .error (requestError "task_not_found")
  | some originTask =>
    refuseIf (site.mjActionCheckSuccessEnabled ∧ originTask.status ≠ "SUCCESS" ∧ mode ≠ .modal)
      (requestError "task_status_not_success")
    let channel ← enabledChannelOf site originTask
    .ok ({ followed.2 with prompt := originTask.prompt },
      { ctx with baseUrl := channel.channel.baseUrl, channelId := originTask.channelId })

def freshRequest (request : MidjourneyRequest) : RelayModeMidjourney → Option (Except Stop MidjourneyRequest)
  | .imagine =>
    some (if request.prompt = "" then .error (requestError "prompt_is_required")
      else .ok { request with action := "IMAGINE" })
  | .describe => some (.ok { request with action := "DESCRIBE" })
  | .edits => some (.ok { request with action := "EDITS" })
  | .shorten => some (.ok { request with action := "SHORTEN" })
  | .blend => some (.ok { request with action := "BLEND" })
  | .upload => some (.ok { request with action := "UPLOAD" })
  | .change | .simpleChange | .action | .modal | .video | .other => none

def normalize (mode : RelayModeMidjourney) (request : MidjourneyRequest) :
    Except Stop (RelayModeMidjourney × MidjourneyRequest) :=
  match mode with
  | .action => (coverPlusActionToNormalAction request).map fun covered => (.change, covered)
  | .video => .ok (.video, { request with action := "VIDEO" })
  | mode => .ok (mode, request)

def prepare (site : Site) (tasks : Tasks) (userId : Int) (mode : RelayModeMidjourney) (ctx : Context)
    (request : MidjourneyRequest) : Except Stop (MidjourneyRequest × Context) := do
  let normal ← normalize mode request
  match freshRequest normal.2 normal.1 with
  | some fresh => fresh.map fun request => (request, ctx)
  | none =>
    if normal.2.taskId ≠ "" then redirect site tasks userId normal.1 ctx normal.2
    else .ok (normal.2, ctx)

/-- The path behind the mode that the client has put before it. -/
def getMjRequestPath (path : String) : String :=
  if contains path "/mj-" then
    match splitAround "/mj/" path with
    | _ :: rest :: _ => "/mj/" ++ rest
    | _ => path
  else path

/-- A request as the HTTP client gets it, with the channel that the context names then. -/
structure SentRequest where
  fullRequestURL : String
  channelId : Int
  secret : Option String
deriving DecidableEq

/-- An answer that cannot be read is a failure; an empty body is an answer. -/
inductive HttpAnswer where
  | failed (description : String)
  | empty (statusCode : Int)
  | response (statusCode : Int) (response : MidjourneyResponse)
deriving DecidableEq

/-- What becomes of a request: the body of the client may stop it before it is sent. -/
structure Exchange where
  unsent : Option String
  answer : SentRequest → HttpAnswer

def mjApiSecret (ctx : Context) : Option String :=
  if ctx.channelKey = "" then none else some (trimPrefix ctx.channelKey "Bearer ")

def sentRequest (ctx : Context) (fullRequestURL : String) : SentRequest where
  fullRequestURL := fullRequestURL
  channelId := ctx.channelId
  secret := mjApiSecret ctx

def doMidjourneyHttpRequest (exchange : Exchange) (ctx : Context) (fullRequestURL : String) :
    Option SentRequest × Except Stop (Int × MidjourneyResponse) :=
  match exchange.unsent with
  | some description => (none, .error (.reply (midjourneyErrorWrapper mjErrorUnknown description)))
  | none =>
    let sent := sentRequest ctx fullRequestURL
    match exchange.answer sent with
    | .failed description => (some sent, .error (.reply (midjourneyErrorWrapper mjErrorUnknown description)))
    | .empty statusCode =>
      (some sent, .ok (statusCode, midjourneyErrorWrapper mjErrorUnknown "empty_response_body"))
    | .response statusCode response => (some sent, .ok (statusCode, response))

structure Submission where
  mode : RelayModeMidjourney
  body : Option MidjourneyRequest
  url : String
  /-- `ModelPriceHelperPerCall`: the quota of the request. -/
  priceData : Except String Int
  /-- `GetUserQuota`, which may come from a cache. -/
  userQuota : Except String Int
  exchange : Exchange
  clock : Nat → Int

structure Admitted where
  request : MidjourneyRequest
  ctx : Context
  quota : Int
  consumeQuota : Bool

def orReply (answer : Except String α) : Except Stop α :=
  answer.mapError fun description => .reply (midjourneyErrorWrapper 4 description)

/-- `RelayMidjourneySubmit` up to the request to upstream. -/
def admitSubmission (site : Site) (tasks : Tasks) (userId : Int) (ctx : Context) (submission : Submission) :
    Except Stop Admitted := do
  match submission.body with
  | none => .error (requestError "bind_request_body_failed")
  | some body =>
    let prepared ← prepare site tasks userId submission.mode ctx body
    let consumeQuota : Bool := prepared.1.action ≠ "INPAINT" ∧ prepared.1.action ≠ "CUSTOM_ZOOM"
    let quota ← orReply submission.priceData
    let userQuota ← orReply submission.userQuota
    refuseIf (consumeQuota ∧ userQuota - quota < 0) (.reply (midjourneyErrorWrapper 4 "quota_not_enough"))
    .ok { request := prepared.1, ctx := prepared.2, quota, consumeQuota }

/-- The codes of a submission that upstream has taken: submitted, already there, queued. -/
def accepted (code : Int) : Bool := code = 1 ∨ code = 21 ∨ code = 22

def knownResult (response : MidjourneyResponse) : Option (String × String) := do
  let properties ← response.properties.object?
  let imageUrl ← (← properties.get? "imageUrl").text?
  let status ← (← properties.get? "status").text?
  some (imageUrl, status)

def submittedTask (id userId : Int) (admitted : Admitted) (response : MidjourneyResponse)
    (clock : Nat → Int) : Task where
  id := id
  code := response.code
  userId := userId
  action := admitted.request.action
  mjId := response.result
  prompt := admitted.request.prompt
  description := response.description
  submitTime := clock 0
  progress := "0%"
  failReason := if accepted response.code then "" else response.description
  channelId := admitted.ctx.channelId
  quota := admitted.quota

def takeKnownResult (task : Task) (response : MidjourneyResponse) (clock : Nat → Int) : Task × Int :=
  match if response.code = 21 then knownResult response else none with
  | none => (task, response.code)
  | some (imageUrl, status) =>
    if status = "SUCCESS" then
      ({ task with imageUrl, status, progress := "100%", startTime := clock 1, finishTime := clock 2 }, 1)
    else ({ task with imageUrl, status }, response.code)

def storedTask (id userId : Int) (admitted : Admitted) (response : MidjourneyResponse)
    (clock : Nat → Int) : Task :=
  let taken := takeKnownResult (submittedTask id userId admitted response clock) response clock
  if taken.2 = 1 ∧ admitted.request.action = "UPLOAD" then
    { taken.1 with progress := "100%", status := "SUCCESS" }
  else taken.1

def nextId (tasks : Tasks) : Int := tasks.rows.foldr (fun task top => max task.id top) 0 + 1

structure Submitted where
  tasks : Tasks
  store : Store
  sent : Option SentRequest := none
  /-- The channel that is disabled because it has no account left. -/
  disabled : Option Int := none
  ending : Except Stop Unit

def chargeSubmission (info : RelayInfo) (paying : BillingInfo) (store : Store) (consumeQuota : Bool)
    (statusCode quota : Int) : Store :=
  if consumeQuota ∧ statusCode = 200 then (postConsumeQuota info paying {} store quota).2 else store

/-- `RelayMidjourneySubmit` from the answer of upstream on. The charge is deferred, so that a
panic does not stop it. -/
def storeSubmission (site : Site) (info : RelayInfo) (paying : BillingInfo) (tasks : Tasks) (store : Store)
    (clock : Nat → Int) (admitted : Admitted) (statusCode : Int) (response : MidjourneyResponse) : Submitted :=
  let channelId := admitted.ctx.channelId
  if response.code = 3 ∧ site.channels.lookup channelId = none then
    { tasks
      store := chargeSubmission info paying store admitted.consumeQuota statusCode admitted.quota
      ending := .error .panic }
  else
    { tasks := tasks.insert (storedTask (nextId tasks) info.userId admitted response clock)
      store := chargeSubmission info paying store (admitted.consumeQuota && accepted response.code) statusCode
        admitted.quota
      disabled :=
        if response.code = 3 ∧ site.autoBan channelId ∧ site.automaticDisableChannelEnabled then some channelId
        else none
      ending := .ok () }

def relayMidjourneySubmit (site : Site) (info : RelayInfo) (paying : BillingInfo) (ctx : Context)
    (submission : Submission) (tasks : Tasks) (store : Store) : Submitted :=
  match admitSubmission site tasks info.userId ctx submission with
  | .error stop => { tasks, store, ending := .error stop }
  | .ok admitted =>
    let outcome := doMidjourneyHttpRequest submission.exchange admitted.ctx
      (admitted.ctx.baseUrl ++ getMjRequestPath submission.url)
    match outcome.2 with
    | .error stop => { tasks, store, sent := outcome.1, ending := .error stop }
    | .ok (statusCode, response) =>
      { storeSubmission site info paying tasks store submission.clock admitted statusCode response with
        sent := outcome.1 }

structure SeedRequest where
  taskId : String
  url : String
  exchange : Exchange

def seedContext (site : Site) (tasks : Tasks) (userId : Int) (ctx : Context) (taskId : String) :
    Except Stop (ChannelRow × Context) :=
  match getByMJId tasks userId taskId with
  | none => .error (requestError "task_no_found")
  | some originTask =>
    (enabledChannelOf site originTask).map fun channel =>
      (channel, { ctx with channelId := originTask.channelId })

def relayMidjourneyTaskImageSeed (site : Site) (tasks : Tasks) (userId : Int) (ctx : Context)
    (seed : SeedRequest) : Option SentRequest × Except Stop Unit :=
  match seedContext site tasks userId ctx seed.taskId with
  | .error stop => (none, .error stop)
  | .ok (channel, ctx) =>
    let outcome := doMidjourneyHttpRequest seed.exchange ctx
      (channel.channel.baseUrl ++ getMjRequestPath seed.url)
    (outcome.1, outcome.2.map fun _ => ())

end TokenFactory.Midjourney
