import TokenFactory.Billing.Funding

namespace TokenFactory.Midjourney

open Data Billing

/-! The drawing tasks of `model/midjourney.go`, and the poller `UpdateMidjourneyTaskBulk` of
`controller/midjourney.go`.

One pass of the poller loads the unfinished tasks, asks the channel of each about them and
writes what it is told. The statements of the database succeed. -/

structure Task where
  id : Int
  code : Int
  userId : Int
  action : String
  mjId : String
  prompt : String
  promptEn : String := ""
  description : String
  state : String := ""
  submitTime : Int
  startTime : Int := 0
  finishTime : Int := 0
  imageUrl : String := ""
  videoUrl : String := ""
  videoUrls : String := ""
  status : String := ""
  progress : String
  failReason : String := ""
  channelId : Int
  quota : Int
  buttons : String := ""
  properties : String := ""
deriving DecidableEq

abbrev Tasks := Table Task.id

def Task.unfinished (task : Task) : Bool := task.progress ≠ "100%"

/-- The item of an answer. `videoUrls`, `buttons` and `properties` are JSON texts; there is
none for a missing value or an empty list of videos. -/
structure MidjourneyDto where
  mjId : String
  promptEn : String := ""
  state : String := ""
  submitTime : Int := 0
  startTime : Int := 0
  finishTime : Int := 0
  imageUrl : String := ""
  videoUrl : String := ""
  videoUrls : Option String := none
  status : String := ""
  progress : String := ""
  failReason : String := ""
  buttons : Option String := none
  properties : Option String := none
deriving DecidableEq

structure Params where
  failReason : Option String := none
  status : String
  progress : String
deriving DecidableEq

def Params.apply (params : Params) (task : Task) : Task :=
  { task with
    failReason := params.failReason.getD task.failReason
    status := params.status
    progress := params.progress }

def updateWhere (chosen : Task → Bool) (params : Params) (tasks : Tasks) : Tasks :=
  tasks.update (fun task => if chosen task then params.apply task else task) fun task => by
    split <;> rfl

def mjBulkUpdate (mjIds : List String) (params : Params) (tasks : Tasks) : Tasks :=
  updateWhere (fun task => task.mjId ∈ mjIds) params tasks

def mjBulkUpdateByTaskIds (taskIds : List Int) (params : Params) (tasks : Tasks) : Tasks :=
  updateWhere (fun task => task.id ∈ taskIds) params tasks

def getAllUnFinishTasks (tasks : Tasks) : Tasks := tasks.restrict Task.unfinished

/-- The row is written if it still has the status, and the answer says whether it was. -/
def updateWithStatus (task : Task) (fromStatus : String) (tasks : Tasks) : Bool × Tasks :=
  match tasks.lookup task.id with
  | none => (false, tasks)
  | some row => if row.status = fromStatus then (true, tasks.save task) else (false, tasks)

def checkMjTaskNeedUpdate (oldTask : Task) (newTask : MidjourneyDto) : Bool :=
  oldTask.code ≠ 1 ∨ oldTask.progress ≠ newTask.progress ∨ oldTask.promptEn ≠ newTask.promptEn ∨
    oldTask.state ≠ newTask.state ∨ oldTask.submitTime ≠ newTask.submitTime ∨
    oldTask.startTime ≠ newTask.startTime ∨ oldTask.finishTime ≠ newTask.finishTime ∨
    oldTask.imageUrl ≠ newTask.imageUrl ∨ oldTask.status ≠ newTask.status ∨
    oldTask.failReason ≠ newTask.failReason ∨
    (oldTask.progress ≠ "100%" ∧ newTask.failReason ≠ "") ∨ oldTask.videoUrl ≠ newTask.videoUrl ∨
    oldTask.videoUrls ≠ newTask.videoUrls.getD ""

/-- After an hour a task that has not ended counts as failed. The clock shows milliseconds. -/
def MidjourneyDto.orTimedOut (item : MidjourneyDto) (now : Int) (task : Task) : MidjourneyDto :=
  if Int.bmod (now - task.submitTime) (2 ^ 64) > 3600000 ∧ task.progress ≠ "100%" then
    { item with failReason := "上游任务超时（超过1小时）", status := "FAILURE" }
  else item

namespace Task

def copied (task : Task) (item : MidjourneyDto) : Task :=
  { task with
    code := 1
    progress := item.progress
    promptEn := item.promptEn
    state := item.state
    submitTime := item.submitTime
    startTime := item.startTime
    finishTime := item.finishTime
    imageUrl := item.imageUrl
    status := item.status
    failReason := item.failReason
    properties := item.properties.getD task.properties
    buttons := item.buttons.getD task.buttons
    videoUrl := item.videoUrl
    videoUrls := item.videoUrls.getD "" }

def fails (item : MidjourneyDto) : Bool :=
  (item.progress ≠ "100%" ∧ item.failReason ≠ "") ∨ (item.progress = "100%" ∧ item.status = "FAILURE")

def reported (task : Task) (item : MidjourneyDto) : Task :=
  if fails item then { task.copied item with progress := "100%" } else task.copied item

def shouldReturnQuota (task : Task) (item : MidjourneyDto) : Bool := fails item ∧ task.quota ≠ 0

end Task

/-- What the poller works on: the table, the accounts and the loaded tasks, which it changes
in memory. -/
structure Poller where
  tasks : Tasks
  store : Store
  loaded : Tasks

/-- Of the loaded tasks with one id the map holds the last. -/
def taskM (loaded : Tasks) (mjId : String) : Option Task :=
  (loaded.rows.filter fun task => task.mjId = mjId).getLast?

/-- A pass ends, or a panic ends the process with what was done until then. -/
abbrev Polled := Except Poller Poller

namespace Poller

variable (poller : Poller)

/-- The task takes over the item in memory, and in the table if the status there is as it was
in memory. -/
def follow (task : Task) (item : MidjourneyDto) : Poller :=
  let reported := task.reported item
  let write := updateWithStatus reported task.status poller.tasks
  { tasks := write.2
    store :=
      if write.1 ∧ task.shouldReturnQuota item then
        (poller.store.increaseUserQuota none task.userId task.quota).2
      else poller.store
    loaded := poller.loaded.save reported }

/-- An id that is not in the map gives a nil task. -/
def receive (now : Int) (responseItem : MidjourneyDto) : Polled :=
  match taskM poller.loaded responseItem.mjId with
  | none => .error poller
  | some task =>
    let item := responseItem.orTimedOut now task
    if checkMjTaskNeedUpdate task item then .ok (poller.follow task item) else .ok poller

def receiveAll (responseItems : List (Int × MidjourneyDto)) : Polled :=
  responseItems.foldlM (fun current item => current.receive item.1 item.2) poller

end Poller

structure PolledChannel where
  id : Int
  key : String
  baseUrl : Option String
deriving DecidableEq

structure ChannelCache where
  memoryCacheEnabled : Bool
  channels : Table PolledChannel.id
  channelsIDM : Table PolledChannel.id

def ChannelCache.cacheGetChannel (cache : ChannelCache) (id : Int) : Option PolledChannel :=
  if cache.memoryCacheEnabled then cache.channelsIDM.lookup id else cache.channels.lookup id

structure ListRequest where
  requestUrl : String
  ids : List String
  secret : String
deriving DecidableEq

/-- What the poller meets in one pass. A channel that cannot be asked, or whose answer is not
a list, gives none; an item comes with the time at which it is read. -/
structure Surroundings where
  cache : ChannelCache
  answer : Int → ListRequest → Option (List (Int × MidjourneyDto))

/-- The order in which the poller meets the keys of a map. -/
structure MapOrder where
  arrange : List Int → List Int
  perm : ∀ keys, (arrange keys).Perm keys

def lostChannel (channelId : Int) : Params where
  failReason := some ("获取渠道信息失败，请联系管理员，渠道ID：" ++ toString channelId)
  status := "FAILURE"
  progress := "100%"

def PolledChannel.listRequest (channel : PolledChannel) (baseUrl : String) (taskIds : List String) :
    ListRequest where
  requestUrl := baseUrl ++ "/mj/task/list-by-condition"
  ids := taskIds
  secret := channel.key

def loadTasks (tasks : Tasks) : Tasks := (getAllUnFinishTasks tasks).restrict fun task => task.mjId ≠ ""

def nullTaskIds (tasks : Tasks) : List Int :=
  ((getAllUnFinishTasks tasks).restrict fun task => task.mjId = "").rows.map Task.id

/-- `taskChannelM`: its keys, and the ids under a key. -/
def channelKeys (loaded : Tasks) : List Int := (loaded.rows.map Task.channelId).dedup

def channelTaskIds (loaded : Tasks) (channelId : Int) : List String :=
  (loaded.rows.filter fun task => task.channelId = channelId).map Task.mjId

namespace Poller

def begin (poller : Poller) : Poller :=
  { poller with
    tasks :=
      if nullTaskIds poller.tasks = [] then poller.tasks
      else mjBulkUpdateByTaskIds (nullTaskIds poller.tasks) { status := "FAILURE", progress := "100%" }
        poller.tasks
    loaded := loadTasks poller.tasks }

/-- The base URL of the channel is read through its pointer. -/
def visit (surroundings : Surroundings) (taskIds : Int → List String) (poller : Poller)
    (channelId : Int) : Polled :=
  if taskIds channelId = [] then .ok poller
  else
    match surroundings.cache.cacheGetChannel channelId with
    | none =>
      .ok { poller with
        tasks := mjBulkUpdate (taskIds channelId) (lostChannel channelId) poller.tasks }
    | some channel =>
      match channel.baseUrl with
      | none => .error poller
      | some baseUrl =>
        match surroundings.answer channelId (channel.listRequest baseUrl (taskIds channelId)) with
        | none => .ok poller
        | some responseItems => poller.receiveAll responseItems

def updateMidjourneyTaskBulk (surroundings : Surroundings) (order : MapOrder) (poller : Poller) : Polled :=
  let loaded := loadTasks poller.tasks
  (order.arrange (channelKeys loaded)).foldlM (visit surroundings (channelTaskIds loaded)) poller.begin

end Poller

end TokenFactory.Midjourney
