import TokenFactory.Polling.Data

namespace TokenFactory.Polling

open Go Billing

/-! The actors that race on one task row.

An actor reads the row into a copy, waits for upstream where it asks upstream,
and then makes its database statements one at a time. `Phase` is what it is
about to do; between two of its statements any other actor may act. -/

structure SunoDataResponse where
  status : String
  failReason : String := ""
  submitTime : Int
  startTime : Int
  finishTime : Int
  data : String
deriving DecidableEq

/-- The channels a user's fetch asks upstream on; on the others it only reads. -/
inductive FetchChannel where
  | vertexAi
  | gemini
  | openAIVideo
  | videoGenerator
  | tencentCloudVideo
  | aliVideo
  | doubaoVideo
  | seedance
  | tokenFactoryOpen
deriving DecidableEq

/-- `update` is a write guarded by the status the copy was read with, and says
what is billed when the write was made and when it was not. `items` to `save`
are the rounds of the Suno poller; `failed` marks a round that refunds. -/
inductive Phase where
  | idle
  | polling (task : Task)
  | pollingSuno (task : Task)
  | fetching (channel : FetchChannel) (task : Task)
  | update (expected : TaskStatus) (task : Task) (won lost : Bill)
  | bill (task : Task) (bill : Bill)
  | adjustToken (task : Task) (movement : Movement)
  | recordQuota (task : Task) (actual : Int)
  | items (task : Task) (rest : List SunoDataResponse)
  | refund (task : Task) (rest : List SunoDataResponse)
  | refundToken (task : Task) (movement : Movement) (rest : List SunoDataResponse)
  | save (task : Task) (failed : Bool) (rest : List SunoDataResponse)
deriving DecidableEq

structure Moment where
  now : Int
  serverAddress : String
deriving DecidableEq

def Moment.stamp (moment : Moment) (time : Int) : Int := if time = 0 then moment.now else time

def buildProxyUrl (serverAddress taskId : String) : String :=
  serverAddress ++ "/v1/videos/" ++ taskId ++ "/content"

def legacyTaskCutoff : Int := 1740182400

def sweepTimedOutTasks (now timeoutMinutes : Int) (task : Task) : Phase :=
  let isLegacy : Bool := task.submitTime > 0 ∧ task.submitTime < legacyTaskCutoff
  let failed := { task with
    status := .failure
    progress := "100%"
    finishTime := now
    failReason :=
      if isLegacy then "任务超时（旧系统遗留任务，不进行退款，请联系管理员）"
      else "任务超时（" ++ toString timeoutMinutes ++ "分钟）" }
  .update task.status failed (if ¬ isLegacy ∧ task.quota ≠ 0 then .refund else .nothing) .nothing

def failTaskAndRefund (moment : Moment) (reason : String) (task : Task) : Phase :=
  if task.status.terminal then .idle
  else
    let failed := { task with
      status := .failure
      progress := "100%"
      failReason := reason
      finishTime := moment.stamp task.finishTime }
    .update task.status failed (if task.quota ≠ 0 then .refund else .nothing) .nothing

/-- How a body without a status reads as an error response. -/
inductive ErrorBody where
  | unreadable
  | tooManyRequests
  | openAIError
  | unrecognized
deriving DecidableEq

/-- An upstream answer that could be parsed; `body` is the redacted response. -/
structure VideoAnswer where
  result : TaskInfo
  body : String
  errorBody : ErrorBody := .unrecognized
deriving DecidableEq

/-- A rate limit ends the round without a result. -/
def VideoAnswer.taskResult (answer : VideoAnswer) : Option TaskInfo :=
  if answer.result.status ≠ "" then some answer.result
  else
    match answer.errorBody with
    | .unreadable => some answer.result
    | .tooManyRequests => none
    | .openAIError => some (failTaskInfo "upstream returned error")
    | .unrecognized => some (failTaskInfo "upstream returned unrecognized message")

def finishedUrl (moment : Moment) (task : Task) (url : String) : String :=
  if "data:".toList <+: url.toList then buildProxyUrl moment.serverAddress task.taskId
  else if url ≠ "" then url
  else buildProxyUrl moment.serverAddress task.taskId

/-- The copy with the reported status; an unknown status is an error. -/
def applyTaskResult (moment : Moment) (task : Task) (result : TaskInfo) : Option Task :=
  let status := TaskStatus.ofText result.status
  let progress (known : String) := if result.progress ≠ "" then result.progress else known
  match status with
  | .submitted => some { task with status, progress := progress "10%" }
  | .queued => some { task with status, progress := progress "20%" }
  | .inProgress =>
    some { task with status, progress := progress "30%", startTime := moment.stamp task.startTime }
  | .success =>
    some ({ task with
      status
      progress := progress "100%"
      finishTime := moment.stamp task.finishTime }.setResultUrl (finishedUrl moment task result.url))
  | .failure =>
    some { task with
      status
      progress := "100%"
      finishTime := moment.stamp task.finishTime
      failReason := result.reason }
  | _ => none

def updateVideoSingleTask (moment : Moment) (task : Task) (answer : Option VideoAnswer) : Phase :=
  match answer with
  | none => .idle
  | some answer =>
    match answer.taskResult with
    | none => .idle
    | some result =>
      match applyTaskResult moment { task with data := answer.body } result with
      | none => .idle
      | some next =>
        let owed := if next.status = .failure ∧ task.quota ≠ 0 then Bill.refund else .nothing
        if next.status.terminal ∧ task.status ≠ next.status then
          .update task.status next
            (if next.status = .success then .settleOnComplete result else owed) .nothing
        else if task.snapshot ≠ next.snapshot then .update task.status next owed owed
        else .bill next owed

structure FetchAnswer where
  result : TaskInfo
  body : String
deriving DecidableEq

/-- The copy that the snapshot is taken of: the body is stored before. -/
def FetchChannel.storeBody (task : Task) (body : String) : FetchChannel → Task
  | .vertexAi => task
  | .gemini => task
  | _ => { task with data := body }

def fetchedStatus (task : Task) (result : TaskInfo) : TaskStatus :=
  if result.status ≠ "" then .ofText result.status else task.status

def applyFetchedResult (moment : Moment) (task : Task) (result : TaskInfo) : Task :=
  let status := fetchedStatus task result
  let progress (known : String) := if result.progress ≠ "" then result.progress else known
  let next : Task :=
    match status with
    | .inProgress =>
      { task with status, startTime := moment.stamp task.startTime, progress := progress "30%" }
    | .success => { task with status, finishTime := moment.stamp task.finishTime, progress := "100%" }
    | .failure => { task with status, finishTime := moment.stamp task.finishTime, progress := "100%" }
    | _ => { task with status, progress := progress task.progress }
  if "data:".toList <+: result.url.toList then next
  else if result.url ≠ "" then next.setResultUrl result.url
  else if status = .success then next.setResultUrl (buildProxyUrl moment.serverAddress task.taskId)
  else next

/-- The settlement does not ask whether the write was made. -/
def tryRealtimeFetch (moment : Moment) (channel : FetchChannel) (task : Task)
    (answer : Option FetchAnswer) : Phase :=
  match answer with
  | none => .idle
  | some answer =>
    let task := channel.storeBody task answer.body
    let next := applyFetchedResult moment task answer.result
    let settle :=
      if next.status = .success ∧ task.status ≠ .success then Bill.settleOnFetch answer.result
      else .nothing
    if task.snapshot ≠ next.snapshot then
      .update task.status next
        (if next.status = .failure ∧ task.status ≠ .failure ∧ next.quota ≠ 0 then .refund else settle)
        settle
    else .bill next settle

/-- The comparison looks at the sorted bytes of the data. -/
def sortedBytes (data : String) : List UInt8 := data.toUTF8.toList.mergeSort

def taskNeedsUpdate (task : Task) (item : SunoDataResponse) : Bool :=
  task.submitTime ≠ item.submitTime ∨ task.startTime ≠ item.startTime ∨
    task.finishTime ≠ item.finishTime ∨ task.status.text ≠ item.status ∨
    task.failReason ≠ item.failReason ∨ (task.status.terminal ∧ task.progress ≠ "100%") ∨
    sortedBytes task.data ≠ sortedBytes item.data

def applySunoItem (task : Task) (item : SunoDataResponse) : Task :=
  { task with
    status := if item.status ≠ "" then .ofText item.status else task.status
    failReason := if item.failReason ≠ "" then item.failReason else task.failReason
    submitTime := if item.submitTime ≠ 0 then item.submitTime else task.submitTime
    startTime := if item.startTime ≠ 0 then item.startTime else task.startTime
    finishTime := if item.finishTime ≠ 0 then item.finishTime else task.finishTime }

def updateSunoTask (task : Task) (item : SunoDataResponse) (rest : List SunoDataResponse) : Phase :=
  if ¬ taskNeedsUpdate task item then .items task rest
  else
    let next := applySunoItem task item
    let failed : Bool := item.failReason ≠ "" ∨ next.status = .failure
    let next := { next with
      progress := if failed ∨ item.status = "SUCCESS" then "100%" else next.progress
      data := item.data }
    if failed then .refund next rest else .save next false rest

inductive Actor where
  | poller
  | suno
  | sweeper (timeoutMinutes : Int)
  | failer (reason : String)
  | fetch (channel : FetchChannel)
deriving DecidableEq

/-- What an actor has to do once it has read the row, if it selects the row. -/
def Actor.read (moment : Moment) (row : Task) : Actor → Option Phase
  | .poller =>
    if row.unfinished ∧ row.getUpstreamTaskId ≠ "" ∧ row.platform ≠ .suno ∧
        row.platform ≠ .midjourney then some (.polling row)
    else none
  | .suno =>
    if row.unfinished ∧ row.getUpstreamTaskId ≠ "" ∧ row.platform = .suno then
      some (.pollingSuno row)
    else none
  | .sweeper timeoutMinutes =>
    if 0 < timeoutMinutes ∧ row.unfinished ∧ row.submitTime < moment.now - timeoutMinutes * 60 then
      some (sweepTimedOutTasks moment.now timeoutMinutes row)
    else none
  | .failer reason => if row.unfinished then some (failTaskAndRefund moment reason row) else none
  | .fetch channel => some (.fetching channel row)

/-- What a database statement meets: its error, if it fails, and the prices. -/
structure Attempt where
  fault : Option String
  pricing : Pricing

/-- The row, the accounts and the payments after a statement, and what comes next. -/
structure Turn where
  row : Task
  store : Store
  paid : List Movement
  next : Phase

def afterRefund (task : Task) (rest : List SunoDataResponse) : Option Movement → Phase
  | none => .save task true rest
  | some movement => .refundToken task movement rest

def afterBill (task : Task) : Option Movement → Phase
  | none => .idle
  | some movement => .adjustToken task movement

def pay (attempt : Attempt) (row : Task) (store : Store) (task : Task) (bill : Bill)
    (next : Option Movement → Phase) : Turn :=
  match bill.movement attempt.pricing task with
  | none => ⟨row, store, [], next none⟩
  | some movement =>
    match taskAdjustFunding attempt.fault store task movement.delta with
    | (.error _, after) => ⟨row, after, [], next none⟩
    | (.ok (), after) => ⟨row, after, [movement], next (some movement)⟩

def Phase.advance (attempt : Attempt) (row : Task) (store : Store) : Phase → Turn
  | .update expected task won lost =>
    if attempt.fault = none ∧ row.status = expected then ⟨task, store, [], .bill task won⟩
    else ⟨row, store, [], .bill task lost⟩
  | .bill task due => pay attempt row store task due (afterBill task)
  | .adjustToken task movement =>
    ⟨row, taskAdjustTokenQuota attempt.fault store task movement.delta, [],
      match movement with
      | .refund _ => .idle
      | .settlement actual _ => .recordQuota task actual⟩
  | .recordQuota task actual =>
    ⟨if task.id > 0 ∧ attempt.fault = none then { row with quota := actual } else row, store, [], .idle⟩
  | .items _ [] => ⟨row, store, [], .idle⟩
  | .items task (item :: rest) => ⟨row, store, [], updateSunoTask task item rest⟩
  | .refund task rest => pay attempt row store task .refund (afterRefund task rest)
  | .refundToken task movement rest =>
    ⟨row, taskAdjustTokenQuota attempt.fault store task movement.delta, [], .save task true rest⟩
  | .save task _ rest => ⟨if attempt.fault = none then task else row, store, [], .items task rest⟩
  | waiting => ⟨row, store, [], waiting⟩

/-- The row of one task, the accounts, the actors at work on the row, and every
payment made for the task so far. -/
structure World where
  row : Task
  store : Store
  actors : List Phase
  ledger : List Movement

def World.start (row : Task) (store : Store) : World := ⟨row, store, [], []⟩

/-- What upstream says to an actor that waits; `none` is a failed request. -/
inductive Answer where
  | video (moment : Moment) (answer : Option VideoAnswer)
  | suno (responses : List SunoDataResponse)
  | fetch (moment : Moment) (answer : Option FetchAnswer)

def Phase.answered : Phase → Answer → Phase
  | .polling task, .video moment answer => updateVideoSingleTask moment task answer
  | .pollingSuno task, .suno responses => .items task responses
  | .fetching channel task, .fetch moment answer => tryRealtimeFetch moment channel task answer
  | phase, _ => phase

inductive Event where
  | read (actor : Actor) (moment : Moment)
  | answer (index : Nat) (answer : Answer)
  | advance (index : Nat) (attempt : Attempt)

def World.step (world : World) : Event → World
  | .read actor moment =>
    match actor.read moment world.row with
    | none => world
    | some phase => { world with actors := world.actors ++ [phase] }
  | .answer index answer =>
    match world.actors[index]? with
    | none => world
    | some phase => { world with actors := world.actors.set index (phase.answered answer) }
  | .advance index attempt =>
    match world.actors[index]? with
    | none => world
    | some phase =>
      let turn := phase.advance attempt world.row world.store
      ⟨turn.row, turn.store, world.actors.set index turn.next, world.ledger ++ turn.paid⟩

end TokenFactory.Polling
