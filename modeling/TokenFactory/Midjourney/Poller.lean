import TokenFactory.Go.Errors
import TokenFactory.Midjourney.Tasks

namespace TokenFactory.Midjourney

open Data Go

/-! What an answer of a channel can do to the poller. -/

section Statements

variable {tasks loaded : Tasks} {task copy : Task} {item : MidjourneyDto} {params : Params}
  {chosen : Task → Bool} {status mjId : String} {id : Int}

@[simp] theorem Task.reported_id (task : Task) (item : MidjourneyDto) : (task.reported item).id = task.id := by
  unfold Task.reported
  split <;> rfl

@[simp] theorem Task.reported_mjId (task : Task) (item : MidjourneyDto) :
    (task.reported item).mjId = task.mjId := by
  unfold Task.reported
  split <;> rfl

theorem Params.apply_apply (params : Params) (task : Task) :
    params.apply (params.apply task) = params.apply task := by
  cases given : params.failReason <;> simp [Params.apply, given]

theorem lookup_updateWhere : (updateWhere chosen params tasks).lookup id =
      (tasks.lookup id).map fun task => if chosen task then params.apply task else task :=
  Table.lookup_update

theorem lookup_updateWhere_of_kept
    (kept : ∀ row ∈ tasks.lookup id, chosen row = true → params.apply row = row) :
    (updateWhere chosen params tasks).lookup id = tasks.lookup id := by
  rw [lookup_updateWhere]
  cases found : tasks.lookup id with
  | none => rfl
  | some row =>
    rw [Option.map_some]
    split
    · rename_i hit
      rw [kept row found hit]
    · rfl

theorem lookup_updateWithStatus_other (other : id ≠ task.id) :
    (updateWithStatus task status tasks).2.lookup id = tasks.lookup id := by
  unfold updateWithStatus
  split
  · rfl
  · split
    · exact Table.lookup_save_other other
    · rfl

theorem mem_of_taskM (found : taskM loaded mjId = some task) : task ∈ loaded ∧ task.mjId = mjId := by
  have among := List.mem_of_getLast? found
  rw [List.mem_filter, decide_eq_true_eq] at among
  exact among

theorem taskM_of_mem (member : copy ∈ loaded) : ∃ task, taskM loaded copy.mjId = some task := by
  have among : copy ∈ loaded.rows.filter fun task => task.mjId = copy.mjId :=
    List.mem_filter.mpr ⟨member, decide_eq_true rfl⟩
  exact ⟨_, List.getLast?_eq_some_getLast (List.ne_nil_of_mem among)⟩

theorem mem_loadTasks : task ∈ loadTasks tasks ↔ task ∈ tasks ∧ task.progress ≠ "100%" ∧ task.mjId ≠ "" := by
  simp only [loadTasks, getAllUnFinishTasks, Table.mem_restrict, Task.unfinished, decide_eq_true_eq, and_assoc]

theorem mem_channelKeys {channelId : Int} :
    channelId ∈ channelKeys loaded ↔ ∃ task ∈ loaded, task.channelId = channelId := by
  rw [channelKeys, List.mem_dedup, List.mem_map]
  rfl

theorem mem_channelTaskIds {channelId : Int} :
    mjId ∈ channelTaskIds loaded channelId ↔ ∃ task ∈ loaded, task.channelId = channelId ∧ task.mjId = mjId := by
  simp only [channelTaskIds, List.mem_map, List.mem_filter, decide_eq_true_eq, and_assoc, Table.mem_rows]

theorem channelTaskIds_ne_nil {channelId : Int} (asked : channelId ∈ channelKeys loaded) :
    channelTaskIds loaded channelId ≠ [] := by
  obtain ⟨task, member, same⟩ := mem_channelKeys.mp asked
  exact List.ne_nil_of_mem (mem_channelTaskIds.mpr ⟨task, member, same, rfl⟩)

end Statements

namespace Surroundings

variable (surroundings : Surroundings)

def items (loaded : Tasks) (channelId : Int) : List (Int × MidjourneyDto) :=
  match surroundings.cache.cacheGetChannel channelId with
  | none => []
  | some channel =>
    match channel.baseUrl with
    | none => []
    | some baseUrl =>
      (surroundings.answer channelId
        (channel.listRequest baseUrl (channelTaskIds loaded channelId))).getD []

def Returned (loaded : Tasks) (mjId : String) : Prop :=
  ∃ channelId ∈ channelKeys loaded, ∃ item ∈ surroundings.items loaded channelId, item.2.mjId = mjId

/-- The rows that a pass has reason to change. -/
def Concerns (tasks : Tasks) (row : Task) : Prop :=
  surroundings.Returned (loadTasks tasks) row.mjId ∨ row.mjId = "" ∨
    surroundings.cache.cacheGetChannel row.channelId = none

/-- Whatever order the channels are asked in, the pass ends, and the other rows are as before. -/
def PassIsSafe (start : Poller) : Prop :=
  ∀ order, ∃ after, start.updateMidjourneyTaskBulk surroundings order = .ok after ∧
    ∀ id, (∀ row ∈ start.tasks.lookup id, ¬ surroundings.Concerns start.tasks row) →
      after.tasks.lookup id = start.tasks.lookup id

/-- The channels that are asked have a base URL and return only ids of unfinished tasks. A row
with the id of a task whose channel is lost may be changed itself, or is already as the lost
channel leaves it. -/
structure Trustworthy (tasks : Tasks) : Prop where
  baseUrl : ∀ channelId ∈ channelKeys (loadTasks tasks),
    ∀ channel ∈ surroundings.cache.cacheGetChannel channelId, channel.baseUrl ≠ none
  known : ∀ mjId, surroundings.Returned (loadTasks tasks) mjId → ∃ task ∈ loadTasks tasks, task.mjId = mjId
  alone : ∀ channelId ∈ channelKeys (loadTasks tasks), surroundings.cache.cacheGetChannel channelId = none →
    ∀ row ∈ tasks, row.mjId ∈ channelTaskIds (loadTasks tasks) channelId →
      surroundings.Concerns tasks row ∨ (lostChannel channelId).apply row = row

end Surroundings

structure Poller.Loaded (loaded : Tasks) (poller : Poller) : Prop where
  copies : ∀ copy ∈ poller.loaded, ∃ task ∈ loaded, task.id = copy.id ∧ task.mjId = copy.mjId
  names : ∀ task ∈ loaded, ∃ copy ∈ poller.loaded, copy.mjId = task.mjId

def Poller.Keeps (tasks : Tasks) (kept : Int → Prop) (poller : Poller) : Prop :=
  ∀ id, kept id → poller.tasks.lookup id = tasks.lookup id

section Steps

variable {surroundings : Surroundings} {poller next : Poller} {loaded tasks : Tasks} {task : Task}
  {item : MidjourneyDto} {now : Int} {kept : Int → Prop}

theorem Poller.Loaded.follow (holds : poller.Loaded loaded) (member : task ∈ poller.loaded) :
    (poller.follow task item).Loaded loaded where
  copies copy among := by
    rcases Table.mem_save.mp among with ⟨rfl, -⟩ | ⟨old, -⟩
    · obtain ⟨original, inside, same, name⟩ := holds.copies task member
      exact ⟨original, inside, by rw [same, Task.reported_id], by rw [name, Task.reported_mjId]⟩
    · exact holds.copies copy old
  names original inside := by
    obtain ⟨copy, among, name⟩ := holds.names original inside
    by_cases own : copy.id = task.id
    · -- The copy is the task itself, and its report has its name.
      obtain rfl := Table.eq_of_key among member own
      exact ⟨copy.reported item, Table.mem_save.mpr (.inl ⟨rfl, copy, among, (Task.reported_id copy item).symm⟩),
        by rw [Task.reported_mjId, name]⟩
    · exact ⟨copy, Table.mem_save.mpr (.inr ⟨among, by rwa [Task.reported_id]⟩), name⟩

theorem Poller.receive_cases (done : poller.receive now item = .ok next) :
    ∃ task, taskM poller.loaded item.mjId = some task ∧
      (next = poller ∨ next = poller.follow task (item.orTimedOut now task)) := by
  unfold Poller.receive at done
  split at done
  · cases done
  · rename_i task found
    dsimp only at done
    split at done
    · exact ⟨task, found, .inr (Except.ok.inj done).symm⟩
    · exact ⟨task, found, .inl (Except.ok.inj done).symm⟩

theorem Poller.Loaded.receive (holds : poller.Loaded loaded) (done : poller.receive now item = .ok next) :
    next.Loaded loaded := by
  obtain ⟨task, found, rfl | rfl⟩ := Poller.receive_cases done
  · exact holds
  · exact holds.follow (mem_of_taskM found).1

theorem Poller.receive_known (holds : poller.Loaded loaded) (done : poller.receive now item = .ok next) :
    ∃ task ∈ loaded, task.mjId = item.mjId := by
  obtain ⟨task, found, -⟩ := Poller.receive_cases done
  obtain ⟨member, name⟩ := mem_of_taskM found
  obtain ⟨original, inside, -, same⟩ := holds.copies task member
  exact ⟨original, inside, same.trans name⟩

theorem Poller.receive_ok (holds : poller.Loaded loaded) (known : ∃ task ∈ loaded, task.mjId = item.mjId) :
    ∃ next, poller.receive now item = .ok next := by
  obtain ⟨original, inside, name⟩ := known
  obtain ⟨copy, among, same⟩ := holds.names original inside
  obtain ⟨task, found⟩ := taskM_of_mem among
  rw [same, name] at found
  unfold Poller.receive
  simp only [found]
  split
  · exact ⟨_, rfl⟩
  · exact ⟨_, rfl⟩

theorem Poller.Keeps.receive (keeps : poller.Keeps tasks kept) (holds : poller.Loaded loaded)
    (apart : ∀ task ∈ loaded, task.mjId = item.mjId → ¬ kept task.id)
    (done : poller.receive now item = .ok next) : next.Keeps tasks kept := by
  obtain ⟨task, found, rfl | rfl⟩ := Poller.receive_cases done
  · exact keeps
  · intro id untouched
    obtain ⟨member, name⟩ := mem_of_taskM found
    obtain ⟨original, inside, same, named⟩ := holds.copies task member
    have other : id ≠ task.id := by
      rintro rfl
      exact apart original inside (named.trans name) (same ▸ untouched)
    rw [← keeps id untouched]
    exact lookup_updateWithStatus_other (by rwa [Task.reported_id])

end Steps

section Visit

variable {surroundings : Surroundings} {poller next : Poller} {loaded tasks : Tasks}
  {channelId : Int} {channel : PolledChannel} {kept : Int → Prop}

section
variable (asked : channelId ∈ channelKeys loaded)
include asked

theorem Poller.visit_lost (lost : surroundings.cache.cacheGetChannel channelId = none) :
    poller.visit surroundings (channelTaskIds loaded) channelId = .ok { poller with
        tasks := mjBulkUpdate (channelTaskIds loaded channelId) (lostChannel channelId) poller.tasks } := by
  rw [Poller.visit, if_neg (channelTaskIds_ne_nil asked), lost]

theorem Poller.visit_withoutBaseUrl
    (found : surroundings.cache.cacheGetChannel channelId = some channel) (unset : channel.baseUrl = none) :
    poller.visit surroundings (channelTaskIds loaded) channelId = .error poller := by
  rw [Poller.visit, if_neg (channelTaskIds_ne_nil asked), found]
  simp only [unset]

theorem Poller.visit_answered
    (found : surroundings.cache.cacheGetChannel channelId = some channel) (set : channel.baseUrl ≠ none) :
    poller.visit surroundings (channelTaskIds loaded) channelId =
      poller.receiveAll (surroundings.items loaded channelId) := by
  obtain ⟨baseUrl, given⟩ := Option.ne_none_iff_exists'.mp set
  rw [Poller.visit, if_neg (channelTaskIds_ne_nil asked), Surroundings.items, found]
  simp only [given]
  cases surroundings.answer channelId (channel.listRequest baseUrl (channelTaskIds loaded channelId)) with
  | none => rfl
  | some items => rfl

theorem Poller.visit_cases
    (done : poller.visit surroundings (channelTaskIds loaded) channelId = .ok next) :
    (surroundings.cache.cacheGetChannel channelId = none ∧ next = { poller with
        tasks := mjBulkUpdate (channelTaskIds loaded channelId) (lostChannel channelId) poller.tasks }) ∨
    (∃ channel, surroundings.cache.cacheGetChannel channelId = some channel ∧ channel.baseUrl ≠ none ∧
      poller.receiveAll (surroundings.items loaded channelId) = .ok next) := by
  cases found : surroundings.cache.cacheGetChannel channelId with
  | none =>
    rw [Poller.visit_lost asked found] at done
    exact .inl ⟨rfl, (Except.ok.inj done).symm⟩
  | some channel =>
    by_cases unset : channel.baseUrl = none
    · rw [Poller.visit_withoutBaseUrl asked found unset] at done
      cases done
    · rw [Poller.visit_answered asked found unset] at done
      exact .inr ⟨channel, rfl, unset, done⟩

end

theorem Poller.Loaded.visit (holds : poller.Loaded loaded) (asked : channelId ∈ channelKeys loaded)
    (done : poller.visit surroundings (channelTaskIds loaded) channelId = .ok next) : next.Loaded loaded := by
  rcases Poller.visit_cases asked done with ⟨-, rfl⟩ | ⟨channel, -, -, received⟩
  · exact ⟨holds.copies, holds.names⟩
  · exact foldlM_invariant (fun state item later _ here step => Poller.Loaded.receive here step) holds received

theorem Poller.visit_known (holds : poller.Loaded loaded) (asked : channelId ∈ channelKeys loaded)
    (done : poller.visit surroundings (channelTaskIds loaded) channelId = .ok next)
    {item : Int × MidjourneyDto} (returned : item ∈ surroundings.items loaded channelId) :
    ∃ task ∈ loaded, task.mjId = item.2.mjId := by
  rcases Poller.visit_cases asked done with ⟨lost, -⟩ | ⟨channel, -, -, received⟩
  · rw [Surroundings.items, lost] at returned
    cases returned
  · obtain ⟨state, later, here, step⟩ :=
      foldlM_step (fun state item later _ here step => Poller.Loaded.receive here step) holds received returned
    exact Poller.receive_known here step

end Visit

section Pass

variable {surroundings : Surroundings} {start : Poller}

theorem Poller.begin_loaded (start : Poller) : start.begin.Loaded (loadTasks start.tasks) where
  copies copy member := ⟨copy, member, rfl, rfl⟩
  names task member := ⟨task, member, rfl⟩

theorem mem_nullTaskIds {tasks : Tasks} {id : Int} (among : id ∈ nullTaskIds tasks) :
    ∃ row ∈ tasks.lookup id, row.progress ≠ "100%" ∧ row.mjId = "" := by
  obtain ⟨row, listed, rfl⟩ := List.mem_map.mp among
  obtain ⟨unfinished, empty⟩ := Table.mem_restrict.mp (Table.mem_rows.mp listed)
  obtain ⟨member, unended⟩ := Table.mem_restrict.mp unfinished
  exact ⟨row, Table.lookup_eq_some.mpr ⟨member, rfl⟩, of_decide_eq_true unended, of_decide_eq_true empty⟩

theorem Poller.begin_keeps {kept : Int → Prop}
    (named : ∀ id, kept id → ∀ row ∈ start.tasks.lookup id, row.mjId ≠ "") :
    start.begin.Keeps start.tasks kept := by
  intro id untouched
  unfold Poller.begin
  split
  · rfl
  · refine lookup_updateWhere_of_kept fun row found hit => ?_
    obtain ⟨rfl⟩ := Table.key_of_lookup found
    obtain ⟨other, same, -, empty⟩ := mem_nullTaskIds (of_decide_eq_true hit)
    exact absurd empty (named _ untouched other same)

def Surroundings.Spared (surroundings : Surroundings) (tasks : Tasks) (id : Int) : Prop :=
  ∀ row ∈ tasks.lookup id, ¬ surroundings.Concerns tasks row

/-- What holds along a pass over trustworthy channels. -/
structure Surroundings.Spares (surroundings : Surroundings) (tasks : Tasks) (poller : Poller) : Prop where
  loaded : poller.Loaded (loadTasks tasks)
  keeps : poller.Keeps tasks (surroundings.Spared tasks)

variable {tasks : Tasks} {poller : Poller} {channelId : Int}

theorem Surroundings.Trustworthy.lost (trust : surroundings.Trustworthy tasks)
    (asked : channelId ∈ channelKeys (loadTasks tasks))
    (lost : surroundings.cache.cacheGetChannel channelId = none) (spares : surroundings.Spares tasks poller) :
    surroundings.Spares tasks { poller with
      tasks := mjBulkUpdate (channelTaskIds (loadTasks tasks) channelId) (lostChannel channelId)
        poller.tasks } where
  loaded := ⟨spares.loaded.copies, spares.loaded.names⟩
  keeps id spared := by
    rw [← spares.keeps id spared]
    refine lookup_updateWhere_of_kept fun row found hit => ?_
    rw [spares.keeps id spared] at found
    have member : row ∈ tasks := Table.mem_of_lookup found
    rcases trust.alone channelId asked lost row member (of_decide_eq_true hit) with concerned | already
    · exact absurd concerned (spared row found)
    · exact already

/-- An item spares every row that is not concerned: it is about a loaded task, whose id was
returned. -/
theorem Surroundings.Trustworthy.receive (trust : surroundings.Trustworthy tasks)
    {item : Int × MidjourneyDto} (asked : channelId ∈ channelKeys (loadTasks tasks))
    (returned : item ∈ surroundings.items (loadTasks tasks) channelId)
    (spares : surroundings.Spares tasks poller) :
    ∃ next, poller.receive item.1 item.2 = .ok next ∧ surroundings.Spares tasks next := by
  have named : surroundings.Returned (loadTasks tasks) item.2.mjId := ⟨channelId, asked, item, returned, rfl⟩
  obtain ⟨next, done⟩ := Poller.receive_ok spares.loaded (trust.known item.2.mjId named)
  refine ⟨next, done, spares.loaded.receive done, spares.keeps.receive spares.loaded ?_ done⟩
  intro task loaded same spared
  have found : task ∈ tasks.lookup task.id := Table.lookup_eq_some.mpr ⟨(mem_loadTasks.mp loaded).1, rfl⟩
  exact spared task found (.inl (same ▸ named))

theorem Surroundings.Trustworthy.visit (trust : surroundings.Trustworthy tasks)
    (asked : channelId ∈ channelKeys (loadTasks tasks)) (spares : surroundings.Spares tasks poller) :
    ∃ next, poller.visit surroundings (channelTaskIds (loadTasks tasks)) channelId = .ok next ∧
      surroundings.Spares tasks next := by
  cases found : surroundings.cache.cacheGetChannel channelId with
  | none => exact ⟨_, Poller.visit_lost asked found, trust.lost asked found spares⟩
  | some channel =>
    rw [Poller.visit_answered asked found (trust.baseUrl channelId asked channel found)]
    exact foldlM_succeeds (fun state item returned here => trust.receive asked returned here) spares

theorem Surroundings.Trustworthy.passIsSafe (trust : surroundings.Trustworthy start.tasks) :
    surroundings.PassIsSafe start := by
  intro order
  have begins : surroundings.Spares start.tasks start.begin := {
    loaded := start.begin_loaded
    keeps := Poller.begin_keeps fun id spared row found empty => spared row found (.inr (.inl empty)) }
  obtain ⟨after, done, spares⟩ := foldlM_succeeds
    (fun state channelId visited here => trust.visit ((order.perm _).mem_iff.mp visited) here) begins
  exact ⟨after, done, spares.keeps⟩

/-- The order in which one channel comes last. -/
def MapOrder.last (channelId : Int) : MapOrder where
  arrange keys := if channelId ∈ keys then keys.erase channelId ++ [channelId] else keys
  perm keys := by
    split
    · rename_i among
      exact (List.perm_append_singleton _ _).trans (List.perm_cons_erase among).symm
    · exact .refl _

theorem Poller.visited {order : MapOrder} {after : Poller}
    (done : start.updateMidjourneyTaskBulk surroundings order = .ok after)
    (asked : channelId ∈ channelKeys (loadTasks start.tasks)) :
    ∃ state next : Poller, state.Loaded (loadTasks start.tasks) ∧
      state.visit surroundings (channelTaskIds (loadTasks start.tasks)) channelId = .ok next :=
  foldlM_step
    (fun _ _ _ among here step => Poller.Loaded.visit here ((order.perm _).mem_iff.mp among) step)
    start.begin_loaded done ((order.perm _).mem_iff.mpr asked)

theorem Poller.lost_last {after : Poller} (asked : channelId ∈ channelKeys (loadTasks start.tasks))
    (lost : surroundings.cache.cacheGetChannel channelId = none)
    (done : start.updateMidjourneyTaskBulk surroundings (.last channelId) = .ok after) :
    ∃ before, after.tasks =
      mjBulkUpdate (channelTaskIds (loadTasks start.tasks) channelId) (lostChannel channelId) before := by
  rw [Poller.updateMidjourneyTaskBulk] at done
  simp only [MapOrder.last, asked, ↓reduceIte, List.foldlM_append] at done
  obtain ⟨state, -, final⟩ := bind_ok.mp done
  rw [List.foldlM_cons, Poller.visit_lost asked lost, ok_bind] at final
  obtain rfl := Except.ok.inj final
  exact ⟨state.tasks, rfl⟩

theorem Surroundings.PassIsSafe.trustworthy (safe : surroundings.PassIsSafe start) :
    surroundings.Trustworthy start.tasks where
  baseUrl channelId asked channel found unset := by
    obtain ⟨after, done, -⟩ := safe (.last channelId)
    obtain ⟨state, next, -, visited⟩ := Poller.visited done asked
    rw [Poller.visit_withoutBaseUrl asked found unset] at visited
    cases visited
  known mjId returned := by
    obtain ⟨channelId, asked, item, among, rfl⟩ := returned
    obtain ⟨after, done, -⟩ := safe (.last channelId)
    obtain ⟨state, next, loaded, visited⟩ := Poller.visited done asked
    exact Poller.visit_known loaded asked visited among
  alone channelId asked lost row member shared := by
    obtain ⟨after, done, keeps⟩ := safe (.last channelId)
    obtain ⟨before, final⟩ := Poller.lost_last asked lost done
    by_cases concerned : surroundings.Concerns start.tasks row
    · exact .inl concerned
    · right
      have found : start.tasks.lookup row.id = some row := Table.lookup_eq_some.mpr ⟨member, rfl⟩
      have same := keeps row.id fun other here => by
        rw [found, Option.mem_some_iff] at here
        exact here ▸ concerned
      -- The row is what the statement has left, and the statement does nothing twice.
      rw [final, found, mjBulkUpdate, lookup_updateWhere] at same
      obtain ⟨old, -, left⟩ := Option.map_eq_some_iff.mp same
      split at left
      · rw [← left, Params.apply_apply]
      · rename_i other
        exact absurd (decide_eq_true (left ▸ shared)) other

/-- One pass ends without a panic and spares the rows that are not concerned, in every order
of the channels, exactly if the channels are trustworthy. -/
theorem pass_is_safe_iff (surroundings : Surroundings) (start : Poller) :
    surroundings.PassIsSafe start ↔ surroundings.Trustworthy start.tasks :=
  ⟨Surroundings.PassIsSafe.trustworthy, Surroundings.Trustworthy.passIsSafe⟩

end Pass

/-! The channel of the only task returns an item with another id. -/

def askedTask : Task where
  id := 1
  code := 1
  userId := 1
  action := "IMAGINE"
  mjId := "asked"
  prompt := "a cat"
  description := "提交成功"
  submitTime := 1760000000000
  progress := "0%"
  channelId := 7
  quota := 10

def openCache : ChannelCache where
  memoryCacheEnabled := true
  channels := .empty
  channelsIDM := ⟨[{ id := 7, key := "sk-7", baseUrl := some "upstream-7" }], List.nodup_singleton _⟩

def oneUser : Billing.Store where
  quota _ := 100
  token _ := ⟨100, 0⟩
  subscriptions := .empty fun _ => none

def polledTask : Poller where
  tasks := ⟨[askedTask], List.nodup_singleton _⟩
  store := oneUser
  loaded := .empty

def strangeAnswer : Surroundings where
  cache := openCache
  answer _ _ := some [(1760000001000, { mjId := "unasked", progress := "50%" })]

theorem unknown_id_stops_poller : ¬ strangeAnswer.PassIsSafe polledTask := by
  intro safe
  obtain ⟨after, done, -⟩ := safe ⟨id, fun _ => .refl _⟩
  cases done

end TokenFactory.Midjourney
