import TokenFactory.Midjourney.Machine

namespace TokenFactory.Midjourney

open Data Go Billing

/-! What the passes of the poller do to a wallet. -/

/-- The wallet of the user against its value before the submission. -/
inductive Task.Settles (before now : Int) (task : Task) : Prop where
  | free (quota : task.quota = 0) (even : now = before)
  | unnamed (mjId : task.mjId = "") (even : now = before)
  | charged (unfinished : task.progress ≠ "100%") (named : task.mjId ≠ "") (owed : now = before - task.quota)
  | repaid (finished : task.progress = "100%") (even : now = before)
  | earned (finished : task.progress = "100%") (done : task.status ≠ "FAILURE")
      (owed : now = before - task.quota)

/-- The bill of a task: what no statement of the poller writes. -/
structure Task.SameBill (task other : Task) : Prop where
  userId : task.userId = other.userId
  quota : task.quota = other.quota
  mjId : task.mjId = other.mjId

section Settles

variable {task : Task} {before now : Int} {item : MidjourneyDto} {params : Params}

theorem Task.SameBill.refl (task : Task) : task.SameBill task := ⟨rfl, rfl, rfl⟩

theorem Task.SameBill.symm {other : Task} (same : task.SameBill other) : other.SameBill task :=
  ⟨same.userId.symm, same.quota.symm, same.mjId.symm⟩

theorem Task.SameBill.trans {middle other : Task} (first : task.SameBill middle) (second : middle.SameBill other) :
    task.SameBill other :=
  ⟨first.userId.trans second.userId, first.quota.trans second.quota, first.mjId.trans second.mjId⟩

theorem Task.reported_sameBill (task : Task) (item : MidjourneyDto) : (task.reported item).SameBill task := by
  unfold Task.reported
  split <;> exact ⟨rfl, rfl, rfl⟩

theorem Params.ite_sameBill (chosen : Prop) [Decidable chosen] (params : Params) (task : Task) :
    (if chosen then params.apply task else task).SameBill task := by
  split <;> exact ⟨rfl, rfl, rfl⟩

section
variable (settles : task.Settles before now)
include settles

theorem Task.Settles.le (valid : 0 ≤ task.quota) : now ≤ before := by
  cases settles <;> omega

theorem Task.Settles.even (free : task.quota = 0) : now = before := by
  cases settles <;> omega

theorem Task.Settles.back (failed : task.status = "FAILURE") (finished : task.progress = "100%") : now = before := by
  cases settles with
  | free _ even | unnamed _ even | repaid _ even => exact even
  | charged unfinished => exact absurd finished unfinished
  | earned _ done => exact absurd failed done

theorem Task.Settles.fail_unnamed (unfinished : task.progress ≠ "100%") (empty : task.mjId = "") :
    (params.apply task).Settles before now := by
  cases settles with
  | free quota even => exact .free quota even
  | unnamed mjId even => exact .unnamed mjId even
  | charged _ named => exact absurd empty named
  | repaid finished | earned finished => exact absurd finished unfinished

end

theorem Task.Settles.reported (unfinished : task.progress ≠ "100%") (named : task.mjId ≠ "")
    (settles : task.Settles before now) (moves : task.quota ≠ 0) :
    (task.reported item).Settles before (if Task.fails item then now + task.quota else now) := by
  have owed : now = before - task.quota := by
    cases settles with
    | free quota => exact absurd quota moves
    | unnamed empty => exact absurd empty named
    | charged _ _ owed => exact owed
    | repaid finished | earned finished => exact absurd finished unfinished
  unfold Task.reported
  by_cases failed : Task.fails item = true
  · rw [if_pos failed, if_pos failed]
    exact .repaid rfl (by omega)
  · rw [if_neg failed, if_neg failed]
    by_cases finished : item.progress = "100%"
    · refine .earned finished ?_ owed
      intro failure
      exact failed (decide_eq_true (.inr ⟨finished, failure⟩))
    · exact .charged finished named owed

end Settles

section Accounts

variable {store : Store} {userId other quota : Int}

theorem quota_addQuota_self (store : Store) (userId amount : Int) :
    (store.addQuota userId amount).quota userId = store.quota userId + amount := by
  simp [Store.addQuota]

theorem quota_addQuota_other (store : Store) {userId other : Int} (apart : userId ≠ other) (amount : Int) :
    (store.addQuota other amount).quota userId = store.quota userId := by
  simp [Store.addQuota, apart]

theorem increaseUserQuota_eq (valid : 0 ≤ quota) :
    (store.increaseUserQuota none userId quota).2 = store.addQuota userId quota := by
  unfold Store.increaseUserQuota Store.guarded
  rw [if_neg (by omega)]

theorem quota_increaseUserQuota_nonpos (nonpos : quota ≤ 0) :
    (store.increaseUserQuota none other quota).2.quota userId = store.quota userId := by
  by_cases negative : quota < 0
  · unfold Store.increaseUserQuota Store.guarded
    rw [if_pos negative]
  · obtain rfl : quota = 0 := by omega
    rw [increaseUserQuota_eq le_rfl, Store.addQuota_zero]

theorem quota_increaseUserQuota_other (apart : userId ≠ other) :
    (store.increaseUserQuota none other quota).2.quota userId = store.quota userId := by
  by_cases valid : 0 ≤ quota
  · rw [increaseUserQuota_eq valid, quota_addQuota_other store apart]
  · exact quota_increaseUserQuota_nonpos (by omega)

end Accounts

/-- Task `id` of the user settles with the wallet. Nothing else pays into the wallet, and the
copy of a task that costs something is the row itself. -/
structure Poller.Balanced (userId id before : Int) (poller : Poller) : Prop where
  low : poller.store.quota userId ≤ before
  own : ∀ task ∈ poller.tasks.lookup id,
    task.userId = userId ∧ 0 ≤ task.quota ∧ task.Settles before (poller.store.quota userId)
  others : ∀ task ∈ loadTasks poller.tasks, task.userId = userId → task.id = id ∨ task.quota ≤ 0
  copies : ∀ copy ∈ poller.loaded, copy.mjId ≠ "" ∧ (copy.userId = userId → copy.id = id ∨ copy.quota ≤ 0)
  synced : ∀ copy ∈ poller.loaded, copy.id = id →
    ∃ task ∈ poller.tasks.lookup id, copy.SameBill task ∧ (copy.quota ≠ 0 → task = copy)

section Invariant

variable {poller : Poller} {userId id before : Int} {tasks : Tasks} {task row : Task} {params : Params}
  {chosen : Task → Bool} {item : MidjourneyDto}

theorem mem_loadTasks_of_updateWhere (finishes : params.progress = "100%")
    (member : row ∈ loadTasks (updateWhere chosen params tasks)) : row ∈ loadTasks tasks := by
  obtain ⟨present, unfinished, named⟩ := mem_loadTasks.mp member
  obtain ⟨old, inside, same⟩ := Table.mem_update.mp present
  by_cases hit : chosen old = true
  · rw [if_pos hit] at same
    exact absurd (same ▸ finishes) unfinished
  · rw [if_neg hit] at same
    subst same
    exact mem_loadTasks.mpr ⟨inside, unfinished, named⟩

theorem lookup_begin : poller.begin.tasks.lookup id = (poller.tasks.lookup id).map fun task =>
      if task.progress ≠ "100%" ∧ task.mjId = "" then
        ({ status := "FAILURE", progress := "100%" } : Params).apply task
      else task := by
  have listed : ∀ task ∈ poller.tasks.lookup id,
      (task.id ∈ nullTaskIds poller.tasks ↔ task.progress ≠ "100%" ∧ task.mjId = "") := by
    intro task found
    obtain ⟨member, rfl⟩ := Table.lookup_eq_some.mp found
    constructor
    · intro among
      obtain ⟨other, same, unfinished, empty⟩ := mem_nullTaskIds among
      obtain rfl := Option.some.inj (found.symm.trans same)
      exact ⟨unfinished, empty⟩
    · intro ⟨unfinished, empty⟩
      refine List.mem_map.mpr ⟨task, Table.mem_rows.mpr ?_, rfl⟩
      exact Table.mem_restrict.mpr
        ⟨Table.mem_restrict.mpr ⟨member, decide_eq_true unfinished⟩, decide_eq_true empty⟩
  unfold Poller.begin
  cases found : poller.tasks.lookup id with
  | none =>
    split
    · exact found
    · rw [mjBulkUpdateByTaskIds, lookup_updateWhere, found]
      rfl
  | some task =>
    rw [Option.map_some]
    have here := listed task found
    split
    · rename_i empty
      rw [empty] at here
      rw [found, if_neg (fun both => List.not_mem_nil (here.mpr both))]
    · rw [mjBulkUpdateByTaskIds, lookup_updateWhere, found, Option.map_some]
      simp only [decide_eq_true_eq, here]

theorem Poller.Balanced.begin (balanced : poller.Balanced userId id before) :
    poller.begin.Balanced userId id before where
  low := balanced.low
  own task found := by
    rw [lookup_begin] at found
    obtain ⟨old, held, same⟩ := Option.map_eq_some_iff.mp found
    obtain ⟨user, valid, settles⟩ := balanced.own old held
    split at same
    · rename_i hit
      subst same
      exact ⟨user, valid, settles.fail_unnamed hit.1 hit.2⟩
    · subst same
      exact ⟨user, valid, settles⟩
  others task member := by
    refine balanced.others task ?_
    unfold Poller.begin at member
    split at member
    · exact member
    · exact mem_loadTasks_of_updateWhere rfl member
  copies copy member := ⟨(mem_loadTasks.mp member).2.2, balanced.others copy member⟩
  synced copy member same := by
    obtain ⟨present, -, named⟩ := mem_loadTasks.mp member
    refine ⟨copy, ?_, .refl copy, fun _ => rfl⟩
    rw [lookup_begin, Table.lookup_eq_some.mpr ⟨present, same⟩, Option.map_some,
      if_neg fun hit => named hit.2]
    rfl

theorem Poller.Balanced.lost (balanced : poller.Balanced userId id before) {mjIds : List String}
    (finishes : params.progress = "100%")
    (apart : ∀ task ∈ poller.tasks.lookup id, task.quota = 0 ∨ task.mjId ∉ mjIds) :
    Poller.Balanced userId id before { poller with tasks := mjBulkUpdate mjIds params poller.tasks } where
  low := balanced.low
  own task found := by
    rw [mjBulkUpdate, lookup_updateWhere] at found
    obtain ⟨old, held, same⟩ := Option.map_eq_some_iff.mp found
    obtain ⟨user, valid, settles⟩ := balanced.own old held
    split at same
    · rename_i hit
      subst same
      rcases apart old held with free | missing
      · exact ⟨user, valid, .free free (settles.even free)⟩
      · exact absurd (of_decide_eq_true hit) missing
    · subst same
      exact ⟨user, valid, settles⟩
  others task member := balanced.others task (mem_loadTasks_of_updateWhere finishes member)
  copies := balanced.copies
  synced copy member same := by
    obtain ⟨old, held, bill, equal⟩ := balanced.synced copy member same
    rw [mjBulkUpdate, lookup_updateWhere, held, Option.map_some]
    refine ⟨_, rfl, bill.trans (Params.ite_sameBill _ params old).symm, fun moves => ?_⟩
    rcases apart old held with free | missing
    · exact absurd (bill.quota.trans free) moves
    · rw [if_neg fun hit => missing (of_decide_eq_true hit)]
      exact equal moves

theorem Poller.follow_quota_other (poller : Poller) (item : MidjourneyDto)
    (apart : task.userId = userId → task.quota ≤ 0) :
    (poller.follow task item).store.quota userId = poller.store.quota userId := by
  unfold Poller.follow
  dsimp only
  split
  · by_cases user : task.userId = userId
    · exact quota_increaseUserQuota_nonpos (apart user)
    · exact quota_increaseUserQuota_other (Ne.symm user)
  · rfl

theorem Poller.mem_loadTasks_follow (member : row ∈ loadTasks (poller.follow task item).tasks) :
    row ∈ loadTasks poller.tasks ∨ row = task.reported item := by
  obtain ⟨present, unfinished, named⟩ := mem_loadTasks.mp member
  unfold Poller.follow updateWithStatus at present
  dsimp only at present
  split at present
  · exact .inl (mem_loadTasks.mpr ⟨present, unfinished, named⟩)
  · split at present
    · rcases Table.mem_save.mp present with ⟨reported, -⟩ | ⟨old, -⟩
      · exact .inr reported
      · exact .inl (mem_loadTasks.mpr ⟨old, unfinished, named⟩)
    · exact .inl (mem_loadTasks.mpr ⟨present, unfinished, named⟩)

section
variable (balanced : poller.Balanced userId id before) (held : task ∈ poller.loaded)
include balanced held

theorem Poller.Balanced.follow_others (member : row ∈ loadTasks (poller.follow task item).tasks) :
    row.userId = userId → row.id = id ∨ row.quota ≤ 0 := by
  rcases Poller.mem_loadTasks_follow member with old | rfl
  · exact balanced.others row old
  · have bill := task.reported_sameBill item
    rw [bill.userId, bill.quota, Task.reported_id]
    exact (balanced.copies task held).2

theorem Poller.Balanced.follow_copies (member : row ∈ (poller.follow task item).loaded) :
    row.mjId ≠ "" ∧ (row.userId = userId → row.id = id ∨ row.quota ≤ 0) := by
  rcases Table.mem_save.mp member with ⟨rfl, -⟩ | ⟨old, -⟩
  · have bill := task.reported_sameBill item
    rw [bill.userId, bill.quota, bill.mjId, Task.reported_id]
    exact balanced.copies task held
  · exact balanced.copies row old

theorem Poller.Balanced.follow_other (other : task.id ≠ id) : (poller.follow task item).Balanced userId id before := by
  have wallet : (poller.follow task item).store.quota userId = poller.store.quota userId :=
    poller.follow_quota_other item fun user => ((balanced.copies task held).2 user).resolve_left other
  have row : (poller.follow task item).tasks.lookup id = poller.tasks.lookup id :=
    lookup_updateWithStatus_other (by rw [Task.reported_id]; exact other.symm)
  exact {
    low := wallet ▸ balanced.low
    own := by
      rw [wallet, row]
      exact balanced.own
    others := fun task member => balanced.follow_others held member
    copies := fun copy member => balanced.follow_copies held member
    synced := by
      intro copy member same
      rw [row]
      rcases Table.mem_save.mp member with ⟨rfl, -⟩ | ⟨old, -⟩
      · exact absurd (same.symm.trans (Task.reported_id task item)).symm other
      · exact balanced.synced copy old same }

end

theorem updateWithStatus_own (found : tasks.lookup task.id = some row) :
    updateWithStatus (task.reported item) task.status tasks =
      if row.status = task.status then (true, tasks.save (task.reported item)) else (false, tasks) := by
  unfold updateWithStatus
  rw [Task.reported_id, found]

theorem Poller.lookup_follow_own (found : poller.tasks.lookup task.id = some row) :
    (poller.follow task item).tasks.lookup task.id =
      some (if row.status = task.status then task.reported item else row) := by
  unfold Poller.follow
  dsimp only
  rw [updateWithStatus_own found]
  split
  · exact Table.lookup_save_self found (Task.reported_id task item)
  · exact found

theorem Poller.mem_loaded_follow_own (member : row ∈ (poller.follow task item).loaded)
    (same : row.id = task.id) : row = task.reported item := by
  rcases Table.mem_save.mp member with ⟨reported, -⟩ | ⟨-, other⟩
  · exact reported
  · exact absurd (same.trans (Task.reported_id task item).symm) other

theorem Poller.Balanced.follow_free (balanced : poller.Balanced userId task.id before)
    (held : task ∈ poller.loaded) (free : task.quota = 0) :
    (poller.follow task item).Balanced userId task.id before := by
  obtain ⟨row, found, bill, -⟩ := balanced.synced task held rfl
  obtain ⟨user, -, settles⟩ := balanced.own row found
  have wallet : (poller.follow task item).store.quota userId = poller.store.quota userId :=
    poller.follow_quota_other item fun _ => le_of_eq free
  -- The row has the bill of the task, whether or not the report was written.
  have kept : (if row.status = task.status then task.reported item else row).SameBill task := by
    split
    · exact task.reported_sameBill item
    · exact bill.symm
  exact {
    low := wallet ▸ balanced.low
    own := by
      intro current here
      rw [Poller.lookup_follow_own found] at here
      obtain rfl := Option.some.inj here
      have costless : (if row.status = task.status then task.reported item else row).quota = 0 :=
        kept.quota.trans free
      refine ⟨(kept.userId.trans bill.userId).trans user, le_of_eq costless.symm, .free costless ?_⟩
      rw [wallet]
      exact settles.even (bill.quota.symm.trans free)
    others := fun task member => balanced.follow_others held member
    copies := fun copy member => balanced.follow_copies held member
    synced := by
      intro copy member same
      obtain rfl := Poller.mem_loaded_follow_own member same
      have mine := task.reported_sameBill item
      exact ⟨_, Poller.lookup_follow_own found, mine.trans kept.symm,
        fun moves => absurd (mine.quota.trans free) moves⟩ }

/-- A report on the task itself: its copy is the row, so the report is written, and a failure
is paid back. -/
theorem Poller.Balanced.follow_own (balanced : poller.Balanced userId task.id before)
    (held : task ∈ poller.loaded) (moves : task.quota ≠ 0) (unfinished : task.progress ≠ "100%") :
    (poller.follow task item).Balanced userId task.id before := by
  obtain ⟨row, found, -, equal⟩ := balanced.synced task held rfl
  obtain rfl := equal moves
  obtain ⟨user, valid, settles⟩ := balanced.own row found
  have wallet : (poller.follow row item).store.quota userId =
      if Task.fails item then poller.store.quota userId + row.quota else poller.store.quota userId := by
    unfold Poller.follow
    dsimp only
    rw [updateWithStatus_own found, if_pos rfl]
    simp only [Task.shouldReturnQuota, moves, ne_eq, not_false_eq_true, and_true, true_and, decide_eq_true_eq]
    split
    · rw [increaseUserQuota_eq valid, user, quota_addQuota_self]
    · rfl
  have written : (poller.follow row item).tasks.lookup row.id = some (row.reported item) := by
    rw [Poller.lookup_follow_own found, if_pos rfl]
  have bill := row.reported_sameBill item
  have after : (row.reported item).Settles before ((poller.follow row item).store.quota userId) := by
    rw [wallet]
    exact settles.reported unfinished (balanced.copies row held).1 moves
  have nonneg : 0 ≤ (row.reported item).quota := bill.quota ▸ valid
  exact {
    low := after.le nonneg
    own := by
      intro current here
      obtain rfl := Option.some.inj (written.symm.trans here)
      exact ⟨bill.userId.trans user, nonneg, after⟩
    others := fun task member => balanced.follow_others held member
    copies := fun copy member => balanced.follow_copies held member
    synced := by
      intro copy member same
      obtain rfl := Poller.mem_loaded_follow_own member same
      exact ⟨_, written, .refl _, fun _ => rfl⟩ }

theorem Poller.Balanced.receive (balanced : poller.Balanced userId id before) {now : Int} {next : Poller}
    (live : ∀ task ∈ taskM poller.loaded item.mjId, task.id = id → task.quota = 0 ∨ task.progress ≠ "100%")
    (done : poller.receive now item = .ok next) : next.Balanced userId id before := by
  obtain ⟨task, found, rfl | rfl⟩ := Poller.receive_cases done
  · exact balanced
  · have held := (mem_of_taskM found).1
    by_cases own : task.id = id
    · subst own
      rcases live task found rfl with free | unfinished
      · exact balanced.follow_free held free
      · by_cases free : task.quota = 0
        · exact balanced.follow_free held free
        · exact balanced.follow_own held free unfinished
    · exact balanced.follow_other held own

theorem Poller.Balanced.receive_bill (balanced : poller.Balanced userId id before) {now : Int} {next : Poller}
    (done : poller.receive now item = .ok next) (found : next.tasks.lookup id = some row) :
    ∃ old ∈ poller.tasks.lookup id, row.SameBill old := by
  obtain ⟨task, named, rfl | rfl⟩ := Poller.receive_cases done
  · exact ⟨row, found, .refl row⟩
  · by_cases own : task.id = id
    · subst own
      obtain ⟨old, held, bill, -⟩ := balanced.synced task (mem_of_taskM named).1 rfl
      refine ⟨old, held, ?_⟩
      rw [Poller.lookup_follow_own held] at found
      obtain rfl := Option.some.inj found
      split
      · exact (task.reported_sameBill _).trans bill
      · exact .refl old
    · have same : (poller.follow task (item.orTimedOut now task)).tasks.lookup id = poller.tasks.lookup id :=
        lookup_updateWithStatus_other (by rw [Task.reported_id]; exact fun equal => own equal.symm)
      exact ⟨row, same ▸ found, .refl row⟩

end Invariant

def Work.lostIds : Work → List String
  | .lost _ taskIds => taskIds
  | .crash | .item _ _ => []

structure Machine.Balanced (userId id before : Int) (machine : Machine) : Prop where
  poller : machine.poller.Balanced userId id before
  apart : ∀ work ∈ machine.todo, ∀ task ∈ machine.poller.tasks.lookup id,
    task.quota = 0 ∨ task.mjId ∉ work.lostIds

def Machine.nextTask (machine : Machine) : Option Task :=
  match machine.todo with
  | .item _ item :: _ => taskM machine.poller.loaded item.mjId
  | _ => none

/-- The condition on the steps, for a task that costs something. When the poller wakes up, the
channels of the unfinished tasks with the id of the task can be loaded; and no item is about
the task after it has ended in the same pass. -/
def Event.Fair (id : Int) (machine : Machine) : Event → Prop
  | .wake surroundings _ =>
    ∀ task ∈ machine.poller.tasks.lookup id, task.quota = 0 ∨
      ∀ other ∈ loadTasks machine.poller.tasks, other.mjId = task.mjId →
        surroundings.cache.cacheGetChannel other.channelId ≠ none
  | .work => ∀ task ∈ machine.nextTask, task.id = id → task.quota = 0 ∨ task.progress ≠ "100%"

instance (id : Int) (machine : Machine) : (event : Event) → Decidable (event.Fair id machine)
  | .wake .. => inferInstanceAs (Decidable (∀ _ ∈ machine.poller.tasks.lookup id, _ ∨ ∀ _ ∈ loadTasks _, _ → _))
  | .work => inferInstanceAs (Decidable (∀ _ ∈ machine.nextTask, _ → _ ∨ _))

section Runs

variable {machine : Machine} {poller next stopped : Poller} {userId id before : Int} {work : Work}

theorem Poller.receive_error {now : Int} {item : MidjourneyDto}
    (failed : poller.receive now item = .error stopped) : stopped = poller := by
  unfold Poller.receive at failed
  split at failed
  · exact (Except.error.inj failed).symm
  · dsimp only at failed
    split at failed <;> cases failed

theorem Poller.perform_error (failed : poller.perform work = .error stopped) : stopped = poller := by
  cases work with
  | lost channelId taskIds => cases failed
  | crash => exact (Except.error.inj failed).symm
  | item now item => exact Poller.receive_error failed

theorem Poller.Balanced.perform (balanced : poller.Balanced userId id before)
    (apart : ∀ task ∈ poller.tasks.lookup id, task.quota = 0 ∨ task.mjId ∉ work.lostIds)
    (live : ∀ now item, work = .item now item → ∀ task ∈ taskM poller.loaded item.mjId, task.id = id →
      task.quota = 0 ∨ task.progress ≠ "100%") (done : poller.perform work = .ok next) :
    next.Balanced userId id before ∧
      ∀ row ∈ next.tasks.lookup id, ∃ old ∈ poller.tasks.lookup id, row.SameBill old := by
  cases work with
  | lost channelId taskIds =>
    cases done
    refine ⟨balanced.lost rfl apart, fun row found => ?_⟩
    rw [mjBulkUpdate, lookup_updateWhere] at found
    obtain ⟨old, held, rfl⟩ := Option.map_eq_some_iff.mp found
    exact ⟨old, held, Params.ite_sameBill _ _ old⟩
  | crash => cases done
  | item now item =>
    exact ⟨balanced.receive (live now item rfl) done, fun row found => balanced.receive_bill done found⟩

theorem Surroundings.apart_of_loads {surroundings : Surroundings} {order : MapOrder} {tasks : Tasks} {mjId : String}
    (loads : ∀ other ∈ loadTasks tasks, other.mjId = mjId →
      surroundings.cache.cacheGetChannel other.channelId ≠ none)
    (member : work ∈ surroundings.passWorks order tasks) : mjId ∉ work.lostIds := by
  obtain ⟨channelId, -, here⟩ := List.mem_flatMap.mp member
  unfold Surroundings.works at here
  split at here
  · rename_i lost
    obtain rfl := List.mem_singleton.mp here
    intro among
    obtain ⟨other, held, rfl, same⟩ := mem_channelTaskIds.mp among
    exact loads other held same lost
  · split at here
    · obtain rfl := List.mem_singleton.mp here
      exact List.not_mem_nil
    · obtain ⟨item, -, rfl⟩ := List.mem_map.mp here
      exact List.not_mem_nil

section
variable (balanced : machine.Balanced userId id before)
include balanced

theorem Machine.Balanced.step_wake {surroundings : Surroundings}
    {order : MapOrder} (fair : (Event.wake surroundings order).Fair id machine) :
    (machine.step (.wake surroundings order)).Balanced userId id before := by
  unfold Machine.step
  dsimp only
  split
  · refine ⟨balanced.poller.begin, fun work member task found => ?_⟩
    rw [lookup_begin] at found
    obtain ⟨old, held, rfl⟩ := Option.map_eq_some_iff.mp found
    have bill := Params.ite_sameBill (old.progress ≠ "100%" ∧ old.mjId = "")
      { status := "FAILURE", progress := "100%" } old
    rw [bill.quota, bill.mjId]
    exact (fair old held).imp_right fun loads => Surroundings.apart_of_loads loads member
  · exact balanced

theorem Machine.Balanced.step_work
    (fair : Event.work.Fair id machine) : (machine.step .work).Balanced userId id before := by
  obtain ⟨poller, todo, running⟩ := machine
  unfold Machine.step
  cases todo with
  | nil => exact balanced
  | cons work rest =>
    dsimp only
    cases done : poller.perform work with
    | error stopped =>
      obtain rfl := Poller.perform_error done
      exact ⟨balanced.poller, fun _ member => absurd member List.not_mem_nil⟩
    | ok next =>
      have live : ∀ now item, work = .item now item → ∀ task ∈ taskM poller.loaded item.mjId,
          task.id = id → task.quota = 0 ∨ task.progress ≠ "100%" := by
        rintro now item rfl
        exact fair
      obtain ⟨kept, bills⟩ := balanced.poller.perform (balanced.apart work (.head _)) live done
      refine ⟨kept, fun other member task found => ?_⟩
      obtain ⟨old, held, bill⟩ := bills task found
      rw [bill.quota, bill.mjId]
      exact balanced.apart other (.tail _ member) old held

theorem Machine.Balanced.run {events : List Event}
    (fair : Guarded Machine.step (fun machine event => event.Fair id machine) machine events) :
    (run Machine.step machine events).Balanced userId id before := by
  refine fair.invariant (fun machine event holds allowed => ?_) balanced
  cases event with
  | wake surroundings order => exact holds.step_wake allowed
  | work => exact holds.step_work allowed

end

end Runs

end TokenFactory.Midjourney
