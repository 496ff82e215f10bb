import TokenFactory.Polling.Actors

namespace TokenFactory.Polling

open Data Billing

/-! A finished task stays as it finished. -/

variable {task : Task}

/-- The poller writes guarded by the status it read, and bills only a task that
it has moved to a final status. -/
theorem updateVideoSingleTask_cases (moment : Moment) (answer : Option VideoAnswer)
    (unfinished : task.status.terminal = false) : updateVideoSingleTask moment task answer = .idle ∨
      (∃ next, updateVideoSingleTask moment task answer = .bill next .nothing) ∨
      ∃ next won, updateVideoSingleTask moment task answer = .update task.status next won .nothing ∧
        (won ≠ .nothing → next.status.terminal = true) := by
  cases answer with
  | none => exact .inl rfl
  | some answer =>
    simp only [updateVideoSingleTask]
    split
    next => exact .inl rfl
    next result _ =>
      split
      next => exact .inl rfl
      next next _ =>
        split
        next moved => exact .inr (.inr ⟨next, _, rfl, fun _ => moved.1⟩)
        next kept =>
          -- a final status would differ from the one that was read
          have going : next.status.terminal = false := by
            by_contra ended
            rw [Bool.not_eq_false] at ended
            refine kept ⟨ended, fun same => ?_⟩
            rw [same, ended] at unfinished
            cases unfinished
          have free : ¬ (next.status = .failure ∧ task.quota ≠ 0) := by
            rintro ⟨failed, _⟩
            rw [failed] at going
            cases going
          split
          · exact .inr (.inr ⟨next, .nothing, rfl, fun owed => absurd rfl owed⟩)
          · exact .inr (.inl ⟨next, rfl⟩)

@[simp] theorem storeBody_status (channel : FetchChannel) (task : Task) (body : String) :
    (channel.storeBody task body).status = task.status := by
  cases channel <;> rfl

theorem applyFetchedResult_status (moment : Moment) (task : Task) (result : TaskInfo) :
    (applyFetchedResult moment task result).status = fetchedStatus task result := by
  -- The address of the result is no part of the status.
  simp only [applyFetchedResult, apply_ite Task.status, Task.setResultUrl_status, ite_self]
  cases fetchedStatus task result <;> rfl

theorem tryRealtimeFetch_cases (moment : Moment) (channel : FetchChannel) (task : Task)
    (answer : FetchAnswer) :
    (∃ next, tryRealtimeFetch moment channel task (some answer) = .bill next .nothing) ∨
      ∃ next won lost,
        tryRealtimeFetch moment channel task (some answer) = .update task.status next won lost ∧
        (next.status = fetchedStatus task answer.result) ∧
        (won ≠ .nothing → next.status.terminal = true ∧ next.status ≠ task.status) ∧
        (lost ≠ .nothing → next.status ≠ task.status) := by
  have status := applyFetchedResult_status moment (channel.storeBody task answer.body) answer.result
  simp only [tryRealtimeFetch]
  generalize read : channel.storeBody task answer.body = copy at status ⊢
  have same : copy.status = task.status := by rw [← read, storeBody_status]
  generalize applyFetchedResult moment copy answer.result = next at status ⊢
  have reported : next.status = fetchedStatus task answer.result := by
    rw [status, fetchedStatus, fetchedStatus, same]
  rw [same]
  split
  next =>
    refine .inr ⟨next, _, _, rfl, reported, fun owed => ?_, fun owed => ?_⟩
    · by_cases failed : next.status = .failure ∧ task.status ≠ .failure ∧ next.quota ≠ 0
      · rw [failed.1]
        exact ⟨rfl, failed.2.1.symm⟩
      · rw [if_neg failed] at owed
        by_cases done : next.status = .success ∧ task.status ≠ .success
        · rw [done.1]
          exact ⟨rfl, done.2.symm⟩
        · exact absurd (if_neg done) owed
    · by_cases done : next.status = .success ∧ task.status ≠ .success
      · rw [done.1]
        exact done.2.symm
      · exact absurd (if_neg done) owed
  next equal =>
    have kept : next.status = task.status :=
      (Task.status_eq_of_snapshot (not_not.mp equal)).symm.trans same
    have idle : ¬ (next.status = .success ∧ task.status ≠ .success) := by
      rintro ⟨done, different⟩
      exact different (kept ▸ done)
    rw [if_neg idle]
    exact .inl ⟨next, rfl⟩

/-- A guarded write from a finished copy repeats its status and bills nothing;
only a final status is billed. -/
def Phase.Sound : Phase → Prop
  | .polling task => task.status.terminal = false
  | .update expected task won lost =>
    (expected.terminal = true → task.status = expected ∧ won = .nothing ∧ lost = .nothing) ∧
      (won ≠ .nothing → task.status.terminal = true)
  | _ => True

/-- What a read or an answer can lead to, other than waiting for an answer. -/
inductive Phase.Reply : Phase → Prop where
  | idle : Phase.Reply .idle
  | bill (task : Task) : Phase.Reply (.bill task .nothing)
  | items (task : Task) (responses : List SunoDataResponse) : Phase.Reply (.items task responses)
  | update {expected : TaskStatus} {task : Task} {won lost : Bill}
      (sound : (Phase.update expected task won lost).Sound) :
      Phase.Reply (.update expected task won lost)

def Phase.waiting : Phase → Bool
  | .polling _ => true
  | .pollingSuno _ => true
  | .fetching _ _ => true
  | _ => false

variable {phase : Phase}

theorem Phase.Reply.sound (reply : phase.Reply) : phase.Sound := by
  cases reply with
  | update written => exact written
  | _ => trivial

variable {row : Task}

theorem Task.unfinished_status (unfinished : row.unfinished = true) :
    row.status.terminal = false := by
  simp only [Task.unfinished, decide_eq_true_eq] at unfinished
  exact Bool.eq_false_iff.mpr unfinished.2

theorem Phase.Reply.of_unfinished {row task : Task} {won : Bill} (unfinished : row.unfinished = true)
    (final : task.status.terminal = true) : (Phase.update row.status task won .nothing).Reply :=
  have going := Task.unfinished_status unfinished
  .update ⟨fun ended => (Bool.false_ne_true (going ▸ ended)).elim, fun _ => final⟩

theorem read_cases {moment : Moment} {actor : Actor} (read : actor.read moment row = some phase) :
    phase.waiting = true ∧ phase.Sound ∨ phase.Reply := by
  cases actor with
  | poller =>
    simp only [Actor.read, Option.ite_none_right_eq_some, Option.some.injEq] at read
    obtain ⟨⟨unfinished, _⟩, rfl⟩ := read
    exact .inl ⟨rfl, Task.unfinished_status unfinished⟩
  | suno =>
    simp only [Actor.read, Option.ite_none_right_eq_some, Option.some.injEq] at read
    obtain ⟨_, rfl⟩ := read
    exact .inl ⟨rfl, trivial⟩
  | sweeper timeoutMinutes =>
    simp only [Actor.read, Option.ite_none_right_eq_some, Option.some.injEq] at read
    obtain ⟨⟨_, unfinished, _⟩, rfl⟩ := read
    exact .inr (.of_unfinished unfinished rfl)
  | failer reason =>
    simp only [Actor.read, Option.ite_none_right_eq_some, Option.some.injEq] at read
    obtain ⟨unfinished, rfl⟩ := read
    simp only [failTaskAndRefund, Task.unfinished_status unfinished, Bool.false_eq_true, if_false]
    exact .inr (.of_unfinished unfinished rfl)
  | fetch channel =>
    simp only [Actor.read, Option.some.injEq] at read
    subst read
    exact .inl ⟨rfl, trivial⟩

theorem read_sound {moment : Moment} {actor : Actor}
    (read : actor.read moment row = some phase) : phase.Sound := by
  rcases read_cases read with ⟨_, sound⟩ | reply
  · exact sound
  · exact reply.sound

def Phase.fetching? : Phase → Option Task
  | .fetching _ task => some task
  | _ => none

def Phase.saving? : Phase → Option Task
  | .save task _ _ => some task
  | _ => none

def Answer.fetched? : Answer → Option FetchAnswer
  | .fetch _ answer => answer
  | _ => none

/-- Upstream repeats the status of a finished task to a fetch that has read it
finished. -/
def Phase.Repeats (phase : Phase) (answer : Answer) : Prop :=
  ∀ task ∈ phase.fetching?, ∀ reply ∈ answer.fetched?, task.status.terminal = true →
    fetchedStatus task reply.result = task.status

instance (phase : Phase) (answer : Answer) : Decidable (phase.Repeats answer) :=
  inferInstanceAs (Decidable (∀ task ∈ phase.fetching?, ∀ reply ∈ answer.fetched?, _ → _))

theorem video_reply (moment : Moment) (answer : Option VideoAnswer)
    (unfinished : task.status.terminal = false) : (updateVideoSingleTask moment task answer).Reply := by
  rcases updateVideoSingleTask_cases moment answer unfinished with idle | ⟨next, kept⟩ | moved
  · exact idle ▸ .idle
  · exact kept ▸ .bill next
  · obtain ⟨next, won, written, final⟩ := moved
    rw [written]
    exact .update ⟨fun ended => (Bool.false_ne_true (unfinished ▸ ended)).elim, final⟩

theorem fetch_reply (moment : Moment) (channel : FetchChannel) {answer : FetchAnswer}
    (repeats : task.status.terminal = true → fetchedStatus task answer.result = task.status) :
    (tryRealtimeFetch moment channel task (some answer)).Reply := by
  rcases tryRealtimeFetch_cases moment channel task answer with ⟨next, kept⟩ | written
  · exact kept ▸ .bill next
  · obtain ⟨next, won, lost, written, reported, wonMoves, lostMoves⟩ := written
    rw [written]
    refine .update ⟨fun ended => ?_, fun owed => (wonMoves owed).1⟩
    have same : next.status = task.status := reported.trans (repeats ended)
    exact ⟨same, not_not.mp fun owed => (wonMoves owed).2 same,
      not_not.mp fun owed => lostMoves owed same⟩

theorem answered_cases {answer : Answer} (sound : phase.Sound) (repeats : phase.Repeats answer) :
    phase.answered answer = phase ∨ phase.waiting = true ∧ (phase.answered answer).Reply := by
  cases phase with
  | polling task =>
    cases answer with
    | video moment answer => exact .inr ⟨rfl, video_reply moment answer sound⟩
    | _ => exact .inl rfl
  | pollingSuno task =>
    cases answer with
    | suno responses => exact .inr ⟨rfl, .items task responses⟩
    | _ => exact .inl rfl
  | fetching channel task =>
    cases answer with
    | fetch moment answer =>
      cases answer with
      | none => exact .inr ⟨rfl, .idle⟩
      | some answer => exact .inr ⟨rfl, fetch_reply moment channel (repeats task rfl answer rfl)⟩
    | _ => exact .inl rfl
  | _ => exact .inl rfl

theorem answered_sound {answer : Answer} (sound : phase.Sound)
    (repeats : phase.Repeats answer) : (phase.answered answer).Sound := by
  rcases answered_cases sound repeats with same | ⟨_, reply⟩
  · rw [same]
    exact sound
  · exact reply.sound

theorem pay_row (attempt : Attempt) (row : Task) (store : Store) (task : Task) (bill : Bill)
    (next : Option Movement → Phase) : (pay attempt row store task bill next).row = row := by
  unfold pay
  split
  · rfl
  · split <;> rfl

theorem pay_next (attempt : Attempt) (row : Task) (store : Store) (task : Task) (bill : Bill)
    (next : Option Movement → Phase) :
    ∃ movement, (pay attempt row store task bill next).next = next movement := by
  unfold pay
  split
  · exact ⟨_, rfl⟩
  · split <;> exact ⟨_, rfl⟩

theorem updateSunoTask_cases (task : Task) (item : SunoDataResponse) (rest : List SunoDataResponse) :
    updateSunoTask task item rest = .items task rest ∨
      (∃ next, updateSunoTask task item rest = .refund next rest) ∨
      ∃ next, updateSunoTask task item rest = .save next false rest := by
  unfold updateSunoTask
  split
  · exact .inl rfl
  · dsimp only
    split
    · exact .inr (.inl ⟨_, rfl⟩)
    · exact .inr (.inr ⟨_, rfl⟩)

theorem advance_sound (attempt : Attempt) (row : Task) (store : Store)
    (sound : phase.Sound) : (phase.advance attempt row store).next.Sound := by
  cases phase with
  | update expected task won lost =>
    simp only [Phase.advance]
    split <;> trivial
  | bill task due =>
    obtain ⟨movement, next⟩ := pay_next attempt row store task due (afterBill task)
    simp only [Phase.advance, next]
    cases movement <;> trivial
  | refund task rest =>
    obtain ⟨movement, next⟩ := pay_next attempt row store task .refund (afterRefund task rest)
    simp only [Phase.advance, next]
    cases movement <;> trivial
  | adjustToken task movement => cases movement <;> trivial
  | items task rest =>
    cases rest with
    | nil => trivial
    | cons item rest =>
      rcases updateSunoTask_cases task item rest with kept | ⟨next, failed⟩ | ⟨next, saved⟩
      · simp only [Phase.advance, kept, Phase.Sound]
      · simp only [Phase.advance, failed, Phase.Sound]
      · simp only [Phase.advance, saved, Phase.Sound]
  | polling task => exact sound
  | _ => trivial

/-- A Suno write does not meet a row that has finished in another way. -/
def Phase.SavesOver (attempt : Attempt) (row : Task) (phase : Phase) : Prop :=
  ∀ task ∈ phase.saving?, attempt.fault = none → row.status.terminal = true → task.status = row.status

instance (attempt : Attempt) (row : Task) (phase : Phase) : Decidable (phase.SavesOver attempt row) :=
  inferInstanceAs (Decidable (∀ task ∈ phase.saving?, _ → _ → _))

theorem advance_status {attempt : Attempt} (store : Store)
    (sound : phase.Sound) (saves : phase.SavesOver attempt row)
    (finished : row.status.terminal = true) :
    (phase.advance attempt row store).row.status = row.status := by
  cases phase with
  | update expected task won lost =>
    simp only [Phase.advance]
    split
    next written =>
      rw [written.2] at finished ⊢
      exact (sound.1 finished).1
    next => rfl
  | bill task due => simp only [Phase.advance, pay_row]
  | refund task rest => simp only [Phase.advance, pay_row]
  | recordQuota task actual =>
    simp only [Phase.advance]
    split <;> rfl
  | save task failed rest =>
    simp only [Phase.advance]
    split
    next stored => exact saves task rfl stored finished
    next => rfl
  | items task rest => cases rest <;> rfl
  | _ => rfl

/-- The condition on a schedule: what upstream tells a fetch that has read a
finished row, and which row a Suno write meets. -/
def Event.Keeps (world : World) : Event → Prop
  | .answer index reply => ∀ phase ∈ world.actors[index]?, phase.Repeats reply
  | .advance index attempt => ∀ phase ∈ world.actors[index]?, phase.SavesOver attempt world.row
  | .read _ _ => True

instance (world : World) : (event : Event) → Decidable (event.Keeps world)
  | .answer index _ | .advance index _ => inferInstanceAs (Decidable (∀ _ ∈ world.actors[index]?, _))
  | .read .. => .isTrue trivial

def World.Sound (world : World) : Prop := ∀ phase ∈ world.actors, phase.Sound

theorem World.Sound.set {actors : List Phase} {index : Nat} {next : Phase}
    (sound : ∀ phase ∈ actors, phase.Sound) (kept : next.Sound) :
    ∀ phase ∈ actors.set index next, phase.Sound := by
  intro phase member
  rcases List.mem_or_eq_of_mem_set member with old | rfl
  · exact sound phase old
  · exact kept

theorem step_preserves_sound (world : World) (event : Event) (sound : world.Sound)
    (keeps : event.Keeps world) : (world.step event).Sound := by
  cases event with
  | read actor moment =>
    simp only [World.step]
    cases read : actor.read moment world.row with
    | none => exact sound
    | some phase =>
      intro other member
      rcases List.mem_append.mp member with old | new
      · exact sound other old
      · rw [List.mem_singleton.mp new]
        exact read_sound read
  | answer index answer =>
    simp only [World.step]
    cases found : world.actors[index]? with
    | none => exact sound
    | some phase =>
      have own := sound phase (List.mem_of_getElem? found)
      exact World.Sound.set sound (answered_sound own (keeps phase found))
  | advance index attempt =>
    simp only [World.step]
    cases found : world.actors[index]? with
    | none => exact sound
    | some phase =>
      have own := sound phase (List.mem_of_getElem? found)
      exact World.Sound.set sound (advance_sound attempt world.row world.store own)

theorem step_preserves_terminal (world : World) (event : Event) (sound : world.Sound)
    (keeps : event.Keeps world) (finished : world.row.status.terminal = true) :
    (world.step event).row.status = world.row.status := by
  cases event with
  | read actor moment =>
    simp only [World.step]
    split <;> rfl
  | answer index answer =>
    simp only [World.step]
    split <;> rfl
  | advance index attempt =>
    simp only [World.step]
    cases found : world.actors[index]? with
    | none => rfl
    | some phase =>
      have own := sound phase (List.mem_of_getElem? found)
      exact advance_status world.store own (keeps phase found) finished

theorem start_sound (row : Task) (store : Store) : (World.start row store).Sound :=
  fun _ member => absurd member (List.not_mem_nil)

/-- The row has finished with this status, and no actor can undo it. -/
structure World.Finished (status : TaskStatus) (world : World) : Prop where
  sound : world.Sound
  kept : world.row.status = status

theorem step_preserves_finished {status : TaskStatus} (final : status.terminal = true) (world : World)
    (event : Event) (finished : world.Finished status) (keeps : event.Keeps world) :
    (world.step event).Finished status where
  sound := step_preserves_sound world event finished.sound keeps
  kept := by
    have ended : world.row.status.terminal = true := finished.kept ▸ final
    exact (step_preserves_terminal world event finished.sound keeps ended).trans finished.kept

theorem terminal_status_absorbing (row : Task) (store : Store) (before after : List Event)
    (keeps : Guarded World.step (fun world event => event.Keeps world) (.start row store)
      (before ++ after))
    (finished : (run World.step (.start row store) before).row.status.terminal = true) :
    (run World.step (.start row store) (before ++ after)).row.status =
      (run World.step (.start row store) before).row.status := by
  obtain ⟨earlier, later⟩ := Guarded.append.mp keeps
  have sound : (run World.step (.start row store) before).Sound :=
    earlier.invariant step_preserves_sound (start_sound row store)
  rw [run_append]
  exact (later.invariant (step_preserves_finished finished) ⟨sound, rfl⟩).kept

def runningTask (platform : TaskPlatform) : Task where
  id := 1
  taskId := "task_1"
  platform
  userId := 7
  quota := 100
  status := .inProgress
  failReason := ""
  submitTime := 1750000000
  startTime := 0
  finishTime := 0
  progress := "30%"
  privateData := ⟨"upstream-1", "", "wallet", 0, 0, false⟩
  data := ""

def taskStore : Store where
  quota := fun _ => 1000
  token := fun _ => ⟨0, 0⟩
  subscriptions := .empty fun _ => none

def later : Moment := ⟨1750007200, "https://localhost"⟩

def tokenPricing : Pricing := ⟨false, some, fun _ => 0, fun _ => 0⟩

def noFault : Attempt := ⟨none, tokenPricing⟩

def sunoSuccess : SunoDataResponse where
  status := "SUCCESS"
  submitTime := 1750000000
  startTime := 1750000010
  finishTime := 1750000020
  data := "[]"

/-- The sweeper fails the task between the read of a fetch and its write. -/
theorem terminal_status_absorbing_after_sweep :
    (run World.step (.start (runningTask (.channel 58)) taskStore)
      ([.read (.fetch .openAIVideo) later, .read (.sweeper 60) later, .advance 1 noFault] ++
        [.answer 0 (.fetch later (some ⟨{ status := "SUCCESS" }, "{}"⟩)), .advance 0 noFault,
          .advance 1 noFault])).row.status = .failure := by
  rw [terminal_status_absorbing _ _ _ _ (by decide +kernel) (by decide +kernel)]
  decide +kernel

/-- The Suno poller writes the copy it read before the sweeper failed the task. -/
theorem suno_save_revives_failed_task : (run World.step (.start (runningTask .suno) taskStore)
      [.read .suno later, .read (.sweeper 60) later, .advance 1 noFault]).row.status = .failure ∧
    (run World.step (.start (runningTask .suno) taskStore)
      [.read .suno later, .read (.sweeper 60) later, .advance 1 noFault, .answer 0 (.suno [sunoSuccess]),
        .advance 0 noFault, .advance 0 noFault]).row.status = .success := by
  decide +kernel

end TokenFactory.Polling
