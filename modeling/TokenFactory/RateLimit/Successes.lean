import TokenFactory.RateLimit.Window

namespace TokenFactory.RateLimit

open Data Go

/-! The budget of successful requests, without Redis. -/

/-- A request that the handler has answered; `succeeds` is whether the status of the next handler is below 400. -/
structure Answer where
  userID : Nat
  time : Int
  decision : Decision
  succeeds : Bool
deriving DecidableEq

/-- The latest answer comes first. -/
structure ModelRun where
  stores : Stores := {}
  answers : List Answer := []

inductive ModelEvent where
  | request (clock : Clock) (userID : Nat) (succeeds : Bool)
  | sweep (now expirationSeconds : Int)

/-- One request after the other, without a limit for all requests. -/
def ModelRun.step (settings : Settings) (duration successMaxCount : Int) (before : ModelRun) : ModelEvent → ModelRun
  | .request clock userID succeeds =>
    let (decision, stores) :=
      settings.memoryRateLimitHandler clock userID duration 0 successMaxCount succeeds before.stores
    { stores, answers := { userID, time := clock.now / 1000, decision, succeeds } :: before.answers }
  | .sweep now expirationSeconds => { before with stores := (clearExpiredItems now expirationSeconds before.stores).2 }

def successes (userID : Nat) (answers : List Answer) : List Int :=
  (answers.filter fun answer => answer.userID = userID ∧ answer.decision = .next ∧ answer.succeeds).map Answer.time

/-- A request is rejected only if there is a limit and as many requests succeeded in the window. -/
def Justified (duration successMaxCount : Int) : List Answer → Prop
  | [] => True
  | answer :: earlier =>
    (answer.decision = .tooManyRequests → 0 < successMaxCount ∧
      successMaxCount ≤ (successes answer.userID earlier).countP (answer.time - duration < ·)) ∧
    Justified duration successMaxCount earlier

instance Justified.decidable (duration successMaxCount : Int) :
    (answers : List Answer) → Decidable (Justified duration successMaxCount answers)
  | [] => .isTrue trivial
  | _ :: earlier =>
    have := Justified.decidable duration successMaxCount earlier
    inferInstanceAs (Decidable (_ ∧ _))

/-- Time does not go back, and no request fails. -/
def ModelEvent.Succeeds (before : ModelRun) : ModelEvent → Prop
  | .request clock _ succeeds => (∀ last ∈ before.answers.head?, last.time ≤ clock.now / 1000) ∧ succeeds = true
  | .sweep .. => True

instance (before : ModelRun) : (event : ModelEvent) → Decidable (event.Succeeds before)
  | .request .. => inferInstanceAs (Decidable (_ ∧ _))
  | .sweep .. => .isTrue trivial

def checkKey (userID : Nat) : String := "MRRLS" ++ itoa userID ++ "_check"

theorem checkKey_inj {first second : Nat} : checkKey first = checkKey second ↔ first = second := by
  constructor
  · intro same
    simp only [checkKey, String.append_left_inj, String.append_right_inj] at same
    exact itoa_inj same
  · rintro rfl
    rfl

theorem checkKey_ne_successKey (first second : Nat) : checkKey first ≠ "MRRLS" ++ itoa second := by
  intro same
  have marked : '_' ∈ ("MRRLS" ++ itoa second).toList := by
    rw [← same]
    simp [checkKey, String.toList_append]
  rcases List.mem_append.mp (String.toList_append ▸ marked) with front | digit
  · exact absurd front (by decide)
  · exact absurd (itoa_digits digit) (by decide)

def Verdict.decision : Verdict → Decision
  | .counted => .next
  | .limited => .tooManyRequests
  | .failed => .panicked

theorem memoryRateLimitHandler_check {settings : Settings} (offline : settings.redisEnabled = false) (clock : Clock)
    (userID : Nat) (duration successMaxCount : Int) (succeeds : Bool) (stores : Stores) :
    let checked := memoryRequest (clock.now / 1000) successMaxCount duration (stores.memory (checkKey userID))
    let done := settings.memoryRateLimitHandler clock userID duration 0 successMaxCount succeeds stores
    done.1 = checked.1.decision ∧ ∀ other, done.2.memory (checkKey other) =
      if other = userID then checked.2 else stores.memory (checkKey other) := by
  intro checked done
  have other : ∀ first second, checkKey first ≠ "MRRLS" ++ itoa second := checkKey_ne_successKey
  have key : "MRRLS" ++ itoa userID ++ "_check" = checkKey userID := rfl
  cases verdict : checked.1 <;>
    simp [done, Settings.memoryRateLimitHandler, Settings.isUserRateLimitBlacklisted,
      Settings.addUserRateLimitBlacklist, offline, memoryAt, key, checked, verdict, checkKey_inj, other,
      Verdict.decision, bind, StateT.bind, pure, StateT.pure] at verdict ⊢

structure ModelRun.Recorded (duration successMaxCount : Int) (state : ModelRun) : Prop where
  justified : Justified duration successMaxCount state.answers
  held : ∀ userID, ∃ dropped,
    successes userID state.answers = (times (state.stores.memory (checkKey userID))).reverse ++ dropped
  ordered : (state.answers.map Answer.time).Pairwise (· ≥ ·)

theorem window_full {queue dropped : List Int} {start oldest : Int}
    (ordered : (queue.reverse ++ dropped).Pairwise (· ≥ ·))
    (first : queue.head? = some oldest) (recent : start < oldest) :
    queue.length ≤ (queue.reverse ++ dropped).countP (start < ·) := by
  obtain ⟨newer, rfl⟩ := List.head?_eq_some_iff.mp first
  have sorted := List.pairwise_cons.mp (List.pairwise_reverse.mp (List.pairwise_append.mp ordered).1)
  have inside : ∀ time ∈ (oldest :: newer).reverse, start < time := by
    intro time member
    rcases List.mem_cons.mp (List.mem_reverse.mp member) with rfl | later
    · exact recent
    · exact Int.lt_of_lt_of_le recent (sorted.1 time later)
  have all := List.countP_eq_length.mpr (fun time member => decide_eq_true (inside time member))
  rw [List.countP_append, all, List.length_reverse]
  omega

theorem request_recorded {settings : Settings} (offline : settings.redisEnabled = false)
    {duration successMaxCount : Int} (limited : 0 < successMaxCount) {state : ModelRun}
    (recorded : state.Recorded duration successMaxCount) {clock : Clock} {userID : Nat}
    (later : ∀ last ∈ state.answers.head?, last.time ≤ clock.now / 1000) :
    (state.step settings duration successMaxCount (.request clock userID true)).Recorded duration successMaxCount := by
  obtain ⟨decided, stored⟩ :=
    memoryRateLimitHandler_check offline clock userID duration successMaxCount true state.stores
  obtain ⟨dropped, held⟩ := recorded.held userID
  have ordered : (clock.now / 1000 :: state.answers.map Answer.time).Pairwise (· ≥ ·) := by
    refine List.pairwise_cons.mpr ⟨fun time member => ?_, recorded.ordered⟩
    cases answers : state.answers with
    | nil => simp [answers] at member
    | cons last rest =>
      have current := later last (by simp [answers])
      have sorted := recorded.ordered
      rw [answers, List.map_cons, List.pairwise_cons] at sorted
      rw [answers, List.map_cons] at member
      rcases List.mem_cons.mp member with rfl | before
      · exact current
      · exact Int.le_trans (sorted.1 time before) current
  have window : (successes userID state.answers).Pairwise (· ≥ ·) :=
    recorded.ordered.sublist (List.filter_sublist.map _)
  rw [held] at window
  rcases answered : settings.memoryRateLimitHandler clock userID duration 0 successMaxCount true state.stores with
    ⟨decision, stores⟩
  simp only [ModelRun.step, answered] at decided stored ⊢
  cases done : memoryRequest (clock.now / 1000) successMaxCount duration (state.stores.memory (checkKey userID)) with
  | mk verdict after =>
    simp only [done] at decided stored
    obtain ⟨-, negative, -⟩ | ⟨rfl, rfl, full, oldest, first, recent⟩ | ⟨rfl, gone, kept, split, appended, -, -⟩ :=
      memoryRequest_times done
    · omega
    · refine ⟨⟨fun _ => ⟨limited, ?_⟩, recorded.justified⟩, fun other => ?_, ordered⟩
      · have enough := window_full window first recent
        rw [held]
        exact Int.le_trans full (Int.ofNat_le.mpr enough)
      · have same : (if other = userID then state.stores.memory (checkKey userID)
            else state.stores.memory (checkKey other)) = state.stores.memory (checkKey other) :=
          ite_eq_right_iff.mpr fun same => by rw [same]
        simpa [stored, same, successes, decided, Verdict.decision] using recorded.held other
    · refine ⟨⟨fun rejected => ?_, recorded.justified⟩, fun other => ?_, ordered⟩
      · simp [decided, Verdict.decision] at rejected
      · by_cases same : other = userID
        · subst same
          refine ⟨gone.reverse ++ dropped, ?_⟩
          have pushed : successes other state.answers = kept.reverse ++ (gone.reverse ++ dropped) := by
            simp [held, split]
          simpa [successes, stored, appended, decided, Verdict.decision] using pushed
        · simpa [successes, stored, same, Ne.symm same] using recorded.held other

/-- While no request fails, a request is rejected only when the budget of successful requests is used up. -/
theorem rejections_justified {settings : Settings} (offline : settings.redisEnabled = false)
    (duration successMaxCount : Int) (limited : 0 < successMaxCount) (events : List ModelEvent)
    (succeeding : Guarded (ModelRun.step settings duration successMaxCount) (fun state event => event.Succeeds state)
      {} events) :
    Justified duration successMaxCount (run (ModelRun.step settings duration successMaxCount) {} events).answers := by
  have recorded : (run (ModelRun.step settings duration successMaxCount) {} events).Recorded duration
      successMaxCount := by
    refine Guarded.invariant ?_ ⟨trivial, fun _ => ⟨[], rfl⟩, .nil⟩ succeeding
    intro state event recorded allowed
    cases event with
    | request clock userID succeeds =>
      obtain ⟨later, rfl⟩ := allowed
      exact request_recorded offline limited recorded later
    | sweep now expirationSeconds =>
      refine { recorded with held := fun userID => ?_ }
      obtain ⟨dropped, held⟩ := recorded.held userID
      simp only [ModelRun.step, clearExpiredItems]
      cases queue : state.stores.memory (checkKey userID) with
      | none => exact ⟨dropped, by rw [held, queue]; rfl⟩
      | some queue' =>
        by_cases fresh : now - queue'.last ≤ expirationSeconds
        · exact ⟨dropped, by simp [held, queue, Option.filter, fresh]⟩
        · exact ⟨_, by simp [held, Option.filter, fresh, times]; rfl⟩
  exact recorded.justified

def offlineSettings : Settings := { redisEnabled := false }

def modelRequest (second : Int) (userID : Nat) (succeeds : Bool) : ModelEvent :=
  .request ⟨1000 * second, 1000 * second⟩ userID succeeds

theorem third_request_justified :
    let after := run (ModelRun.step offlineSettings 60 2) {}
      [modelRequest 0 7 true, modelRequest 5 7 true, modelRequest 9 7 true]
    after.answers.head?.map Answer.decision = some .tooManyRequests ∧ Justified 60 2 after.answers :=
  ⟨by decide +kernel, rejections_justified rfl 60 2 (by decide) _ (by decide +kernel)⟩

/-- A failed request uses up a budget of one, and no budget, which should mean no limit, is one too. -/
theorem failure_uses_budget :
    ¬ Justified 60 1 (run (ModelRun.step offlineSettings 60 1) {}
        [modelRequest 0 7 false, modelRequest 1 7 true]).answers ∧
      ¬ Justified 60 0 (run (ModelRun.step offlineSettings 60 0) {}
        [modelRequest 0 7 true, modelRequest 1 7 true]).answers := by
  decide +kernel

end TokenFactory.RateLimit
