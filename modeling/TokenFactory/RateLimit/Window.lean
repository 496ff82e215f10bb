import TokenFactory.Data.Run
import TokenFactory.RateLimit.Stores

namespace TokenFactory.RateLimit

open Data Go

/-! The window of the limiter in memory. -/

structure Admission where
  key : String
  time : Int
  maxRequestNum : Int
  duration : Int
deriving DecidableEq

structure Limiter where
  expirationSeconds : Int
  stores : Stores := {}
  clock : Int := 0
  admissions : List Admission := []

inductive LimiterEvent where
  | init (expirationSeconds : Int)
  | request (now : Int) (key : String) (maxRequestNum duration : Int)
  | sweep (now : Int)

namespace Limiter

/-- Only the first call has an effect. -/
def init (limiter : Option Limiter) (expirationSeconds : Int) : Limiter := limiter.getD { expirationSeconds }

def step (limiter : Limiter) : LimiterEvent → Limiter
  | .init expirationSeconds => init (some limiter) expirationSeconds
  | .request now key maxRequestNum duration =>
    let (verdict, stores) := memoryAt key (memoryRequest now maxRequestNum duration) limiter.stores
    { limiter with
      stores
      clock := now
      admissions :=
        if verdict = .counted then { key, time := now, maxRequestNum, duration } :: limiter.admissions
        else limiter.admissions }
  | .sweep now =>
    -- without an expiration the sweep is not started
    if 0 < limiter.expirationSeconds then
      { limiter with stores := (clearExpiredItems now limiter.expirationSeconds limiter.stores).2, clock := now }
    else limiter

def admissionsOf (limiter : Limiter) (key : String) : List Admission :=
  limiter.admissions.filter (·.key = key)

end Limiter

/-- The admissions of `earlier` that are in the window of an admission. -/
def Admission.window (admission : Admission) (earlier : List Admission) : List Admission :=
  earlier.filter fun other => other.key = admission.key ∧ admission.time - admission.duration < other.time

/-- Every admission had fewer than its maximum of earlier admissions in its window. -/
def Enforced : List Admission → Prop
  | [] => True
  | admission :: earlier => (admission.window earlier).length < admission.maxRequestNum ∧ Enforced earlier

instance Enforced.decidable : (admissions : List Admission) → Decidable (Enforced admissions)
  | [] => .isTrue trivial
  | _ :: earlier =>
    have := Enforced.decidable earlier
    inferInstanceAs (Decidable (_ ∧ _))

/-- The calls of the program: time does not go back, and the limits are positive. -/
def LimiterEvent.Timely (limiter : Limiter) : LimiterEvent → Prop
  | .init _ => True
  | .request now _ maxRequestNum duration => limiter.clock ≤ now ∧ 1 ≤ maxRequestNum ∧ 0 < duration
  | .sweep now => limiter.clock ≤ now

def times (queue : Option Queue) : List Int := queue.elim [] fun queue => queue.oldest :: queue.newer

/-- The sweep keeps what the window needs, the queue of the key is not longer than the limit, and the window is not
longer than at the last admission of the key. -/
def LimiterEvent.Covered (limiter : Limiter) : LimiterEvent → Prop
  | .request _ key maxRequestNum duration =>
    (0 < limiter.expirationSeconds → duration ≤ limiter.expirationSeconds + 1) ∧
      (times (limiter.stores.memory key)).length ≤ maxRequestNum ∧
      ∀ last ∈ (limiter.admissionsOf key).head?, duration ≤ last.duration
  | _ => True

instance (limiter : Limiter) : (event : LimiterEvent) → Decidable (event.Timely limiter ∧ event.Covered limiter)
  | .init _ => .isTrue ⟨trivial, trivial⟩
  | .request .. => inferInstanceAs (Decidable ((_ ∧ _ ∧ _) ∧ _ ∧ _ ∧ _))
  | .sweep _ => inferInstanceAs (Decidable (_ ≤ _ ∧ True))

theorem memoryRequest_times {now maxRequestNum duration : Int} {queue after : Option Queue} {verdict : Verdict}
    (done : memoryRequest now maxRequestNum duration queue = (verdict, after)) :
    (verdict = .failed ∧ maxRequestNum < 0 ∧ after = queue) ∨
    (verdict = .limited ∧ after = queue ∧ maxRequestNum ≤ (times queue).length ∧
      ∃ oldest ∈ (times queue).head?, now - duration < oldest) ∨
    (verdict = .counted ∧ ∃ gone kept, times queue = gone ++ kept ∧ times after = kept ++ [now] ∧
      (∀ time ∈ gone, time ≤ now - duration) ∧
      (1 ≤ maxRequestNum → (times queue).length ≤ maxRequestNum → kept.length < maxRequestNum)) := by
  cases queue with
  | none =>
    by_cases negative : maxRequestNum < 0
    · simp only [memoryRequest, negative, if_true, Prod.mk.injEq] at done
      exact .inl ⟨done.1.symm, negative, done.2.symm⟩
    · simp only [memoryRequest, negative, if_false, Prod.mk.injEq] at done
      obtain ⟨rfl, rfl⟩ := done
      exact .inr (.inr ⟨rfl, [], [], rfl, rfl, by simp, fun positive _ => by simpa using by omega⟩)
  | some queue =>
    simp only [memoryRequest] at done
    split at done
    case isTrue room =>
      cases done
      exact .inr (.inr ⟨rfl, [], times (some queue), rfl, rfl, by simp, fun _ _ => by simpa [times] using room⟩)
    case isFalse full =>
      split at done
      case isTrue elapsed =>
        cases done
        refine .inr (.inr ⟨rfl, [queue.oldest], queue.newer, rfl, ?_, ?_, fun _ sized => ?_⟩)
        · cases newer : queue.newer <;> rfl
        · simpa using by omega
        · simp only [times, Option.elim_some, List.length_cons] at sized
          omega
      case isFalse recent =>
        cases done
        refine .inr (.inl ⟨rfl, rfl, ?_, queue.oldest, rfl, by omega⟩)
        simp only [times, Option.elim_some, List.length_cons]
        omega

/-- The queue of a key against the admissions of the key: what is not in the queue any more is too old to count. -/
structure Tracks (expirationSeconds clock : Int) (own : List Admission) (queue : List Int) : Prop where
  recent : ∃ dropped, own.map Admission.time = queue.reverse ++ dropped ∧
    ∀ last ∈ own.head?, ∀ time ∈ dropped, time ≤ clock - last.duration
  covered : ∀ last ∈ own.head?, 0 < expirationSeconds → last.duration ≤ expirationSeconds + 1
  ordered : (own.map Admission.time).Pairwise (· ≥ ·)
  past : ∀ time ∈ own.map Admission.time, time ≤ clock

namespace Tracks

variable {expirationSeconds clock now : Int} {own : List Admission} {queue : List Int}

theorem later (tracks : Tracks expirationSeconds clock own queue) (later : clock ≤ now) :
    Tracks expirationSeconds now own queue := by
  obtain ⟨dropped, split, old⟩ := tracks.recent
  refine { tracks with recent := ⟨dropped, split, ?_⟩, past := ?_ }
  · intro last latest time member
    have := old last latest time member
    omega
  · intro time member
    have := tracks.past time member
    omega

theorem admitted {gone kept : List Int} {new : Admission} (tracks : Tracks expirationSeconds clock own (gone ++ kept))
    (timely : clock ≤ new.time) (left : ∀ time ∈ gone, time ≤ new.time - new.duration)
    (fits : kept.length < new.maxRequestNum) (covered : 0 < expirationSeconds → new.duration ≤ expirationSeconds + 1)
    (loosened : ∀ last ∈ own.head?, new.duration ≤ last.duration) :
    Tracks expirationSeconds new.time (new :: own) (kept ++ [new.time]) ∧
      (own.filter (new.time - new.duration < ·.time)).length < new.maxRequestNum := by
  obtain ⟨dropped, split, old⟩ := tracks.recent
  have outside : ∀ time ∈ gone.reverse ++ dropped, time ≤ new.time - new.duration := by
    intro time member
    rcases List.mem_append.mp member with first | second
    · exact left time (List.mem_reverse.mp first)
    · cases own with
      | nil => simp_all
      | cons last rest =>
        have := old last rfl time second
        have := loosened last rfl
        omega
  have parts : own.map Admission.time = kept.reverse ++ (gone.reverse ++ dropped) := by simp [split]
  refine ⟨⟨⟨gone.reverse ++ dropped, by simp [parts], ?_⟩, ?_, ?_, ?_⟩, ?_⟩
  · rintro last ⟨⟩
    exact outside
  · rintro last ⟨⟩
    exact covered
  · refine List.pairwise_cons.mpr ⟨fun time member => ?_, tracks.ordered⟩
    exact Int.le_trans (tracks.past time member) timely
  · intro time member
    rcases List.mem_cons.mp member with rfl | before
    · exact Int.le_refl _
    · exact Int.le_trans (tracks.past time before) timely
  · -- of the times in the window, all are among those that stay in the queue
    have counted : (own.filter (new.time - new.duration < ·.time)).length =
        (own.map Admission.time).countP (new.time - new.duration < ·) := by
      rw [List.countP_map, List.countP_eq_length_filter]
      rfl
    have outside : (gone.reverse ++ dropped).countP (new.time - new.duration < ·) = 0 := by
      refine List.countP_eq_zero.mpr fun time member => ?_
      simpa using outside time member
    have most := @List.countP_le_length _ (new.time - new.duration < ·) kept.reverse
    rw [counted, parts, List.countP_append, outside]
    rw [List.length_reverse] at most
    omega

theorem swept {newest : Int} (tracks : Tracks expirationSeconds clock own queue) (timely : clock ≤ now)
    (last : queue.getLast? = some newest) (expires : 0 < expirationSeconds)
    (expired : expirationSeconds < now - newest) : Tracks expirationSeconds now own [] := by
  obtain ⟨dropped, split, old⟩ := (tracks.later timely).recent
  refine { tracks.later timely with recent := ⟨queue.reverse ++ dropped, split, ?_⟩ }
  intro latest among time member
  rcases List.mem_append.mp member with held | before
  · have ordered : (queue.reverse ++ dropped).Pairwise (· ≥ ·) := split ▸ tracks.ordered
    have bounded : time ≤ newest := by
      obtain ⟨front, rfl⟩ := List.getLast?_eq_some_iff.mp last
      simp only [List.reverse_append, List.reverse_singleton, List.cons_append, List.pairwise_cons] at ordered held
      rcases List.mem_cons.mp held with rfl | older
      · exact Int.le_refl _
      · exact ordered.1 time (List.mem_append_left _ older)
    have := tracks.covered latest among expires
    omega
  · exact old latest among time before

end Tracks

namespace Limiter

variable {limiter : Limiter}

structure Tracked (limiter : Limiter) : Prop where
  enforced : Enforced limiter.admissions
  tracks : ∀ key, Tracks limiter.expirationSeconds limiter.clock (limiter.admissionsOf key)
    (times (limiter.stores.memory key))

theorem request_tracked {now maxRequestNum duration : Int} {key : String} (tracked : limiter.Tracked)
    (timely : (LimiterEvent.request now key maxRequestNum duration).Timely limiter)
    (covered : (LimiterEvent.request now key maxRequestNum duration).Covered limiter) :
    (limiter.step (.request now key maxRequestNum duration)).Tracked := by
  obtain ⟨later, positive, -⟩ := timely
  obtain ⟨expires, sized, loosened⟩ := covered
  cases done : memoryRequest now maxRequestNum duration (limiter.stores.memory key) with
  | mk verdict after =>
    simp only [step, memoryAt, done]
    obtain ⟨-, negative, -⟩ | ⟨rfl, rfl, -⟩ | ⟨rfl, gone, kept, split, appended, left, room⟩ :=
      memoryRequest_times done
    · omega
    · refine ⟨by simpa using tracked.enforced, fun other => ?_⟩
      have same : (if other = key then limiter.stores.memory key else limiter.stores.memory other) =
          limiter.stores.memory other := ite_eq_right_iff.mpr fun same => by rw [same]
      simpa [admissionsOf, same] using (tracked.tracks other).later later
    · have held := tracked.tracks key
      rw [split] at held
      obtain ⟨tracks, few⟩ := @Tracks.admitted _ _ _ gone kept { key, time := now, maxRequestNum, duration } held later
        left (room positive sized) expires loosened
      refine ⟨⟨?_, tracked.enforced⟩, fun other => ?_⟩
      · simpa [Admission.window, admissionsOf, List.filter_filter, Bool.and_comm] using few
      · by_cases same : other = key
        · subst same
          simpa [admissionsOf, appended] using tracks
        · simpa [admissionsOf, same, Ne.symm same] using (tracked.tracks other).later later

theorem sweep_tracked {now : Int} (tracked : limiter.Tracked) (later : limiter.clock ≤ now) :
    (limiter.step (.sweep now)).Tracked := by
  by_cases expires : 0 < limiter.expirationSeconds
  · simp only [step, expires, if_true]
    refine ⟨tracked.enforced, fun key => ?_⟩
    have tracks := tracked.tracks key
    simp only [clearExpiredItems]
    cases held : limiter.stores.memory key with
    | none =>
      rw [held] at tracks
      exact tracks.later later
    | some queue =>
      rw [held] at tracks
      by_cases fresh : now - queue.last ≤ limiter.expirationSeconds
      · simpa [admissionsOf, Option.filter, fresh] using tracks.later later
      · have newest : (times (some queue)).getLast? = some queue.last := by
          simp [times, Queue.last, List.getLast?_cons]
        simpa [admissionsOf, Option.filter, fresh, times] using tracks.swept later newest expires (by omega)
  · simpa [step, expires] using tracked

end Limiter

/-- While the queue of a key fits its limit, its window is not made longer and the sweep waits long enough, the limiter
enforces its window. -/
theorem window_enforced (expirationSeconds : Int) (events : List LimiterEvent)
    (allowed : Guarded Limiter.step (fun limiter event => event.Timely limiter ∧ event.Covered limiter)
      (Limiter.init none expirationSeconds) events) :
    Enforced (run Limiter.step (Limiter.init none expirationSeconds) events).admissions := by
  have tracked : (run Limiter.step (Limiter.init none expirationSeconds) events).Tracked := by
    refine Guarded.invariant ?_ ⟨trivial, fun key => ⟨⟨[], rfl, nofun⟩, nofun, .nil, nofun⟩⟩ allowed
    rintro limiter event tracked ⟨timely, covered⟩
    cases event with
    | init seconds => exact tracked
    | request now key maxRequestNum duration => exact Limiter.request_tracked tracked timely covered
    | sweep now => exact Limiter.sweep_tracked tracked timely
  exact tracked.enforced

theorem raised_limit_enforced :
    let events := [.request 0 "CT:user:7" 3 60, .request 70 "CT:user:7" 1 60, .sweep 80, .request 90 "CT:user:7" 2 60]
    (run Limiter.step (Limiter.init none 1200) events).admissions.length = 3 ∧
      Enforced (run Limiter.step (Limiter.init none 1200) events).admissions :=
  ⟨by decide +kernel, window_enforced 1200 _ (by decide +kernel)⟩

/-- A limit that is lowered to one leaves two times in the queue, of which only the older one is looked at; and a window
of an hour does not survive a sweep every twenty minutes. -/
theorem lowered_limit_not_enforced : ¬ Enforced (run Limiter.step (Limiter.init none 1200)
      [.request 0 "CT:user:7" 2 60, .request 1 "CT:user:7" 2 60, .request 60 "CT:user:7" 1 60]).admissions ∧
    ¬ Enforced (run Limiter.step (Limiter.init none 1200)
      [.request 0 "MRRL7" 1 3600, .sweep 1201, .request 1202 "MRRL7" 1 3600]).admissions := by
  decide +kernel

end TokenFactory.RateLimit
