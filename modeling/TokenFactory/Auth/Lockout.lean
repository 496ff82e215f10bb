import TokenFactory.Data.Run

namespace TokenFactory.Auth

open Data

/-! The lockout after wrong codes of the second factor. -/

def maxFailAttempts : Nat := 5

/-- In nanoseconds, as all times here. -/
def lockoutDuration : Int := 300 * 1000000000

structure TwoFALock where
  failedAttempts : Nat := 0
  lockedUntil : Option Int := none
deriving DecidableEq

def TwoFALock.incrementFailedAttempts (twoFA : TwoFALock) (now : Int) : TwoFALock where
  failedAttempts := twoFA.failedAttempts + 1
  lockedUntil :=
    if maxFailAttempts ≤ twoFA.failedAttempts + 1 then some (now + lockoutDuration) else twoFA.lockedUntil

def TwoFALock.isLocked (twoFA : TwoFALock) (now : Int) : Bool := twoFA.lockedUntil.any (now < ·)

inductive Phase where
  | reading
  | refused
  | unlocked
  | failed
  | saved
deriving DecidableEq

/-- `seen` are the locks that had been stored when the attempt started. -/
structure Attempt where
  startedAt : Int
  seen : List (Option Int)
  copy : TwoFALock
  phase : Phase := .reading
deriving DecidableEq

def Attempt.over (attempt : Attempt) : Prop := attempt.phase = .refused ∨ attempt.phase = .saved

instance (attempt : Attempt) : Decidable attempt.over := inferInstanceAs (Decidable (_ ∨ _))

def Attempt.checked (attempt : Attempt) : Prop := attempt.phase = .failed ∨ attempt.phase = .saved

/-- `stored` are the locks that the row has had, the latest one first; `codes` counts the codes that were checked. -/
structure Guessing where
  row : TwoFALock
  stored : List (Option Int)
  attempts : List Attempt := []
  codes : Nat := 0
  clock : Int

def Guessing.start (row : TwoFALock) (clock : Int) : Guessing := { row, stored := [row.lockedUntil], clock }

inductive GuessingEvent where
  | start (now : Int)
  | advance (attempt : Nat) (now : Int)

def Guessing.put (state : Guessing) (index : Nat) (attempt : Attempt) : Guessing :=
  { state with attempts := state.attempts.set index attempt }

/-- The next step of one attempt: `ValidateTOTPAndUpdateUsage`, and likewise `ValidateBackupCodeAndUpdateUsage`, with
a wrong code. -/
def Guessing.advance (state : Guessing) (index : Nat) (now : Int) (attempt : Attempt) : Guessing :=
  match attempt.phase with
  | .reading => state.put index { attempt with phase := if attempt.copy.isLocked now then .refused else .unlocked }
  | .unlocked => { state.put index { attempt with phase := .failed } with codes := state.codes + 1 }
  | .failed =>
    let row := attempt.copy.incrementFailedAttempts now
    { state.put index { attempt with phase := .saved } with row, stored := row.lockedUntil :: state.stored }
  | .refused | .saved => state

def Guessing.step (state : Guessing) : GuessingEvent → Guessing
  | .start now =>
    { state with
      attempts := state.attempts ++ [{ startedAt := now, seen := state.stored, copy := state.row }]
      clock := now }
  | .advance index now =>
    match state.attempts[index]? with
    | none => state
    | some attempt => { state.advance index now attempt with clock := now }

/-- A stored lock is followed only by locks that end no earlier. -/
def KeptLocks (stored : List (Option Int)) : Prop :=
  stored.Pairwise fun later earlier => ∀ lock ∈ earlier, ∃ next ∈ later, lock ≤ next

instance (stored : List (Option Int)) : Decidable (KeptLocks stored) := inferInstanceAs (Decidable (stored.Pairwise _))

/-- What the lockout is for. -/
structure Guessing.Bounded (state : Guessing) : Prop where
  guesses : (∀ lock ∈ state.stored, lock = none) → state.codes ≤ maxFailAttempts
  kept : KeptLocks state.stored
  refused : ∀ attempt ∈ state.attempts, attempt.checked → ∀ lock, some lock ∈ attempt.seen → lock ≤ attempt.startedAt

/-- Time does not go back. -/
def GuessingEvent.Timely (state : Guessing) : GuessingEvent → Prop
  | .start now | .advance _ now => state.clock ≤ now

/-- An attempt starts when all others are over, and no lock ends between its start and its check of the lock. -/
def GuessingEvent.Alone (state : Guessing) : GuessingEvent → Prop
  | .start _ => ∀ attempt ∈ state.attempts, attempt.over
  | .advance index now => ∀ attempt ∈ state.attempts[index]?, attempt.phase = .reading →
      ∀ lock ∈ attempt.copy.lockedUntil, attempt.startedAt < lock → now < lock

instance (state : Guessing) : (event : GuessingEvent) → Decidable (event.Timely state ∧ event.Alone state)
  | .start _ => inferInstanceAs (Decidable (_ ≤ _ ∧ ∀ _ ∈ _, _))
  | .advance .. => inferInstanceAs (Decidable (_ ≤ _ ∧ ∀ _ ∈ _, _ → ∀ _ ∈ _, _ → _))

variable {state : Guessing} {attempt moved : Attempt} {index : Nat} {now : Int}

structure Guessing.Serial (state : Guessing) : Prop where
  current : state.stored.head? = some state.row.lockedUntil
  kept : KeptLocks state.stored
  single : ∀ index attempt, state.attempts[index]? = some attempt → ¬ attempt.over →
    index + 1 = state.attempts.length ∧ attempt.copy = state.row ∧ attempt.seen = state.stored
  started : ∀ attempt ∈ state.attempts, attempt.startedAt ≤ state.clock
  past : ∀ attempt ∈ state.attempts, attempt.phase = .unlocked ∨ attempt.checked →
    ∀ lock, some lock ∈ attempt.seen → lock ≤ attempt.startedAt
  counted : (∀ lock ∈ state.stored, lock = none) → ∃ failures < maxFailAttempts,
    failures ≤ state.row.failedAttempts ∧ state.codes ≤ failures + 1 ∧
      ((∀ attempt ∈ state.attempts, attempt.phase ≠ .failed) → state.codes ≤ failures)

namespace Guessing.Serial

section
variable (serial : state.Serial)
include serial

theorem bounded : state.Bounded where
  guesses unlocked := by
    obtain ⟨failures, few, -, most, -⟩ := serial.counted unlocked
    omega
  kept := serial.kept
  refused attempt member checked := serial.past attempt member (.inr checked)

theorem later (timely : state.clock ≤ now) : ({ state with clock := now } : Guessing).Serial :=
  { serial with started := fun attempt member => Int.le_trans (serial.started attempt member) timely }

theorem locks_le {limit : Int} (ended : ∀ lock ∈ state.row.lockedUntil, lock ≤ limit) :
    ∀ lock, some lock ∈ state.stored → lock ≤ limit := by
  intro lock member
  obtain ⟨earlier, split⟩ := List.head?_eq_some_iff.mp serial.current
  have kept := serial.kept
  rw [KeptLocks, split, List.pairwise_cons] at kept
  rw [split] at member
  rcases List.mem_cons.mp member with same | before
  · exact ended lock same.symm
  · obtain ⟨next, current, le⟩ := kept.1 _ before lock rfl
    exact Int.le_trans le (ended next current)

section
variable (found : state.attempts[index]? = some attempt)
include found

theorem single_set (active : ¬ attempt.over)
    {other : Nat} {found' : Attempt} (listed : (state.attempts.set index moved)[other]? = some found')
    (going : ¬ found'.over) : other = index ∧ found' = moved := by
  have last := (serial.single index attempt found active).1
  by_cases same : index = other
  · subst same
    have inside : index < state.attempts.length := by omega
    simp only [List.getElem?_set_self inside, Option.some.injEq] at listed
    exact ⟨rfl, listed.symm⟩
  · rw [List.getElem?_set_ne same] at listed
    have := (serial.single other found' listed going).1
    omega

theorem move (active : ¬ attempt.over) {phase : Phase} {codes : Nat}
    (past : phase = .unlocked ∨ phase = .failed → ∀ lock, some lock ∈ attempt.seen → lock ≤ attempt.startedAt)
    (ends : phase ≠ .saved)
    (counted : (∀ lock ∈ state.stored, lock = none) → ∃ failures < maxFailAttempts,
      failures ≤ state.row.failedAttempts ∧ codes ≤ failures + 1 ∧ (phase ≠ .failed → codes ≤ failures)) :
    ({ state.put index { attempt with phase } with codes } : Guessing).Serial := by
  obtain ⟨last, copy, seen⟩ := serial.single index attempt found active
  refine { serial with single := ?_, started := ?_, past := ?_, counted := ?_ }
  · intro other found' listed going
    obtain ⟨rfl, rfl⟩ := serial.single_set found active listed going
    exact ⟨by simpa [Guessing.put] using last, copy, seen⟩
  · intro other member
    rcases List.mem_or_eq_of_mem_set member with before | rfl
    · exact serial.started other before
    · exact serial.started attempt (List.mem_of_getElem? found)
  · intro other member checked
    rcases List.mem_or_eq_of_mem_set member with before | rfl
    · exact serial.past other before checked
    · refine past ?_
      simpa [Attempt.checked, ends] using checked
  · intro unlocked
    obtain ⟨failures, few, counts, most, settled⟩ := counted unlocked
    refine ⟨failures, few, counts, most, fun unlocked => settled ?_⟩
    have inside : index < state.attempts.length := by omega
    exact unlocked _ (List.mem_set inside _)

theorem none_failed (active : ¬ attempt.over)
    (unchecked : attempt.phase ≠ .failed) : ∀ other ∈ state.attempts, other.phase ≠ .failed := by
  intro other member failed
  obtain ⟨position, listed⟩ := List.mem_iff_getElem?.mp member
  have last := (serial.single index attempt found active).1
  have also := (serial.single position other listed (by simp [Attempt.over, failed])).1
  obtain rfl : position = index := by omega
  rw [found, Option.some.injEq] at listed
  exact unchecked (listed ▸ failed)

theorem check_lock (reading : attempt.phase = .reading)
    (alone : ∀ lock ∈ attempt.copy.lockedUntil, attempt.startedAt < lock → now < lock) :
    (state.put index
      { attempt with phase := if attempt.copy.isLocked now then .refused else .unlocked }).Serial := by
  have active : ¬ attempt.over := by simp [Attempt.over, reading]
  obtain ⟨-, copy, seen⟩ := serial.single index attempt found active
  refine serial.move found active ?_ (by split <;> decide) fun unlocked => ?_
  · intro passes
    have free : attempt.copy.isLocked now = false := by
      cases locked : attempt.copy.isLocked now with
      | true => simp [locked] at passes
      | false => rfl
    rw [seen]
    refine serial.locks_le fun lock member => ?_
    rw [← copy] at member
    have ended : ¬ now < lock := by
      intro locked
      rw [TwoFALock.isLocked, Option.any_eq_false] at free
      exact absurd (decide_eq_true locked) (by simpa using free lock member)
    by_contra late
    exact ended (alone lock member (by omega))
  · obtain ⟨failures, few, counts, most, settled⟩ := serial.counted unlocked
    exact ⟨failures, few, counts, most, fun _ => settled (serial.none_failed found active (by simp [reading]))⟩

theorem check_code (unlocked : attempt.phase = .unlocked) :
    ({ state.put index { attempt with phase := .failed } with codes := state.codes + 1 } : Guessing).Serial := by
  have active : ¬ attempt.over := by simp [Attempt.over, unlocked]
  refine serial.move found active (fun _ => ?_) (by decide) fun free => ?_
  · exact serial.past attempt (List.mem_of_getElem? found) (.inl unlocked)
  · obtain ⟨failures, few, counts, -, settled⟩ := serial.counted free
    have := settled (serial.none_failed found active (by simp [unlocked]))
    exact ⟨failures, few, counts, by omega, fun other => absurd rfl other⟩

end

theorem save (timely : state.clock ≤ now) (found : state.attempts[index]? = some attempt)
    (failed : attempt.phase = .failed) : ({ state.put index { attempt with phase := .saved } with
        row := attempt.copy.incrementFailedAttempts now
        stored := (attempt.copy.incrementFailedAttempts now).lockedUntil :: state.stored } : Guessing).Serial := by
  have member := List.mem_of_getElem? found
  have active : ¬ attempt.over := by simp [Attempt.over, failed]
  obtain ⟨-, copy, seen⟩ := serial.single index attempt found active
  have ended := serial.past attempt member (.inr (.inl failed))
  have finished : (⟨attempt.startedAt, attempt.seen, attempt.copy, .saved⟩ : Attempt).over := .inr rfl
  refine ⟨rfl, List.pairwise_cons.mpr ⟨?_, serial.kept⟩, ?_, ?_, ?_, ?_⟩
  · rintro earlier before lock rfl
    have past : lock ≤ now := by
      have := ended lock (seen ▸ before)
      have := serial.started attempt member
      omega
    unfold TwoFALock.incrementFailedAttempts
    split
    · exact ⟨_, rfl, by simp only [lockoutDuration]; omega⟩
    · obtain ⟨others, split⟩ := List.head?_eq_some_iff.mp serial.current
      have kept := serial.kept
      rw [KeptLocks, split, List.pairwise_cons] at kept
      rw [split] at before
      rcases List.mem_cons.mp before with same | older
      · exact ⟨lock, by rw [copy, ← same]; rfl, Int.le_refl _⟩
      · rw [copy]
        exact kept.1 _ older lock rfl
  · intro other found' listed going
    obtain ⟨-, rfl⟩ := serial.single_set found active listed going
    exact absurd finished going
  · intro other listed
    rcases List.mem_or_eq_of_mem_set listed with before | rfl
    · exact serial.started other before
    · exact serial.started attempt member
  · intro other listed checked
    rcases List.mem_or_eq_of_mem_set listed with before | rfl
    · exact serial.past other before checked
    · exact ended
  · intro free
    obtain ⟨failures, few, counts, most, -⟩ := serial.counted fun lock stored => free lock (.tail _ stored)
    have below : ¬ maxFailAttempts ≤ attempt.copy.failedAttempts + 1 := by
      intro reached
      have unlocked := free _ (.head _)
      simp [TwoFALock.incrementFailedAttempts, reached] at unlocked
    rw [copy] at below ⊢
    refine ⟨failures + 1, by omega, Nat.succ_le_succ counts, Nat.le_succ_of_le most, fun _ => most⟩

end

end Guessing.Serial

theorem step_serial (state : Guessing) (event : GuessingEvent) (serial : state.Serial)
    (allowed : event.Timely state ∧ event.Alone state) : (state.step event).Serial := by
  obtain ⟨timely, alone⟩ := allowed
  cases event with
  | start now =>
    refine { serial with single := ?_, started := ?_, past := ?_, counted := ?_ }
    · intro index attempt listed going
      simp only [Guessing.step, List.getElem?_append] at listed ⊢
      split at listed
      · exact absurd (alone attempt (List.mem_of_getElem? listed)) going
      · obtain ⟨new, rfl⟩ := List.getElem?_eq_some_iff.mp listed
        simp only [List.length_singleton, Nat.lt_one_iff] at new
        refine ⟨?_, by simp⟩
        rw [List.length_append, List.length_singleton]
        omega
    · intro attempt member
      rcases List.mem_append.mp member with before | new
      · exact Int.le_trans (serial.started attempt before) timely
      · rw [List.mem_singleton.mp new]
        exact Int.le_refl now
    · intro attempt member checked
      rcases List.mem_append.mp member with before | new
      · exact serial.past attempt before checked
      · rw [List.mem_singleton.mp new] at checked
        simp [Attempt.checked] at checked
    · intro free
      obtain ⟨failures, few, counts, most, settled⟩ := serial.counted free
      exact ⟨failures, few, counts, most, fun unchecked => settled fun other member =>
        unchecked other (List.mem_append_left _ member)⟩
  | advance index now =>
    simp only [Guessing.step]
    cases found : state.attempts[index]? with
    | none => exact serial
    | some attempt =>
      have current := serial.later timely
      simp only [Guessing.advance]
      cases phase : attempt.phase with
      | reading => exact current.check_lock found phase (alone attempt found phase)
      | unlocked => exact current.check_code found phase
      | failed => exact current.save (Int.le_refl now) found phase
      | refused => exact current
      | saved => exact current

/-- Attempts of a user that do not overlap: the lockout bounds the guesses. -/
theorem guesses_bounded (row : TwoFALock) (clock : Int) (events : List GuessingEvent)
    (alone : Guarded Guessing.step (fun state event => event.Timely state ∧ event.Alone state)
      (.start row clock) events) : (run Guessing.step (.start row clock) events).Bounded := by
  have serial : (Guessing.start row clock).Serial :=
    ⟨rfl, List.pairwise_singleton _ _, nofun, nofun, nofun,
      fun _ => ⟨0, by decide, Nat.zero_le _, by simp [Guessing.start], fun _ => Nat.le_refl 0⟩⟩
  exact (Guarded.invariant step_serial serial alone).bounded

def attemptAt (index : Nat) (now : Int) : List GuessingEvent :=
  .start now :: List.replicate 3 (.advance index now)

theorem six_attempts_bounded :
    let events := (List.range 6).flatMap fun index => attemptAt index index
    (run Guessing.step (.start {} 0) events).codes = 5 ∧ (run Guessing.step (.start {} 0) events).Bounded :=
  ⟨by decide +kernel, guesses_bounded {} 0 _ (by decide +kernel)⟩

/-- Six attempts that read the row first all have their codes checked, and none of them locks it; and an
attempt that read the row before the last failures takes the lock away. -/
theorem overlapping_guesses_unbounded : ¬ (run Guessing.step (.start {} 0)
      (List.replicate 6 (.start 0) ++
        (List.range 6).flatMap fun index => List.replicate 2 (.advance index 0))).Bounded ∧
    ¬ (run Guessing.step (.start { failedAttempts := 3 } 0)
      (.start 0 :: .advance 0 0 :: attemptAt 1 0 ++ attemptAt 2 0 ++ [.advance 0 0, .advance 0 0])).Bounded := by
  constructor
  · intro bounded
    exact absurd (bounded.guesses (by decide +kernel)) (by decide +kernel)
  · intro bounded
    exact absurd bounded.kept (by decide +kernel)

end TokenFactory.Auth
