import TokenFactory.Data.Run

namespace TokenFactory.Data

/-! Transactions whose reads take no lock.

A transaction reads committed data, decides on its writes, makes them one row
after the other and commits. A write locks its row until the commit, and a row
that another open transaction has locked makes it wait. `Serial` selects the
schedules in which every transaction commits on the data it has read. -/

structure Protocol (Store Task Seen Row Result : Type) where
  read : Store → Task → Seen
  rows : Task → Seen → List Row
  commit : Store → Task → Seen → Result × Store

inductive Progress (Task Seen Row Result : Type) where
  | waiting (task : Task)
  | active (task : Task) (seen : Seen) (held wanted : List Row)
  | finished (task : Task) (result : Result)

structure Interleaving (Store Task Seen Row Result : Type) where
  store : Store
  parties : List (Progress Task Seen Row Result)
  log : List (Task × Result)

inductive Turn where
  | read (party : Nat)
  | write (party : Nat)
  | commit (party : Nat)
deriving DecidableEq

variable {Store Task Seen Row Result : Type}

/-- The whole transaction with nobody else around. -/
def Protocol.atomically (protocol : Protocol Store Task Seen Row Result) (store : Store) (task : Task) :
    Result × Store :=
  protocol.commit store task (protocol.read store task)

def Progress.holds [DecidableEq Row] (row : Row) : Progress Task Seen Row Result → Bool
  | .active _ _ held _ => row ∈ held
  | _ => false

namespace Interleaving

def start (store : Store) (tasks : List Task) : Interleaving Store Task Seen Row Result :=
  ⟨store, tasks.map .waiting, []⟩

section Steps

variable [DecidableEq Row] (protocol : Protocol Store Task Seen Row Result)

/-- A row that another party holds makes the write wait; a row of one's own does not. -/
def free (state : Interleaving Store Task Seen Row Result) (held : List Row) (row : Row) : Bool :=
  row ∈ held || !state.parties.any (Progress.holds row)

def step (state : Interleaving Store Task Seen Row Result) : Turn → Interleaving Store Task Seen Row Result
  | .read party =>
    match state.parties[party]? with
    | some (.waiting task) =>
      let seen := protocol.read state.store task
      { state with parties := state.parties.set party (.active task seen [] (protocol.rows task seen)) }
    | _ => state
  | .write party =>
    match state.parties[party]? with
    | some (.active task seen held (row :: wanted)) =>
      if state.free held row then
        { state with parties := state.parties.set party (.active task seen (row :: held) wanted) }
      else state
    | _ => state
  | .commit party =>
    match state.parties[party]? with
    | some (.active task seen _ []) =>
      let outcome := protocol.commit state.store task seen
      ⟨outcome.2, state.parties.set party (.finished task outcome.1), state.log ++ [(task, outcome.1)]⟩
    | _ => state

/-- A commit happens on what the transaction has read, and is `allowed` there. -/
def Serial (allowed : Store → Task → Prop) (state : Interleaving Store Task Seen Row Result) : Turn → Prop
  | .commit party =>
    match state.parties[party]? with
    | some (.active task seen _ []) => protocol.read state.store task = seen ∧ allowed state.store task
    | _ => True
  | _ => True

instance [DecidableEq Seen] (allowed : Store → Task → Prop)
    [∀ store task, Decidable (allowed store task)] (state : Interleaving Store Task Seen Row Result)
    (turn : Turn) : Decidable (state.Serial protocol allowed turn) :=
  match turn with
  | .read _ | .write _ => .isTrue trivial
  | .commit party =>
    match found : state.parties[party]? with
    | some (.active task seen held []) =>
      decidable_of_iff (protocol.read state.store task = seen ∧ allowed state.store task)
        (by simp only [Serial, found])
    | some (.active _ _ _ (_ :: _)) | some (.waiting _) | some (.finished _ _) | none =>
      .isTrue (by simp only [Serial, found])

variable {protocol}

theorem step_cases (state : Interleaving Store Task Seen Row Result) (turn : Turn) :
    ((state.step protocol turn).store = state.store ∧ (state.step protocol turn).log = state.log) ∨
      ∃ party task seen held, turn = .commit party ∧
        state.parties[party]? = some (.active task seen held []) ∧
        (state.step protocol turn).store = (protocol.commit state.store task seen).2 ∧
        (state.step protocol turn).log = state.log ++ [(task, (protocol.commit state.store task seen).1)] := by
  cases turn with
  | read party =>
    refine .inl ?_
    simp only [step]
    split <;> exact ⟨rfl, rfl⟩
  | write party =>
    refine .inl ?_
    simp only [step]
    split
    · split <;> exact ⟨rfl, rfl⟩
    · exact ⟨rfl, rfl⟩
  | commit party =>
    simp only [step]
    split
    · rename_i task seen held found
      exact .inr ⟨party, task, seen, held, rfl, found, rfl, rfl⟩
    · exact .inl ⟨rfl, rfl⟩

/-- The rule for serial schedules: what every transaction keeps when it runs alone,
together with its entry in the log, holds after every serial schedule. -/
theorem serial_invariant {Invariant : List (Task × Result) → Store → Prop}
    {allowed : Store → Task → Prop} {state : Interleaving Store Task Seen Row Result} {turns : List Turn}
    (preserved : ∀ log store task, Invariant log store → allowed store task →
      Invariant (log ++ [(task, (protocol.atomically store task).1)]) (protocol.atomically store task).2)
    (initial : Invariant state.log state.store)
    (serial : Guarded (step protocol) (fun state turn => state.Serial protocol allowed turn) state turns) :
    Invariant (run (step protocol) state turns).log (run (step protocol) state turns).store := by
  have kept : ∀ (state : Interleaving Store Task Seen Row Result) turn, Invariant state.log state.store →
      state.Serial protocol allowed turn → Invariant (state.step protocol turn).log
        (state.step protocol turn).store := by
    intro state turn holds serial
    rcases step_cases state turn with ⟨store, log⟩ | ⟨party, task, seen, held, rfl, found, store, log⟩
    · rw [store, log]
      exact holds
    · simp only [Serial, found] at serial
      rw [store, log, ← serial.1]
      exact preserved state.log state.store task holds serial.2
  exact Guarded.invariant kept initial serial

end Steps

end Interleaving

end TokenFactory.Data
