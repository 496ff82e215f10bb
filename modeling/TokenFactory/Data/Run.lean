import Mathlib

namespace TokenFactory.Data

/-! Finite runs of a deterministic system: a total step function along a list of actions.

An action that is not enabled leaves the state as it is. `Guarded` selects the schedules
in which every action meets a condition on the state it is taken in. -/

variable {State : Type u} {Action : Type v}
  {step : State → Action → State} {guard : State → Action → Prop}

def run (step : State → Action → State) (start : State) (actions : List Action) : State :=
  actions.foldl step start

@[simp] theorem run_nil (start : State) : run step start [] = start := rfl

@[simp] theorem run_cons (start : State) (action : Action) (rest : List Action) :
    run step start (action :: rest) = run step (step start action) rest := rfl

theorem run_append (start : State) (first second : List Action) :
    run step start (first ++ second) = run step (run step start first) second :=
  List.foldl_append

/-- Every action of the schedule meets `guard` in the state it is taken in. -/
def Guarded (step : State → Action → State) (guard : State → Action → Prop) :
    State → List Action → Prop
  | _, [] => True
  | state, action :: rest => guard state action ∧ Guarded step guard (step state action) rest

instance Guarded.decidable [∀ state action, Decidable (guard state action)] :
    (start : State) → (actions : List Action) → Decidable (Guarded step guard start actions)
  | _, [] => .isTrue trivial
  | start, action :: rest =>
    have := Guarded.decidable (step start action) rest
    inferInstanceAs (Decidable (_ ∧ _))

theorem Guarded.append {start : State} {first second : List Action} :
    Guarded step guard start (first ++ second) ↔
      Guarded step guard start first ∧ Guarded step guard (run step start first) second := by
  induction first generalizing start with
  | nil => simp [Guarded]
  | cons action rest ih => simp only [List.cons_append, Guarded, run_cons, ih, and_assoc]

theorem Guarded.of_forall {allowed : Action → Prop} {start : State} {actions : List Action}
    (all : ∀ action ∈ actions, allowed action) :
    Guarded step (fun _ action => allowed action) start actions := by
  induction actions generalizing start with
  | nil => trivial
  | cons action rest ih => exact ⟨all action (.head _), ih fun other among => all other (.tail _ among)⟩

/-- The invariant rule: what holds initially and is kept by every guarded step
holds in every state a guarded schedule reaches. -/
theorem Guarded.invariant {Invariant : State → Prop} {start : State} {actions : List Action}
    (preserved : ∀ state action, Invariant state → guard state action →
      Invariant (step state action))
    (initial : Invariant start) (guarded : Guarded step guard start actions) :
    Invariant (run step start actions) := by
  induction actions generalizing start with
  | nil => exact initial
  | cons action rest ih => exact ih (preserved start action initial guarded.1) guarded.2

/-- What no action of a schedule writes is the same after it. -/
theorem run_keeps {Value : Type w} (key : State → Value) {writes : Action → Prop} {start : State}
    {actions : List Action} (kept : ∀ state action, ¬ writes action → key (step state action) = key state)
    (unwritten : ∀ action ∈ actions, ¬ writes action) : key (run step start actions) = key start := by
  have keeps : ∀ state action, key state = key start → ¬ writes action → key (step state action) = key start :=
    fun state action same untouched => (kept state action untouched).trans same
  exact Guarded.invariant keeps rfl (.of_forall unwritten)

/-- The rule for schedules without a condition. -/
theorem run_invariant {Invariant : State → Prop} {start : State}
    (preserved : ∀ state action, Invariant state → Invariant (step state action))
    (initial : Invariant start) (actions : List Action) : Invariant (run step start actions) := by
  induction actions generalizing start with
  | nil => exact initial
  | cons action rest ih => exact ih (preserved start action initial)

end TokenFactory.Data
