import Mathlib

namespace TokenFactory.Go

/-! Functions that return an error: `if err != nil { return err }` is the bind of `Except`. -/

variable {Problem : Type u} {First Second : Type v}

theorem bind_ok {first : Except Problem First} {next : First → Except Problem Second} {result : Second} :
    (first >>= next) = .ok result ↔ ∃ value, first = .ok value ∧ next value = .ok result := by
  cases first with
  | error problem => simp [bind, Except.bind]
  | ok value => simp [bind, Except.bind]

@[simp] theorem ok_bind (value : First) (next : First → Except Problem Second) :
    (Except.ok value >>= next) = next value := rfl

@[simp] theorem error_bind (problem : Problem) (next : First → Except Problem Second) :
    (Except.error problem >>= next) = .error problem := rfl

/-- `if condition { return problem }`. -/
def refuseIf (condition : Prop) [Decidable condition] (problem : Problem) : Except Problem Unit :=
  if condition then .error problem else .ok ()

variable {problem : Problem} {condition : Prop}

theorem refuseIf_pos [Decidable condition] (holds : condition) :
    refuseIf condition problem = .error problem := if_pos holds

theorem refuseIf_neg [Decidable condition] (fails : ¬ condition) :
    refuseIf condition problem = .ok () := if_neg fails

theorem refuseIf_ok [Decidable condition] {done : Unit} :
    refuseIf condition problem = .ok done ↔ ¬ condition := by
  unfold refuseIf
  split <;> simp [*]

variable {State : Type v} {Item : Type w} {step : State → Item → Except Problem State}
  {Invariant : State → Prop} {items : List Item}

/-- What every step of a loop keeps when it succeeds holds after a loop that has succeeded. -/
theorem foldlM_invariant {start final : State}
    (keeps : ∀ state item next, item ∈ items → Invariant state → step state item = .ok next → Invariant next)
    (holds : Invariant start) (done : items.foldlM step start = .ok final) : Invariant final := by
  induction items generalizing start with
  | nil => exact Except.ok.inj done ▸ holds
  | cons item rest ih =>
    obtain ⟨middle, first, later⟩ := bind_ok.mp done
    exact ih (fun state other next member => keeps state other next (.tail _ member))
      (keeps start item middle (.head _) holds first) later

/-- A loop succeeds when each of its steps does from a state with the invariant and keeps it. -/
theorem foldlM_succeeds {start : State}
    (steps : ∀ state item, item ∈ items → Invariant state → ∃ next, step state item = .ok next ∧ Invariant next)
    (holds : Invariant start) : ∃ final, items.foldlM step start = .ok final ∧ Invariant final := by
  induction items generalizing start with
  | nil => exact ⟨start, rfl, holds⟩
  | cons item rest ih =>
    obtain ⟨next, first, kept⟩ := steps start item (.head _) holds
    obtain ⟨final, later, ends⟩ := ih (fun state other member => steps state other (.tail _ member)) kept
    refine ⟨final, ?_, ends⟩
    rw [List.foldlM_cons, first, ok_bind, later]

/-- In a loop that has succeeded every item had its successful step. -/
theorem foldlM_step {start final : State}
    (keeps : ∀ state item next, item ∈ items → Invariant state → step state item = .ok next → Invariant next)
    (holds : Invariant start) (done : items.foldlM step start = .ok final) {item : Item} (member : item ∈ items) :
    ∃ state next, Invariant state ∧ step state item = .ok next := by
  obtain ⟨before, after, rfl⟩ := List.append_of_mem member
  rw [List.foldlM_append] at done
  obtain ⟨state, reached, rest⟩ := bind_ok.mp done
  obtain ⟨next, stepped, -⟩ := bind_ok.mp rest
  have kept : Invariant state :=
    foldlM_invariant (fun state other next among => keeps state other next (List.mem_append_left _ among))
      holds reached
  exact ⟨state, next, kept, stepped⟩

end TokenFactory.Go
