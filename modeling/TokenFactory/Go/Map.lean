import TokenFactory.Go.Errors

namespace TokenFactory.Go

/-! Maps with string keys, and the loops over them. -/

/-- What a map holds at every key. -/
def GoMap (Value : Type) : Type := String → Option Value

namespace GoMap
variable {Value : Type}

def empty : GoMap Value := fun _ => none

def set (map : GoMap Value) (key : String) (value : Value) : GoMap Value :=
  fun other => if other = key then some value else map other

/-- The entries are assigned one after the other. -/
def ofEntries (entries : List (String × Value)) : GoMap Value :=
  entries.foldl (fun map entry => map.set entry.1 entry.2) empty

end GoMap

/-- An order in which a loop may visit the entries of a map: Go leaves it open. -/
structure Visit where
  order : {Value : Type} → List (String × Value) → List (String × Value)
  perm : ∀ {Value : Type} (entries : List (String × Value)), (order entries).Perm entries

namespace Visit

def asListed : Visit where
  order := fun entries => entries
  perm := fun entries => .refl entries

theorem mem_order (visit : Visit) {Value : Type} {entries : List (String × Value)} {entry : String × Value} :
    entry ∈ visit.order entries ↔ entry ∈ entries :=
  (visit.perm entries).mem_iff

end Visit

/-! A loop that stops at the first entry that fails. -/

section
variable {Entry Value Reason : Type} {check : Entry → Except Reason Value} {entries : List Entry}

theorem mapM_ok_of_forall (accepted : ∀ entry ∈ entries, ∃ value, check entry = .ok value) :
    ∃ values, entries.mapM check = .ok values := by
  induction entries with
  | nil => exact ⟨[], rfl⟩
  | cons entry rest induction =>
    obtain ⟨value, first⟩ := accepted entry List.mem_cons_self
    obtain ⟨values, others⟩ := induction fun other member => accepted other (List.mem_cons_of_mem entry member)
    refine ⟨value :: values, ?_⟩
    rw [List.mapM_cons, first, others]
    rfl

theorem forall_of_mapM_ok {values : List Value} (accepted : entries.mapM check = .ok values) :
    ∀ entry ∈ entries, ∃ value, check entry = .ok value := by
  induction entries generalizing values with
  | nil => exact fun entry member => absurd member List.not_mem_nil
  | cons entry rest induction =>
    rw [List.mapM_cons] at accepted
    obtain ⟨value, first, later⟩ := bind_ok.mp accepted
    obtain ⟨tail, others, -⟩ := bind_ok.mp later
    exact List.forall_mem_cons.mpr ⟨⟨value, first⟩, induction others⟩

end

end TokenFactory.Go
