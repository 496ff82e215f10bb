import Mathlib

namespace TokenFactory.Data

/-! A map of maps whose inner maps have to be made before they are written to.

Reading through a missing inner map gives nothing; appending through it fails. -/

universe u v w

abbrev Nested (Outer : Type u) (Inner : Type v) (Item : Type w) := Outer → Option (Inner → List Item)

namespace Nested

variable {Outer : Type u} {Inner : Type v} {Item : Type w}

def get (nested : Nested Outer Inner Item) (outer : Outer) (inner : Inner) : List Item :=
  ((nested outer).map fun lists => lists inner).getD []

variable [DecidableEq Outer] [DecidableEq Inner]

def append (nested : Nested Outer Inner Item) (entry : (Outer × Inner) × Item) :
    Option (Nested Outer Inner Item) :=
  (nested entry.1.1).map fun lists =>
    Function.update nested entry.1.1
      (some (Function.update lists entry.1.2 (lists entry.1.2 ++ [entry.2])))

def appendAll (nested : Nested Outer Inner Item) (entries : List ((Outer × Inner) × Item)) :
    Option (Nested Outer Inner Item) :=
  entries.foldlM append nested

section Append

variable {nested after : Nested Outer Inner Item} {entry : (Outer × Inner) × Item}

theorem append_isSome : (nested.append entry).isSome = (nested entry.1.1).isSome := by
  rw [append, Option.isSome_map]

theorem append_made (done : nested.append entry = some after) (outer : Outer) :
    (after outer).isSome = (nested outer).isSome := by
  obtain ⟨lists, made, rfl⟩ := Option.map_eq_some_iff.mp done
  by_cases same : outer = entry.1.1
  · subst same
    rw [Function.update_self, made]
    rfl
  · rw [Function.update_of_ne same]

theorem append_get (done : nested.append entry = some after) (outer : Outer) (inner : Inner) :
    after.get outer inner =
      nested.get outer inner ++ if entry.1 = (outer, inner) then [entry.2] else [] := by
  obtain ⟨lists, made, rfl⟩ := Option.map_eq_some_iff.mp done
  obtain ⟨⟨first, second⟩, item⟩ := entry
  by_cases same : outer = first
  · subst same
    by_cases also : inner = second
    · subst also
      simp [get, made]
    · simp [get, made, also, Ne.symm also]
  · simp [get, same, Ne.symm same]

end Append

theorem appendAll_isSome {nested : Nested Outer Inner Item} {entries : List ((Outer × Inner) × Item)} :
    (nested.appendAll entries).isSome ↔ ∀ entry ∈ entries, (nested entry.1.1).isSome := by
  induction entries generalizing nested with
  | nil => simp [appendAll]
  | cons entry rest ih =>
    rw [appendAll, List.foldlM_cons, List.forall_mem_cons, ← append_isSome]
    cases done : nested.append entry with
    | none => simp
    | some after =>
      rw [Option.bind_eq_bind, Option.bind_some, ← appendAll, ih]
      simp [append_made done]

theorem appendAll_get {nested after : Nested Outer Inner Item} {entries : List ((Outer × Inner) × Item)}
    (done : nested.appendAll entries = some after) (outer : Outer) (inner : Inner) :
    after.get outer inner =
      nested.get outer inner ++ (entries.filter fun entry => entry.1 = (outer, inner)).map Prod.snd := by
  induction entries generalizing nested with
  | nil =>
    cases done
    simp
  | cons entry rest ih =>
    obtain ⟨between, first, later⟩ := Option.bind_eq_some_iff.mp done
    rw [ih later, append_get first, List.append_assoc, List.filter_cons]
    by_cases same : entry.1 = (outer, inner) <;> simp [same]

end Nested

end TokenFactory.Data
