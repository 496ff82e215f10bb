import Mathlib

namespace TokenFactory.Data

/-! Going round a circle of positions. -/

/-- The positions in the order in which a scan from `start` meets them. -/
def circle (size start : Nat) : List Nat := (List.range size).map fun offset => (start + offset) % size

def scan (accepts : Nat → Bool) (size start : Nat) : Option Nat := (circle size start).find? accepts

/-- The positions that successive scans take. -/
def scans (accepts : Nat → Bool) (size : Nat) : Nat → Nat → List Nat
  | 0, _ => []
  | turns + 1, start =>
    match scan accepts size start with
    | none => []
    | some hit => hit :: scans accepts size turns ((hit + 1) % size)

variable {accepts : Nat → Bool} {size start : Nat}

theorem circle_eq_rotate (size start : Nat) : circle size start = (List.range size).rotate start := by
  apply List.ext_getElem
  · simp [circle]
  · intro offset _ _
    simp [circle, List.getElem_rotate, Nat.add_comm]

theorem circle_mod (size start : Nat) : circle size (start % size) = circle size start := by
  simp [circle]

/-- Behind a position the circle goes on with what was to follow, and ends with the position. -/
theorem circle_after {front back : List Nat} {hit : Nat} (split : circle size start = front ++ hit :: back) :
    circle size ((hit + 1) % size) = back ++ (front ++ [hit]) := by
  have place : (circle size start)[front.length]? = some hit := by
    rw [split]
    simp
  have met : hit = (start + front.length) % size := by
    simp only [circle, List.getElem?_map, Option.map_eq_some_iff] at place
    obtain ⟨offset, found, value⟩ := place
    obtain ⟨_, same⟩ := List.getElem?_eq_some_iff.mp found
    rw [← value, ← same, List.getElem_range]
  have next : circle size ((hit + 1) % size) = circle size (start + (front ++ [hit]).length) := by
    rw [met, Nat.mod_add_mod, circle_mod, List.length_append, List.length_singleton, Nat.add_assoc]
  calc circle size ((hit + 1) % size)
      = (circle size start).rotate (front ++ [hit]).length := by
        rw [next, circle_eq_rotate, circle_eq_rotate, List.rotate_rotate]
    _ = ((front ++ [hit]) ++ back).rotate (front ++ [hit]).length := by
        rw [split, List.append_assoc, List.singleton_append]
    _ = back ++ (front ++ [hit]) := List.rotate_append_length_eq _ _

/-- Successive scans take the accepted positions in the order of the circle. -/
theorem scans_eq_take (turns : Nat) (enough : turns ≤ ((circle size start).filter accepts).length) :
    scans accepts size turns start = ((circle size start).filter accepts).take turns := by
  -- each scan moves the position that it takes to the end of the circle
  induction turns generalizing start with
  | zero => rfl
  | succ turns ih =>
    rw [scans]
    cases found : scan accepts size start with
    | none =>
      have refused := List.find?_eq_none.mp found
      have empty : (circle size start).filter accepts = [] := List.filter_eq_nil_iff.mpr refused
      rw [empty] at enough
      cases enough
    | some hit =>
      obtain ⟨accepted, front, back, split, skipped⟩ := List.find?_eq_some_iff_append.mp found
      have nothing : front.filter accepts = [] := by
        apply List.filter_eq_nil_iff.mpr
        intro position member
        simpa using skipped position member
      have taken : (circle size start).filter accepts = hit :: back.filter accepts := by
        rw [split, List.filter_append, nothing, List.nil_append, List.filter_cons_of_pos accepted]
      have left : (circle size ((hit + 1) % size)).filter accepts = back.filter accepts ++ [hit] := by
        rw [circle_after split, List.filter_append, List.filter_append, nothing, List.nil_append,
          List.filter_cons_of_pos accepted, List.filter_nil]
      have among : turns ≤ (back.filter accepts).length := by
        rw [taken, List.length_cons] at enough
        omega
      have rest : scans accepts size turns ((hit + 1) % size) =
          ((circle size ((hit + 1) % size)).filter accepts).take turns := by
        apply ih
        rw [left, List.length_append]
        omega
      simp only [rest, left, taken, List.take_succ_cons, List.take_append_of_le_length among]

/-- The circle from `start`: the positions from there on, then those before. -/
theorem circle_eq_append (inside : start < size) : circle size start =
      ((List.range size).filter fun position => start ≤ position) ++
        (List.range size).filter fun position => position < start := by
  obtain ⟨more, rfl⟩ := Nat.exists_eq_add_of_le inside.le
  rw [circle_eq_rotate, List.range_add, List.rotate_eq_drop_append_take (by simp)]
  have before : (List.range start).filter (fun position => start ≤ position) = [] := by simp
  have all : (List.range start).filter (fun position => position < start) = List.range start := by simp
  rw [List.filter_append, List.filter_append, before, all]
  simp [List.filter_map, Function.comp_def]

theorem length_filter_circle (accepts : Nat → Bool) (size start : Nat) :
    ((circle size start).filter accepts).length = ((List.range size).filter accepts).length := by
  rw [circle_eq_rotate]
  exact ((List.rotate_perm _ _).filter _).length_eq

end TokenFactory.Data
