import Mathlib

namespace TokenFactory.Data

/-! The values of a list by rank: how many different values of it are greater. -/

variable {Value : Type u} [LinearOrder Value]

def HasRank (values : List Value) (rank : Nat) (value : Value) : Prop :=
  value ∈ values ∧ (values.toFinset.filter (value < ·)).card = rank

def ranked (values : List Value) : List Value := values.dedup.insertionSort (· ≥ ·)

variable {values : List Value} {value : Value}

@[simp] theorem mem_ranked : value ∈ ranked values ↔ value ∈ values := by
  simp [ranked]

@[simp] theorem length_ranked (values : List Value) : (ranked values).length = values.toFinset.card := by
  simp [ranked, List.card_toFinset]

theorem ranked_decreasing (values : List Value) : (ranked values).Pairwise (· > ·) := by
  have sorted : (ranked values).Pairwise (· ≥ ·) := List.pairwise_insertionSort _ _
  have nodup : (ranked values).Nodup := (List.perm_insertionSort _ _).nodup_iff.mpr (List.nodup_dedup values)
  exact (sorted.and nodup).imp fun pair => lt_of_le_of_ne pair.1 pair.2.symm

/-- In a decreasing list the values before a position are those that are greater. -/
theorem length_filter_greater (decreasing : values.Pairwise (· > ·)) {position : Nat}
    (found : values[position]? = some value) : (values.filter (value < ·)).length = position := by
  induction values generalizing position with
  | nil => simp at found
  | cons first rest ih =>
    obtain ⟨below, later⟩ := List.pairwise_cons.mp decreasing
    cases position with
    | zero =>
      cases found
      have above : rest.filter (value < ·) = [] :=
        List.filter_eq_nil_iff.mpr fun other member => by simpa using (below other member).le
      simp [above]
    | succ position =>
      have member : value ∈ rest := List.mem_of_getElem? found
      have above : value < first := below value member
      simp [above, ih later found]

theorem hasRank_ranked {position : Nat}
    (found : (ranked values)[position]? = some value) : HasRank values position value := by
  have member : value ∈ values := mem_ranked.mp (List.mem_of_getElem? found)
  have decreasing := ranked_decreasing values
  have same : values.toFinset.filter (value < ·) = ((ranked values).filter (value < ·)).toFinset := by
    ext other
    simp
  have nodup : ((ranked values).filter (value < ·)).Nodup := (decreasing.imp ne_of_gt).filter _
  refine ⟨member, ?_⟩
  rw [same, List.toFinset_card_of_nodup nodup]
  exact length_filter_greater decreasing found

theorem HasRank.unique {rank : Nat} {first second : Value}
    (one : HasRank values rank first) (other : HasRank values rank second) : first = second := by
  have strict {low high : Value} (among : high ∈ values) (less : low < high) :
      (values.toFinset.filter (high < ·)).card < (values.toFinset.filter (low < ·)).card := by
    refine Finset.card_lt_card ((Finset.ssubset_iff_of_subset ?_).mpr ⟨high, ?_, ?_⟩)
    · intro greater member
      simp only [Finset.mem_filter] at member ⊢
      exact ⟨member.1, less.trans member.2⟩
    · simp [among, less]
    · simp
  rcases lt_trichotomy first second with less | same | less
  · exact absurd (strict other.1 less) (by rw [one.2, other.2]; exact lt_irrefl _)
  · exact same
  · exact absurd (strict one.1 less) (by rw [one.2, other.2]; exact lt_irrefl _)

end TokenFactory.Data
