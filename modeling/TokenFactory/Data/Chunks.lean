import Mathlib

namespace TokenFactory.Data

/-! The items of a list in chunks of a size. -/

variable {Item : Type u} {items : List Item} {item : Item}

theorem mem_of_mem_toChunks_go {size : Nat} {rest : List Item} {current : Array Item} {done : Array (List Item)}
    {chunk : List Item} (chunked : chunk ∈ List.toChunks.go size rest current done)
    (member : item ∈ chunk) : item ∈ rest ∨ item ∈ current ∨ ∃ earlier ∈ done, item ∈ earlier := by
  induction rest generalizing current done with
  | nil =>
    simp only [List.toChunks.go, Array.toList_push, List.mem_append, List.mem_singleton,
      Array.mem_toList_iff] at chunked
    rcases chunked with earlier | rfl
    · exact .inr (.inr ⟨chunk, earlier, member⟩)
    · exact .inr (.inl (Array.mem_toList_iff.mp member))
  | cons first rest ih =>
    rw [List.toChunks.go] at chunked
    split at chunked
    · rcases ih chunked with later | new | ⟨earlier, among, inside⟩
      · exact .inl (.tail _ later)
      · have : item = first := by simpa using new
        exact .inl (this ▸ .head _)
      · rcases Array.mem_push.mp among with old | rfl
        · exact .inr (.inr ⟨earlier, old, inside⟩)
        · exact .inr (.inl (Array.mem_toList_iff.mp inside))
    · rcases ih chunked with later | new | earlier
      · exact .inl (.tail _ later)
      · rcases Array.mem_push.mp new with old | rfl
        · exact .inr (.inl old)
        · exact .inl (.head _)
      · exact .inr (.inr earlier)

theorem mem_of_mem_toChunks {size : Nat} {chunk : List Item} (chunked : chunk ∈ items.toChunks size)
    (member : item ∈ chunk) : item ∈ items := by
  unfold List.toChunks at chunked
  split at chunked
  · cases chunked
  · rwa [List.mem_singleton.mp chunked] at member
  · rcases mem_of_mem_toChunks_go chunked member with later | first | ⟨_, nowhere, _⟩
    · exact .tail _ later
    · rw [Array.mem_singleton.mp first]
      exact .head _
    · simp at nowhere

end TokenFactory.Data
