import Mathlib

namespace TokenFactory.Data

/-! The items of a list without those whose key was seen before: a loop that
keeps a set of keys and skips an item whose key is in it. -/

universe u v

variable {Item : Type u} {Key : Type v} [DecidableEq Key] (key : Item → Key)

def distinctFrom (seen : List Key) : List Item → List Item
  | [] => []
  | item :: rest =>
    if key item ∈ seen then distinctFrom seen rest else item :: distinctFrom (key item :: seen) rest

def distinctBy (items : List Item) : List Item := distinctFrom key [] items

variable {key} {seen : List Key} {items : List Item} {item : Item}

theorem mem_of_mem_distinctFrom (member : item ∈ distinctFrom key seen items) :
    item ∈ items ∧ key item ∉ seen := by
  induction items generalizing seen with
  | nil => cases member
  | cons first rest ih =>
    rw [distinctFrom] at member
    split at member
    · exact ⟨.tail _ (ih member).1, (ih member).2⟩
    · rename_i fresh
      rcases List.mem_cons.mp member with rfl | later
      · exact ⟨.head _, fresh⟩
      · exact ⟨.tail _ (ih later).1, fun old => (ih later).2 (.tail _ old)⟩

theorem distinctFrom_nodup : ((distinctFrom key seen items).map key).Nodup := by
  induction items generalizing seen with
  | nil => exact List.nodup_nil
  | cons first rest ih =>
    rw [distinctFrom]
    split
    · exact ih
    · refine List.nodup_cons.mpr ⟨fun repeated => ?_, ih⟩
      obtain ⟨other, member, same⟩ := List.mem_map.mp repeated
      exact (mem_of_mem_distinctFrom member).2 (same ▸ .head _)

theorem exists_mem_distinctFrom (member : item ∈ items) (fresh : key item ∉ seen) :
    ∃ kept ∈ distinctFrom key seen items, key kept = key item := by
  induction items generalizing seen with
  | nil => cases member
  | cons first rest ih =>
    rw [distinctFrom]
    split
    · rename_i old
      rcases List.mem_cons.mp member with rfl | later
      · exact absurd old fresh
      · exact ih later fresh
    · by_cases same : key item = key first
      · exact ⟨first, .head _, same.symm⟩
      · have later := List.mem_of_ne_of_mem (fun own => same (congrArg key own)) member
        obtain ⟨kept, among, named⟩ := ih later (List.not_mem_cons_of_ne_of_not_mem same fresh)
        exact ⟨kept, .tail _ among, named⟩

theorem mem_of_mem_distinctBy (member : item ∈ distinctBy key items) : item ∈ items :=
  (mem_of_mem_distinctFrom member).1

theorem distinctBy_nodup : ((distinctBy key items).map key).Nodup := distinctFrom_nodup

theorem mem_distinctBy (separate : ∀ first ∈ items, ∀ second ∈ items, key first = key second → first = second) :
    item ∈ distinctBy key items ↔ item ∈ items := by
  refine ⟨mem_of_mem_distinctBy, fun member => ?_⟩
  obtain ⟨kept, among, same⟩ := exists_mem_distinctFrom member (List.not_mem_nil (a := key item))
  exact separate kept (mem_of_mem_distinctBy among) item member same ▸ among

end TokenFactory.Data
