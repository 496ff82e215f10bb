import Mathlib

namespace TokenFactory.Data

/-! Database tables: lists of rows with a unique key.

`save` writes a whole row back under its own key, `insert` refuses a row whose
key is taken, as a unique index does, `update` is a bulk `UPDATE` that leaves
the key column alone. Rows keep their place in the list.
-/

variable {Row : Type u} {Key : Type v} {key : Row → Key}

structure Table (key : Row → Key) where
  rows : List Row
  unique : (rows.map key).Nodup

namespace Table

instance : Membership Row (Table key) := ⟨fun table row => row ∈ table.rows⟩

instance (table : Table key) (row : Row) [DecidableEq Row] : Decidable (row ∈ table) :=
  inferInstanceAs (Decidable (row ∈ table.rows))

instance (table : Table key) (Holds : Row → Prop) [DecidablePred Holds] :
    Decidable (∀ row ∈ table, Holds row) :=
  inferInstanceAs (Decidable (∀ row ∈ table.rows, Holds row))

variable {table : Table key} {row other saved old : Row} {wanted : Key} {change : Row → Row}

theorem mem_rows : row ∈ table.rows ↔ row ∈ table := Iff.rfl

def empty : Table key := ⟨[], List.nodup_nil⟩

@[simp] theorem not_mem_empty : ¬ row ∈ (empty : Table key) := by
  simp [← mem_rows, empty]

theorem eq_of_key (left : row ∈ table) (right : other ∈ table)
    (same : key row = key other) : row = other :=
  List.inj_on_of_nodup_map table.unique left right same

def project {Other : Type w} {otherKey : Other → Key} (table : Table key) (view : Row → Other)
    (keeps : ∀ row, otherKey (view row) = key row) : Table otherKey where
  rows := table.rows.map view
  unique := by
    have keys : (table.rows.map view).map otherKey = table.rows.map key := by
      simp [List.map_map, Function.comp_def, keeps]
    rw [keys]
    exact table.unique

theorem mem_project {Other : Type w} {otherKey : Other → Key} {view : Row → Other}
    {keeps : ∀ row, otherKey (view row) = key row} {seen : Other} :
    seen ∈ table.project view keeps ↔ ∃ row ∈ table, view row = seen := by
  exact List.mem_map

/-- A bulk `UPDATE` that keeps every key. -/
def update (table : Table key) (change : Row → Row) (keeps : ∀ row, key (change row) = key row) : Table key :=
  table.project change keeps

theorem mem_update {keeps : ∀ row, key (change row) = key row} :
    row ∈ table.update change keeps ↔ ∃ old ∈ table, change old = row := mem_project

theorem exists_key_update {keeps : ∀ row, key (change row) = key row} :
    (∃ old ∈ table.update change keeps, key old = wanted) ↔ ∃ old ∈ table, key old = wanted := by
  simp [mem_update, keeps]

def restrict (table : Table key) (kept : Row → Bool) : Table key where
  rows := table.rows.filter kept
  unique := (List.filter_sublist.map key).nodup table.unique

theorem mem_restrict {kept : Row → Bool} :
    row ∈ table.restrict kept ↔ row ∈ table ∧ kept row = true := by
  exact List.mem_filter

variable [DecidableEq Key]

def lookup (table : Table key) (wanted : Key) : Option Row :=
  table.rows.find? fun row => key row = wanted

theorem mem_of_lookup (found : table.lookup wanted = some row) : row ∈ table :=
  List.mem_of_find?_eq_some found

theorem key_of_lookup (found : table.lookup wanted = some row) : key row = wanted := by
  simpa using List.find?_some found

theorem lookup_eq_some : table.lookup wanted = some row ↔ row ∈ table ∧ key row = wanted := by
  refine ⟨fun found => ⟨mem_of_lookup found, key_of_lookup found⟩, ?_⟩
  rintro ⟨member, rfl⟩
  cases found : table.lookup (key row) with
  | none =>
    have absent := List.find?_eq_none.mp found row member
    simp at absent
  | some other => rw [eq_of_key (mem_of_lookup found) member (key_of_lookup found)]

theorem lookup_eq_none : table.lookup wanted = none ↔ ∀ row ∈ table, key row ≠ wanted := by
  constructor
  · intro missing row member same
    rw [lookup_eq_some.mpr ⟨member, same⟩] at missing
    contradiction
  · intro absent
    cases found : table.lookup wanted with
    | none => rfl
    | some row =>
      obtain ⟨member, same⟩ := lookup_eq_some.mp found
      exact absurd same (absent row member)

theorem lookup_project {Other : Type w} {otherKey : Other → Key} {view : Row → Other}
    {keeps : ∀ row, otherKey (view row) = key row} :
    (table.project view keeps).lookup wanted = (table.lookup wanted).map view := by
  cases found : table.lookup wanted with
  | none =>
    refine lookup_eq_none.mpr fun seen member => ?_
    obtain ⟨row, present, rfl⟩ := mem_project.mp member
    rw [keeps]
    exact lookup_eq_none.mp found row present
  | some row =>
    obtain ⟨member, same⟩ := lookup_eq_some.mp found
    exact lookup_eq_some.mpr ⟨mem_project.mpr ⟨row, member, rfl⟩, (keeps row).trans same⟩

theorem lookup_update {keeps : ∀ row, key (change row) = key row} :
    (table.update change keeps).lookup wanted = (table.lookup wanted).map change :=
  @lookup_project _ _ _ table wanted _ _ _ _ keeps

theorem lookup_restrict {kept : Row → Bool} :
    (table.restrict kept).lookup wanted = (table.lookup wanted).filter kept := by
  ext row
  simp only [lookup_eq_some, mem_restrict, Option.filter_eq_some_iff]
  exact and_right_comm

/-- A `DELETE` by the key. -/
theorem lookup_restrict_other {wanted other : Key} (apart : other ≠ wanted) :
    (table.restrict fun row => key row ≠ wanted).lookup other = table.lookup other := by
  rw [lookup_restrict]
  cases found : table.lookup other with
  | none => rfl
  | some row =>
    have named : key row ≠ wanted := fun same => apart ((key_of_lookup found).symm.trans same)
    simp [Option.filter, named]

def modify (table : Table key) (wanted : Key) (change : Row → Row) (keeps : ∀ row, key (change row) = key row) :
    Table key :=
  table.update (fun row => if key row = wanted then change row else row) fun row => by
    split
    · exact keeps row
    · rfl

theorem mem_modify {keeps : ∀ row, key (change row) = key row} :
    row ∈ table.modify wanted change keeps ↔
      ∃ old ∈ table, (if key old = wanted then change old else old) = row := by
  rw [modify, mem_update]

theorem lookup_modify {wanted other : Key} {keeps : ∀ row, key (change row) = key row} :
    (table.modify wanted change keeps).lookup other =
      if other = wanted then (table.lookup other).map change else table.lookup other := by
  rw [modify, lookup_update]
  cases found : table.lookup other with
  | none => simp
  | some row =>
    rw [Option.map_some, key_of_lookup found, Option.map_some]
    split <;> rfl

def save (table : Table key) (saved : Row) : Table key :=
  table.update (fun row => if key row = key saved then saved else row) fun row => by
    split
    · rename_i same
      exact same.symm
    · rfl

theorem mem_save :
    row ∈ table.save saved ↔ (row = saved ∧ ∃ old ∈ table, key old = key saved) ∨
        (row ∈ table ∧ key row ≠ key saved) := by
  rw [save, mem_update]
  constructor
  · rintro ⟨old, member, changed⟩
    by_cases hit : key old = key saved
    · rw [if_pos hit] at changed
      exact .inl ⟨changed.symm, old, member, hit⟩
    · rw [if_neg hit] at changed
      exact .inr (changed ▸ ⟨member, hit⟩)
  · rintro (⟨rfl, old, member, hit⟩ | ⟨member, missed⟩)
    · exact ⟨old, member, if_pos hit⟩
    · exact ⟨row, member, if_neg missed⟩

theorem lookup_save_self (found : table.lookup wanted = some old) (same : key saved = wanted) :
    (table.save saved).lookup wanted = some saved := by
  rw [save, lookup_update, found, Option.map_some, if_pos ((key_of_lookup found).trans same.symm)]

theorem lookup_save_other (other : wanted ≠ key saved) :
    (table.save saved).lookup wanted = table.lookup wanted := by
  rw [save, lookup_update]
  cases found : table.lookup wanted with
  | none => rfl
  | some row => rw [Option.map_some, if_neg (key_of_lookup found ▸ other)]

theorem save_of_mem (member : row ∈ table) : table.save row = table := by
  have same : ∀ old ∈ table.rows, (if key old = key row then row else old) = old := by
    intro old present
    split
    · rename_i hit
      exact eq_of_key member present hit.symm
    · rfl
  obtain ⟨rows, unique⟩ := table
  simp only [save, update, project, mk.injEq]
  exact (List.map_congr_left same).trans (List.map_id rows)

theorem save_save {first second : Row} (same : key first = key second) :
    (table.save first).save second = table.save second := by
  simp only [save, update, project, List.map_map, mk.injEq]
  refine List.map_congr_left fun row _ => ?_
  simp only [Function.comp_apply]
  by_cases hit : key row = key first
  · rw [if_pos hit, if_pos same, if_pos (hit.trans same)]
  · rw [if_neg hit]

theorem project_save {Other : Type w} {otherKey : Other → Key} {view : Row → Other}
    {keeps : ∀ row, otherKey (view row) = key row} :
    (table.save saved).project view keeps = (table.project view keeps).save (view saved) := by
  simp only [save, update, project, List.map_map, mk.injEq]
  refine List.map_congr_left fun row _ => ?_
  simp only [Function.comp_apply, keeps]
  split <;> rfl

def saveAll (table : Table key) (saved : List Row) : Table key :=
  saved.foldl save table

theorem saveAll_append (table : Table key) (first second : List Row) :
    table.saveAll (first ++ second) = (table.saveAll first).saveAll second :=
  List.foldl_append

/-- Rows saved under different keys do not overwrite each other. -/
theorem mem_saveAll {saved : List Row} (distinct : (saved.map key).Nodup) :
    row ∈ table.saveAll saved ↔ (row ∈ saved ∧ ∃ old ∈ table, key old = key row) ∨
        (row ∈ table ∧ ∀ other ∈ saved, key row ≠ key other) := by
  induction saved generalizing table with
  | nil => simp [saveAll]
  | cons first rest ih =>
    rw [List.map_cons, List.nodup_cons] at distinct
    have apart : ∀ other ∈ rest, key other ≠ key first := fun other member same =>
      distinct.1 (List.mem_map.mpr ⟨other, member, same⟩)
    have later : (∃ old ∈ table.save first, key old = key row) ↔ ∃ old ∈ table, key old = key row := exists_key_update
    rw [show table.saveAll (first :: rest) = (table.save first).saveAll rest from rfl, ih distinct.2,
      later, mem_save]
    constructor
    · rintro (⟨member, present⟩ | ⟨⟨rfl, present⟩ | ⟨member, missed⟩, others⟩)
      · exact .inl ⟨.tail _ member, present⟩
      · exact .inl ⟨.head _, present⟩
      · exact .inr ⟨member, List.forall_mem_cons.mpr ⟨missed, others⟩⟩
    · rintro (⟨member, present⟩ | ⟨member, missed⟩)
      · rcases List.mem_cons.mp member with rfl | member
        · exact .inr ⟨.inl ⟨rfl, present⟩, fun other among same => apart other among same.symm⟩
        · exact .inl ⟨member, present⟩
      · obtain ⟨missedFirst, missedRest⟩ := List.forall_mem_cons.mp missed
        exact .inr ⟨.inr ⟨member, missedFirst⟩, missedRest⟩

/-- An `INSERT`; the unique index refuses a key that is taken. -/
def insert (table : Table key) (row : Row) : Table key :=
  if taken : table.lookup (key row) = none then {
    rows := table.rows ++ [row]
    unique := by
      rw [List.map_append, List.nodup_append]
      refine ⟨table.unique, by simp, ?_⟩
      intro left member right single
      obtain ⟨old, present, rfl⟩ := List.mem_map.mp member
      rw [List.map_singleton, List.mem_singleton] at single
      exact single ▸ lookup_eq_none.mp taken old present }
  else table

theorem mem_insert {inserted row : Row} (free : table.lookup (key inserted) = none) :
    row ∈ table.insert inserted ↔ row ∈ table ∨ row = inserted := by
  rw [insert, dif_pos free, ← mem_rows]
  simp [mem_rows]

theorem mem_of_mem_insert {inserted row : Row}
    (member : row ∈ table.insert inserted) : row ∈ table ∨ row = inserted := by
  by_cases free : table.lookup (key inserted) = none
  · exact (mem_insert free).mp member
  · rw [insert, dif_neg free] at member
    exact .inl member

theorem lookup_insert_self (free : table.lookup (key row) = none) :
    (table.insert row).lookup (key row) = some row :=
  lookup_eq_some.mpr ⟨(mem_insert free).mpr (.inr rfl), rfl⟩

theorem lookup_insert_other (other : wanted ≠ key row) :
    (table.insert row).lookup wanted = table.lookup wanted := by
  by_cases free : table.lookup (key row) = none
  · ext found
    simp only [lookup_eq_some, mem_insert free, or_and_right]
    exact or_iff_left fun ⟨same, named⟩ => other (same ▸ named.symm)
  · rw [insert, dif_neg free]

/-- An `INSERT` of several rows under different keys that are free. -/
theorem mem_foldl_insert {inserted : List Row}
    (distinct : (inserted.map key).Nodup) (free : ∀ new ∈ inserted, table.lookup (key new) = none) :
    row ∈ inserted.foldl insert table ↔ row ∈ table ∨ row ∈ inserted := by
  induction inserted generalizing table with
  | nil => simp
  | cons first rest ih =>
    obtain ⟨apart, later⟩ := List.nodup_cons.mp distinct
    have stillFree : ∀ new ∈ rest, (table.insert first).lookup (key new) = none := by
      intro new member
      rw [lookup_insert_other fun same => apart (List.mem_map.mpr ⟨new, member, same⟩)]
      exact free new (.tail _ member)
    rw [List.foldl_cons, ih later stillFree, mem_insert (free first (.head _)), List.mem_cons, or_assoc]

omit [DecidableEq Key] in
private theorem sum_map_replace {rows : List Row} (distinct : (rows.map key).Nodup) {old : Row}
    (member : old ∈ rows) (weight changed : Row → Int)
    (others : ∀ row ∈ rows, key row ≠ key old → changed row = weight row) :
    (rows.map changed).sum = (rows.map weight).sum - weight old + changed old := by
  induction rows with
  | nil => cases member
  | cons first rest ih =>
    rw [List.map_cons, List.nodup_cons] at distinct
    rcases List.mem_cons.mp member with rfl | later
    · have same : rest.map changed = rest.map weight := by
        refine List.map_congr_left fun row among => others row (.tail _ among) ?_
        exact fun clash => distinct.1 (List.mem_map.mpr ⟨row, among, clash⟩)
      simp only [List.map_cons, List.sum_cons, same]
      omega
    · have apart : key first ≠ key old := fun clash =>
        distinct.1 (List.mem_map.mpr ⟨old, later, clash.symm⟩)
      have tail := ih distinct.2 later fun row among => others row (.tail _ among)
      simp only [List.map_cons, List.sum_cons, tail, others first (.head _) apart]
      omega

def sum (table : Table key) (weight : Row → Int) : Int := (table.rows.map weight).sum

omit [DecidableEq Key] in
theorem sum_update (table : Table key) (change : Row → Row) (keeps : ∀ row, key (change row) = key row)
    (weight : Row → Int) : (table.update change keeps).sum weight = table.sum (weight ∘ change) := by
  simp only [sum, update, project, List.map_map]

omit [DecidableEq Key] in
theorem sum_congr {weight other : Row → Int}
    (same : ∀ row ∈ table, weight row = other row) : table.sum weight = table.sum other := by
  unfold sum
  rw [List.map_congr_left same]

omit [DecidableEq Key] in
theorem sum_eq_zero {weight : Row → Int}
    (vanishes : ∀ row ∈ table, weight row = 0) : table.sum weight = 0 := by
  rw [sum_congr vanishes]
  simp [sum]

theorem sum_save (found : table.lookup (key saved) = some old) (weight : Row → Int) :
    (table.save saved).sum weight = table.sum weight - weight old + weight saved := by
  obtain ⟨member, same⟩ := lookup_eq_some.mp found
  rw [save, sum_update]
  have replaced := sum_map_replace table.unique member weight
    (weight ∘ fun row => if key row = key saved then saved else row) (by
      intro row _ other
      rw [same] at other
      simp only [Function.comp_apply, if_neg other])
  simp only [Function.comp_apply, same, ↓reduceIte] at replaced
  exact replaced

theorem sum_insert (free : table.lookup (key row) = none)
    (weight : Row → Int) : (table.insert row).sum weight = table.sum weight + weight row := by
  rw [insert, dif_pos free]
  simp [sum]

end Table

end TokenFactory.Data
