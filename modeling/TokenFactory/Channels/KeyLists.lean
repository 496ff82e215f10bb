import TokenFactory.Channels.Keys

namespace TokenFactory.Channels

open Data Go Supplier
open Distributor (ChannelStatus ChannelInfo)
open Distributor.ChannelRow (trimNewlines)
open Supplier.Channel (countedKeys)

/-! The lists that the columns stand for: the keys that are read from the text, and what
an update and a deletion make of the keys and of their states. -/

/-- A key that is found again when the keys are joined by line ends. -/
def SingleLine (key : String) : Prop :=
  key ≠ "" ∧ '\n' ∉ key.toList ∧ ¬ hasPrefix (trimSpace key) "["

section Lines

variable {services : Services} {keys : List String} {key text : String}

theorem hasPrefix_bracket : hasPrefix (trimSpace text) "[" = true ↔
    text.toList.find? (fun char => !isSpace char) = some '[' := by
  have bracket : "[".toList = ['['] := rfl
  rw [← head?_trimChars, hasPrefix, trimSpace, bracket, String.toList_ofList]
  cases trimChars text.toList with
  | nil => simp
  | cons first rest =>
    simp only [List.isPrefixOf, Bool.and_true, beq_iff_eq, List.head?_cons, Option.some.injEq]
    exact eq_comm

theorem join_bracket (lines : ∀ key ∈ keys, SingleLine key) : ¬ hasPrefix (trimSpace (join '\n' keys)) "[" := by
  intro bracket
  obtain ⟨key, member, found⟩ := find?_join (by decide) (hasPrefix_bracket.mp bracket)
  exact (lines key member).2.2 (hasPrefix_bracket.mpr found)

theorem trimNewlines_eq (starts : ∀ char ∈ text.toList.head?, char ≠ '\n')
    (ends : ∀ char ∈ text.toList.getLast?, char ≠ '\n') : trimNewlines text = text.toList := by
  have front : ∀ {chars : List Char}, (∀ char ∈ chars.head?, char ≠ '\n') →
      chars.dropWhile (· = '\n') = chars := by
    intro chars first
    cases chars with
    | nil => rfl
    | cons char rest => exact List.dropWhile_cons_of_neg (by simpa using first char rfl)
  unfold trimNewlines
  rw [front starts, front (by rwa [List.head?_reverse]), List.reverse_reverse]

theorem parseKeys_lines (full : text ≠ "") (bracket : ¬ hasPrefix (trimSpace text) "[") :
    parseKeys services text = split '\n' (String.ofList (trimNewlines text)) := by
  unfold parseKeys
  rw [if_neg full, if_neg bracket]
  exact Option.getD_none

theorem parseKeys_array {array : List String} (full : text ≠ "") (bracket : hasPrefix (trimSpace text) "[")
    (decoded : services.decodeArray (trimSpace text) = some array) : parseKeys services text = array := by
  unfold parseKeys
  rw [if_neg full, if_pos bracket, decoded]
  rfl

theorem parseKeys_undecoded (full : text ≠ "") (decoded : services.decodeArray (trimSpace text) = none) :
    parseKeys services text = split '\n' (String.ofList (trimNewlines text)) := by
  unfold parseKeys
  rw [if_neg full, decoded, ite_self]
  exact Option.getD_none

theorem parseKeys_join (nonempty : keys ≠ []) (lines : ∀ key ∈ keys, SingleLine key) :
    parseKeys services (join '\n' keys) = keys := by
  obtain ⟨⟨first, starts, own, among, inside⟩, last, ends, other, member, within⟩ :=
    @join_ends keys '\n' nonempty fun key member => (lines key member).1
  have full : join '\n' keys ≠ "" := by
    intro empty
    rw [empty] at starts
    cases starts
  have front : ∀ char ∈ (join '\n' keys).toList.head?, char ≠ '\n' := by
    rintro char found rfl
    obtain rfl := Option.some.inj (starts.symm.trans found)
    exact (lines own among).2.1 inside
  have back : ∀ char ∈ (join '\n' keys).toList.getLast?, char ≠ '\n' := by
    rintro char found rfl
    obtain rfl := Option.some.inj (ends.symm.trans found)
    exact (lines other member).2.1 within
  rw [parseKeys_lines full (join_bracket lines), trimNewlines_eq front back, String.ofList_toList]
  exact split_join nonempty fun key member => (lines key member).2.1

theorem countedKeys_eq (nonempty : parseKeys services text ≠ []) :
    countedKeys services text = parseKeys services text := by
  by_cases full : text = ""
  · exact absurd (if_pos full) nonempty
  · unfold countedKeys
    rw [if_neg full]
    by_cases bracket : hasPrefix (trimSpace text) "[" = true
    · rw [if_pos bracket]
      cases decoded : services.decodeArray (trimSpace text) with
      | none => exact (parseKeys_undecoded full decoded).symm
      | some array =>
        rw [parseKeys_array full bracket decoded] at nonempty ⊢
        exact if_neg nonempty
    · rw [if_neg bracket]
      exact (parseKeys_lines full bracket).symm

theorem find?_trimNewlines {holds : Char → Bool} (skipped : holds '\n' = false) (text : String) :
    (trimNewlines text).find? holds = text.toList.find? holds := by
  have front : ∀ chars : List Char, (chars.dropWhile (· = '\n')).find? holds = chars.find? holds := by
    intro chars
    induction chars with
    | nil => rfl
    | cons char rest ih =>
      by_cases newline : char = '\n'
      · subst newline
        rw [List.dropWhile_cons_of_pos (by simp), ih, List.find?_cons_of_neg (by simp [skipped])]
      · rw [List.dropWhile_cons_of_neg (by simpa using newline)]
  have back : ∀ chars : List Char, (chars.reverse.dropWhile (· = '\n')).reverse.find? holds = chars.find? holds := by
    intro chars
    have whole := List.takeWhile_append_dropWhile (p := fun char => decide (char = '\n')) (l := chars.reverse)
    have cut : (chars.reverse.takeWhile (· = '\n')).reverse.find? holds = none := by
      rw [List.find?_eq_none]
      intro char member
      have newline := List.mem_takeWhile_imp (List.mem_reverse.mp member)
      rw [of_decide_eq_true newline, skipped]
      decide
    have chars_eq : chars = (chars.reverse.dropWhile (· = '\n')).reverse ++
        (chars.reverse.takeWhile (· = '\n')).reverse := by
      rw [← List.reverse_append, whole, List.reverse_reverse]
    conv_rhs => rw [chars_eq]
    rw [List.find?_append, cut, Option.or_none]
  unfold trimNewlines
  rw [back, front]

theorem existingKeys_eq (full : text ≠ "") (lines : ∀ key ∈ parseKeys services text, SingleLine key) :
    PatchChannel.existingKeys services text = parseKeys services text := by
  unfold PatchChannel.existingKeys
  by_cases bracket : hasPrefix (trimSpace text) "[" = true
  · rw [if_pos bracket]
    cases decoded : services.decodeArray (trimSpace text) with
    | some array => exact (parseKeys_array full bracket decoded).symm
    | none =>
      -- the bracket would be at the start of a line
      rw [parseKeys_undecoded full decoded] at lines
      have found := hasPrefix_bracket.mp bracket
      rw [← find?_trimNewlines (by decide), ← String.toList_ofList (l := trimNewlines text),
        ← join_split '\n' (String.ofList (trimNewlines text))] at found
      obtain ⟨line, member, first⟩ := find?_join (by decide) found
      exact absurd (hasPrefix_bracket.mpr first) (lines line member).2.2
  · rw [if_neg bracket]
    exact (parseKeys_lines full bracket).symm

end Lines

namespace KeyColumns

variable {services : Services} {stored sent columns : KeyColumns}

/-- The channel has several keys, all different, and one state at most for each of them. -/
structure Consistent (services : Services) (columns : KeyColumns) : Prop where
  multi : columns.info.isMultiKey = true
  distinct : (columns.keys services).Nodup
  size : columns.info.multiKeySize = (columns.keys services).length
  bounded : ∀ index, (columns.keys services).length ≤ index → columns.status index = .enabled

theorem lookup_foldl_erase {Value : Type} (indexes : List Nat) (states : AList fun _ : Nat => Value) (index : Nat) :
    (indexes.foldl (fun states index => states.erase index) states).lookup index =
      if index ∈ indexes then none else states.lookup index := by
  induction indexes generalizing states with
  | nil => simp
  | cons first rest ih =>
    rw [List.foldl_cons, ih]
    by_cases same : index = first
    · subst same
      simp
    · simp [same, AList.lookup_erase_ne same]

theorem update_spec {keys : List String} (multi : sent.info.isMultiKey = true)
    (read : parseKeys services (if sent.key ≠ "" then sent.key else stored.key) = keys) (nonempty : keys ≠ []) :
    (stored.update services sent).keys services = keys ∧
      (stored.update services sent).info.isMultiKey = true ∧
      (stored.update services sent).info.multiKeySize = keys.length ∧
      ∀ index, (stored.update services sent).status index =
        if index < keys.length then sent.status index else .enabled := by
  have counted : countedKeys services (if sent.key ≠ "" then sent.key else stored.key) = keys := by
    rw [countedKeys_eq (by rwa [read]), read]
  have column : (stored.update services sent).key = if sent.key ≠ "" then sent.key else stored.key := by
    change Supplier.Channel.nonZero "" sent.key stored.key = _
    unfold Supplier.Channel.nonZero
    by_cases empty : sent.key = "" <;> simp [empty]
  have info : (stored.update services sent).info = { sent.info with
      multiKeySize := keys.length
      multiKeyStatusList := (sent.info.multiKeyStatusList.keys.filter (keys.length ≤ ·)).foldl
        (fun states index => states.erase index) sent.info.multiKeyStatusList } := by
    unfold update
    rw [if_pos multi, counted]
  refine ⟨?_, by rw [info]; exact multi, by rw [info], fun index => ?_⟩
  · unfold KeyColumns.keys
    rw [column, read]
  · unfold status ChannelInfo.getStatus
    rw [info, lookup_foldl_erase]
    by_cases below : index < keys.length
    · rw [if_pos below, if_neg (by simp [below])]
    · split
      · rfl
      · rename_i absent
        have unmarked : index ∉ sent.info.multiKeyStatusList := by
          intro member
          exact absent (List.mem_filter.mpr ⟨AList.mem_keys.mp member, by simpa using below⟩)
        rw [AList.lookup_eq_none.mpr unmarked]
        rfl

theorem update_consistent {keys : List String} (multi : sent.info.isMultiKey = true)
    (read : parseKeys services (if sent.key ≠ "" then sent.key else stored.key) = keys) (nonempty : keys ≠ [])
    (distinct : keys.Nodup) : (stored.update services sent).Consistent services := by
  obtain ⟨after, still, size, status⟩ := update_spec multi read nonempty
  refine ⟨still, after ▸ distinct, by rw [after, size], fun index above => ?_⟩
  rw [after] at above
  rw [status, if_neg (by omega)]

end KeyColumns

theorem lookup_copyEntry_ne {Value : Type} (found : Option Value) (entries : AList fun _ : Nat => Value)
    {newIndex index : Nat} (other : index ≠ newIndex) :
    (copyEntry found newIndex entries).lookup index = entries.lookup index := by
  cases found with
  | none => rfl
  | some value => exact AList.lookup_insert_ne other

section Reindex

variable (info : ChannelInfo) (keeps noted : Nat → Bool)

theorem foldl_reindexKey (entries : List (String × Nat)) :
    (entries.foldl (reindexKey info keeps noted) {}).remainingKeys =
        (entries.filter fun entry => keeps entry.2).map Prod.fst ∧
      ∀ index, ((entries.foldl (reindexKey info keeps noted) {}).newStatusList.lookup index).getD .enabled =
        (((entries.filter fun entry => keeps entry.2)[index]?).map fun entry => info.getStatus entry.2).getD
          .enabled := by
  -- the loop appends, so the induction takes the last entry off
  induction entries using List.reverseRecOn with
  | nil => exact ⟨rfl, fun index => rfl⟩
  | append_singleton entries entry ih =>
    obtain ⟨keys, states⟩ := ih
    rw [List.foldl_append, List.foldl_cons, List.foldl_nil, List.filter_append]
    generalize entries.foldl (reindexKey info keeps noted) {} = built at keys states
    generalize entries.filter (fun entry => keeps entry.2) = kept at keys states
    have count : built.remainingKeys.length = kept.length := by rw [keys, List.length_map]
    unfold reindexKey
    split
    · rename_i keep
      have last : [entry].filter (fun entry => keeps entry.2) = [entry] := by simp [keep]
      rw [last]
      refine ⟨by rw [keys, List.map_append]; rfl, fun index => ?_⟩
      rw [count]
      rcases Nat.lt_trichotomy index kept.length with below | rfl | above
      · rw [List.getElem?_append_left below, ← states index, lookup_copyEntry_ne _ _ (by omega)]
      · rw [List.getElem?_append_right le_rfl, Nat.sub_self]
        have fresh := states kept.length
        rw [List.getElem?_eq_none le_rfl] at fresh
        change _ = (info.multiKeyStatusList.lookup entry.2).getD .enabled
        cases found : info.multiKeyStatusList.lookup entry.2 with
        | none => exact fresh
        | some status =>
          by_cases enabled : status = .enabled
          · subst enabled
            exact fresh
          · rw [Option.filter_some_pos (by simpa using enabled)]
            change ((built.newStatusList.insert kept.length status).lookup kept.length).getD .enabled = status
            rw [AList.lookup_insert]
            rfl
      · rw [List.getElem?_append_right (by omega), List.getElem?_eq_none (by simp; omega)]
        have fresh := states index
        rw [List.getElem?_eq_none (by omega)] at fresh
        rw [lookup_copyEntry_ne _ _ (by omega), fresh]
    · rename_i drop
      have dropped : [entry].filter (fun entry => keeps entry.2) = [] := by simp [drop]
      rw [dropped, List.append_nil]
      exact ⟨keys, states⟩

variable {info keeps noted} {keys : List String}

theorem mem_remainingKeys {key : String} : key ∈ (reindex info keeps noted keys).remainingKeys ↔
    ∃ index, keys[index]? = some key ∧ keeps index = true := by
  unfold reindex
  rw [(foldl_reindexKey info keeps noted keys.zipIdx).1]
  constructor
  · intro member
    obtain ⟨⟨text, index⟩, among, rfl⟩ := List.mem_map.mp member
    obtain ⟨placed, keep⟩ := List.mem_filter.mp among
    exact ⟨index, List.mem_zipIdx_iff_getElem?.mp placed, keep⟩
  · rintro ⟨index, found, keep⟩
    exact List.mem_map.mpr ⟨(key, index),
      List.mem_filter.mpr ⟨List.mem_zipIdx_iff_getElem?.mpr found, keep⟩, rfl⟩

theorem remainingKeys_nodup (distinct : keys.Nodup) : (reindex info keeps noted keys).remainingKeys.Nodup := by
  unfold reindex
  rw [(foldl_reindexKey info keeps noted keys.zipIdx).1]
  have whole : (keys.zipIdx.map Prod.fst).Nodup := by rwa [List.zipIdx_map_fst]
  exact (List.filter_sublist.map Prod.fst).nodup whole

theorem reindex_status {key : String} {old new : Nat} (distinct : keys.Nodup) (before : keys[old]? = some key)
    (after : (reindex info keeps noted keys).remainingKeys[new]? = some key) :
    ((reindex info keeps noted keys).newStatusList.lookup new).getD .enabled = info.getStatus old := by
  obtain ⟨remaining, states⟩ := foldl_reindexKey info keeps noted keys.zipIdx
  unfold reindex at after ⊢
  rw [remaining, List.getElem?_map] at after
  obtain ⟨⟨text, index⟩, placed, rfl⟩ := Option.map_eq_some_iff.mp after
  have among := (List.mem_filter.mp (List.mem_of_getElem? placed)).1
  have found := List.mem_zipIdx_iff_getElem?.mp among
  have same : index = old :=
    (List.getElem?_inj (List.getElem?_eq_some_iff.mp found).1 distinct).mp (found.trans before.symm)
  rw [states, placed, ← same]
  rfl

end Reindex

end TokenFactory.Channels
