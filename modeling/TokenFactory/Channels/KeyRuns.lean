import TokenFactory.Channels.KeyLists
import TokenFactory.Supplier.Isolation

namespace TokenFactory.Channels

open Data Go Supplier
open Distributor (ChannelStatus ChannelInfo)
open Supplier.Catalogue (plainServices)

/-! The states of the keys follow their keys, as long as every key is a line of its own. -/

def KeyRequest.sets (columns : KeyColumns) (index : Nat) : KeyRequest → Option ChannelStatus
  | .manage (.disableKey keyIndex) => if keyIndex = some (index : Int) then some .manuallyDisabled else none
  | .manage (.enableKey keyIndex) => if keyIndex = some (index : Int) then some .enabled else none
  | .manage .enableAllKeys => some .enabled
  | .manage .disableAllKeys => if columns.status index = .enabled then some .manuallyDisabled else none
  | _ => none

namespace KeyColumns

/-- What a request that has succeeded leaves: every key that stays has the state it had, at
whatever place it is now, unless the request is about it; a new key is enabled. -/
structure Follows (services : Services) (before : KeyColumns) (request : KeyRequest) (after : KeyColumns) : Prop where
  size : after.info.multiKeySize = (after.keys services).length
  kept : ∀ key old new, (before.keys services)[old]? = some key → (after.keys services)[new]? = some key →
    after.status new = (request.sets before old).getD (before.status old)
  added : ∀ key new, (after.keys services)[new]? = some key → key ∉ before.keys services →
    after.status new = .enabled
  deleted : request = .manage .deleteDisabledKeys → ∀ key, key ∈ after.keys services ↔
    ∃ old, (before.keys services)[old]? = some key ∧ before.status old ≠ .autoDisabled

/-- A list of keys may take the place of another one if every key that is not enabled stays where
it is, or goes away and leaves its place empty. -/
def Replaces (columns : KeyColumns) (keys new : List String) : Prop :=
  ∀ index, columns.status index ≠ .enabled →
    new[index]? = keys[index]? ∨ new[index]? = none ∧ ∀ key ∈ keys[index]?, key ∉ new

/-- What a request has to meet for the states to follow. -/
def KeepsKeys (services : Services) (columns : KeyColumns) (request : KeyRequest) : Prop :=
  columns.keys services ≠ [] ∧
    match request with
    | .manage (.deleteKey _) => ∀ key ∈ columns.keys services, SingleLine key
    | .manage .deleteDisabledKeys => (∀ key ∈ columns.keys services, SingleLine key) ∧
        ∃ index < (columns.keys services).length, columns.status index ≠ .autoDisabled
    | .manage _ => True
    | .updateChannel edit =>
      if columns.appends edit then
        (∀ key ∈ columns.keys services, SingleLine key) ∧
          (edit.unreadable = true → ∃ sent, sentKeys services edit = .ok sent) ∧
          ∀ sent, sentKeys services edit = .ok sent → ∀ key ∈ sent, trimSpace key = "" ∨ SingleLine (trimSpace key)
      else edit.key = "" ∨ parseKeys services edit.key ≠ [] ∧ (parseKeys services edit.key).Nodup ∧
        columns.Replaces (columns.keys services) (parseKeys services edit.key)

section Steps

variable {services : Services} {columns sent : KeyColumns} {request : KeyRequest}

theorem mem_addedKeys {seen sent : List String} {key : String} (member : key ∈ PatchChannel.addedKeys seen sent) :
    key ≠ "" ∧ key ∉ seen ∧ ∃ raw ∈ sent, trimSpace raw = key := by
  induction sent generalizing seen with
  | nil => cases member
  | cons raw rest ih =>
    unfold PatchChannel.addedKeys at member
    split at member
    · obtain ⟨full, fresh, other, among, same⟩ := ih member
      exact ⟨full, fresh, other, .tail _ among, same⟩
    · rename_i new
      rw [not_or] at new
      rcases List.mem_cons.mp member with rfl | later
      · exact ⟨new.1, new.2, raw, .head _, rfl⟩
      · obtain ⟨full, fresh, other, among, same⟩ := ih later
        exact ⟨full, fun old => fresh (.tail _ old), other, .tail _ among, same⟩

theorem addedKeys_nodup (seen sent : List String) : (PatchChannel.addedKeys seen sent).Nodup := by
  induction sent generalizing seen with
  | nil => exact List.nodup_nil
  | cons raw rest ih =>
    unfold PatchChannel.addedKeys
    split
    · exact ih seen
    · refine List.nodup_cons.mpr ⟨fun member => ?_, ih _⟩
      exact (mem_addedKeys member).2.1 (.head _)

theorem checkIndex_ok {keyIndex : Option Int} {missing : String} {index : Nat}
    (checked : columns.checkIndex keyIndex missing = .ok index) : keyIndex = some (index : Int) := by
  unfold checkIndex at checked
  cases keyIndex with
  | none => cases checked
  | some sent =>
    dsimp only at checked
    split at checked
    · cases checked
    · rw [← Except.ok.inj checked]
      congr 1
      omega

theorem status_disableKey (index other : Nat) :
    (columns.disableKey index).status other = if other = index then .manuallyDisabled else columns.status other := by
  unfold status ChannelInfo.getStatus disableKey
  split
  case isTrue same => rw [same, AList.lookup_insert, Option.getD_some]
  case isFalse apart => rw [AList.lookup_insert_ne apart]

theorem status_enableKey (index other : Nat) :
    (columns.enableKey index).status other = if other = index then .enabled else columns.status other := by
  unfold status ChannelInfo.getStatus enableKey
  split
  case isTrue same => rw [same, AList.lookup_erase, Option.getD_none]
  case isFalse apart => rw [AList.lookup_erase_ne apart]

theorem lookup_foldl_insert {Value : Type} (value : Value) (indexes : List Nat)
    (states : AList fun _ : Nat => Value) (index : Nat) :
    (indexes.foldl (fun states index => states.insert index value) states).lookup index =
      if index ∈ indexes then some value else states.lookup index := by
  induction indexes generalizing states with
  | nil => simp
  | cons first rest ih =>
    rw [List.foldl_cons, ih]
    by_cases same : index = first
    · subst same
      simp
    · simp [same, AList.lookup_insert_ne same]

theorem status_disableAllKeys (index : Nat) : columns.disableAllKeys.status index =
      if index ∈ columns.enabledKeys then .manuallyDisabled else columns.status index := by
  unfold status ChannelInfo.getStatus disableAllKeys
  rw [lookup_foldl_insert]
  split <;> rfl

section
variable (consistent : columns.Consistent services)
include consistent

theorem follows_same (nonempty : columns.keys services ≠ [])
    (same : sent.key = columns.key ∨ sent.key = "") (multi : sent.info.isMultiKey = true)
    (set : ∀ index < (columns.keys services).length,
      sent.status index = (request.sets columns index).getD (columns.status index))
    (other : request ≠ .manage .deleteDisabledKeys) :
    (columns.update services sent).Consistent services ∧
      Follows services columns request (columns.update services sent) := by
  have read : parseKeys services (if sent.key ≠ "" then sent.key else columns.key) = columns.keys services := by
    rcases same with same | empty
    · rw [same, ite_self]
      rfl
    · rw [if_neg (by simp [empty])]
      rfl
  obtain ⟨keys, _, size, status⟩ := update_spec multi read nonempty
  refine ⟨update_consistent multi read nonempty consistent.distinct,
    ⟨by rw [size, keys], fun key old new before after => ?_, fun key new after absent => ?_,
      fun self => absurd self other⟩⟩
  · rw [keys] at after
    obtain ⟨below, _⟩ := List.getElem?_eq_some_iff.mp before
    obtain rfl : old = new := (List.getElem?_inj below consistent.distinct).mp (before.trans after.symm)
    rw [status, if_pos below, set old below]
  · rw [keys] at after
    exact absurd (List.mem_of_getElem? after) absent

theorem follows_reindex {keeps noted : Nat → Bool}
    (lines : ∀ key ∈ columns.keys services, SingleLine key)
    (nonempty : (reindex columns.info keeps noted (columns.keys services)).remainingKeys ≠ [])
    (unset : ∀ index, request.sets columns index = none)
    (exactly : request = .manage .deleteDisabledKeys →
      ∀ index, keeps index = true ↔ columns.status index ≠ .autoDisabled) :
    let sent := (reindex columns.info keeps noted (columns.keys services)).columns columns.info
    (columns.update services sent).Consistent services ∧
      Follows services columns request (columns.update services sent) := by
  intro sent
  have remaining : ∀ key ∈ (reindex columns.info keeps noted (columns.keys services)).remainingKeys,
      SingleLine key := by
    intro key member
    obtain ⟨index, found, _⟩ := mem_remainingKeys.mp member
    exact lines key (List.mem_of_getElem? found)
  have text : sent.key ≠ "" := by
    intro empty
    have read := @parseKeys_join services _ nonempty remaining
    rw [show join '\n' _ = "" from empty] at read
    exact nonempty read.symm
  have read : parseKeys services (if sent.key ≠ "" then sent.key else columns.key) =
      (reindex columns.info keeps noted (columns.keys services)).remainingKeys := by
    rw [if_pos text]
    exact parseKeys_join nonempty remaining
  obtain ⟨keys, _, size, status⟩ := @update_spec services columns sent _ consistent.multi read nonempty
  refine ⟨update_consistent consistent.multi read nonempty (remainingKeys_nodup consistent.distinct),
    ⟨by rw [size, keys], fun key old new before after => ?_, fun key new after absent => ?_,
      fun self key => ?_⟩⟩
  · rw [keys] at after
    rw [status, if_pos (List.getElem?_eq_some_iff.mp after).1, unset]
    exact reindex_status consistent.distinct before after
  · rw [keys] at after
    obtain ⟨index, found, _⟩ := mem_remainingKeys.mp (List.mem_of_getElem? after)
    exact absurd (List.mem_of_getElem? found) absent
  · rw [keys, mem_remainingKeys]
    exact exists_congr fun index => and_congr_right fun _ => exactly self index

theorem follows_replaced {stored : KeyColumns} {text : String} {edit : KeyEdit}
    (full : text ≠ "") (nonempty : parseKeys services text ≠ [])
    (distinct : (parseKeys services text).Nodup)
    (replaces : columns.Replaces (columns.keys services) (parseKeys services text)) :
    (stored.update services { columns with key := text }).Consistent services ∧
      Follows services columns (.updateChannel edit) (stored.update services { columns with key := text }) := by
  have read : parseKeys services (if text ≠ "" then text else stored.key) = parseKeys services text := by
    rw [if_pos full]
  have multi : ({ columns with key := text } : KeyColumns).info.isMultiKey = true := consistent.multi
  obtain ⟨keys, _, size, status⟩ := update_spec multi read nonempty
  refine ⟨update_consistent multi read nonempty distinct, ⟨by rw [size, keys], fun key old new before after => ?_,
    fun key new after absent => ?_, fun self => by cases self⟩⟩
  · rw [keys] at after
    rw [status, if_pos (List.getElem?_eq_some_iff.mp after).1]
    obtain ⟨below, _⟩ := List.getElem?_eq_some_iff.mp before
    obtain ⟨belowNew, _⟩ := List.getElem?_eq_some_iff.mp after
    by_cases enabled : columns.status old = .enabled
    · rw [enabled]
      by_contra disabled
      rcases replaces new disabled with same | ⟨gone, _⟩
      · obtain rfl : old = new :=
          (List.getElem?_inj below consistent.distinct).mp (before.trans (after.symm.trans same))
        exact disabled enabled
      · rw [gone] at after
        cases after
    · rcases replaces old enabled with same | ⟨_, gone⟩
      · obtain rfl : new = old :=
          (List.getElem?_inj belowNew distinct).mp (after.trans (before.symm.trans same.symm))
        rfl
      · exact absurd (List.mem_of_getElem? after) (gone key before)
  · rw [keys] at after
    rw [status, if_pos (List.getElem?_eq_some_iff.mp after).1]
    by_contra disabled
    rcases replaces new disabled with same | ⟨gone, _⟩
    · exact absent (List.mem_of_getElem? (same.symm.trans after))
    · rw [gone] at after
      cases after

theorem appendedKeys_spec {sent : List String} (full : columns.key ≠ "")
    (lines : ∀ key ∈ columns.keys services, SingleLine key)
    (sentLines : ∀ key ∈ sent, trimSpace key = "" ∨ SingleLine (trimSpace key)) :
    ∃ added, columns.appendedKeys services sent = columns.keys services ++ added ∧
      (columns.keys services ++ added).Nodup ∧ ∀ key ∈ columns.keys services ++ added, SingleLine key := by
  have existing : PatchChannel.existingKeys services columns.key = columns.keys services := existingKeys_eq full lines
  unfold appendedKeys
  rw [existing]
  refine ⟨_, rfl, List.nodup_append.mpr ⟨consistent.distinct, addedKeys_nodup _ _, ?_⟩, fun key member => ?_⟩
  · rintro key old other new rfl
    obtain ⟨text, fresh, raw, _, trimmed⟩ := mem_addedKeys new
    have clean : trimSpace key = key := by rw [← trimmed, trimSpace_idempotent]
    exact fresh (List.mem_filter.mpr ⟨List.mem_map.mpr ⟨key, old, clean⟩, by simpa using text⟩)
  · rcases List.mem_append.mp member with old | new
    · exact lines key old
    · obtain ⟨text, _, raw, among, rfl⟩ := mem_addedKeys new
      exact (sentLines raw among).resolve_left text

theorem follows_appended {stored : KeyColumns} {edit : KeyEdit} {sent : List String}
    (nonempty : columns.keys services ≠ []) (full : columns.key ≠ "")
    (lines : ∀ key ∈ columns.keys services, SingleLine key)
    (sentLines : ∀ key ∈ sent, trimSpace key = "" ∨ SingleLine (trimSpace key)) :
    let sent := { columns with key := join '\n' (columns.appendedKeys services sent) }
    (stored.update services sent).Consistent services ∧
      Follows services columns (.updateChannel edit) (stored.update services sent) := by
  intro body
  obtain ⟨added, all, distinct, allLines⟩ := appendedKeys_spec consistent full lines sentLines
  have someAll : columns.keys services ++ added ≠ [] := List.append_ne_nil_of_left_ne_nil nonempty _
  have read := @parseKeys_join services _ someAll allLines
  have text : join '\n' (columns.keys services ++ added) ≠ "" := by
    intro empty
    rw [empty] at read
    exact someAll read.symm
  have body_eq : body = { columns with key := join '\n' (columns.keys services ++ added) } :=
    congrArg (fun keys => { columns with key := join '\n' keys }) all
  rw [body_eq]
  refine follows_replaced consistent text (by rwa [read]) (by rwa [read]) fun index disabled => .inl ?_
  have below : index < (columns.keys services).length := by
    by_contra above
    exact disabled (consistent.bounded index (by omega))
  rw [read, List.getElem?_append_left below]

theorem mem_enabledKeys {index : Nat} (below : index < (columns.keys services).length) :
    index ∈ columns.enabledKeys ↔ columns.status index = .enabled := by
  unfold enabledKeys
  rw [List.mem_filter, List.mem_range, consistent.size, Int.toNat_natCast, decide_eq_true_iff]
  exact ⟨And.right, fun enabled => ⟨below, enabled⟩⟩

theorem managed_follows {action : KeyAction} {message : String}
    (keeps : KeepsKeys services columns (.manage action))
    (done : columns.managed services action = .ok (message, sent)) :
    (columns.update services sent).Consistent services ∧
      Follows services columns (.manage action) (columns.update services sent) := by
  obtain ⟨keyed, keeps⟩ := keeps
  cases action with
  | disableKey keyIndex | enableKey keyIndex =>
    obtain ⟨index, checked, ⟨⟩⟩ := bind_ok.mp done
    refine follows_same consistent keyed (.inl rfl) consistent.multi (fun other below => ?_) (by simp)
    simp only [status_disableKey, status_enableKey, checkIndex_ok checked]
    rcases eq_or_ne index other with rfl | apart
    · simp [KeyRequest.sets]
    · simp [KeyRequest.sets, apart, apart.symm]
  | enableAllKeys =>
    cases done
    exact follows_same consistent keyed (.inl rfl) consistent.multi (fun other below => rfl) (by simp)
  | disableAllKeys =>
    obtain ⟨_, _, ⟨⟩⟩ := bind_ok.mp done
    refine follows_same consistent keyed (.inl rfl) consistent.multi (fun index below => ?_) (by simp)
    rw [status_disableAllKeys, KeyRequest.sets]
    simp only [mem_enabledKeys consistent below]
    split <;> rfl
  | deleteKey keyIndex =>
    obtain ⟨index, checked, done⟩ := bind_ok.mp done
    obtain ⟨_, left, ⟨⟩⟩ := bind_ok.mp done
    exact follows_reindex consistent keeps (refuseIf_ok.mp left) (fun _ => rfl) (by simp)
  | deleteDisabledKeys =>
    obtain ⟨_, _, ⟨⟩⟩ := bind_ok.mp done
    obtain ⟨lines, index, below, stays⟩ := keeps
    refine follows_reindex consistent lines ?_ (fun _ => rfl) fun _ index => by simp
    refine List.ne_nil_of_mem (mem_remainingKeys.mpr ⟨index, List.getElem?_eq_getElem below, ?_⟩)
    simpa using stays

theorem updateKeys_follows {edit : KeyEdit}
    (keeps : KeepsKeys services columns (.updateChannel edit)) :
    (columns.updateKeys services edit).2.Consistent services ∧
      ∀ message, (columns.updateKeys services edit).1 = .ok message →
        Follows services columns (.updateChannel edit) (columns.updateKeys services edit).2 := by
  obtain ⟨keyed, keeps⟩ := keeps
  have full : columns.key ≠ "" := fun empty => keyed (if_pos empty)
  unfold updateKeys
  dsimp only at keeps ⊢
  split
  · rename_i appends
    rw [if_pos appends] at keeps
    obtain ⟨lines, readable, sentLines⟩ := keeps
    cases sending : sentKeys services edit with
    | error refusal =>
      have kept : columns.readSettings edit = columns := by
        refine if_neg fun reset => ?_
        obtain ⟨sent, sends⟩ := readable (Bool.and_eq_true_iff.mp reset).2
        rw [sending] at sends
        cases sends
      rw [kept]
      exact ⟨consistent, fun message said => by cases said⟩
    | ok sent =>
      obtain ⟨still, follows⟩ := @follows_appended services columns consistent (columns.readSettings edit) edit sent
        keyed full lines (sentLines sent sending)
      exact ⟨still, fun _ _ => follows⟩
  · rename_i replaces
    rw [if_neg replaces] at keeps
    have kept : columns.readSettings edit = columns := by
      refine if_neg fun reset => replaces (Bool.and_eq_true_iff.mp reset).1
    rw [kept]
    by_cases empty : edit.key = ""
    · obtain ⟨still, follows⟩ := @follows_same services columns { columns with key := edit.key }
        (.updateChannel edit) consistent keyed (.inr empty) consistent.multi (fun _ _ => rfl) (by simp)
      exact ⟨still, fun _ _ => follows⟩
    · obtain ⟨someNew, distinct, places⟩ := keeps.resolve_left empty
      obtain ⟨still, follows⟩ := @follows_replaced services columns consistent columns edit.key edit empty someNew
        distinct places
      exact ⟨still, fun _ _ => follows⟩

end

theorem perform_follows (columns : KeyColumns) (request : KeyRequest) (consistent : columns.Consistent services)
    (keeps : KeepsKeys services columns request) :
    (columns.perform services request).2.Consistent services ∧
      ∀ message, (columns.perform services request).1 = .ok message →
        Follows services columns request (columns.perform services request).2 := by
  cases request with
  | updateChannel edit => exact updateKeys_follows consistent keeps
  | manage action =>
    unfold perform
    dsimp only
    cases done : columns.manageMultiKeys services action with
    | error refusal => exact ⟨consistent, fun message said => by cases said⟩
    | ok result =>
      obtain ⟨_, _, done⟩ := bind_ok.mp done
      obtain ⟨⟨message, sent⟩, managed, ⟨⟩⟩ := bind_ok.mp done
      obtain ⟨still, follows⟩ := managed_follows consistent keeps managed
      exact ⟨still, fun _ _ => follows⟩

end Steps

end KeyColumns

/-- In every run whose requests meet the condition, each request that succeeds leaves the states
with their keys. -/
theorem key_states_follow_keys (services : Services) (start : KeyColumns) (consistent : start.Consistent services)
    (past : List KeyRequest) (request : KeyRequest)
    (keeps : Guarded (fun columns request => (columns.perform services request).2)
      (KeyColumns.KeepsKeys services) start (past ++ [request])) :
    let before := run (fun columns request => (columns.perform services request).2) start past
    ∀ message, (before.perform services request).1 = .ok message →
      KeyColumns.Follows services before request (before.perform services request).2 := by
  intro before message done
  obtain ⟨earlier, now⟩ := Guarded.append.mp keeps
  have still : before.Consistent services :=
    Guarded.invariant (fun columns request consistent keeps =>
      (columns.perform_follows request consistent keeps).1) consistent earlier
  exact (before.perform_follows request still now.1).2 message done

instance (key : String) : Decidable (SingleLine key) := inferInstanceAs (Decidable (_ ∧ _ ∧ _))

def twoKeys (first second : ChannelStatus) : KeyColumns where
  key := "a\nb"
  info := {
    isMultiKey := true
    multiKeySize := 2
    multiKeyStatusList := AList.insert 0 first (AList.insert 1 second ∅) }

theorem twoKeys_keys (first second : ChannelStatus) : (twoKeys first second).keys plainServices = ["a", "b"] := by
  change parseKeys plainServices "a\nb" = _
  decide +kernel

theorem twoKeys_consistent (first second : ChannelStatus) : (twoKeys first second).Consistent plainServices where
  multi := rfl
  distinct := by
    rw [twoKeys_keys]
    decide
  size := by
    rw [twoKeys_keys]
    rfl
  bounded := by
    intro index above
    rw [twoKeys_keys] at above
    change 2 ≤ index at above
    unfold KeyColumns.status ChannelInfo.getStatus twoKeys
    rw [AList.lookup_insert_ne (by omega), AList.lookup_insert_ne (by omega), AList.lookup_empty]
    rfl

theorem key_states_follow_keys_deleted :
    let start := twoKeys .enabled .autoDisabled
    let before := run (fun columns request => (columns.perform plainServices request).2) start
      [.manage (.disableKey (some 0))]
    (before.perform plainServices (.manage .deleteDisabledKeys)).2.keys plainServices = ["a"] ∧
      KeyColumns.Follows plainServices before (.manage .deleteDisabledKeys)
        (before.perform plainServices (.manage .deleteDisabledKeys)).2 := by
  intro start before
  have keeps : KeyColumns.KeepsKeys plainServices before (.manage .deleteDisabledKeys) :=
    ⟨by decide +kernel, by decide +kernel, 0, by decide +kernel, by decide +kernel⟩
  exact ⟨by decide +kernel, key_states_follow_keys plainServices start (twoKeys_consistent _ _)
    [.manage (.disableKey (some 0))] (.manage .deleteDisabledKeys)
    ⟨⟨by decide +kernel, trivial⟩, keeps, trivial⟩ "已删除 1 个自动禁用的密钥" (by decide +kernel)⟩

/-- When all keys are disabled by the system, none is left to be written: the column keeps the
keys, and their states are gone. -/
theorem delete_disabled_keys_enables_all :
    ¬ ∀ (services : Services) (start : KeyColumns), start.Consistent services →
      ∀ (past : List KeyRequest) (request : KeyRequest) (message : String),
        let before := run (fun columns request => (columns.perform services request).2) start past
        (before.perform services request).1 = .ok message →
          KeyColumns.Follows services before request (before.perform services request).2 := by
  intro holds
  have said : ((twoKeys .autoDisabled .autoDisabled).perform plainServices (.manage .deleteDisabledKeys)).1 =
      .ok "已删除 2 个自动禁用的密钥" := by
    decide +kernel
  have follows := holds plainServices (twoKeys .autoDisabled .autoDisabled) (twoKeys_consistent _ _) []
    (.manage .deleteDisabledKeys) _ said
  have still : "a" ∈ ((twoKeys .autoDisabled .autoDisabled).perform plainServices
      (.manage .deleteDisabledKeys)).2.keys plainServices := by
    decide +kernel
  obtain ⟨index, found, stays⟩ := (follows.deleted rfl "a").mp still
  match index with
  | 0 => exact stays (by decide +kernel)
  | 1 => exact absurd found (by decide)
  | index + 2 => cases found

end TokenFactory.Channels
