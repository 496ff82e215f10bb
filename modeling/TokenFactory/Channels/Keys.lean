import TokenFactory.Channels.Operations
import TokenFactory.Distributor.Rotation

namespace TokenFactory.Channels

open Data Go Supplier
open Distributor (ChannelStatus ChannelInfo)
open Distributor.ChannelRow (trimNewlines)

/-! The keys of a channel that has several: `ManageMultiKeys`, and what `UpdateChannel` does to them.

The keys are lines of one text column, or the elements of a JSON array in it. The
states of the keys are in another column, by the index of the key, with the times and
the reasons of their ends. -/

structure KeyColumns where
  key : String
  info : ChannelInfo

def parseKeys (services : Services) (key : String) : List String :=
  if key = "" then []
  else
    let array := if hasPrefix (trimSpace key) "[" then services.decodeArray (trimSpace key) else none
    array.getD (split '\n' (String.ofList (trimNewlines key)))

namespace KeyColumns

variable (services : Services) (columns : KeyColumns)

def keys : List String := parseKeys services columns.key

def status (index : Nat) : ChannelStatus := columns.info.getStatus index

/-- `Channel.Update`: the keys are counted, and states of keys that are not there are dropped. -/
def update (stored sent : KeyColumns) : KeyColumns where
  key := Supplier.Channel.nonZero "" sent.key stored.key
  info :=
    if sent.info.isMultiKey then
      let size := (Supplier.Channel.countedKeys services (if sent.key ≠ "" then sent.key else stored.key)).length
      { sent.info with
        multiKeySize := size
        multiKeyStatusList := (sent.info.multiKeyStatusList.keys.filter (size ≤ ·)).foldl
          (fun states index => states.erase index) sent.info.multiKeyStatusList }
    else sent.info

end KeyColumns

structure Reindexed where
  remainingKeys : List String := []
  newStatusList : AList fun _ : Nat => ChannelStatus := ∅
  newDisabledTime : AList fun _ : Nat => Int := ∅
  newDisabledReason : AList fun _ : Nat => String := ∅

/-- An entry of the old map, if there is one, is put at the new index. -/
def copyEntry {Value : Type} (found : Option Value) (newIndex : Nat) (entries : AList fun _ : Nat => Value) :
    AList fun _ : Nat => Value :=
  found.elim entries fun value => entries.insert newIndex value

/-- One round: the key at the index is passed over, or it is kept with its state, and with the time
and the reason if they are `noted`. -/
def reindexKey (info : ChannelInfo) (keeps noted : Nat → Bool) (built : Reindexed) (entry : String × Nat) :
    Reindexed :=
  let newIndex := built.remainingKeys.length
  if keeps entry.2 then
    { remainingKeys := built.remainingKeys ++ [entry.1]
      newStatusList := copyEntry ((info.multiKeyStatusList.lookup entry.2).filter (· ≠ .enabled)) newIndex
        built.newStatusList
      newDisabledTime := copyEntry ((info.multiKeyDisabledTime.lookup entry.2).filter fun _ => noted entry.2) newIndex
        built.newDisabledTime
      newDisabledReason := copyEntry ((info.multiKeyDisabledReason.lookup entry.2).filter fun _ => noted entry.2)
        newIndex built.newDisabledReason }
  else built

def reindex (info : ChannelInfo) (keeps noted : Nat → Bool) (keys : List String) : Reindexed :=
  keys.zipIdx.foldl (reindexKey info keeps noted) {}

def Reindexed.columns (built : Reindexed) (info : ChannelInfo) : KeyColumns where
  key := join '\n' built.remainingKeys
  info := { info with
    multiKeySize := built.remainingKeys.length
    multiKeyStatusList := built.newStatusList
    multiKeyDisabledTime := built.newDisabledTime
    multiKeyDisabledReason := built.newDisabledReason }

/-- The actions of `ManageMultiKeys` that write. -/
inductive KeyAction where
  | disableKey (keyIndex : Option Int)
  | enableKey (keyIndex : Option Int)
  | enableAllKeys
  | disableAllKeys
  | deleteKey (keyIndex : Option Int)
  | deleteDisabledKeys
deriving DecidableEq

/-- The part of `UpdateChannel` that is about the keys. `vertexJson` says that the channel takes
keys that are JSON objects, `unreadable` that the settings which tell so cannot be read. -/
structure KeyEdit where
  keyMode : Option String
  key : String
  vertexJson : Bool := false
  unreadable : Bool := false
deriving DecidableEq

inductive KeyRequest where
  | manage (action : KeyAction)
  | updateChannel (edit : KeyEdit)
deriving DecidableEq

namespace KeyColumns

variable (services : Services) (columns : KeyColumns)

def checkIndex (keyIndex : Option Int) (missing : String) : Except Refusal Nat :=
  match keyIndex with
  | none => .error missing
  | some index =>
    if index < 0 ∨ index ≥ columns.info.multiKeySize then .error "密钥索引超出范围" else .ok index.toNat

def disableKey (index : Nat) : KeyColumns :=
  { columns with
    info := { columns.info with
      multiKeyStatusList := columns.info.multiKeyStatusList.insert index .manuallyDisabled } }

def enableKey (index : Nat) : KeyColumns :=
  { columns with
    info := { columns.info with
      multiKeyStatusList := columns.info.multiKeyStatusList.erase index
      multiKeyDisabledTime := columns.info.multiKeyDisabledTime.erase index
      multiKeyDisabledReason := columns.info.multiKeyDisabledReason.erase index } }

def enableAllKeys : KeyColumns :=
  { columns with
    info := { columns.info with
      multiKeyStatusList := ∅
      multiKeyDisabledTime := ∅
      multiKeyDisabledReason := ∅ } }

def enabledKeys : List Nat := (List.range columns.info.multiKeySize.toNat).filter (columns.status · = .enabled)

/-- Each round looks at its own index only. -/
def disableAllKeys : KeyColumns :=
  { columns with
    info := { columns.info with
      multiKeyStatusList := columns.enabledKeys.foldl (fun states index => states.insert index .manuallyDisabled)
        columns.info.multiKeyStatusList } }

def withoutKey (index : Nat) : Reindexed :=
  reindex columns.info (· ≠ index) (fun _ => true) (columns.keys services)

def withoutDisabledKeys : Reindexed :=
  reindex columns.info (columns.status · ≠ .autoDisabled) (columns.status · ≠ .enabled) (columns.keys services)

def autoDisabledKeys : List Nat :=
  (List.range (columns.keys services).length).filter (columns.status · = .autoDisabled)

def managed : KeyAction → Except Refusal (String × KeyColumns)
  | .disableKey keyIndex => do
    let index ← columns.checkIndex keyIndex "未指定要禁用的密钥索引"
    return ("密钥已禁用", columns.disableKey index)
  | .enableKey keyIndex => do
    let index ← columns.checkIndex keyIndex "未指定要启用的密钥索引"
    return ("密钥已启用", columns.enableKey index)
  | .enableAllKeys =>
    return ("已启用 " ++ toString columns.info.multiKeyStatusList.entries.length ++ " 个密钥", columns.enableAllKeys)
  | .disableAllKeys => do
    refuseIf (columns.enabledKeys = []) "没有可禁用的密钥"
    return ("已禁用 " ++ toString columns.enabledKeys.length ++ " 个密钥", columns.disableAllKeys)
  | .deleteKey keyIndex => do
    let index ← columns.checkIndex keyIndex "未指定要删除的密钥索引"
    let built := columns.withoutKey services index
    refuseIf (built.remainingKeys = []) "不能删除最后一个密钥"
    return ("密钥已删除", built.columns columns.info)
  | .deleteDisabledKeys => do
    let deleted := (columns.autoDisabledKeys services).length
    refuseIf (deleted = 0) "没有需要删除的自动禁用密钥"
    return ("已删除 " ++ toString deleted ++ " 个自动禁用的密钥",
      (columns.withoutDisabledKeys services).columns columns.info)

def manageMultiKeys (action : KeyAction) : Except Refusal (String × KeyColumns) := do
  refuseIf (¬ columns.info.isMultiKey) "该渠道不是多密钥模式"
  let (message, sent) ← columns.managed services action
  return (message, columns.update services sent)

def sentKeys (edit : KeyEdit) : Except Refusal (List String) :=
  if edit.vertexJson then
    if hasPrefix (trimSpace edit.key) "[" then
      (services.vertexArrayKeys edit.key).mapError ("追加密钥解析失败: " ++ ·)
    else .ok [edit.key]
  else .ok (((split '\n' edit.key).map trimSpace).filter (· ≠ ""))

def appendedKeys (sent : List String) : List String :=
  let existing := PatchChannel.existingKeys services columns.key
  existing ++ PatchChannel.addedKeys ((existing.map trimSpace).filter (· ≠ "")) sent

def appends (edit : KeyEdit) : Bool :=
  edit.keyMode = some "append" && columns.info.isMultiKey && columns.key ≠ ""

/-- Settings that cannot be read are reset, and with them the body is saved as a whole row. -/
def readSettings (edit : KeyEdit) : KeyColumns :=
  if columns.appends edit && edit.unreadable then { columns with key := edit.key } else columns

/-- The states are kept as they are, by index. -/
def updateKeys (edit : KeyEdit) : Except Refusal String × KeyColumns :=
  let stored := columns.readSettings edit
  if columns.appends edit then
    match sentKeys services edit with
    | .error refusal => (.error refusal, stored)
    | .ok sent =>
      (.ok "", stored.update services { columns with key := join '\n' (columns.appendedKeys services sent) })
  else (.ok "", stored.update services { columns with key := edit.key })

def perform : KeyRequest → Except Refusal String × KeyColumns
  | .manage action =>
    match columns.manageMultiKeys services action with
    | .error refusal => (.error refusal, columns)
    | .ok (message, after) => (.ok message, after)
  | .updateChannel edit => columns.updateKeys services edit

end KeyColumns

def keyColumnsOf (channel : Supplier.Channel) : KeyColumns where
  key := channel.key
  info := {
    isMultiKey := channel.isMultiKey
    multiKeySize := channel.multiKeySize
    multiKeyStatusList := channel.multiKeyStatusList }

def keyEditOf (services : Services) (patch : PatchChannel) : KeyEdit where
  keyMode := patch.keyMode
  key := patch.channel.key
  vertexJson := patch.channel.type = Relay.ChannelType.vertexAi ∧
    services.vertexKeyType patch.channel.otherSettings ≠ some "api_key"
  unreadable := patch.unreadable services

section Stored

variable {services : Services} {origin : Supplier.Channel} {patch checked : PatchChannel}

theorem keyColumnsOf_updated (stored sent : Supplier.Channel) :
    keyColumnsOf (stored.updated (sent.recounted services stored)) =
      (keyColumnsOf stored).update services (keyColumnsOf sent) := by
  unfold Supplier.Channel.recounted KeyColumns.update
  by_cases multi : sent.isMultiKey = true
  · have marked : (keyColumnsOf sent).info.isMultiKey = true := multi
    rw [if_pos multi, if_pos marked]
    rfl
  · have unmarked : ¬ (keyColumnsOf sent).info.isMultiKey = true := multi
    rw [if_neg multi, if_neg unmarked]
    rfl

theorem keyColumnsOf_sent (same : (keyColumnsOf patch.channel).info = (keyColumnsOf origin).info) (key : String) :
    keyColumnsOf { patch.channel with key } = { keyColumnsOf origin with key } :=
  congrArg (KeyColumns.mk key) same

theorem appends_eq (same : (keyColumnsOf patch.channel).info = (keyColumnsOf origin).info) :
    patch.appends origin = (keyColumnsOf origin).appends (keyEditOf services patch) := by
  have multi : patch.channel.isMultiKey = origin.isMultiKey := congrArg ChannelInfo.isMultiKey same
  unfold PatchChannel.appends
  rw [multi]
  rfl

theorem appendedKeys_eq {vertexJson : Bool} (reads : (keyEditOf services patch).vertexJson = vertexJson)
    (key : patch.channel.key = checked.channel.key) :
    checked.appendedKeys services vertexJson origin =
      (KeyColumns.sentKeys services (keyEditOf services patch)).map fun sent =>
        join '\n' ((keyColumnsOf origin).appendedKeys services sent) := by
  have sent : checked.newKeys services vertexJson = KeyColumns.sentKeys services (keyEditOf services patch) := by
    unfold PatchChannel.newKeys KeyColumns.sentKeys
    rw [← key, reads]
    rfl
  unfold PatchChannel.appendedKeys
  rw [sent]
  cases KeyColumns.sentKeys services (keyEditOf services patch) <;> rfl

theorem withKeys_keyColumns (same : (keyColumnsOf patch.channel).info = (keyColumnsOf origin).info) :
    (patch.withKeys services origin).map (fun checked => keyColumnsOf checked.channel) =
      if (keyColumnsOf origin).appends (keyEditOf services patch) then
        (KeyColumns.sentKeys services (keyEditOf services patch)).map fun sent =>
          { keyColumnsOf origin with key := join '\n' ((keyColumnsOf origin).appendedKeys services sent) }
      else .ok { keyColumnsOf origin with key := patch.channel.key } := by
  unfold PatchChannel.withKeys
  rw [← @appends_eq services origin patch same]
  split
  · have emptied : patch.emptied.channel.key = patch.channel.key ∧
        (keyColumnsOf patch.emptied.channel).info = (keyColumnsOf origin).info := ⟨rfl, same⟩
    dsimp only
    generalize sending : (if patch.unreadable services = true then patch.emptied else patch) = body
    have kept : body.channel.key = patch.channel.key ∧
        (keyColumnsOf body.channel).info = (keyColumnsOf origin).info := by
      rw [← sending]
      split
      · exact emptied
      · exact ⟨rfl, same⟩
    generalize reads : decide (patch.channel.type = Relay.ChannelType.vertexAi ∧
      services.vertexKeyType patch.channel.otherSettings ≠ some "api_key") = vertexJson
    rw [@appendedKeys_eq services origin patch body vertexJson reads kept.1.symm]
    cases KeyColumns.sentKeys services (keyEditOf services patch) with
    | error refusal => rfl
    | ok sent => exact congrArg Except.ok (keyColumnsOf_sent kept.2 _)
  · exact congrArg Except.ok (keyColumnsOf_sent same patch.channel.key)

theorem applyPatch_keyColumns {catalogue : Catalogue} (found : catalogue.channels.lookup origin.id = some origin)
    (named : patch.channel.id = origin.id) (same : (keyColumnsOf patch.channel).info = (keyColumnsOf origin).info) :
    ∃ row, (catalogue.applyPatch services patch origin).2.channels.lookup origin.id = some row ∧
      keyColumnsOf row = ((keyColumnsOf origin).updateKeys services (keyEditOf services patch)).2 := by
  have updated : ((keyColumnsOf origin).updateKeys services (keyEditOf services patch)).2 =
      match (patch.withKeys services origin).map fun checked => keyColumnsOf checked.channel with
      | .error _ => (keyColumnsOf origin).readSettings (keyEditOf services patch)
      | .ok sent => ((keyColumnsOf origin).readSettings (keyEditOf services patch)).update services sent := by
    rw [withKeys_keyColumns same, KeyColumns.updateKeys]
    split
    · cases KeyColumns.sentKeys services (keyEditOf services patch) <;> rfl
    · rfl
  have read : ∃ stored, (catalogue.readSettings services patch origin).channels.lookup origin.id = some stored ∧
      keyColumnsOf stored = (keyColumnsOf origin).readSettings (keyEditOf services patch) ∧ stored.id = origin.id := by
    unfold Catalogue.readSettings KeyColumns.readSettings
    have unreadable : (keyEditOf services patch).unreadable = patch.unreadable services := rfl
    simp only [@appends_eq services origin patch same, Bool.and_eq_true, unreadable]
    split
    · exact ⟨patch.emptied.channel, Table.lookup_save_self found named, keyColumnsOf_sent same _, named⟩
    · exact ⟨origin, found, rfl, rfl⟩
  obtain ⟨stored, held, view, id⟩ := read
  rw [updated, ← view, Catalogue.applyPatch]
  cases patch.withKeys services origin with
  | error refusal => exact ⟨stored, held, rfl⟩
  | ok checked =>
    dsimp only
    rw [held]
    exact ⟨_, Table.lookup_save_self held id, keyColumnsOf_updated stored checked.channel⟩

end Stored

end TokenFactory.Channels
