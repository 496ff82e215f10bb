import TokenFactory.Data.Run
import TokenFactory.Data.Table

namespace TokenFactory.Billing.Batch

open Data

/-! Batched updates of quotas. -/

inductive BatchUpdateType where
  | userQuota
  | tokenQuota
  | usedQuota
  | channelUsedQuota
  | requestCount
deriving DecidableEq

/-- The order of the loops of `batchUpdate`. -/
def BatchUpdateType.all : List BatchUpdateType :=
  [.userQuota, .tokenQuota, .usedQuota, .channelUsedQuota, .requestCount]

structure User where
  id : Int
  quota : Int
  usedQuota : Int
  requestCount : Int
deriving DecidableEq

structure Token where
  id : Int
  remainQuota : Int
  usedQuota : Int
  accessedTime : Int
deriving DecidableEq

structure Channel where
  id : Int
  usedQuota : Int
  balance : Rat
deriving DecidableEq

structure Database where
  quotaPerUnit : Rat
  users : Table User.id
  tokens : Table Token.id
  channels : Table Channel.id

def Channel.charge (quotaPerUnit : Rat) (quota : Int) (channel : Channel) : Channel :=
  let deltaUSD := if quotaPerUnit > 0 then quota / quotaPerUnit else 0
  { channel with
    usedQuota := channel.usedQuota + quota
    balance :=
      if deltaUSD = 0 then channel.balance
      else if channel.balance - deltaUSD < 0 then 0
      else channel.balance - deltaUSD }

namespace Database

variable (db : Database)

def increaseUserQuota (id quota : Int) : Database :=
  { db with users := db.users.modify id (fun user => { user with quota := user.quota + quota }) fun _ => rfl }

def increaseTokenQuota (now id quota : Int) : Database :=
  { db with
    tokens := db.tokens.modify id (fun token => { token with
      remainQuota := token.remainQuota + quota
      usedQuota := token.usedQuota - quota
      accessedTime := now }) fun _ => rfl }

def updateUserUsedQuota (id quota : Int) : Database :=
  { db with
    users := db.users.modify id (fun user => { user with usedQuota := user.usedQuota + quota }) fun _ => rfl }

def updateUserRequestCount (id count : Int) : Database :=
  { db with
    users := db.users.modify id (fun user => { user with requestCount := user.requestCount + count })
      fun _ => rfl }

def updateChannelUsedQuota (id quota : Int) : Database :=
  if quota = 0 then db
  else { db with channels := db.channels.modify id (Channel.charge db.quotaPerUnit quota) fun _ => rfl }

/-- The write of one entry. An `UPDATE` that finds no row is no error. -/
def write (now : Int) : BatchUpdateType → Int → Int → Database
  | .userQuota, id, value => db.increaseUserQuota id value
  | .tokenQuota, id, value => db.increaseTokenQuota now id value
  | .usedQuota, id, value => db.updateUserUsedQuota id value
  | .requestCount, id, value => db.updateUserRequestCount id value
  | .channelUsedQuota, id, value => db.updateChannelUsedQuota id value

def value : BatchUpdateType → Int → Int
  | .userQuota, id => ((db.users.lookup id).map User.quota).getD 0
  | .tokenQuota, id => ((db.tokens.lookup id).map Token.remainQuota).getD 0
  | .usedQuota, id => ((db.users.lookup id).map User.usedQuota).getD 0
  | .requestCount, id => ((db.users.lookup id).map User.requestCount).getD 0
  | .channelUsedQuota, id => ((db.channels.lookup id).map Channel.usedQuota).getD 0

def hasRow : BatchUpdateType → Int → Bool
  | .userQuota, id | .usedQuota, id | .requestCount, id => (db.users.lookup id).isSome
  | .tokenQuota, id => (db.tokens.lookup id).isSome
  | .channelUsedQuota, id => (db.channels.lookup id).isSome

end Database

section
variable {Row : Type} {key : Row → Int} {table : Table key} {id other : Int} {change : Row → Row}
  {keeps : ∀ row, key (change row) = key row}

theorem getD_modify (column : Row → Int) (added : Int) (present : (table.lookup id).isSome = true)
    (adds : ∀ row, column (change row) = column row + added) :
    (((table.modify id change keeps).lookup other).map column).getD 0 =
      ((table.lookup other).map column).getD 0 + if id = other then added else 0 := by
  rw [Table.lookup_modify]
  by_cases same : id = other
  · subst same
    obtain ⟨row, found⟩ := Option.isSome_iff_exists.mp present
    simp [found, adds]
  · simp [same, Ne.symm same]

theorem getD_modify_kept (column : Row → Int) (kept : ∀ row, column (change row) = column row) :
    (((table.modify id change keeps).lookup other).map column).getD 0 =
      ((table.lookup other).map column).getD 0 := by
  rw [Table.lookup_modify]
  split
  · cases found : table.lookup other with
    | none => rfl
    | some row => simp [kept]
  · rfl

end

section
variable {db : Database} {type wanted : BatchUpdateType} {id now value other : Int}

theorem Database.value_write_self (present : db.hasRow type id = true) :
    (db.write now type id value).value type other =
      db.value type other + if id = other then value else 0 := by
  cases type with
  | userQuota =>
    apply getD_modify User.quota value present
    all_goals exact fun _ => rfl
  | usedQuota =>
    apply getD_modify User.usedQuota value present
    all_goals exact fun _ => rfl
  | requestCount =>
    apply getD_modify User.requestCount value present
    all_goals exact fun _ => rfl
  | tokenQuota =>
    apply getD_modify Token.remainQuota value present
    all_goals exact fun _ => rfl
  | channelUsedQuota =>
    unfold write updateChannelUsedQuota
    dsimp only
    split
    case isTrue nothing => simp [nothing]
    case isFalse something =>
      apply getD_modify Channel.usedQuota value present
      all_goals exact fun _ => rfl

theorem Database.value_write_other (different : type ≠ wanted) :
    (db.write now type id value).value wanted other = db.value wanted other := by
  cases type with
  | userQuota | usedQuota | requestCount =>
    cases wanted with
    | userQuota =>
      first
        | exact absurd rfl different
        | apply getD_modify_kept User.quota
          all_goals exact fun _ => rfl
    | usedQuota =>
      first
        | exact absurd rfl different
        | apply getD_modify_kept User.usedQuota
          all_goals exact fun _ => rfl
    | requestCount =>
      first
        | exact absurd rfl different
        | apply getD_modify_kept User.requestCount
          all_goals exact fun _ => rfl
    | tokenQuota | channelUsedQuota => rfl
  | tokenQuota =>
    cases wanted with
    | tokenQuota => exact absurd rfl different
    | userQuota | usedQuota | requestCount | channelUsedQuota => rfl
  | channelUsedQuota =>
    unfold write updateChannelUsedQuota
    dsimp only
    split
    · rfl
    · cases wanted with
      | channelUsedQuota => exact absurd rfl different
      | userQuota | usedQuota | requestCount | tokenQuota => rfl

theorem Database.value_write (present : db.hasRow type id = true) (wanted : BatchUpdateType) :
    (db.write now type id value).value wanted other =
      db.value wanted other + if type = wanted ∧ id = other then value else 0 := by
  by_cases same : type = wanted
  · subst same
    simp only [true_and]
    exact value_write_self present
  · simp only [same, false_and, ↓reduceIte, add_zero]
    exact value_write_other same

end

structure Record where
  id : Int
  value : Int
deriving DecidableEq

/-- How far one `batchUpdate` has come: it looks for data in the maps that are left, takes
the map of the next type, or writes the entries of a map it has taken. -/
inductive Flush where
  | checking (rest : List BatchUpdateType)
  | swapping (rest : List BatchUpdateType)
  | writing (type : BatchUpdateType) (batch : List Record) (rest : List BatchUpdateType)
  | finished

structure BatchState where
  database : Database
  batchUpdateStores : BatchUpdateType → Table Record.id
  flushes : List Flush

/-- In a turn of a flush, `position` is the entry that the iteration over the map comes to
next, and `fails` a failure of the database. -/
inductive Action where
  | addNewRecord (type : BatchUpdateType) (id value : Int)
  | batchUpdate
  | turn (flush position : Nat) (now : Int) (fails : Bool)

namespace BatchState

def start (database : Database) : BatchState := ⟨database, fun _ => .empty, []⟩

variable (state : BatchState)

def addNewRecord (type : BatchUpdateType) (id value : Int) : BatchState :=
  let store := state.batchUpdateStores type
  let added := match store.lookup id with
    | none => store.insert ⟨id, value⟩
    | some record => store.save ⟨id, record.value + value⟩
  { state with batchUpdateStores := Function.update state.batchUpdateStores type added }

def setFlush (index : Nat) (flush : Flush) : BatchState :=
  { state with flushes := state.flushes.set index flush }

/-- One entry of a batch is written. A failed write is logged and forgotten. -/
def writeEntry (index position : Nat) (now : Int) (fails : Bool) (type : BatchUpdateType)
    (batch : List Record) (rest : List BatchUpdateType) : BatchState :=
  match batch[position]? with
  | none => state
  | some record =>
    { state with
      database := if fails then state.database else state.database.write now type record.id record.value
    }.setFlush index (.writing type (batch.eraseIdx position) rest)

def turn (index position : Nat) (now : Int) (fails : Bool) : BatchState :=
  match state.flushes[index]? with
  | none | some .finished => state
  | some (.checking []) => state.setFlush index .finished
  | some (.checking (type :: rest)) =>
    if (state.batchUpdateStores type).rows = [] then state.setFlush index (.checking rest)
    else state.setFlush index (.swapping BatchUpdateType.all)
  | some (.swapping []) => state.setFlush index .finished
  | some (.swapping (type :: rest)) =>
    { state with
      batchUpdateStores := Function.update state.batchUpdateStores type .empty
    }.setFlush index (.writing type (state.batchUpdateStores type).rows rest)
  | some (.writing _ [] rest) => state.setFlush index (.swapping rest)
  | some (.writing type batch rest) => state.writeEntry index position now fails type batch rest

def step : Action → BatchState
  | .addNewRecord type id value => state.addNewRecord type id value
  | .batchUpdate => { state with flushes := state.flushes ++ [.checking BatchUpdateType.all] }
  | .turn index position now fails => state.turn index position now fails

end BatchState

def deltaOf (id : Int) (record : Record) : Int := if record.id = id then record.value else 0

def Flush.carried (type : BatchUpdateType) (id : Int) : Flush → Int
  | .writing carried batch _ => if carried = type then (batch.map (deltaOf id)).sum else 0
  | _ => 0

namespace BatchState

variable (state : BatchState)

def pending (type : BatchUpdateType) (id : Int) : Int := (state.batchUpdateStores type).sum (deltaOf id)

def inFlight (type : BatchUpdateType) (id : Int) : Int := (state.flushes.map (Flush.carried type id)).sum

/-- The value that the database will have when everything is written. -/
def total (type : BatchUpdateType) (id : Int) : Int :=
  state.database.value type id + state.pending type id + state.inFlight type id

end BatchState

def Action.recorded (type : BatchUpdateType) (id : Int) : Action → Int
  | .addNewRecord recorded other value => if recorded = type ∧ other = id then value else 0
  | _ => 0

/-- The write that a turn makes, if it makes one, takes effect: the database does not fail
and has the row. -/
def BatchState.lands (state : BatchState) : Action → Bool
  | .turn index position _ fails =>
    match state.flushes[index]? with
    | some (.writing type batch _) =>
      batch[position]?.all fun record => !fails && state.database.hasRow type record.id
    | _ => true
  | _ => true

namespace BatchState

variable {state : BatchState} {type : BatchUpdateType} {id : Int}

theorem addNewRecord_pending (state : BatchState) (type recorded : BatchUpdateType) (id other value : Int) :
    (state.addNewRecord recorded other value).pending type id =
      state.pending type id + if recorded = type ∧ other = id then value else 0 := by
  unfold pending addNewRecord
  dsimp only
  by_cases same : recorded = type
  · subst same
    rw [Function.update_self]
    simp only [true_and]
    cases found : (state.batchUpdateStores recorded).lookup other with
    | none =>
      have free : (state.batchUpdateStores recorded).lookup (Record.id ⟨other, value⟩) = none := found
      rw [Table.sum_insert free]
      rfl
    | some record =>
      have held : (state.batchUpdateStores recorded).lookup (Record.id ⟨other, record.value + value⟩) =
          some record := found
      have named : record.id = other := Table.key_of_lookup found
      rw [Table.sum_save held]
      unfold deltaOf
      dsimp only
      split <;> omega
  · rw [Function.update_of_ne (Ne.symm same), if_neg fun both => same both.1, add_zero]

theorem inFlight_set (type : BatchUpdateType) (id : Int) {index : Nat} {flush : Flush}
    (found : state.flushes[index]? = some flush) (after : Flush) :
    ((state.flushes.set index after).map (Flush.carried type id)).sum =
      state.inFlight type id - flush.carried type id + after.carried type id := by
  obtain ⟨inside, same⟩ := List.getElem?_eq_some_iff.mp found
  unfold inFlight
  rw [List.map_set, List.sum_set', dif_pos (by rwa [List.length_map]), List.getElem_map, same]
  omega

theorem setFlush_total {index : Nat} {flush : Flush} (found : state.flushes[index]? = some flush)
    {after : Flush} (same : after.carried type id = flush.carried type id) :
    (state.setFlush index after).total type id = state.total type id := by
  have moved : (state.setFlush index after).inFlight type id = _ := inFlight_set type id found after
  unfold total
  rw [moved, same, sub_add_cancel]
  rfl

theorem swap_total {index : Nat} {taken : BatchUpdateType} {rest : List BatchUpdateType}
    (found : state.flushes[index]? = some (.swapping (taken :: rest))) : ({ state with
        batchUpdateStores := Function.update state.batchUpdateStores taken .empty
      }.setFlush index (.writing taken (state.batchUpdateStores taken).rows rest)).total type id =
      state.total type id := by
  have moved := inFlight_set type id found
    (.writing taken (state.batchUpdateStores taken).rows rest)
  unfold total setFlush inFlight pending
  rw [moved]
  simp only [Flush.carried]
  by_cases same : taken = type
  · subst same
    rw [Function.update_self, if_pos rfl]
    simp only [Table.sum, Table.empty, List.map_nil, List.sum_nil, inFlight]
    omega
  · rw [Function.update_of_ne (Ne.symm same), if_neg same]
    simp only [inFlight]
    omega

theorem writeEntry_total {index position : Nat} {now : Int} {fails : Bool} {written : BatchUpdateType}
    {batch : List Record} {rest : List BatchUpdateType}
    (found : state.flushes[index]? = some (.writing written batch rest))
    (lands : ∀ record, batch[position]? = some record →
      fails = false ∧ state.database.hasRow written record.id = true) :
    (state.writeEntry index position now fails written batch rest).total type id = state.total type id := by
  unfold writeEntry
  cases entry : batch[position]? with
  | none => rfl
  | some record =>
    obtain ⟨works, present⟩ := lands record entry
    obtain ⟨inside, same⟩ := List.getElem?_eq_some_iff.mp entry
    have moved := inFlight_set type id found (.writing written (batch.eraseIdx position) rest)
    have left : deltaOf id record + ((batch.eraseIdx position).map (deltaOf id)).sum =
        (batch.map (deltaOf id)).sum := by
      have bounded : position < (batch.map (deltaOf id)).length := by rwa [List.length_map]
      have taken := List.add_sum_eraseIdx bounded fun other _ => AddCommute.all _ other
      rwa [List.getElem_map, same, List.eraseIdx_map] at taken
    unfold total setFlush inFlight
    dsimp only
    rw [works, if_neg Bool.false_ne_true, Database.value_write present, moved]
    unfold inFlight pending Flush.carried
    dsimp only
    unfold deltaOf at left ⊢
    by_cases typed : written = type
    · subst typed
      simp only [true_and, ↓reduceIte]
      omega
    · rw [if_neg fun both => typed both.1, if_neg typed, if_neg typed]
      omega

theorem turn_total (index position : Nat) (now : Int) (fails : Bool)
    (lands : state.lands (.turn index position now fails) = true) :
    (state.turn index position now fails).total type id = state.total type id := by
  unfold turn
  cases found : state.flushes[index]? with
  | none => rfl
  | some flush =>
    cases flush with
    | finished => rfl
    | checking rest =>
      cases rest with
      | nil => exact setFlush_total found rfl
      | cons next rest =>
        dsimp only
        split
        · exact setFlush_total found rfl
        · exact setFlush_total found rfl
    | swapping rest =>
      cases rest with
      | nil => exact setFlush_total found rfl
      | cons next rest => exact swap_total found
    | writing written batch rest =>
      cases batch with
      | nil =>
        refine setFlush_total found ?_
        simp [Flush.carried]
      | cons first others =>
        refine writeEntry_total found fun record entry => ?_
        simpa [BatchState.lands, found, entry] using lands

theorem step_total (action : Action) (lands : state.lands action = true) :
    (state.step action).total type id = state.total type id + action.recorded type id := by
  cases action with
  | addNewRecord recorded other value =>
    have added := addNewRecord_pending state type recorded id other value
    have stored : (state.addNewRecord recorded other value).database = state.database := rfl
    have flying : (state.addNewRecord recorded other value).inFlight type id = state.inFlight type id := rfl
    simp only [total, step, Action.recorded, added, stored, flying]
    omega
  | batchUpdate => simp [total, step, Action.recorded, pending, inFlight, Flush.carried]
  | turn index position now fails =>
    exact (turn_total index position now fails lands).trans (add_zero _).symm

theorem run_total (type : BatchUpdateType) (id : Int) {actions : List Action}
    (lands : Guarded step (fun state action => state.lands action = true) state actions) :
    (run step state actions).total type id = state.total type id + (actions.map (Action.recorded type id)).sum := by
  induction actions generalizing state with
  | nil => simp
  | cons action rest ih =>
    obtain ⟨now, later⟩ := lands
    rw [run_cons, ih later, step_total action now, List.map_cons, List.sum_cons, add_assoc]

end BatchState

/-- As long as no write is lost, what is stored, pending and in flight is what was stored at
the start and everything that was recorded since. -/
theorem batched_updates_conserved (database : Database) {actions : List Action}
    (lands : Guarded BatchState.step (fun state action => state.lands action = true) (.start database) actions)
    (type : BatchUpdateType) (id : Int) :
    let state := run BatchState.step (.start database) actions
    state.database.value type id + state.pending type id + state.inFlight type id =
      database.value type id + (actions.map (Action.recorded type id)).sum := by
  have total := BatchState.run_total type id lands
  have fresh : (BatchState.start database).total type id = database.value type id := by
    simp [BatchState.total, BatchState.pending, BatchState.inFlight, BatchState.start, Table.sum, Table.empty]
  rw [fresh] at total
  exact total

def oneUser : Database where
  quotaPerUnit := 500000
  users := ⟨[⟨1, 100, 0, 0⟩], by decide⟩
  tokens := .empty
  channels := .empty

/-- The user earns 30 and spends 5; a flush looks at the map, takes it and writes the entry,
and meanwhile the user spends another 1. -/
def earnAndSpend (fails : Bool) : List Action :=
  [.addNewRecord .userQuota 1 30, .addNewRecord .userQuota 1 (-5), .batchUpdate, .turn 0 0 0 false,
    .turn 0 0 0 false, .addNewRecord .userQuota 1 (-1), .turn 0 0 0 fails]

theorem batched_updates_conserved_oneUser :
    let state := run BatchState.step (.start oneUser) (earnAndSpend false)
    state.database.value .userQuota 1 = 125 ∧ state.pending .userQuota 1 = -1 ∧
      state.database.value .userQuota 1 + state.pending .userQuota 1 + state.inFlight .userQuota 1 = 124 := by
  exact ⟨by decide, by decide, batched_updates_conserved oneUser (by decide) .userQuota 1⟩

/-- The delta of a write that fails is gone. -/
theorem batched_updates_lost :
    let state := run BatchState.step (.start oneUser) (earnAndSpend true)
    state.database.value .userQuota 1 + state.pending .userQuota 1 + state.inFlight .userQuota 1 = 99 ∧
      oneUser.value .userQuota 1 + ((earnAndSpend true).map (Action.recorded .userQuota 1)).sum = 124 := by
  decide

end TokenFactory.Billing.Batch
