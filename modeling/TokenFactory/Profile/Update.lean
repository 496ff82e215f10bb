import TokenFactory.Data.Run
import TokenFactory.Data.Table
import TokenFactory.Go.Errors

namespace TokenFactory.Profile

open Data Go

/-! `User.Update` of `model/user.go`, next to the statements that bill a user.

`Update` reads the row again, fills in the texts that the caller left empty, and saves the
whole row with the numbers of the caller. `increaseUserQuota` and `decreaseUserQuota` may run
between its statements. -/

/-- The columns that an empty text does not overwrite. -/
inductive TextField where
  | username
  | displayName
  | email
  | phone
  | githubId
  | discordId
  | oidcId
  | wechatId
  | telegramId
  | linuxDOId
  | group
  | setting
  | remark
  | stripeCustomer
  | affCode
deriving DecidableEq

structure User where
  id : Int
  texts : TextField → String
  password : String
  tags : String
  accessToken : Option String
  role : Int
  status : Int
  quota : Int
  usedQuota : Int
  requestCount : Int
  affCount : Int
  affQuota : Int
  affHistoryQuota : Int
  inviterId : Int
  distributorCommissionBps : Int
  isDistributor : Int
  isStudent : Int
  studentStatus : Int
  studentApplied : Option Int
  studentApprovedAt : Option Int
  studentApprovedBy : Int
  supplierID : Int
  adminInitialSetupCompleted : Bool
  createdAt : Int
  createdBy : String
  lastLoginAt : Option Int
  updatedAt : Int

/-- What the caller does to the row it has loaded: anything, but for the quota. -/
structure Edit where
  change : User → User
  keepsId : ∀ user, (change user).id = user.id
  keepsQuota : ∀ user, (change user).quota = user.quota

/-- One call of `Update` with what its caller did before. `newAffCode` is the code that
`EnsureAffCode` finds. -/
structure UpdateCall where
  userId : Int
  edit : Edit
  updatePassword : Bool
  password2Hash : String → Except String String
  newAffCode : String
  now : Int

def restoreIfEmpty (field fallback : String) : String := if field = "" then fallback else field

namespace UpdateCall
variable (call : UpdateCall)

def hashed (user : User) : Except String User :=
  if call.updatePassword then do
    let password ← call.password2Hash user.password
    return { user with password }
  else .ok user

def merge (user existing : User) : User :=
  { user with
    texts := fun field =>
      let text := restoreIfEmpty (user.texts field) (existing.texts field)
      if field = .affCode then restoreIfEmpty text call.newAffCode else text
    password := if call.updatePassword then restoreIfEmpty user.password existing.password else existing.password
    accessToken := user.accessToken <|> existing.accessToken
    createdAt := existing.createdAt
    createdBy := existing.createdBy
    lastLoginAt := existing.lastLoginAt
    updatedAt := call.now }

def prepare (user : User) (existing : Except String User) : Except String User := do
  refuseIf (user.id = 0) "user id is empty"
  let user ← call.hashed user
  let existing ← existing
  return call.merge user existing

end UpdateCall

inductive Phase where
  | waiting
  | loaded (user : User)
  | merged (user : User)
  | finished (answer : Except String Unit)

structure Updating where
  users : Table User.id
  phase : Phase

/-- A statement that fails has no effect. -/
inductive Statement where
  | load
  | reread (failure : Option String)
  | save (failure : Option String)
  | increaseUserQuota (id quota : Int)
  | decreaseUserQuota (id quota : Int)

def addQuota (quota : Int) (user : User) : User := { user with quota := user.quota + quota }

theorem addQuota_id (quota : Int) (user : User) : (addQuota quota user).id = user.id := rfl

def readRow (users : Table User.id) (id : Int) (failure : Option String) : Except String User :=
  match failure, users.lookup id with
  | some problem, _ => .error problem
  | none, none => .error "record not found"
  | none, some user => .ok user

def Updating.step (call : UpdateCall) (state : Updating) : Statement → Updating
  | .load =>
    match state.phase, state.users.lookup call.userId with
    | .waiting, some user => { state with phase := .loaded (call.edit.change user) }
    | .waiting, none => { state with phase := .finished (.error "record not found") }
    | _, _ => state
  | .reread failure =>
    match state.phase with
    | .loaded user =>
      match call.prepare user (readRow state.users user.id failure) with
      | .error reason => { state with phase := .finished (.error reason) }
      | .ok merged => { state with phase := .merged merged }
    | _ => state
  | .save failure =>
    match state.phase, failure with
    | .merged _, some problem => { state with phase := .finished (.error problem) }
    | .merged user, none => ⟨state.users.save user, .finished (.ok ())⟩
    | _, _ => state
  | .increaseUserQuota id quota => { state with users := state.users.modify id (addQuota quota) (addQuota_id quota) }
  | .decreaseUserQuota id quota =>
    { state with users := state.users.modify id (addQuota (-quota)) (addQuota_id (-quota)) }

def Statement.delta (userId : Int) : Statement → Int
  | .increaseUserQuota id quota => if id = userId then quota else 0
  | .decreaseUserQuota id quota => if id = userId then -quota else 0
  | _ => 0

/-- What bills the user of the call between the load of the row and the save that writes it. -/
def Updating.billedMeanwhile (call : UpdateCall) (state : Updating) (billed : Int) : List Statement → Int
  | [] => 0
  | statement :: rest =>
    match state.phase, statement with
    | .finished _, _ => 0
    | .merged _, .save none => billed
    | .waiting, _ => (state.step call statement).billedMeanwhile call 0 rest
    | _, _ => (state.step call statement).billedMeanwhile call (billed + statement.delta call.userId) rest

section
variable (call : UpdateCall) {state : Updating} {userId billed : Int} {row : User}

theorem UpdateCall.prepare_ok {call : UpdateCall} {user merged : User} {existing : Except String User}
    (prepared : call.prepare user existing = .ok merged) : merged.id = user.id ∧ merged.quota = user.quota := by
  obtain ⟨-, -, rest⟩ := bind_ok.mp prepared
  obtain ⟨hashed, password, rest⟩ := bind_ok.mp rest
  obtain ⟨existing, -, rest⟩ := bind_ok.mp rest
  have kept : hashed.id = user.id ∧ hashed.quota = user.quota := by
    unfold UpdateCall.hashed at password
    split at password
    · obtain ⟨text, -, rest⟩ := bind_ok.mp password
      cases rest
      exact ⟨rfl, rfl⟩
    · cases password
      exact ⟨rfl, rfl⟩
  cases rest
  exact kept

theorem addQuota_zero : addQuota 0 = id := by
  funext user
  simp only [addQuota, add_zero, id]

theorem lookup_addQuota (users : Table User.id) (id quota : Int) :
    (users.modify id (addQuota quota) (addQuota_id quota)).lookup userId =
      (users.lookup userId).map (addQuota (if id = userId then quota else 0)) := by
  rw [Table.lookup_modify]
  by_cases own : userId = id
  · rw [if_pos own, if_pos own.symm]
  · simp [own, Ne.symm own, addQuota_zero]

/-- A statement other than the save that writes the row changes the quota by what it bills. -/
theorem step_lookup (statement : Statement)
    (unwritten : ∀ user, state.phase = .merged user → statement = .save none → userId ≠ user.id) :
    (state.step call statement).users.lookup userId =
      (state.users.lookup userId).map (addQuota (statement.delta userId)) := by
  cases statement with
  | increaseUserQuota id quota => exact lookup_addQuota state.users id quota
  | decreaseUserQuota id quota => exact lookup_addQuota state.users id (-quota)
  | load =>
    simp only [Updating.step, Statement.delta, addQuota_zero, Option.map_id_fun, id]
    split <;> rfl
  | reread failure =>
    simp only [Updating.step, Statement.delta, addQuota_zero, Option.map_id_fun, id]
    split
    · split <;> rfl
    · rfl
  | save failure =>
    simp only [Updating.step, Statement.delta, addQuota_zero, Option.map_id_fun, id]
    split
    case h_2 user phase => exact Table.lookup_save_other (unwritten user phase rfl)
    all_goals rfl

/-- The row that the call holds is the stored one before what has billed the user since. -/
def Updating.Since (state : Updating) (billed : Int) : Prop :=
  match state.phase with
  | .loaded user | .merged user =>
    user.id = call.userId ∧
      ∀ stored, state.users.lookup call.userId = some stored → stored.quota = user.quota + billed
  | _ => True

theorem step_since (statement : Statement) (since : state.Since call billed) :
    (state.step call statement).Since call
      (match state.phase with | .waiting => 0 | _ => billed + statement.delta call.userId) := by
  have carried {user : User} (since : user.id = call.userId ∧
        ∀ stored, state.users.lookup call.userId = some stored → stored.quota = user.quota + billed)
      (unwritten : ∀ user, state.phase = .merged user → statement = .save none → call.userId ≠ user.id) :
      user.id = call.userId ∧ ∀ stored, (state.step call statement).users.lookup call.userId = some stored →
        stored.quota = user.quota + (billed + statement.delta call.userId) := by
    refine ⟨since.1, fun stored there => ?_⟩
    rw [step_lookup call statement unwritten] at there
    obtain ⟨row, found, rfl⟩ := Option.map_eq_some_iff.mp there
    simp only [addQuota, since.2 row found, add_assoc]
  cases phase : state.phase with
  | waiting =>
    cases statement with
    | load =>
      cases found : state.users.lookup call.userId with
      | none => simp only [Updating.step, phase, found, Updating.Since]
      | some user =>
        simp only [Updating.step, phase, found, Updating.Since]
        refine ⟨(call.edit.keepsId user).trans (Table.key_of_lookup found), ?_⟩
        rintro stored ⟨⟩
        rw [call.edit.keepsQuota, add_zero]
    | _ => simp only [Updating.step, phase, Updating.Since]
  | loaded user =>
    simp only [Updating.Since, phase] at since
    have kept := carried since (by simp [phase])
    cases statement with
    | reread failure =>
      cases prepared : call.prepare user (readRow state.users user.id failure) with
      | error reason => simp only [Updating.step, phase, prepared, Updating.Since]
      | ok merged =>
        obtain ⟨id, quota⟩ := UpdateCall.prepare_ok prepared
        simpa only [Updating.step, phase, prepared, Updating.Since, id, quota] using kept
    | _ => simpa only [Updating.step, phase, Updating.Since] using kept
  | merged user =>
    simp only [Updating.Since, phase] at since
    cases statement with
    | save failure => cases failure <;> simp only [Updating.step, phase, Updating.Since]
    | _ => simpa only [Updating.step, phase, Updating.Since] using carried since (by simp)
  | finished answer => cases statement <;> simp only [Updating.step, phase, Updating.Since]

theorem billedMeanwhile_cons {statement : Statement} (rest : List Statement)
    (unwritten : ∀ user, state.phase = .merged user → statement ≠ .save none) :
    state.billedMeanwhile call billed (statement :: rest) = (state.step call statement).billedMeanwhile call
      (match state.phase with | .waiting => 0 | _ => billed + statement.delta call.userId) rest := by
  cases phase : state.phase with
  | waiting | loaded user => simp only [Updating.billedMeanwhile, phase]
  | merged user =>
    have other := unwritten user phase
    cases statement with
    | save failure =>
      cases failure with
      | none => exact absurd rfl other
      | some problem => simp only [Updating.billedMeanwhile, phase]
    | _ => simp only [Updating.billedMeanwhile, phase]
  | finished answer =>
    have ended : (state.step call statement).phase = .finished answer := by
      cases statement <;> simp only [Updating.step, phase]
    cases rest <;> simp only [Updating.billedMeanwhile, phase, ended]

/-- The save undoes what billed the user of the call since the row was loaded. -/
theorem run_quota {statements : List Statement} (found : state.users.lookup userId = some row)
    (since : state.Since call billed) :
    ∃ after, (run (Updating.step call) state statements).users.lookup userId = some after ∧
      after.quota = row.quota + (statements.map (Statement.delta userId)).sum -
        if userId = call.userId then state.billedMeanwhile call billed statements else 0 := by
  induction statements generalizing state row billed with
  | nil => exact ⟨row, found, by simp [Updating.billedMeanwhile]⟩
  | cons statement rest ih =>
    have next := step_since call statement since
    by_cases writes : userId = call.userId ∧ statement = .save none ∧ ∃ user, state.phase = .merged user
    · obtain ⟨rfl, rfl, user, phase⟩ := writes
      simp only [Updating.Since, phase] at since
      have saved : state.step call (.save none) = ⟨state.users.save user, .finished (.ok ())⟩ := by
        simp only [Updating.step, phase]
      have there : (state.step call (.save none)).users.lookup call.userId = some user := by
        rw [saved]
        exact Table.lookup_save_self found since.1
      obtain ⟨after, ends, total⟩ := ih there next
      have finished (since : Int) : (state.step call (.save none)).billedMeanwhile call since rest = 0 := by
        rw [saved]
        cases rest <;> rfl
      refine ⟨after, ends, ?_⟩
      rw [total, finished, since.2 row found]
      simp only [Updating.billedMeanwhile, phase, Statement.delta, List.map_cons, List.sum_cons, if_true]
      omega
    · have apart : ∀ user, state.phase = .merged user → statement = .save none → userId ≠ user.id := by
        intro user phase save same
        simp only [Updating.Since, phase] at since
        exact writes ⟨same.trans since.1, save, user, phase⟩
      have there : (state.step call statement).users.lookup userId = some (addQuota (statement.delta userId) row) := by
        rw [step_lookup call statement apart, found, Option.map_some]
      obtain ⟨after, ends, total⟩ := ih there next
      refine ⟨after, ends, ?_⟩
      simp only [total, addQuota, List.map_cons, List.sum_cons]
      split
      case isTrue own =>
        rw [billedMeanwhile_cons call rest fun user phase save => writes ⟨own, save, user, phase⟩]
        omega
      case isFalse => omega

/-- A quota change of the user is lost exactly if what bills them between the load of the row and
the save that writes it does not add up to nothing. -/
theorem profile_update_keeps_quota_iff {statements : List Statement}
    (found : state.users.lookup userId = some row) (begins : state.phase = .waiting) :
    (∃ after, (run (Updating.step call) state statements).users.lookup userId = some after ∧
      after.quota = row.quota + (statements.map (Statement.delta userId)).sum) ↔
      (userId = call.userId → state.billedMeanwhile call 0 statements = 0) := by
  have since : state.Since call 0 := by simp only [Updating.Since, begins]
  obtain ⟨after, ends, total⟩ := @run_quota call _ _ _ _ statements found since
  constructor
  · rintro ⟨same, there, kept⟩ own
    cases there.symm.trans ends
    omega
  · intro nothing
    refine ⟨after, ends, ?_⟩
    rw [total]
    split
    case isTrue own => rw [nothing own, sub_zero]
    case isFalse => rw [sub_zero]

end

def plainUser : User where
  id := 1
  texts := fun _ => ""
  password := "hash"
  tags := ""
  accessToken := none
  role := 1
  status := 1
  quota := 100
  usedQuota := 0
  requestCount := 0
  affCount := 0
  affQuota := 0
  affHistoryQuota := 0
  inviterId := 0
  distributorCommissionBps := 0
  isDistributor := 0
  isStudent := 0
  studentStatus := 0
  studentApplied := none
  studentApprovedAt := none
  studentApprovedBy := 0
  supplierID := 0
  adminInitialSetupCompleted := true
  createdAt := 0
  createdBy := ""
  lastLoginAt := none
  updatedAt := 0

theorem plainUser_unique : ([plainUser].map User.id).Nodup := List.nodup_singleton 1

def plainTable : Updating := ⟨⟨[plainUser], plainUser_unique⟩, .waiting⟩

def setStudentStatus (user : User) : User := { user with studentStatus := 1 }

theorem setStudentStatus_id (user : User) : (setStudentStatus user).id = user.id := rfl

theorem setStudentStatus_quota (user : User) : (setStudentStatus user).quota = user.quota := rfl

def studentApplication : UpdateCall where
  userId := 1
  edit := ⟨setStudentStatus, setStudentStatus_id, setStudentStatus_quota⟩
  updatePassword := false
  password2Hash := .ok
  newAffCode := "code"
  now := 1

def billedAround : List Statement :=
  [.decreaseUserQuota 1 30, .load, .increaseUserQuota 1 7, .reread none, .decreaseUserQuota 1 7, .save none,
    .increaseUserQuota 1 5]

theorem profile_update_keeps_quota_billedAround :
    ∃ after, (run (Updating.step studentApplication) plainTable billedAround).users.lookup 1 = some after ∧
      after.quota = 75 := by
  have stored : plainTable.users.lookup 1 = some plainUser := rfl
  obtain ⟨after, found, quota⟩ :=
    (@profile_update_keeps_quota_iff studentApplication _ _ _ billedAround stored rfl).mpr
      (by decide +kernel)
  exact ⟨after, found, quota⟩

def billedBetween : List Statement := [.load, .decreaseUserQuota 1 30, .reread none, .save none]

/-- The 30 units are given back. -/
theorem profile_update_loses_quota :
    ∃ after, (run (Updating.step studentApplication) plainTable billedBetween).users.lookup 1 = some after ∧
      after.quota = 100 ∧ plainUser.quota + (billedBetween.map (Statement.delta 1)).sum = 70 := by
  refine ⟨_, rfl, ?_⟩
  decide +kernel

end TokenFactory.Profile
