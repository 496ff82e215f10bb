import TokenFactory.Data.Table
import TokenFactory.Go.Text

namespace TokenFactory.Auth

open Data Go

/-! The accounts and what `ManageUser` and `DeleteUser` of `controller/user.go` do to
them. A message key or text is the answer of a refused action.

An action reads the row and writes it back in one step here. Quotas, rewards,
notifications and the Redis copy of an account are left out. -/

namespace Role

def guestUser : Int := 0
def commonUser : Int := 1
def distributorUser : Int := 5
def adminUser : Int := 10
def rootUser : Int := 100

def isValidateRole (role : Int) : Bool :=
  role = guestUser || role = commonUser || role = distributorUser || role = adminUser || role = rootUser

end Role

namespace UserStatus

def enabled : Int := 1
def disabled : Int := 2

end UserStatus

inductive StudentStatus where
  | none
  | pending
  | approved
  | rejected
deriving DecidableEq

/-- `deleted` is the soft delete: most queries do not see the row any more. -/
structure Account where
  id : Int
  username : String
  role : Int
  status : Int
  group : String
  accessToken : Option String
  isDistributor : Bool
  isStudent : Bool
  studentStatus : StudentStatus
  deleted : Bool
deriving DecidableEq

abbrev Accounts := Table Account.id

def Accounts.live? (accounts : Accounts) (id : Int) : Option Account :=
  (accounts.lookup id).filter fun account => !account.deleted

inductive ManageAction where
  | disable
  | enable
  | delete
  | promote
  | demote
  | setDistributor
  | unsetDistributor
  | approveStudent
  | rejectStudent
  | unsetStudent
  | setStudent
  | unknown
deriving DecidableEq

abbrev Refusal := String

namespace Account

section
variable (user : Account)

def userIsDistributor : Bool :=
  if user.role ≥ Role.adminUser then false
  else if user.role = Role.distributorUser then true
  else user.isDistributor

def isApprovedStudent : Bool := user.isStudent && user.studentStatus = .approved

def ordinary (myRole : Int) (refused : Refusal) : Option Refusal :=
  if myRole ≠ Role.adminUser ∧ myRole ≠ Role.rootUser then some "user.no_permission_higher_level"
  else if user.role ≥ Role.adminUser then some refused
  else none

def promoted : Account := { user with role := Role.adminUser, isDistributor := false }

def demoted : Account := { user with role := Role.commonUser, isDistributor := false }

def approved : Account := { user with isStudent := true, studentStatus := .approved }

def promote (myRole : Int) : Except Refusal Account :=
  if user.role = Role.commonUser then
    if myRole ≠ Role.rootUser then
      .error "仅超级管理员可提升为管理员；为普通用户开通分销请使用「设为分销商」"
    else .ok user.promoted
  else if user.role = Role.distributorUser then
    if myRole ≠ Role.rootUser then .error "user.admin_cannot_promote" else .ok user.promoted
  else if user.role = Role.adminUser ∨ user.role = Role.rootUser then
    .error "user.cannot_promote_further"
  else .error "common.invalid_params"

def demote (myRole : Int) : Except Refusal Account :=
  if user.role = Role.rootUser then .error "user.cannot_demote_root_user"
  else if user.role = Role.adminUser then
    if myRole ≠ Role.rootUser then .error "user.no_permission_higher_level" else .ok user.demoted
  else if user.role = Role.distributorUser then .ok user.demoted
  else if user.role = Role.commonUser then .error "已是普通用户；取消分销资格请使用「取消分销商」"
  else .error "common.invalid_params"

def managed (myRole : Int) : ManageAction → Except Refusal Account
  | .disable =>
    if user.role = Role.rootUser then .error "user.cannot_disable_root_user"
    else .ok { user with status := UserStatus.disabled }
  | .enable => .ok { user with status := UserStatus.enabled }
  | .delete => .ok user
  | .promote => user.promote myRole
  | .demote => user.demote myRole
  | .setDistributor =>
    match user.ordinary myRole "管理员账号无需开通分销商" with
    | some refusal => .error refusal
    | none =>
      if user.userIsDistributor then .error "该用户已是分销商"
      else .ok { user with isDistributor := true }
  | .unsetDistributor =>
    match user.ordinary myRole "管理员账号无分销商标记" with
    | some refusal => .error refusal
    | none =>
      if !user.userIsDistributor then .error "该用户不是分销商"
      else .ok { user with isDistributor := false }
  | .approveStudent =>
    match user.ordinary myRole "管理员账号不支持学员审批" with
    | some refusal => .error refusal
    | none => if user.isApprovedStudent then .error "该用户已经是学员" else .ok user.approved
  | .rejectStudent =>
    match user.ordinary myRole "管理员账号不支持学员审批" with
    | some refusal => .error refusal
    | none =>
      if user.studentStatus ≠ .pending then .error "该用户当前不在待审批状态"
      else .ok { user with isStudent := false, studentStatus := .rejected }
  | .unsetStudent =>
    match user.ordinary myRole "管理员账号不支持学员身份操作" with
    | some refusal => .error refusal
    | none =>
      if !user.isApprovedStudent then .error "该用户不是学员"
      else .ok { user with isStudent := false, studentStatus := .none }
  | .setStudent =>
    match user.ordinary myRole "管理员账号不支持学员身份操作" with
    | some refusal => .error refusal
    | none => if user.isApprovedStudent then .error "该用户已经是学员" else .ok user.approved
  | .unknown => .error "common.invalid_params"

end

end Account

/-- An action keeps the id; only root gives the role of an administrator. -/
theorem managed_keeps {user saved : Account} {myRole : Int} {action : ManageAction}
    (managed : user.managed myRole action = .ok saved) :
    saved.id = user.id ∧
      (myRole = Role.rootUser ∨ saved.role = user.role ∨ saved.role = Role.commonUser) := by
  cases action with
  | disable =>
    simp only [Account.managed] at managed
    split at managed <;> cases managed
    exact ⟨rfl, .inr (.inl rfl)⟩
  | enable | delete =>
    cases managed
    exact ⟨rfl, .inr (.inl rfl)⟩
  | promote =>
    simp only [Account.managed, Account.promote] at managed
    split_ifs at managed with _ root _ root <;> cases managed <;> exact ⟨rfl, .inl (not_not.mp root)⟩
  | demote =>
    simp only [Account.managed, Account.demote] at managed
    split_ifs at managed <;> cases managed <;> exact ⟨rfl, .inr (.inr rfl)⟩
  | setDistributor | unsetDistributor | approveStudent | rejectStudent | unsetStudent | setStudent =>
    simp only [Account.managed] at managed
    split at managed
    · cases managed
    · split at managed <;> cases managed
      exact ⟨rfl, .inr (.inl rfl)⟩
  | unknown => cases managed

/-- What is left of a row that is not found: the id that was asked for. -/
def Account.unfilled (id : Int) : Account where
  id
  username := ""
  role := 0
  status := 0
  group := ""
  accessToken := none
  isDistributor := false
  isStudent := false
  studentStatus := .none
  deleted := false

/-- The row that `ManageUser` loads, deleted rows included. A zero id is no condition for
the query, which then finds the first row. The error of the query is not looked at. -/
def Accounts.load (accounts : Accounts) (id : Int) : Option Account :=
  if id = 0 then accounts.rows.head? else some ((accounts.lookup id).getD (.unfilled id))

/-- `User.Update` saves the row, unless the row in the table is deleted. -/
def Accounts.update (accounts : Accounts) (user : Account) : Except Refusal Unit × Accounts :=
  if user.id = 0 then (.error "user id is empty", accounts)
  else
    match accounts.live? user.id with
    | none => (.error "record not found", accounts)
    | some _ => (.ok (), accounts.save user)

/-- After a delete the account is saved again, which fails because the row is
deleted by then: the action takes effect and answers with an error. -/
def manageUser (accounts : Accounts) (myRole id : Int) (action : ManageAction) :
    Except Refusal Unit × Accounts :=
  match accounts.load id with
  | none => (.error "user.not_exists", accounts)
  | some user =>
    if user.id = 0 then (.error "user.not_exists", accounts)
    else if myRole ≤ user.role ∧ myRole ≠ Role.rootUser then
      (.error "user.no_permission_higher_level", accounts)
    else if action = .delete then
      if user.role = Role.rootUser then (.error "user.cannot_delete_root_user", accounts)
      else
        let deleted := { user with deleted := true }
        Accounts.update (accounts.save deleted) deleted
    else
      match user.managed myRole action with
      | .error refusal => (.error refusal, accounts)
      | .ok saved => Accounts.update accounts saved

def deleteUser (accounts : Accounts) (myRole id : Int) : Except Refusal Unit × Accounts :=
  if id = 0 then (.error "id 为空！", accounts)
  else
    match accounts.live? id with
    | none => (.error "record not found", accounts)
    | some user =>
      if myRole ≤ user.role then (.error "user.no_permission_higher_level", accounts)
      else (.ok (), accounts.restrict fun account => account.id ≠ id)

end TokenFactory.Auth
