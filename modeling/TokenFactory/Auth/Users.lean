import TokenFactory.Auth.Accounts

namespace TokenFactory.Auth

open Data Go

/-! The users, and the requests of an administrator about them: `controller/user.go`,
`AdminResetPasskey` and `AdminDisable2FA`.

A request is handled in one step. The answer is the text of the response, or that of the
refusal. Logs, notifications and the Redis copy of a user are left out. -/

/-- A row of `users`: the account, and what else an administrator can change of it. -/
structure User where
  account : Account
  password : String
  displayName : String
  email : String
  phone : String
  githubId : String
  discordId : String
  oidcId : String
  wechatId : String
  telegramId : String
  linuxDOId : String
  quota : Int
  remark : String
  tags : String
deriving DecidableEq

namespace User

def id (user : User) : Int := user.account.id

def role (user : User) : Int := user.account.role

def unfilled (id : Int) : User := ⟨.unfilled id, "", "", "", "", "", "", "", "", "", "", 0, "", ""⟩

def removed (user : User) : User := { user with account := { user.account with deleted := true } }

def increase (amount : Int) (user : User) : User := { user with quota := user.quota + amount }

theorem increase_id (amount : Int) (user : User) : (user.increase amount).id = user.id := rfl

end User

structure TwoFA where
  userId : Int
  secret : String
  isEnabled : Bool
deriving DecidableEq

structure BackupCode where
  userId : Int
  codeHash : String
  isUsed : Bool
deriving DecidableEq

structure Passkey where
  userId : Int
  credentialId : String
  publicKey : String
deriving DecidableEq

structure Directory where
  users : Table User.id
  twoFAs : Table TwoFA.userId
  backupCodes : List BackupCode
  passkeys : Table Passkey.userId

/-- The body of a request about a user; a field that is not sent has its zero value. -/
structure UserForm where
  id : Int := 0
  username : String := ""
  password : String := ""
  displayName : String := ""
  role : Int := 0
  isDistributor : Bool := false
  quota : Int := 0
  group : String := ""
  remark : String := ""
  phone : String := ""
  email : String := ""
  tags : String := ""
deriving DecidableEq

namespace UserForm

def trimmed (form : UserForm) : UserForm :=
  { form with username := trimSpace form.username, email := trimSpace form.email }

/-- The default of the display name, and the former role of distributors. -/
def completed (form : UserForm) : UserForm :=
  let form := if form.displayName = "" then { form with displayName := form.username } else form
  if form.role = Role.distributorUser then { form with role := Role.commonUser, isDistributor := true } else form

/-- An empty password is replaced by a text that passes the validator. -/
def withPassword (form : UserForm) : UserForm :=
  if form.password = "" then { form with password := "$I_LOVE_U" } else form

def withoutPassword (form : UserForm) : UserForm :=
  if form.password = "$I_LOVE_U" then { form with password := "" } else form

end UserForm

structure ManageForm where
  id : Int
  action : String
  rewardQuota : Int
deriving DecidableEq

/-- The settings, and what other parts answer: the validator about a body, and the
database about a row it is to write. -/
structure Policy where
  quotaForNewUser : Int
  studentApprovalRewardQuota : Int
  smsPhoneBlacklist : List String
  password2Hash : String → Except Refusal String
  inputInvalid : UserForm → Option Refusal
  validEmail : String → Bool
  atoiError : String → Refusal
  databaseError : Directory → User → Option Refusal

def normalizePhone (phone : String) : String :=
  let chars := (trimSpace phone).toList.filter fun char => char ∉ [' ', '-', '(', ')']
  if "+86".toList.isPrefixOf chars then String.ofList (chars.drop 3)
  else if "0086".toList.isPrefixOf chars then String.ofList (chars.drop 4)
  else if (String.ofList chars).utf8ByteSize = 13 ∧ "86".toList.isPrefixOf chars then
    String.ofList (chars.drop 2)
  else String.ofList chars

def isDigit (char : Char) : Bool := '0' ≤ char && char ≤ '9'

def validateMainlandChinaPhone (phone : String) : Bool :=
  match (normalizePhone phone).toList with
  | '1' :: second :: rest => '3' ≤ second && second ≤ '9' && rest.length = 9 && rest.all isDigit
  | _ => false

namespace Directory

variable (policy : Policy) (directory : Directory)

def taken (column : User → String) (value : String) (excludeUserId : Int) : Bool :=
  directory.users.rows.any fun user =>
    column user = value && !user.account.deleted && (excludeUserId = 0 || user.id ≠ excludeUserId)

def normalizeAndValidateAdminUserPhone (phone : String) (excludeUserId : Int) : Except Refusal String :=
  let phone := normalizePhone phone
  if phone = "" then .ok ""
  else if ¬ validateMainlandChinaPhone phone then .error "手机号格式无效，请输入 11 位中国大陆手机号"
  else if policy.smsPhoneBlacklist.any fun blocked => normalizePhone blocked = normalizePhone phone then
    .error "该手机号已被加入短信黑名单"
  else if normalizePhone phone ≠ "" ∧ directory.taken User.phone (normalizePhone phone) excludeUserId then
    .error "手机号已被占用"
  else .ok phone

def normalizeAndValidateAdminUserEmail (email : String) (excludeUserId : Int) : Except Refusal String :=
  let email := trimSpace email
  if email = "" then .ok ""
  else if ¬ policy.validEmail email then .error "邮箱格式无效"
  else if directory.taken User.email email excludeUserId then .error "邮箱已被占用"
  else .ok email

def lower (text : String) : String := String.ofList (text.toList.map Char.toLower)

def isPhoneUniqueConstraintError (error : Refusal) : Bool :=
  (contains (lower error) "duplicate" || contains (lower error) "unique constraint") &&
    contains (lower error) "phone"

def refusedWrite (error : Refusal) : Refusal :=
  if isPhoneUniqueConstraintError error then "手机号已被占用" else error

/-- `GetUserById`, and `FillUserById`, which read the same row. -/
def getUserById (id : Int) : Except Refusal User :=
  if id = 0 then .error "id 为空！"
  else
    match (directory.users.lookup id).filter fun user => !user.account.deleted with
    | none => .error "record not found"
    | some user => .ok user

def load (id : Int) : Option User :=
  if id = 0 then directory.users.rows.head? else some ((directory.users.lookup id).getD (.unfilled id))

abbrev Outcome := Except Refusal String × Directory

def refuse (refusal : Refusal) : Outcome := (.error refusal, directory)

/-- `User.Edit`; the role and the status are not among the columns it writes. -/
def edit (form : UserForm) (origin : User) : Outcome :=
  match if form.password = "" then .ok origin.password else policy.password2Hash form.password with
  | .error refusal => directory.refuse refusal
  | .ok password =>
    match directory.normalizeAndValidateAdminUserPhone policy form.phone form.id with
    | .error refusal => directory.refuse refusal
    | .ok phone =>
      match directory.normalizeAndValidateAdminUserEmail policy form.email form.id with
      | .error refusal => directory.refuse refusal
      | .ok email =>
        let edited := { origin with
          account := { origin.account with username := form.username, group := form.group }
          displayName := form.displayName
          quota := form.quota
          remark := form.remark
          tags := form.tags
          phone, email, password }
        match policy.databaseError directory edited with
        | some error => directory.refuse (refusedWrite error)
        | none => (.ok "", { directory with users := directory.users.save edited })

def updateUser (myRole : Int) (body : Option UserForm) : Outcome :=
  match body with
  | none => directory.refuse "common.invalid_params"
  | some form =>
    if form.id = 0 then directory.refuse "common.invalid_params"
    else
      let form := form.withPassword
      match policy.inputInvalid form with
      | some refusal => directory.refuse refusal
      | none =>
        match directory.getUserById form.id with
        | .error refusal => directory.refuse refusal
        | .ok origin =>
          if myRole ≤ origin.role ∧ myRole ≠ Role.rootUser then
            directory.refuse "user.no_permission_higher_level"
          else if myRole ≤ form.role ∧ myRole ≠ Role.rootUser then
            directory.refuse "user.cannot_create_higher_level"
          else directory.edit policy form.withoutPassword origin

/-- `User.Insert`: a zero role is left to the default of its column. The id is that of an
auto-increment column. -/
def insert (newId : Int) (form : UserForm) (phone email : String) : Outcome :=
  match policy.password2Hash form.password with
  | .error refusal => directory.refuse refusal
  | .ok password =>
    let created : User := { User.unfilled newId with
      account := { Account.unfilled newId with
        username := form.username
        role := if form.role = 0 then Role.commonUser else form.role
        status := UserStatus.enabled
        group := "default"
        isDistributor := form.isDistributor }
      displayName := form.displayName
      quota := policy.quotaForNewUser
      remark := form.remark
      phone, email, password }
    match policy.databaseError directory created with
    | some error => directory.refuse (refusedWrite error)
    | none => (.ok "", { directory with users := directory.users.insert created })

def createUser (myRole : Int) (newId : Int) (body : Option UserForm) : Outcome :=
  match body with
  | none => directory.refuse "common.invalid_params"
  | some form =>
    let form := form.trimmed
    if form.username = "" ∨ form.password = "" then directory.refuse "common.invalid_params"
    else
      match policy.inputInvalid form with
      | some refusal => directory.refuse refusal
      | none =>
        let form := form.completed
        if form.role ≥ myRole then directory.refuse "user.cannot_create_higher_level"
        else
          match directory.normalizeAndValidateAdminUserPhone policy form.phone 0 with
          | .error refusal => directory.refuse refusal
          | .ok phone =>
            match directory.normalizeAndValidateAdminUserEmail policy form.email 0 with
            | .error refusal => directory.refuse refusal
            | .ok email => directory.insert policy newId form phone email

def manageAction (action : String) : ManageAction :=
  match action with
  | "disable" => .disable
  | "enable" => .enable
  | "delete" => .delete
  | "promote" => .promote
  | "demote" => .demote
  | "set_distributor" => .setDistributor
  | "unset_distributor" => .unsetDistributor
  | "approve_student" => .approveStudent
  | "reject_student" => .rejectStudent
  | "unset_student" => .unsetStudent
  | "set_student" => .setStudent
  | _ => .unknown

def update (user : User) : Except Refusal Unit × Directory :=
  if user.id = 0 then (.error "user id is empty", directory)
  else
    match (directory.users.lookup user.id).filter fun user => !user.account.deleted with
    | none => (.error "record not found", directory)
    | some _ => (.ok (), { directory with users := directory.users.save user })

def rewardQuota (action : ManageAction) (requested : Int) : Int :=
  if action = .approveStudent ∨ action = .setStudent then
    if requested > 0 then requested else policy.studentApprovalRewardQuota
  else 0

def reward (action : ManageAction) (requested id : Int) : Directory :=
  if rewardQuota policy action requested > 0 then
    { directory with
      users := directory.users.modify id (User.increase (rewardQuota policy action requested))
        (User.increase_id _) }
  else directory

def finish (form : ManageForm) (user : User) : Outcome :=
  match directory.update user with
  | (.error refusal, directory) => directory.refuse refusal
  | (.ok (), directory) =>
    (.ok "", directory.reward policy (manageAction form.action) form.rewardQuota user.id)

def manageUser (myRole : Int) (body : Option ManageForm) : Outcome :=
  match body with
  | none => directory.refuse "common.invalid_params"
  | some form =>
    match directory.load form.id with
    | none => directory.refuse "user.not_exists"
    | some user =>
      if user.id = 0 then directory.refuse "user.not_exists"
      else if myRole ≤ user.role ∧ myRole ≠ Role.rootUser then
        directory.refuse "user.no_permission_higher_level"
      else if manageAction form.action = .delete then
        if user.role = Role.rootUser then directory.refuse "user.cannot_delete_root_user"
        else
          finish policy { directory with users := directory.users.save user.removed } form user.removed
      else
        match user.account.managed myRole (manageAction form.action) with
        | .error refusal => directory.refuse refusal
        | .ok account => directory.finish policy form { user with account }

def deleteUser (myRole : Int) (id : String) : Outcome :=
  match atoi id with
  | none => directory.refuse (policy.atoiError id)
  | some id =>
    match directory.getUserById id with
    | .error refusal => directory.refuse refusal
    | .ok origin =>
      if myRole ≤ origin.role then directory.refuse "user.no_permission_higher_level"
      else (.ok "", { directory with users := directory.users.restrict fun user => user.id ≠ id })

def clearBinding (bindingType : String) (user : User) : Option User :=
  match bindingType with
  | "email" => some { user with email := "" }
  | "github" => some { user with githubId := "" }
  | "discord" => some { user with discordId := "" }
  | "oidc" => some { user with oidcId := "" }
  | "wechat" => some { user with wechatId := "" }
  | "telegram" => some { user with telegramId := "" }
  | "linuxdo" => some { user with linuxDOId := "" }
  | _ => none

def adminClearUserBinding (myRole : Int) (id bindingType : String) : Outcome :=
  match atoi id with
  | none => directory.refuse "common.invalid_params"
  | some id =>
    let bindingType := lower (trimSpace bindingType)
    if bindingType = "" then directory.refuse "common.invalid_params"
    else
      match directory.getUserById id with
      | .error refusal => directory.refuse refusal
      | .ok user =>
        if myRole ≤ user.role ∧ myRole ≠ Role.rootUser then
          directory.refuse "user.no_permission_same_level"
        else
          match clearBinding bindingType user with
          | none => directory.refuse "invalid binding type"
          | some cleared => (.ok "success", { directory with users := directory.users.save cleared })

/-- The setting goes together with its backup codes. -/
def adminDisable2FA (myRole : Int) (id : String) : Outcome :=
  match atoi id with
  | none => directory.refuse "用户ID格式错误"
  | some id =>
    match directory.getUserById id with
    | .error refusal => directory.refuse refusal
    | .ok target =>
      if myRole ≤ target.role ∧ myRole ≠ Role.rootUser then
        directory.refuse "无权操作同级或更高级用户的2FA设置"
      else
        match directory.twoFAs.lookup id with
        | none => directory.refuse "用户未启用2FA"
        | some _ =>
          (.ok "用户2FA已被强制禁用", { directory with
            twoFAs := directory.twoFAs.restrict fun row => row.userId ≠ id
            backupCodes := directory.backupCodes.filter fun code => code.userId ≠ id })

/-- The role of the target is not looked at. -/
def adminResetPasskey (id : String) : Outcome :=
  match atoi id with
  | none => directory.refuse "无效的用户 ID"
  | some id =>
    match directory.getUserById id with
    | .error refusal => directory.refuse refusal
    | .ok user =>
      match directory.passkeys.lookup user.id with
      | none => directory.refuse "该用户尚未绑定 Passkey"
      | some _ =>
        (.ok "Passkey 已重置", { directory with
          passkeys := directory.passkeys.restrict fun row => row.userId ≠ user.id })

inductive Request where
  | updateUser (body : Option UserForm)
  | manageUser (body : Option ManageForm)
  | createUser (newId : Int) (body : Option UserForm)
  | deleteUser (id : String)
  | adminClearUserBinding (id bindingType : String)
  | adminDisable2FA (id : String)
  | adminResetPasskey (id : String)
deriving DecidableEq

/-- A request of a user with the role `myRole`; `AdminAuth` comes first. -/
def handle (myRole : Int) (request : Request) : Outcome :=
  if myRole < Role.adminUser then directory.refuse "无权进行此操作，权限不足"
  else
    match request with
    | .updateUser body => directory.updateUser policy myRole body
    | .manageUser body => directory.manageUser policy myRole body
    | .createUser newId body => directory.createUser policy myRole newId body
    | .deleteUser id => directory.deleteUser policy myRole id
    | .adminClearUserBinding id bindingType => directory.adminClearUserBinding myRole id bindingType
    | .adminDisable2FA id => directory.adminDisable2FA myRole id
    | .adminResetPasskey id => directory.adminResetPasskey id

def accounts : Accounts := directory.users.project User.account fun _ => rfl

section
variable {policy directory}

theorem accounts_lookup (id : Int) :
    directory.accounts.lookup id = (directory.users.lookup id).map User.account :=
  Table.lookup_project

theorem accounts_live (id : Int) : directory.accounts.live? id =
      ((directory.users.lookup id).filter fun user => !user.account.deleted).map User.account := by
  rw [Accounts.live?, accounts_lookup]
  cases directory.users.lookup id with
  | none => rfl
  | some user => cases deleted : user.account.deleted <;> simp [Option.filter, deleted]

theorem accounts_save (user : User) :
    Directory.accounts { directory with users := directory.users.save user } =
      directory.accounts.save user.account :=
  Table.project_save

theorem accounts_load (id : Int) : directory.accounts.load id = (directory.load id).map User.account := by
  unfold Accounts.load Directory.load
  split
  · exact List.head?_map
  · rw [accounts_lookup]
    cases directory.users.lookup id <;> rfl

theorem accounts_reward (action : ManageAction) (requested id : Int) :
    (directory.reward policy action requested id).accounts = directory.accounts := by
  unfold reward
  split
  · simp only [accounts, Table.project, Table.modify, Table.update, List.map_map, Table.mk.injEq]
    refine List.map_congr_left fun user _ => ?_
    simp only [Function.comp_apply]
    split <;> rfl
  · rfl

def seen (outcome : Outcome) : Except Refusal Unit × Accounts :=
  (outcome.1.map fun _ => (), outcome.2.accounts)

theorem seen_finish (form : ManageForm) (user : User) :
    seen (directory.finish policy form user) = Accounts.update directory.accounts user.account := by
  have same : user.account.id = user.id := rfl
  unfold finish update Accounts.update
  rw [same, accounts_live]
  by_cases zero : user.id = 0
  · rw [if_pos zero, if_pos zero]
    rfl
  · rw [if_neg zero, if_neg zero]
    cases (directory.users.lookup user.id).filter fun user => !user.account.deleted with
    | none => rfl
    | some held =>
      dsimp only [seen, Option.map_some]
      rw [accounts_reward, accounts_save]
      rfl

theorem seen_manageUser (myRole : Int) (form : ManageForm) :
    seen (directory.manageUser policy myRole (some form)) =
      Auth.manageUser directory.accounts myRole form.id (manageAction form.action) := by
  unfold manageUser Auth.manageUser
  dsimp only
  rw [accounts_load]
  cases directory.load form.id with
  | none => rfl
  | some user =>
    have same : user.account.id = user.id ∧ user.account.role = user.role := ⟨rfl, rfl⟩
    dsimp only [Option.map_some]
    rw [same.1, same.2]
    split
    · rfl
    split
    · rfl
    split
    · split
      · rfl
      · rw [seen_finish, accounts_save]
        rfl
    · cases user.account.managed myRole (manageAction form.action) with
      | error refusal => rfl
      | ok account => exact seen_finish form { user with account }

end

end Directory

end TokenFactory.Auth
