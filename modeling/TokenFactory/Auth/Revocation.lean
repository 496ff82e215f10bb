import TokenFactory.Auth.Accounts
import TokenFactory.Data.Run

namespace TokenFactory.Auth

open Data Go

/-! Sessions and `authHelper` of `middleware/auth.go`. -/

structure Session where
  id : Int
  username : String
  role : Int
  status : Int
  group : String
deriving DecidableEq

def setupLogin (user : Account) : Session := ⟨user.id, user.username, user.role, user.status, user.group⟩

/-- `newApiUser` is the header of that name, if it is there, and its number, if it
is one. -/
structure Request where
  session : Option Session
  authorization : String
  newApiUser : Option (Option Int)
deriving DecidableEq

structure Identity where
  id : Int
  username : String
  role : Int
  status : Int
  useAccessToken : Bool
deriving DecidableEq

structure AuthError where
  statusCode : Nat
  message : String
deriving DecidableEq

def validUserInfo (username : String) (role : Int) : Bool :=
  if trimSpace username = "" then false else Role.isValidateRole role

/-- `ValidateAccessToken`: the query does not see deleted rows. -/
def validateAccessToken (accounts : Accounts) (token : String) : Option Account :=
  if token = "" then none
  else
    let token := String.ofList (removeFirst "Bearer ".toList token.toList)
    accounts.rows.find? fun account => account.accessToken = some token && !account.deleted

def identify (accounts : Accounts) (request : Request) : Except AuthError Identity :=
  match request.session with
  | some session => .ok ⟨session.id, session.username, session.role, session.status, false⟩
  | none =>
    if request.authorization = "" then .error ⟨401, "无权进行此操作，未登录且未提供 access token"⟩
    else
      match validateAccessToken accounts request.authorization with
      | none => .error ⟨200, "无权进行此操作，access token 无效"⟩
      | some user =>
        if user.username = "" then .error ⟨200, "无权进行此操作，access token 无效"⟩
        else if !validUserInfo user.username user.role then
          .error ⟨200, "无权进行此操作，用户信息无效"⟩
        else .ok ⟨user.id, user.username, user.role, user.status, true⟩

def authorize (identity : Identity) (newApiUser : Option (Option Int)) (minRole : Int) :
    Except AuthError Identity :=
  match newApiUser with
  | none => .error ⟨401, "无权进行此操作，未提供 New-Api-User"⟩
  | some none => .error ⟨401, "无权进行此操作，New-Api-User 格式错误"⟩
  | some (some apiUserId) =>
    if identity.id ≠ apiUserId then .error ⟨401, "无权进行此操作，New-Api-User 与登录用户不匹配"⟩
    else if identity.status = UserStatus.disabled then .error ⟨200, "用户已被封禁"⟩
    else if identity.role < minRole then .error ⟨200, "无权进行此操作，权限不足"⟩
    else if !validUserInfo identity.username identity.role then
      .error ⟨200, "无权进行此操作，用户信息无效"⟩
    else .ok identity

def authHelper (accounts : Accounts) (request : Request) (minRole : Int) : Except AuthError Identity :=
  match identify accounts request with
  | .error error => .error error
  | .ok identity => authorize identity request.newApiUser minRole

/-- A cookie that was handed out. `current` is not part of it: it says that since
the login no action has changed the rights of the account. -/
structure Issued where
  session : Session
  current : Bool
deriving DecidableEq

structure World where
  accounts : Accounts
  issued : List Issued

inductive Event where
  | login (id : Int)
  | manage (myRole id : Int) (action : ManageAction)
  | delete (myRole id : Int)
deriving DecidableEq

def Accounts.rights (accounts : Accounts) (id : Int) : Option (Int × Int) :=
  (accounts.live? id).map fun account => (account.role, account.status)

def World.administer (world : World) (after : Accounts) : World where
  accounts := after
  issued := world.issued.map fun issued => { issued with
    current := issued.current && after.rights issued.session.id = world.accounts.rights issued.session.id }

def World.step (world : World) : Event → World
  | .login id =>
    match world.accounts.live? id with
    | none => world
    | some user => { world with issued := world.issued ++ [⟨setupLogin user, true⟩] }
  | .manage myRole id action => world.administer (manageUser world.accounts myRole id action).2
  | .delete myRole id => world.administer (deleteUser world.accounts myRole id).2

def World.start (accounts : Accounts) : World := ⟨accounts, []⟩

def Accounts.Entitled (accounts : Accounts) (id minRole : Int) : Prop :=
  ∃ account ∈ accounts.live? id, account.status ≠ UserStatus.disabled ∧ minRole ≤ account.role

instance (accounts : Accounts) (id minRole : Int) : Decidable (accounts.Entitled id minRole) :=
  inferInstanceAs (Decidable (∃ account ∈ accounts.live? id, _))

/-- A request with the cookie of a login after which the rights of its account have
not changed, or with an access token. -/
def World.Carries (world : World) (request : Request) : Prop :=
  ∀ session ∈ request.session, ⟨session, true⟩ ∈ world.issued

instance (world : World) (request : Request) : Decidable (world.Carries request) :=
  inferInstanceAs (Decidable (∀ session ∈ request.session, _))

theorem authorize_ok {identity passed : Identity} {newApiUser : Option (Option Int)} {minRole : Int}
    (authorized : authorize identity newApiUser minRole = .ok passed) :
    passed = identity ∧ identity.status ≠ UserStatus.disabled ∧ minRole ≤ identity.role := by
  unfold authorize at authorized
  split at authorized
  · cases authorized
  · cases authorized
  split_ifs at authorized with mismatched disabled low invalid
  cases authorized
  exact ⟨rfl, disabled, by omega⟩

theorem validateAccessToken_live {accounts : Accounts} {token : String} {user : Account}
    (found : validateAccessToken accounts token = some user) : accounts.live? user.id = some user := by
  unfold validateAccessToken at found
  split at found
  · cases found
  · have member : user ∈ accounts := List.mem_of_find?_eq_some found
    have kept := List.find?_some found
    simp only [Bool.and_eq_true] at kept
    rw [Accounts.live?, Table.lookup_eq_some.mpr ⟨member, rfl⟩, Option.filter_some, if_pos kept.2]

theorem identify_ok {accounts : Accounts} {request : Request} {identity : Identity}
    (identified : identify accounts request = .ok identity) :
    (∃ session, request.session = some session ∧ identity.id = session.id ∧
        identity.role = session.role ∧ identity.status = session.status) ∨
      (request.session = none ∧ ∃ user, accounts.live? identity.id = some user ∧
        identity.role = user.role ∧ identity.status = user.status) := by
  unfold identify at identified
  cases carried : request.session with
  | some session =>
    simp only [carried] at identified
    cases identified
    exact .inl ⟨session, rfl, rfl, rfl, rfl⟩
  | none =>
    simp only [carried] at identified
    split at identified
    · cases identified
    cases found : validateAccessToken accounts request.authorization with
    | none => simp [found] at identified
    | some user =>
      simp only [found] at identified
      split_ifs at identified
      cases identified
      exact .inr ⟨rfl, user, validateAccessToken_live found, rfl, rfl⟩

/-- Every current session agrees with the account it was made for. -/
def World.Agrees (world : World) : Prop :=
  ∀ issued ∈ world.issued, issued.current = true →
    world.accounts.rights issued.session.id = some (issued.session.role, issued.session.status)

theorem live_id {accounts : Accounts} {id : Int} {user : Account} (found : accounts.live? id = some user) :
    user.id = id :=
  Table.key_of_lookup (Option.filter_eq_some_iff.mp found).1

theorem administer_preserves_agrees {world : World} (after : Accounts) (agrees : world.Agrees) :
    (world.administer after).Agrees := by
  intro issued member current
  obtain ⟨earlier, present, rfl⟩ := List.mem_map.mp member
  simp only [Bool.and_eq_true, decide_eq_true_eq] at current
  rw [show (world.administer after).accounts = after from rfl, current.2]
  exact agrees earlier present current.1

theorem step_preserves_agrees (world : World) (event : Event) (agrees : world.Agrees) :
    (world.step event).Agrees := by
  cases event with
  | login id =>
    simp only [World.step]
    cases found : world.accounts.live? id with
    | none => exact agrees
    | some user =>
      intro issued member current
      rcases List.mem_append.mp member with earlier | new
      · exact agrees issued earlier current
      · rw [List.mem_singleton.mp new, setupLogin]
        have own := live_id found
        subst own
        simp only [Accounts.rights, found, Option.map_some]
  | manage myRole id action => exact administer_preserves_agrees _ agrees
  | delete myRole id => exact administer_preserves_agrees _ agrees

/-- In every history, a request that passes with an access token, or with the cookie
of a login after which the rights of the account have not changed, is a request of
a user who has the rights at that moment. -/
theorem revoked_rights_end (accounts : Accounts) (events : List Event) (request : Request) (minRole : Int)
    (identity : Identity) (carries : (run World.step (.start accounts) events).Carries request)
    (passed : authHelper (run World.step (.start accounts) events).accounts request minRole = .ok identity) :
    (run World.step (.start accounts) events).accounts.Entitled identity.id minRole := by
  have agrees : (run World.step (.start accounts) events).Agrees :=
    run_invariant step_preserves_agrees (fun _ member => absurd member List.not_mem_nil) events
  generalize run World.step (.start accounts) events = world at *
  unfold authHelper at passed
  cases identified : identify world.accounts request with
  | error error => simp [identified] at passed
  | ok known =>
    simp only [identified] at passed
    obtain ⟨rfl, enabled, high⟩ := authorize_ok passed
    rcases identify_ok identified with ⟨session, carried, same, role, status⟩ | ⟨_, user, found, role, status⟩
    · have stored := agrees ⟨session, true⟩ (carries session carried) rfl
      obtain ⟨account, found, rights⟩ := Option.map_eq_some_iff.mp stored
      obtain ⟨ownRole, ownStatus⟩ := Prod.mk.inj rights
      rw [same]
      refine ⟨account, found, ?_, ?_⟩
      · rw [ownStatus, ← status]
        exact enabled
      · rw [ownRole, ← role]
        exact high
    · exact ⟨user, found, status ▸ enabled, role ▸ high⟩

/-! An administrator who logs in once. -/

def administrator : Account where
  id := 7
  username := "admin"
  role := Role.adminUser
  status := UserStatus.enabled
  group := "default"
  accessToken := some "token"
  isDistributor := false
  isStudent := false
  studentStatus := .none
  deleted := false

def oneAdministrator : Accounts := ⟨[administrator], by decide⟩

def withCookie : Request := ⟨some (setupLogin administrator), "", some (some 7)⟩

theorem revoked_rights_end_after_login :
    (run World.step (.start oneAdministrator) [.manage 100 7 .disable, .manage 100 7 .enable,
      .login 7]).accounts.Entitled 7 Role.adminUser :=
  revoked_rights_end oneAdministrator [.manage 100 7 .disable, .manage 100 7 .enable, .login 7] withCookie
    Role.adminUser ⟨7, "admin", 10, 1, false⟩ (by decide +kernel) (by decide +kernel)

def OutlivedBy (action : ManageAction) : Prop :=
  let world := run World.step (.start oneAdministrator) [.login 7, .manage 100 7 action]
  world.issued = [⟨setupLogin administrator, false⟩] ∧
    authHelper world.accounts withCookie Role.adminUser = .ok ⟨7, "admin", 10, 1, false⟩ ∧
    ¬ world.accounts.Entitled 7 Role.adminUser

/-- The cookie of an earlier login outlives a demotion, a ban and the account. -/
theorem revoked_rights_outlived :
    OutlivedBy .demote ∧ OutlivedBy .disable ∧ OutlivedBy .delete := by
  unfold OutlivedBy
  decide +kernel

end TokenFactory.Auth
