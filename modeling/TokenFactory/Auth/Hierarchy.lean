import TokenFactory.Auth.Users
import TokenFactory.Data.Run

namespace TokenFactory.Auth

open Data Go

/-! The hierarchy of the roles: what the requests of one administrator leave alone. -/

structure Holding where
  user : Option User
  twoFA : Option TwoFA
  backupCodes : List BackupCode
  passkey : Option Passkey
deriving DecidableEq

namespace Directory

def holding (directory : Directory) (id : Int) : Holding where
  user := directory.users.lookup id
  twoFA := directory.twoFAs.lookup id
  backupCodes := directory.backupCodes.filter fun code => code.userId = id
  passkey := directory.passkeys.lookup id

/-- There is no user of this id whose role is `myRole` or higher. -/
def Below (myRole : Int) (users : Table User.id) (id : Int) : Prop :=
  ∀ user, users.lookup id = some user → user.role < myRole

/-- Whoever has the role `myRole` or a higher one keeps everything, and nobody new has it. -/
structure Spares (myRole : Int) (before after : Directory) : Prop where
  kept : ∀ id user, before.users.lookup id = some user → myRole ≤ user.role →
    after.holding id = before.holding id
  gained : ∀ id user, after.users.lookup id = some user → myRole ≤ user.role →
    before.users.lookup id = some user

section
variable {myRole : Int} {before after final : Directory} {users : Table User.id} {id : Int}

theorem Spares.refl (directory : Directory) : Spares myRole directory directory :=
  ⟨fun _ _ _ _ => rfl, fun _ _ found _ => found⟩

theorem Spares.trans (first : Spares myRole before after) (second : Spares myRole after final) :
    Spares myRole before final where
  kept := by
    intro id user found high
    have same := first.kept id user found high
    have still : after.users.lookup id = some user := (congrArg Holding.user same).trans found
    exact (second.kept id user still high).trans same
  gained := by
    intro id user found high
    exact first.gained id user (second.gained id user found high) high

theorem spares_users (changes : ∀ id, users.lookup id = before.users.lookup id ∨
      Below myRole before.users id ∧ Below myRole users id) :
    Spares myRole before { before with users } where
  kept := by
    intro id user found high
    rcases changes id with same | ⟨low, _⟩
    · simp only [holding, same]
    · exact absurd (low user found) (not_lt.mpr high)
  gained := by
    intro id user found high
    rcases changes id with same | ⟨_, low⟩
    · exact same ▸ found
    · exact absurd (low user found) (not_lt.mpr high)

theorem below_save {saved : User} (low : saved.role < myRole) :
    Below myRole (users.save saved) saved.id := by
  intro user found
  rcases Table.mem_save.mp (Table.mem_of_lookup found) with ⟨rfl, _⟩ | ⟨_, other⟩
  · exact low
  · exact absurd (Table.key_of_lookup found) other

theorem spares_save {saved : User} (low : saved.role < myRole) (stored : Below myRole before.users saved.id) :
    Spares myRole before { before with users := before.users.save saved } := by
  refine spares_users fun id => ?_
  by_cases own : id = saved.id
  · subst own
    exact .inr ⟨stored, below_save low⟩
  · exact .inl (Table.lookup_save_other own)

theorem spares_insert {created : User} (low : created.role < myRole) :
    Spares myRole before { before with users := before.users.insert created } := by
  refine spares_users fun id => ?_
  by_cases own : id = created.id
  · subst own
    cases found : before.users.lookup created.id with
    | none =>
      refine .inr ⟨fun user other => ?_, fun user other => ?_⟩
      · cases found.symm.trans other
      · cases (Table.lookup_insert_self found).symm.trans other
        exact low
    | some held =>
      have taken : before.users.insert created = before.users := dif_neg (by simp [found])
      rw [taken]
      exact .inl found
  · exact .inl (Table.lookup_insert_other own)

theorem spares_delete (stored : Below myRole before.users id) :
    Spares myRole before { before with users := before.users.restrict fun user => user.id ≠ id } := by
  refine spares_users fun other => ?_
  by_cases own : other = id
  · subst own
    refine .inr ⟨stored, fun user found => ?_⟩
    rw [Table.lookup_restrict] at found
    exact stored user (Option.filter_eq_some_iff.mp found).1
  · exact .inl (Table.lookup_restrict_other own)

theorem spares_reward {policy : Policy} {action : ManageAction} {requested : Int}
    (stored : Below myRole before.users id) :
    Spares myRole before (before.reward policy action requested id) := by
  unfold reward
  split
  · refine spares_users fun other => ?_
    by_cases own : other = id
    · subst own
      refine .inr ⟨stored, fun user found => ?_⟩
      rw [Table.lookup_modify, if_pos rfl, Option.map_eq_some_iff] at found
      obtain ⟨held, kept, rfl⟩ := found
      exact stored held kept
    · refine .inl ?_
      rw [Table.lookup_modify, if_neg own]
  · exact .refl before

theorem spares_others {twoFAs : Table TwoFA.userId} {backupCodes : List BackupCode}
    {passkeys : Table Passkey.userId} (stored : Below myRole before.users id)
    (others : ∀ other, other ≠ id → twoFAs.lookup other = before.twoFAs.lookup other ∧
      backupCodes.filter (fun code => code.userId = other) =
        before.backupCodes.filter (fun code => code.userId = other) ∧
      passkeys.lookup other = before.passkeys.lookup other) :
    Spares myRole before { before with twoFAs, backupCodes, passkeys } where
  kept := by
    intro other user found high
    by_cases own : other = id
    · subst own
      exact absurd (stored user found) (not_lt.mpr high)
    · obtain ⟨sameTwoFA, sameCodes, samePasskey⟩ := others other own
      simp only [holding, sameTwoFA, sameCodes, samePasskey]
  gained := fun _ _ found _ => found

end

section
variable {policy : Policy} {myRole : Int} {directory : Directory}

theorem getUserById_ok {id : Int} {user : User} (found : directory.getUserById id = .ok user) :
    directory.users.lookup id = some user ∧ user.id = id := by
  unfold getUserById at found
  split at found
  · cases found
  · split at found
    · cases found
    · rename_i held stored
      cases found
      have kept := (Option.filter_eq_some_iff.mp stored).1
      exact ⟨kept, Table.key_of_lookup kept⟩

theorem below_of_found {id : Int} {user : User} (found : directory.users.lookup id = some user)
    (low : user.role < myRole) : Below myRole directory.users id := by
  intro other held
  cases found.symm.trans held
  exact low

theorem below_of_load {id : Int} {user : User} (loaded : directory.load id = some user)
    (low : user.role < myRole) : Below myRole directory.users user.id := by
  intro other held
  unfold load at loaded
  split at loaded
  · have member : user ∈ directory.users := List.mem_of_mem_head? loaded
    cases Table.eq_of_key (Table.mem_of_lookup held) member (Table.key_of_lookup held)
    exact low
  · cases found : directory.users.lookup id with
    | none =>
      rw [found] at loaded
      cases Option.some.inj loaded
      cases found.symm.trans held
    | some row =>
      rw [found] at loaded
      cases Option.some.inj loaded
      have same : row.id = id := Table.key_of_lookup found
      rw [Option.getD_some, same, found] at held
      cases held
      exact low

theorem edit_spares {form : UserForm} {origin : User} (found : directory.users.lookup origin.id = some origin)
    (low : origin.role < myRole) : Spares myRole directory (directory.edit policy form origin).2 := by
  unfold edit
  split
  · exact .refl directory
  split
  · exact .refl directory
  split
  · exact .refl directory
  dsimp only
  split
  · exact .refl directory
  · exact spares_save low (below_of_found found low)

theorem updateUser_spares (ordinary : myRole ≠ Role.rootUser) (body : Option UserForm) :
    Spares myRole directory (directory.updateUser policy myRole body).2 := by
  unfold updateUser
  cases body with
  | none => exact .refl directory
  | some form =>
    dsimp only
    split
    · exact .refl directory
    generalize form.withPassword = form
    split
    · exact .refl directory
    cases found : directory.getUserById form.id with
    | error refusal => exact .refl directory
    | ok origin =>
      dsimp only
      split
      · exact .refl directory
      case isFalse checked =>
        split
        · exact .refl directory
        · obtain ⟨stored, own⟩ := getUserById_ok found
          rw [← own] at stored
          exact edit_spares stored (not_le.mp fun high => checked ⟨high, ordinary⟩)

theorem createUser_spares (administrator : Role.adminUser ≤ myRole) (newId : Int) (body : Option UserForm) :
    Spares myRole directory (directory.createUser policy myRole newId body).2 := by
  unfold createUser
  cases body with
  | none => exact .refl directory
  | some form =>
    dsimp only
    generalize form.trimmed = form
    split
    · exact .refl directory
    split
    · exact .refl directory
    generalize form.completed = form
    split
    · exact .refl directory
    case isFalse lower =>
      split
      · exact .refl directory
      split
      · exact .refl directory
      unfold insert
      split
      · exact .refl directory
      dsimp only
      split
      · exact .refl directory
      · refine spares_insert ?_
        have low : form.role < myRole := not_le.mp lower
        have common : Role.commonUser < Role.adminUser := by decide
        split
        · exact common.trans_le administrator
        · exact low

theorem finish_spares {form : ManageForm} {user : User} (low : user.role < myRole)
    (stored : Below myRole directory.users user.id) :
    Spares myRole directory (directory.finish policy form user).2 := by
  unfold finish update
  by_cases zero : user.id = 0
  · rw [if_pos zero]
    exact .refl directory
  · rw [if_neg zero]
    cases (directory.users.lookup user.id).filter fun user => !user.account.deleted with
    | none => exact .refl directory
    | some held => exact (spares_save low stored).trans (spares_reward (below_save low))

theorem manageUser_spares (administrator : Role.adminUser ≤ myRole) (ordinary : myRole ≠ Role.rootUser)
    (body : Option ManageForm) : Spares myRole directory (directory.manageUser policy myRole body).2 := by
  unfold manageUser
  cases body with
  | none => exact .refl directory
  | some form =>
    dsimp only
    cases loaded : directory.load form.id with
    | none => exact .refl directory
    | some user =>
      dsimp only
      split
      · exact .refl directory
      split
      · exact .refl directory
      case isFalse checked =>
        have low : user.role < myRole := not_le.mp fun high => checked ⟨high, ordinary⟩
        have stored := below_of_load loaded low
        split
        · split
          · exact .refl directory
          · have stays : user.removed.role < myRole := low
            have held : Below myRole directory.users user.removed.id := stored
            exact (spares_save stays held).trans (finish_spares stays (below_save stays))
        · cases managed : user.account.managed myRole (manageAction form.action) with
          | error refusal => exact .refl directory
          | ok account =>
            obtain ⟨own, role⟩ := managed_keeps managed
            have stays : account.role < myRole := by
              rcases role.resolve_left ordinary with same | common
              · exact same ▸ low
              · have gap : Role.commonUser < Role.adminUser := by decide
                exact common ▸ gap.trans_le administrator
            exact finish_spares stays (by rwa [show User.id { user with account } = user.id from own])

theorem deleteUser_spares (id : String) :
    Spares myRole directory (directory.deleteUser policy myRole id).2 := by
  unfold deleteUser
  cases atoi id with
  | none => exact .refl directory
  | some id =>
    dsimp only
    cases found : directory.getUserById id with
    | error refusal => exact .refl directory
    | ok origin =>
      dsimp only
      split
      · exact .refl directory
      case isFalse low => exact spares_delete (below_of_found (getUserById_ok found).1 (not_le.mp low))

theorem clearBinding_account {bindingType : String} {user cleared : User}
    (done : clearBinding bindingType user = some cleared) : cleared.account = user.account := by
  unfold clearBinding at done
  split at done
  all_goals
    cases done
    try rfl

theorem adminClearUserBinding_spares (ordinary : myRole ≠ Role.rootUser) (id bindingType : String) :
    Spares myRole directory (directory.adminClearUserBinding myRole id bindingType).2 := by
  unfold adminClearUserBinding
  cases atoi id with
  | none => exact .refl directory
  | some id =>
    dsimp only
    split
    · exact .refl directory
    cases found : directory.getUserById id with
    | error refusal => exact .refl directory
    | ok user =>
      dsimp only
      split
      · exact .refl directory
      case isFalse checked =>
        have low : user.role < myRole := not_le.mp fun high => checked ⟨high, ordinary⟩
        cases done : clearBinding (lower (trimSpace bindingType)) user with
        | none => exact .refl directory
        | some cleared =>
          have same := clearBinding_account done
          obtain ⟨stored, own⟩ := getUserById_ok found
          have role : cleared.role = user.role := congrArg Account.role same
          have named : cleared.id = id := (congrArg Account.id same).trans own
          exact spares_save (role ▸ low) (named ▸ below_of_found stored low)

theorem adminDisable2FA_spares (ordinary : myRole ≠ Role.rootUser) (id : String) :
    Spares myRole directory (directory.adminDisable2FA myRole id).2 := by
  unfold adminDisable2FA
  cases atoi id with
  | none => exact .refl directory
  | some id =>
    dsimp only
    cases found : directory.getUserById id with
    | error refusal => exact .refl directory
    | ok target =>
      dsimp only
      split
      · exact .refl directory
      case isFalse checked =>
        have low : target.role < myRole := not_le.mp fun high => checked ⟨high, ordinary⟩
        cases directory.twoFAs.lookup id with
        | none => exact .refl directory
        | some row =>
          refine spares_others (below_of_found (getUserById_ok found).1 low) fun other apart => ?_
          refine ⟨Table.lookup_restrict_other apart, ?_, rfl⟩
          rw [List.filter_filter]
          refine List.filter_congr fun code _ => ?_
          by_cases own : code.userId = other
          · simp [own, apart]
          · simp [own]

theorem adminResetPasskey_spares {id : String}
    (below : ∀ target, atoi id = some target → Below myRole directory.users target) :
    Spares myRole directory (directory.adminResetPasskey id).2 := by
  unfold adminResetPasskey
  cases parsed : atoi id with
  | none => exact .refl directory
  | some target =>
    dsimp only
    cases found : directory.getUserById target with
    | error refusal => exact .refl directory
    | ok user =>
      dsimp only
      cases directory.passkeys.lookup user.id with
      | none => exact .refl directory
      | some row =>
        have own := (getUserById_ok found).2
        refine spares_others (below target parsed) fun other apart => ⟨rfl, rfl, ?_⟩
        exact Table.lookup_restrict_other (own ▸ apart)

end

/-- The target of a reset has no role of `myRole` or higher. -/
def resetsBelow (myRole : Int) (directory : Directory) : Request → Bool
  | .adminResetPasskey id =>
    match (atoi id).bind directory.users.lookup with
    | some target => target.role < myRole
    | none => true
  | _ => true

theorem handle_spares {policy : Policy} {myRole : Int} {directory : Directory} {request : Request}
    (ordinary : myRole ≠ Role.rootUser) (resets : directory.resetsBelow myRole request = true) :
    Spares myRole directory (directory.handle policy myRole request).2 := by
  unfold handle
  split
  · exact .refl directory
  case isFalse passed =>
    have administrator : Role.adminUser ≤ myRole := not_lt.mp passed
    cases request with
    | updateUser body => exact updateUser_spares ordinary body
    | manageUser body => exact manageUser_spares administrator ordinary body
    | createUser newId body => exact createUser_spares administrator newId body
    | deleteUser id => exact deleteUser_spares id
    | adminClearUserBinding id bindingType => exact adminClearUserBinding_spares ordinary id bindingType
    | adminDisable2FA id => exact adminDisable2FA_spares ordinary id
    | adminResetPasskey id =>
      refine adminResetPasskey_spares fun target parsed user found => ?_
      unfold resetsBelow at resets
      dsimp only at resets
      rw [parsed, Option.bind_some, found] at resets
      exact of_decide_eq_true resets

/-- In every sequence of requests of an administrator, as long as they reset passkeys only
of users below them. -/
theorem hierarchy_respected (policy : Policy) {myRole : Int} (below : myRole < Role.rootUser)
    (start : Directory) (requests : List Request)
    (resets : Guarded (fun directory request => (directory.handle policy myRole request).2)
      (fun directory request => directory.resetsBelow myRole request = true) start requests) :
    let final := run (fun directory request => (directory.handle policy myRole request).2) start requests
    (∀ id user, start.users.lookup id = some user → myRole ≤ user.role →
        final.holding id = start.holding id) ∧
      ∀ id user, final.users.lookup id = some user → myRole ≤ user.role →
        start.users.lookup id = some user := by
  have spared : Spares myRole start
      (run (fun directory request => (directory.handle policy myRole request).2) start requests) :=
    Guarded.invariant
      (fun directory request sofar resets => sofar.trans (handle_spares below.ne resets)) (.refl start) resets
  exact ⟨spared.kept, spared.gained⟩

def plainPolicy : Policy where
  quotaForNewUser := 0
  studentApprovalRewardQuota := 0
  smsPhoneBlacklist := []
  password2Hash := .ok
  inputInvalid := fun _ => none
  validEmail := fun _ => true
  atoiError := fun _ => "invalid syntax"
  databaseError := fun _ _ => none

def userOf (id role : Int) (username : String) : User :=
  { User.unfilled id with account := { Account.unfilled id with username, role, status := UserStatus.enabled } }

def threeUsers : Directory where
  users := ⟨[userOf 1 Role.rootUser "root", userOf 2 Role.adminUser "admin", userOf 3 Role.commonUser "user"],
    by decide⟩
  twoFAs := ⟨[⟨1, "secret", true⟩], by decide⟩
  backupCodes := [⟨1, "hash", false⟩]
  passkeys := ⟨[⟨1, "credential", "key"⟩, ⟨3, "other", "key"⟩], by decide⟩

def fiveRequests : List Request :=
  [.adminResetPasskey "3", .manageUser (some ⟨1, "disable", 0⟩), .adminDisable2FA "1",
    .updateUser (some { id := 1, username := "taken" }),
    .createUser 4 (some { username := "new", password := "12345678" })]

theorem hierarchy_respected_threeUsers :
    let final := run (fun directory request => (handle plainPolicy directory Role.adminUser request).2)
      threeUsers fiveRequests
    final.holding 1 = threeUsers.holding 1 ∧ final.passkeys.lookup 3 = none ∧
      (final.users.lookup 4).map User.role = some Role.commonUser := by
  have below : Role.adminUser < Role.rootUser := by decide
  have respected := hierarchy_respected plainPolicy below threeUsers fiveRequests (by decide +kernel)
  exact ⟨respected.1 1 (userOf 1 Role.rootUser "root") (by decide +kernel) (by decide), by decide +kernel,
    by decide +kernel⟩

/-- An administrator resets the passkey of the root user. -/
theorem hierarchy_passkey_reset : (threeUsers.users.lookup 1).map User.role = some Role.rootUser ∧
      (threeUsers.handle plainPolicy Role.adminUser (.adminResetPasskey "1")).1 = .ok "Passkey 已重置" ∧
      (threeUsers.passkeys.lookup 1).isSome ∧
      (threeUsers.handle plainPolicy Role.adminUser (.adminResetPasskey "1")).2.passkeys.lookup 1 = none := by
  decide +kernel

end Directory

end TokenFactory.Auth
