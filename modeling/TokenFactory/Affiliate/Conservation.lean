import TokenFactory.Affiliate.Withdrawals
import TokenFactory.Data.Escrow

namespace TokenFactory.Affiliate

open Data Go

/-! What the calls do to the earnings of a user, over whole runs. -/

def Call.transferred : Call → Except String Unit → Int → Int
  | .transferAffQuotaToQuota userId quota, .ok (), id => if userId = id then quota else 0
  | _, _, _ => 0

/-- A withdrawal leaves the pending status; its owner and its amount stay. -/
structure Settles (withdrawal settled : DistributorWithdrawal) : Prop where
  id : settled.id = withdrawal.id
  userId : settled.userId = withdrawal.userId
  quotaAmount : settled.quotaAmount = withdrawal.quotaAmount
  pending : withdrawal.status = .pending
  left : settled.status ≠ .pending

/-- The changes of users and withdrawals, with what was transferred. -/
inductive Effect (db : Database) : Database → (Int → Int) → Prop where
  | nothing {after : Database} (users : after.users = db.users)
      (withdrawals : after.withdrawals = db.withdrawals) : Effect db after fun _ => 0
  | earn {after : Database} (id amount : Int) (positive : 0 < amount)
      (users : after.users = db.users.modify id (User.earn amount) (User.earn_id amount))
      (withdrawals : after.withdrawals = db.withdrawals) : Effect db after fun _ => 0
  | reserve {after : Database} (withdrawal : DistributorWithdrawal)
      (free : db.withdrawals.lookup withdrawal.id = none) (pending : withdrawal.status = .pending)
      (covered : ∀ user, db.users.lookup withdrawal.userId = some user → withdrawal.quotaAmount ≤ user.affQuota)
      (users : after.users = db.users.modify withdrawal.userId (User.reserve withdrawal.quotaAmount)
        (User.reserve_id withdrawal.quotaAmount))
      (withdrawals : after.withdrawals = db.withdrawals.insert withdrawal) : Effect db after fun _ => 0
  | approve {after : Database} (withdrawal settled : DistributorWithdrawal)
      (found : db.withdrawals.lookup settled.id = some withdrawal) (settles : Settles withdrawal settled)
      (approved : settled.status = .approved) (users : after.users = db.users)
      (withdrawals : after.withdrawals = db.withdrawals.save settled) : Effect db after fun _ => 0
  | refund {after : Database} (withdrawal settled : DistributorWithdrawal)
      (found : db.withdrawals.lookup settled.id = some withdrawal) (settles : Settles withdrawal settled)
      (released : settled.status ≠ .approved)
      (users : after.users = db.users.modify withdrawal.userId (User.refund withdrawal.quotaAmount)
        (User.refund_id withdrawal.quotaAmount))
      (withdrawals : after.withdrawals = db.withdrawals.save settled) : Effect db after fun _ => 0
  | transfer {after : Database} (user : User) (quota : Int) (found : db.users.lookup user.id = some user)
      (covered : quota ≤ user.affQuota) (users : after.users = db.users.save (user.transfer quota))
      (withdrawals : after.withdrawals = db.withdrawals) :
      Effect db after fun id => if user.id = id then quota else 0

section Calls
variable {platform : Platform} {db after : Database} {met : Circumstances}

theorem transaction_cases (db : Database) (body : Except String Database) :
    (∃ reason, db.transaction body = (.error reason, db)) ∨
      ∃ after, body = .ok after ∧ db.transaction body = (.ok (), after) := by
  cases body with
  | error reason => exact .inl ⟨reason, rfl⟩
  | ok after => exact .inr ⟨after, rfl, rfl⟩

theorem transaction_effect {body : Except String Database}
    (effect : ∀ after, body = .ok after → Effect db after fun _ => 0) :
    Effect db (db.transaction body).2 fun _ => 0 := by
  rcases transaction_cases db body with ⟨reason, ended⟩ | ⟨after, done, ended⟩ <;> rw [ended]
  · exact .nothing rfl rfl
  · exact effect after done

theorem updateUser_ok {id : Int} {change : User → User} {keeps : ∀ user, (change user).id = user.id}
    {missing : String} (done : db.updateUser id change keeps missing = .ok after) :
    after = { db with users := db.users.modify id change keeps } := by
  unfold Database.updateUser at done
  split at done
  · cases done
  rename_i user found
  exact (Except.ok.inj done).symm

theorem findWithdrawal_ok {withdrawalId : Int} {withdrawal : DistributorWithdrawal}
    (done : db.findWithdrawal met withdrawalId = .ok withdrawal) :
    db.withdrawals.lookup withdrawal.id = some withdrawal := by
  unfold Database.findWithdrawal at done
  split at done
  · rename_i found
    cases done
    rw [Table.key_of_lookup found, found]
  · cases done

theorem refundAffQuota_ok (withdrawal : DistributorWithdrawal)
    (done : db.distWithdrawRefundAffQuota met withdrawal.userId withdrawal.quotaAmount = .ok after) :
    after = { db with
      users := db.users.modify withdrawal.userId (User.refund withdrawal.quotaAmount)
        (User.refund_id withdrawal.quotaAmount) } := by
  have guard : ¬ (withdrawal.userId ≤ 0 ∨ withdrawal.quotaAmount ≤ 0) := by
    have := withdrawal.owned
    have := withdrawal.reserves
    omega
  rw [Database.distWithdrawRefundAffQuota, if_neg guard, bind_ok] at done
  obtain ⟨_, _, updated⟩ := done
  exact updateUser_ok updated

theorem creditDistributorProfitShare_effect {inviterId inviteeUserId channelId : Int} {modelName : String}
    {charged slice reward bps : Int} :
    Effect db (db.creditDistributorProfitShare met inviterId inviteeUserId channelId modelName charged slice
      reward bps).2 fun _ => 0 := by
  unfold Database.creditDistributorProfitShare
  split
  · exact .nothing rfl rfl
  refine transaction_effect fun after body => ?_
  simp only [bind_ok] at body
  obtain ⟨_, _, credited, updated, _, _, _, _, _, _, result⟩ := body
  rw [← Except.ok.inj result, updateUser_ok updated]
  exact .earn inviterId reward (by omega) rfl rfl

theorem increaseUserAffCommissionQuota_effect {inviterId delta : Int} :
    Effect db (db.increaseUserAffCommissionQuota met inviterId delta).2 fun _ => 0 := by
  unfold Database.increaseUserAffCommissionQuota
  split
  · exact .nothing rfl rfl
  refine transaction_effect fun after body => ?_
  rw [bind_ok] at body
  obtain ⟨_, _, updated⟩ := body
  rw [updateUser_ok updated]
  exact .earn inviterId delta (by omega) rfl rfl

theorem reserve_effect {form : CheckedForm} (done : db.reserve met form = .ok after) :
    Effect db after fun _ => 0 := by
  rw [Database.reserve, bind_ok] at done
  obtain ⟨_, _, done⟩ := done
  split at done
  · cases done
  rename_i user found
  obtain ⟨row, enough⟩ := Option.filter_eq_some_iff.mp found
  have named : user.id = form.userId := Table.key_of_lookup row
  simp only [bind_ok, refuseIf_ok, not_not] at done
  obtain ⟨_, _, _, free, _, _, result⟩ := done
  rw [← Except.ok.inj result]
  refine .reserve _ free rfl ?_ ?_ rfl
  · intro other same
    change db.users.lookup user.id = some other at same
    rw [named, row] at same
    cases same
    simpa using enough
  · simp only [named]

theorem createDistributorWithdrawal_effect {form : WithdrawalForm} {seen : Except String User} :
    Effect db (db.createDistributorWithdrawal met platform form seen).2 fun _ => 0 := by
  unfold Database.createDistributorWithdrawal
  split
  · exact .nothing rfl rfl
  · exact transaction_effect fun after body => reserve_effect body

theorem cancelDistributorWithdrawal_effect {userId withdrawalId : Int} :
    Effect db (db.cancelDistributorWithdrawal met userId withdrawalId).2 fun _ => 0 := by
  unfold Database.cancelDistributorWithdrawal
  refine transaction_effect fun after body => ?_
  simp only [bind_ok, refuseIf_ok, not_not] at body
  obtain ⟨withdrawal, found, _, rfl, _, pending, refunded, refund, _, _, result⟩ := body
  rw [← Except.ok.inj result, refundAffQuota_ok withdrawal refund]
  refine .refund withdrawal _ ?_ ?_ ?_ rfl rfl
  · exact findWithdrawal_ok found
  · exact ⟨rfl, rfl, rfl, pending, by simp⟩
  · simp

theorem approveDistributorWithdrawalAdmin_effect {withdrawalId reviewerId : Int} :
    Effect db (db.approveDistributorWithdrawalAdmin met withdrawalId reviewerId).2 fun _ => 0 := by
  unfold Database.approveDistributorWithdrawalAdmin
  refine transaction_effect fun after body => ?_
  simp only [bind_ok, refuseIf_ok, not_not] at body
  obtain ⟨withdrawal, found, _, pending, _, _, result⟩ := body
  rw [← Except.ok.inj result]
  refine .approve withdrawal _ ?_ ?_ ?_ rfl rfl
  · exact findWithdrawal_ok found
  · exact ⟨rfl, rfl, rfl, pending, by simp⟩
  · rfl

theorem rejectDistributorWithdrawalAdmin_effect {withdrawalId reviewerId : Int} {reason : String} :
    Effect db (db.rejectDistributorWithdrawalAdmin met withdrawalId reviewerId reason).2 fun _ => 0 := by
  unfold Database.rejectDistributorWithdrawalAdmin
  split
  · exact .nothing rfl rfl
  refine transaction_effect fun after body => ?_
  simp only [bind_ok, refuseIf_ok, not_not] at body
  obtain ⟨withdrawal, found, _, pending, refunded, refund, _, _, result⟩ := body
  rw [← Except.ok.inj result, refundAffQuota_ok withdrawal refund]
  refine .refund withdrawal _ ?_ ?_ ?_ rfl rfl
  · exact findWithdrawal_ok found
  · exact ⟨rfl, rfl, rfl, pending, by simp⟩
  · simp

theorem transferAffQuotaToQuota_effect {userId quota : Int} :
    Effect db (db.transferAffQuotaToQuota met platform userId quota).2
      ((Call.transferAffQuotaToQuota userId quota).transferred
        (db.transferAffQuotaToQuota met platform userId quota).1) := by
  unfold Database.transferAffQuotaToQuota
  split
  · exact .nothing rfl rfl
  rcases transaction_cases db _ with ⟨reason, ended⟩ | ⟨after, body, ended⟩
  · rw [ended]
    exact .nothing rfl rfl
  · rw [ended]
    rw [bind_ok] at body
    obtain ⟨_, _, body⟩ := body
    split at body
    · cases body
    rename_i user found
    simp only [bind_ok, refuseIf_ok, not_lt] at body
    obtain ⟨_, covered, _, _, _, _, result⟩ := body
    obtain rfl : user.id = userId := Table.key_of_lookup found
    rw [← Except.ok.inj result]
    exact .transfer user quota found covered rfl rfl

theorem handle_effect (call : Call) :
    Effect db (db.handle platform met call).2 (call.transferred (db.handle platform met call).1) := by
  cases call with
  | creditDistributorProfitShare => exact creditDistributorProfitShare_effect
  | increaseUserAffCommissionQuota => exact increaseUserAffCommissionQuota_effect
  | createDistributorWithdrawal => exact createDistributorWithdrawal_effect
  | cancelDistributorWithdrawal => exact cancelDistributorWithdrawal_effect
  | approveDistributorWithdrawalAdmin => exact approveDistributorWithdrawalAdmin_effect
  | rejectDistributorWithdrawalAdmin => exact rejectDistributorWithdrawalAdmin_effect
  | transferAffQuotaToQuota => exact transferAffQuotaToQuota_effect

end Calls

def DistributorWithdrawal.heldFor (userId : Int) (withdrawal : DistributorWithdrawal) : Int :=
  if withdrawal.userId = userId ∧ (withdrawal.status = .pending ∨ withdrawal.status = .approved) then
    withdrawal.quotaAmount
  else 0

/-- The quota amounts of the user's pending and approved withdrawals. -/
def Database.held (db : Database) (userId : Int) : Int :=
  db.withdrawals.sum (DistributorWithdrawal.heldFor userId)

/-- The tables, with the history of what was transferred for each user. -/
structure Books where
  db : Database
  transferred : Int → Int

def Books.step (platform : Platform) (books : Books) (event : Circumstances × Call) : Books :=
  let (answer, db) := books.db.handle platform event.1 event.2
  ⟨db, fun id => books.transferred id + event.2.transferred answer id⟩

def Books.account (books : Books) (user : User) : Escrow Int :=
  ⟨user.affQuota, books.db.held user.id, books.transferred user.id, user.affHistoryQuota⟩

/-- The account of `user` makes one move of the escrow. -/
def Books.Moves (books after : Books) (user : User) : Prop :=
  ∃ user' move, user'.id = user.id ∧ after.db.users.lookup user.id = some user' ∧
    (books.account user).Covers move ∧ after.account user' = (books.account user).apply move

theorem Books.Moves.idle {books after : Books} {user : User} (kept : after.db.users.lookup user.id = some user)
    (held : after.db.held user.id = books.db.held user.id)
    (transferred : after.transferred user.id = books.transferred user.id) : books.Moves after user := by
  refine ⟨user, .idle, rfl, kept, trivial, ?_⟩
  simp only [Books.account, held, transferred, Escrow.apply]

theorem heldFor_settled {withdrawal settled : DistributorWithdrawal} (settles : Settles withdrawal settled)
    (userId : Int) : settled.heldFor userId = withdrawal.heldFor userId -
      if withdrawal.userId = userId ∧ settled.status ≠ .approved then withdrawal.quotaAmount else 0 := by
  unfold DistributorWithdrawal.heldFor
  rw [settles.userId, settles.quotaAmount, settles.pending]
  have left := settles.left
  by_cases own : withdrawal.userId = userId
  · by_cases approved : settled.status = .approved <;> simp [own, approved, left]
  · simp [own]

theorem Effect.move {books : Books} {after : Database} {transferred : Int → Int}
    (effect : Effect books.db after transferred) {user : User}
    (found : books.db.users.lookup user.id = some user) :
    books.Moves ⟨after, fun id => books.transferred id + transferred id⟩ user := by
  cases effect with
  | nothing users withdrawals =>
    exact .idle (users ▸ found) (by simp only [Database.held, withdrawals]) (add_zero _)
  | earn id amount positive users withdrawals =>
    have held : after.held user.id = books.db.held user.id := by simp only [Database.held, withdrawals]
    by_cases own : user.id = id
    · refine ⟨user.earn amount, .earn amount, rfl, ?_, positive.le, ?_⟩
      · rw [users, Table.lookup_modify, if_pos own, found]
        rfl
      · simp only [Books.account, held, User.earn, add_zero, Escrow.apply]
    · refine .idle ?_ held (add_zero _)
      rw [users, Table.lookup_modify, if_neg own, found]
  | reserve withdrawal free pending covered users withdrawals =>
    have grown : after.held user.id = books.db.held user.id + withdrawal.heldFor user.id := by
      rw [Database.held, withdrawals, Table.sum_insert free]
      rfl
    by_cases own : user.id = withdrawal.userId
    · have amount : withdrawal.heldFor user.id = withdrawal.quotaAmount := by
        simp [DistributorWithdrawal.heldFor, own, pending]
      refine ⟨user.reserve withdrawal.quotaAmount, .hold withdrawal.quotaAmount, rfl, ?_,
        covered user (own ▸ found), ?_⟩
      · rw [users, Table.lookup_modify, if_pos own, found]
        rfl
      · simp only [Books.account, User.reserve, grown, amount, add_zero, Escrow.apply]
    · refine .idle ?_ (grown.trans (by simp [DistributorWithdrawal.heldFor, Ne.symm own])) (add_zero _)
      rw [users, Table.lookup_modify, if_neg own, found]
  | approve withdrawal settled stored settles approved users withdrawals =>
    refine .idle (users ▸ found) ?_ (add_zero _)
    rw [Database.held, withdrawals, Table.sum_save stored, heldFor_settled settles]
    simp [approved, Database.held]
  | refund withdrawal settled stored settles released users withdrawals =>
    have shrunk : after.held user.id = books.db.held user.id -
        if withdrawal.userId = user.id then withdrawal.quotaAmount else 0 := by
      rw [Database.held, withdrawals, Table.sum_save stored, heldFor_settled settles]
      simp only [released, ne_eq, not_false_eq_true, and_true, Database.held]
      omega
    by_cases own : user.id = withdrawal.userId
    · refine ⟨user.refund withdrawal.quotaAmount, .release withdrawal.quotaAmount, rfl, ?_,
        withdrawal.reserves.le, ?_⟩
      · rw [users, Table.lookup_modify, if_pos own, found]
        rfl
      · rw [if_pos own.symm] at shrunk
        simp only [Books.account, User.refund, shrunk, add_zero, Escrow.apply]
    · refine .idle ?_ (by rw [shrunk, if_neg (Ne.symm own), sub_zero]) (add_zero _)
      rw [users, Table.lookup_modify, if_neg own, found]
  | transfer payer quota stored covered users withdrawals =>
    have held : after.held user.id = books.db.held user.id := by simp only [Database.held, withdrawals]
    by_cases own : payer.id = user.id
    · obtain rfl : payer = user := by
        rw [own, found] at stored
        exact (Option.some.inj stored).symm
      refine ⟨payer.transfer quota, .spend quota, rfl, ?_, covered, ?_⟩
      · rw [users]
        exact Table.lookup_save_self stored rfl
      · simp only [Books.account, held, User.transfer, ↓reduceIte, Escrow.apply]
    · refine .idle ?_ held (by simp [own])
      rw [users, Table.lookup_save_other]
      · exact found
      · exact Ne.symm own

section Runs
variable (platform : Platform) (events : List (Circumstances × Call)) {start : Books}

theorem step_move {books : Books} {user : User} (found : books.db.users.lookup user.id = some user)
    (event : Circumstances × Call) : books.Moves (books.step platform event) user :=
  (handle_effect event.2).move found

theorem run_account {user : User} (found : start.db.users.lookup user.id = some user) :
    ∃ user', user'.id = user.id ∧ (run (Books.step platform) start events).db.users.lookup user.id = some user' ∧
      ((run (Books.step platform) start events).account user').excess = (start.account user).excess ∧
      (0 ≤ user.affQuota → 0 ≤ user'.affQuota) := by
  induction events generalizing start user with
  | nil => exact ⟨user, rfl, found, rfl, id⟩
  | cons event rest ih =>
    obtain ⟨next, move, same, there, covered, moved⟩ := step_move platform found event
    have stored : (start.step platform event).db.users.lookup next.id = some next := same.symm ▸ there
    obtain ⟨last, named, ends, excess, nonneg⟩ := ih stored
    refine ⟨last, named.trans same, same ▸ ends, ?_, fun before => nonneg ?_⟩
    · rw [run_cons, excess, moved, Escrow.excess_apply]
    · have available := Escrow.available_apply_nonneg covered before
      rw [← moved] at available
      exact available

def Database.isPending (db : Database) (withdrawalId : Int) : Bool :=
  (db.withdrawals.lookup withdrawalId).any fun withdrawal => withdrawal.status = .pending

/-- How often a withdrawal leaves the pending status in a run. -/
def departures (platform : Platform) (withdrawalId : Int) : Books → List (Circumstances × Call) → Nat
  | _, [] => 0
  | books, event :: rest =>
    let after := books.step platform event
    (if books.db.isPending withdrawalId ∧ ¬ after.db.isPending withdrawalId then 1 else 0) +
      departures platform withdrawalId after rest

variable {withdrawal : DistributorWithdrawal} {withdrawalId : Int}

theorem Effect.withdrawal_kept {db after : Database} {transferred : Int → Int}
    (effect : Effect db after transferred)
    (found : db.withdrawals.lookup withdrawalId = some withdrawal) :
    ∃ kept, after.withdrawals.lookup withdrawalId = some kept ∧
      (withdrawal.status ≠ .pending → kept = withdrawal) := by
  cases effect with
  | nothing users withdrawals | earn id amount positive users withdrawals
  | transfer payer quota stored covered users withdrawals =>
    exact ⟨withdrawal, withdrawals ▸ found, fun _ => rfl⟩
  | reserve added free pending covered users withdrawals =>
    have other : withdrawalId ≠ added.id := by
      rintro rfl
      rw [free] at found
      cases found
    refine ⟨withdrawal, ?_, fun _ => rfl⟩
    rw [withdrawals, Table.lookup_insert_other other, found]
  | approve old settled stored settles approved users withdrawals
  | refund old settled stored settles released users withdrawals =>
    by_cases same : withdrawalId = settled.id
    · refine ⟨settled, ?_, fun left => absurd ?_ left⟩
      · rw [withdrawals, same]
        exact Table.lookup_save_self stored rfl
      · rw [same, stored] at found
        cases found
        exact settles.pending
    · refine ⟨withdrawal, ?_, fun _ => rfl⟩
      rw [withdrawals, Table.lookup_save_other same, found]

theorem step_withdrawal (event : Circumstances × Call)
    (found : start.db.withdrawals.lookup withdrawalId = some withdrawal) :
    ∃ kept, (start.step platform event).db.withdrawals.lookup withdrawalId = some kept ∧
      (withdrawal.status ≠ .pending → kept = withdrawal) :=
  (handle_effect event.2).withdrawal_kept found

theorem departures_settled
    (found : start.db.withdrawals.lookup withdrawalId = some withdrawal) (left : withdrawal.status ≠ .pending) :
    departures platform withdrawalId start events = 0 := by
  induction events generalizing start with
  | nil => rfl
  | cons event rest ih =>
    obtain ⟨kept, there, same⟩ := step_withdrawal platform event found
    have next : departures platform withdrawalId (start.step platform event) rest = 0 :=
      ih (same left ▸ there)
    have settled : start.db.isPending withdrawalId = false := by
      simp [Database.isPending, found, left]
    simp only [departures, next, settled, Bool.false_eq_true, false_and, ↓reduceIte]

theorem departures_le_one (withdrawalId : Int) : departures platform withdrawalId start events ≤ 1 := by
  induction events generalizing start with
  | nil => exact Nat.zero_le 1
  | cons event rest ih =>
    unfold departures
    by_cases leaves : start.db.isPending withdrawalId = true ∧
        ¬ (start.step platform event).db.isPending withdrawalId = true
    · -- the row is still there and has another status, so nothing follows
      obtain ⟨pending, gone⟩ := leaves
      cases found : start.db.withdrawals.lookup withdrawalId with
      | none => simp [Database.isPending, found] at pending
      | some withdrawal =>
        obtain ⟨kept, there, _⟩ := step_withdrawal platform event found
        have left : kept.status ≠ .pending := by
          intro still
          exact gone (by simp [Database.isPending, there, still])
        have later : departures platform withdrawalId (start.step platform event) rest = 0 :=
          departures_settled platform rest there left
        simp only [later]
        split <;> omega
    · have later : departures platform withdrawalId (start.step platform event) rest ≤ 1 := ih
      simp only [leaves, ↓reduceIte]
      omega

end Runs

theorem one_positive : (0 : Int) < 1 := by decide

/-- A distributor who has earned 700 and has transferred 200 of it. -/
def distributor : User :=
  { id := 1, role := 1, isDistributor := 1, quota := 200, affQuota := 500, affHistoryQuota := 700
    positive := one_positive }

theorem distributor_unique : ([distributor].map User.id).Nodup := List.nodup_singleton 1

def oneDistributor : Books where
  db := ⟨⟨[distributor], distributor_unique⟩, Table.empty, Table.empty, []⟩
  transferred := fun _ => 200

def filledProfile : DistributorWithdrawalProfile :=
  { idCardNo := "110", idCardExpiry := "2030", mobile := "1", bankReservedPhone := "1", idCardFrontUrl := "a"
    idCardBackUrl := "b", bankCardPhotoUrl := "c", invoiceUrl := "d" }

def smallPlatform : Platform where
  quotaPerUnit := 100
  distributorMinWithdrawQuota := ""
  unmarshal := fun _ => some filledProfile
  marshal := fun _ => .ok "profile"
  logQuota := fun _ => "1"

def undisturbed (newId : Int) (call : Call) : Circumstances × Call := (⟨0, "2026-01", newId, fun _ => none⟩, call)

def withdrawal300 : Call :=
  .createDistributorWithdrawal ⟨1, 1, "name", "bank", "account", "profile", "", "", 300⟩ (.ok distributor)

def withdrawTwice : List (Circumstances × Call) :=
  [undisturbed 1 withdrawal300, undisturbed 0 (.cancelDistributorWithdrawal 1 1), undisturbed 2 withdrawal300,
    undisturbed 0 (.approveDistributorWithdrawalAdmin 2 9), undisturbed 0 (.transferAffQuotaToQuota 1 100)]

end TokenFactory.Affiliate
